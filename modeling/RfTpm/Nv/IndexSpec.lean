import RfTpm.Nv.FlushSpec

/-!
# Looking up an index

`NvGetIndexInfo()` fills the cache with the current description of an index: the one
stored in NV, with the attributes from RAM if the index is orderly.  Commands then
work on the cache; `Cached` says which slot it is of.
-/

namespace RfTpm

open TpmaNv

variable {s : Nv} {ts pre post : List Slot} {t : Slot} {x : NvIndex} {maxCount : UInt64}

/-- The current attributes of a slot: in NV for a plain index, in RAM for an orderly
one. -/
def Slot.attributes : Slot → TpmaNv
  | .plain p => p.info.attributes
  | .orderly o => o.live.attributes
  | .evict _ => 0

lemma Slot.static_attributes (hx : t.info? = some x) :
    t.attributes.static = x.attributes.static := by
  obtain ⟨p, rfl, rfl⟩ | ⟨o, rfl, rfl⟩ := Slot.plain_or_orderly hx
  · rfl
  · exact o.matches_live.static

/-- The RAM reference of a slot after the slots `pre`. -/
def ramRef (pre : List Slot) (t : Slot) : Option ℕ := t.live.map fun _ => ramSize (liveRam pre)

/-- Set the cache. -/
def Nv.setCache (s : Nv) (nvIndex : NvIndex) (ref : ℕ) (ramRef : Option ℕ) : Nv :=
  { s with cachedNvIndex := nvIndex, cachedNvRef := ref, cachedNvRamRef := ramRef }

lemma Rep.setCache (h : Rep s ts maxCount) (nvIndex : NvIndex) (ref : ℕ) (r : Option ℕ) :
    Rep (s.setCache nvIndex ref r) ts maxCount := { h with }

lemma Frame.setCache (s : Nv) (nvIndex : NvIndex) (ref : ℕ) (r : Option ℕ) :
    Frame s (s.setCache nvIndex ref r) := { Frame.refl s with }

lemma nvGetIndexInfo_found (h : Rep s (pre ++ t :: post) maxCount) (hx : t.info? = some x)
    (hcache : s.cachedNvIndex.handle ≠ x.handle) :
    nvGetIndexInfo x.handle s =
      (some (x.withAttributes t.attributes, listEnd (entries pre) + 4),
        s.setCache (x.withAttributes t.attributes) (listEnd (entries pre) + 4) (ramRef pre t)) := by
  have hfind : nvFindHandle x.handle s = (listEnd (entries pre) + 4, s) := by
    rw [← t.handle_of_info hx]
    exact h.find
  have hcache' : s.cachedNvIndex.publicArea.nvIndex ≠ x.handle := hcache
  have hinfo := nvReadNvIndexInfo_eq
    (h.setCache s.cachedNvIndex.unassigned (listEnd (entries pre) + 4) none) hx
  have hattr : x.publicArea.attributes = x.attributes := rfl
  simp only [Nv.setCache] at hinfo
  obtain ⟨p, rfl, rfl⟩ | ⟨o, rfl, rfl⟩ := Slot.plain_or_orderly hx
  · have ho : p.info.attributes.isSet ORDERLY = false := p.not_orderly
    simp [nvGetIndexInfo, hcache', hfind, hinfo, hattr, ho, setCachedNvIndex, Nv.setCache,
      Slot.attributes, ramRef]
  · have ho : o.info.attributes.isSet ORDERLY = true := o.orderly
    have hram : nvRamGetIndex o.info.handle _ = _ :=
      (h.setCache o.info (listEnd (entries pre) + 4) none).findRam
    have hread := nvReadRamIndexAttributes_eq
      (h.setCache o.info (listEnd (entries pre) + 4) none).ram_split
    simp only [Nv.setCache] at hram hread
    simp [nvGetIndexInfo, hcache', hfind, hinfo, hattr, ho, setCachedNvIndex, Nv.setCache,
      Slot.attributes, ramRef, hram, hread]

lemma nvGetIndexInfo_none (h : Rep s ts maxCount) {handle : TpmHandle}
    (hh : handle ∉ slotHandles ts) (hcache : s.cachedNvIndex.handle ≠ handle) :
    nvGetIndexInfo handle s = (none, s.setCache s.cachedNvIndex.unassigned 0 none) := by
  have hcache' : s.cachedNvIndex.publicArea.nvIndex ≠ handle := hcache
  simp [nvGetIndexInfo, hcache', h.find_none hh, Nv.setCache]

lemma Slot.exists_info (h : isIndexHandle t.handle = true) : ∃ x, t.info? = some x := by
  cases t with
  | plain p => exact ⟨p.info, rfl⟩
  | orderly o => exact ⟨o.info, rfl⟩
  | evict e =>
    exact absurd e.isPersistent (handleGetType_ne_persistent h)

end RfTpm
