import RfTpm.Nv.History

/-!
# The dynamic area refines a finite map

The abstract object is a finite map from handles to entries, kept as a list without
repeated handles in the order of insertion.  `MapStep` is its specification: adding
appends one entry, deleting removes the entry of a handle, flushing removes the
selected ones, and a call that reports an error changes nothing.

`nvParse` reads the image the way the code does, entry by entry with `NvNext()`.
`Represents` relates an image to a map through it.
-/

namespace RfTpm

open Bytes Packed

/-- Walk the dynamic area with `NvNext()`, collecting each entry's handle and its bytes
from its size word to the next entry, and the address the walk ends at. -/
def nvParseFrom : ℕ → ℕ → NvM (List (TpmHandle × Bytes) × ℕ)
  | 0, iter => pure ([], iter)
  | fuel + 1, iter => do
      let found ← nvNext iter
      match found with
      | none => pure ([], iter)
      | some (node, next) => do
          let nv ← NvM.gets (·.nv)
          let rest ← nvParseFrom fuel next
          pure ((node.handle, nv.read iter (next - iter)) :: rest.1, rest.2)

/-- The entries of the dynamic area as `NvNext()` finds them. -/
def nvParse : NvM (List (TpmHandle × Bytes) × ℕ) :=
  nvParseFrom NV_MEMORY_SIZE NV_USER_DYNAMIC

/-- An entry that `NvFlushHierarchy()` selects. -/
def flushesEntry (hierarchy : TpmHandle) : NvEntry → Bool
  | .index x => flushesIndex hierarchy x.info
  | .evict e => flushBit hierarchy e.object.attributes

/-- The specification: the map before and after a call, and its result. -/
inductive MapStep : AllocOp → TpmRc → List NvEntry → List NvEntry → Prop where
  | refused {op : AllocOp} {rc : TpmRc} {es : List NvEntry} (h : rc ≠ TPM_RC_SUCCESS) :
      MapStep op rc es es
  | define {publicArea : TpmsNvPublic} {authValue : Tpm2b} {es : List NvEntry} {x : IndexEntry}
      (h : x.info = ⟨publicArea, authValue⟩) :
      MapStep (.defineIndex publicArea authValue) TPM_RC_SUCCESS es (es ++ [.index x])
  | addEvict {evictHandle : TpmHandle} {object : Object} {es : List NvEntry} {e : EvictEntry}
      (hhandle : e.handle = evictHandle) (hobject : e.object = object.evicted evictHandle) :
      MapStep (.addEvictObject evictHandle object) TPM_RC_SUCCESS es (es ++ [.evict e])
  | deleteIndex {pre post : List NvEntry} {x : IndexEntry} :
      MapStep (.deleteIndex x.info.handle) TPM_RC_SUCCESS (pre ++ .index x :: post) (pre ++ post)
  | deleteEvict {pre post : List NvEntry} {e : EvictEntry} :
      MapStep (.deleteEvict e.handle) TPM_RC_SUCCESS (pre ++ .evict e :: post) (pre ++ post)
  | absentIndex {handle : TpmHandle} {es : List NvEntry} (h : handle ∉ handles es) :
      MapStep (.deleteIndex handle) TPM_RC_SUCCESS es es
  | absentEvict {handle : TpmHandle} {es : List NvEntry} (h : handle ∉ handles es) :
      MapStep (.deleteEvict handle) TPM_RC_SUCCESS es es
  | flush {hierarchy : TpmHandle} {es : List NvEntry} :
      MapStep (.flushHierarchy hierarchy) TPM_RC_SUCCESS es
        (es.filter fun e => !flushesEntry hierarchy e)

/-- The image of `s` represents the map `es`. -/
structure Represents (s : Nv) (es : List NvEntry) : Prop where
  /-- `NvNext()` finds exactly the entries of the map, in order, and no assertion fails. -/
  parses : nvParse s = ((es.map fun e => (e.handle, e.bytes), listEnd es), s)
  distinct : (handles es).Nodup
  /-- The list ends in a zero size word followed by `s_maxCounter`. -/
  terminated : s.nv.HasAt (listEnd es) (leBytes 4 0 ++ leBytes 8 s.maxCounter.toNat)
  inside : listEnd es + NV_LIST_TERMINATOR_SIZE ≤ s.evictNvEnd
  /-- `NvFindHandle()` returns the address of the entry of a handle in the map. -/
  find : ∀ pre e post, es = pre ++ e :: post → nvFindHandle e.handle s = (listEnd pre + 4, s)
  /-- `NvFindHandle()` returns 0 for a handle that is not in the map. -/
  find_none : ∀ handle, handle ∉ handles es → nvFindHandle handle s = (0, s)

variable {s : Nv} {ts ts' : List Slot} {es : List NvEntry} {maxCount : UInt64}

lemma nvParseFrom_eq {a fuel : ℕ}
    (h : s.nv.HasAt a (flat NvEntry.bytes es ++ terminator maxCount))
    (hfits : a + nvSize es + NV_LIST_TERMINATOR_SIZE ≤ NV_MEMORY_SIZE)
    (hfuel : es.length < fuel) :
    nvParseFrom fuel a s = ((es.map fun e => (e.handle, e.bytes), a + nvSize es), s) := by
  induction es generalizing a fuel with
  | nil =>
    cases fuel with
    | zero => simp at hfuel
    | succ fuel =>
      cases nvNext_chain h hfits with
      | nil hnext => simp [nvParseFrom, hnext]
  | cons e es ih =>
    cases fuel with
    | zero => simp at hfuel
    | succ fuel =>
      rw [flat_cons, List.append_assoc, Mem.hasAt_append, NvEntry.length_bytes] at h
      rw [nvSize_cons, ← Nat.add_assoc] at hfits ⊢
      have hnext : nvNext a s = (some (⟨a + 4, e.handle⟩, a + e.entrySize), s) := by
        have hge := e.le_entrySize
        exact nvNext_entry h.1 (by omega)
      have hread : s.nv.read a e.entrySize = e.bytes := h.1.read' e.length_bytes.symm
      have hrest := ih h.2 hfits (by simpa using hfuel)
      simp [nvParseFrom, hnext, hread, hrest]

lemma Rep.represents (h : Rep s ts s.maxCounter) : Represents s (entries ts) where
  parses := by
    have hlen := h.dyn.length_lt
    exact nvParseFrom_eq h.dyn.hasAt h.dyn.fits (by omega)
  distinct := by
    rw [handles_entries]
    exact h.nodup
  terminated := h.dyn.hasTerminator
  inside := by
    rw [h.evictEnd]
    exact h.dyn.fits
  find := by
    intro pre e post hes
    have hrep : DynRep s.nv (pre ++ e :: post) s.maxCounter := hes ▸ h.dyn
    refine nvFindHandle_of_split hrep fun hmem => ?_
    have hnodup := h.nodup
    rw [← handles_entries, hes, handles, List.map_append, List.nodup_append] at hnodup
    exact hnodup.2.2 _ hmem _ (by simp) rfl
  find_none := by
    intro handle hh
    exact nvFindHandle_of_not_mem h.dyn hh

lemma flushes_eq_entry (hierarchy : TpmHandle) (t : Slot) :
    flushes hierarchy t = flushesEntry hierarchy t.entry := by
  cases t <;> rfl

lemma TableStep.mapStep {op : AllocOp} {rc : TpmRc} (h : TableStep op rc ts ts') :
    MapStep op rc (entries ts) (entries ts') := by
  cases h with
  | refused h => exact .refused h
  | @defined publicArea authValue ts t h fits ramFits =>
    cases t with
    | evict e => exact h.elim
    | plain p => simpa using MapStep.define (x := p.toIndexEntry) h
    | orderly o => simpa using MapStep.define (x := o.toIndexEntry) h.1
  | added htype fits =>
    simpa [evictSlot] using MapStep.addEvict (e := ⟨_, _, htype⟩) rfl rfl
  | @deletedIndex pre post t x hx =>
    obtain ⟨p, rfl, rfl⟩ | ⟨o, rfl, rfl⟩ := Slot.plain_or_orderly hx
    · simpa using MapStep.deleteIndex (x := p.toIndexEntry)
    · simpa using MapStep.deleteIndex (x := o.toIndexEntry)
  | deletedEvict => simpa using MapStep.deleteEvict
  | absentIndex h => exact .absentIndex (by rwa [handles_entries])
  | absentEvict h => exact .absentEvict (by rwa [handles_entries])
  | @flushed hierarchy ts =>
    have hfilter : entries (RfTpm.flushed hierarchy ts) =
        (entries ts).filter fun e => !flushesEntry hierarchy e := by
      simp only [entries, RfTpm.flushed, List.filter_map, flushes_eq_entry]
      rfl
    rw [hfilter]
    exact .flush

lemma Represents.handles_eq {es' : List NvEntry} (h : Represents s es) (h' : Represents s es') :
    handles es = handles es' := by
  have hparse := congrArg (fun r => r.1.1.map Prod.fst) (h.parses.symm.trans h'.parses)
  simpa [handles, Function.comp_def] using hparse

end RfTpm
