import RfTpm.Nv.UpdateSpec

/-!
# Loops over the two lists

`NvSetGlobalLock()` and `NvEntityStartup()` each make two passes: one over the indices
in NV, which changes the plain ones, and one over the RAM entries, which changes the
orderly ones.  On the table each pass is a map (`Slot.updatePlain`,
`Slot.updateLive`).

The pass over NV sees only the indices of type `TPM_HT_NV_INDEX`; the pass over the RAM
sees every orderly index.
-/

namespace RfTpm

open Bytes Packed TpmaNv List

variable {s s' : Nv} {ts pre post : List Slot} {t : Slot} {maxCount : UInt64}

/-! ## Updates of a whole table -/

/-- A change of attributes that keeps the fixed ones. -/
structure AttrUpdate where
  toFun : TpmaNv → TpmaNv
  static_toFun : ∀ a, (toFun a).static = a.static

/-- A change of RAM entries that keeps what they belong to. -/
structure RamUpdate where
  toFun : RamEntry → RamEntry
  handle_toFun : ∀ r, (toFun r).handle = r.handle
  length_toFun : ∀ r, (toFun r).data.length = r.data.length
  static_toFun : ∀ r, (toFun r).attributes.static = r.attributes.static

lemma RamUpdate.matches_toFun (g : RamUpdate) {x : NvIndex} {r : RamEntry} (h : Matches x r) :
    Matches x (g.toFun r) :=
  ⟨(g.handle_toFun r).trans h.handle, (g.length_toFun r).trans h.length_data,
    (g.static_toFun r).trans h.static⟩

namespace Slot

/-- Update the attributes of a plain index that the pass over NV sees. -/
def updatePlain (f : AttrUpdate) : Slot → Slot
  | plain p =>
    if handleGetType p.info.handle = TPM_HT_NV_INDEX then
      plain (p.withAttributes (f.toFun p.info.attributes) (f.static_toFun _))
    else
      plain p
  | orderly o => orderly o
  | evict e => evict e

/-- Update the RAM entry of an orderly index. -/
def updateLive (g : RamUpdate) : Slot → Slot
  | plain p => plain p
  | orderly o => orderly (o.withLive _ (g.matches_toFun o.matches_live))
  | evict e => evict e

lemma entrySize_updatePlain (f : AttrUpdate) (t : Slot) :
    (t.updatePlain f).entry.entrySize = t.entry.entrySize := by
  cases t with
  | plain p =>
    simp only [updatePlain]
    split
    · simp only [entry_plain, NvEntry.entrySize_index]
      rw [← IndexEntry.length_data, ← IndexEntry.length_data]
      rfl
    · rfl
  | orderly o => rfl
  | evict e => rfl

lemma entry_updateLive (g : RamUpdate) (t : Slot) : (t.updateLive g).entry = t.entry := by
  cases t <;> rfl

lemma saved_updateLive (g : RamUpdate) (t : Slot) : (t.updateLive g).saved = t.saved := by
  cases t <;> rfl

lemma live_updateLive (g : RamUpdate) (t : Slot) :
    (t.updateLive g).live = t.live.map g.toFun := by
  cases t <;> rfl

end Slot

lemma entries_updateLive (g : RamUpdate) (ts : List Slot) :
    entries (ts.map (Slot.updateLive g)) = entries ts := by
  simp [entries, Slot.entry_updateLive]

lemma savedRam_updateLive (g : RamUpdate) (ts : List Slot) :
    savedRam (ts.map (Slot.updateLive g)) = savedRam ts := by
  simp [savedRam, filterMap_map, Slot.saved_updateLive]

lemma liveRam_updateLive (g : RamUpdate) (ts : List Slot) :
    liveRam (ts.map (Slot.updateLive g)) = (liveRam ts).map g.toFun := by
  simp [liveRam, filterMap_map, Slot.live_updateLive, map_filterMap]

lemma slotHandles_map {f : Slot → Slot} (h : ∀ t, (f t).handle = t.handle) (ts : List Slot) :
    slotHandles (ts.map f) = slotHandles ts := by
  simp [slotHandles, h]

/-! ## The pass over NV -/

lemma Rep.chainFrom (h : Rep s (pre ++ post) maxCount) :
    Chain nvNext s (listEnd (entries pre)) (nvNodes (listEnd (entries pre)) (entries post))
      (listEnd (entries pre) + nvSize (entries post)) := by
  have hnv := h.dyn.hasAt
  have hfits := h.dyn.fits
  rw [entries_append, flat_append, append_assoc, Mem.hasAt_append, length_flat] at hnv
  rw [entries_append, listEnd_append] at hfits
  exact nvNext_chain hnv.2 hfits

lemma Rep.fuelFrom (h : Rep s (pre ++ post) maxCount) (a : ℕ) :
    (nvNodes a (entries post)).length < NV_MEMORY_SIZE := by
  have hlen := h.dyn.length_lt
  rw [entries_append, length_append] at hlen
  rw [length_nvNodes]
  omega

lemma not_index_of_mem_nvNodes {a : ℕ}
    (h : ∀ u ∈ ts, handleGetType u.handle ≠ TPM_HT_NV_INDEX) {n : NvNode × ℕ}
    (hn : n ∈ nvNodes a (entries ts)) : handleGetType n.1.handle ≠ TPM_HT_NV_INDEX := by
  have hmem := handle_mem_of_mem_nvNodes hn
  rw [handles_entries] at hmem
  obtain ⟨u, hu, heq⟩ := mem_map.1 hmem
  exact heq ▸ h u hu

lemma nvNextIndex_split {skip : List Slot} (h : Rep s (pre ++ (skip ++ t :: post)) maxCount)
    (hskip : ∀ u ∈ skip, handleGetType u.handle ≠ TPM_HT_NV_INDEX)
    (ht : handleGetType t.handle = TPM_HT_NV_INDEX) :
    nvNextIndex (listEnd (entries pre)) s =
      (some (⟨listEnd (entries (pre ++ skip)) + 4, t.handle⟩,
        listEnd (entries (pre ++ skip)) + t.entry.entrySize), s) := by
  have hchain := h.chainFrom
  have hfuel := h.fuelFrom (listEnd (entries pre))
  have hnodes : nvNodes (listEnd (entries pre)) (entries (skip ++ t :: post)) =
      nvNodes (listEnd (entries pre)) (entries skip) ++
        (⟨listEnd (entries (pre ++ skip)) + 4, t.handle⟩,
          listEnd (entries (pre ++ skip)) + t.entry.entrySize) ::
        nvNodes (listEnd (entries (pre ++ skip)) + t.entry.entrySize) (entries post) := by
    simp [nvNodes, nodes_append, nodes, listEnd, nvSize, Slot.handle, Nat.add_assoc]
  rw [hnodes] at hchain hfuel
  have hw := walk_chain_some (p := fun n => handleGetType n.handle == TPM_HT_NV_INDEX) _ hchain
    hfuel (fun n hn => ?_) (by simp [ht])
  · simp only [nvNextIndex, nvNextByType, Iter.filter]
    rw [hw]
  · simpa using not_index_of_mem_nvNodes hskip hn

lemma nvNextIndex_last (h : Rep s (pre ++ post) maxCount)
    (hskip : ∀ u ∈ post, handleGetType u.handle ≠ TPM_HT_NV_INDEX) :
    nvNextIndex (listEnd (entries pre)) s = (none, s) := by
  have hw := walk_chain_none h.chainFrom (h.fuelFrom _) (p := fun n =>
    handleGetType n.handle == TPM_HT_NV_INDEX) fun n hn => ?_
  · simp only [nvNextIndex, nvNextByType, Iter.filter]
    rw [hw]
  · simpa using not_index_of_mem_nvNodes hskip hn

/-- The rule for a loop over the indices in NV whose body replaces the slot it visits.
The body goes on with `K`, or leaves the loop with `Q`. -/
lemma nvForEach_index {α : Type} (body : NvNode → α → NvM (α × Bool)) {f : Slot → Slot}
    {K Q : α → Nv → Prop}
    (hsize : ∀ t, (f t).entry.entrySize = t.entry.entrySize)
    (hskip : ∀ t : Slot, handleGetType t.handle ≠ TPM_HT_NV_INDEX → f t = t)
    (hbody : ∀ pre t post x s, Rep s (pre ++ t :: post) maxCount →
      handleGetType t.handle = TPM_HT_NV_INDEX → K x s →
      ∃ x' c s', body ⟨listEnd (entries pre) + 4, t.handle⟩ x s = ((x', c), s') ∧
        (c = true ∧ Rep s' (pre ++ f t :: post) maxCount ∧ K x' s' ∨ c = false ∧ Q x' s'))
    (h : Rep s ts maxCount) {x : α} (hK : K x s) :
    ∃ x' s', nvForEach nvNextIndex body x s = (x', s') ∧
      (Rep s' (ts.map f) maxCount ∧ K x' s' ∨ Q x' s') := by
  -- `todo` is what is left of the table from the iterator on; `gs` the indices in it
  let I : List Slot → ℕ → α → Nv → Prop := fun gs a x s => ∃ done todo, ts = done ++ todo ∧
    Rep s (done.map f ++ todo) maxCount ∧ a = listEnd (entries (done.map f)) ∧
    gs = todo.filter (fun t => handleGetType t.handle == TPM_HT_NV_INDEX) ∧ K x s
  let Post : α → Nv → Prop := fun x s => Rep s (ts.map f) maxCount ∧ K x s ∨ Q x s
  have hI : I _ NV_USER_DYNAMIC x s := ⟨[], ts, rfl, h, rfl, rfl, hK⟩
  suffices hpost : Post (nvForEach nvNextIndex body x s).1 (nvForEach nvNextIndex body x s).2 from
    ⟨_, _, Prod.mk.eta.symm, hpost⟩
  have hmap : ∀ us : List Slot, (∀ u ∈ us, handleGetType u.handle ≠ TPM_HT_NV_INDEX) →
      us.map f = us := by
    intro us hus
    conv_rhs => rw [← map_id us]
    exact map_congr_left fun u hu => hskip u (hus u hu)
  refine @loop_rule Nv NvNode α nvNextIndex Slot body I Post ?_ ?_ _ NV_MEMORY_SIZE
    NV_USER_DYNAMIC x s ?_ hI
  · rintro a x s ⟨done, todo, rfl, hrep, rfl, hgs, hK⟩
    have hnone : ∀ u ∈ todo, handleGetType u.handle ≠ TPM_HT_NV_INDEX := by
      intro u hu heq
      have hmem : u ∈ todo.filter (fun t => handleGetType t.handle == TPM_HT_NV_INDEX) :=
        mem_filter.2 ⟨hu, by simpa using heq⟩
      rw [← hgs] at hmem
      cases hmem
    refine ⟨nvNextIndex_last hrep hnone, .inl ⟨?_, hK⟩⟩
    rwa [map_append, hmap todo hnone]
  · rintro t gs a x s ⟨done, todo, rfl, hrep, rfl, hgs, hK⟩
    obtain ⟨skip, post, rfl, hpass, ht, hrest⟩ := filter_eq_cons_iff.1 hgs.symm
    have hpass' : ∀ u ∈ skip, handleGetType u.handle ≠ TPM_HT_NV_INDEX :=
      fun u hu => by simpa using hpass u hu
    have ht' : handleGetType t.handle = TPM_HT_NV_INDEX := by simpa using ht
    refine ⟨_, _, nvNextIndex_split hrep hpass' ht', ?_⟩
    rw [← append_assoc] at hrep
    obtain ⟨x', c, s', hrun, hres⟩ := hbody _ _ _ x s hrep ht' hK
    rw [hrun]
    rcases hres with ⟨rfl, hrep', hK'⟩ | ⟨rfl, hQ⟩
    · refine .inl ⟨rfl, done ++ skip ++ [t], post, by simp, ?_, ?_, hrest.symm, hK'⟩
      · simpa [hmap skip hpass'] using hrep'
      · simp [hmap skip hpass', listEnd_append, hsize, Nat.add_assoc]
    · exact .inr ⟨rfl, .inr hQ⟩
  · refine lt_of_le_of_lt (length_filter_le ..) ?_
    have hlen := h.dyn.length_lt
    rw [entries, length_map] at hlen
    omega

/-! ## The pass over the RAM -/

lemma RamRep.chainFrom {rs rs' : List RamEntry} (h : RamRep s.indexOrderlyRam (rs ++ rs')) :
    ∃ e, Chain nvRamNext s (ramSize rs) (ramNodes (ramSize rs) rs') e := by
  have hram := h.hasAt
  rw [flat_append, Mem.hasAt_append, length_flat, Nat.zero_add] at hram
  have hfits := h.fits
  have hstops := h.stops
  rw [ramSize_append] at hfits hstops
  exact ⟨_, nvRamNext_chain hram.2 hfits hstops⟩

/-- The rule for a loop over the RAM whose body replaces the entry it visits and touches
nothing else.  Of the entries it may assume `P`. -/
lemma nvRamForEach_eq (body : NvNode → Unit → NvM (Unit × Bool)) {g : RamEntry → RamEntry}
    {rs : List RamEntry} {P : RamEntry → Prop} (hsize : ∀ r, (g r).entrySize = r.entrySize)
    (hP : ∀ r ∈ rs, P r)
    (hbody : ∀ pre r post ram, RamRep ram (pre ++ r :: post) → P r →
      ∃ ram', body ⟨ramSize pre, r.handle⟩ () (s.setRam ram) = (((), true), s.setRam ram') ∧
        RamRep ram' (pre ++ g r :: post)) (h : RamRep s.indexOrderlyRam rs) :
    ∃ ram', nvRamForEach body s = ((), s.setRam ram') ∧ RamRep ram' (rs.map g) := by
  let I : List RamEntry → ℕ → Unit → Nv → Prop := fun todo a _ s' => ∃ done ram,
    rs = done ++ todo ∧ s' = s.setRam ram ∧ RamRep ram (done.map g ++ todo) ∧
      a = ramSize (done.map g)
  let Post : Unit → Nv → Prop := fun _ s' => ∃ ram', s' = s.setRam ram' ∧ RamRep ram' (rs.map g)
  have hI : I rs 0 () s := ⟨[], s.indexOrderlyRam, rfl, rfl, h, rfl⟩
  suffices hpost : Post (nvRamForEach body s).1 (nvRamForEach body s).2 by
    obtain ⟨ram', heq, hrep⟩ := hpost
    exact ⟨ram', Prod.ext rfl heq, hrep⟩
  refine @loop_rule Nv NvNode Unit nvRamNext RamEntry body I Post ?_ ?_ _ RAM_INDEX_SPACE
    0 () s ?_ hI
  · rintro a - s' ⟨done, ram, hrs, rfl, hrep, rfl⟩
    rw [append_nil] at hrs hrep
    have hrep' : RamRep (s.setRam ram).indexOrderlyRam (done.map g ++ []) := by simpa using hrep
    obtain ⟨e, hchain⟩ := hrep'.chainFrom
    refine ⟨?_, ram, rfl, hrs ▸ hrep⟩
    cases hchain with
    | nil h => exact h
  · rintro r todo a - s' ⟨done, ram, rfl, rfl, hrep, rfl⟩
    have hrep' : RamRep (s.setRam ram).indexOrderlyRam (done.map g ++ r :: todo) := hrep
    have hnext := nvRamNext_entry hrep'.entry hrep'.entry_end_le
    obtain ⟨ram', hrun, hram'⟩ := hbody _ _ _ ram hrep (hP r (by simp))
    refine ⟨_, _, hnext, .inl ?_⟩
    rw [hrun]
    refine ⟨rfl, done ++ [r], ram', by simp, rfl, by simpa using hram', ?_⟩
    simp [hsize]
  · have hfuel := h.fuel
    rwa [length_ramNodes] at hfuel

lemma Rep.updateLive (h : Rep s ts maxCount) (g : RamUpdate) {ram : Mem}
    (hram : RamRep ram ((liveRam ts).map g.toFun)) :
    Updates s (s.setRam ram) (ts.map (Slot.updateLive g)) maxCount where
  rep :=
    { dyn := by
        rw [entries_updateLive]
        exact h.dyn
      ram := by
        rw [liveRam_updateLive]
        exact hram
      backup := by
        rw [savedRam_updateLive]
        exact h.backup
      nodup := by
        rw [slotHandles_map fun t => congrArg NvEntry.handle (t.entry_updateLive g)]
        exact h.nodup
      evictEnd := h.evictEnd }
  frame := Frame.setRam ..
  failure := rfl
  maxCounter := rfl
  ref := rfl
  ramRef := rfl

lemma counter_length_of_mem_liveRam {r : RamEntry} (hr : r ∈ liveRam ts)
    (hc : isNvCounterIndex r.attributes = true) : r.data.length = 8 := by
  obtain ⟨t, -, hlive⟩ := mem_filterMap.1 hr
  cases t with
  | plain p => simp at hlive
  | evict e => simp at hlive
  | orderly o =>
    obtain rfl : o.live = r := by simpa using hlive
    rw [o.matches_live.length_data]
    exact o.counter_size (by rwa [← isNvCounterIndex_congr o.matches_live.static])

/-! ## `NvSetGlobalLock()` -/

lemma Slot.updatePlain_plain (f : AttrUpdate) {p : PlainSlot}
    (h : handleGetType p.info.handle = TPM_HT_NV_INDEX) :
    (Slot.plain p).updatePlain f =
      .plain (p.withAttributes (f.toFun p.info.attributes) (f.static_toFun _)) := by
  simp [Slot.updatePlain, h]

lemma Slot.updatePlain_of_type (f : AttrUpdate)
    (h : handleGetType t.handle ≠ TPM_HT_NV_INDEX) : t.updatePlain f = t := by
  cases t with
  | plain p =>
    have h' : handleGetType p.info.handle ≠ TPM_HT_NV_INDEX := h
    simp [Slot.updatePlain, h']
  | orderly o => rfl
  | evict e => rfl

lemma Slot.ne_evict (h : handleGetType t.handle = TPM_HT_NV_INDEX) (e : EvictEntry) :
    t ≠ .evict e := by
  rintro rfl
  have hpers : handleGetType (Slot.evict e).handle = TPM_HT_PERSISTENT := e.isPersistent
  rw [hpers] at h
  cases h

/-! ## `NvEntityStartup()` -/

/-- The effect of a startup on the attributes of an index. -/
def startupAttr (type : StartupType) : AttrUpdate :=
  ⟨fun a => nvSetStartupAttributes a type, fun a => static_nvSetStartupAttributes a type⟩

/-- The value of a counter's RAM entry. -/
def RamEntry.value (r : RamEntry) : UInt64 := UInt64.ofNat (beVal (r.data.take 8))

/-- The data of an orderly counter after a startup that was not preceded by a shutdown:
its low-order bits are all ones. -/
def RamEntry.advance (r : RamEntry) : Bytes :=
  if r.data.length = 8 then beBytes 8 (r.value ||| MAX_ORDERLY_COUNT).toNat else r.data

/-- The effect of a startup on an orderly index. -/
def startupEntry (type : StartupType) (prevOrderlyState : UInt16) : RamUpdate where
  toFun r :=
    { r with
      attributes := nvSetStartupAttributes r.attributes type
      data := if isNvCounterIndex r.attributes && prevOrderlyState == SU_NONE_VALUE then
          r.advance else r.data }
  handle_toFun _ := rfl
  length_toFun r := by
    simp only [RamEntry.advance]
    split
    · split <;> simp_all
    · rfl
  static_toFun r := static_nvSetStartupAttributes r.attributes type

/-- The RAM entry of a slot as it is in the backing store. -/
def Slot.restore : Slot → Slot
  | plain p => plain p
  | orderly o => orderly (o.withLive o.saved o.matches_saved)
  | evict e => evict e

/-- The effect of `NvEntityStartup()` on a slot. -/
def Slot.startup (type : StartupType) (prevOrderlyState : UInt16) (t : Slot) : Slot :=
  if type = .resume then t.restore
  else (t.restore.updatePlain (startupAttr type)).updateLive (startupEntry type prevOrderlyState)

lemma Slot.entry_restore (t : Slot) : t.restore.entry = t.entry := by
  cases t <;> rfl

lemma Slot.saved_restore (t : Slot) : t.restore.saved = t.saved := by
  cases t <;> rfl

lemma Slot.live_restore (t : Slot) : t.restore.live = t.saved := by
  cases t <;> rfl

lemma startupIndex_eq (type : StartupType) (h : Rep s ts maxCount)
    (hstatus : s.nvStatus = TPM_RC_SUCCESS) :
    ∃ s', nvForEach nvNextIndex (startupIndex type) () s = ((), s') ∧
      Updates s s' (ts.map (Slot.updatePlain (startupAttr type))) maxCount := by
  have hloop := nvForEach_index (startupIndex type) (f := Slot.updatePlain (startupAttr type))
    (K := fun _ s' => ∃ us, Updates s s' us maxCount) (Q := fun _ _ => False)
    (Slot.entrySize_updatePlain _) (fun _ => Slot.updatePlain_of_type _) ?_ h
    (x := ()) ⟨ts, .refl h⟩
  · obtain ⟨_, s', hrun, ⟨hrep, us, hup⟩ | hfalse⟩ := hloop
    · exact ⟨s', hrun, { hup with rep := hrep }⟩
    · exact hfalse.elim
  · rintro pre t post - s₁ hrep htype ⟨us, hup⟩
    cases t with
    | evict e => exact absurd rfl (Slot.ne_evict htype e)
    | orderly o =>
      have hread := nvReadNvIndexAttributes_eq hrep.dyn_split
      have ho : o.info.attributes.isSet ORDERLY = true := o.orderly
      refine ⟨(), true, s₁, ?_, .inl ⟨rfl, hrep, us, hup⟩⟩
      simp [startupIndex, hread, ho]
    | plain p =>
      have hread := nvReadNvIndexAttributes_eq hrep.dyn_split
      have ho : p.info.attributes.isSet ORDERLY = false := p.not_orderly
      obtain ⟨s', hw, hup', -⟩ := nvWriteNvIndexAttributes_available hrep
        ((startupAttr type).static_toFun p.info.attributes)
        (hup.frame.nvStatus.trans hstatus)
      refine ⟨(), true, s', ?_, Or.inl ⟨rfl, ?_, _, hup.trans hup'⟩⟩
      · simp only [startupAttr] at hw
        simp [startupIndex, hread, ho, hw]
      · rw [Slot.updatePlain_plain _ htype]
        exact hup'.rep

lemma startupRam_eq (type : StartupType) (h : Rep s ts maxCount) :
    ∃ ram, nvRamForEach (startupRam type) s = ((), s.setRam ram) ∧
      Updates s (s.setRam ram)
        (ts.map (Slot.updateLive (startupEntry type s.prevOrderlyState))) maxCount := by
  have hloop := nvRamForEach_eq (startupRam type)
    (g := (startupEntry type s.prevOrderlyState).toFun) ?_
    (fun _ hr => counter_length_of_mem_liveRam hr) ?_ h.ram
  · obtain ⟨ram, hrun, hram⟩ := hloop
    exact ⟨ram, hrun, h.updateLive _ hram⟩
  · intro r
    rw [RamEntry.entrySize, (startupEntry type s.prevOrderlyState).length_toFun]
    rfl
  · intro pre r post ram hram hlen
    have hram' : RamRep (s.setRam ram).indexOrderlyRam (pre ++ r :: post) := hram
    have hread := nvReadRamIndexAttributes_eq hram'
    obtain ⟨ram₁, hw, hrep₁⟩ :=
      nvWriteRamIndexAttributes_eq hram' (nvSetStartupAttributes r.attributes type)
    have hctr : (isNvCounterIndex (nvSetStartupAttributes r.attributes type) &&
        (s.setRam ram₁).prevOrderlyState == SU_NONE_VALUE) =
        (isNvCounterIndex r.attributes && s.prevOrderlyState == SU_NONE_VALUE) := by
      rw [isNvCounterIndex_congr (static_nvSetStartupAttributes r.attributes type)]
      rfl
    rw [Nv.setRam_setRam] at hw
    cases hc : isNvCounterIndex r.attributes && s.prevOrderlyState == SU_NONE_VALUE
    case true =>
      have hlen8 : r.data.length = 8 := hlen (Bool.and_eq_true_iff.1 hc).1
      have hrep₁' : RamRep (s.setRam ram₁).indexOrderlyRam (pre ++ _ :: post) := hrep₁
      obtain ⟨-, -, -, hdata⟩ := ram_header hrep₁'.entry hrep₁'.entry_end_le
      have hval : UInt64.ofNat (beVal (ram₁.read (ramSize pre + NV_RAM_HEADER_SIZE) 8)) =
          r.value := by
        have hr : ram₁.read (ramSize pre + NV_RAM_HEADER_SIZE) 8 = r.data :=
          hdata.read' hlen8.symm
        rw [hr, RamEntry.value, take_of_length_le (le_of_eq hlen8)]
      obtain ⟨ram₂, hw₂, hrep₂⟩ := ramRefWrite_eq hrep₁' 0
        (beBytes 8 (r.value ||| MAX_ORDERLY_COUNT).toNat) (by simp [hlen8])
      refine ⟨ram₂, ?_, ?_⟩
      · simp only [ramRefWrite, Nat.add_zero, Nv.setRam_setRam] at hw₂
        simp only [startupRam, NvM.bind_apply, hread, hw, NvM.gets_apply, hctr.trans hc, if_true,
          Nv.setRam_indexOrderlyRam, hval, hw₂, NvM.pure_apply]
      · have hnew : (startupEntry type s.prevOrderlyState).toFun r =
            { r with
              attributes := nvSetStartupAttributes r.attributes type
              data := beBytes 8 (r.value ||| MAX_ORDERLY_COUNT).toNat } := by
          simp only [startupEntry, hc, if_true, RamEntry.advance, hlen8]
        rw [splice_all (by simp [hlen8])] at hrep₂
        rw [hnew]
        exact hrep₂
    case false =>
      refine ⟨ram₁, ?_, ?_⟩
      · simp only [startupRam, NvM.bind_apply, hread, hw, NvM.gets_apply, hctr.trans hc]
        rfl
      · have hnew : (startupEntry type s.prevOrderlyState).toFun r =
            { r with attributes := nvSetStartupAttributes r.attributes type } := by
          simp only [startupEntry, hc]
          rfl
        rw [hnew]
        exact hrep₁

/-- `NvGetMaxCount()` reads the counter in the terminator.  With the list filling NV to
the last byte, its read ends at the end of memory, and `NvRead()`'s assertion fails. -/
lemma nvGetMaxCount_eq {es : List NvEntry} (h : DynRep s.nv es maxCount) :
    nvGetMaxCount s =
      (maxCount,
        if listEnd es + NV_LIST_TERMINATOR_SIZE < NV_MEMORY_SIZE then s else s.failed) := by
  have hterm := h.hasTerminator
  rw [terminator, Mem.hasAt_append, length_leBytes] at hterm
  have hval : UInt64.ofNat (leVal (s.nv.read (listEnd es + 4) 8)) = maxCount := by
    have hle : s.nv.le (listEnd es + 4) 8 = maxCount.toNat := hterm.2.le maxCount.toNat_lt
    rw [Mem.le] at hle
    rw [hle, UInt64.ofNat_toNat]
  have hfits : listEnd es + 4 + 8 ≤ NV_MEMORY_SIZE := h.fits
  have hiff : listEnd es + 4 + 8 < NV_MEMORY_SIZE ↔
      listEnd es + NV_LIST_TERMINATOR_SIZE < NV_MEMORY_SIZE := Iff.rfl
  by_cases hlt : listEnd es + 4 + 8 < NV_MEMORY_SIZE
  · have hread := nvRead_eq (s := s) hlt
    rw [if_pos (hiff.1 hlt)]
    simp [nvGetMaxCount, nvSearch_end h, hread, hval]
  · rw [if_neg fun hc => hlt (hiff.2 hc)]
    simp [nvGetMaxCount, nvSearch_end h, nvRead, hlt, fail, platNvMemoryRead, hfits, Nv.failed,
      hval]

/-- What a startup finds: the image holds the entries and the saved copies of the table. -/
structure ImageRep (nv : Mem) (ts : List Slot) (maxCount : UInt64) : Prop where
  dyn : DynRep nv (entries ts) maxCount
  backup : BackupRep nv (savedRam ts)
  nodup : (slotHandles ts).Nodup

lemma ImageRep.restore {ram : Mem} (h : ImageRep s.nv ts maxCount) (hram : RamRep ram (savedRam ts))
    (hend : s.evictNvEnd = NV_MEMORY_SIZE) :
    Rep (s.setRam ram) (ts.map Slot.restore) maxCount where
  dyn := by
    simp only [entries, map_map, Function.comp_def, Slot.entry_restore]
    exact h.dyn
  ram := by
    simp only [liveRam, filterMap_map, Function.comp_def, Slot.live_restore]
    exact hram
  backup := by
    simp only [savedRam, filterMap_map, Function.comp_def, Slot.saved_restore]
    exact .inr h.backup
  nodup := by
    rw [slotHandles_map (fun t => congrArg NvEntry.handle t.entry_restore) ts]
    exact h.nodup
  evictEnd := hend

/-- `NvEntityStartup()` up to its two loops: the state after the maximum counter is read, in
failure mode or not. -/
lemma nvEntityStartup_loaded (type : StartupType) (h : ImageRep s.nv ts maxCount)
    (hend : s.evictNvEnd = NV_MEMORY_SIZE) :
    ∃ s₂, nvEntityStartup type s =
        (if type = .resume then (pure true : NvM Bool) else do
          nvForEach nvNextIndex (startupIndex type) ()
          nvRamForEach (startupRam type)
          pure true) s₂ ∧
      Rep s₂ (ts.map Slot.restore) maxCount ∧ Frame s s₂ ∧ s₂.maxCounter = maxCount ∧
      s₂.inFailureMode = (s.inFailureMode ||
        !decide (listEnd (entries ts) + NV_LIST_TERMINATOR_SIZE < NV_MEMORY_SIZE)) := by
  have hread : nvRead NV_INDEX_RAM_DATA RAM_INDEX_SPACE s =
      (s.nv.read NV_INDEX_RAM_DATA RAM_INDEX_SPACE, s) := nvRead_eq (by decide)
  obtain ⟨ram, hram, hrestore⟩ : ∃ ram,
      s.indexOrderlyRam.write 0 (s.nv.read NV_INDEX_RAM_DATA RAM_INDEX_SPACE) = ram ∧
        RamRep ram (savedRam ts) := ⟨_, rfl, h.backup.restore⟩
  have hrep := h.restore hrestore hend
  have hdyn : DynRep (s.setRam ram).nv (entries ts) maxCount := h.dyn
  have hmax := nvGetMaxCount_eq hdyn
  refine ⟨Nv.setMax (if listEnd (entries ts) + NV_LIST_TERMINATOR_SIZE < NV_MEMORY_SIZE
    then s.setRam ram else (s.setRam ram).failed) maxCount, ?_, ?_⟩
  · simp only [nvEntityStartup, NvM.bind_apply, hread, ramWrite, NvM.modify_apply, hram, hmax,
      nvSetMaxCount]
    rfl
  · split
    case isTrue hlt =>
      exact ⟨hrep.setMax _, (Frame.setRam ..).trans (Frame.setMax ..), rfl, by
        simp [Nv.setMax, Nv.setRam, hlt]⟩
    case isFalse hlt =>
      exact ⟨hrep.failed.setMax _,
        ((Frame.setRam ..).trans (Frame.failed _)).trans (Frame.setMax ..), rfl, by
        simp [Nv.setMax, Nv.failed, hlt]⟩

lemma nvEntityStartup_eq (type : StartupType) (h : ImageRep s.nv ts maxCount)
    (hend : s.evictNvEnd = NV_MEMORY_SIZE) (hstatus : s.nvStatus = TPM_RC_SUCCESS) :
    ∃ s', nvEntityStartup type s = (true, s') ∧
      Rep s' (ts.map (Slot.startup type s.prevOrderlyState)) maxCount ∧ Frame s s' ∧
      s'.maxCounter = maxCount ∧
      s'.inFailureMode = (s.inFailureMode ||
        !decide (listEnd (entries ts) + NV_LIST_TERMINATOR_SIZE < NV_MEMORY_SIZE)) := by
  obtain ⟨s₂, hstart, hrep₂, hframe₂, hmax₂, hfail₂⟩ := nvEntityStartup_loaded type h hend
  rw [hstart]
  by_cases htype : type = .resume
  · refine ⟨s₂, by rw [if_pos htype]; rfl, ?_, hframe₂, hmax₂, hfail₂⟩
    have hmap : ts.map (Slot.startup type s.prevOrderlyState) = ts.map Slot.restore :=
      map_congr_left fun t _ => if_pos htype
    rwa [hmap]
  · have hstatus₂ : s₂.nvStatus = TPM_RC_SUCCESS := hframe₂.nvStatus.trans hstatus
    obtain ⟨s₃, hpass₁, hup₁⟩ := startupIndex_eq type hrep₂ hstatus₂
    obtain ⟨ram', hpass₂, hup₂⟩ := startupRam_eq type hup₁.rep
    have hup := hup₁.trans hup₂
    have hprev : s₃.prevOrderlyState = s.prevOrderlyState :=
      hup₁.frame.prevOrderlyState.trans hframe₂.prevOrderlyState
    refine ⟨s₃.setRam ram', ?_, ?_, hframe₂.trans hup.frame, hup.maxCounter.trans hmax₂,
      hup.failure.trans hfail₂⟩
    · rw [if_neg htype]
      simp [hpass₁, hpass₂]
    · have hmap : ts.map (Slot.startup type s.prevOrderlyState) =
          ((ts.map Slot.restore).map (Slot.updatePlain (startupAttr type))).map
            (Slot.updateLive (startupEntry type s₃.prevOrderlyState)) := by
        rw [hprev, map_map, map_map]
        exact map_congr_left fun t _ => if_neg htype
      rw [hmap]
      exact hup.rep

end RfTpm
