import RfTpm.Nv.Table

/-!
# Allocation on represented states

Defining an index, adding a persistent object, deleting either and flushing a
hierarchy, as operations on the table.  A function that reports an error leaves the
state as it was; one that succeeds appends or removes slots, leaves every other slot
alone, and rewrites the terminator with the current maximum counter.

`NvFlushHierarchy()` walks the list from its beginning again after each deletion.
-/

namespace RfTpm

open Bytes TpmaNv

variable {s : Nv} {ts pre post : List Slot} {maxCount : UInt64}

/-! ## Frames of the elementary changes -/

@[simp]
lemma UpdateType.lor_orderly (u : UpdateType) : u.lor .orderly = .orderly := by
  cases u <;> rfl

lemma UpdateType.lor_nv_ne_none (u : UpdateType) : u.lor .nv ≠ .none := by
  cases u <;> decide

lemma UpdateType.orderly_lor (u : UpdateType) : UpdateType.orderly.lor u = .orderly := by
  cases u <;> rfl

lemma Frame.withNv {nv : Mem} (h : ∀ a, a < NV_INDEX_RAM_DATA → nv a = s.nv a) :
    Frame s (s.withNv nv) :=
  { Frame.refl s with
    below := h
    orderly := fun hs => by simp [Nv.withNv, hs, UpdateType.orderly_lor]
    touched := fun hs => absurd hs (UpdateType.lor_nv_ne_none _) }

lemma Frame.setRam (s : Nv) (ram : Mem) : Frame s (s.setRam ram) := { Frame.refl s with }

lemma Frame.requestOrderly (s : Nv) : Frame s (s.requestUpdate .orderly) :=
  { Frame.refl s with
    orderly := fun _ => UpdateType.lor_orderly _
    touched := fun hs => by simp [Nv.requestUpdate] at hs }

/-- The state `s'` represents `ts'` with the maximum counter of `s` in the terminator,
and differs from `s` only as NV functions may. -/
structure Moves (s s' : Nv) (ts' : List Slot) : Prop where
  rep : Rep s' ts' s.maxCounter
  frame : Frame s s'
  failure : s'.inFailureMode = s.inFailureMode
  maxCounter : s'.maxCounter = s.maxCounter

lemma Rep.setNv (h : Rep s ts maxCount) {nv : Mem} {ts' : List Slot} {count : UInt64}
    (hdyn : DynRep nv (entries ts') count) (hbelow : ∀ a, a < NV_USER_DYNAMIC → nv a = s.nv a)
    (hlive : liveRam ts' = liveRam ts) (hsaved : savedRam ts' = savedRam ts)
    (hnodup : (slotHandles ts').Nodup) : Rep (s.withNv nv) ts' count where
  dyn := hdyn
  ram := hlive ▸ h.ram
  backup := by
    rcases h.backup with hb | hb
    · exact Or.inl (by simp [Nv.withNv, hb, UpdateType.orderly_lor])
    · exact Or.inr (hsaved ▸ hb.congr fun a _ ha => hbelow a ha)
  nodup := hnodup
  evictEnd := h.evictEnd

lemma Rep.withNv (h : Rep s ts maxCount) (nv : Mem) {ts' : List Slot}
    (hdyn : DynRep nv (entries ts') s.maxCounter)
    (hbelow : ∀ a, a < NV_USER_DYNAMIC → nv a = s.nv a) (hlive : liveRam ts' = liveRam ts)
    (hsaved : savedRam ts' = savedRam ts) (hnodup : (slotHandles ts').Nodup) :
    Moves s (s.withNv nv) ts' where
  rep := h.setNv hdyn hbelow hlive hsaved hnodup
  frame := Frame.withNv fun a ha => hbelow a (ha.trans (by decide))
  failure := rfl
  maxCounter := rfl

lemma Rep.withRam (h : Rep s ts maxCount) (nv ram : Mem) {ts' : List Slot}
    (hdyn : DynRep nv (entries ts') s.maxCounter)
    (hbelow : ∀ a, a < NV_USER_DYNAMIC → nv a = s.nv a) (hram : RamRep ram (liveRam ts'))
    (hnodup : (slotHandles ts').Nodup) :
    Moves s (((s.withNv nv).setRam ram).requestUpdate .orderly) ts' where
  rep :=
    { dyn := hdyn
      ram := hram
      backup := Or.inl (UpdateType.lor_orderly _)
      nodup := hnodup
      evictEnd := h.evictEnd }
  frame := ((Frame.withNv fun a ha => hbelow a (ha.trans (by decide))).trans
    (Frame.setRam ..)).trans (Frame.requestOrderly _)
  failure := rfl
  maxCounter := rfl

/-! ## Defining an index -/

/-- The space check of an addition. -/
def NvFits (ts : List Slot) (size : ℕ) (isIndex isCounter : Bool) : Prop :=
  reservedBytes (entries ts) isIndex isCounter < NV_MEMORY_SIZE - listEnd (entries ts) ∧
    size + reservedBytes (entries ts) isIndex isCounter ≤
      NV_MEMORY_SIZE - listEnd (entries ts)

instance (ts : List Slot) (size : ℕ) (isIndex isCounter : Bool) :
    Decidable (NvFits ts size isIndex isCounter) :=
  inferInstanceAs (Decidable (_ ∧ _))

/-- The RAM space check of a definition. -/
def RamFits (ts : List Slot) (index : TpmsNvPublic) : Prop :=
  index.attributes.isSet ORDERLY = true →
    ramSize (liveRam ts) + NV_RAM_HEADER_SIZE + index.dataSize.toNat ≤ RAM_INDEX_SPACE

instance (ts : List Slot) (index : TpmsNvPublic) : Decidable (RamFits ts index) :=
  inferInstanceAs (Decidable (_ → _))

lemma nvTestSpace_rep (h : Rep s ts maxCount) (size : ℕ) (isIndex isCounter : Bool) :
    nvTestSpace size isIndex isCounter s = (decide (NvFits ts size isIndex isCounter), s) := by
  rw [nvTestSpace_eq h.dyn, h.evictEnd]
  rfl

lemma NvFits.room {size n : ℕ} {isIndex isCounter : Bool} (h : NvFits ts size isIndex isCounter)
    (hn : n = 4 + size) :
    listEnd (entries ts) + n + NV_LIST_TERMINATOR_SIZE ≤ NV_MEMORY_SIZE := by
  have hfits := h.2
  unfold reservedBytes at hfits
  omega

lemma defineRamFits_rep (h : Rep s ts maxCount) (index : TpmsNvPublic) :
    defineRamFits index s = (decide (RamFits ts index), s) := by
  by_cases ho : index.attributes.isSet ORDERLY = true
  · simp [defineRamFits, ho, nvRamTestSpaceIndex_eq h.ram, RamFits]
  · simp [defineRamFits, ho, RamFits]

/-- The slot a definition makes. -/
def IsDefined (index : TpmsNvPublic) (authValue : Tpm2b) : Slot → Prop
  | .plain p => p.info = ⟨index, authValue⟩
  | .orderly o => o.info = ⟨index, authValue⟩ ∧ o.live = RamEntry.ofPublic index ∧
      o.saved = RamEntry.ofPublic index
  | .evict _ => False

variable {index : TpmsNvPublic} {t : Slot} {handle : TpmHandle} {x : NvIndex} {a : TpmaNv}

lemma defineEntrySize_eq (authValue : Tpm2b) (h : index.dataSize.toNat ≤ MAX_NV_INDEX_SIZE) :
    defineEntrySize index = NV_INDEX_SIZE + NvIndex.storedSize ⟨index, authValue⟩ := by
  rw [MAX_NV_INDEX_SIZE] at h
  have hlt : NV_INDEX_SIZE + index.dataSize.toNat < 2 ^ 16 := by
    rw [NV_INDEX_SIZE]
    omega
  cases ho : index.attributes.isSet ORDERLY with
  | true => simp [defineEntrySize, NvIndex.storedSize, NvIndex.orderly, NvIndex.attributes, ho]
  | false =>
    simp only [defineEntrySize, NvIndex.storedSize, NvIndex.orderly, NvIndex.attributes,
      NvIndex.dataSize, ho, Bool.false_eq_true, if_false]
    exact Nat.mod_eq_of_lt hlt

lemma nodup_concat (h : (slotHandles ts).Nodup) (ht : t.handle ∉ slotHandles ts) :
    (slotHandles (ts ++ [t])).Nodup := by
  rw [slotHandles_append, List.nodup_append]
  refine ⟨h, by simp, ?_⟩
  rintro a ha b hb rfl
  rw [slotHandles_cons, slotHandles_nil, List.mem_singleton] at hb
  exact ht (hb ▸ ha)

lemma nvDefineIndex_success (h : Rep s ts maxCount) (authValue : Tpm2b)
    (hindex : isIndexHandle index.nvIndex = true) (hsize : index.dataSize.toNat ≤ MAX_NV_INDEX_SIZE)
    (hcounter : isNvCounterIndex index.attributes = true → index.dataSize.toNat = 8)
    (hfresh : index.nvIndex ∉ slotHandles ts) (hstatus : s.nvStatus = TPM_RC_SUCCESS)
    (hfits : NvFits ts (defineEntrySize index) true (isNvCounterIndex index.attributes))
    (hramFits : RamFits ts index) :
    ∃ s' t, nvDefineIndex index authValue s = (TPM_RC_SUCCESS, s') ∧
      IsDefined index authValue t ∧ Moves s s' (ts ++ [t]) := by
  set info : NvIndex := ⟨index, authValue⟩ with hinfo
  have hentry : defineEntrySize index = NV_INDEX_SIZE + info.storedSize :=
    defineEntrySize_eq authValue hsize
  set data := s.nv.read (listEnd (entries ts) + 4 + NV_INDEX_SIZE) info.storedSize with hdata
  let x : IndexEntry := ⟨info, data, by simp [hdata], hindex, hcounter⟩
  have hroom := hfits.room (n := (NvEntry.index x).entrySize)
    (by rw [hentry, NvEntry.entrySize_index, Nat.add_assoc])
  obtain ⟨nv', hadd, hdyn, hbelow⟩ := nvAdd_eq (e := .index x) h.dyn hstatus h.evictEnd
    TPM_RH_UNASSIGNED info.toBytes data
    (by simp [NvEntry.body, handleField, x]) (by simp [handleField, hdata]) hroom
  rw [NvIndex.length_toBytes, hdata, Mem.length_read, ← hentry] at hadd
  have hlow : ∀ a, a < NV_USER_DYNAMIC → nv' a = s.nv a := fun a ha =>
    hbelow a (ha.trans_le (listEnd_ge _))
  by_cases ho : index.attributes.isSet ORDERLY = true
  · obtain ⟨ram', hram, hrep⟩ := nvAddRam_eq (s := s.withNv nv') h.ram index (hramFits ho)
    have hmatch : Matches info (RamEntry.ofPublic index) :=
      ⟨rfl, by simp [RamEntry.ofPublic, NvIndex.dataSize, hinfo], rfl⟩
    let o : OrderlySlot := ⟨x, ho, RamEntry.ofPublic index, RamEntry.ofPublic index, hmatch, hmatch⟩
    refine ⟨_, .orderly o, ?_, ⟨rfl, rfl, rfl⟩, h.withRam nv' ram' ?_ hlow ?_ ?_⟩
    · simp [nvDefineIndex, nvTestSpace_rep h, hfits, defineRamFits_rep h, hramFits, ← hinfo, hadd,
        ho, hram]
    · simpa [o] using hdyn
    · simpa [o] using hrep
    · exact nodup_concat h.nodup hfresh
  · let p : PlainSlot := ⟨x, by simpa [NvIndex.orderly, NvIndex.attributes, x, hinfo] using ho⟩
    refine ⟨_, .plain p, ?_, rfl, h.withNv nv' ?_ hlow (by simp) (by simp) ?_⟩
    · simp [nvDefineIndex, nvTestSpace_rep h, hfits, defineRamFits_rep h, hramFits, ← hinfo, hadd,
        ho]
    · simpa [p] using hdyn
    · exact nodup_concat h.nodup hfresh

lemma nvDefineIndex_error (h : Rep s ts maxCount) (authValue : Tpm2b)
    (hfail : ¬ (s.nvStatus = TPM_RC_SUCCESS ∧
      NvFits ts (defineEntrySize index) true (isNvCounterIndex index.attributes) ∧
      RamFits ts index)) :
    ∃ rc, rc ≠ TPM_RC_SUCCESS ∧ nvDefineIndex index authValue s = (rc, s) := by
  by_cases hfits : NvFits ts (defineEntrySize index) true (isNvCounterIndex index.attributes)
  · by_cases hramFits : RamFits ts index
    · have hstatus : s.nvStatus ≠ TPM_RC_SUCCESS := fun hs => hfail ⟨hs, hfits, hramFits⟩
      have hbeq : (s.nvStatus == TPM_RC_SUCCESS) = false := by simpa using hstatus
      refine ⟨s.nvStatus, hstatus, ?_⟩
      simp [nvDefineIndex, nvTestSpace_rep h, hfits, defineRamFits_rep h, hramFits,
        nvAdd_unavailable hstatus, hbeq]
    · refine ⟨TPM_RC_NV_SPACE, by decide, ?_⟩
      simp [nvDefineIndex, nvTestSpace_rep h, hfits, defineRamFits_rep h, hramFits]
  · refine ⟨TPM_RC_NV_SPACE, by decide, ?_⟩
    simp [nvDefineIndex, nvTestSpace_rep h, hfits]

/-! ## Adding a persistent object -/

/-- The slot `NvAddEvictObject()` makes. -/
def evictSlot (handle : TpmHandle) (object : Object)
    (h : handleGetType handle = TPM_HT_PERSISTENT) : Slot :=
  .evict ⟨handle, object.evicted handle, h⟩

lemma nvAddEvictObject_success (h : Rep s ts maxCount) (object : Object)
    (htype : handleGetType handle = TPM_HT_PERSISTENT) (hfresh : handle ∉ slotHandles ts)
    (hstatus : s.nvStatus = TPM_RC_SUCCESS) (hfits : NvFits ts (OBJECT_SIZE + 4) false false) :
    ∃ s', nvAddEvictObject handle object s = (TPM_RC_SUCCESS, s') ∧
      Moves s s' (ts ++ [evictSlot handle object htype]) := by
  set e : EvictEntry := ⟨handle, object.evicted handle, htype⟩ with he
  have hfield : handleField handle = leBytes 4 handle.toNat := by
    rw [handleField, if_pos]
    rintro rfl
    cases htype
  have hroom := hfits.room (n := (NvEntry.evict e).entrySize)
    (by rw [NvEntry.entrySize_evict, NV_EVICT_OBJECT_SIZE]; omega)
  obtain ⟨nv', hadd, hdyn, hbelow⟩ := nvAdd_eq (e := .evict e) h.dyn hstatus h.evictEnd
    handle (object.evicted handle).toBytes []
    (by simp [NvEntry.body, hfield, he]) (by simp) hroom
  rw [Object.length_toBytes, List.length_nil, Nat.add_zero] at hadd
  refine ⟨_, ?_, h.withNv nv' ?_ ?_ ?_ ?_ ?_⟩
  · simp [nvAddEvictObject, nvTestSpace_rep h, hfits, hadd]
  · simpa [evictSlot, he] using hdyn
  · exact fun a ha => hbelow a (ha.trans_le (listEnd_ge _))
  · simp [evictSlot]
  · simp [evictSlot]
  · exact nodup_concat h.nodup hfresh

lemma nvAddEvictObject_error (h : Rep s ts maxCount) (object : Object)
    (hfail : ¬ (s.nvStatus = TPM_RC_SUCCESS ∧ NvFits ts (OBJECT_SIZE + 4) false false)) :
    ∃ rc, rc ≠ TPM_RC_SUCCESS ∧ nvAddEvictObject handle object s = (rc, s) := by
  by_cases hfits : NvFits ts (OBJECT_SIZE + 4) false false
  · have hstatus : s.nvStatus ≠ TPM_RC_SUCCESS := fun hs => hfail ⟨hs, hfits⟩
    exact ⟨s.nvStatus, hstatus,
      by simp [nvAddEvictObject, nvTestSpace_rep h, hfits, nvAdd_unavailable hstatus]⟩
  · exact ⟨TPM_RC_NV_SPACE, by decide, by simp [nvAddEvictObject, nvTestSpace_rep h, hfits]⟩

/-! ## Deleting -/

lemma nodup_remove (h : (slotHandles (pre ++ t :: post)).Nodup) :
    (slotHandles (pre ++ post)).Nodup := by
  refine List.Nodup.sublist ?_ h
  exact (List.Sublist.append_left (List.sublist_cons_self _ _) _).map _

lemma nvDelete_evict {e : EvictEntry} (h : Rep s (pre ++ .evict e :: post) maxCount)
    (hstatus : s.nvStatus = TPM_RC_SUCCESS) :
    ∃ s', nvDelete (listEnd (entries pre) + 4) s = (TPM_RC_SUCCESS, s') ∧
      Moves s s' (pre ++ post) := by
  obtain ⟨nv', hdel, hdyn, hbelow⟩ := nvDelete_eq h.dyn_split hstatus h.evictEnd
  refine ⟨_, hdel, h.withNv nv' (by simpa using hdyn) ?_ (by simp) (by simp)
    (nodup_remove h.nodup)⟩
  exact fun a ha => hbelow a (ha.trans_le (listEnd_ge _))

namespace Slot

/-- The description of an index slot as stored in NV. -/
def info? : Slot → Option NvIndex
  | plain p => some p.info
  | orderly o => some o.info
  | evict _ => none

lemma plain_or_orderly {t : Slot} {x : NvIndex} (hx : t.info? = some x) :
    (∃ p, t = .plain p ∧ p.info = x) ∨ ∃ o, t = .orderly o ∧ o.info = x := by
  cases t with
  | plain p => exact Or.inl ⟨p, rfl, Option.some.inj hx⟩
  | orderly o => exact Or.inr ⟨o, rfl, Option.some.inj hx⟩
  | evict e => cases hx

/-- The current data of a slot: in NV for a plain index, in RAM for an orderly one. -/
def data : Slot → Bytes
  | plain p => p.data
  | orderly o => o.live.data
  | evict _ => []

/-- The integer kept in the data of a slot. -/
def value (t : Slot) : UInt64 := UInt64.ofNat (beVal (t.data.take 8))

end Slot

/-- The larger of a maximum and a new count. -/
def raised (maxCount count : UInt64) : UInt64 := if count > maxCount then count else maxCount

/-- Replace the maximum counter. -/
def Nv.setMax (s : Nv) (count : UInt64) : Nv := { s with maxCounter := count }

/-- The maximum counter after the first part of `NvDeleteIndex()`: the deletion of a
written counter raises it. -/
def raisedFor (maxCount : UInt64) (attributes : TpmaNv) (t : Slot) : UInt64 :=
  if isNvCounterIndex attributes && attributes.isSet WRITTEN then raised maxCount t.value
  else maxCount

lemma nvUpdateMaxCount_eq (s : Nv) (count : UInt64) :
    nvUpdateMaxCount count s = ((), s.setMax (raised s.maxCounter count)) := by
  simp only [nvUpdateMaxCount, NvM.modify_apply, raised, Nv.setMax]
  split <;> rfl

lemma Rep.setMax (h : Rep s ts maxCount) (count : UInt64) :
    Rep (s.setMax count) ts maxCount := { h with }

lemma Frame.setMax (s : Nv) (count : UInt64) : Frame s (s.setMax count) := { Frame.refl s with }

/-! ## The data of an index -/

lemma orderly_congr (h : a.static = x.attributes.static) :
    a.isSet ORDERLY = x.orderly := isSet_congr h (by decide)

lemma plain_data {p : PlainSlot} (h : Rep s (pre ++ .plain p :: post) maxCount) :
    s.nv.HasAt (listEnd (entries pre) + 4 + NV_INDEX_SIZE) p.data := by
  have hbytes := h.dyn_split.entry
  simp only [Slot.entry_plain, NvEntry.bytes, NvEntry.body, Mem.hasAt_append, length_leBytes,
    NvIndex.length_toBytes] at hbytes
  exact hbytes.2.2

lemma length_plain_data (p : PlainSlot) : p.data.length = p.info.dataSize := by
  rw [p.length_data, NvIndex.storedSize, p.not_orderly]
  rfl

lemma plain_end_le {p : PlainSlot} (h : Rep s (pre ++ .plain p :: post) maxCount) :
    listEnd (entries pre) + 4 + NV_INDEX_SIZE + p.info.dataSize + NV_LIST_TERMINATOR_SIZE ≤
      NV_MEMORY_SIZE := by
  have hle := h.dyn_split.entry_end_le
  rw [Slot.entry_plain, NvEntry.entrySize_index, ← p.length_data, length_plain_data] at hle
  omega

lemma read_part {m : Mem} {a : ℕ} {bs : Bytes} (h : m.HasAt a bs) (offset size : ℕ)
    (hle : offset + size ≤ bs.length) :
    m.read (a + offset) size = (bs.drop offset).take size := by
  have hread := h.read
  conv_rhs => rw [← hread]
  rw [Mem.drop_read _ _ _ _ (by omega), Mem.take_read _ _ _ _ (by omega)]

lemma nvGetIndexData_eq (offset size : ℕ) (h : Rep s (pre ++ t :: post) maxCount)
    (hx : t.info? = some x) (ha : a.static = x.attributes.static) (hw : a.isSet WRITTEN = true)
    (hle : offset + size ≤ x.dataSize) :
    nvGetIndexData (x.withAttributes a) (listEnd (entries pre) + 4) offset size s =
      ((t.data.drop offset).take size, s) := by
  have ho := orderly_congr ha
  obtain ⟨p, rfl, rfl⟩ | ⟨o, rfl, rfl⟩ := Slot.plain_or_orderly hx
  · rw [p.not_orderly] at ho
    have hassert : offset ≤ p.info.dataSize ∧ size ≤ p.info.dataSize - offset := by omega
    have hend := plain_end_le h
    have hread : nvRead (listEnd (entries pre) + 4 + NV_INDEX_SIZE + offset) size s =
        ((p.data.drop offset).take size, s) := by
      rw [nvRead_eq (by rw [NV_LIST_TERMINATOR_SIZE] at hend; omega),
        read_part (plain_data h) _ _ (by rw [length_plain_data]; exact hle)]
    simp only [NvIndex.dataSize] at hassert
    simp [nvGetIndexData, NvIndex.withAttributes, hw, ho, hassert, hread, Slot.data]
  · rw [o.orderly] at ho
    have hfind : nvRamGetIndex o.info.publicArea.nvIndex s =
        (some (ramSize (liveRam pre)), s) := h.findRam
    obtain ⟨hsize, -, -, hdata⟩ := ram_header h.ram_split.entry h.ram_split.entry_end_le
    have hlen := o.matches_live.length_data
    have hassert : size ≤ o.live.entrySize - NV_RAM_HEADER_SIZE - offset := by
      rw [RamEntry.entrySize]
      omega
    have hread := read_part hdata offset size (by omega)
    simp [nvGetIndexData, NvIndex.withAttributes, hw, ho, hfind, hsize, hassert, hread, Slot.data]

lemma Slot.counter_size (hx : t.info? = some x) (hc : isNvCounterIndex x.attributes = true) :
    x.dataSize = 8 := by
  obtain ⟨p, rfl, rfl⟩ | ⟨o, rfl, rfl⟩ := Slot.plain_or_orderly hx
  · exact p.counter_size hc
  · exact o.counter_size hc

/-! ## Deleting an index -/

lemma Moves.cacheInit {s' : Nv} (h : Moves s s' ts) : Moves s (nvIndexCacheInit s').2 ts where
  rep := { h.rep with }
  frame := h.frame.trans { Frame.refl s' with }
  failure := h.failure
  maxCounter := h.maxCounter

section

variable (h : Rep s (pre ++ t :: post) maxCount) (hx : t.info? = some x)
  (ha : a.static = x.attributes.static)
include h hx ha

lemma nvGetUint64Data_eq (hw : a.isSet WRITTEN = true) (hle : 8 ≤ x.dataSize) :
    nvGetUint64Data (x.withAttributes a) (listEnd (entries pre) + 4) s = (t.value, s) := by
  have hdata := nvGetIndexData_eq 0 8 h hx ha hw (by omega)
  simp [nvGetUint64Data, hdata, Slot.value]

lemma raise_eq :
    NvM.when (isNvCounterIndex a && a.isSet WRITTEN) (do
        let count ← nvGetUint64Data (x.withAttributes a) (listEnd (entries pre) + 4)
        nvUpdateMaxCount count) s = ((), s.setMax (raisedFor s.maxCounter a t)) := by
  by_cases hcond : (isNvCounterIndex a && a.isSet WRITTEN) = true
  · obtain ⟨hc, hw⟩ := Bool.and_eq_true_iff.1 hcond
    have hsize : x.dataSize = 8 := Slot.counter_size hx (by rwa [← isNvCounterIndex_congr ha])
    simp [hcond, nvGetUint64Data_eq h hx ha hw hsize.ge, nvUpdateMaxCount_eq, raisedFor]
  · simp only [Bool.not_eq_true] at hcond
    simp [hcond, raisedFor, Nv.setMax]

/-- The second part of `NvDeleteIndex()`: the entry goes, with its RAM entry if the
index is orderly. -/
lemma nvDelete_index (hstatus : s.nvStatus = TPM_RC_SUCCESS) :
    ∃ s₁ s', nvDelete (listEnd (entries pre) + 4) s = (TPM_RC_SUCCESS, s₁) ∧
      NvM.when (a.isSet ORDERLY) (nvDeleteRam x.handle) s₁ = ((), s') ∧
      Moves s s' (pre ++ post) := by
  have ho := orderly_congr ha
  obtain ⟨nv', hdel, hdyn, hbelow⟩ := nvDelete_eq h.dyn_split hstatus h.evictEnd
  have hlow : ∀ b, b < NV_USER_DYNAMIC → nv' b = s.nv b :=
    fun b hb => hbelow b (hb.trans_le (listEnd_ge _))
  obtain ⟨p, rfl, rfl⟩ | ⟨o, rfl, rfl⟩ := Slot.plain_or_orderly hx
  · rw [p.not_orderly] at ho
    refine ⟨_, s.withNv nv', hdel, ?_, ?_⟩
    · rw [ho, NvM.when_false, NvM.pure_apply]
    · refine h.withNv _ ?_ hlow (by simp) (by simp) (nodup_remove h.nodup)
      simpa using hdyn
  · rw [o.orderly] at ho
    obtain ⟨ram', hram, hrep⟩ := nvDeleteRam_eq (s := s.withNv nv') h.ram_split
      h.live_handle_notMem
    rw [o.matches_live.handle] at hram
    refine ⟨_, ((s.withNv nv').setRam ram').requestUpdate .orderly, hdel, ?_, ?_⟩
    · rw [ho, NvM.when_true, hram]
    · refine h.withRam _ _ ?_ hlow ?_ (nodup_remove h.nodup)
      · simpa using hdyn
      · simpa using hrep

/-- `NvDeleteIndex()` removes the slot; a written counter raises the maximum counter,
which the new terminator then holds. -/
lemma nvDeleteIndex_success (hstatus : s.nvStatus = TPM_RC_SUCCESS) :
    ∃ s', nvDeleteIndex (x.withAttributes a) (listEnd (entries pre) + 4) s =
        (TPM_RC_SUCCESS, s') ∧
      Moves (s.setMax (raisedFor s.maxCounter a t)) s' (pre ++ post) := by
  have hraise := raise_eq h hx ha
  obtain ⟨s₁, s', hdel, hram, hmoves⟩ := nvDelete_index (h.setMax (raisedFor s.maxCounter a t))
    hx ha hstatus
  refine ⟨(nvIndexCacheInit s').2, ?_, hmoves.cacheInit⟩
  have hattr : (x.withAttributes a).publicArea.attributes = a := rfl
  have hhandle : (x.withAttributes a).publicArea.nvIndex = x.handle := rfl
  simp only [nvDeleteIndex, NvM.bind_apply, hattr, hhandle, hraise, hdel, hram, ne_eq,
    not_true_eq_false, if_false, NvM.pure_apply]

/-- With NV unavailable `NvDeleteIndex()` has raised the maximum counter when it
reports so. -/
lemma nvDeleteIndex_unavailable (hstatus : s.nvStatus ≠ TPM_RC_SUCCESS) :
    nvDeleteIndex (x.withAttributes a) (listEnd (entries pre) + 4) s =
      (s.nvStatus, s.setMax (raisedFor s.maxCounter a t)) := by
  have hraise := raise_eq h hx ha
  have hdel := nvDelete_unavailable (s := s.setMax (raisedFor s.maxCounter a t)) h.dyn hstatus
    (listEnd (entries pre) + 4)
  have hattr : (x.withAttributes a).publicArea.attributes = a := rfl
  have hst : (s.setMax (raisedFor s.maxCounter a t)).nvStatus = s.nvStatus := rfl
  simp only [nvDeleteIndex, NvM.bind_apply, hattr, hraise, hdel, hst, ne_eq, hstatus,
    not_false_eq_true, if_true, NvM.pure_apply]

end

end RfTpm
