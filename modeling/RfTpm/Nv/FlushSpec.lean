import RfTpm.Nv.AllocSpec

/-!
# Flushing a hierarchy

`NvFlushHierarchy()` as an operation on the table: the slots it selects go, the
others stay in place.  The loop starts over after each deletion; its invariant is
that no slot before the iterator is selected, and each turn either passes a slot or
removes a selected one, which bounds the number of turns.

The description that decides whether a deleted counter raises the maximum counter is the one stored
in NV (`flushRaise`).
-/

namespace RfTpm

open Bytes TpmaNv List

variable {s : Nv} {ts pre post : List Slot} {maxCount : UInt64}

/-- An index that `NvFlushHierarchy()` deletes. -/
def flushesIndex (hierarchy : TpmHandle) (x : NvIndex) : Bool :=
  handleGetType x.handle == TPM_HT_NV_INDEX &&
    !(hierarchy == TPM_RH_ENDORSEMENT || hierarchy == TPM_RH_PLATFORM) &&
    !x.attributes.isSet PLATFORMCREATE

/-- A slot that `NvFlushHierarchy()` deletes. -/
def flushes (hierarchy : TpmHandle) : Slot → Bool
  | .plain p => flushesIndex hierarchy p.info
  | .orderly o => flushesIndex hierarchy o.info
  | .evict e => flushBit hierarchy e.object.attributes

/-- The maximum counter after `NvFlushHierarchy()` has deleted one slot. -/
def flushRaise (maxCount : UInt64) (t : Slot) : UInt64 :=
  match t.info? with
  | some x => raisedFor maxCount x.attributes t
  | none => maxCount

/-- The maximum counter after `NvFlushHierarchy()` has deleted all it selects. -/
def flushMax (hierarchy : TpmHandle) (maxCount : UInt64) (ts : List Slot) : UInt64 :=
  (ts.filter (flushes hierarchy)).foldl flushRaise maxCount

/-- The table after `NvFlushHierarchy()`. -/
def flushed (hierarchy : TpmHandle) (ts : List Slot) : List Slot :=
  ts.filter fun t => !flushes hierarchy t

/-! ## One turn of the loop -/

lemma Rep.failed (h : Rep s ts maxCount) : Rep s.failed ts maxCount := { h with }

lemma Frame.failed (s : Nv) : Frame s s.failed := { Frame.refl s with }

variable {t : Slot} {x : NvIndex}

lemma nvReadNvIndexInfo_eq (h : Rep s (pre ++ t :: post) maxCount) (hx : t.info? = some x) :
    nvReadNvIndexInfo (listEnd (entries pre) + 4) s = (x, s) := by
  obtain ⟨e, he, rfl⟩ : ∃ e : IndexEntry, t.entry = .index e ∧ e.info = x := by
    obtain ⟨p, rfl, hp⟩ | ⟨o, rfl, ho⟩ := Slot.plain_or_orderly hx
    · exact ⟨p.toIndexEntry, rfl, hp⟩
    · exact ⟨o.toIndexEntry, rfl, ho⟩
  have hbytes := h.dyn_split.entry
  have hle := h.dyn_split.entry_end_le
  rw [he] at hbytes hle
  rw [NvEntry.entrySize_index, NV_LIST_TERMINATOR_SIZE] at hle
  simp only [NvEntry.bytes, NvEntry.body, Mem.hasAt_append, length_leBytes] at hbytes
  have hread : nvRead (listEnd (entries pre) + 4) NV_INDEX_SIZE s = (e.info.toBytes, s) :=
    nvRead_of_hasAt hbytes.2.1 (by simp) (by omega)
  have hload : NvIndex.load (Mem.ofList e.info.toBytes) 0 = e.info :=
    NvIndex.load_of_hasAt (Mem.hasAt_ofList _)
  simp [nvReadNvIndexInfo, hread, hload]

lemma evict_attributes {e : EvictEntry} (h : Rep s (pre ++ .evict e :: post) maxCount) :
    nvRead (listEnd (entries pre) + 4 + 4) 4 s = (leBytes 4 e.object.attributes.toNat, s) := by
  have hbytes := h.dyn_split.entry
  have hle := h.dyn_split.entry_end_le
  rw [Slot.entry_evict, NvEntry.entrySize_evict, NV_EVICT_OBJECT_SIZE, OBJECT_SIZE] at hle
  simp only [Slot.entry_evict, NvEntry.bytes, NvEntry.body, Object.toBytes, Mem.hasAt_append,
    length_leBytes] at hbytes
  exact nvRead_of_hasAt hbytes.2.2.1.1.1 (by simp) (by omega)

lemma ofNat_leVal_attributes (a : BitVec 32) :
    BitVec.ofNat 32 (leVal (leBytes 4 a.toNat)) = a := by
  rw [leVal_leBytes a.isLt, BitVec.ofNat_toNat, BitVec.setWidth_eq]

lemma Slot.handle_of_info (hx : t.info? = some x) : t.handle = x.handle := by
  obtain ⟨p, rfl, rfl⟩ | ⟨o, rfl, rfl⟩ := Slot.plain_or_orderly hx <;> rfl

lemma Slot.isIndex (hx : t.info? = some x) : isIndexHandle x.handle = true := by
  obtain ⟨p, rfl, rfl⟩ | ⟨o, rfl, rfl⟩ := Slot.plain_or_orderly hx
  · exact p.isIndex
  · exact o.isIndex

lemma flushes_of_info (hierarchy : TpmHandle) (hx : t.info? = some x) :
    flushes hierarchy t = flushesIndex hierarchy x := by
  obtain ⟨p, rfl, rfl⟩ | ⟨o, rfl, rfl⟩ := Slot.plain_or_orderly hx <;> rfl

lemma flushRaise_of_info (maxCount : UInt64) (hx : t.info? = some x) :
    flushRaise maxCount t = raisedFor maxCount x.attributes t := by
  rw [flushRaise, hx]

lemma Slot.eq_evict (hx : t.info? = none) : ∃ e, t = .evict e := by
  cases t with
  | evict e => exact ⟨e, rfl⟩
  | plain p => simp [Slot.info?] at hx
  | orderly o => simp [Slot.info?] at hx

lemma flushEntry_index (hierarchy : TpmHandle) (h : Rep s (pre ++ t :: post) maxCount)
    (hx : t.info? = some x) :
    flushEntry hierarchy ⟨listEnd (entries pre) + 4, t.handle⟩ s =
      if flushes hierarchy t then
        (FlushStep.ofResult (nvDeleteIndex x (listEnd (entries pre) + 4) s).1,
          (nvDeleteIndex x (listEnd (entries pre) + 4) s).2)
      else (.skip, if handleGetType x.handle = TPM_HT_NV_INDEX then s else s.failed) := by
  have hne := handleGetType_ne_persistent (t.isIndex hx)
  have hinfo := nvReadNvIndexInfo_eq h hx
  have hattr : x.publicArea.attributes = x.attributes := rfl
  rw [t.handle_of_info hx, flushes_of_info hierarchy hx]
  by_cases htype : handleGetType x.handle = TPM_HT_NV_INDEX
  · by_cases hh : hierarchy = TPM_RH_ENDORSEMENT ∨ hierarchy = TPM_RH_PLATFORM
    · have hh' : (hierarchy == TPM_RH_ENDORSEMENT || hierarchy == TPM_RH_PLATFORM) = true := by
        simpa using hh
      simp only [flushEntry, flushesIndex, htype, if_true, hh, hh', NvM.pure_apply, Bool.not_true,
        Bool.and_false, Bool.false_and, Bool.false_eq_true, if_false]
    · have hh' : (hierarchy == TPM_RH_ENDORSEMENT || hierarchy == TPM_RH_PLATFORM) = false := by
        simpa using hh
      cases hp : x.attributes.isSet PLATFORMCREATE <;>
        simp [flushEntry, flushesIndex, htype, hh, hh', hinfo, hattr, hp]
  · simp [flushEntry, flushesIndex, htype, hne, fail]

lemma flushEntry_evict (hierarchy : TpmHandle) {e : EvictEntry}
    (h : Rep s (pre ++ .evict e :: post) maxCount) :
    flushEntry hierarchy ⟨listEnd (entries pre) + 4, (Slot.evict e).handle⟩ s =
      if flushes hierarchy (.evict e) then
        (FlushStep.ofResult (nvDelete (listEnd (entries pre) + 4) s).1,
          (nvDelete (listEnd (entries pre) + 4) s).2)
      else (.skip, s) := by
  have hne : ¬ TPM_HT_PERSISTENT = TPM_HT_NV_INDEX := by decide
  have htype : handleGetType (Slot.evict e).handle = TPM_HT_PERSISTENT := e.isPersistent
  cases hb : flushBit hierarchy e.object.attributes <;>
    simp [flushEntry, flushes, htype, hne, evict_attributes h, ofNat_leVal_attributes, hb]

lemma flushEntry_skip (hierarchy : TpmHandle) (h : Rep s (pre ++ t :: post) maxCount)
    (ht : flushes hierarchy t = false) :
    ∃ s', flushEntry hierarchy ⟨listEnd (entries pre) + 4, t.handle⟩ s = (.skip, s') ∧
      Rep s' ((pre ++ [t]) ++ post) maxCount ∧ Frame s s' ∧ s'.maxCounter = s.maxCounter := by
  rw [← append_cons]
  cases hx : t.info? with
  | none =>
    obtain ⟨e, rfl⟩ := t.eq_evict hx
    refine ⟨s, ?_, h, .refl s, rfl⟩
    rw [flushEntry_evict hierarchy h, ht, if_neg Bool.false_ne_true]
  | some x =>
    rw [flushEntry_index hierarchy h hx, ht, if_neg Bool.false_ne_true]
    split
    · exact ⟨s, rfl, h, .refl s, rfl⟩
    · exact ⟨s.failed, rfl, h.failed, .failed s, rfl⟩

lemma flushEntry_delete (hierarchy : TpmHandle) (h : Rep s (pre ++ t :: post) maxCount)
    (ht : flushes hierarchy t = true) (hstatus : s.nvStatus = TPM_RC_SUCCESS) :
    ∃ s', flushEntry hierarchy ⟨listEnd (entries pre) + 4, t.handle⟩ s = (.deleted, s') ∧
      Moves (s.setMax (flushRaise s.maxCounter t)) s' (pre ++ post) := by
  cases hx : t.info? with
  | none =>
    obtain ⟨e, rfl⟩ := t.eq_evict hx
    obtain ⟨s', hdel, hmoves⟩ := nvDelete_evict h hstatus
    refine ⟨s', ?_, hmoves⟩
    rw [flushEntry_evict hierarchy h, ht, if_pos rfl, hdel]
    rfl
  | some x =>
    obtain ⟨s', hdel, hmoves⟩ := nvDeleteIndex_success h hx rfl hstatus
    rw [NvIndex.withAttributes_self] at hdel
    refine ⟨s', ?_, by rwa [flushRaise_of_info _ hx]⟩
    rw [flushEntry_index hierarchy h hx, ht, if_pos rfl, hdel]
    rfl

lemma flushEntry_unavailable (hierarchy : TpmHandle) (h : Rep s (pre ++ t :: post) maxCount)
    (ht : flushes hierarchy t = true) (hstatus : s.nvStatus ≠ TPM_RC_SUCCESS) :
    flushEntry hierarchy ⟨listEnd (entries pre) + 4, t.handle⟩ s =
      (.stop s.nvStatus, s.setMax (flushRaise s.maxCounter t)) := by
  have hstop : FlushStep.ofResult s.nvStatus = .stop s.nvStatus := by
    simp [FlushStep.ofResult, hstatus]
  cases hx : t.info? with
  | none =>
    obtain ⟨e, rfl⟩ := t.eq_evict hx
    have hdel := nvDelete_unavailable h.dyn hstatus (listEnd (entries pre) + 4)
    rw [flushEntry_evict hierarchy h, ht, if_pos rfl, hdel, hstop]
    rfl
  | some x =>
    have hdel := nvDeleteIndex_unavailable h hx rfl hstatus
    rw [NvIndex.withAttributes_self] at hdel
    rw [flushEntry_index hierarchy h hx, ht, if_pos rfl, hdel, hstop, flushRaise_of_info _ hx]

/-! ## The loop -/

lemma nvNext_slot (h : Rep s (pre ++ t :: post) maxCount) :
    nvNext (listEnd (entries pre)) s =
      (some (⟨listEnd (entries pre) + 4, t.handle⟩, listEnd (entries (pre ++ [t]))), s) := by
  have hle := h.dyn_split.entry_end_le
  have hge := t.entry.le_entrySize
  rw [nvNext_entry h.dyn_split.entry (by omega), entries_append, entries_cons, entries_nil,
    listEnd_concat]
  rfl

lemma nvNext_last (h : Rep s ts maxCount) :
    nvNext (listEnd (entries ts)) s = (none, s) := by
  have hterm := h.dyn.hasTerminator
  have hfits := h.dyn.fits
  rw [terminator, Mem.hasAt_append] at hterm
  rw [NV_LIST_TERMINATOR_SIZE] at hfits
  exact nvNext_end hterm.1 (by omega)

/-- The fuel a walk needs that has `n` slots in all, `k` of them still to be deleted
and `m` still to be visited. -/
def flushFuel (n k m : ℕ) : ℕ := k * (n + 1) + m + 1

lemma flushLoop_available (hierarchy : TpmHandle) (n : ℕ) {fuel : ℕ}
    (h : Rep s (pre ++ post) maxCount) (hstatus : s.nvStatus = TPM_RC_SUCCESS)
    (hpre : ∀ t ∈ pre, flushes hierarchy t = false) (hn : (pre ++ post).length ≤ n)
    (hfuel : flushFuel n (post.countP (flushes hierarchy)) post.length ≤ fuel) :
    ∃ s' mc, flushLoop hierarchy fuel (listEnd (entries pre)) s = (TPM_RC_SUCCESS, s') ∧
      Rep s' (flushed hierarchy (pre ++ post)) mc ∧ Frame s s' ∧
      s'.maxCounter = flushMax hierarchy s.maxCounter (pre ++ post) ∧
      (mc = s'.maxCounter ∨
        mc = maxCount ∧ s'.maxCounter = s.maxCounter ∧
          flushed hierarchy (pre ++ post) = pre ++ post) := by
  induction fuel generalizing s pre post maxCount with
  | zero => simp [flushFuel] at hfuel
  | succ fuel ih =>
    have hkeep : pre.filter (flushes hierarchy) = [] := by
      simpa [filter_eq_nil_iff] using hpre
    cases post with
    | nil =>
      rw [append_nil] at h hn ⊢
      have hall : flushed hierarchy pre = pre := by
        simpa [flushed, filter_eq_self] using hpre
      refine ⟨s, maxCount, ?_, by rwa [hall], Frame.refl s, ?_, Or.inr ⟨rfl, rfl, hall⟩⟩
      · simp [flushLoop, nvNext_last h]
      · simp [flushMax, hkeep]
    | cons t post =>
      have hnext := nvNext_slot h
      cases ht : flushes hierarchy t with
      | false =>
        -- passed: the invariant holds with `t` before the iterator
        obtain ⟨s₁, hturn, hrep, hframe, hmax⟩ := flushEntry_skip hierarchy h ht
        have hpre' : ∀ u ∈ pre ++ [t], flushes hierarchy u = false := by
          intro u hu
          rcases mem_append.1 hu with hu | hu
          · exact hpre u hu
          · rwa [mem_singleton.1 hu]
        obtain ⟨s', mc, hloop, hrep', hframe', hmc, hor⟩ := ih hrep
          (hframe.nvStatus.trans hstatus) hpre' (by simpa using hn)
          (by
            simp only [flushFuel, countP_cons, ht, length_cons] at hfuel ⊢
            simp at hfuel
            omega)
        refine ⟨s', mc, ?_, by simpa using hrep', hframe.trans hframe', ?_, ?_⟩
        · simpa [flushLoop, hnext, hturn] using hloop
        · simpa [hmax] using hmc
        · simpa [hmax] using hor
      | true =>
        -- deleted: the walk starts over with one selected slot fewer
        obtain ⟨s₁, hturn, hmoves⟩ := flushEntry_delete hierarchy h ht hstatus
        have hframe : Frame s s₁ := (Frame.setMax ..).trans hmoves.frame
        have hrep₁ : Rep s₁ ([] ++ (pre ++ post)) _ := hmoves.rep
        obtain ⟨s', mc, hloop, hrep', hframe', hmc, hor⟩ := ih hrep₁
          (hframe.nvStatus.trans hstatus) (by simp)
          (by
            simp only [nil_append, length_append, length_cons] at hn ⊢
            omega)
          (by
            have hzero : pre.countP (flushes hierarchy) = 0 := by
              rw [countP_eq_length_filter, hkeep, length_nil]
            simp only [flushFuel, countP_cons, ht, length_cons, countP_append,
              hzero, length_append, if_true, Nat.zero_add] at hfuel hn ⊢
            rw [Nat.succ_mul] at hfuel
            omega)
        have hmax : s₁.maxCounter = flushRaise s.maxCounter t := hmoves.maxCounter
        refine ⟨s', mc, ?_, ?_, hframe.trans hframe', ?_, Or.inl ?_⟩
        · simpa [flushLoop, hnext, hturn] using hloop
        · simpa [flushed, ht] using hrep'
        · rw [hmc, hmax]
          simp [flushMax, hkeep, ht]
        · rcases hor with hor | ⟨hmc', hsame, -⟩
          · exact hor
          · rw [hmc', hsame, hmax]
            rfl

lemma flushLoop_unavailable (hierarchy : TpmHandle) {fuel : ℕ}
    (h : Rep s (pre ++ post) maxCount) (hstatus : s.nvStatus ≠ TPM_RC_SUCCESS)
    (hfuel : post.length < fuel) :
    ∃ rc s', flushLoop hierarchy fuel (listEnd (entries pre)) s = (rc, s') ∧
      Rep s' (pre ++ post) maxCount ∧ Frame s s' ∧
      (rc = TPM_RC_SUCCESS ∧ (∀ t ∈ post, flushes hierarchy t = false) ∧
          s'.maxCounter = s.maxCounter ∨
        rc = s.nvStatus ∧ ∃ t ∈ post, flushes hierarchy t = true ∧
          s'.maxCounter = flushRaise s.maxCounter t) := by
  induction fuel generalizing s pre post with
  | zero => simp at hfuel
  | succ fuel ih =>
    cases post with
    | nil =>
      rw [append_nil] at h ⊢
      exact ⟨TPM_RC_SUCCESS, s, by simp [flushLoop, nvNext_last h], h, Frame.refl s,
        Or.inl ⟨rfl, by simp, rfl⟩⟩
    | cons t post =>
      have hnext := nvNext_slot h
      cases ht : flushes hierarchy t with
      | true =>
        have hturn := flushEntry_unavailable hierarchy h ht hstatus
        refine ⟨s.nvStatus, s.setMax (flushRaise s.maxCounter t), ?_, h.setMax _,
          Frame.setMax .., Or.inr ⟨rfl, t, by simp, ht, rfl⟩⟩
        simp [flushLoop, hnext, hturn]
      | false =>
        obtain ⟨s₁, hturn, hrep, hframe, hmax⟩ := flushEntry_skip hierarchy h ht
        obtain ⟨rc, s', hloop, hrep', hframe', hor⟩ := ih hrep
          (by rwa [hframe.nvStatus]) (by simpa using hfuel)
        refine ⟨rc, s', ?_, by simpa using hrep', hframe.trans hframe', ?_⟩
        · simpa [flushLoop, hnext, hturn] using hloop
        · rw [hmax, hframe.nvStatus] at hor
          rcases hor with ⟨hrc, hnone, hmc⟩ | ⟨hrc, u, hu, hflush, hmc⟩
          · exact Or.inl ⟨hrc, by simpa [ht] using hnone, hmc⟩
          · exact Or.inr ⟨hrc, u, by simp [hu], hflush, hmc⟩

lemma nvFlushHierarchy_available (hierarchy : TpmHandle) (h : Rep s ts maxCount)
    (hstatus : s.nvStatus = TPM_RC_SUCCESS) :
    ∃ s' mc, nvFlushHierarchy hierarchy s = (TPM_RC_SUCCESS, s') ∧
      Rep s' (flushed hierarchy ts) mc ∧ Frame s s' ∧
      s'.maxCounter = flushMax hierarchy s.maxCounter ts ∧
      (mc = s'.maxCounter ∨
        mc = maxCount ∧ s'.maxCounter = s.maxCounter ∧ flushed hierarchy ts = ts) := by
  have hlen := h.dyn.length_lt
  have hcount : ts.countP (flushes hierarchy) ≤ ts.length := countP_le_length
  rw [entries, length_map, NV_MEMORY_SIZE] at hlen
  have h' : Rep s ([] ++ ts) maxCount := h
  refine flushLoop_available hierarchy ts.length h' hstatus (by simp) (by simp) ?_
  calc flushFuel ts.length (ts.countP (flushes hierarchy)) ts.length
      ≤ 216 * (216 + 1) + 216 + 1 := by
        rw [flushFuel]
        gcongr <;> omega
    _ ≤ NV_MEMORY_SIZE * NV_MEMORY_SIZE := by decide

lemma nvFlushHierarchy_unavailable (hierarchy : TpmHandle) (h : Rep s ts maxCount)
    (hstatus : s.nvStatus ≠ TPM_RC_SUCCESS) :
    ∃ rc s', nvFlushHierarchy hierarchy s = (rc, s') ∧ Rep s' ts maxCount ∧ Frame s s' ∧
      (rc = TPM_RC_SUCCESS ∧ flushed hierarchy ts = ts ∧ s'.maxCounter = s.maxCounter ∨
        rc = s.nvStatus ∧ ∃ t ∈ ts, flushes hierarchy t = true ∧
          s'.maxCounter = flushRaise s.maxCounter t) := by
  have hlen := h.dyn.length_lt
  rw [entries, length_map] at hlen
  have hbig : NV_MEMORY_SIZE ≤ NV_MEMORY_SIZE * NV_MEMORY_SIZE := by decide
  have h' : Rep s ([] ++ ts) maxCount := h
  obtain ⟨rc, s', hloop, hrep, hframe, hor⟩ := flushLoop_unavailable hierarchy h' hstatus
    (by omega : ts.length < NV_MEMORY_SIZE * NV_MEMORY_SIZE)
  refine ⟨rc, s', hloop, hrep, hframe, ?_⟩
  rcases hor with ⟨hrc, hnone, hmc⟩ | hor
  · refine Or.inl ⟨hrc, ?_, hmc⟩
    simpa [flushed, filter_eq_self] using hnone
  · exact Or.inr hor

/-! ## Manufacture -/

lemma nvManufacture_rep (s : Nv) :
    Rep (nvManufacture s).2 [] 0 ∧ (nvManufacture s).2.maxCounter = 0 ∧
      (nvManufacture s).2.inFailureMode = s.inFailureMode := by
  set s₁ : Nv := ({ s with evictNvEnd := NV_MEMORY_SIZE } : Nv).setRam
    (s.indexOrderlyRam.fill 0 RAM_INDEX_SPACE 0) with hs₁
  have hram : RamRep s₁.indexOrderlyRam [] := by
    refine ⟨Mem.hasAt_nil .., by simp, fun _ => ?_⟩
    rw [leBytes_zero]
    exact Mem.hasAt_fill le_rfl (by decide)
  obtain ⟨nv', hsave, hbackup, -⟩ := nvUpdateIndexOrderlyData_eq hram
  have hend : NV_USER_DYNAMIC + NV_LIST_TERMINATOR_SIZE ≤ NV_MEMORY_SIZE := by decide
  have hlist := nvWriteNvListEnd_eq (s := (s₁.withNv nv').setMax 0) (a := NV_USER_DYNAMIC) hend hend
  have heq : nvManufacture s = ((), ((s₁.withNv nv').setMax 0).withNv
      (nv'.write NV_USER_DYNAMIC (terminator 0))) := by
    have hset : nvSetMaxCount 0 (s₁.withNv nv') = ((), (s₁.withNv nv').setMax 0) := rfl
    simp only [nvManufacture, NvM.bind_apply, NvM.modify_apply, ramClear, ← hs₁, hsave, hset, hlist,
      NvM.pure_apply]
    rfl
  rw [heq]
  refine ⟨⟨?_, hram, Or.inr ?_, by simp, rfl⟩, rfl, rfl⟩
  · exact DynRep.of_parts (Mem.hasAt_nil ..) (Mem.hasAt_write ..) hend
  · exact hbackup.congr fun a _ ha => Mem.write_of_lt _ ha

end RfTpm
