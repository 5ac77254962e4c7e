import RfTpm.Lib.Runs
import RfTpm.Nv.IndexSpec

/-!
# Runs of allocations

The system of the five functions that change which entities NV holds, started from
the image `NvManufacture()` writes.  One step is one command: `NvCheckState()` has
set `g_NvStatus`, which may be anything, `NvIndexCacheInit()` has emptied the cache,
and the function is called under the checks its callers make (`CallerOk`).

`TableStep` says what such a step does to the table; `alloc_step` is the one lemma
that opens the functions, and every result about these runs goes through it.
-/

namespace RfTpm

open TpmaNv Runs List

/-- A call of one of the allocating functions. -/
inductive AllocOp where
  | defineIndex (publicArea : TpmsNvPublic) (authValue : Tpm2b)
  | addEvictObject (evictHandle : TpmHandle) (object : Object)
  | deleteIndex (handle : TpmHandle)
  | deleteEvict (handle : TpmHandle)
  | flushHierarchy (hierarchy : TpmHandle)

/-- `NvGetIndexInfo()` followed by `NvDeleteIndex()`, as `TPM2_NV_UndefineSpace()` does.
A null description is not deleted. -/
def nvLookupAndDelete (handle : TpmHandle) : NvM TpmRc := do
  let found ← nvGetIndexInfo handle
  match found with
  | some (nvIndex, locator) => nvDeleteIndex nvIndex locator
  | none => pure TPM_RC_SUCCESS

/-- The function a call stands for. -/
def AllocOp.run : AllocOp → NvM TpmRc
  | defineIndex publicArea authValue => nvDefineIndex publicArea authValue
  | addEvictObject evictHandle object => nvAddEvictObject evictHandle object
  | deleteIndex handle => nvLookupAndDelete handle
  | deleteEvict handle => nvDeleteEvict handle
  | flushHierarchy hierarchy => nvFlushHierarchy hierarchy

/-- The checks made before the call: by `TPM2_NV_DefineSpace()` and the unmarshaling of
its public area, by `TPM2_EvictControl()`, and by the unmarshaling of a handle. -/
def AllocOp.CallerOk (s : Nv) : AllocOp → Prop
  | defineIndex publicArea _ => (nvFindHandle publicArea.nvIndex s).1 = 0 ∧
      isIndexHandle publicArea.nvIndex = true ∧ publicArea.dataSize.toNat ≤ MAX_NV_INDEX_SIZE ∧
      (isNvCounterIndex publicArea.attributes = true → publicArea.dataSize.toNat = 8) ∧
      publicArea.attributes.isSet WRITTEN = false
  | addEvictObject evictHandle _ => (nvFindHandle evictHandle s).1 = 0 ∧
      handleGetType evictHandle = TPM_HT_PERSISTENT
  | deleteIndex handle => isIndexHandle handle = true
  | deleteEvict handle => handleGetType handle = TPM_HT_PERSISTENT
  | flushHierarchy _ => True

/-- One command that makes a call: the call, and what `NvCheckState()` found. -/
structure AllocStep where
  nvStatus : TpmRc
  op : AllocOp

/-- The start of a command: `NvCheckState()` and `NvIndexCacheInit()`. -/
def beginCommand (nvStatus : TpmRc) (s : Nv) : Nv :=
  (nvIndexCacheInit { s with toGlobals := s.toGlobals.nvCheckState nvStatus }).2

/-- The result of the call and the state after it. -/
def AllocStep.exec (step : AllocStep) (s : Nv) : TpmRc × Nv :=
  step.op.run (beginCommand step.nvStatus s)

/-- The system of allocations. -/
def allocSystem : System Nv AllocStep where
  init s := ∃ s₀ : Nv, s₀.inFailureMode = false ∧ s = (nvManufacture s₀).2
  enabled s step := step.op.CallerOk s
  step s step := (step.exec s).2

/-! ## What a step does to the table -/

variable {s : Nv} {ts ts' pre post : List Slot} {t : Slot} {maxCount : UInt64}

/-- The table before and after a call, and its result. -/
inductive TableStep : AllocOp → TpmRc → List Slot → List Slot → Prop where
  | refused {op : AllocOp} {rc : TpmRc} {ts : List Slot} (h : rc ≠ TPM_RC_SUCCESS) :
      TableStep op rc ts ts
  | defined {publicArea : TpmsNvPublic} {authValue : Tpm2b} {ts : List Slot} {t : Slot}
      (h : IsDefined publicArea authValue t)
      (fits : NvFits ts (defineEntrySize publicArea) true (isNvCounterIndex publicArea.attributes))
      (ramFits : RamFits ts publicArea) :
      TableStep (.defineIndex publicArea authValue) TPM_RC_SUCCESS ts (ts ++ [t])
  | added {evictHandle : TpmHandle} {object : Object} {ts : List Slot}
      (htype : handleGetType evictHandle = TPM_HT_PERSISTENT)
      (fits : NvFits ts (OBJECT_SIZE + 4) false false) :
      TableStep (.addEvictObject evictHandle object) TPM_RC_SUCCESS ts
        (ts ++ [evictSlot evictHandle object htype])
  | deletedIndex {pre post : List Slot} {t : Slot} {x : NvIndex} (hx : t.info? = some x) :
      TableStep (.deleteIndex x.handle) TPM_RC_SUCCESS (pre ++ t :: post) (pre ++ post)
  | deletedEvict {pre post : List Slot} {e : EvictEntry} :
      TableStep (.deleteEvict e.handle) TPM_RC_SUCCESS (pre ++ .evict e :: post) (pre ++ post)
  | absentIndex {handle : TpmHandle} {ts : List Slot} (h : handle ∉ slotHandles ts) :
      TableStep (.deleteIndex handle) TPM_RC_SUCCESS ts ts
  | absentEvict {handle : TpmHandle} {ts : List Slot} (h : handle ∉ slotHandles ts) :
      TableStep (.deleteEvict handle) TPM_RC_SUCCESS ts ts
  | flushed {hierarchy : TpmHandle} {ts : List Slot} :
      TableStep (.flushHierarchy hierarchy) TPM_RC_SUCCESS ts (flushed hierarchy ts)

/-- No index of the slot has been written. -/
def Slot.Unwritten (t : Slot) : Prop :=
  ∀ x, t.info? = some x → x.attributes.isSet WRITTEN = false ∧ t.attributes.isSet WRITTEN = false

/-- The invariant of the runs: the state represents a table of unwritten entities, with
the current maximum counter in the terminator. -/
structure AllocInv (s : Nv) (ts : List Slot) : Prop where
  rep : Rep s ts s.maxCounter
  unwritten : ∀ t ∈ ts, t.Unwritten

variable {publicArea : TpmsNvPublic} {handle : TpmHandle}

lemma IsDefined.unwritten {authValue : Tpm2b} (h : IsDefined publicArea authValue t)
    (hw : publicArea.attributes.isSet WRITTEN = false) : t.Unwritten := by
  intro x hx
  cases t with
  | evict e => exact h.elim
  | plain p =>
    obtain rfl : p.info = x := by simpa [Slot.info?] using hx
    have hattr : p.info.attributes = publicArea.attributes := by
      rw [show p.info = _ from h]
      rfl
    exact ⟨by rw [hattr]; exact hw, by rw [Slot.attributes, hattr]; exact hw⟩
  | orderly o =>
    obtain rfl : o.info = x := by simpa [Slot.info?] using hx
    obtain ⟨hinfo, hlive, -⟩ := h
    have hattr : o.info.attributes = publicArea.attributes := by
      rw [hinfo]
      rfl
    refine ⟨by rw [hattr]; exact hw, ?_⟩
    rw [Slot.attributes, hlive]
    exact hw

lemma raisedFor_of_not_written {a : TpmaNv} (h : a.isSet WRITTEN = false) :
    raisedFor maxCount a t = maxCount := by
  simp [raisedFor, h]

lemma flushRaise_of_unwritten (h : t.Unwritten) : flushRaise maxCount t = maxCount := by
  cases hx : t.info? with
  | none => rw [flushRaise, hx]
  | some x => rw [flushRaise_of_info _ hx, raisedFor_of_not_written (h x hx).1]

lemma flushMax_of_unwritten (hierarchy : TpmHandle) (h : ∀ t ∈ ts, t.Unwritten) :
    flushMax hierarchy maxCount ts = maxCount := by
  have hall : ∀ us : List Slot, (∀ t ∈ us, t.Unwritten) →
      us.foldl flushRaise maxCount = maxCount := by
    intro us hus
    induction us with
    | nil => rfl
    | cons u us ih =>
      rw [foldl_cons, flushRaise_of_unwritten (hus u (by simp))]
      exact ih fun t ht => hus t (by simp [ht])
  exact hall _ fun t ht => h t (mem_filter.1 ht).1

lemma Rep.beginCommand (h : Rep s ts maxCount) (nvStatus : TpmRc) :
    Rep (beginCommand nvStatus s) ts maxCount := { h with }

lemma beginCommand_cached (nvStatus : TpmRc) (s : Nv) :
    (beginCommand nvStatus s).cachedNvIndex.handle = TPM_RH_UNASSIGNED := rfl

lemma Rep.notMem_of_find (h : Rep s ts maxCount) (hfind : (nvFindHandle handle s).1 = 0) :
    handle ∉ slotHandles ts := by
  intro hmem
  obtain ⟨pre, t, post, rfl, rfl⟩ := exists_split_of_mem hmem
  rw [h.find] at hfind
  simp at hfind

section

variable {x : NvIndex} (h : Rep s (pre ++ t :: post) maxCount) (hx : t.info? = some x)
  (hcache : s.cachedNvIndex.handle ≠ x.handle)
include h hx hcache

lemma nvLookupAndDelete_success (hstatus : s.nvStatus = TPM_RC_SUCCESS) :
    ∃ s', nvLookupAndDelete x.handle s = (TPM_RC_SUCCESS, s') ∧ Frame s s' ∧
      Rep s' (pre ++ post) s'.maxCounter ∧ s'.inFailureMode = s.inFailureMode ∧
      s'.maxCounter = raisedFor s.maxCounter t.attributes t := by
  have hget := nvGetIndexInfo_found h hx hcache
  have hrep := h.setCache (x.withAttributes t.attributes) (listEnd (entries pre) + 4) (ramRef pre t)
  obtain ⟨s', hdel, hmoves⟩ := nvDeleteIndex_success hrep hx (t.static_attributes hx) hstatus
  have hmax : s'.maxCounter = raisedFor s.maxCounter t.attributes t := hmoves.maxCounter
  refine ⟨s', ?_, ((Frame.setCache ..).trans (Frame.setMax ..)).trans hmoves.frame, ?_,
    hmoves.failure, hmax⟩
  · simp [nvLookupAndDelete, hget, hdel]
  · rw [hmax]
    exact hmoves.rep

lemma nvLookupAndDelete_unavailable (hstatus : s.nvStatus ≠ TPM_RC_SUCCESS) :
    ∃ s', nvLookupAndDelete x.handle s = (s.nvStatus, s') ∧ Frame s s' ∧
      Rep s' (pre ++ t :: post) maxCount ∧ s'.inFailureMode = s.inFailureMode ∧
      s'.maxCounter = raisedFor s.maxCounter t.attributes t := by
  have hget := nvGetIndexInfo_found h hx hcache
  have hrep := h.setCache (x.withAttributes t.attributes) (listEnd (entries pre) + 4) (ramRef pre t)
  have hdel := nvDeleteIndex_unavailable hrep hx (t.static_attributes hx) hstatus
  exact ⟨_, by simp only [nvLookupAndDelete, NvM.bind_apply, hget, hdel]; rfl,
    (Frame.setCache ..).trans (Frame.setMax ..), hrep.setMax _, rfl, rfl⟩

end

/-- The call `op`, with result and state `r`, takes a state that represents `ts` to one
that represents the table a `TableStep` leads to.  Only a flush can enter failure mode. -/
def Simulates (op : AllocOp) (s : Nv) (ts : List Slot) (r : TpmRc × Nv) : Prop :=
  ∃ ts', TableStep op r.1 ts ts' ∧ AllocInv r.2 ts' ∧
    ((∀ hierarchy, op ≠ .flushHierarchy hierarchy) → r.2.inFailureMode = s.inFailureMode)

lemma AllocInv.of_moves {s' : Nv} (h : Moves s s' ts') (hu : ∀ t ∈ ts', t.Unwritten) :
    AllocInv s' ts' := by
  refine ⟨?_, hu⟩
  rw [h.maxCounter]
  exact h.rep

lemma AllocInv.concat {s' : Nv} (h : AllocInv s ts) (hmoves : Moves s s' (ts ++ [t]))
    (ht : t.Unwritten) : AllocInv s' (ts ++ [t]) := by
  refine .of_moves hmoves fun u hu => ?_
  rcases mem_append.1 hu with hu | hu
  · exact h.unwritten u hu
  · rwa [mem_singleton.1 hu]

lemma AllocInv.sublist (h : AllocInv s ts) (hsub : ts'.Sublist ts) : ∀ t ∈ ts', t.Unwritten :=
  fun t ht => h.unwritten t (hsub.subset ht)

lemma simulates_defineIndex (h : AllocInv s ts) (authValue : Tpm2b)
    (hok : (AllocOp.defineIndex publicArea authValue).CallerOk s) :
    Simulates (.defineIndex publicArea authValue) s ts (nvDefineIndex publicArea authValue s) := by
  obtain ⟨hfind, hindex, hsize, hcounter, hwritten⟩ := hok
  by_cases hpass : s.nvStatus = TPM_RC_SUCCESS ∧
      NvFits ts (defineEntrySize publicArea) true (isNvCounterIndex publicArea.attributes) ∧
      RamFits ts publicArea
  · obtain ⟨hstatus, hfits, hramFits⟩ := hpass
    obtain ⟨s', t, hdef, ht, hmoves⟩ := nvDefineIndex_success h.rep authValue hindex hsize
      hcounter (h.rep.notMem_of_find hfind) hstatus hfits hramFits
    rw [hdef]
    exact ⟨ts ++ [t], .defined ht hfits hramFits, h.concat hmoves (ht.unwritten hwritten),
      fun _ => hmoves.failure⟩
  · obtain ⟨rc, hrc, hdef⟩ := nvDefineIndex_error h.rep authValue hpass
    rw [hdef]
    exact ⟨ts, .refused hrc, h, fun _ => rfl⟩

lemma simulates_addEvictObject (h : AllocInv s ts) {evictHandle : TpmHandle} (object : Object)
    (hok : (AllocOp.addEvictObject evictHandle object).CallerOk s) :
    Simulates (.addEvictObject evictHandle object) s ts
      (nvAddEvictObject evictHandle object s) := by
  obtain ⟨hfind, htype⟩ := hok
  by_cases hpass : s.nvStatus = TPM_RC_SUCCESS ∧ NvFits ts (OBJECT_SIZE + 4) false false
  · obtain ⟨s', hadd, hmoves⟩ := nvAddEvictObject_success h.rep object htype
      (h.rep.notMem_of_find hfind) hpass.1 hpass.2
    rw [hadd]
    refine ⟨_, .added htype hpass.2, h.concat hmoves ?_, fun _ => hmoves.failure⟩
    intro x hx
    simp [evictSlot, Slot.info?] at hx
  · obtain ⟨rc, hrc, hadd⟩ := nvAddEvictObject_error h.rep object hpass
    rw [hadd]
    exact ⟨ts, .refused hrc, h, fun _ => rfl⟩

lemma simulates_deleteIndex (h : AllocInv s ts) (hindex : isIndexHandle handle = true)
    (hcache : s.cachedNvIndex.handle ≠ handle) :
    Simulates (.deleteIndex handle) s ts (nvLookupAndDelete handle s) := by
  by_cases hmem : handle ∈ slotHandles ts
  · obtain ⟨pre, t, post, rfl, rfl⟩ := exists_split_of_mem hmem
    obtain ⟨x, hx⟩ := t.exists_info hindex
    rw [t.handle_of_info hx] at hcache ⊢
    -- an unwritten counter does not raise the maximum counter
    have hraise : raisedFor s.maxCounter t.attributes t = s.maxCounter :=
      raisedFor_of_not_written (h.unwritten t (by simp) x hx).2
    by_cases hstatus : s.nvStatus = TPM_RC_SUCCESS
    · obtain ⟨s', hdel, -, hrep, hfail, -⟩ := nvLookupAndDelete_success h.rep hx hcache hstatus
      rw [hdel]
      refine ⟨_, .deletedIndex hx, ⟨hrep, h.sublist ?_⟩, fun _ => hfail⟩
      exact List.Sublist.append_left (sublist_cons_self ..) _
    · obtain ⟨s', hdel, -, hrep, hfail, hmax⟩ :=
        nvLookupAndDelete_unavailable h.rep hx hcache hstatus
      rw [hdel]
      refine ⟨_, .refused hstatus, ⟨?_, h.unwritten⟩, fun _ => hfail⟩
      rw [hmax, hraise]
      exact hrep
  · have hget := nvGetIndexInfo_none h.rep hmem hcache
    have hdel : nvLookupAndDelete handle s =
        (TPM_RC_SUCCESS, s.setCache s.cachedNvIndex.unassigned 0 none) := by
      simp [nvLookupAndDelete, hget]
    rw [hdel]
    exact ⟨ts, .absentIndex hmem, ⟨h.rep.setCache .., h.unwritten⟩, fun _ => rfl⟩

lemma simulates_deleteEvict (h : AllocInv s ts)
    (htype : handleGetType handle = TPM_HT_PERSISTENT) :
    Simulates (.deleteEvict handle) s ts (nvDeleteEvict handle s) := by
  by_cases hmem : handle ∈ slotHandles ts
  · obtain ⟨pre, t, post, rfl, rfl⟩ := exists_split_of_mem hmem
    obtain ⟨e, rfl⟩ : ∃ e, t = .evict e := by
      cases hx : t.info? with
      | none => exact t.eq_evict hx
      | some x =>
        rw [t.handle_of_info hx] at htype
        exact absurd htype (handleGetType_ne_persistent (t.isIndex hx))
    have hfind := h.rep.find
    by_cases hstatus : s.nvStatus = TPM_RC_SUCCESS
    · obtain ⟨s', hdel, hmoves⟩ := nvDelete_evict h.rep hstatus
      have heq : nvDeleteEvict (Slot.evict e).handle s = (TPM_RC_SUCCESS, s') := by
        simp [nvDeleteEvict, hfind, hdel]
      rw [heq]
      refine ⟨_, .deletedEvict, .of_moves hmoves (h.sublist ?_), fun _ => hmoves.failure⟩
      exact List.Sublist.append_left (sublist_cons_self ..) _
    · have hdel := nvDelete_unavailable h.rep.dyn hstatus (listEnd (entries pre) + 4)
      have heq : nvDeleteEvict (Slot.evict e).handle s = (s.nvStatus, s) := by
        simp [nvDeleteEvict, hfind, hdel]
      rw [heq]
      exact ⟨_, .refused hstatus, h, fun _ => rfl⟩
  · have heq : nvDeleteEvict handle s = (TPM_RC_SUCCESS, s) := by
      simp [nvDeleteEvict, h.rep.find_none hmem]
    rw [heq]
    exact ⟨ts, .absentEvict hmem, h, fun _ => rfl⟩

lemma simulates_flushHierarchy (h : AllocInv s ts) (hierarchy : TpmHandle) :
    Simulates (.flushHierarchy hierarchy) s ts (nvFlushHierarchy hierarchy s) := by
  by_cases hstatus : s.nvStatus = TPM_RC_SUCCESS
  · obtain ⟨s', mc, hflush, hrep, -, hmax, hmc⟩ :=
      nvFlushHierarchy_available hierarchy h.rep hstatus
    rw [flushMax_of_unwritten hierarchy h.unwritten] at hmax
    have hmc' : mc = s'.maxCounter := by
      rcases hmc with hmc | ⟨hmc, -⟩
      · exact hmc
      · rw [hmc, hmax]
    rw [hflush]
    refine ⟨_, .flushed, ⟨hmc' ▸ hrep, h.sublist filter_sublist⟩, fun hne => ?_⟩
    exact absurd rfl (hne hierarchy)
  · obtain ⟨rc, s', hflush, hrep, -, hor⟩ :=
      nvFlushHierarchy_unavailable hierarchy h.rep hstatus
    rw [hflush]
    rcases hor with ⟨rfl, hsame, hmax⟩ | ⟨rfl, t, ht, -, hmax⟩
    · refine ⟨ts, ?_, ⟨by rwa [hmax], h.unwritten⟩, fun hne => absurd rfl (hne hierarchy)⟩
      conv_rhs => rw [← hsame]
      exact .flushed
    · rw [flushRaise_of_unwritten (h.unwritten t ht)] at hmax
      exact ⟨ts, .refused hstatus, ⟨by rwa [hmax], h.unwritten⟩,
        fun hne => absurd rfl (hne hierarchy)⟩

lemma AllocInv.beginCommand (h : AllocInv s ts) (nvStatus : TpmRc) :
    AllocInv (beginCommand nvStatus s) ts :=
  ⟨h.rep.beginCommand nvStatus, h.unwritten⟩

lemma simulates_run (h : AllocInv s ts) {op : AllocOp} (hok : op.CallerOk s)
    (hcache : s.cachedNvIndex.handle = TPM_RH_UNASSIGNED) : Simulates op s ts (op.run s) := by
  cases op with
  | defineIndex publicArea authValue => exact simulates_defineIndex h authValue hok
  | addEvictObject evictHandle object => exact simulates_addEvictObject h object hok
  | deleteIndex handle =>
    refine simulates_deleteIndex h hok ?_
    rw [hcache]
    rintro rfl
    exact absurd hok (by decide : ¬ isIndexHandle TPM_RH_UNASSIGNED = true)
  | deleteEvict handle => exact simulates_deleteEvict h hok
  | flushHierarchy hierarchy => exact simulates_flushHierarchy h hierarchy

lemma AllocOp.CallerOk.beginCommand (h : Rep s ts maxCount) {op : AllocOp}
    (hok : op.CallerOk s) (nvStatus : TpmRc) : op.CallerOk (beginCommand nvStatus s) := by
  have hfind : ∀ handle, (nvFindHandle handle s).1 = 0 →
      (nvFindHandle handle (RfTpm.beginCommand nvStatus s)).1 = 0 := by
    intro handle hzero
    rw [(h.beginCommand nvStatus).find_none (h.notMem_of_find hzero)]
  cases op with
  | defineIndex publicArea authValue => exact ⟨hfind _ hok.1, hok.2⟩
  | addEvictObject evictHandle object => exact ⟨hfind _ hok.1, hok.2⟩
  | deleteIndex handle => exact hok
  | deleteEvict handle => exact hok
  | flushHierarchy hierarchy => exact hok

lemma alloc_step (h : AllocInv s ts) (step : AllocStep) (hok : step.op.CallerOk s) :
    Simulates step.op s ts (step.exec s) := by
  have hrun := simulates_run (h.beginCommand step.nvStatus) (hok.beginCommand h.rep step.nvStatus)
    (beginCommand_cached _ _)
  obtain ⟨ts', hstep, hinv, hfail⟩ := hrun
  exact ⟨ts', hstep, hinv, hfail⟩

lemma alloc_inv (h : allocSystem.Reach s) : ∃ ts, AllocInv s ts := by
  refine h.invariant (I := fun s => ∃ ts, AllocInv s ts) ?_ ?_
  · rintro _ ⟨s₀, -, rfl⟩
    obtain ⟨hrep, hmax, -⟩ := nvManufacture_rep s₀
    exact ⟨[], by rwa [hmax], by simp⟩
  · rintro s step ⟨ts, hinv⟩ hok
    obtain ⟨ts', -, hinv', -⟩ := alloc_step hinv step hok
    exact ⟨ts', hinv'⟩

end RfTpm
