import RfTpm.Exec.Restart
import RfTpm.Nv.Capacity

/-!
# The bounds of reads from NV

`NvRead()` asserts that a read ends before the last byte of NV, while the additions only
make sure that the terminator ends at it.  A traversal reads eight bytes of the
twelve-byte terminator, so its reads are in bounds in every state the allocating functions
reach.  `NvGetMaxCount()` reads to the end of the terminator, so with the list filling NV
to the last byte the assertion fails, at the next startup.
-/

namespace RfTpm

open Packed

variable {s : Nv} {ts : List Slot} {maxCount : UInt64}

/-- The TPM loses power, comes back, and receives `TPM2_Startup()`. -/
def restart (nvStatus : TpmRc) (c : PowerCycle) (i : StartupInput) (startupType : UInt16) :
    NvM TpmRc := do
  tpmInit c
  runCommand nvStatus true do
    nvIndexCacheInit
    tpm2Startup i startupType

/-- The reads of the traversals and of `NvGetMaxCount()` are in bounds, and no startup from
the committed image fails on account of them: it fails only if another subsystem does. -/
structure ReadsInBounds (s : Nv) : Prop where
  traversal : ∀ p, (nvSearch p s).2.inFailureMode = false
  typed : ∀ type p, (walk (nvNextByType type) p NV_MEMORY_SIZE NV_USER_DYNAMIC s).2.inFailureMode =
    false
  maxCount : (nvGetMaxCount s).2.inFailureMode = false
  startup : ∀ nvStatus c i startupType s', s'.file = s.commitImage → c.initOk = true →
    i.pcrOk = true → i.resetCountWraps = false →
    (restart nvStatus c i startupType s').2.inFailureMode = false

lemma nvSearch_state (h : Rep s ts maxCount) (p : NvNode → Bool) : (nvSearch p s).2 = s :=
  congrArg Prod.snd (walk_chain h.dyn.chain p (h.dyn.fuel _))

lemma typed_search_state (h : Rep s ts maxCount) (type : ℕ) (p : NvNode → Bool) :
    (walk (nvNextByType type) p NV_MEMORY_SIZE NV_USER_DYNAMIC s).2 = s := by
  obtain ⟨e', hchain⟩ := h.dyn.typedChain type
  have hfuel := typedNodes_fuel h.dyn type
  exact congrArg Prod.snd (walk_chain hchain p (by simpa using hfuel))

lemma restart_ok (nvStatus : TpmRc) {c : PowerCycle} {i : StartupInput} (startupType : UInt16)
    (h : ImageRep s.file ts maxCount)
    (hfits : listEnd (entries ts) + NV_LIST_TERMINATOR_SIZE < NV_MEMORY_SIZE)
    (hc : c.initOk = true) (hpcr : i.pcrOk = true) (hwraps : i.resetCountWraps = false) :
    (restart nvStatus c i startupType s).2.inFailureMode = false := by
  set s₁ := (nvIndexCacheInit ((tpmInit c s).2.started nvStatus)).2 with hs₁
  obtain ⟨rc, s₂, hrun, hcases⟩ := tpm2Startup_cases (s := s₁) i startupType h rfl
  have hfail₁ : s₁.inFailureMode = false := by simp [hs₁, nvIndexCacheInit, Nv.started, tpmInit, hc]
  have hfail₂ : s₂.inFailureMode = false := by
    rcases hcases with ⟨-, href⟩ | ⟨-, hno, -⟩ | ⟨-, hstarted⟩
    · rw [href.eq]
      exact hfail₁
    · rw [hpcr] at hno
      cases hno
    · rw [hstarted.failure, hfail₁, hwraps, decide_eq_true hfits]
      simp
  have heq : (restart nvStatus c i startupType s).2 = (commitUpdate true s₂.orderlyCleared).2 := by
    have hinit : (tpmInit c s).2.inFailureMode = false := by simp [tpmInit, hc]
    simp only [restart, NvM.bind_apply, runCommand_eq _ _ _ hinit, ← hs₁, hrun]
  rw [heq, commitUpdate_inFailureMode, ← hfail₂]
  refine ⟨?_, Or.inr rfl⟩
  rw [Nv.orderlyCleared]
  split <;> rfl

/-- A startup in which every subsystem comes up. -/
def quietStartup : StartupInput where
  locality := 0
  cryptOk := true
  pcrOk := true
  resetCountWraps := false
  shEnable := true
  phEnableNv := true
  reserved := none

/-- A power cycle without incident. -/
def quietCycle : PowerCycle := ⟨fun _ => 0, true, false⟩

lemma restart_full (h : ImageRep s.file ts maxCount)
    (hfull : ¬ listEnd (entries ts) + NV_LIST_TERMINATOR_SIZE < NV_MEMORY_SIZE) :
    (restart TPM_RC_SUCCESS quietCycle quietStartup TPM_SU_CLEAR s).2.inFailureMode = true := by
  set s₁ := (nvIndexCacheInit ((tpmInit quietCycle s).2.started TPM_RC_SUCCESS)).2 with hs₁
  have haccepted : StartupAccepted quietStartup TPM_SU_CLEAR s₁ :=
    ⟨rfl, by simp [quietStartup], rfl⟩
  obtain ⟨s₂, hrun, hstarted⟩ := haccepted.started h rfl rfl rfl
  have hfail₂ : s₂.inFailureMode = true := by
    rw [hstarted.failure, decide_eq_false hfull]
    simp
  have hfail₃ : s₂.orderlyCleared.inFailureMode = true := by
    rw [Nv.orderlyCleared]
    split <;> exact hfail₂
  have hinit : (tpmInit quietCycle s).2.inFailureMode = false := rfl
  simp only [restart, NvM.bind_apply, runCommand_eq _ _ _ hinit, ← hs₁, hrun,
    commitUpdate_skipped true (Or.inr hfail₃), hfail₃]

/-- In every state reached by definitions, additions and deletions, the reads are in bounds
exactly if the list and its terminator do not fill NV to the last byte. -/
theorem reads_in_bounds_iff (h : entitySystem.Reach s) :
    ReadsInBounds s ↔ (nvGetFreeBytes s).1 ≠ NV_LIST_TERMINATOR_SIZE := by
  obtain ⟨ts, hinv, hf⟩ := entity_inv h
  have hrep := hinv.rep
  have hfits := hrep.dyn.fits
  have hfree : (nvGetFreeBytes s).1 ≠ NV_LIST_TERMINATOR_SIZE ↔
      listEnd (entries ts) + NV_LIST_TERMINATOR_SIZE < NV_MEMORY_SIZE := by
    rw [nvGetFreeBytes_eq hrep.dyn, hrep.evictEnd]
    constructor <;> intro hne <;> omega
  rw [hfree]
  constructor
  · intro hreads
    by_contra hfull
    have hmax := hreads.maxCount
    rw [nvGetMaxCount_eq hrep.dyn, if_neg hfull] at hmax
    simp [Nv.failed] at hmax
  · intro hlt
    refine ⟨fun p => ?_, fun type p => ?_, ?_, ?_⟩
    · rw [nvSearch_state hrep, hf]
    · rw [typed_search_state hrep, hf]
    · rw [nvGetMaxCount_eq hrep.dyn, if_pos hlt]
      exact hf
    · intro nvStatus c i startupType s' hfile hc hpcr hwraps
      have himage : ImageRep s'.file (committed s.updateNv ts) s.maxCounter := by
        rw [hfile]
        exact hrep.commitImage
      exact restart_ok nvStatus startupType himage (by rwa [entries_committed]) hc hpcr hwraps

theorem reads_in_bounds_sample : ∃ s es, entitySystem.Reach s ∧
    DynRep s.nv es s.maxCounter ∧ handles es = sampleHandles ∧ ReadsInBounds s := by
  obtain ⟨us, hrun, hhandles, hfree⟩ : ∃ us, runPlans (fun _ _ => true) samplePlan [] = some us ∧
      us.map Item.handle = sampleHandles ∧ freeBytes us ≠ NV_LIST_TERMINATOR_SIZE := by
    refine ⟨(runPlans (fun _ _ => true) samplePlan []).getD [], ?_, ?_, ?_⟩ <;> decide +kernel
  obtain ⟨s, ts, hreach, hinv, rfl⟩ := exists_of_plans hrun
  refine ⟨s, entries ts, hreach, hinv.rep.dyn, ?_, (reads_in_bounds_iff hreach).mpr ?_⟩
  · rw [handles_entries, handles_items, hhandles]
  · rwa [nvGetFreeBytes_eq hinv.rep.dyn, hinv.rep.evictEnd, freeBytes_items]

/-- A history of accepted allocations after which `NvGetMaxCount()` reads out of bounds, and
the next `TPM2_Startup(TPM_SU_CLEAR)` enters failure mode. -/
theorem reads_out_of_bounds : ∃ s : Nv, entitySystem.Reach s ∧
    (restart TPM_RC_SUCCESS quietCycle quietStartup TPM_SU_CLEAR
      { s with file := s.commitImage }).2.inFailureMode = true ∧ ¬ ReadsInBounds s := by
  obtain ⟨us, hrun, hfull⟩ : ∃ us, runPlans (fun _ _ => true) fillPlan [] = some us ∧
      freeBytes us = NV_LIST_TERMINATOR_SIZE := by
    refine ⟨(runPlans (fun _ _ => true) fillPlan []).getD [], ?_, ?_⟩ <;> decide +kernel
  obtain ⟨s, ts, hreach, hinv, rfl⟩ := exists_of_plans hrun
  have hrep := hinv.rep
  have hnot : ¬ listEnd (entries (committed s.updateNv ts)) + NV_LIST_TERMINATOR_SIZE <
      NV_MEMORY_SIZE := by
    rw [← freeBytes_items] at hfull
    rw [entries_committed]
    omega
  have hfails := restart_full (s := { s with file := s.commitImage }) hrep.commitImage hnot
  refine ⟨s, hreach, hfails, fun hreads => ?_⟩
  have hok := hreads.startup TPM_RC_SUCCESS quietCycle quietStartup TPM_SU_CLEAR
    { s with file := s.commitImage } rfl rfl rfl rfl
  exact nomatch hfails.symm.trans hok

end RfTpm
