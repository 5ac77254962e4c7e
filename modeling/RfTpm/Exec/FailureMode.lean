import RfTpm.Exec.Areas
import RfTpm.Exec.Restart

/-!
# Success responses and failure mode

Without `longjmp`, `FAIL()` and `pAssert()` record failure mode and return, and it is left
to the code after them to turn the response into an error. The response code is fixed
when `BuildResponseHeader()` runs, and the NV update of the command is committed after that.

The routines are asked to keep a contract: one that records a failure does not report
success, and the response they build fits. `success_sound_iff` says what the contract is
worth: a success response is then sound if the commit succeeds, and the contract alone is not
enough, since a failed commit turns nothing into an error.
-/

namespace RfTpm

open Fallible Parsing

/-! ## The flow of a command -/

lemma call_ok {f : Command → NvM (TpmRc × Command)} {command command' : Command} {s s' : Nv}
    (h : call f command s = (.ok command', s')) :
    f command s = ((TPM_RC_SUCCESS, command'), s') := by
  obtain ⟨⟨rc, c⟩, s₁, hf, h⟩ := bind_ok h
  obtain ⟨u, s₂, htest, h⟩ := bind_ok h
  obtain ⟨hrc, rfl⟩ := stopIf_ok htest
  obtain ⟨rfl, rfl⟩ := pure_ok h
  rw [run_ok hf, not_not.mp hrc]

variable {r : Routines} {p : Platform} {request buffer : Bytes} {s : Nv} {command : Command}
  {rc : TpmRc}

lemma uintUnmarshal_error {n : ℕ} (h : (uintUnmarshal n).run buffer = .error rc) :
    rc ≠ TPM_RC_SUCCESS := by
  rw [Parser.symbols_error (Parser.map_error h)]
  decide

lemma tpmiStCommandTagUnmarshal_error (h : tpmiStCommandTagUnmarshal.run buffer = .error rc) :
    rc ≠ TPM_RC_SUCCESS := by
  obtain h | rfl := Parser.check_error h
  · exact uintUnmarshal_error h
  · decide

lemma parseHeader_error {r : Routines} (h : parseHeader r request = .error rc) :
    rc ≠ TPM_RC_SUCCESS := by
  unfold parseHeader at h
  obtain h | ⟨r₁, -, h⟩ := bind_eq_error h
  · exact tpmiStCommandTagUnmarshal_error h
  obtain h | ⟨r₂, -, h⟩ := bind_eq_error h
  · exact uintUnmarshal_error h
  obtain rfl | h := throw_eq_error h
  · decide
  obtain h | ⟨r₃, -, h⟩ := bind_eq_error h
  · exact uintUnmarshal_error h
  obtain rfl | h := throw_eq_error h
  · decide
  cases h

lemma parseAuthSize_error (h : parseAuthSize command = .error rc) : rc ≠ TPM_RC_SUCCESS := by
  unfold parseAuthSize at h
  obtain h | ⟨r, -, h⟩ := bind_eq_error h
  · exact uintUnmarshal_error h
  obtain rfl | h := throw_eq_error h
  · decide
  cases h

lemma stops_call (f : Command → NvM (TpmRc × Command)) (command : Command) :
    Stops (· ≠ TPM_RC_SUCCESS) (call f command) :=
  stops_bind (returns_run _).stops fun _ =>
    stops_bind (stops_stopIf id) fun _ => (returns_pure _).stops

lemma stops_authorize (r : Routines) (command : Command) :
    Stops (· ≠ TPM_RC_SUCCESS) (authorize r command) := by
  unfold authorize
  split
  · exact stops_bind (stops_ofExcept fun _ => parseAuthSize_error) fun command => stops_call _ _
  · exact stops_call _ _

lemma stops_processCommand (r : Routines) (stale : Command) (request : Bytes) :
    Stops (· ≠ TPM_RC_SUCCESS) (processCommand r stale request) := by
  refine stops_bind (stops_ofExcept fun _ => parseHeader_error) fun (tag, code, buffer) => ?_
  refine stops_bind (returns_gets _).stops fun initialized => ?_
  refine stops_bind (stops_stopIf fun _ => by decide) fun _ => ?_
  refine stops_bind (returns_run _).stops fun _ => ?_
  refine stops_bind (stops_call _ _) fun command => stops_bind (stops_call _ _) fun command => ?_
  refine stops_bind (stops_authorize r command) fun command => ?_
  exact stops_bind (stops_call _ _) fun command => stops_call _ _

/-! ## The clean-up as a function -/

/-- What a command arrives at the label `Cleanup` with: its outcome, and the state. -/
def atCleanup (r : Routines) (p : Platform) (request : Bytes) (s : Nv) :
    Except TpmRc Command × Nv :=
  if request.length > INT32_MAX then (.ok p.stale, s)
  else commandBody r p.stale request (s.started p.nvStatus)

lemma executeCommand_eq (h : s.inFailureMode = false) :
    executeCommand r p request s =
      cleanup p (commandOf p.stale (atCleanup r p request s).1)
        (resultOf (atCleanup r p request s).1) (atCleanup r p request s).2 := by
  by_cases hlarge : request.length > INT32_MAX
  · simp [executeCommand, atCleanup, hlarge, commandOf, resultOf]
  · simp [executeCommand, atCleanup, hlarge, resetFlags, h, nvCheckState, Nv.started]

/-- The state when the commit is decided on. -/
def beforeCommit (r : Routines) (p : Platform) (request : Bytes) (s : Nv) : Nv :=
  (clearOrderlyState (atCleanup r p request s).2).2

lemma clearOrderlyState_inFailureMode (s : Nv) :
    (clearOrderlyState s).2.inFailureMode = s.inFailureMode := by
  rw [clearOrderlyState_eq, Nv.orderlyCleared]
  split <;> rfl

/-! ## The property -/

/-- A success response means that the TPM has not failed, and that the NV update the
command asked for was committed by an `NvCommit()` that reported success. -/
def SuccessIsSound (r : Routines) (p : Platform) (request : Bytes) (s : Nv) : Prop :=
  (executeCommand r p request s).1.responseCode = TPM_RC_SUCCESS →
    (executeCommand r p request s).2.inFailureMode = false ∧
      ((beforeCommit r p request s).updateNv ≠ .none → p.commitOk = true ∧
        (executeCommand r p request s).2.file = (executeCommand r p request s).2.nv)

/-- What has to hold when the routines have returned success: none of them recorded a
failure, a commit that is needed will succeed, and the response fits. -/
def RoutinesSafe (r : Routines) (p : Platform) (request : Bytes) (s : Nv) : Prop :=
  resultOf (atCleanup r p request s).1 = TPM_RC_SUCCESS →
    (atCleanup r p request s).2.inFailureMode = false ∧
      ((beforeCommit r p request s).updateNv = .none ∨ p.commitOk = true) ∧
      (buildResponseHeader (commandOf p.stale (atCleanup r p request s).1)
        TPM_RC_SUCCESS).size ≤ p.maxResponse

/-- A routine that records a failure does not report success. -/
def Reports (f : Command → NvM (TpmRc × Command)) : Prop :=
  ∀ command s, s.inFailureMode = false → (f command s).1.1 = TPM_RC_SUCCESS →
    (f command s).2.inFailureMode = false

/-- What `ExecuteCommand()` counts on: the routines that return a result report their failures,
the update of the time has none, and a response that was built fits into the buffer. -/
structure Routines.Contract (r : Routines) (maxResponse : ℕ) : Prop where
  time : ∀ s, s.inFailureMode = false → (r.timeUpdateToCurrent s).2.inFailureMode = false
  reports : ∀ f ∈ [r.parseHandleBuffer, r.entityGetLoadStatus, r.parseSessionBuffer,
    r.checkAuthNoSession, r.commandDispatcher, r.buildResponseSession], Reports f
  fits : ∀ c s c₁ s₁ c₂ s₂, r.commandDispatcher c s = ((TPM_RC_SUCCESS, c₁), s₁) →
    r.buildResponseSession c₁ s₁ = ((TPM_RC_SUCCESS, c₂), s₂) →
      (buildResponseHeader c₂ TPM_RC_SUCCESS).size ≤ maxResponse

/-- A request of a size that is parsed, or else a response size that fits, which is then whatever
is on the stack. -/
def Platform.Fits (p : Platform) (request : Bytes) : Prop :=
  request.length ≤ INT32_MAX ∨ (buildResponseHeader p.stale TPM_RC_SUCCESS).size ≤ p.maxResponse

lemma responseCode_buildResponseHeader (command : Command) (result : TpmRc) :
    (buildResponseHeader command result).responseCode = result := by
  unfold buildResponseHeader
  split <;> rfl

lemma cleanup_responseCode (command : Command) (result : TpmRc) (s : Nv) :
    (cleanup p command result s).1 = buildResponseHeader command result := rfl

lemma cleanup_state (command : Command) (result : TpmRc) (s : Nv) :
    (cleanup p command result s).2 =
      (pAssert ((buildResponseHeader command result).size ≤ p.maxResponse)
        (commitUpdate p.commitOk (clearOrderlyState s).2).2).2 := rfl

lemma pAssert_inFailureMode (c : Bool) (s : Nv) :
    (pAssert c s).2.inFailureMode = (s.inFailureMode || !c) := by
  cases c <;> simp [fail, Nv.failed]

lemma pAssert_nv (c : Bool) (s : Nv) :
    (pAssert c s).2.nv = s.nv ∧ (pAssert c s).2.file = s.file := by
  cases c <;> exact ⟨rfl, rfl⟩

lemma commitUpdate_committed (hu : s.updateNv ≠ .none) (hf : s.inFailureMode = false) :
    (commitUpdate true s).2.file = (commitUpdate true s).2.nv := by
  rw [commitUpdate_requested true hu hf]
  rfl

/-- A success response is sound exactly when the routines that reported success are safe
to commit after. -/
lemma successIsSound_iff (h : s.inFailureMode = false) :
    SuccessIsSound r p request s ↔ RoutinesSafe r p request s := by
  set outcome := (atCleanup r p request s).1 with hout
  set s₁ := (atCleanup r p request s).2 with hs₁
  have hs₂ : beforeCommit r p request s = (clearOrderlyState s₁).2 := rfl
  have hfail₂ := clearOrderlyState_inFailureMode s₁
  have hexec : executeCommand r p request s =
      cleanup p (commandOf p.stale outcome) (resultOf outcome) s₁ := executeCommand_eq h
  have hcode : (executeCommand r p request s).1.responseCode = resultOf outcome := by
    rw [hexec, cleanup_responseCode, responseCode_buildResponseHeader]
  -- the failure flag at the end, when the result is success
  have hflag : resultOf outcome = TPM_RC_SUCCESS →
      ((executeCommand r p request s).2.inFailureMode = false ↔
        (s₁.inFailureMode = false ∧
          ((beforeCommit r p request s).updateNv = .none ∨ p.commitOk = true)) ∧
        (buildResponseHeader (commandOf p.stale outcome) TPM_RC_SUCCESS).size ≤ p.maxResponse) := by
    intro hres
    rw [hexec, cleanup_state, pAssert_inFailureMode, hres, Bool.or_eq_false_iff, ← hs₂,
      commitUpdate_inFailureMode, hs₂, hfail₂]
    simp
  constructor
  · intro hsound hres
    obtain ⟨hend, -⟩ := hsound (hcode.trans hres)
    obtain ⟨⟨hf, hc⟩, hsize⟩ := (hflag hres).1 hend
    exact ⟨hf, hc, hsize⟩
  · intro hsafe hsuccess
    have hres : resultOf outcome = TPM_RC_SUCCESS := hcode.symm.trans hsuccess
    obtain ⟨hf, hc, hsize⟩ := hsafe hres
    refine ⟨(hflag hres).2 ⟨⟨hf, hc⟩, hsize⟩, fun hu => ?_⟩
    have hok : p.commitOk = true := hc.resolve_left hu
    refine ⟨hok, ?_⟩
    rw [hexec, cleanup_state, (pAssert_nv _ _).1, (pAssert_nv _ _).2, hok]
    exact commitUpdate_committed hu (hfail₂.trans hf)

/-! ## `TPM2_Shutdown()` as an instance -/

/-- The routines as `TPM2_Shutdown(TPM_SU_CLEAR)` sent without sessions runs them. -/
def shutdownRoutines : Routines where
  tpmFailureMode _ := ⟨TPM_ST_NO_SESSIONS, 10, TPM_RC_FAILURE⟩
  timeUpdateToCurrent := pure ()
  isImplemented code := code == 0x145
  parseHandleBuffer command := pure (TPM_RC_SUCCESS, command)
  entityGetLoadStatus command := pure (TPM_RC_SUCCESS, command)
  parseSessionBuffer command := pure (TPM_RC_SUCCESS, command)
  checkAuthNoSession command := pure (TPM_RC_SUCCESS, command)
  commandDispatcher command := do
    let result ← tpm2Shutdown ⟨false, none⟩ TPM_SU_CLEAR
    pure (result, { command with handleNum := 0, parameterSize := 0 })
  buildResponseSession command := pure (TPM_RC_SUCCESS, { command with authSize := 0 })

/-- The bytes of the command. -/
def shutdownRequest : Bytes := [0x80, 0x01, 0, 0, 0, 12, 0, 0, 0x01, 0x45, 0, 0]

/-- A platform whose NV is available and whose commit ends as given. -/
def shutdownPlatform (commitOk : Bool) : Platform where
  nvStatus := TPM_RC_SUCCESS
  commitOk := commitOk
  maxResponse := MAX_COMMAND_SIZE
  stale := ⟨0, 0, [], 0, 0, 0, [], []⟩

/-- A TPM that has been started. -/
def Nv.running : Nv := { Nv.erased with power := ⟨true, false, false⟩ }

lemma Reports.call_ok {f : Command → NvM (TpmRc × Command)} (hf : Reports f)
    {command command' : Command} {s' : Nv} (hs : s.inFailureMode = false)
    (h : call f command s = (.ok command', s')) : s'.inFailureMode = false := by
  have hrun := RfTpm.call_ok h
  have hkept := hf command s hs
  rw [hrun] at hkept
  exact hkept rfl

/-- Under the contract, a command that is carried out has not failed and has a response that
fits. -/
lemma Routines.Contract.processCommand_ok {maxResponse : ℕ} (hr : r.Contract maxResponse)
    {stale : Command} {s' : Nv} (hs : s.inFailureMode = false)
    (h : processCommand r stale request s = (.ok command, s')) :
    s'.inFailureMode = false ∧
      (buildResponseHeader command TPM_RC_SUCCESS).size ≤ maxResponse := by
  have hreports := hr.reports
  simp only [List.forall_mem_cons] at hreports
  obtain ⟨hhandles, hload, hsessions, hnone, hdispatch, hbuild, -⟩ := hreports
  obtain ⟨c₁, s₁, h₁, h⟩ := bind_ok h
  obtain ⟨-, rfl⟩ := ofExcept_ok h₁
  obtain ⟨_, s₂, h₂, h⟩ := bind_ok h
  obtain ⟨-, rfl⟩ := gets_ok h₂
  obtain ⟨_, s₃, h₃, h⟩ := bind_ok h
  obtain ⟨-, rfl⟩ := stopIf_ok h₃
  obtain ⟨_, s₄, h₄, h⟩ := bind_ok h
  have hs₄ : s₄.inFailureMode = false := by
    rw [← congrArg (fun r => r.2.inFailureMode) (run_ok h₄)]
    exact hs
  obtain ⟨c₅, s₅, h₅, h⟩ := bind_ok h
  obtain ⟨c₆, s₆, h₆, h⟩ := bind_ok h
  have hs₆ := hload.call_ok (hhandles.call_ok hs₄ h₅) h₆
  obtain ⟨c₇, s₇, h₇, h⟩ := bind_ok h
  have hs₇ : s₇.inFailureMode = false := by
    unfold authorize at h₇
    split at h₇
    · obtain ⟨c, s, hsize, hcall⟩ := bind_ok h₇
      obtain ⟨-, rfl⟩ := ofExcept_ok hsize
      exact hsessions.call_ok hs₆ hcall
    · exact hnone.call_ok hs₆ h₇
  obtain ⟨c₈, s₈, h₈, h⟩ := bind_ok h
  exact ⟨hbuild.call_ok (hdispatch.call_ok hs₇ h₈) h,
    hr.fits _ _ _ _ _ _ (call_ok h₈) (call_ok h)⟩

lemma Routines.Contract.safe (hr : r.Contract p.maxResponse) (hfits : p.Fits request)
    (hs : s.inFailureMode = false) (hcommit : p.commitOk = true) : RoutinesSafe r p request s := by
  intro hres
  by_cases hlarge : request.length > INT32_MAX
  · unfold atCleanup
    rw [if_pos hlarge]
    exact ⟨hs, Or.inr hcommit, hfits.resolve_left (Nat.not_le.mpr hlarge)⟩
  · have hbody : atCleanup r p request s =
        processCommand r p.stale request (r.timeUpdateToCurrent (s.started p.nvStatus)).2 :=
      if_neg hlarge
    rw [hbody] at hres ⊢
    cases hrun : processCommand r p.stale request
        (r.timeUpdateToCurrent (s.started p.nvStatus)).2 with
    | mk outcome s₁ =>
      rw [hrun] at hres
      cases outcome with
      | error rc => exact absurd hres (stops_processCommand r _ request _ _ _ hrun)
      | ok command =>
        obtain ⟨hmode, hsize⟩ := hr.processCommand_ok (hr.time (s.started _) hs) hrun
        exact ⟨hmode, Or.inr hcommit, hsize⟩

lemma contract_of_dispatcher {dispatcher : Command → NvM (TpmRc × Command)} {maxResponse : ℕ}
    (hroom : STD_RESPONSE_HEADER + 4 ≤ maxResponse) (hreports : Reports dispatcher)
    (hempty : ∀ c s c₁ s₁, dispatcher c s = ((TPM_RC_SUCCESS, c₁), s₁) →
      c₁.handleNum = 0 ∧ c₁.parameterSize = 0) :
    { shutdownRoutines with commandDispatcher := dispatcher }.Contract maxResponse where
  time _ hs := hs
  reports := by
    simp only [List.forall_mem_cons]
    refine ⟨?_, ?_, ?_, ?_, hreports, ?_, nofun⟩ <;> exact fun _ _ hs _ => hs
  fits := by
    intro c s c₁ s₁ c₂ s₂ h₁ h₂
    obtain rfl : { c₁ with authSize := 0 } = c₂ := congrArg (fun r => r.1.2) h₂
    obtain ⟨hhandles, hsize⟩ := hempty c s c₁ s₁ h₁
    rw [buildResponseHeader, if_neg (not_not.mpr rfl)]
    dsimp only
    split <;> omega

lemma tpm2Shutdown_inFailureMode (s : Nv) :
    (tpm2Shutdown ⟨false, none⟩ TPM_SU_CLEAR s).2.inFailureMode = s.inFailureMode := by
  by_cases hstatus : s.nvStatus = TPM_RC_SUCCESS
  · have hle : NV_INDEX_RAM_DATA + (s.indexOrderlyRam.read 0 RAM_INDEX_SPACE).length
        ≤ NV_MEMORY_SIZE := by
      rw [Bytes.Mem.length_read]
      decide
    simp [tpm2Shutdown, hstatus, nvUpdateIndexOrderlyData, nvWrite_eq _ hle, writeReserved,
      nvSyncOrderlyState_eq, Nv.syncedOrderly, Nv.withNv]
  · simp [tpm2Shutdown, hstatus]

lemma contract_shutdown {maxResponse : ℕ} (hroom : STD_RESPONSE_HEADER + 4 ≤ maxResponse) :
    shutdownRoutines.Contract maxResponse :=
  contract_of_dispatcher hroom (fun _ s hs _ => (tpm2Shutdown_inFailureMode s).trans hs)
    fun _ _ _ _ h => ⟨(congrArg (fun r => r.1.2.handleNum) h).symm,
      (congrArg (fun r => r.1.2.parameterSize) h).symm⟩

/-- Routines that keep the contract and ask for an update of NV. -/
def updatingRoutines : Routines :=
  { shutdownRoutines with
    commandDispatcher := fun command => do
      setNvUpdate .nv
      pure (TPM_RC_SUCCESS, { command with handleNum := 0, parameterSize := 0 }) }

end RfTpm
