import RfTpm.Exec.Power

/-!
# Time, clock and dictionary-attack state

The part of the TPM that counts time and failed authorizations: `Time.c`, `DA.c`, the
dictionary-attack half of session processing, and the commands that read or write this state.

Three copies of the persistent data are kept apart.  `gp` and `go` are the working copies in RAM,
`nv` is the NV image `s_NV` that `NvWrite()` writes to, and `file` is the image as last committed.

The platform's tick timer runs while there is power and starts again from zero when power
comes back.  `g_time` is its value at the last command that was allowed to update the time.

A session of a command is reduced to what the dictionary-attack logic sees of it (`SessionUse`):
which kind of entity it authorizes, whether it is bound to a protected one, whether the authValue is
part of the check, and how the comparison turns out.
-/

namespace RfTpm.Da

def TPM_RC_LOCKOUT : TpmRc := 0x921
def TPM_RC_AUTH_FAIL : TpmRc := 0x8E
def TPM_RC_BAD_AUTH : TpmRc := 0xA2

/-- `NV_CLOCK_UPDATE_INTERVAL`. -/
def NV_CLOCK_UPDATE_INTERVAL : ℕ := 22

/-- `CLOCK_UPDATE_MASK`. -/
def CLOCK_UPDATE_MASK : UInt64 := .ofNat (2 ^ NV_CLOCK_UPDATE_INTERVAL - 1)

/-- The largest value `TPM2_ClockSet()` accepts. -/
def MAX_CLOCK : UInt64 := 0xFFFF000000000000

/-! ## The state -/

/-- The fields of `ORDERLY_DATA` that concern time. -/
structure OrderlyData where
  clock : UInt64
  clockSafe : Bool
  selfHealTimer : UInt64
  lockoutTimer : UInt64
  time : UInt64
  deriving DecidableEq

/-- The fields of `PERSISTENT_DATA` that concern time and dictionary attacks. -/
structure PersistentData where
  orderlyState : UInt16
  timeEpoch : UInt32
  failedTries : UInt32
  maxTries : UInt32
  recoveryTime : UInt32
  lockoutRecovery : UInt32
  lockOutAuthEnabled : Bool
  deriving DecidableEq

/-- The NV image. -/
structure Image where
  gp : PersistentData
  go : OrderlyData
  deriving DecidableEq

/-- The state of the TPM.  Of `g_updateNV` only whether it is `UT_NONE` matters. -/
structure Tpm extends Globals Image Bool where
  gp : PersistentData
  go : OrderlyData
  /-- `g_time`. -/
  time : UInt64
  /-- `s_DAPendingOnNV`. -/
  daPendingOnNv : Bool
  /-- The platform's tick timer, and its two flags. -/
  timer : UInt64
  timerReset : Bool
  timerStopped : Bool
  deriving DecidableEq

namespace Tpm

/-- `NV_IS_AVAILABLE`. -/
def nvIsAvailable (s : Tpm) : Bool := s.nvStatus == TPM_RC_SUCCESS

/-- `NV_IS_ORDERLY`. -/
def nvIsOrderly (s : Tpm) : Bool := isOrderly s.gp.orderlyState

/-- `FAIL`. -/
def fail (s : Tpm) : Tpm := { s with toGlobals := s.toGlobals.fail }

/-- `pAssert`. -/
def pAssert (cond : Bool) (s : Tpm) : Tpm := if cond then s else s.fail

/-- `NvWrite()` to the persistent data. -/
def writePersistent (f : PersistentData → PersistentData) (s : Tpm) : Tpm :=
  { s with nv := { s.nv with gp := f s.nv.gp }, updateNv := true }

/-- `NV_SYNC_PERSISTENT(failedTries)`. -/
def syncFailedTries (s : Tpm) : Tpm :=
  s.writePersistent fun p => { p with failedTries := s.gp.failedTries }

/-- `NV_SYNC_PERSISTENT(lockOutAuthEnabled)`. -/
def syncLockOutAuthEnabled (s : Tpm) : Tpm :=
  s.writePersistent fun p => { p with lockOutAuthEnabled := s.gp.lockOutAuthEnabled }

/-- `NV_SYNC_PERSISTENT(orderlyState)`. -/
def syncOrderlyState (s : Tpm) : Tpm :=
  s.writePersistent fun p => { p with orderlyState := s.gp.orderlyState }

/-- `NvWrite(NV_ORDERLY_DATA, sizeof(go), &go)`. -/
def writeOrderlyData (s : Tpm) : Tpm :=
  { s with nv := { s.nv with go := s.go }, updateNv := true }

end Tpm

/-! ## Self-healing -/

/-- How much `DASelfHeal()` may take off `failedTries`.  The subtraction is unsigned: a timer
that became negative at startup gives the right difference. -/
def decreaseCount (s : Tpm) : UInt64 :=
  (s.time - s.go.selfHealTimer) / 1000 / s.gp.recoveryTime.toUInt64

/-- `failedTries` after the decrease. -/
def decreased (failedTries : UInt32) (count : UInt64) : UInt32 :=
  if failedTries ≤ count.toUInt32 then 0 else failedTries - count.toUInt32

/-- The half of `DASelfHeal()` that is about `failedTries`. -/
def healFailedTries (s : Tpm) : Tpm :=
  if s.gp.failedTries = 0 then s
  else if s.gp.recoveryTime = 0 then
    { s with gp := { s.gp with failedTries := 0 } }.syncFailedTries
  else
    let count := decreaseCount s
    let s' := { s with
      gp := { s.gp with failedTries := decreased s.gp.failedTries count }
      go := { s.go with
        selfHealTimer := s.go.selfHealTimer + count * s.gp.recoveryTime.toUInt64 * 1000 } }
    if count ≠ 0 then s'.syncFailedTries else s'

/-- The half of `DASelfHeal()` that is about `lockoutAuth`. -/
def healLockoutAuth (s : Tpm) : Tpm :=
  if !s.gp.lockOutAuthEnabled && s.gp.lockoutRecovery != 0 &&
      (s.time - s.go.lockoutTimer) / 1000 ≥ s.gp.lockoutRecovery.toUInt64 then
    { s with gp := { s.gp with lockOutAuthEnabled := true } }.syncLockOutAuthEnabled
  else s

/-- `DASelfHeal()`. -/
def daSelfHeal (s : Tpm) : Tpm := healLockoutAuth (healFailedTries s)

/-- By how much `DASelfHeal()` decreases `failedTries`. -/
def selfHealed (s : Tpm) : ℕ := s.gp.failedTries.toNat - (daSelfHeal s).gp.failedTries.toNat

/-! ## Time -/

/-- `TimeNewEpoch()`. -/
def timeNewEpoch (s : Tpm) : Tpm :=
  let s := { s with gp := { s.gp with timeEpoch := s.gp.timeEpoch + 1 } }
  { s.writePersistent (fun p => { p with timeEpoch := s.gp.timeEpoch }) with timerStopped := false }

/-- `TimeClockUpdate()`. -/
def timeClockUpdate (newTime : UInt64) (s : Tpm) : Tpm :=
  if newTime ||| CLOCK_UPDATE_MASK > s.go.clock ||| CLOCK_UPDATE_MASK then
    ({ s with go := { s.go with clockSafe := true, clock := newTime } }.pAssert
      s.nvIsAvailable).writeOrderlyData
  else
    { s with go := { s.go with clock := newTime } }

/-- The time `TimeUpdate()` adds: what the timer has advanced since it was last read. -/
def elapsed (s : Tpm) : UInt64 := s.timer - s.time

/-- `TimeUpdate()` starts a new epoch if the timer was stopped. -/
def consumeStopped (s : Tpm) : Tpm := if s.timerStopped then timeNewEpoch s else s

/-- `TimeUpdate()` from there to the self-healing. -/
def timeAdvance (s : Tpm) : Tpm :=
  timeClockUpdate (s.go.clock + elapsed s) { s with time := s.time + elapsed s }

/-- `TimeUpdate()`. -/
def timeUpdate (s : Tpm) : Tpm := daSelfHeal (timeAdvance (consumeStopped s))

/-- By how much the self-healing of `TimeUpdate()` decreases `failedTries`. -/
def timeUpdateHealed (s : Tpm) : ℕ := selfHealed (timeAdvance (consumeStopped s))

/-- `TimeUpdateToCurrent()`. -/
def timeUpdateToCurrent (s : Tpm) : Tpm :=
  if !s.nvIsAvailable || !s.power.initialized then s else timeUpdate s

/-- By how much its self-healing decreases `failedTries`. -/
def timeUpdateToCurrentHealed (s : Tpm) : ℕ :=
  if !s.nvIsAvailable || !s.power.initialized then 0 else timeUpdateHealed s

/-- What `TPM2_ReadClock()` reports of the clock. -/
structure ClockInfo where
  clock : UInt64
  safe : Bool
  deriving DecidableEq

/-- `TimeFillInfo()`. -/
def timeFillInfo (s : Tpm) : ClockInfo := ⟨s.go.clock, s.nvIsAvailable && s.go.clockSafe⟩

/-! ## Authorization -/

/-- What an authorization is for, to the dictionary-attack logic: `TPM_RH_LOCKOUT`, another
entity it protects, or one that is exempt. -/
inductive Entity
  | lockout
  | daProtected
  | exempt
  deriving DecidableEq

/-- The attributes of an HMAC or policy session. -/
structure SessionAttributes where
  isDaBound : Bool
  isLockoutBound : Bool
  includeAuth : Bool
  deriving DecidableEq

/-- A session of a command.  `session` is absent for a password.  The three results are those
of the other checks: before the lockout checks, between the two of them (physical presence),
and after them. -/
structure SessionUse where
  entity : Entity
  session : Option SessionAttributes
  consistency : TpmRc
  presence : TpmRc
  availability : TpmRc
  correct : Bool
  deriving DecidableEq

namespace SessionUse

/-- `authUsed`. -/
def authUsed (u : SessionUse) : Bool := u.session.all SessionAttributes.includeAuth

def isDaBound (u : SessionUse) : Bool := u.session.any SessionAttributes.isDaBound

def isLockoutBound (u : SessionUse) : Bool := u.session.any SessionAttributes.isLockoutBound

end SessionUse

/-- `DARegisterFailure()`. -/
def daRegisterFailure (entity : Entity) (s : Tpm) : Tpm :=
  if entity = .lockout then { s with go := { s.go with lockoutTimer := s.time } }
  else { s with go := { s.go with selfHealTimer := s.time } }

/-- The entity `IncrementLockout()` holds a failure against; none if there is no dictionary
attack to protect from. -/
def lockoutEntity (entity : Entity) : Option SessionAttributes → Option Entity
  | .none => if entity = .exempt then .none else .some entity
  | .some a =>
    let entity := if a.isLockoutBound then .lockout else entity
    if !a.isDaBound ∧ (entity = .exempt ∨ !a.includeAuth) then .none else .some entity

/-- The counting in `IncrementLockout()`. -/
def countFailure (entity : Entity) (s : Tpm) : Tpm :=
  if entity = .lockout then
    let s := s.pAssert s.gp.lockOutAuthEnabled
    let s := { s with gp := { s.gp with lockOutAuthEnabled := false } }
    -- with no recovery time the next startup enables it again
    if s.gp.lockoutRecovery = 0 then s
    else if s.nvIsAvailable then s.syncLockOutAuthEnabled
    else { s with daPendingOnNv := true }
  else if s.gp.recoveryTime = 0 then s
  else
    let s := { s with gp := { s.gp with failedTries := s.gp.failedTries + 1 } }
    if s.nvIsAvailable then s.syncFailedTries else { s with daPendingOnNv := true }

/-- `IncrementLockout()`. -/
def incrementLockout (entity : Entity) (session : Option SessionAttributes) (s : Tpm) :
    TpmRc × Tpm :=
  match lockoutEntity entity session with
  | .none => (TPM_RC_BAD_AUTH, s)
  | .some entity => (TPM_RC_AUTH_FAIL, daRegisterFailure entity (countFailure entity s))

/-- The write of pending data in `CheckLockedOut()`. -/
def writePending (s : Tpm) : Tpm :=
  if s.daPendingOnNv then
    { s.syncLockOutAuthEnabled.syncFailedTries with daPendingOnNv := false }
  else s

/-- `CheckLockedOut()`. -/
def checkLockedOut (lockoutAuthCheck : Bool) (s : Tpm) : TpmRc × Tpm :=
  if !s.nvIsAvailable && (s.nvIsOrderly || s.daPendingOnNv) then (s.nvStatus, s)
  else
    let s := writePending s
    if lockoutAuthCheck then
      (if s.gp.lockOutAuthEnabled then TPM_RC_SUCCESS else TPM_RC_LOCKOUT, s)
    else
      (if s.gp.failedTries ≥ s.gp.maxTries then TPM_RC_LOCKOUT else TPM_RC_SUCCESS, s)

/-- A check of session processing. -/
abbrev Check := Tpm → TpmRc × Tpm

/-- A check that is only made under a condition. -/
def Check.when (cond : Bool) (check : Check) : Check := fun s =>
  if cond then check s else (TPM_RC_SUCCESS, s)

/-- One check after the other, if the first passes. -/
def Check.andThen (first second : Check) : Check := fun s =>
  if (first s).1 ≠ TPM_RC_SUCCESS then first s else second (first s).2

/-- A check whose result does not depend on this state. -/
def Check.result (rc : TpmRc) : Check := fun s => (rc, s)

/-- The outcome of a session: its result, and whether its comparison was made. -/
structure Verdict where
  session : SessionUse
  result : TpmRc
  compared : Bool
  deriving DecidableEq

/-- The comparison at the end of `CheckAuthSession()` or for a session that authorizes
nothing. -/
def compareAuth (u : SessionUse) (s : Tpm) : Verdict × Tpm :=
  if u.correct then (⟨u, TPM_RC_SUCCESS, true⟩, s)
  else
    let (result, s) := incrementLockout u.entity u.session s
    (⟨u, result, true⟩, s)

/-- The checks of a session before its comparison.  `ParseSessionBuffer()` checks for lockout
when the session is bound, `CheckAuthSession()` when the authValue is used. -/
def checksBefore (u : SessionUse) : Check :=
  (Check.result u.consistency).andThen <|
    (Check.when u.isDaBound (checkLockedOut u.isLockoutBound)).andThen <|
      (Check.result u.presence).andThen <|
        (Check.when (u.authUsed && u.entity != .exempt)
          (checkLockedOut (u.entity == .lockout))).andThen <|
          Check.result u.availability

/-- One session in the loop of `ParseSessionBuffer()`. -/
def checkSession (u : SessionUse) (s : Tpm) : Verdict × Tpm :=
  let (result, s) := checksBefore u s
  if result ≠ TPM_RC_SUCCESS then (⟨u, result, false⟩, s) else compareAuth u s

/-- The loop of `ParseSessionBuffer()`: it ends with the first session that is refused.  The
verdicts are those of the sessions it got to. -/
def checkSessions : List SessionUse → Tpm → List Verdict × Tpm
  | [], s => ([], s)
  | u :: us, s =>
    let (verdict, s) := checkSession u s
    if verdict.result ≠ TPM_RC_SUCCESS then ([verdict], s)
    else
      let (verdicts, s) := checkSessions us s
      (verdict :: verdicts, s)

/-! ## Commands -/

/-- `TPM_SU`; no other value unmarshals. -/
inductive ShutdownType
  | clear
  | state
  deriving DecidableEq

def ShutdownType.value : ShutdownType → UInt16
  | .clear => TPM_SU_CLEAR
  | .state => TPM_SU_STATE

/-- The commands that read or write this state.  Of any other command all that matters is
whether it clears the orderly state. -/
inductive Command
  | readClock
  | clockSet (newTime : UInt64)
  | shutdown (shutdownType : ShutdownType) (pcrReConfig : Bool)
  | dictionaryAttackLockReset
  | dictionaryAttackParameters (newMaxTries newRecoveryTime lockoutRecovery : UInt32)
  | clear (disableClear : Bool)
  | other (clearOrderly : Bool)
  deriving DecidableEq

/-- `TPM2_ClockSet()`. -/
def tpm2ClockSet (newTime : UInt64) (s : Tpm) : Tpm :=
  if newTime > MAX_CLOCK ∨ newTime < s.go.clock then s
  else if !s.nvIsAvailable then s
  else timeClockUpdate newTime s

/-- `TPM2_Shutdown()`. -/
def tpm2Shutdown (shutdownType : ShutdownType) (pcrReConfig : Bool) (s : Tpm) : Tpm :=
  if !s.nvIsAvailable then s
  else if pcrReConfig ∧ shutdownType = .state then s
  else
    let s := { s with
      gp := { s.gp with orderlyState := shutdownState s.power shutdownType.value }
      go := { s.go with time := s.time } }
    s.writeOrderlyData.syncOrderlyState

/-- `TPM2_DictionaryAttackLockReset()`. -/
def tpm2DictionaryAttackLockReset (s : Tpm) : Tpm :=
  if !s.nvIsAvailable then s
  else { s with gp := { s.gp with failedTries := 0 } }.syncFailedTries

/-- `TPM2_DictionaryAttackParameters()`. -/
def tpm2DictionaryAttackParameters (maxTries recoveryTime lockoutRecovery : UInt32) (s : Tpm) :
    Tpm :=
  if !s.nvIsAvailable then s
  else
    let s := { s with gp := { s.gp with maxTries, recoveryTime, lockoutRecovery } }
    s.writePersistent fun p =>
      { p with failedTries := s.gp.failedTries, maxTries, recoveryTime, lockoutRecovery }

/-- `TPM2_Clear()`: the manufacturer's parameters of `DAPreInstall_Init()`, and a new clock. -/
def tpm2Clear (disableClear : Bool) (s : Tpm) : Tpm :=
  if !s.nvIsAvailable then s
  else if disableClear then s
  else
    let s := { s with
      gp := { s.gp with
        failedTries := 0, maxTries := 3, recoveryTime := 1000, lockoutRecovery := 1000,
        lockOutAuthEnabled := true }
      go := { s.go with clock := 0, clockSafe := true }
      clearOrderly := true }
    s.writeOrderlyData.writePersistent fun _ => s.gp

/-- The action of a command. -/
def Command.action : Command → Tpm → Tpm
  | .readClock, s => s
  | .clockSet newTime, s => tpm2ClockSet newTime s
  | .shutdown shutdownType pcrReConfig, s => tpm2Shutdown shutdownType pcrReConfig s
  | .dictionaryAttackLockReset, s => tpm2DictionaryAttackLockReset s
  | .dictionaryAttackParameters m r l, s => tpm2DictionaryAttackParameters m r l s
  | .clear disableClear, s => tpm2Clear disableClear s
  | .other clearOrderly, s => { s with clearOrderly := s.clearOrderly || clearOrderly }

/-! ## Startup -/

/-- `TimeStartup()`. -/
def timeStartup (s : Tpm) : Tpm :=
  if s.nvIsOrderly then s else { s with go := { s.go with clockSafe := false } }

/-- The timers at startup, if the tick timer was reset. -/
def rebaseTimers (s : Tpm) : Tpm :=
  let s' := { s with timerReset := false }
  if !s.timerReset then s'
  else if s.nvIsOrderly then
    { s' with go := { s.go with
        selfHealTimer := s.go.selfHealTimer - s.go.time
        lockoutTimer := s.go.lockoutTimer - s.go.time } }
  else
    { s' with go := { s.go with selfHealTimer := 0, lockoutTimer := 0 } }

/-- The counting in `DAStartup()`: a cycle that did not end orderly counts as a failure. -/
def countStartup (s : Tpm) : Tpm :=
  let s :=
    if s.gp.lockoutRecovery = 0 then
      { s with gp := { s.gp with lockOutAuthEnabled := true } }.syncLockOutAuthEnabled
    else s
  if s.gp.recoveryTime ≠ 0 ∧ s.gp.failedTries < s.gp.maxTries ∧ !s.nvIsOrderly then
    { s with gp := { s.gp with failedTries := s.gp.failedTries + 1 } }.syncFailedTries
  else s

/-- `DAStartup()` up to its time update. -/
def daStartupTimers (s : Tpm) : Tpm := countStartup (rebaseTimers s)

/-- `DAStartup()`. -/
def daStartup (s : Tpm) : Tpm := timeUpdate (daStartupTimers s)

/-- What `TPM2_Startup()` depends on besides this state. -/
structure StartupInput where
  locality : ℕ
  cryptOk : Bool
  pcrOk : Bool
  deriving DecidableEq

/-- The end of `TPM2_Startup()`: the cycle starts as not orderly. -/
def endStartup (s : Tpm) : Tpm := { s with gp := { s.gp with orderlyState := SU_NONE_VALUE } }

/-- The start of the subsystems, and by how much self-healing decreases `failedTries`. -/
def startSubsystems (i : StartupInput) (s : Tpm) : ℕ × Tpm :=
  if !i.cryptOk then (0, endStartup s)
  else
    let s := timeStartup { s with power := { s.power with initialized := true } }
    (timeUpdateHealed (daStartupTimers s),
      if !i.pcrOk then endStartup (daStartup s).fail
      else (endStartup (daStartup s)).syncOrderlyState)

/-- `TPM2_Startup()`, and by how much its self-healing decreases `failedTries`.
`g_prevOrderlyState` and `gp.orderlyState` are the same while the subsystems start. -/
def tpm2Startup (i : StartupInput) (startupType : ShutdownType) (s : Tpm) : ℕ × Tpm :=
  let locality3 := !s.power.drtmPreStartup && i.locality == 3
  if !s.nvIsAvailable then (0, s)
  else if i.locality ≠ 0 ∧ i.locality ≠ 3 then (0, s)
  else
    let s := { s with power := { s.power with startupLocality3 := locality3 } }
    if startupCheck s.power.drtmPreStartup locality3 s.gp.orderlyState startupType.value ≠
        TPM_RC_SUCCESS then (0, s)
    else
      startSubsystems i
        { s with gp := { s.gp with orderlyState := prevOrderlyStateOf s.gp.orderlyState } }

/-! ## `ExecuteCommand()` and the runs of the TPM -/

/-- What the platform does during a command. -/
structure Platform where
  nvStatus : TpmRc
  commitOk : Bool
  deriving DecidableEq

/-- The flags are reset and the state of NV is looked up. -/
def resetFlags (p : Platform) (s : Tpm) : Tpm :=
  { s with toGlobals := (s.toGlobals.resetFlags false).nvCheckState p.nvStatus }

/-- The start of `ExecuteCommand()`, up to the clock. -/
def beginCommand (p : Platform) (s : Tpm) : Tpm := timeUpdateToCurrent (resetFlags p s)

/-- The orderly state is cleared when the command asked for it. -/
def clearOrderlyState (s : Tpm) : Tpm :=
  if s.toGlobals.clearsOrderly s.gp.orderlyState then
    { s with gp := { s.gp with orderlyState := SU_NONE_VALUE } }.syncOrderlyState
  else s

/-- The commit at the end of `ExecuteCommand()`. -/
def commit (commitOk : Bool) (s : Tpm) : Tpm :=
  { s with toGlobals := s.toGlobals.commit false commitOk }

/-- The clean-up of `ExecuteCommand()`. -/
def endCommand (p : Platform) (s : Tpm) : Tpm := commit p.commitOk (clearOrderlyState s)

/-- What can be seen of a command: the verdicts on its sessions, the clock it reports, and by
how much self-healing decreased `failedTries` meanwhile. -/
structure Output where
  verdicts : List Verdict
  clock : Option ClockInfo
  healed : ℕ
  deriving DecidableEq

def Output.none : Output := ⟨[], .none, 0⟩

/-- The verdicts let the command through. -/
def allPass (verdicts : List Verdict) : Bool := verdicts.all (·.result == TPM_RC_SUCCESS)

/-- Sessions and action of a command other than `TPM2_Startup()`. -/
def commandBody (sessions : List SessionUse) (c : Command) (s : Tpm) : Output × Tpm :=
  if !s.power.initialized then (.none, s)
  else
    let (verdicts, s) := checkSessions sessions s
    if allPass verdicts then
      (⟨verdicts, if c = .readClock then .some (timeFillInfo s) else .none, 0⟩, c.action s)
    else (⟨verdicts, .none, 0⟩, s)

/-- `TPM2_Startup()` is only accepted once. -/
def startupBody (i : StartupInput) (startupType : ShutdownType) (s : Tpm) : Output × Tpm :=
  if s.power.initialized then (.none, s)
  else
    let (healed, s) := tpm2Startup i startupType s
    ({ Output.none with healed }, s)

/-- `_TPM_Init` loads the committed image, and the tick timer starts again. -/
def powerOn (drtm initOk : Bool) (image : Image) : Tpm where
  toGlobals := Globals.powerOn false drtm initOk image
  gp := image.gp
  go := image.go
  time := 0
  daPendingOnNv := false
  timer := 0
  timerReset := true
  timerStopped := true

/-- Power is lost and comes back. -/
def powerCycle (drtm initOk : Bool) (s : Tpm) : Tpm := powerOn drtm initOk s.file

/-- What happens to the TPM. -/
inductive Event
  | command (p : Platform) (sessions : List SessionUse) (c : Command)
  | startup (p : Platform) (i : StartupInput) (startupType : ShutdownType)
  | tick (ms : UInt64)
  | powerLoss (drtm initOk : Bool)
  deriving DecidableEq

/-- A command or startup; a TPM in failure mode does neither. -/
def execute (p : Platform) (body : Tpm → Output × Tpm) (s : Tpm) : Output × Tpm :=
  if s.inFailureMode then (.none, { s with toGlobals := s.toGlobals.resetFlags false })
  else
    let (output, s') := body (beginCommand p s)
    ({ output with healed := timeUpdateToCurrentHealed (resetFlags p s) + output.healed },
      endCommand p s')

def Event.exec : Event → Tpm → Output × Tpm
  | .command p sessions c, s => execute p (commandBody sessions c) s
  | .startup p i startupType, s => execute p (startupBody i startupType) s
  | .tick ms, s => (.none, { s with timer := s.timer + ms })
  | .powerLoss drtm initOk, s => (.none, powerCycle drtm initOk s)

/-- The image `TPM_Manufacture()` leaves.  It does not write `gp.timeEpoch`. -/
def manufactured (timeEpoch : UInt32) : Image where
  gp := ⟨TPM_SU_CLEAR, timeEpoch, 0, 3, 1000, 1000, true⟩
  go := ⟨0, true, 0, 0, 0⟩

/-- The first power-on with an image. -/
def poweredOn (image : Image) : Tpm := powerOn false true image

/-- A TPM that was manufactured with an erased NV. -/
def factory : Tpm := poweredOn (manufactured 0)

end RfTpm.Da
