import RfTpm.Exec.ExecCommand

/-!
# Power, startup and shutdown

`_TPM_Init`, `TPM2_Startup()` and `TPM2_Shutdown()`, as far as they concern NV indices and the
orderly state.  `gp.orderlyState` is the one field of the reserved data that is modelled; what else
is stored there by other subsystems is an input (`reserved`), which may put anything in the reserved
area outside that field.
-/

namespace RfTpm

open Bytes

def TPM_SU_CLEAR : UInt16 := 0
def TPM_SU_STATE : UInt16 := 1
def PRE_STARTUP_FLAG : UInt16 := 0x8000
def STARTUP_LOCALITY_3 : UInt16 := 0x4000
def TPM_RC_DISABLED : TpmRc := 0x120
def TPM_RC_LOCALITY : TpmRc := 0x907

/-- `RC_Startup_startupType` and `RC_Shutdown_shutdownType`: the first parameter. -/
def RC_FIRST_PARAMETER : TpmRc := 0x140

/-- `RcSafeAddToResult()`. -/
def rcSafeAddToResult (responseCode modifier : TpmRc) : TpmRc :=
  if responseCode &&& 0x80 ≠ 0 ∧ responseCode &&& 0xF40 = 0 then responseCode + modifier
  else responseCode

/-- Writes to the reserved area by other subsystems: any bytes of it but those of
`orderlyState` may change. -/
def writeReserved (reserved : Option Mem) : NvM Unit :=
  match reserved with
  | none => pure ()
  | some bytes =>
    NvM.modify fun s =>
      (s.setNv fun a =>
        if a < NV_ORDERLY_STATE ∨ NV_ORDERLY_STATE + 2 ≤ a ∧ a < NV_INDEX_RAM_DATA then bytes a
        else s.nv a).requestUpdate .nv

/-- `NvReadPersistent()`, for `gp.orderlyState`. -/
def readOrderlyState (nv : Mem) : UInt16 := UInt16.ofNat (nv.le NV_ORDERLY_STATE 2)

/-- What a power cycle leaves to chance: the contents of the RAM, whether `CryptInit()`
succeeds, and whether there is an H-CRTM event before the startup. -/
structure PowerCycle where
  ram : Mem
  initOk : Bool
  drtm : Bool

/-- Power is lost and comes back: `_TPM_Init` loads the committed image.  Nothing of the
RAM survives. -/
def tpmInit (c : PowerCycle) : NvM Unit :=
  NvM.modify fun s =>
    { toGlobals := Globals.powerOn .none c.drtm c.initOk s.file
      indexOrderlyRam := c.ram
      maxCounter := 0
      evictNvEnd := NV_MEMORY_SIZE
      cachedNvIndex := NvIndex.load (fun _ => 0) 0
      cachedNvRef := 0
      cachedNvRamRef := none
      orderlyState := readOrderlyState s.file
      prevOrderlyState := 0
      shEnable := false
      phEnableNv := false }

/-- What `TPM2_Startup()` depends on besides NV: the locality, `CryptStartup()` and
`PCRStartup()`, whether `gp.totalResetCount` wraps, the flags of `STATE_CLEAR_DATA` after
they are set or restored, and what goes to the reserved area. -/
structure StartupInput where
  locality : ℕ
  cryptOk : Bool
  pcrOk : Bool
  resetCountWraps : Bool
  shEnable : Bool
  phEnableNv : Bool
  reserved : Option Mem

/-- `g_prevOrderlyState`: the orderly state without the startup modifiers. -/
def prevOrderlyStateOf (orderlyState : UInt16) : UInt16 :=
  if isOrderly orderlyState then orderlyState &&& ~~~ (PRE_STARTUP_FLAG ||| STARTUP_LOCALITY_3)
  else orderlyState

/-- The kind of startup. -/
def startupTypeOf (prevOrderlyState startupType : UInt16) : StartupType :=
  if prevOrderlyState = TPM_SU_STATE then
    if startupType = TPM_SU_STATE then .resume else .restart
  else .reset

/-- The startup of the subsystems.  `CryptStartup()` comes first, before the startup is
registered; `PCRStartup()` enters failure mode when it fails. -/
def startSubsystems (i : StartupInput) (startup : StartupType) : NvM Bool := do
  if !i.cryptOk then
    pure false
  else do
    NvM.modify fun s =>
      { s with
        power := { s.power with initialized := true }
        shEnable := i.shEnable
        phEnableNv := i.phEnableNv }
    writeReserved i.reserved
    if !i.pcrOk then do
      fail
      pure false
    else do
      NvM.when (startup == .reset && i.resetCountWraps) fail
      nvEntityStartup startup

/-- The end of `TPM2_Startup()`: the cycle starts as not orderly. -/
def finishStartup (ok : Bool) : NvM TpmRc := do
  NvM.modify fun s => { s with orderlyState := SU_NONE_VALUE }
  if ok then do
    let _ ← nvSyncOrderlyState
    pure TPM_RC_SUCCESS
  else
    pure TPM_RC_FAILURE

/-- The checks `TPM2_Startup(TPM_SU_STATE)` makes against the last shutdown. -/
def startupCheck (drtm locality3 : Bool) (orderlyState startupType : UInt16) : TpmRc :=
  if startupType = TPM_SU_STATE then
    if prevOrderlyStateOf orderlyState ≠ TPM_SU_STATE then
      TPM_RC_VALUE + RC_FIRST_PARAMETER
    else if drtm ≠ (orderlyState &&& PRE_STARTUP_FLAG != 0) then
      TPM_RC_VALUE + RC_FIRST_PARAMETER
    else if locality3 ≠ (orderlyState &&& STARTUP_LOCALITY_3 != 0) then
      TPM_RC_LOCALITY
    else
      TPM_RC_SUCCESS
  else
    TPM_RC_SUCCESS

/-- `TPM2_Startup()`. -/
def tpm2Startup (i : StartupInput) (startupType : UInt16) : NvM TpmRc := do
  let nvStatus ← NvM.gets (·.nvStatus)
  let drtm ← NvM.gets (·.power.drtmPreStartup)
  let orderlyState ← NvM.gets (·.orderlyState)
  let locality3 := !drtm && i.locality == 3
  let prev := prevOrderlyStateOf orderlyState
  if nvStatus ≠ TPM_RC_SUCCESS then
    pure nvStatus
  else if i.locality ≠ 0 ∧ i.locality ≠ 3 then
    pure TPM_RC_LOCALITY
  else do
    NvM.modify fun s =>
      { s with power := { s.power with startupLocality3 := locality3 }, prevOrderlyState := prev }
    let check := startupCheck drtm locality3 orderlyState startupType
    if check ≠ TPM_RC_SUCCESS then
      pure check
    else do
      NvM.modify fun s => { s with orderlyState := prev }
      let ok ← startSubsystems i (startupTypeOf prev startupType)
      finishStartup ok

/-- What `TPM2_Shutdown()` depends on besides NV. -/
structure ShutdownInput where
  pcrReConfig : Bool
  reserved : Option Mem

/-- The orderly state a shutdown records, with the startup modifiers for a resume. -/
def shutdownState (power : PowerState) (shutdownType : UInt16) : UInt16 :=
  if shutdownType = TPM_SU_STATE then
    if power.drtmPreStartup then TPM_SU_STATE ||| PRE_STARTUP_FLAG
    else if power.startupLocality3 then TPM_SU_STATE ||| STARTUP_LOCALITY_3
    else TPM_SU_STATE
  else shutdownType

/-- `TPM2_Shutdown()`.  The orderly state is set before the type is checked. -/
def tpm2Shutdown (i : ShutdownInput) (shutdownType : UInt16) : NvM TpmRc := do
  let nvStatus ← NvM.gets (·.nvStatus)
  if nvStatus ≠ TPM_RC_SUCCESS then
    pure nvStatus
  else if i.pcrReConfig ∧ shutdownType = TPM_SU_STATE then
    pure (TPM_RC_TYPE + RC_FIRST_PARAMETER)
  else do
    NvM.modify fun s => { s with orderlyState := shutdownState s.power shutdownType }
    nvUpdateIndexOrderlyData
    writeReserved i.reserved
    if shutdownType ≠ TPM_SU_STATE ∧ shutdownType ≠ TPM_SU_CLEAR then
      pure (TPM_RC_VALUE + RC_FIRST_PARAMETER)
    else do
      let _ ← nvSyncOrderlyState
      pure TPM_RC_SUCCESS

end RfTpm
