import RfTpm.Da.State
import RfTpm.Lib.Runs
import RfTpm.Lib.Fallible

/-!
# Platform configuration registers

`PCR.c` and the integrity commands, with the parts of startup, shutdown and `TPM2_Clear()` that
concern the registers, their save area and their allocation.

Of the allocation `gp.pcrAllocated` is the copy in force.  `PCRAllocate()` writes the new one to
the image `nv` only, for the next startup.

What the rest of the TPM does in a command is reduced to an `Effect`: it may ask for the orderly
state to be cleared, write elsewhere in NV, or enter failure mode; it does not touch this state.
-/

namespace RfTpm.Pcr

open Fallible Runs

def TPM_RC_PCR : TpmRc := 0x127

/-- `TPM_RC_H + TPM_RC_2`: the second handle. -/
def RC_SECOND_HANDLE : TpmRc := 0x200

/-- `IMPLEMENTATION_PCR`, which is also the number of registers of the platform. -/
def IMPLEMENTATION_PCR : ℕ := 24


def HCRTM_PCR : ℕ := 0
def DRTM_PCR : ℕ := 17

/-! ## Banks and their allocation -/

/-- A hash algorithm, and the bank of registers for it. -/
inductive Bank
  | sha1
  | sha256
  | sha384
  | sha512
  deriving DecidableEq

namespace Bank

/-- `CryptHashGetAlgByIndex()`, for the indices below `HASH_COUNT`. -/
def all : List Bank := [sha1, sha256, sha384, sha512]

/-- `CryptHashGetDigestSize()`. -/
def digestSize : Bank → ℕ
  | sha1 => 20
  | sha256 => 32
  | sha384 => 48
  | sha512 => 64

lemma mem_all (bank : Bank) : bank ∈ all := by
  cases bank <;> decide

end Bank

/-- `TPMS_PCR_SELECTION`.  A selection of another size does not unmarshal. -/
structure Selection where
  hash : Bank
  pcrSelect : Vector UInt8 PCR_SELECT_MAX
  deriving DecidableEq

/-- `TestBit()` on the bit map. -/
def Selection.testBit (selection : Selection) (pcr : ℕ) : Bool :=
  selection.pcrSelect.toList.getD (pcr / 8) 0 &&& 1 <<< UInt8.ofNat (pcr % 8) != 0

/-- `gp.pcrAllocated`.  It has an entry for each algorithm, in their order: that of manufacture,
of which `PCRAllocate()` replaces entries. -/
structure Allocation where
  pcrSelections : List Selection
  hashes : pcrSelections.map Selection.hash = Bank.all
  deriving DecidableEq

namespace Allocation

/-- The entry of a bank. -/
def find? (allocation : Allocation) (hashAlg : Bank) : Option Selection :=
  allocation.pcrSelections.find? fun selection => selection.hash = hashAlg

end Allocation

/-- `PcrIsAllocated()`. -/
def pcrIsAllocated (allocation : Allocation) (pcr : ℕ) (hashAlg : Bank) : Bool :=
  pcr < IMPLEMENTATION_PCR && ((allocation.find? hashAlg).map (·.testBit pcr)).getD false

/-- The turn of the loop of `PCRAllocate()` for one requested selection: it covers the entry of its
bank. -/
def coverSelection (selection : Selection) : List Selection → List Selection
  | [] => []
  | entry :: entries =>
    if entry.hash = selection.hash then selection :: entries
    else entry :: coverSelection selection entries

lemma coverSelection_hashes (selection : Selection) (entries : List Selection) :
    (coverSelection selection entries).map Selection.hash = entries.map Selection.hash := by
  induction entries with
  | nil => rfl
  | cons entry entries ih =>
    unfold coverSelection
    split
    case isTrue h => rw [List.map_cons, List.map_cons, h]
    case isFalse h => rw [List.map_cons, List.map_cons, ih]

/-- An allocation with one entry covered. -/
def Allocation.cover (allocation : Allocation) (selection : Selection) : Allocation where
  pcrSelections := coverSelection selection allocation.pcrSelections
  hashes := (coverSelection_hashes selection _).trans allocation.hashes

/-- `newAllocate`: the allocation with every requested selection, the last one for a bank being in
effect. -/
def newAllocate (allocation : Allocation) (allocate : List Selection) : Allocation :=
  allocate.foldl Allocation.cover allocation

/-- What `TPM2_PCR_Allocate()` returns. -/
structure AllocateOut where
  allocationSuccess : Bool
  maxPCR : ℕ
  sizeNeeded : ℕ
  sizeAvailable : ℕ
  deriving DecidableEq

/-- The number of registers of a selection. -/
def Selection.count (selection : Selection) : ℕ :=
  ((List.range (8 * PCR_SELECT_MAX)).filter selection.testBit).length

/-- `sizeNeeded` of an allocation. -/
def sizeNeeded (allocation : Allocation) : ℕ :=
  (allocation.pcrSelections.map fun selection => selection.hash.digestSize * selection.count).sum

/-- `sizeof(s_pcrs)`. -/
def sizeofPcrs : ℕ := IMPLEMENTATION_PCR * (Bank.all.map Bank.digestSize).sum

/-- A register is in some bank of the allocation. -/
def isInSomeBank (allocation : Allocation) (pcr : ℕ) : Bool :=
  allocation.pcrSelections.any (·.testBit pcr)

/-! ## The registers -/

/-- The fields of `PCR_Attributes` that are used here. -/
structure PcrAttributes where
  stateSave : Bool
  doNotIncrementPcrCounter : Bool
  resetLocality : UInt8
  extendLocality : UInt8
  deriving DecidableEq

/-- `s_initAttributes` -/
def initAttributes : List PcrAttributes :=
  List.replicate 16 ⟨true, false, 0, 0x1F⟩ ++
    [⟨false, true, 0x0F, 0x1F⟩,
      ⟨false, false, 0x10, 0x1C⟩,
      ⟨false, false, 0x10, 0x1C⟩,
      ⟨false, false, 0x10, 0x0C⟩,
      ⟨false, false, 0x1C, 0x0E⟩,
      ⟨false, true, 0x1C, 0x04⟩,
      ⟨false, true, 0x1C, 0x04⟩,
      ⟨false, true, 0x0F, 0x1F⟩]

/-- `_platPcr__GetPcrInitializationAttributes()`: a number that is too large gives those of the
first register. -/
def pcrAttributes (pcr : ℕ) : PcrAttributes :=
  initAttributes.getD (if pcr ≥ IMPLEMENTATION_PCR then 0 else pcr) ⟨true, false, 0, 0x1F⟩

/-- `PCRIsStateSaved()`. -/
def pcrIsStateSaved (pcr : ℕ) : Bool := (pcrAttributes pcr).stateSave

/-- `localityBits << commandLocality`, stored in a byte: no bit is left from locality 8 on. -/
def localityBits (locality : UInt8) : UInt8 := .ofNat (1 <<< locality.toNat)

/-- `PCRIsExtendAllowed()`. -/
def pcrIsExtendAllowed (locality : UInt8) (pcr : ℕ) : Bool :=
  localityBits locality &&& (pcrAttributes pcr).extendLocality != 0

/-- `PCRIsResetAllowed()`. -/
def pcrIsResetAllowed (locality : UInt8) (pcr : ℕ) : Bool :=
  locality != 4 && localityBits locality &&& (pcrAttributes pcr).resetLocality != 0

/-- The registers of all banks, or the save area. -/
abbrev PcrValues := Bank → ℕ → Bytes

/-- Write one of them. -/
def PcrValues.set (values : PcrValues) (bank : Bank) (pcr : ℕ) (value : Bytes) : PcrValues :=
  fun bank' pcr' => if bank' = bank ∧ pcr' = pcr then value else values bank' pcr'

@[simp]
lemma PcrValues.set_self (values : PcrValues) (bank : Bank) (pcr : ℕ) (value : Bytes) :
    values.set bank pcr value bank pcr = value := if_pos ⟨rfl, rfl⟩

lemma PcrValues.set_pcr_ne (values : PcrValues) {bank bank' : Bank} {pcr pcr' : ℕ}
    (value : Bytes) (h : pcr' ≠ pcr) :
    values.set bank pcr value bank' pcr' = values bank' pcr' := if_neg fun h' => h h'.2

lemma PcrValues.set_bank_ne (values : PcrValues) {bank bank' : Bank} {pcr pcr' : ℕ}
    (value : Bytes) (h : bank' ≠ bank) :
    values.set bank pcr value bank' pcr' = values bank' pcr' := if_neg fun h' => h h'.1

/-- The loop over the banks of an allocation: at one place, write a value for each bank that meets
a condition. -/
def setBanks (allocation : Allocation) (pcr : ℕ) (cond : Bank → Bool) (value : Bank → Bytes)
    (values : PcrValues) : PcrValues :=
  allocation.pcrSelections.foldl
    (fun values selection =>
      if cond selection.hash then values.set selection.hash pcr (value selection.hash) else values)
    values

/-- The hash functions. -/
abbrev HashAlg := Bank → Bytes → Bytes

/-! ## The state -/

/-- The fields of `PERSISTENT_DATA` that are used here. -/
structure PersistentData where
  pcrAllocated : Allocation
  orderlyState : UInt16
  disableClear : Bool

/-- The NV image: the persistent data, and of the data of a state save `gc.pcrSave` and
`gr.pcrCounter`. -/
structure Image where
  gp : PersistentData
  pcrSave : PcrValues
  pcrCounter : UInt32

/-- The state of the TPM.  Of `g_updateNV` only whether it is `UT_NONE` matters. -/
structure Tpm extends Globals Image Bool where
  gp : PersistentData
  /-- `s_pcrs` -/
  pcrs : PcrValues
  /-- `gc.pcrSave` -/
  pcrSave : PcrValues
  /-- `gr.pcrCounter` -/
  pcrCounter : UInt32
  pcrReConfig : Bool

/-- A part of a command that may stop it. -/
abbrev PcrM := Fallible TpmRc Tpm

namespace Tpm

/-- `FAIL` -/
def fail (s : Tpm) : Tpm := { s with toGlobals := s.toGlobals.fail }

/-- A register is written. -/
def setPcr (s : Tpm) (bank : Bank) (pcr : ℕ) (value : Bytes) : Tpm :=
  { s with pcrs := s.pcrs.set bank pcr value }

/-- `NvWrite()` -/
def write (s : Tpm) (f : Image → Image) : Tpm := { s with nv := f s.nv, updateNv := true }

/-- `NvWrite()` to the persistent data. -/
def writePersistent (s : Tpm) (f : PersistentData → PersistentData) : Tpm :=
  s.write fun m => { m with gp := f m.gp }

/-- `NV_SYNC_PERSISTENT(orderlyState)` -/
def syncOrderlyState (s : Tpm) : Tpm :=
  s.writePersistent fun p => { p with orderlyState := s.gp.orderlyState }

/-- Set `gp.orderlyState`. -/
def setOrderlyState (s : Tpm) (value : UInt16) : Tpm :=
  { s with gp := { s.gp with orderlyState := value } }

end Tpm

/-- `RETURN_IF_NV_IS_NOT_AVAILABLE` -/
def returnIfNvIsNotAvailable : PcrM Unit := do
  let nvStatus ← gets (·.nvStatus)
  stopIf (nvStatus ≠ TPM_RC_SUCCESS) nvStatus

/-- `RETURN_IF_ORDERLY` -/
def returnIfOrderly : PcrM Unit := do
  let s ← gets id
  stopIf (isOrderly s.gp.orderlyState ∧ s.nvStatus ≠ TPM_RC_SUCCESS) s.nvStatus
  .modify fun s => { s with clearOrderly := true }

/-! ## `PCR.c` -/

/-- `PCRChanged()` -/
def pcrChanged (pcr : ℕ) (s : Tpm) : Tpm :=
  if pcr = 0 ∨ !(pcrAttributes pcr).doNotIncrementPcrCounter then
    let s := { s with pcrCounter := s.pcrCounter + 1 }
    if s.pcrCounter = 0 then s.fail else s
  else s

/-- `PCRExtend()` -/
def pcrExtend (h : HashAlg) (pcr : ℕ) (hash : Bank) (data : Bytes) (s : Tpm) : Tpm :=
  if pcrIsAllocated s.gp.pcrAllocated pcr hash then
    pcrChanged pcr (s.setPcr hash pcr (h hash (s.pcrs hash pcr ++ data)))
  else s

/-- `PCRSetValue()`, for the value zero.  The entry of the allocation at the index of an algorithm
is the one for it. -/
def pcrSetValue (pcr : ℕ) (s : Tpm) : Tpm :=
  { s with
    pcrs := setBanks s.gp.pcrAllocated pcr (pcrIsAllocated s.gp.pcrAllocated pcr)
      (fun hash => List.replicate hash.digestSize 0) s.pcrs }

/-- Any register that locality 4 can reset is a dynamic one. -/
def isDynamic (pcr : ℕ) : Bool := (pcrAttributes pcr).resetLocality &&& 0x10 != 0

/-- The inner loop of `PCRResetDynamics()`. -/
def resetDynamic (s : Tpm) (pcr : ℕ) : Tpm :=
  { s with
    pcrs := setBanks s.gp.pcrAllocated pcr
      (fun hash => pcrIsAllocated s.gp.pcrAllocated pcr hash && isDynamic pcr)
      (fun hash => List.replicate hash.digestSize 0) s.pcrs }

/-- `PCRResetDynamics()` -/
def pcrResetDynamics (s : Tpm) : Tpm := (List.range IMPLEMENTATION_PCR).foldl resetDynamic s

/-- `PcrDrtm()` -/
def pcrDrtm (h : HashAlg) (pcr : ℕ) (hash : Bank) (digest : Bytes) (s : Tpm) : Tpm :=
  if pcrIsAllocated s.gp.pcrAllocated pcr hash then
    let zeros := List.replicate hash.digestSize 0
    let start := if s.power.initialized then zeros else zeros.set (hash.digestSize - 1) 4
    pcrExtend h pcr hash digest (s.setPcr hash pcr start)
  else s

/-- The initial value of a register, from `_platPcr__GetInitialValueForPcr()`. -/
def initialValue (pcr : ℕ) (hash : Bank) (locality : UInt8) : Bytes :=
  let value := List.replicate hash.digestSize (if isDynamic pcr then 0xFF else 0)
  if pcr = HCRTM_PCR then value.set (hash.digestSize - 1) locality else value

/-- The inner loop of `PCRStartup()`. -/
def startBanks (stateSaved : Bool) (locality : UInt8) (pcr saveIndex : ℕ) (s : Tpm) : Tpm :=
  { s with
    pcrs := setBanks s.gp.pcrAllocated pcr (pcrIsAllocated s.gp.pcrAllocated pcr)
      (fun hash => if stateSaved then s.pcrSave hash saveIndex else initialValue pcr hash locality)
      s.pcrs }

/-- The turn of the outer loop of `PCRStartup()` for one register, with `saveIndex`. -/
def startPcr (type : StartupType) (locality : UInt8) : Tpm × ℕ → ℕ → Tpm × ℕ
  | (s, saveIndex), pcr =>
    let stateSaved := type == .resume && pcrIsStateSaved pcr
    let s := if stateSaved then s else pcrChanged pcr s
    -- an H-CRTM event has set this register already
    if pcr = HCRTM_PCR ∧ type ≠ .resume ∧ s.power.drtmPreStartup then (s, saveIndex)
    else
      (startBanks stateSaved locality pcr saveIndex s, saveIndex + if stateSaved then 1 else 0)

/-- `PCRStartup()` before its loop.  The PCR counter starts again with a reset. -/
def beginPcrStartup (type : StartupType) (s : Tpm) : Tpm :=
  { s with
    pcrReConfig := false
    pcrCounter := if type ≠ .resume ∧ type ≠ .restart then 0 else s.pcrCounter }

/-- `PCRStartup()`.  Library and platform have the same number of registers. -/
def pcrStartup (type : StartupType) (locality : UInt8) (s : Tpm) : Tpm :=
  ((List.range IMPLEMENTATION_PCR).foldl (startPcr type locality) (beginPcrStartup type s, 0)).1

/-- The turn of the outer loop of `PCRStateSave()` for one register, with `saveIndex`. -/
def savePcr (allocation : Allocation) (pcrs : PcrValues) : PcrValues × ℕ → ℕ → PcrValues × ℕ
  | (save, saveIndex), pcr =>
    (setBanks allocation saveIndex
      (fun hash => pcrIsAllocated allocation pcr hash && pcrIsStateSaved pcr)
      (fun hash => pcrs hash pcr) save,
    saveIndex + if pcrIsStateSaved pcr then 1 else 0)

/-- `PCRStateSave()` for `TPM_SU_STATE`. -/
def pcrStateSave (s : Tpm) : Tpm :=
  { s with
    pcrSave := ((List.range IMPLEMENTATION_PCR).foldl (savePcr s.gp.pcrAllocated s.pcrs)
      (s.pcrSave, 0)).1 }

/-- `PCRAllocate()` -/
def pcrAllocate (allocate : List Selection) : PcrM AllocateOut := do
  let allocation ← gets (·.gp.pcrAllocated)
  let new := newAllocate allocation allocate
  stopIf (!isInSomeBank new DRTM_PCR ∨ !isInSomeBank new HCRTM_PCR) TPM_RC_PCR
  .modify fun s => s.writePersistent fun p => { p with pcrAllocated := new }
  pure ⟨true, IMPLEMENTATION_PCR, sizeNeeded new, sizeofPcrs⟩

/-! ## Commands -/

/-- The PCR of a command; `none` is `TPM_RH_NULL`. -/
abbrev PcrHandle := Option (Fin IMPLEMENTATION_PCR)

/-- The orderly state has to change with a state-saved register. -/
def checkStateSaved (pcr : ℕ) : PcrM Unit :=
  if pcrIsStateSaved pcr then returnIfOrderly else pure ()

/-- The checks before a register is extended. -/
def checkExtend (locality : UInt8) (pcr : ℕ) : PcrM Unit := do
  stopIf (!pcrIsExtendAllowed locality pcr) TPM_RC_LOCALITY
  checkStateSaved pcr

/-- Extend a register with a digest for each of some banks. -/
def extendAll (h : HashAlg) (pcr : ℕ) (digests : List (Bank × Bytes)) (s : Tpm) : Tpm :=
  digests.foldl (fun s (hash, digest) => pcrExtend h pcr hash digest s) s

/-- `TPM2_PCR_Extend()` -/
def tpm2PcrExtend (h : HashAlg) (locality : UInt8) (pcrHandle : PcrHandle)
    (digests : List (Bank × Bytes)) : PcrM Unit :=
  match pcrHandle with
  | none => pure ()
  | some pcr => do
      checkExtend locality pcr
      .modify (extendAll h pcr digests)

/-- `TPM2_PCR_Event()` -/
def tpm2PcrEvent (h : HashAlg) (locality : UInt8) (pcrHandle : PcrHandle)
    (eventData : Bytes) : PcrM Unit :=
  match pcrHandle with
  | none => pure ()
  | some pcr => do
      checkExtend locality pcr
      .modify (extendAll h pcr (Bank.all.map fun hash => (hash, h hash eventData)))

/-- `TPM2_EventSequenceComplete()`.  `digests` are the completed hashes of the sequence object, if
it is an event sequence. -/
def tpm2EventSequenceComplete (h : HashAlg) (locality : UInt8) (pcrHandle : PcrHandle)
    (digests : Option (Bank → Bytes)) : PcrM Unit :=
  match digests with
  | none => stop (TPM_RC_MODE + RC_SECOND_HANDLE)
  | some digests =>
    match pcrHandle with
    | none => pure ()
    | some pcr => do
        checkExtend locality pcr
        .modify (extendAll h pcr (Bank.all.map fun hash => (hash, digests hash)))

/-- `TPM2_PCR_Reset()` -/
def tpm2PcrReset (locality : UInt8) (pcr : Fin IMPLEMENTATION_PCR) : PcrM Unit := do
  stopIf (!pcrIsResetAllowed locality pcr) TPM_RC_LOCALITY
  checkStateSaved pcr
  .modify fun s => pcrChanged pcr (pcrSetValue pcr s)

/-- `TPM2_PCR_Allocate()` -/
def tpm2PcrAllocate (allocate : List Selection) : PcrM AllocateOut := do
  returnIfNvIsNotAvailable
  let out ← pcrAllocate allocate
  .modify fun s => { s with pcrReConfig := true }
  pure out

/-- `TPM2_Clear()`: all of `gp` is written to NV. -/
def tpm2Clear : PcrM Unit := do
  returnIfNvIsNotAvailable
  let disableClear ← gets (·.gp.disableClear)
  stopIf (disableClear = true) TPM_RC_DISABLED
  .modify fun s => s.writePersistent fun _ => s.gp
  .modify (pcrChanged 0)
  .modify fun s => { s with clearOrderly := true }

/-- `TPM2_ClearControl()` -/
def tpm2ClearControl (withLockoutAuth disable : Bool) : PcrM Unit := do
  returnIfNvIsNotAvailable
  stopIf (withLockoutAuth ∧ !disable) Da.TPM_RC_AUTH_FAIL
  .modify fun s =>
    { s with gp := { s.gp with disableClear := disable } }.writePersistent
      fun p => { p with disableClear := disable }

/-- The writes of `TPM2_Shutdown(TPM_SU_STATE)`. -/
def saveState (s : Tpm) : Tpm :=
  (pcrStateSave s).write fun m =>
    { m with pcrSave := (pcrStateSave s).pcrSave, pcrCounter := s.pcrCounter }

/-- `TPM2_Shutdown()` -/
def tpm2Shutdown (shutdownType : Da.ShutdownType) : PcrM Unit := do
  returnIfNvIsNotAvailable
  let pcrReConfig ← gets Tpm.pcrReConfig
  stopIf (pcrReConfig ∧ shutdownType = .state) (TPM_RC_TYPE + RC_FIRST_PARAMETER)
  .modify fun s => if shutdownType = .state then saveState s else s
  .modify fun s => (s.setOrderlyState (shutdownState s.power shutdownType.value)).syncOrderlyState

/-- What `TPM2_Startup()` depends on besides this state. -/
structure StartupInput where
  locality : UInt8
  cryptOk : Bool
  deriving DecidableEq

/-- The data of a state save that `TPM2_Startup()` reads back. -/
def readSaved (type : StartupType) (s : Tpm) : Tpm :=
  match type with
  | .reset => s
  | .restart => { s with pcrCounter := s.nv.pcrCounter }
  | .resume => { s with pcrCounter := s.nv.pcrCounter, pcrSave := s.nv.pcrSave }

/-- The start of the subsystems.  If `CryptStartup()` fails, nothing else is started. -/
def startSubsystems (i : StartupInput) (type : StartupType) (locality : UInt8) : PcrM Unit := do
  if i.cryptOk then do
    .modify fun s => { s with power := { s.power with initialized := true } }
    .modify (pcrStartup type locality)
    .modify fun s => (s.setOrderlyState SU_NONE_VALUE).syncOrderlyState
  else do
    .modify fun s => s.setOrderlyState SU_NONE_VALUE
    stop TPM_RC_FAILURE

/-- The locality of a startup; an H-CRTM event counts as locality 3 by itself. -/
def startupLocality (i : StartupInput) (s : Tpm) : UInt8 :=
  if s.power.drtmPreStartup then 0 else i.locality

/-- `TPM2_Startup()` -/
def tpm2Startup (i : StartupInput) (startupType : Da.ShutdownType) : PcrM Unit := do
  returnIfNvIsNotAvailable
  stopIf (i.locality ≠ 0 ∧ i.locality ≠ 3) TPM_RC_LOCALITY
  let s ← gets id
  let locality := startupLocality i s
  .modify fun s => { s with power := { s.power with startupLocality3 := locality == 3 } }
  let check := startupCheck s.power.drtmPreStartup (locality == 3) s.gp.orderlyState
    startupType.value
  stopIf (check ≠ TPM_RC_SUCCESS) check
  let prev := prevOrderlyStateOf s.gp.orderlyState
  let type := startupTypeOf prev startupType.value
  .modify fun s => readSaved type (s.setOrderlyState prev)
  startSubsystems i type locality

/-- What the rest of the TPM does in a part of a command. -/
structure Effect where
  clearOrderly : Bool
  updateNv : Bool
  fails : Bool
  deriving DecidableEq

/-- The flags that an effect raises. -/
@[simps]
def Effect.raise {Image : Type} (e : Effect) (g : Globals Image Bool) : Globals Image Bool :=
  { g with
    clearOrderly := g.clearOrderly || e.clearOrderly
    updateNv := g.updateNv || e.updateNv
    inFailureMode := g.inFailureMode || e.fails }

def Effect.apply (e : Effect) (s : Tpm) : Tpm := { s with toGlobals := e.raise s.toGlobals }

/-- The commands.  Of one that does not touch this state only its effect matters. -/
inductive Command
  | pcrExtend (locality : UInt8) (pcrHandle : PcrHandle) (digests : List (Bank × Bytes))
  | pcrEvent (locality : UInt8) (pcrHandle : PcrHandle) (eventData : Bytes)
  | eventSequenceComplete (locality : UInt8) (pcrHandle : PcrHandle)
      (digests : Option (Bank → Bytes))
  | pcrReset (locality : UInt8) (pcr : Fin IMPLEMENTATION_PCR)
  | pcrAllocate (allocate : List Selection)
  | clear
  | clearControl (withLockoutAuth disable : Bool)
  | shutdown (shutdownType : Da.ShutdownType)
  | other (effect : Effect) (result : Except TpmRc Unit)

/-- The action of a command. -/
def Command.action (h : HashAlg) : Command → PcrM Unit
  | pcrExtend locality pcrHandle digests => tpm2PcrExtend h locality pcrHandle digests
  | pcrEvent locality pcrHandle eventData => tpm2PcrEvent h locality pcrHandle eventData
  | eventSequenceComplete locality pcrHandle digests =>
    tpm2EventSequenceComplete h locality pcrHandle digests
  | pcrReset locality pcr => tpm2PcrReset locality pcr
  | pcrAllocate allocate => do
      let _ ← tpm2PcrAllocate allocate
  | clear => tpm2Clear
  | clearControl withLockoutAuth disable => tpm2ClearControl withLockoutAuth disable
  | shutdown shutdownType => tpm2Shutdown shutdownType
  | other effect result => do
      .modify effect.apply
      ofExcept result

/-! ## `ExecuteCommand()` and the runs of the TPM -/

/-- What a command depends on besides this state.  `before` is the effect of what precedes the
action, the clock and the authorization among it, and `after` that of what follows.  `refused` is
the response code if the command does not get to its action. -/
structure Env where
  nvStatus : TpmRc
  commitOk : Bool
  before : Effect
  refused : Option TpmRc
  after : Effect
  deriving DecidableEq

/-- The orderly state is cleared when the command asked for it. -/
def clearOrderlyState (s : Tpm) : Tpm :=
  if s.toGlobals.clearsOrderly s.gp.orderlyState then
    (s.setOrderlyState SU_NONE_VALUE).syncOrderlyState
  else s

/-- The commit at the end of `ExecuteCommand()`. -/
def commit (commitOk : Bool) (s : Tpm) : Tpm :=
  { s with toGlobals := s.toGlobals.commit false commitOk }

/-- The flags are reset and the state of NV is looked up, before what precedes the action. -/
def Env.begin {Image : Type} (env : Env) (g : Globals Image Bool) : Globals Image Bool :=
  env.before.raise ((g.resetFlags false).nvCheckState env.nvStatus)

def beginCommand (env : Env) (s : Tpm) : Tpm := { s with toGlobals := env.begin s.toGlobals }

/-- The clean-up of `ExecuteCommand()`. -/
def endCommand (env : Env) (s : Tpm) : Tpm :=
  commit env.commitOk (clearOrderlyState (env.after.apply s))

/-- `ExecuteCommand()`; a TPM in failure mode does not get to the command. -/
def execute (env : Env) (body : PcrM Unit) (s : Tpm) : Except TpmRc Unit × Tpm :=
  if s.inFailureMode then
    (.error TPM_RC_FAILURE, { s with toGlobals := s.toGlobals.resetFlags false })
  else ((body (beginCommand env s)).1, endCommand env (body (beginCommand env s)).2)

/-- The routines of a command other than `TPM2_Startup()`. -/
def commandBody (h : HashAlg) (env : Env) (c : Command) : PcrM Unit := do
  let initialized ← gets (·.power.initialized)
  stopIf (initialized = false) TPM_RC_INITIALIZE
  match env.refused with
  | some rc => stop rc
  | none => c.action h

/-- The routines of `TPM2_Startup()`, which is accepted once. -/
def startupBody (env : Env) (i : StartupInput) (startupType : Da.ShutdownType) : PcrM Unit := do
  let initialized ← gets (·.power.initialized)
  stopIf (initialized = true) TPM_RC_INITIALIZE
  match env.refused with
  | some rc => stop rc
  | none => tpm2Startup i startupType

/-- `_TPM_Hash_End`, with the digests of the sequence. -/
def hashEnd (h : HashAlg) (digests : Bank → Bytes) (s : Tpm) : Tpm :=
  let s' :=
    if s.power.initialized then pcrResetDynamics s
    else { s with power := { s.power with drtmPreStartup := true } }
  let pcr := if s.power.initialized then DRTM_PCR else HCRTM_PCR
  Bank.all.foldl (fun s hash => pcrDrtm h pcr hash (digests hash) s) s'

/-- What a power cycle leaves to chance: what is in RAM, and whether `_TPM_Init` gets to reading
the persistent data. -/
structure PowerCycle where
  gp : PersistentData
  pcrs : PcrValues
  pcrSave : PcrValues
  pcrCounter : UInt32
  pcrReConfig : Bool
  initOk : Bool

/-- `_TPM_Init` with the image `file`. -/
def powerOn (c : PowerCycle) (file : Image) : Tpm where
  toGlobals := Globals.powerOn false false c.initOk file
  gp := if c.initOk then file.gp else c.gp
  pcrs := c.pcrs
  pcrSave := c.pcrSave
  pcrCounter := c.pcrCounter
  pcrReConfig := c.pcrReConfig

/-- What happens to the TPM. -/
inductive Event
  | command (env : Env) (c : Command)
  | startup (env : Env) (i : StartupInput) (startupType : Da.ShutdownType)
  | hashEnd (digests : Bank → Bytes)
  | powerLoss (c : PowerCycle)

/-- The response of an event, if it has one, and the state after it. -/
def Event.exec (h : HashAlg) : Event → Tpm → Except TpmRc Unit × Tpm
  | command env c, s => execute env (commandBody h env c) s
  | startup env i startupType, s => execute env (startupBody env i startupType) s
  | hashEnd digests, s => (.ok (), Pcr.hashEnd h digests s)
  | powerLoss c, s => (.ok (), powerOn c s.file)

/-- The selection of a bank that is active, or not, after manufacture. -/
def defaultSelection (hash : Bank) : Selection where
  hash := hash
  pcrSelect := if hash = .sha256 ∨ hash = .sha384 then #v[0xFF, 0xFF, 0xFF] else #v[0, 0, 0]

/-- The image that `TPM_Manufacture()` leaves; it does not write the data of a state save. -/
def manufactured (pcrSave : PcrValues) (pcrCounter : UInt32) : Image where
  gp := ⟨⟨Bank.all.map defaultSelection, by decide⟩, TPM_SU_CLEAR, false⟩
  pcrSave := pcrSave
  pcrCounter := pcrCounter

/-- The TPM, from its first power-on after manufacture. -/
def pcrSystem (h : HashAlg) : System Tpm Event where
  init s := ∃ c pcrSave pcrCounter, s = powerOn c (manufactured pcrSave pcrCounter)
  enabled _ _ := True
  step s e := (e.exec h s).2

end RfTpm.Pcr
