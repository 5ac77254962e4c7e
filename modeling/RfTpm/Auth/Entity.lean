import RfTpm.Auth.Session
import RfTpm.Da.State
import RfTpm.Lib.Runs
import RfTpm.Lib.Fallible

/-!
# Entities

What a handle refers to, and what session processing asks about it: whether the entity is
there (`EntityGetLoadStatus()`), its Name, its authValue and its authPolicy, and whether the
dictionary-attack logic protects it.

The state is what these functions read: the loaded sessions and objects, the NV indices, the
hierarchies and the PCR groups, together with the dictionary-attack state.
-/

namespace RfTpm.Auth

open Bytes TpmaNv

def TPM_RC_SVN_LIMITED : TpmRc := 0xA9
def TPM_RC_EXCLUSIVE : TpmRc := 0x121
def TPM_RC_AUTH_CONTEXT : TpmRc := 0x145
def TPM_RC_OBJECT_MEMORY : TpmRc := 0x902
def TPM_RC_REFERENCE_H0 : TpmRc := 0x910
def TPM_RC_REFERENCE_S0 : TpmRc := 0x918

def TPM_HT_PCR : ℕ := 0x00
def TPM_HT_HMAC_SESSION : ℕ := 0x02
def TPM_HT_POLICY_SESSION : ℕ := 0x03
def TPM_HT_PERMANENT : ℕ := 0x40
def TPM_HT_TRANSIENT : ℕ := 0x80

def TPM_RH_NULL : TpmHandle := 0x40000007
def TPM_RH_LOCKOUT : TpmHandle := 0x4000000A
def TPM_RH_AUTH_00 : TpmHandle := 0x40000010
def TPM_RH_AUTH_FF : TpmHandle := 0x4000010F
def TPM_RH_ACT_0 : TpmHandle := 0x40000110
def TPM_RH_ACT_F : TpmHandle := 0x4000011F
def TPM_RH_FW_OWNER : TpmHandle := 0x40000140
def TPM_RH_FW_ENDORSEMENT : TpmHandle := 0x40000141
def TPM_RH_FW_PLATFORM : TpmHandle := 0x40000142
def TPM_RH_FW_NULL : TpmHandle := 0x40000143
def TPM_RH_SVN_OWNER_BASE : TpmHandle := 0x40010000
def TPM_RH_SVN_ENDORSEMENT_BASE : TpmHandle := 0x40020000
def TPM_RH_SVN_PLATFORM_BASE : TpmHandle := 0x40030000
def TPM_RH_SVN_NULL_BASE : TpmHandle := 0x40040000

def HR_HANDLE_MASK : TpmHandle := 0x00FFFFFF
def TRANSIENT_FIRST : TpmHandle := 0x80000000
def PLATFORM_PERSISTENT : TpmHandle := 0x81800000
def MAX_LOADED_OBJECTS : ℕ := 3

def TPM_ALG_ERROR : ℕ := 0x0000
def TPM_ALG_NULL : ℕ := 0x0010

def TPM_CC_EvictControl : ℕ := 0x120
def TPM_CC_NV_Increment : ℕ := 0x134
def TPM_CC_NV_SetBits : ℕ := 0x135
def TPM_CC_NV_Extend : ℕ := 0x136
def TPM_CC_NV_Write : ℕ := 0x137
def TPM_CC_NV_WriteLock : ℕ := 0x138
def TPM_CC_GetCommandAuditDigest : ℕ := 0x133

/-! ## The state -/

/-- The authorization of a hierarchy or of `TPM_RH_LOCKOUT`. -/
structure Hierarchy where
  authValue : Bytes
  authPolicy : Bytes
  policyAlg : ℕ
  deriving DecidableEq

/-- An occupied object slot. -/
structure ObjectSlot where
  userWithAuth : Bool
  adminWithPolicy : Bool
  noDA : Bool
  publicOnly : Bool
  isSequence : Bool
  hierarchy : TpmHandle
  nameAlg : ℕ
  name : Bytes
  authValue : Bytes
  authPolicy : Bytes
  deriving DecidableEq

/-- An NV Index.  `pinCount` and `pinLimit` are the value of a PIN index. -/
structure NvEntity where
  attributes : TpmaNv
  nameAlg : ℕ
  name : Bytes
  authValue : Bytes
  authPolicy : Bytes
  pinCount : UInt32
  pinLimit : UInt32
  deriving DecidableEq

/-- The state that session processing reads and changes.  `sessions` are the loaded sessions
by the low bits of their handle, `objects` the occupied slots by their transient handle, and
`pcrPolicy` gives the algorithm and the policy of the policy group of a PCR, if it is in one. -/
structure Tpm where
  da : Da.Tpm
  sessions : TpmHandle → Option Session
  objects : TpmHandle → Option ObjectSlot
  persistent : TpmHandle → Option ObjectSlot
  nvIndices : TpmHandle → Option NvEntity
  owner : Hierarchy
  endorsement : Hierarchy
  platform : Hierarchy
  lockout : Hierarchy
  shEnable : Bool
  ehEnable : Bool
  phEnable : Bool
  phEnableNv : Bool
  pcrAuthValue : TpmHandle → Bytes
  pcrPolicy : TpmHandle → Option (ℕ × Bytes)
  pcrCounter : UInt32
  exclusiveAuditSession : TpmHandle
  ppList : ℕ → Bool
  auditCommands : ℕ → Bool
  commandAuditDigest : Bytes

/-- The entry of a command in `s_commandAttributes`. -/
structure CommandAttributes where
  handle1 : AuthRole
  handle2User : Bool
  noSessions : Bool
  decryptSize : ℕ
  encryptSize : ℕ
  deriving DecidableEq

/-- What session processing depends on besides the state: the command table, the platform
and the cryptography.  `decryptParameter` is `CryptParameterDecryption()`: it decrypts in
place; `stale` is what the `COMMAND` on the stack holds before a request is parsed. -/
structure Context where
  crypto : Crypto
  stale : Command
  attributes : ℕ → CommandAttributes
  locality : UInt8
  physicalPresence : Bool
  firmwareSvn : UInt32
  decryptParameter : Session → Bytes → ℕ → Bytes → (buffer : Bytes) →
    Except TpmRc { decrypted : Bytes // decrypted.length = buffer.length }

/-- A part of a command that may stop it. -/
abbrev AuthM := Fallible TpmRc Tpm

namespace Tpm

/-- `FAIL`. -/
def fail (t : Tpm) : Tpm := { t with da := t.da.fail }

/-- `SessionGet()` and `SessionIsLoaded()`: the session in the slot of a handle. -/
def sessionGet (t : Tpm) (handle : TpmHandle) : Option Session :=
  t.sessions (handle &&& HR_HANDLE_MASK)

/-- A change of a loaded session. -/
def modifySession (handle : TpmHandle) (f : Session → Session) (t : Tpm) : Tpm :=
  { t with
    sessions := Function.update t.sessions (handle &&& HR_HANDLE_MASK)
      ((t.sessionGet handle).map f) }

/-- A change of an NV Index. -/
def modifyNvIndex (handle : TpmHandle) (f : NvEntity → NvEntity) (t : Tpm) : Tpm :=
  { t with nvIndices := Function.update t.nvIndices handle ((t.nvIndices handle).map f) }

end Tpm

/-! ## The command table -/

/-- `CommandAuthRole()`. -/
def commandAuthRole (x : Context) (code handleIndex : ℕ) : AuthRole :=
  match handleIndex with
  | 0 => (x.attributes code).handle1
  | 1 => if (x.attributes code).handle2User then .user else .none
  | _ => .none

/-- `IsWriteOperation()`. -/
def isWriteOperation (code : ℕ) : Bool :=
  code == TPM_CC_NV_Write || code == TPM_CC_NV_Increment || code == TPM_CC_NV_SetBits ||
    code == TPM_CC_NV_Extend || code == TPM_CC_NV_WriteLock

/-! ## Hierarchies -/

/-- `HIERARCHY_MODIFIER`. -/
inductive HierarchyModifier where
  | none
  | fwLimited
  | svnLimited (minSvn : UInt32)
  deriving DecidableEq

/-- `DecomposeHandle()`. -/
def decomposeHandle (handle : TpmHandle) : TpmHandle × HierarchyModifier :=
  if handle = TPM_RH_FW_OWNER then (TPM_RH_OWNER, .fwLimited)
  else if handle = TPM_RH_FW_ENDORSEMENT then (TPM_RH_ENDORSEMENT, .fwLimited)
  else if handle = TPM_RH_FW_PLATFORM then (TPM_RH_PLATFORM, .fwLimited)
  else if handle = TPM_RH_FW_NULL then (TPM_RH_NULL, .fwLimited)
  else
    let svn := handle &&& 0x0000FFFF
    let base := handle &&& 0xFFFF0000
    if base = TPM_RH_SVN_OWNER_BASE then (TPM_RH_OWNER, .svnLimited svn)
    else if base = TPM_RH_SVN_ENDORSEMENT_BASE then (TPM_RH_ENDORSEMENT, .svnLimited svn)
    else if base = TPM_RH_SVN_PLATFORM_BASE then (TPM_RH_PLATFORM, .svnLimited svn)
    else if base = TPM_RH_SVN_NULL_BASE then (TPM_RH_NULL, .svnLimited svn)
    else (handle, .none)

/-- `HierarchyNormalizeHandle()`. -/
def hierarchyNormalizeHandle (handle : TpmHandle) : TpmHandle := (decomposeHandle handle).1

/-- The end of `ValidateHierarchy()`: whether the base hierarchy is enabled. -/
def baseHierarchyStatus (t : Tpm) (hierarchy : TpmHandle) : TpmRc :=
  let status (enabled : Bool) := if enabled then TPM_RC_SUCCESS else TPM_RC_HIERARCHY
  if hierarchy = TPM_RH_PLATFORM then status t.phEnable
  else if hierarchy = TPM_RH_OWNER then status t.shEnable
  else if hierarchy = TPM_RH_ENDORSEMENT then status t.ehEnable
  else if hierarchy = TPM_RH_NULL then TPM_RC_SUCCESS
  else TPM_RC_VALUE

/-- `ValidateHierarchy()`. -/
def validateHierarchy (x : Context) (t : Tpm) (handle : TpmHandle) : TpmRc :=
  match decomposeHandle handle with
  | (hierarchy, .svnLimited minSvn) =>
    if minSvn > x.firmwareSvn then TPM_RC_SVN_LIMITED else baseHierarchyStatus t hierarchy
  | (hierarchy, _) => baseHierarchyStatus t hierarchy

/-! ## Load status -/

/-- `NvIndexIsAccessible()`. -/
def nvIndexIsAccessible (t : Tpm) (handle : TpmHandle) : TpmRc :=
  match t.nvIndices handle with
  | none => TPM_RC_HANDLE
  | some nvIndex =>
    if !nvIndex.attributes.isSet PLATFORMCREATE then
      if t.shEnable then TPM_RC_SUCCESS else TPM_RC_HANDLE
    else if t.phEnableNv then TPM_RC_SUCCESS else TPM_RC_HANDLE

/-- The status of a permanent handle. -/
def permanentStatus (x : Context) (t : Tpm) (handle : TpmHandle) : TpmRc :=
  if handle = TPM_RS_PW ∨ handle = TPM_RH_LOCKOUT then TPM_RC_SUCCESS
  else if TPM_RH_AUTH_00 ≤ handle ∧ handle ≤ TPM_RH_AUTH_FF then TPM_RC_VALUE
  else validateHierarchy x t handle

/-- The status of a session handle: the session is loaded and of the type of the handle. -/
def sessionStatus (t : Tpm) (handle : TpmHandle) (isPolicy : Bool) : TpmRc :=
  match t.sessionGet handle with
  | none => TPM_RC_REFERENCE_H0
  | some session =>
    if session.attributes.isPolicy = isPolicy then TPM_RC_SUCCESS else TPM_RC_HANDLE

/-- `FindEmptyObjectSlot()`: the transient handle of the first free slot. -/
def findEmptyObjectSlot (t : Tpm) : Option TpmHandle :=
  ((List.range MAX_LOADED_OBJECTS).map fun i => TRANSIENT_FIRST + UInt32.ofNat i).find?
    fun handle => (t.objects handle).isNone

/-- `ObjectLoadEvict()`: the transient handle of the loaded object.  A slot taken by a load
that fails is freed at the end of the command. -/
def objectLoadEvict (code : ℕ) (handle : TpmHandle) : AuthM TpmHandle := do
  let t ← .gets id
  .stopIf (if handle ≥ PLATFORM_PERSISTENT then !t.phEnable else !t.shEnable) TPM_RC_HANDLE
  match findEmptyObjectSlot t, t.persistent handle with
  | none, _ => .stop TPM_RC_OBJECT_MEMORY
  | some _, none => .stop TPM_RC_HANDLE
  | some slot, some object => do
      .stopIf (hierarchyNormalizeHandle object.hierarchy = TPM_RH_ENDORSEMENT ∧ !t.ehEnable ∧
        code ≠ TPM_CC_EvictControl) TPM_RC_HANDLE
      .modify fun t => { t with objects := Function.update t.objects slot (some object) }
      pure slot

/-- A result that is an error, unless it is `TPM_RC_SUCCESS`. -/
def stopUnless (rc : TpmRc) : AuthM Unit := .stopIf (rc ≠ TPM_RC_SUCCESS) rc

/-- The turn of the loop of `EntityGetLoadStatus()` for one handle: the handle to go on
with.  A type that no unmarshaling function lets through is a `FAIL`, after which the handle
passes. -/
def entityLoad (x : Context) (code : ℕ) (handle : TpmHandle) : AuthM TpmHandle := do
  let t ← .gets id
  let type := handleGetType handle
  if type = TPM_HT_PERSISTENT then objectLoadEvict code handle
  else if type = TPM_HT_PERMANENT then do
    stopUnless (permanentStatus x t handle)
    pure handle
  else if type = TPM_HT_TRANSIENT then do
    .stopIf (t.objects handle).isNone TPM_RC_REFERENCE_H0
    pure handle
  else if type = TPM_HT_HMAC_SESSION then do
    stopUnless (sessionStatus t handle false)
    pure handle
  else if type = TPM_HT_POLICY_SESSION then do
    stopUnless (sessionStatus t handle true)
    pure handle
  else if type = TPM_HT_NV_INDEX then do
    stopUnless (nvIndexIsAccessible t handle)
    pure handle
  else if type = TPM_HT_PCR then pure handle
  else if type = TPM_HT_EXTERNAL_NV ∨ type = TPM_HT_PERMANENT_NV then .stop TPM_RC_VALUE
  else do
    .modify Tpm.fail
    pure handle

/-- The error of the `i`-th handle. -/
def loadError (i : ℕ) (rc : TpmRc) : TpmRc :=
  if rc = TPM_RC_REFERENCE_H0 then rc + i
  else rcSafeAddToResult rc (TPM_RC_H + TPM_RC_1 * (i + 1))

/-- `EntityGetLoadStatus()`, from the `i`-th handle on. -/
def entityGetLoadStatus (x : Context) (code : ℕ) : ℕ → List TpmHandle → AuthM (List TpmHandle)
  | _, [] => pure []
  | i, handle :: handles => do
      let handle ← (entityLoad x code handle).mapError (loadError i)
      let handles ← entityGetLoadStatus x code (i + 1) handles
      pure (handle :: handles)

/-! ## Names and authorizations -/

/-- `EntityGetName()`. -/
def entityGetName (t : Tpm) (handle : TpmHandle) : Bytes :=
  if handleGetType handle = TPM_HT_TRANSIENT then
    match t.objects handle with
    | some object => if object.nameAlg = TPM_ALG_NULL then [] else object.name
    | none => []
  else if handleGetType handle = TPM_HT_NV_INDEX then
    ((t.nvIndices handle).map NvEntity.name).getD []
  else beBytes 4 handle.toNat

/-- `MemoryRemoveTrailingZeros()`. -/
def removeTrailingZeros (bytes : Bytes) : Bytes :=
  (bytes.reverse.dropWhile (· == 0)).reverse

/-- The authValue `EntityGetAuthValue()` finds, with its trailing zeros.  `none` is where it
fails an assertion; a PCR outside the authorization group has an empty one. -/
def findAuthValue (t : Tpm) (handle : TpmHandle) : Option Bytes :=
  if handleGetType handle = TPM_HT_PERMANENT then
    let hierarchy := hierarchyNormalizeHandle handle
    if hierarchy = TPM_RH_OWNER then some t.owner.authValue
    else if hierarchy = TPM_RH_ENDORSEMENT then some t.endorsement.authValue
    else if hierarchy = TPM_RH_PLATFORM then some t.platform.authValue
    else if hierarchy = TPM_RH_LOCKOUT then some t.lockout.authValue
    else if hierarchy = TPM_RH_NULL then some []
    else none
  else if handleGetType handle = TPM_HT_TRANSIENT then
    match t.objects handle with
    | some object =>
      if object.publicOnly ∧ !object.isSequence then none else some object.authValue
    | none => none
  else if handleGetType handle = TPM_HT_NV_INDEX then (t.nvIndices handle).map NvEntity.authValue
  else if handleGetType handle = TPM_HT_PCR then some (t.pcrAuthValue handle)
  else none

/-- The value `EntityGetAuthValue()` returns. -/
def entityAuthValue (t : Tpm) (handle : TpmHandle) : Bytes :=
  removeTrailingZeros ((findAuthValue t handle).getD [])

/-- `EntityGetAuthValue()`. -/
def entityGetAuthValue (handle : TpmHandle) : AuthM Bytes :=
  .run fun t => (entityAuthValue t handle, if (findAuthValue t handle).isNone then t.fail else t)

/-- `EntityGetAuthPolicy()`: the policy and its algorithm. -/
def entityGetAuthPolicy (t : Tpm) (handle : TpmHandle) : Bytes × ℕ :=
  if handleGetType handle = TPM_HT_PERMANENT then
    let hierarchy := hierarchyNormalizeHandle handle
    if hierarchy = TPM_RH_OWNER then (t.owner.authPolicy, t.owner.policyAlg)
    else if hierarchy = TPM_RH_ENDORSEMENT then (t.endorsement.authPolicy, t.endorsement.policyAlg)
    else if hierarchy = TPM_RH_PLATFORM then (t.platform.authPolicy, t.platform.policyAlg)
    else if hierarchy = TPM_RH_LOCKOUT then (t.lockout.authPolicy, t.lockout.policyAlg)
    else ([], TPM_ALG_ERROR)
  else if handleGetType handle = TPM_HT_TRANSIENT then
    match t.objects handle with
    | some object => (object.authPolicy, object.nameAlg)
    | none => ([], TPM_ALG_NULL)
  else if handleGetType handle = TPM_HT_NV_INDEX then
    match t.nvIndices handle with
    | some nvIndex => (nvIndex.authPolicy, nvIndex.nameAlg)
    | none => ([], TPM_ALG_NULL)
  else if handleGetType handle = TPM_HT_PCR then
    match t.pcrPolicy handle with
    | some (policyAlg, policy) => (policy, policyAlg)
    | none => ([], TPM_ALG_NULL)
  else ([], TPM_ALG_NULL)

/-- `IsDAExempted()`. -/
def isDAExempted (t : Tpm) (handle : TpmHandle) : Bool :=
  if handleGetType handle = TPM_HT_PERMANENT then handle != TPM_RH_LOCKOUT
  else if handleGetType handle = TPM_HT_TRANSIENT then
    ((t.objects handle).map ObjectSlot.noDA).getD false
  else if handleGetType handle = TPM_HT_NV_INDEX then
    ((t.nvIndices handle).map (·.attributes.isSet NO_DA)).getD false
  else handleGetType handle == TPM_HT_PCR

end RfTpm.Auth
