import RfTpm.Auth.Entity
import RfTpm.Exec.Dispatch

/-!
# Session processing

`ParseSessionBuffer()` and what it calls: the sessions of a command are retrieved, associated
with the handles that need an authorization, and checked one after the other.

A `Request` is the command together with the static arrays that the sessions are unmarshaled
into.  The indices of the decrypt, encrypt and audit sessions are read off the sessions that
`RetrieveSessionData()` has been through (`recordedIndex`).

A comparison of an authValue returns its result instead of stopping, because
`CheckAuthSession()` counts it on a PIN index before it looks at it.
-/

namespace RfTpm.Auth

open TpmaNv

/-! ## The request -/

/-- The command and its sessions. -/
structure Request where
  code : ℕ
  handles : List TpmHandle
  parameters : Bytes
  sessions : List AuthCommand
  associatedHandles : List TpmHandle

/-- The attributes of a session in a command. -/
def auditExclusive : UInt8 := 0x02
def auditReset : UInt8 := 0x04
def decrypt : UInt8 := 0x20
def encrypt : UInt8 := 0x40
def audit : UInt8 := 0x80

/-- `IS_ATTRIBUTE(sessionAttributes, TPMA_SESSION, attribute)`. -/
def hasAttribute (mask : UInt8) (session : AuthCommand) : Bool :=
  session.sessionAttributes &&& mask != 0

/-- `s_decryptSessionIndex` and its siblings when the loop of `RetrieveSessionData()` has been
through `sessions`: each session with the attribute has written its own index. -/
def recordedIndex (mask : UInt8) (sessions : List AuthCommand) : Option ℕ :=
  sessions.zipIdx.foldl (fun index s => if hasAttribute mask s.1 then some s.2 else index) none

namespace Request

variable (r : Request)

/-- The `i`-th session. -/
def session (i : ℕ) : AuthCommand := r.sessions.getD i ⟨TPM_RH_UNASSIGNED, [], 0, []⟩

/-- `s_sessionHandles[i]`. -/
def sessionHandle (i : ℕ) : TpmHandle := (r.session i).sessionHandle

/-- `s_associatedHandles[i]`. -/
def associatedHandle (i : ℕ) : TpmHandle := r.associatedHandles.getD i TPM_RH_UNASSIGNED

/-- `s_decryptSessionIndex`. -/
def decryptSessionIndex : Option ℕ := recordedIndex decrypt r.sessions

/-- `s_encryptSessionIndex`. -/
def encryptSessionIndex : Option ℕ := recordedIndex encrypt r.sessions

end Request

/-- `TPM_RC_S + g_rcIndex[sessionIndex]`. -/
def errorIndex (sessionIndex : ℕ) : TpmRc := TPM_RC_S + TPM_RC_1 * (sessionIndex + 1)

/-- What `RetrieveSessionData()` checks of a password session. -/
def testPassword (i : ℕ) (session : AuthCommand) : TpmRc :=
  if hasAttribute encrypt session || hasAttribute decrypt session ||
      hasAttribute audit session || hasAttribute auditExclusive session ||
      hasAttribute auditReset session then TPM_RC_ATTRIBUTES + errorIndex i
  else if session.nonce.length ≠ 0 then TPM_RC_NONCE + errorIndex i
  else TPM_RC_SUCCESS

/-- What `RetrieveSessionData()` checks of the use of a session for parameter encryption in
one direction: the command allows it, it is the only one, and it has an algorithm. -/
def testEncryption (mask : UInt8) (size : ℕ) (done : List AuthCommand)
    (session : AuthCommand) (loaded : Session) : TpmRc :=
  if !hasAttribute mask session then TPM_RC_SUCCESS
  else if size = 0 then TPM_RC_ATTRIBUTES + errorIndex done.length
  else if recordedIndex mask done ≠ none then TPM_RC_ATTRIBUTES + errorIndex done.length
  else if !loaded.symmetric then TPM_RC_SYMMETRIC + errorIndex done.length
  else TPM_RC_SUCCESS

/-- What `RetrieveSessionData()` checks of the use of a session for audit. -/
def testAudit (t : Tpm) (done : List AuthCommand) (session : AuthCommand) (loaded : Session) :
    TpmRc :=
  if !hasAttribute audit session then TPM_RC_SUCCESS
  else if recordedIndex audit done ≠ none then TPM_RC_ATTRIBUTES + errorIndex done.length
  else if handleGetType session.sessionHandle = TPM_HT_POLICY_SESSION then
    TPM_RC_ATTRIBUTES + errorIndex done.length
  else if !hasAttribute auditReset session ∧ loaded.attributes.isAudit ∧
      hasAttribute auditExclusive session ∧ t.exclusiveAuditSession ≠ session.sessionHandle then
    TPM_RC_EXCLUSIVE
  else TPM_RC_SUCCESS

/-- A session is of the type its handle says. -/
def isOfHandleType (handle : TpmHandle) (loaded : Session) : Bool :=
  !((loaded.attributes.isPolicy && handleGetType handle == TPM_HT_HMAC_SESSION) ||
    (!loaded.attributes.isPolicy && handleGetType handle == TPM_HT_POLICY_SESSION))

/-- What `RetrieveSessionData()` checks of a session once its fields are unmarshaled, given
the sessions before it. -/
def testSession (x : Context) (t : Tpm) (code : ℕ) (done : List AuthCommand)
    (session : AuthCommand) : TpmRc :=
  if session.sessionHandle = TPM_RS_PW then testPassword done.length session
  else
    match t.sessionGet session.sessionHandle with
    | none => TPM_RC_REFERENCE_S0 + done.length
    | some loaded =>
      let forDecrypt := testEncryption decrypt (x.attributes code).decryptSize done session loaded
      let forEncrypt := testEncryption encrypt (x.attributes code).encryptSize done session loaded
      if !isOfHandleType session.sessionHandle loaded then
        TPM_RC_HANDLE + errorIndex done.length
      else if done.any (·.sessionHandle == session.sessionHandle) then
        TPM_RC_HANDLE + errorIndex done.length
      else if forDecrypt ≠ TPM_RC_SUCCESS then forDecrypt
      else if forEncrypt ≠ TPM_RC_SUCCESS then forEncrypt
      else testAudit t done session loaded

/-- The loop of `ParseSessionBuffer()` that associates the sessions with handles, from the
`i`-th handle on.  The comparison is unsigned. -/
def associateHandles (x : Context) (code sessionNum : ℕ) :
    ℕ → List TpmHandle → List TpmHandle → Except TpmRc (List TpmHandle)
  | _, associated, [] => .ok associated
  | i, associated, handle :: handles =>
    if commandAuthRole x code i = .none then
      associateHandles x code sessionNum (i + 1) associated handles
    else if UInt32.ofNat i > UInt32.ofNat sessionNum - 1 then .error TPM_RC_AUTH_MISSING
    else
      associateHandles x code sessionNum (i + 1)
        (associated.set i (hierarchyNormalizeHandle handle)) handles

/-! ## What a session authorizes with -/

/-- `sizeof(TPMU_NAME)`. -/
def SIZEOF_TPMU_NAME : ℕ := 68

/-- `SessionComputeBoundEntity()`: the Name, padded with zeros, with the authValue added at
the end. -/
def boundEntity (name authValue : Bytes) : Bytes :=
  let bind := name ++ List.replicate (SIZEOF_TPMU_NAME - name.length) 0
  let overlap := SIZEOF_TPMU_NAME - authValue.length
  bind.take overlap ++ List.zipWith (· ^^^ ·) (bind.drop overlap) authValue

/-- `IsSessionBindEntity()`. -/
def isSessionBindEntity (handle : TpmHandle) (session : Session) : AuthM Bool :=
  if session.attributes.isBound then do
    let authValue ← entityGetAuthValue handle
    let t ← .gets id
    pure (boundEntity (entityGetName t handle) authValue == session.u1)
  else pure false

/-- `SessionGet()` of a session that was found to be loaded. -/
def getSession (handle : TpmHandle) : AuthM Session :=
  .run fun t =>
    match t.sessionGet handle with
    | some session => (session, t)
    | none => (default, t.fail)

/-- The session with another `includeAuth`. -/
def withInclude (includeAuth : Bool) (session : Session) : Session :=
  { session with attributes := { session.attributes with includeAuth } }

section

variable (x : Context) (r : Request) (i : ℕ)

/-- What `CheckPolicyAuthSession()` reads. -/
def policyUse (t : Tpm) : Use where
  code := r.code
  role := commandAuthRole x r.code i
  names := r.handles.map (entityGetName t)
  parameters := r.parameters
  authPolicy := (entityGetAuthPolicy t (r.associatedHandle i)).1
  policyAlg := (entityGetAuthPolicy t (r.associatedHandle i)).2
  nvWritten :=
    if handleGetType (r.associatedHandle i) = TPM_HT_NV_INDEX then
      (t.nvIndices (r.associatedHandle i)).map (·.attributes.isSet WRITTEN)
    else none
  pcrCounter := t.pcrCounter
  nvStatus := t.da.nvStatus
  time := t.da.time
  timeEpoch := t.da.gp.timeEpoch
  locality := x.locality
  physicalPresence := x.physicalPresence

/-- The nonces of the decrypt and encrypt sessions, which the HMAC of the first session
includes if it is an authorization and not that session itself. -/
def extraNonces (t : Tpm) : Bytes :=
  let nonceTPM (index : Option ℕ) :=
    ((index.bind fun n => t.sessionGet (r.sessionHandle n)).map Session.nonceTPM).getD []
  if i = 0 ∧ r.associatedHandle i ≠ TPM_RH_UNASSIGNED then
    (if r.decryptSessionIndex ≠ some i then nonceTPM r.decryptSessionIndex else []) ++
      (if r.encryptSessionIndex ≠ some i ∧ r.encryptSessionIndex ≠ r.decryptSessionIndex then
        nonceTPM r.encryptSessionIndex
      else [])
  else []

/-- The data of the HMAC of a command: cpHash, nonces and attributes. -/
def hmacData (t : Tpm) (session : Session) : Bytes :=
  computeCpHash x.crypto session.authHashAlg (policyUse x r i t) ++ (r.session i).nonce ++
    session.nonceTPM ++ extraNonces r i t ++ [(r.session i).sessionAttributes]

/-- The authValue that is part of the key of that HMAC. -/
def includedAuthValue (session : Session) : AuthM Bytes :=
  if session.attributes.includeAuth then entityGetAuthValue (r.associatedHandle i) else pure []

/-- `ComputeCommandHMAC()`: with an empty key an empty HMAC is allowed. -/
def computeCommandHMAC (session : Session) : AuthM Bytes := do
  let authValue ← includedAuthValue r i session
  let t ← .gets id
  let key := session.sessionKey ++ authValue
  pure
    (if key.length = 0 ∧ (r.session i).hmac.length = 0 then []
    else x.crypto.hmac session.authHashAlg key (hmacData x r i t session))

/-! ## Failures -/

/-- What a handle is to the dictionary-attack logic. -/
def daEntity (t : Tpm) (handle : TpmHandle) : Da.Entity :=
  if handle = TPM_RH_LOCKOUT then .lockout
  else if isDAExempted t handle then .exempt
  else .daProtected

/-- What that logic sees of a session; nothing of a password. -/
def daSession (t : Tpm) : Option Da.SessionAttributes :=
  if r.sessionHandle i = TPM_RS_PW then none
  else (t.sessionGet (r.sessionHandle i)).map fun session =>
    ⟨session.attributes.isDaBound, session.attributes.isLockoutBound,
      session.attributes.includeAuth⟩

/-- The entity `IncrementLockout()` counts a failure of the session for, if it does. -/
def lockoutEntity (t : Tpm) : Option Da.Entity :=
  Da.lockoutEntity (daEntity t (r.associatedHandle i)) (daSession r i t)

/-- `IncrementLockout()`. -/
def incrementLockout : AuthM TpmRc :=
  .run fun t =>
    let (rc, da) := Da.incrementLockout (daEntity t (r.associatedHandle i)) (daSession r i t) t.da
    (rc, { t with da })

/-- `CheckLockedOut()`. -/
def checkLockedOut (lockoutAuthCheck : Bool) : AuthM Unit := do
  let rc ← .run fun t =>
    ((Da.checkLockedOut lockoutAuthCheck t.da).1,
      { t with da := (Da.checkLockedOut lockoutAuthCheck t.da).2 })
  stopUnless rc

/-! ## The comparisons -/

/-- `CheckPWAuthSession()`. -/
def checkPWAuthSession : AuthM TpmRc := do
  let authValue ← entityGetAuthValue (r.associatedHandle i)
  if removeTrailingZeros (r.session i).hmac = authValue then pure TPM_RC_SUCCESS
  else incrementLockout r i

/-- `CheckSessionHMAC()`. -/
def checkSessionHMAC : AuthM TpmRc := do
  let session ← getSession (r.sessionHandle i)
  let hmac ← computeCommandHMAC x r i session
  if (r.session i).hmac = hmac then pure TPM_RC_SUCCESS else incrementLockout r i

/-! ## Availability -/

/-- `IsPolicySessionRequired()`. -/
def isPolicySessionRequired (t : Tpm) : Bool :=
  match commandAuthRole x r.code i with
  | .dup => true
  | .admin =>
    if handleGetType (r.associatedHandle i) = TPM_HT_TRANSIENT then
      ((t.objects (r.associatedHandle i)).map ObjectSlot.adminWithPolicy).getD true
    else true
  | _ =>
    if handleGetType (r.associatedHandle i) = TPM_HT_PCR then
      match t.pcrPolicy (r.associatedHandle i) with
      | some (policyAlg, _) => policyAlg != TPM_ALG_NULL
      | none => false
    else false

/-- The authValue of an NV Index is available.  That of a PIN index is for reading as long as
the index is written and its count is below its limit. -/
def isNvAuthAvailable (nvIndex : NvEntity) : Bool :=
  if isWriteOperation r.code then nvIndex.attributes.isSet AUTHWRITE
  else if isNvPinFailIndex nvIndex.attributes || isNvPinPassIndex nvIndex.attributes then
    nvIndex.attributes.isSet WRITTEN && decide (nvIndex.pinCount < nvIndex.pinLimit)
  else nvIndex.attributes.isSet AUTHREAD

/-- The authValue of an object is available. -/
def isObjectAuthAvailable (object : ObjectSlot) : Bool :=
  object.isSequence ||
    (!object.publicOnly &&
      (object.userWithAuth ||
        (commandAuthRole x r.code i == .admin && !object.adminWithPolicy)))

/-- `IsAuthValueAvailable()`. -/
def isAuthValueAvailable (t : Tpm) : Bool :=
  let handle := r.associatedHandle i
  if handleGetType handle = TPM_HT_PERMANENT then
    handle == TPM_RH_OWNER || handle == TPM_RH_ENDORSEMENT || handle == TPM_RH_PLATFORM ||
      handle == TPM_RH_LOCKOUT || handle == TPM_RH_NULL
  else if handleGetType handle = TPM_HT_TRANSIENT then
    ((t.objects handle).map (isObjectAuthAvailable x r i)).getD false
  else if handleGetType handle = TPM_HT_NV_INDEX then
    ((t.nvIndices handle).map (isNvAuthAvailable r)).getD false
  else handleGetType handle == TPM_HT_PCR

/-- The authPolicy of an NV Index is available. -/
def isNvPolicyAvailable (t : Tpm) (nvIndex : NvEntity) : Bool :=
  nvIndex.authPolicy.length != 0 &&
    (isPolicySessionRequired x r i t ||
      (if isWriteOperation r.code then nvIndex.attributes.isSet POLICYWRITE
      else nvIndex.attributes.isSet POLICYREAD))

/-- `IsAuthPolicyAvailable()`. -/
def isAuthPolicyAvailable (t : Tpm) : Bool :=
  let handle := r.associatedHandle i
  if handleGetType handle = TPM_HT_PERMANENT then
    if handle = TPM_RH_OWNER then t.owner.authPolicy.length != 0
    else if handle = TPM_RH_ENDORSEMENT then t.endorsement.authPolicy.length != 0
    else if handle = TPM_RH_PLATFORM then t.platform.authPolicy.length != 0
    else if handle = TPM_RH_LOCKOUT then t.lockout.authPolicy.length != 0
    else false
  else if handleGetType handle = TPM_HT_TRANSIENT then
    ((t.objects handle).map fun object => !object.publicOnly && !object.isSequence).getD false
  else if handleGetType handle = TPM_HT_NV_INDEX then
    ((t.nvIndices handle).map (isNvPolicyAvailable x r i t)).getD false
  else handleGetType handle == TPM_HT_PCR && (t.pcrPolicy handle).isSome

/-! ## `CheckAuthSession()` -/

/-- Physical presence, if the command needs it with `TPM_RH_PLATFORM`. -/
def checkPresence : AuthM Unit := do
  let t ← .gets id
  .stopIf (r.associatedHandle i = TPM_RH_PLATFORM ∧ t.ppList r.code ∧ !x.physicalPresence)
    TPM_RC_PP

/-- Whether a session uses the authValue of its entity. -/
def usesAuthValue (session : Session) : AuthM Bool :=
  if handleGetType (r.sessionHandle i) = TPM_HT_POLICY_SESSION then
    pure (session.attributes.isAuthValueNeeded || session.attributes.isPasswordNeeded)
  else do
    let isBound ← isSessionBindEntity (r.associatedHandle i) session
    pure (!isBound)

/-- Set `includeAuth` of a session.  A password always uses the authValue. -/
def setIncludeAuth : AuthM Bool :=
  if r.sessionHandle i = TPM_RS_PW then pure true
  else do
    let session ← getSession (r.sessionHandle i)
    let includeAuth ← usesAuthValue r i session
    .modify (Tpm.modifySession (r.sessionHandle i) (withInclude includeAuth))
    pure includeAuth

/-- The entity is not locked out, if its authValue is used. -/
def checkLockout (authUsed : Bool) : AuthM Unit := do
  let t ← .gets id
  if authUsed && !isDAExempted t (r.associatedHandle i) then
    checkLockedOut (r.associatedHandle i == TPM_RH_LOCKOUT)
  else pure ()

/-- The authorization that the session stands for is available; a policy session has its
conditions checked. -/
def checkAvailable : AuthM Unit := do
  let t ← .gets id
  if handleGetType (r.sessionHandle i) ≠ TPM_HT_POLICY_SESSION then do
    .stopIf (isPolicySessionRequired x r i t) TPM_RC_AUTH_TYPE
    .stopIf (!isAuthValueAvailable x r i t) TPM_RC_AUTH_UNAVAILABLE
  else do
    .stopIf (!isAuthPolicyAvailable x r i t) TPM_RC_AUTH_UNAVAILABLE
    let session ← getSession (r.sessionHandle i)
    stopUnless (checkPolicyAuthSession x.crypto (policyUse x r i t) session)

/-- The comparison of what the session gives. -/
def compareAuth : AuthM TpmRc :=
  if r.sessionHandle i = TPM_RS_PW then checkPWAuthSession r i
  else do
    let session ← getSession (r.sessionHandle i)
    if session.attributes.isPasswordNeeded then checkPWAuthSession r i
    else checkSessionHMAC x r i

/-- `NvWriteUINT64Data()` for the value of a PIN index.  An orderly index is written to RAM;
any other is not written, and an error returned, while NV is not available. -/
def nvWritePinCount (handle : TpmHandle) (pinCount : UInt32) (t : Tpm) : TpmRc × Tpm :=
  match t.nvIndices handle with
  | none => (TPM_RC_SUCCESS, t)
  | some nvIndex =>
    let written := t.modifyNvIndex handle fun nvIndex => { nvIndex with pinCount }
    if nvIndex.attributes.isSet ORDERLY then
      (TPM_RC_SUCCESS, { written with da := { t.da with clearOrderly := true } })
    else if nvIndex.pinCount = pinCount then (TPM_RC_SUCCESS, t)
    else if t.da.nvStatus ≠ TPM_RC_SUCCESS then (t.da.nvStatus, t)
    else (TPM_RC_SUCCESS, { written with da := { t.da with updateNv := true } })

/-- The processing of PIN indices.  The result of the write is not looked at. -/
def countPin (authUsed : Bool) (result : TpmRc) : AuthM Unit :=
  .modify fun t =>
    if handleGetType (r.associatedHandle i) = TPM_HT_NV_INDEX ∧ authUsed then
      match t.nvIndices (r.associatedHandle i) with
      | none => t.fail
      | some nvIndex =>
        if isNvPinFailIndex nvIndex.attributes && nvIndex.attributes.isSet WRITTEN then
          (nvWritePinCount (r.associatedHandle i)
            (if result ≠ TPM_RC_SUCCESS then nvIndex.pinCount + 1 else 0) t).2
        else if isNvPinPassIndex nvIndex.attributes && nvIndex.attributes.isSet WRITTEN &&
            result == TPM_RC_SUCCESS then
          (nvWritePinCount (r.associatedHandle i) (nvIndex.pinCount + 1) t).2
        else t
    else t

/-- `CheckAuthSession()`. -/
def checkAuthSession : AuthM Unit := do
  checkPresence x r i
  let authUsed ← setIncludeAuth r i
  checkLockout r i authUsed
  checkAvailable x r i
  let result ← compareAuth x r i
  countPin r i authUsed result
  stopUnless result

/-! ## `ParseSessionBuffer()` -/

/-- The first half of the turn of the loop for a session: is it consistent with its use? -/
def checkConsistency : AuthM Unit :=
  if r.sessionHandle i = TPM_RS_PW then do
    .stopIf (r.associatedHandle i = TPM_RH_UNASSIGNED) (TPM_RC_HANDLE + errorIndex i)
    .stopIf (hasAttribute audit (r.session i) || hasAttribute encrypt (r.session i) ||
      hasAttribute decrypt (r.session i)) (TPM_RC_ATTRIBUTES + errorIndex i)
  else do
    let session ← getSession (r.sessionHandle i)
    .stopIf session.attributes.isTrialPolicy (TPM_RC_ATTRIBUTES + errorIndex i)
    if session.attributes.isDaBound then checkLockedOut session.attributes.isLockoutBound
    else pure ()

/-- The check of a session that is not used for authorization. -/
def checkOtherSession : AuthM Unit := do
  .stopIf (!hasAttribute audit (r.session i) ∧ !hasAttribute encrypt (r.session i) ∧
    !hasAttribute decrypt (r.session i)) (TPM_RC_ATTRIBUTES + errorIndex i)
  .modify (Tpm.modifySession (r.sessionHandle i) (withInclude false))
  let result ← checkSessionHMAC x r i
  stopUnless (rcSafeAddToResult result (errorIndex i))

/-- The turn of the loop for a session. -/
def checkSession : AuthM Unit := do
  checkConsistency r i
  if r.associatedHandle i ≠ TPM_RH_UNASSIGNED then
    (checkAuthSession x r i).mapError fun rc => rcSafeAddToResult rc (errorIndex i)
  else checkOtherSession x r i

/-- The loop over the first `n` sessions. -/
def checkSessions : ℕ → AuthM Unit
  | 0 => pure ()
  | n + 1 => do
      checkSessions n
      checkSession x r n

/-- `CheckCommandAudit()`, if the command is audited. -/
def checkCommandAudit (code : ℕ) : AuthM Unit := do
  let t ← .gets id
  if t.auditCommands code ∧
      (t.commandAuditDigest.length = 0 ∨ code = TPM_CC_GetCommandAuditDigest) then
    stopUnless t.da.nvStatus
  else pure ()

/-- The authValue that is part of the decryption key. -/
def extraKey (n : ℕ) : AuthM Bytes :=
  if r.associatedHandle n ≠ TPM_RH_UNASSIGNED then entityGetAuthValue (r.associatedHandle n)
  else pure []

/-- The decryption of the first parameter, if there is a session for it. -/
def decryptParameters : AuthM Bytes :=
  match r.decryptSessionIndex with
  | none => pure r.parameters
  | some n => do
      let extraKey ← extraKey r n
      let session ← getSession (r.sessionHandle n)
      let decrypted ← (Fallible.ofExcept
        (x.decryptParameter session (r.session n).nonce (x.attributes r.code).decryptSize extraKey
          r.parameters)).mapError fun rc => rcSafeAddToResult rc (errorIndex n)
      pure decrypted.1

end

section

variable (x : Context)

/-- `ParseSessionBuffer()` up to the loop over the sessions. -/
def retrieveSessions (command : Command) : AuthM Request := do
  .stopIf (x.attributes command.code).noSessions TPM_RC_AUTH_CONTEXT
  let t ← .gets id
  let sessions ← .ofExcept (retrieveSessionData (testSession x t command.code)
    (command.parameterBuffer.take command.authSize))
  .modify fun t => { t with da := t.da.pAssert (command.handles.length ≤ MAX_SESSION_NUM) }
  let associatedHandles ← .ofExcept (associateHandles x command.code sessions.length 0
    (List.replicate sessions.length TPM_RH_UNASSIGNED) command.handles)
  pure
    { code := command.code
      handles := command.handles
      parameters := command.parameterBuffer.drop command.authSize
      sessions
      associatedHandles }

/-- `ParseSessionBuffer()`. -/
def parseSessionBuffer (command : Command) : AuthM Command := do
  let r ← retrieveSessions x command
  checkSessions x r r.sessions.length
  checkCommandAudit r.code
  let parameterBuffer ← decryptParameters x r
  pure { command with sessions := r.sessions, authSize := 0, parameterBuffer }

/-- `CheckAuthNoSession()`. -/
def checkAuthNoSession (command : Command) : AuthM Command := do
  .stopIf ((List.range command.handles.length).any fun i =>
    commandAuthRole x command.code i != .none) TPM_RC_AUTH_MISSING
  checkCommandAudit command.code
  pure { command with sessions := [] }

/-! ## `ExecuteCommand()` up to the dispatcher -/

variable {V : Type} (d : Dispatcher V)

/-- From the header to the handles, which all refer to entities that are there. -/
def loadHandles (request : Bytes) : AuthM Command := do
  let (tag, code, buffer) ← .ofExcept (parseHeader d.routines request)
  let initialized ← .gets (·.da.power.initialized)
  .stopIf (initialized = (code == TPM_CC_Startup)) TPM_RC_INITIALIZE
  let (handles, buffer) ← .ofExcept (parseHandles (d.descriptor code).handles buffer)
  let handles ← entityGetLoadStatus x code 0 handles
  pure { x.stale.withHeader tag code buffer with handles, handleNum := handles.length }

/-- The authorization area, or the check that none is needed. -/
def authorize (command : Command) : AuthM Command :=
  if command.tag = TPM_ST_SESSIONS then do
    let command ← .ofExcept (parseAuthSize command)
    parseSessionBuffer x command
  else checkAuthNoSession x { command with authSize := 0 }

/-- The state in which the header of a request is parsed: `NvCheckState()` has found
`nvStatus`, and the time is up to date. -/
def startCommand (nvStatus : TpmRc) (t : Tpm) : Tpm :=
  { t with da := Da.beginCommand ⟨nvStatus, true⟩ t.da }

/-- `ExecuteCommand()` up to the call of `CommandDispatcher()`: the command it is called with
and the state it is called in. -/
def reachDispatcher (nvStatus : TpmRc) (request : Bytes) (t : Tpm) :
    Option (Command × Tpm) :=
  if request.length > INT32_MAX ∨ t.da.inFailureMode then none
  else
    match (do
      let command ← loadHandles x d request
      authorize x command : AuthM Command) (startCommand nvStatus t) with
    | (.ok command, t') => some (command, t')
    | (.error _, _) => none

end

end RfTpm.Auth
