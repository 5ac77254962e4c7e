import RfTpm.Auth.Session

/-!
# The policy commands

Each policy command of `EACommands.c` as a function from the session it is about to a
result and the session after it.  What a command checks of the rest of the TPM (a
signature, a ticket, the contents of an NV Index, a capability) is an input of it, as the
result of that check; everything a command reads from or writes to the session is here.
-/

namespace RfTpm.Auth

open Bytes

def TPM_CC_PolicyNV : ℕ := 0x149
def TPM_CC_PolicySigned : ℕ := 0x160
def TPM_CC_PolicyAuthorize : ℕ := 0x16A
def TPM_CC_PolicyAuthValue : ℕ := 0x16B
def TPM_CC_PolicyCommandCode : ℕ := 0x16C
def TPM_CC_PolicyCounterTimer : ℕ := 0x16D
def TPM_CC_PolicyCpHash : ℕ := 0x16E
def TPM_CC_PolicyLocality : ℕ := 0x16F
def TPM_CC_PolicyNameHash : ℕ := 0x170
def TPM_CC_PolicyOR : ℕ := 0x171
def TPM_CC_PolicyPCR : ℕ := 0x17F
def TPM_CC_PolicyPhysicalPresence : ℕ := 0x187
def TPM_CC_PolicyDuplicationSelect : ℕ := 0x188
def TPM_CC_PolicyNvWritten : ℕ := 0x18F
def TPM_CC_PolicyTemplate : ℕ := 0x190
def TPM_CC_PolicyAuthorizeNV : ℕ := 0x192
def TPM_CC_PolicyCapability : ℕ := 0x19B
def TPM_CC_PolicyParameters : ℕ := 0x19C

/-- The response code offset of the parameter `n`. -/
def rcP (n : ℕ) : TpmRc := TPM_RC_P + n * TPM_RC_1

/-- The response code offset of the handle `n`. -/
def rcH (n : ℕ) : TpmRc := TPM_RC_H + n * TPM_RC_1

/-- The state of the TPM that policy commands read.  `pcrDigest` is
`PCRComputeCurrentDigest()` of a hash algorithm and a marshaled selection. -/
structure PolicyEnv where
  nvStatus : TpmRc
  time : UInt64
  timeEpoch : UInt32
  pcrCounter : UInt32
  pcrDigest : ℕ → Bytes → Bytes

/-! ## Support -/

/-- Extend the policy digest. -/
def extendPolicy (c : Crypto) (data : Bytes) (session : Session) : Session :=
  { session with u2 := c.hash session.authHashAlg (session.u2 ++ data) }

/-- `PolicyDigestClear()`. -/
def policyDigestClear (c : Crypto) (session : Session) : Session :=
  { session with u2 := List.replicate (c.digestSize session.authHashAlg) 0 }

/-- `PolicyParameterChecks()`.  A nonce that is not given is empty. -/
def policyParameterChecks (env : PolicyEnv) (session : Session) (authTimeout : UInt64)
    (cpHashA nonce : Bytes) (blameNonce blameCpHash blameExpiration : TpmRc) : TpmRc :=
  if nonce ≠ [] ∧ nonce ≠ session.nonceTPM then TPM_RC_NONCE + blameNonce
  else if authTimeout ≠ 0 ∧ env.nvStatus ≠ TPM_RC_SUCCESS then env.nvStatus
  else if authTimeout ≠ 0 ∧ (authTimeout < env.time ∨ session.epoch ≠ env.timeEpoch) then
    TPM_RC_EXPIRED + blameExpiration
  else if cpHashA ≠ [] ∧ cpHashA.length ≠ session.u2.length then TPM_RC_SIZE + blameCpHash
  -- the value has to be the one that is set; of which kind that is, is not checked
  else if cpHashA ≠ [] ∧ session.u1 ≠ [] ∧ cpHashA ≠ session.u1 then TPM_RC_CPHASH
  else TPM_RC_SUCCESS

/-- The `cpHash` part of `PolicyContextUpdate()`. -/
def setCpHash (cpHash : Bytes) (session : Session) : Session :=
  if cpHash ≠ [] then
    { session with
      u1 := cpHash, attributes := { session.attributes with isCpHashDefined := true } }
  else session

/-- The timeout part of `PolicyContextUpdate()`. -/
def setTimeout (policyTimeout : UInt64) (session : Session) : Session :=
  if policyTimeout ≠ 0 ∧ (session.timeout = 0 ∨ session.timeout > policyTimeout) then
    { session with timeout := policyTimeout }
  else session

/-- `PolicyContextUpdate()`.  A policy reference extends the digest a second time. -/
def policyContextUpdate (c : Crypto) (commandCode : ℕ) (name : Bytes)
    (ref : Option Bytes) (cpHash : Bytes) (policyTimeout : UInt64)
    (session : Session) : Session :=
  let session := extendPolicy c (beBytes 4 commandCode ++ name) session
  let session := match ref with
    | none => session
    | some ref => extendPolicy c ref session
  setTimeout policyTimeout (setCpHash cpHash session)

/-- An `INT32` is negative. -/
def isNegative (expiration : UInt32) : Bool := expiration ≥ 0x80000000

/-- `(UINT64)expiration` after `if(expiration < 0) expiration = -expiration`.  The smallest
number is its own negation and is sign-extended. -/
def seconds (expiration : UInt32) : UInt64 :=
  let expiration := if isNegative expiration then 0 - expiration else expiration
  if isNegative expiration then expiration.toUInt64 + 0xFFFFFFFF00000000 else expiration.toUInt64

/-- `ComputeAuthTimeout()`. -/
def computeAuthTimeout (env : PolicyEnv) (session : Session) (expiration : UInt32)
    (nonce : Bytes) : UInt64 :=
  if expiration = 0 then 0
  else if nonce.length = 0 then seconds expiration * 1000 + env.time % 1000
  else session.startTime + seconds expiration * 1000

/-! ## Commands that carry an authorization -/

/-- The inputs of `TPM2_PolicySigned()` and `TPM2_PolicySecret()`.  `validate` is the result
of the check of the signature scheme and the signature, and `ticket` that of
`TicketComputeAuth()`. -/
structure AuthorizationIn where
  nonceTPM : Bytes
  cpHashA : Bytes
  policyRef : Bytes
  expiration : UInt32
  name : Bytes
  validate : TpmRc
  ticket : TpmRc
  isPinPass : Bool

/-- `TPM2_PolicySigned()`. -/
def policySigned (c : Crypto) (env : PolicyEnv) (i : AuthorizationIn) (session : Session) :
    TpmRc × Session :=
  let isTrial := session.attributes.isTrialPolicy
  let authTimeout := if isTrial then 0 else computeAuthTimeout env session i.expiration i.nonceTPM
  let result :=
    if isTrial then TPM_RC_SUCCESS
    else policyParameterChecks env session authTimeout i.cpHashA i.nonceTPM (rcP 1) (rcP 2) (rcP 4)
  if result ≠ TPM_RC_SUCCESS then (result, session)
  else if !isTrial ∧ i.validate ≠ TPM_RC_SUCCESS then (i.validate, session)
  else
    let session :=
      policyContextUpdate c TPM_CC_PolicySigned i.name (some i.policyRef) i.cpHashA authTimeout
        session
    if isNegative i.expiration ∧ !isTrial then (i.ticket, session) else (TPM_RC_SUCCESS, session)

/-- `TPM2_PolicySecret()`.  The secret has been checked with the sessions of the command. -/
def policySecret (c : Crypto) (env : PolicyEnv) (i : AuthorizationIn) (session : Session) :
    TpmRc × Session :=
  let isTrial := session.attributes.isTrialPolicy
  let authTimeout := if isTrial then 0 else computeAuthTimeout env session i.expiration i.nonceTPM
  let result :=
    if isTrial then TPM_RC_SUCCESS
    else policyParameterChecks env session authTimeout i.cpHashA i.nonceTPM (rcP 1) (rcP 2) (rcP 4)
  if result ≠ TPM_RC_SUCCESS then (result, session)
  else
    let session :=
      policyContextUpdate c TPM_CC_PolicySecret i.name (some i.policyRef) i.cpHashA authTimeout
        session
    if isNegative i.expiration ∧ !isTrial ∧ !i.isPinPass then (i.ticket, session)
    else (TPM_RC_SUCCESS, session)

/-- The inputs of `TPM2_PolicyTicket()`.  `ticket` is the result of computing the ticket and
comparing it. -/
structure TicketIn where
  timeout : Bytes
  cpHashA : Bytes
  policyRef : Bytes
  authName : Bytes
  isSigned : Bool
  ticket : TpmRc

/-- `TPM2_PolicyTicket()`.  The most significant bit of the timeout is a flag. -/
def policyTicket (c : Crypto) (env : PolicyEnv) (i : TicketIn) (session : Session) :
    TpmRc × Session :=
  if session.attributes.isTrialPolicy then (TPM_RC_ATTRIBUTES + rcH 1, session)
  else if i.timeout.length ≠ 8 then (TPM_RC_SIZE + rcP 1, session)
  else
    let authTimeout := UInt64.ofNat (beVal i.timeout % 2 ^ 63)
    let result := policyParameterChecks env session authTimeout i.cpHashA [] 0 (rcP 2) (rcP 1)
    if result ≠ TPM_RC_SUCCESS then (result, session)
    else if i.ticket ≠ TPM_RC_SUCCESS then (i.ticket, session)
    else
      (TPM_RC_SUCCESS,
        policyContextUpdate c (if i.isSigned then TPM_CC_PolicySigned else TPM_CC_PolicySecret)
          i.authName (some i.policyRef) i.cpHashA authTimeout session)

/-! ## Commands that only extend the digest -/

/-- `TPM2_PolicyOR()`. -/
def policyOR (c : Crypto) (digests : List Bytes) (session : Session) : TpmRc × Session :=
  if digests.any fun digest => session.attributes.isTrialPolicy || session.u2 == digest then
    (TPM_RC_SUCCESS,
      extendPolicy c (beBytes 4 TPM_CC_PolicyOR ++ digests.flatten) (policyDigestClear c session))
  else (TPM_RC_VALUE + rcP 1, session)

/-- `TPM2_PolicyNV()`, `TPM2_PolicyCounterTimer()` and `TPM2_PolicyCapability()`: a condition
is evaluated unless the session is a trial, and its arguments extend the digest. -/
def policyCondition (c : Crypto) (commandCode : ℕ) (evaluate : TpmRc)
    (arguments name : Bytes) (session : Session) : TpmRc × Session :=
  if !session.attributes.isTrialPolicy ∧ evaluate ≠ TPM_RC_SUCCESS then (evaluate, session)
  else
    (TPM_RC_SUCCESS,
      extendPolicy c (beBytes 4 commandCode ++ c.hash session.authHashAlg arguments ++ name)
        session)

/-- `TPM2_PolicyNV()`. -/
def policyNV (c : Crypto) (evaluate : TpmRc) (arguments nvName : Bytes) (session : Session) :
    TpmRc × Session :=
  policyCondition c TPM_CC_PolicyNV evaluate arguments nvName session

/-- `TPM2_PolicyCounterTimer()`.  The bounds are checked for a trial, too. -/
def policyCounterTimer (c : Crypto) (bounds evaluate : TpmRc) (arguments : Bytes)
    (session : Session) : TpmRc × Session :=
  if bounds ≠ TPM_RC_SUCCESS then (bounds, session)
  else policyCondition c TPM_CC_PolicyCounterTimer evaluate arguments [] session

/-- `TPM2_PolicyCapability()`. -/
def policyCapability (c : Crypto) (evaluate : TpmRc) (arguments : Bytes)
    (session : Session) : TpmRc × Session :=
  policyCondition c TPM_CC_PolicyCapability evaluate arguments [] session

/-- `TPM2_PolicyAuthorize()`.  `keySign` is the check of the name of the key, `ticket` that of
the ticket. -/
def policyAuthorize (c : Crypto) (keySign ticket : TpmRc)
    (approvedPolicy policyRef keyName : Bytes) (session : Session) : TpmRc × Session :=
  if keySign ≠ TPM_RC_SUCCESS then (keySign, session)
  else if !session.attributes.isTrialPolicy ∧ session.u2 ≠ approvedPolicy then
    (TPM_RC_VALUE + rcP 1, session)
  else if !session.attributes.isTrialPolicy ∧ ticket ≠ TPM_RC_SUCCESS then (ticket, session)
  else
    (TPM_RC_SUCCESS,
      policyContextUpdate c TPM_CC_PolicyAuthorize keyName (some policyRef) [] 0
        (policyDigestClear c session))

/-- `TPM2_PolicyAuthorizeNV()`.  `read` is the check of the access to the NV Index and of the
format of its contents, which are a hash algorithm and a digest. -/
def policyAuthorizeNV (c : Crypto) (read : TpmRc) (hashAlg : ℕ) (digest name : Bytes)
    (session : Session) : TpmRc × Session :=
  if !session.attributes.isTrialPolicy ∧ read ≠ TPM_RC_SUCCESS then (read, session)
  else if !session.attributes.isTrialPolicy ∧ hashAlg ≠ session.authHashAlg then
    (TPM_RC_HASH, session)
  else if !session.attributes.isTrialPolicy ∧ digest.take session.u2.length ≠ session.u2 then
    (TPM_RC_VALUE, session)
  else
    (TPM_RC_SUCCESS,
      policyContextUpdate c TPM_CC_PolicyAuthorizeNV name none [] 0 (policyDigestClear c session))

/-- `TPM2_PolicyGetDigest()`. -/
def policyGetDigest (session : Session) : TpmRc × Session := (TPM_RC_SUCCESS, session)

/-! ## Commands that record a condition -/

/-- `TPM2_PolicyPCR()`. -/
def policyPCR (c : Crypto) (env : PolicyEnv) (pcrs pcrDigest : Bytes) (session : Session) :
    TpmRc × Session :=
  let current := env.pcrDigest session.authHashAlg pcrs
  if session.attributes.isTrialPolicy then
    let digest := if pcrDigest.length ≠ 0 then pcrDigest else current
    (TPM_RC_SUCCESS, extendPolicy c (beBytes 4 TPM_CC_PolicyPCR ++ pcrs ++ digest) session)
  else if session.pcrCounter ≠ 0 ∧ session.pcrCounter ≠ env.pcrCounter then
    (TPM_RC_PCR_CHANGED, session)
  else if pcrDigest.length ≠ 0 ∧ pcrDigest ≠ current then (TPM_RC_VALUE + rcP 1, session)
  else
    (TPM_RC_SUCCESS,
      { extendPolicy c (beBytes 4 TPM_CC_PolicyPCR ++ pcrs ++ current) session with
        pcrCounter := env.pcrCounter })

/-- `TPM2_PolicyPhysicalPresence()`. -/
def policyPhysicalPresence (c : Crypto) (session : Session) : TpmRc × Session :=
  let session := extendPolicy c (beBytes 4 TPM_CC_PolicyPhysicalPresence) session
  (TPM_RC_SUCCESS, { session with attributes := { session.attributes with isPPRequired := true } })

/-- The locality setting that `TPM2_PolicyLocality()` arrives at, if there is one. -/
def nextLocality (prev locality : UInt8) : Option UInt8 :=
  if locality = 0 then none
  -- both normal or both extended
  else if prev ≠ 0 ∧ (decide (prev < 32) ≠ decide (locality < 32)) then none
  else if locality < 32 then
    let next := (if prev = 0 then 0x1F else prev) &&& locality
    if next = 0 then none else some next
  else if prev ≠ 0 ∧ prev ≠ locality then none
  else some locality

/-- `TPM2_PolicyLocality()`. -/
def policyLocality (c : Crypto) (locality : UInt8) (session : Session) : TpmRc × Session :=
  match nextLocality session.commandLocality locality with
  | none => (TPM_RC_RANGE + rcP 1, session)
  | some next =>
    (TPM_RC_SUCCESS,
      { extendPolicy c (beBytes 4 TPM_CC_PolicyLocality ++ [locality]) session with
        commandLocality := next })

/-- `TPM2_PolicyCommandCode()`. -/
def policyCommandCode (c : Crypto) (isImplemented : ℕ → Bool) (code : ℕ) (session : Session) :
    TpmRc × Session :=
  if session.commandCode ≠ 0 ∧ session.commandCode ≠ code then (TPM_RC_VALUE + rcP 1, session)
  else if !isImplemented code then (TPM_RC_POLICY_CC + rcP 1, session)
  else
    (TPM_RC_SUCCESS,
      { extendPolicy c (beBytes 4 TPM_CC_PolicyCommandCode ++ beBytes 4 code) session with
        commandCode := code })

/-- `TPM2_PolicyCpHash()`. -/
def policyCpHash (c : Crypto) (cpHashA : Bytes) (session : Session) : TpmRc × Session :=
  if cpHashA.length ≠ c.digestSize session.authHashAlg then (TPM_RC_SIZE + rcP 1, session)
  else if isCpHashUnionOccupied session.attributes ∧
      (!session.attributes.isCpHashDefined ∨ cpHashA ≠ session.u1) then (TPM_RC_CPHASH, session)
  else
    let session := extendPolicy c (beBytes 4 TPM_CC_PolicyCpHash ++ cpHashA) session
    (TPM_RC_SUCCESS,
      { session with
        u1 := cpHashA, attributes := { session.attributes with isCpHashDefined := true } })

/-- `TPM2_PolicyNameHash()`. -/
def policyNameHash (c : Crypto) (nameHash : Bytes) (session : Session) : TpmRc × Session :=
  if nameHash.length ≠ c.digestSize session.authHashAlg then (TPM_RC_SIZE + rcP 1, session)
  else if isCpHashUnionOccupied session.attributes then (TPM_RC_CPHASH, session)
  else
    let session := extendPolicy c (beBytes 4 TPM_CC_PolicyNameHash ++ nameHash) session
    (TPM_RC_SUCCESS,
      { session with
        u1 := nameHash, attributes := { session.attributes with isNameHashDefined := true } })

/-- `TPM2_PolicyDuplicationSelect()`. -/
def policyDuplicationSelect (c : Crypto) (objectName newParentName : Bytes)
    (includeObject : Bool) (session : Session) : TpmRc × Session :=
  if session.u1.length ≠ 0 then (TPM_RC_CPHASH, session)
  else if session.commandCode ≠ 0 then (TPM_RC_COMMAND_CODE, session)
  else
    let nameHash := c.hash session.authHashAlg (objectName ++ newParentName)
    let session := extendPolicy c
      (beBytes 4 TPM_CC_PolicyDuplicationSelect ++ (if includeObject then objectName else []) ++
        newParentName ++ [if includeObject then 1 else 0]) session
    (TPM_RC_SUCCESS,
      { session with
        u1 := nameHash, commandCode := TPM_CC_Duplicate
        attributes := { session.attributes with isNameHashDefined := true } })

/-- `TPM2_PolicyAuthValue()`. -/
def policyAuthValue (c : Crypto) (session : Session) : TpmRc × Session :=
  let session := extendPolicy c (beBytes 4 TPM_CC_PolicyAuthValue) session
  (TPM_RC_SUCCESS,
    { session with
      attributes :=
        { session.attributes with isAuthValueNeeded := true, isPasswordNeeded := false } })

/-- `TPM2_PolicyPassword()`, which extends the digest as `TPM2_PolicyAuthValue()` does. -/
def policyPassword (c : Crypto) (session : Session) : TpmRc × Session :=
  let session := extendPolicy c (beBytes 4 TPM_CC_PolicyAuthValue) session
  (TPM_RC_SUCCESS,
    { session with
      attributes :=
        { session.attributes with isPasswordNeeded := true, isAuthValueNeeded := false } })

/-- `TPM2_PolicyNvWritten()`. -/
def policyNvWritten (c : Crypto) (writtenSet : Bool) (session : Session) : TpmRc × Session :=
  if session.attributes.checkNvWritten ∧ session.attributes.nvWrittenState ≠ writtenSet then
    (TPM_RC_VALUE + rcP 1, session)
  else
    let session := extendPolicy c
      (beBytes 4 TPM_CC_PolicyNvWritten ++ [if writtenSet then 1 else 0]) session
    (TPM_RC_SUCCESS,
      { session with
        attributes :=
          { session.attributes with checkNvWritten := true, nvWrittenState := writtenSet } })

/-- `TPM2_PolicyTemplate()`. -/
def policyTemplate (c : Crypto) (templateHash : Bytes) (session : Session) :
    TpmRc × Session :=
  if isCpHashUnionOccupied session.attributes ∧
      (!session.attributes.isTemplateHashDefined ∨ templateHash ≠ session.u1) then
    (TPM_RC_CPHASH, session)
  else if templateHash.length ≠ c.digestSize session.authHashAlg then
    (TPM_RC_SIZE + rcP 1, session)
  else
    let session := extendPolicy c (beBytes 4 TPM_CC_PolicyTemplate ++ templateHash) session
    (TPM_RC_SUCCESS,
      { session with
        u1 := templateHash
        attributes := { session.attributes with isTemplateHashDefined := true } })

/-- `TPM2_PolicyParameters()`. -/
def policyParameters (c : Crypto) (pHash : Bytes) (session : Session) : TpmRc × Session :=
  if pHash.length ≠ c.digestSize session.authHashAlg then (TPM_RC_SIZE + rcP 1, session)
  else if isCpHashUnionOccupied session.attributes then (TPM_RC_CPHASH, session)
  else
    let session := extendPolicy c (beBytes 4 TPM_CC_PolicyParameters ++ pHash) session
    (TPM_RC_SUCCESS,
      { session with
        u1 := pHash
        attributes := { session.attributes with isParametersHashDefined := true } })

/-! ## All policy commands -/

/-- A policy command with its inputs. -/
inductive PolicyCommand where
  | signed (i : AuthorizationIn)
  | secret (i : AuthorizationIn)
  | ticket (i : TicketIn)
  | or (digests : List Bytes)
  | pcr (pcrs pcrDigest : Bytes)
  | physicalPresence
  | locality (locality : UInt8)
  | nv (evaluate : TpmRc) (arguments nvName : Bytes)
  | counterTimer (bounds evaluate : TpmRc) (arguments : Bytes)
  | capability (evaluate : TpmRc) (arguments : Bytes)
  | commandCode (isImplemented : ℕ → Bool) (code : ℕ)
  | cpHash (cpHashA : Bytes)
  | nameHash (nameHash : Bytes)
  | duplicationSelect (objectName newParentName : Bytes) (includeObject : Bool)
  | authorize (keySign ticket : TpmRc) (approvedPolicy policyRef keyName : Bytes)
  | authorizeNV (read : TpmRc) (hashAlg : ℕ) (digest name : Bytes)
  | authValue
  | password
  | getDigest
  | nvWritten (writtenSet : Bool)
  | template (templateHash : Bytes)
  | parameters (pHash : Bytes)

/-- The action of a policy command on its session. -/
def PolicyCommand.execute (c : Crypto) (env : PolicyEnv) :
    PolicyCommand → Session → TpmRc × Session
  | .signed i => policySigned c env i
  | .secret i => policySecret c env i
  | .ticket i => policyTicket c env i
  | .or digests => policyOR c digests
  | .pcr pcrs digest => policyPCR c env pcrs digest
  | .physicalPresence => policyPhysicalPresence c
  | .locality setting => policyLocality c setting
  | .nv evaluate arguments name => policyNV c evaluate arguments name
  | .counterTimer bounds evaluate arguments => policyCounterTimer c bounds evaluate arguments
  | .capability evaluate arguments => policyCapability c evaluate arguments
  | .commandCode isImplemented code => policyCommandCode c isImplemented code
  | .cpHash digest => policyCpHash c digest
  | .nameHash digest => policyNameHash c digest
  | .duplicationSelect object parent includeObject =>
    policyDuplicationSelect c object parent includeObject
  | .authorize keySign verified approved ref name =>
    policyAuthorize c keySign verified approved ref name
  | .authorizeNV read hashAlg digest name => policyAuthorizeNV c read hashAlg digest name
  | .authValue => policyAuthValue c
  | .password => policyPassword c
  | .getDigest => policyGetDigest
  | .nvWritten written => policyNvWritten c written
  | .template digest => policyTemplate c digest
  | .parameters digest => policyParameters c digest

end RfTpm.Auth
