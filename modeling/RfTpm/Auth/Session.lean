import RfTpm.Exec.Areas
import RfTpm.Exec.Power

/-!
# Sessions and the check of a policy session

A `SESSION` as it is kept in a session slot, and `CheckPolicyAuthSession()`: what is
compared when a policy session authorizes a handle.  What the check reads besides the
session is a `Use`: the command with the names of its handles and its parameters, the
policy of the associated handle, and the state of the TPM.

The union `u1` is one list of bytes, and the attributes say which kind of digest it holds.
-/

namespace RfTpm.Auth

open Bytes

def TPM_RC_AUTH_TYPE : TpmRc := 0x124
def TPM_RC_POLICY : TpmRc := 0x126
def TPM_RC_PCR_CHANGED : TpmRc := 0x128
def TPM_RC_AUTH_UNAVAILABLE : TpmRc := 0x12F
def TPM_RC_CPHASH : TpmRc := 0x151
def TPM_RC_NONCE : TpmRc := 0x8F
def TPM_RC_PP : TpmRc := 0x90
def TPM_RC_POLICY_FAIL : TpmRc := 0x9D
def TPM_RC_TICKET : TpmRc := 0xA0
def TPM_RC_EXPIRED : TpmRc := 0xA3
def TPM_RC_POLICY_CC : TpmRc := 0xA4

def TPM_CC_CreatePrimary : ℕ := 0x131
def TPM_CC_Duplicate : ℕ := 0x14B
def TPM_CC_PolicySecret : ℕ := 0x151
def TPM_CC_Create : ℕ := 0x153
def TPM_CC_CreateLoaded : ℕ := 0x191

/-! ## The session -/

/-- The hash functions: the digest size of an algorithm, its hash and its HMAC. -/
structure Crypto where
  digestSize : ℕ → ℕ
  hash : ℕ → Bytes → Bytes
  hmac : ℕ → Bytes → Bytes → Bytes
  length_hash : ∀ alg data, (hash alg data).length = digestSize alg

/-- `SESSION_ATTRIBUTES`. -/
structure SessionAttributes where
  isPolicy : Bool
  isAudit : Bool
  isBound : Bool
  isCpHashDefined : Bool
  isNameHashDefined : Bool
  isParametersHashDefined : Bool
  isTemplateHashDefined : Bool
  isAuthValueNeeded : Bool
  isPasswordNeeded : Bool
  isPPRequired : Bool
  isTrialPolicy : Bool
  isDaBound : Bool
  isLockoutBound : Bool
  includeAuth : Bool
  checkNvWritten : Bool
  nvWrittenState : Bool
  deriving DecidableEq, Inhabited

/-- `SESSION`.  `symmetric` only says whether there is a symmetric algorithm. -/
structure Session where
  attributes : SessionAttributes
  pcrCounter : UInt32
  startTime : UInt64
  timeout : UInt64
  epoch : UInt32
  commandCode : ℕ
  authHashAlg : ℕ
  commandLocality : UInt8
  symmetric : Bool
  sessionKey : Bytes
  nonceTPM : Bytes
  u1 : Bytes
  u2 : Bytes
  deriving DecidableEq, Inhabited

/-- `IsCpHashUnionOccupied()`. -/
def isCpHashUnionOccupied (attrs : SessionAttributes) : Bool :=
  attrs.isBound || attrs.isCpHashDefined || attrs.isNameHashDefined ||
    attrs.isParametersHashDefined || attrs.isTemplateHashDefined

/-! ## What a session is checked against -/

/-- `AUTH_ROLE`. -/
inductive AuthRole where
  | none
  | user
  | admin
  | dup
  deriving DecidableEq

/-- What the check of a policy session reads: the command, its associated handle, and the
state of the TPM.  `nvWritten` is the `TPMA_NV_WRITTEN` of an associated NV Index and `none`
for any other handle. -/
structure Use where
  code : ℕ
  role : AuthRole
  names : List Bytes
  parameters : Bytes
  authPolicy : Bytes
  policyAlg : ℕ
  nvWritten : Option Bool
  pcrCounter : UInt32
  nvStatus : TpmRc
  time : UInt64
  timeEpoch : UInt32
  locality : UInt8
  physicalPresence : Bool
  deriving DecidableEq

/-- `ComputeCpHash()`.  The value is computed once for an algorithm and kept in the command;
what it is computed from does not change while the sessions are checked. -/
def computeCpHash (c : Crypto) (alg : ℕ) (u : Use) : Bytes :=
  c.hash alg (beBytes 4 u.code ++ u.names.flatten ++ u.parameters)

/-- `CompareNameHash()`: the comparison is over the size of the computed digest. -/
def compareNameHash (c : Crypto) (u : Use) (session : Session) : Bool :=
  let nameHash := c.hash session.authHashAlg u.names.flatten
  session.u1.take nameHash.length == nameHash

/-- `CompareParametersHash()`. -/
def compareParametersHash (c : Crypto) (u : Use) (session : Session) : Bool :=
  session.u1 == c.hash session.authHashAlg (beBytes 4 u.code ++ u.parameters)

/-- `CompareTemplateHash()`: the hash of the second parameter of a creation command.  When
the first parameter is longer than what is left, the size left is negative, and the test of
the size of the template against it fails. -/
def compareTemplateHash (c : Crypto) (u : Use) (session : Session) : Bool :=
  if u.code ≠ TPM_CC_Create ∧ u.code ≠ TPM_CC_CreatePrimary ∧ u.code ≠ TPM_CC_CreateLoaded then
    false
  else
    match (uintUnmarshal 2).run u.parameters with
    | .error _ => false
    | .ok (size, buffer) =>
      if buffer.length < size then false
      else
        match (uintUnmarshal 2).run (buffer.drop size) with
        | .error _ => false
        | .ok (size, buffer) =>
          if size > buffer.length then false
          else session.u1 == c.hash session.authHashAlg (buffer.take size)

/-- The comparison of the digest in `u1`, according to its kind. -/
def compareDigest (c : Crypto) (u : Use) (session : Session) : Bool :=
  if session.attributes.isCpHashDefined then
    session.u1 == computeCpHash c session.authHashAlg u
  else if session.attributes.isNameHashDefined then compareNameHash c u session
  else if session.attributes.isParametersHashDefined then compareParametersHash c u session
  else if session.attributes.isTemplateHashDefined then compareTemplateHash c u session
  else false

/-! ## The conditions of a policy session -/

/-- `SessionPCRValueIsCurrent()`. -/
def sessionPCRValueIsCurrent (pcrCounter : UInt32) (session : Session) : Bool :=
  !(session.pcrCounter != 0 && session.pcrCounter != pcrCounter)

/-- The timeout has passed, or belongs to another epoch. -/
def isExpired (u : Use) (session : Session) : Bool :=
  session.timeout != 0 && (session.timeout < u.time || session.epoch != u.timeEpoch)

/-- A command code is set and is not the one of the command. -/
def isOtherCommand (u : Use) (session : Session) : Bool :=
  session.commandCode != 0 && session.commandCode != u.code

/-- The locality of the command is not one of those selected.  A value above 31 is one
extended locality, a smaller one a set of the localities 0 to 4. -/
def isOtherLocality (u : Use) (session : Session) : Bool :=
  session.commandLocality != 0 &&
    (if u.locality < 5 then
      session.commandLocality &&& ((1 : UInt8) <<< u.locality) == 0 || session.commandLocality > 31
    else if u.locality > 31 then session.commandLocality != u.locality
    else true)

/-- Physical presence is required and not asserted. -/
def isPresenceMissing (u : Use) (session : Session) : Bool :=
  session.attributes.isPPRequired && !u.physicalPresence

/-- A digest is set and the command does not have it. -/
def isOtherDigest (c : Crypto) (u : Use) (session : Session) : Bool :=
  session.u1.length != 0 && !compareDigest c u session

/-- The associated handle is not an NV Index in the state asked for. -/
def isOtherNvState (u : Use) (session : Session) : Bool :=
  session.attributes.checkNvWritten && u.nvWritten != some session.attributes.nvWrittenState

/-- `CheckPolicyAuthSession()`. -/
def checkPolicyAuthSession (c : Crypto) (u : Use) (session : Session) : TpmRc :=
  if u.code = TPM_CC_PolicySecret ∧ !session.attributes.isPasswordNeeded ∧
      !session.attributes.isAuthValueNeeded then TPM_RC_MODE
  else if !sessionPCRValueIsCurrent u.pcrCounter session then TPM_RC_PCR_CHANGED
  else if session.u2 ≠ u.authPolicy then TPM_RC_POLICY_FAIL
  else if u.policyAlg ≠ session.authHashAlg then TPM_RC_POLICY_FAIL
  -- time does not advance while NV is not available
  else if session.timeout ≠ 0 ∧ u.nvStatus ≠ TPM_RC_SUCCESS then u.nvStatus
  else if isExpired u session then TPM_RC_EXPIRED
  else if isOtherCommand u session then TPM_RC_POLICY_CC
  -- these two roles need a policy with a command code
  else if session.commandCode = 0 ∧ (u.role = .admin ∨ u.role = .dup) then TPM_RC_POLICY_FAIL
  else if isOtherLocality u session then TPM_RC_LOCALITY
  else if isPresenceMissing u session then TPM_RC_PP
  else if isOtherDigest c u session then TPM_RC_POLICY_FAIL
  else if isOtherNvState u session then TPM_RC_POLICY_FAIL
  else TPM_RC_SUCCESS

/-- An accepted policy session: every condition it has recorded holds. -/
structure Satisfied (c : Crypto) (u : Use) (session : Session) : Prop where
  pcr : sessionPCRValueIsCurrent u.pcrCounter session = true
  policy : session.u2 = u.authPolicy
  alg : u.policyAlg = session.authHashAlg
  nv : session.timeout ≠ 0 → u.nvStatus = TPM_RC_SUCCESS
  time : isExpired u session = false
  command : isOtherCommand u session = false
  role : u.role = .admin ∨ u.role = .dup → session.commandCode ≠ 0
  locality : isOtherLocality u session = false
  presence : isPresenceMissing u session = false
  digest : isOtherDigest c u session = false
  nvState : isOtherNvState u session = false

lemma ite_success {p : Prop} [Decidable p] {rc rest : TpmRc} (hrc : p → rc ≠ TPM_RC_SUCCESS)
    (h : (if p then rc else rest) = TPM_RC_SUCCESS) : ¬p ∧ rest = TPM_RC_SUCCESS := by
  by_cases hp : p
  · rw [if_pos hp] at h
    exact absurd h (hrc hp)
  · rw [if_neg hp] at h
    exact ⟨hp, h⟩

lemma checkPolicyAuthSession_satisfied {c : Crypto} {u : Use} {session : Session}
    (h : checkPolicyAuthSession c u session = TPM_RC_SUCCESS) : Satisfied c u session := by
  unfold checkPolicyAuthSession at h
  obtain ⟨-, h⟩ := ite_success (fun _ => by decide) h
  obtain ⟨hpcr, h⟩ := ite_success (fun _ => by decide) h
  obtain ⟨hpolicy, h⟩ := ite_success (fun _ => by decide) h
  obtain ⟨halg, h⟩ := ite_success (fun _ => by decide) h
  obtain ⟨hnv, h⟩ := ite_success (fun hnv => hnv.2) h
  obtain ⟨hexpired, h⟩ := ite_success (fun _ => by decide) h
  obtain ⟨hcommand, h⟩ := ite_success (fun _ => by decide) h
  obtain ⟨hrole, h⟩ := ite_success (fun _ => by decide) h
  obtain ⟨hlocality, h⟩ := ite_success (fun _ => by decide) h
  obtain ⟨hpresence, h⟩ := ite_success (fun _ => by decide) h
  obtain ⟨hdigest, h⟩ := ite_success (fun _ => by decide) h
  obtain ⟨hnvState, -⟩ := ite_success (fun _ => by decide) h
  constructor
  case pcr => simpa using hpcr
  case policy => exact not_not.mp hpolicy
  case alg => exact not_not.mp halg
  case nv => exact fun hne => not_not.mp fun hstatus => hnv ⟨hne, hstatus⟩
  case time => simpa using hexpired
  case command => simpa using hcommand
  case role => exact fun hr hzero => hrole ⟨hzero, hr⟩
  case locality => simpa using hlocality
  case presence => simpa using hpresence
  case digest => simpa using hdigest
  case nvState => simpa using hnvState

end RfTpm.Auth
