import RfTpm.Exec.ExecCommand

/-!
# The areas of a command

Unmarshaling of the handle, session and parameter areas.  Which types a command has in its
handle and parameter areas is a table, and each type has an unmarshaling function that
either fails or moves forward in the buffer.  `Unmarshaler` is such a function with these
two facts; the session area has a fixed layout and is modelled byte by byte.
-/

namespace RfTpm

open Bytes Parsing

def TPM_RC_H : TpmRc := 0
def TPM_RC_P : TpmRc := 0x40
def TPM_RC_S : TpmRc := 0x800
def TPM_RC_1 : TpmRc := 0x100

def TPM_RS_PW : TpmHandle := 0x40000009
def HMAC_SESSION_FIRST : TpmHandle := 0x02000000
def POLICY_SESSION_FIRST : TpmHandle := 0x03000000
def MAX_ACTIVE_SESSIONS : TpmHandle := 64
def MAX_SESSION_NUM : ℕ := 3

/-- `sizeof(TPMU_HA)`: the size of the largest digest. -/
def SIZEOF_TPMU_HA : ℕ := 64

/-- An unmarshaling function.  It only moves forward in the buffer, and an error of it is
not `TPM_RC_SUCCESS`. -/
structure Unmarshaler (α : Type) extends Parser UInt8 TpmRc α where
  rejects : ∀ {buffer : Bytes} {rc : TpmRc}, run buffer = .error rc → rc ≠ TPM_RC_SUCCESS

/-! ## The session area -/

/-- `Array_Unmarshal()`. -/
def arrayUnmarshal (targetSize : ℕ) : Parser UInt8 TpmRc Bytes :=
  Parser.symbols targetSize TPM_RC_INSUFFICIENT

/-- `TPM2B_Unmarshal()`. -/
def tpm2bUnmarshal (targetSize : ℕ) : Parser UInt8 TpmRc Bytes :=
  ((uintUnmarshal 2).check (· ≤ targetSize) TPM_RC_SIZE).andThen arrayUnmarshal

/-- `TPMI_SH_AUTH_SESSION_Unmarshal()` with a password session allowed. -/
def tpmiShAuthSessionUnmarshal : Parser UInt8 TpmRc TpmHandle :=
  ((uintUnmarshal 4).map UInt32.ofNat).check
    (fun handle =>
      (HMAC_SESSION_FIRST ≤ handle && handle < HMAC_SESSION_FIRST + MAX_ACTIVE_SESSIONS) ||
      (POLICY_SESSION_FIRST ≤ handle && handle < POLICY_SESSION_FIRST + MAX_ACTIVE_SESSIONS) ||
      handle == TPM_RS_PW)
    TPM_RC_VALUE

/-- `TPMA_SESSION_Unmarshal()`: bits 3 and 4 are reserved. -/
def tpmaSessionUnmarshal : Parser UInt8 TpmRc UInt8 :=
  ((uintUnmarshal 1).map UInt8.ofNat).check (· &&& 0x18 == 0) TPM_RC_RESERVED_BITS

/-- The four fields of a session, whose errors name the session. -/
def authCommandUnmarshal (sessionIndex : ℕ) : Parser UInt8 TpmRc AuthCommand :=
  (tpmiShAuthSessionUnmarshal.andThen fun sessionHandle =>
    (tpm2bUnmarshal SIZEOF_TPMU_HA).andThen fun nonce =>
      tpmaSessionUnmarshal.andThen fun sessionAttributes =>
        (tpm2bUnmarshal SIZEOF_TPMU_HA).map fun hmac =>
          ⟨sessionHandle, nonce, sessionAttributes, hmac⟩).mapError
    (· + TPM_RC_S + TPM_RC_1 * (sessionIndex + 1))

/-- A `TPM_RC` as the end of a step: an error, unless it is `TPM_RC_SUCCESS`. -/
def stopUnless (rc : TpmRc) : Except TpmRc Unit :=
  if rc = TPM_RC_SUCCESS then .ok () else .error rc

/-- `RetrieveSessionData()`: unmarshal sessions until the area is used up.  `test` is what
is checked of a session, given those before it, once its four fields are read.  One session
more than allowed is an error that names it. -/
def retrieveSessionData (test : List AuthCommand → AuthCommand → TpmRc)
    (area : Bytes) : Except TpmRc (List AuthCommand) :=
  Parser.exhaust authCommandUnmarshal (fun done session => stopUnless (test done session))
    (TPM_RC_SIZE + TPM_RC_S + TPM_RC_1 * (MAX_SESSION_NUM + 1)) MAX_SESSION_NUM [] area

lemma uintUnmarshal_ok_iff {n v : ℕ} {buffer rest : Bytes} :
    (uintUnmarshal n).run buffer = .ok (v, rest) ↔ v < 256 ^ n ∧ buffer = beBytes n v ++ rest := by
  simp only [uintUnmarshal, Parser.map_ok_iff, Parser.symbols_ok_iff]
  constructor
  · rintro ⟨bytes, ⟨rfl, rfl⟩, rfl⟩
    rw [beBytes_beVal]
    exact ⟨beVal_lt bytes, rfl⟩
  · rintro ⟨hv, rfl⟩
    exact ⟨beBytes n v, ⟨length_beBytes n v, rfl⟩, beVal_beBytes hv⟩

variable {rc : TpmRc} {test : List AuthCommand → AuthCommand → TpmRc} {area buffer : Bytes}
  {types : List (Unmarshaler TpmHandle)}

lemma stopUnless_ok (h : stopUnless rc = .ok ()) : rc = TPM_RC_SUCCESS := by
  by_contra hne
  simp [stopUnless, hne] at h

lemma stopUnless_error {e : TpmRc} (h : stopUnless rc = .error e) :
    e = rc ∧ rc ≠ TPM_RC_SUCCESS := by
  unfold stopUnless at h
  split at h
  · cases h
  · exact ⟨(Except.error.inj h).symm, ‹_›⟩

/-- What a retrieved session area is: one to three sessions, each of which passed its
test. -/
lemma retrieveSessionData_ok {sessions : List AuthCommand}
    (h : retrieveSessionData test area = .ok sessions) :
    sessions.length ≤ MAX_SESSION_NUM ∧ (area ≠ [] → sessions ≠ []) ∧
      ∀ i (hi : i < sessions.length), test (sessions.take i) sessions[i] = TPM_RC_SUCCESS := by
  obtain ⟨new, hall, hlength, hne, htests⟩ := Parser.exhaust_ok h
  rw [List.nil_append] at hall
  subst hall
  exact ⟨hlength, hne, fun i hi => stopUnless_ok (by simpa using htests i hi)⟩

lemma retrieveSessionData_error (h : retrieveSessionData test area = .error rc) :
    rc ≠ TPM_RC_SUCCESS := by
  refine Parser.exhaust_error_ne ?_ ?_ ?_ h
  · intro n input e hrun
    obtain ⟨e', rfl⟩ := Parser.mapError_error hrun
    simp [TPM_RC_S, TPM_RC_SUCCESS]
  · intro done session e htest
    obtain ⟨rfl, hne⟩ := stopUnless_error htest
    exact hne
  · decide

/-! ## The handle and parameter areas -/

/-- `result + TPM_RC_H + (command->handleNum * TPM_RC_1)`. -/
def handleError (handleNum : ℕ) (rc : TpmRc) : TpmRc := rc + TPM_RC_H + handleNum * TPM_RC_1

/-- `result += TPM_RC_P + (TPM_RC_1 * pNum)`. -/
def parameterError (pNum : ℕ) (rc : TpmRc) : TpmRc := rc + (TPM_RC_P + TPM_RC_1 * pNum)

/-- The loop of `ParseHandleBuffer()` over the handle types of the command. -/
def parseHandles (types : List (Unmarshaler TpmHandle)) (buffer : Bytes) :
    Except TpmRc (List TpmHandle × Bytes) :=
  Parser.sequence handleError 0 (types.map Unmarshaler.toParser) buffer

/-- The loop of `CommandDispatcher()` over the parameter types of the command, and its check
that no bytes are left. -/
def parseParameters {V : Type} (types : List (Unmarshaler V)) (buffer : Bytes) :
    Except TpmRc (List V) := do
  let (values, rest) ← Parser.sequence parameterError 0 (types.map Unmarshaler.toParser) buffer
  if rest.length ≠ 0 then throw TPM_RC_SIZE
  pure values

lemma parseHandles_consumed {rest : Bytes} {handles : List TpmHandle}
    (h : parseHandles types buffer = .ok (handles, rest)) :
    handles.length = types.length ∧ ∃ area, buffer = area ++ rest := by
  obtain ⟨hlength, harea⟩ := Parser.sequence_consumed h
  exact ⟨by simpa using hlength, harea⟩

lemma sequence_rejects {V : Type} {number : ℕ → TpmRc → TpmRc} {types : List (Unmarshaler V)}
    (hnumber : ∀ n rc, rc ≤ number n rc)
    (h : Parser.sequence number 0 (types.map Unmarshaler.toParser) buffer = .error rc) :
    rc ≠ TPM_RC_SUCCESS := by
  refine Parser.sequence_error_ne ?_ ?_ h
  · intro n e he hzero
    have hle := hnumber n e
    rw [hzero] at hle
    exact he (Nat.le_zero.1 hle)
  · intro p hp input e hrun
    obtain ⟨u, -, rfl⟩ := List.mem_map.1 hp
    exact u.rejects hrun

lemma parseHandles_error (h : parseHandles types buffer = .error rc) : rc ≠ TPM_RC_SUCCESS :=
  sequence_rejects (fun n rc => by simp [handleError, add_assoc]) h

lemma parseParameters_ok {V : Type} {types : List (Unmarshaler V)} {values : List V}
    (h : parseParameters types buffer = .ok values) :
    Parser.sequence parameterError 0 (types.map Unmarshaler.toParser) buffer =
      .ok (values, []) := by
  obtain ⟨⟨values', rest⟩, hrun, h⟩ := bind_eq_ok h
  obtain ⟨hrest, h⟩ := throw_eq_ok h
  obtain rfl : values' = values := Except.ok.inj h
  have hnil : rest = [] := by simpa using hrest
  rw [hrun, hnil]

lemma parseParameters_error {V : Type} {types : List (Unmarshaler V)}
    (h : parseParameters types buffer = .error rc) : rc ≠ TPM_RC_SUCCESS := by
  unfold parseParameters at h
  cases hrun : Parser.sequence parameterError 0 (types.map Unmarshaler.toParser) buffer with
  | error e =>
    obtain rfl : e = rc := by simpa [hrun, bind, Except.bind] using h
    exact sequence_rejects (fun n rc => by simp [parameterError]) hrun
  | ok r =>
    simp only [hrun, bind, Except.bind] at h
    split at h
    · obtain rfl : TPM_RC_SIZE = rc := Except.error.inj h
      decide
    · cases h

end RfTpm
