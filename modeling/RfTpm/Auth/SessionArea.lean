import RfTpm.Auth.CheckAuth

/-!
# The authorization area, exactly

`RetrieveSessionData()` accepts exactly the concatenations of one to three session structures
that keep its rules.  The rules are stated for the area as a whole: what each session has to be on
its own (`SessionRules`), and which two sessions may not stand together (`Compatible`).  The
indices of the decrypt, encrypt and audit sessions are overwritten as the loop goes along, so it is
the rule that only one session has the attribute that makes them those of that session.
-/

namespace RfTpm.Auth

open Bytes Parsing List

/-! ## The structures -/

/-- A session structure as it stands in the area. -/
def encodeSession (s : AuthCommand) : Bytes :=
  beBytes 4 s.sessionHandle.toNat ++ (beBytes 2 s.nonce.length ++ s.nonce) ++
    beBytes 1 s.sessionAttributes.toNat ++ (beBytes 2 s.hmac.length ++ s.hmac)

/-- The handle of an HMAC, policy or password session, buffers that are not too long and no
reserved attribute. -/
structure Unmarshaled (s : AuthCommand) : Prop where
  handle : (HMAC_SESSION_FIRST ≤ s.sessionHandle ∧
      s.sessionHandle < HMAC_SESSION_FIRST + MAX_ACTIVE_SESSIONS) ∨
    (POLICY_SESSION_FIRST ≤ s.sessionHandle ∧
      s.sessionHandle < POLICY_SESSION_FIRST + MAX_ACTIVE_SESSIONS) ∨ s.sessionHandle = TPM_RS_PW
  nonce : s.nonce.length ≤ SIZEOF_TPMU_HA
  attributes : s.sessionAttributes &&& 0x18 = 0
  hmac : s.hmac.length ≤ SIZEOF_TPMU_HA

variable {input rest : Bytes} {sessions : List AuthCommand} {x : Context}

lemma tpm2bUnmarshal_ok_iff {bs : Bytes} :
    (tpm2bUnmarshal SIZEOF_TPMU_HA).run input = .ok (bs, rest) ↔
      bs.length ≤ SIZEOF_TPMU_HA ∧ input = beBytes 2 bs.length ++ bs ++ rest := by
  simp only [tpm2bUnmarshal, arrayUnmarshal, Parser.andThen_ok_iff, Parser.check_ok_iff,
    uintUnmarshal_ok_iff, Parser.symbols_ok_iff, decide_eq_true_iff]
  constructor
  · rintro ⟨_, _, ⟨⟨-, rfl⟩, hle⟩, rfl, rfl⟩
    exact ⟨hle, (append_assoc ..).symm⟩
  · rintro ⟨hle, rfl⟩
    have hsmall : bs.length < 256 ^ 2 := lt_of_le_of_lt hle (by decide)
    exact ⟨_, bs ++ rest, ⟨⟨hsmall, append_assoc ..⟩, hle⟩, rfl, rfl⟩

lemma tpmiShAuthSessionUnmarshal_ok_iff {handle : TpmHandle} :
    tpmiShAuthSessionUnmarshal.run input = .ok (handle, rest) ↔
      ((HMAC_SESSION_FIRST ≤ handle ∧ handle < HMAC_SESSION_FIRST + MAX_ACTIVE_SESSIONS) ∨
        (POLICY_SESSION_FIRST ≤ handle ∧ handle < POLICY_SESSION_FIRST + MAX_ACTIVE_SESSIONS) ∨
        handle = TPM_RS_PW) ∧ input = beBytes 4 handle.toNat ++ rest := by
  rw [tpmiShAuthSessionUnmarshal, Parser.check_ok_iff, Parser.map_ok_iff, and_comm]
  refine and_congr (by simp [or_assoc]) ⟨?_, fun h => ?_⟩
  · rintro ⟨v, hrun, rfl⟩
    rw [uintUnmarshal_ok_iff] at hrun
    rw [UInt32.toNat_ofNat_of_lt' hrun.1]
    exact hrun.2
  · exact ⟨handle.toNat, uintUnmarshal_ok_iff.mpr ⟨handle.toNat_lt, h⟩, UInt32.ofNat_toNat⟩

lemma tpmaSessionUnmarshal_ok_iff {attributes : UInt8} :
    tpmaSessionUnmarshal.run input = .ok (attributes, rest) ↔
      attributes &&& 0x18 = 0 ∧ input = beBytes 1 attributes.toNat ++ rest := by
  rw [tpmaSessionUnmarshal, Parser.check_ok_iff, Parser.map_ok_iff, and_comm]
  refine and_congr (by simp) ⟨?_, fun h => ?_⟩
  · rintro ⟨v, hrun, rfl⟩
    rw [uintUnmarshal_ok_iff] at hrun
    rw [UInt8.toNat_ofNat_of_lt' hrun.1]
    exact hrun.2
  · exact ⟨attributes.toNat, uintUnmarshal_ok_iff.mpr ⟨attributes.toNat_lt, h⟩, UInt8.ofNat_toNat⟩

lemma authCommandUnmarshal_ok_iff (k : ℕ) (input : Bytes) (s : AuthCommand)
    (rest : Bytes) :
    (authCommandUnmarshal k).run input = .ok (s, rest) ↔
      Unmarshaled s ∧ input = encodeSession s ++ rest := by
  simp only [authCommandUnmarshal, Parser.mapError_ok_iff, Parser.andThen_ok_iff,
    Parser.map_ok_iff, tpmiShAuthSessionUnmarshal_ok_iff, tpm2bUnmarshal_ok_iff,
    tpmaSessionUnmarshal_ok_iff]
  constructor
  · rintro ⟨handle, _, ⟨hhandle, rfl⟩, nonce, _, ⟨hnonce, rfl⟩, attributes, _, ⟨hattributes, rfl⟩,
      hmac, ⟨hhmac, rfl⟩, rfl⟩
    exact ⟨⟨hhandle, hnonce, hattributes, hhmac⟩, by simp [encodeSession]⟩
  · rintro ⟨h, rfl⟩
    exact ⟨s.sessionHandle, _, ⟨h.handle, by simp only [encodeSession, append_assoc]; rfl⟩,
      s.nonce, _, ⟨h.nonce, by simp only [append_assoc]; rfl⟩,
      s.sessionAttributes, _, ⟨h.attributes, rfl⟩, s.hmac, ⟨h.hmac, by simp⟩, rfl⟩

/-! ## The recorded indices -/

lemma recordedIndex_concat (mask : UInt8) (sessions : List AuthCommand) (s : AuthCommand) :
    recordedIndex mask (sessions ++ [s]) =
      if hasAttribute mask s then some sessions.length else recordedIndex mask sessions := by
  simp [recordedIndex, zipIdx_append]

lemma recordedIndex_ne_none {mask : UInt8} :
    recordedIndex mask sessions ≠ none ↔ ∃ s ∈ sessions, hasAttribute mask s = true := by
  induction sessions using reverseRecOn with
  | nil => simp [recordedIndex]
  | append_singleton sessions s ih =>
    rw [recordedIndex_concat]
    split <;> simp_all

lemma recordedIndex_eq_some_iff {mask : UInt8} {i : ℕ}
    (honce : sessions.Pairwise fun s s' => ¬ (hasAttribute mask s ∧ hasAttribute mask s')) :
    recordedIndex mask sessions = some i ↔
      ∃ s, sessions[i]? = some s ∧ hasAttribute mask s = true := by
  induction sessions using reverseRecOn with
  | nil => simp [recordedIndex]
  | append_singleton sessions s ih =>
    rw [pairwise_append] at honce
    rw [recordedIndex_concat]
    have hold : i < sessions.length → (sessions ++ [s])[i]? = sessions[i]? :=
      fun hi => List.getElem?_append_left hi
    split
    · rename_i hs
      refine ⟨fun h => ⟨s, by simp [← Option.some.inj h], hs⟩, fun ⟨s', hget, hs'⟩ => ?_⟩
      by_cases hi : i < sessions.length
      · rw [hold hi] at hget
        exact absurd ⟨hs', hs⟩ (honce.2.2 s' (mem_of_getElem? hget) s (by simp))
      · have hlast := (List.getElem?_eq_some_iff.mp hget).1
        simp only [length_append, length_singleton] at hlast
        exact congrArg some (by omega)
    · rename_i hs
      rw [ih honce.1]
      by_cases hi : i < sessions.length
      · rw [hold hi]
      · rw [List.getElem?_append_right (by omega), List.getElem?_eq_none (by omega)]
        constructor
        · rintro ⟨_, h, -⟩
          cases h
        · rintro ⟨s', h, hs'⟩
          exact absurd (mem_singleton.mp (mem_of_getElem? h) ▸ hs') hs

/-! ## The rules -/

section Rules

variable {x : Context} {t : Tpm} {code : ℕ}

/-- A session may be used for parameter encryption in a direction that the command allows, if it
has an algorithm. -/
def MayEncrypt (mask : UInt8) (size : ℕ) (s : AuthCommand) (loaded : Session) : Prop :=
  hasAttribute mask s = true → size ≠ 0 ∧ loaded.symmetric = true

/-- An audit session is not a policy session, and one that is to be exclusive is either new as an
audit session or the exclusive one. -/
def MayAudit (t : Tpm) (s : AuthCommand) (loaded : Session) : Prop :=
  hasAttribute audit s = true → handleGetType s.sessionHandle ≠ TPM_HT_POLICY_SESSION ∧
    (hasAttribute auditReset s = false → loaded.attributes.isAudit = true →
      hasAttribute auditExclusive s = true → t.exclusiveAuditSession = s.sessionHandle)

/-- What a session has to be on its own. -/
def SessionRules (x : Context) (t : Tpm) (code : ℕ) (s : AuthCommand) : Prop :=
  if s.sessionHandle = TPM_RS_PW then
    (∀ mask ∈ [encrypt, decrypt, audit, auditExclusive, auditReset],
      hasAttribute mask s = false) ∧ s.nonce = []
  else
    ∃ loaded, t.sessionGet s.sessionHandle = some loaded ∧
      isOfHandleType s.sessionHandle loaded = true ∧
      MayEncrypt decrypt (x.attributes code).decryptSize s loaded ∧
      MayEncrypt encrypt (x.attributes code).encryptSize s loaded ∧ MayAudit t s loaded

/-- Two sessions that may stand in one area, the second behind the first. -/
def Compatible (s s' : AuthCommand) : Prop :=
  (s'.sessionHandle ≠ TPM_RS_PW → s.sessionHandle ≠ s'.sessionHandle) ∧
    ∀ mask ∈ [decrypt, encrypt, audit], ¬ (hasAttribute mask s = true ∧ hasAttribute mask s' = true)

lemma errorIndex_ne (rc : TpmRc) (i : ℕ) : rc + errorIndex i ≠ TPM_RC_SUCCESS := by
  intro h
  have hindex : errorIndex i = 0 := Nat.eq_zero_of_add_eq_zero_left h
  exact absurd (Nat.eq_zero_of_add_eq_zero_right hindex) (by decide)

lemma ite_error_iff {c : Prop} [Decidable c] {e rc : TpmRc} (he : e ≠ TPM_RC_SUCCESS) :
    (if c then e else rc) = TPM_RC_SUCCESS ↔ ¬ c ∧ rc = TPM_RC_SUCCESS := by
  split <;> simp_all

lemma ite_pass_iff {rc rc' : TpmRc} :
    (if rc ≠ TPM_RC_SUCCESS then rc else rc') = TPM_RC_SUCCESS ↔
      rc = TPM_RC_SUCCESS ∧ rc' = TPM_RC_SUCCESS := by
  split <;> simp_all

lemma testPassword_iff (i : ℕ) (s : AuthCommand) :
    testPassword i s = TPM_RC_SUCCESS ↔
      (∀ mask ∈ [encrypt, decrypt, audit, auditExclusive, auditReset],
        hasAttribute mask s = false) ∧ s.nonce = [] := by
  rw [testPassword, ite_error_iff (errorIndex_ne _ _), ite_error_iff (errorIndex_ne _ _)]
  simp [and_assoc]

variable {done : List AuthCommand} {s : AuthCommand}

lemma testEncryption_iff {mask : UInt8} {size : ℕ} {loaded : Session} :
    testEncryption mask size done s loaded = TPM_RC_SUCCESS ↔
      MayEncrypt mask size s loaded ∧
        ∀ a ∈ done, ¬ (hasAttribute mask a = true ∧ hasAttribute mask s = true) := by
  unfold testEncryption MayEncrypt
  simp only [recordedIndex_ne_none]
  have hne := errorIndex_ne
  cases hasAttribute mask s <;> simp only [Bool.not_true, Bool.not_false] <;>
    (repeat' split) <;> simp_all

lemma testAudit_iff {loaded : Session} :
    testAudit t done s loaded = TPM_RC_SUCCESS ↔
      MayAudit t s loaded ∧
        ∀ a ∈ done, ¬ (hasAttribute audit a = true ∧ hasAttribute audit s = true) := by
  unfold testAudit MayAudit
  simp only [recordedIndex_ne_none]
  have hne := errorIndex_ne
  have hexclusive : TPM_RC_EXCLUSIVE ≠ TPM_RC_SUCCESS := by decide
  cases hasAttribute audit s <;> simp only [Bool.not_true, Bool.not_false] <;>
    (repeat' split) <;> simp_all

lemma testSession_iff :
    testSession x t code done s = TPM_RC_SUCCESS ↔
      SessionRules x t code s ∧ ∀ a ∈ done, Compatible a s := by
  unfold testSession SessionRules
  split
  · rename_i hpassword
    rw [testPassword_iff]
    refine ⟨fun h => ⟨h, fun a _ => ⟨fun hne => absurd hpassword hne, ?_⟩⟩, And.left⟩
    intro mask hmask hboth
    have hclear := h.1 mask (by simp at hmask ⊢; tauto)
    rw [hclear] at hboth
    exact absurd hboth.2 (by decide)
  · rename_i hpassword
    cases hget : t.sessionGet s.sessionHandle with
    | none =>
      refine ⟨fun h => ?_, fun h => absurd h.1 (by simp)⟩
      change TPM_RC_REFERENCE_S0 + done.length = 0 at h
      exact absurd (Nat.eq_zero_of_add_eq_zero_right h) (by decide)
    | some loaded =>
      have hcompatible : (∀ a ∈ done, Compatible a s) ↔
          (∀ a ∈ done, a.sessionHandle ≠ s.sessionHandle) ∧
          ∀ mask ∈ [decrypt, encrypt, audit],
            ∀ a ∈ done, ¬ (hasAttribute mask a = true ∧ hasAttribute mask s = true) :=
        ⟨fun h => ⟨fun a ha => (h a ha).1 hpassword, fun mask hmask a ha => (h a ha).2 mask hmask⟩,
          fun h a ha => ⟨fun _ => h.1 a ha, fun mask hmask => h.2 mask hmask a ha⟩⟩
      simp only
      rw [ite_error_iff (errorIndex_ne _ _), ite_error_iff (errorIndex_ne _ _), ite_pass_iff,
        ite_pass_iff, testEncryption_iff, testEncryption_iff, testAudit_iff, hcompatible]
      simp only [Bool.not_eq_true, Bool.not_eq_false', any_eq_false, beq_iff_eq,
        Option.some.injEq, exists_eq_left', forall_mem_cons, ne_eq]
      simp
      tauto

end Rules

/-! ## The area -/

/-- The check of `authorizationSize` in `ExecuteCommand()`, and the sessions behind it. -/
def parseAuthorizationArea (x : Context) (t : Tpm) (code authSize : ℕ) (buffer : Bytes) :
    Except TpmRc (List AuthCommand) :=
  if authSize < 9 ∨ authSize > buffer.length then .error TPM_RC_SIZE
  else retrieveSessionData (testSession x t code) (buffer.take authSize)

/-- Each session behind the first passes its test exactly when the sessions keep their own rules
and any two of them are compatible. -/
lemma tests_iff {t : Tpm} {code : ℕ} :
    (∀ i (hi : i < sessions.length),
        RfTpm.stopUnless (testSession x t code (sessions.take i) sessions[i]) = .ok ()) ↔
      (∀ s ∈ sessions, SessionRules x t code s) ∧ sessions.Pairwise Compatible := by
  have hpass : ∀ rc, RfTpm.stopUnless rc = .ok () ↔ rc = TPM_RC_SUCCESS :=
    fun rc => ⟨stopUnless_ok, fun h => by simp [RfTpm.stopUnless, h]⟩
  simp only [hpass, testSession_iff, pairwise_iff_getElem]
  constructor
  · intro h
    refine ⟨fun s hs => ?_, fun i j hi hj hij => (h j hj).2 _ ?_⟩
    · obtain ⟨i, hi, rfl⟩ := getElem_of_mem hs
      exact (h i hi).1
    · exact mem_take_iff_getElem.mpr ⟨i, by omega, rfl⟩
  · rintro ⟨hrules, hpairs⟩ i hi
    refine ⟨hrules _ (getElem_mem hi), fun a ha => ?_⟩
    obtain ⟨j, hj, rfl⟩ := mem_take_iff_getElem.mp ha
    exact hpairs j i (by omega) hi (by omega)

lemma nine_le_length_encodeSession (s : AuthCommand) : 9 ≤ (encodeSession s).length := by
  simp only [encodeSession, length_append, length_beBytes]
  omega

lemma retrieveSessionData_ok_iff {t : Tpm} {code : ℕ} {area : Bytes} :
    retrieveSessionData (testSession x t code) area = .ok sessions ↔
      sessions.length ≤ MAX_SESSION_NUM ∧ area = sessions.flatMap encodeSession ∧
        (∀ s ∈ sessions, Unmarshaled s) ∧ (∀ s ∈ sessions, SessionRules x t code s) ∧
        sessions.Pairwise Compatible := by
  have hne : ∀ s, encodeSession s ≠ [] :=
    fun s h => by simpa [h] using nine_le_length_encodeSession s
  have h : retrieveSessionData (testSession x t code) area = .ok ([] ++ sessions) ↔ _ :=
    Parser.exhaust_ok_iff hne authCommandUnmarshal_ok_iff
  simp only [nil_append, tests_iff] at h
  exact h

lemma parseAuthorizationArea_ok_iff {t : Tpm} {code authSize : ℕ} {buffer : Bytes} :
    parseAuthorizationArea x t code authSize buffer = .ok sessions ↔
      9 ≤ authSize ∧ authSize ≤ buffer.length ∧
        retrieveSessionData (testSession x t code) (buffer.take authSize) = .ok sessions := by
  unfold parseAuthorizationArea
  split
  · exact ⟨fun h => (by cases h), fun h => by omega⟩
  · exact ⟨fun h => ⟨by omega, by omega, h⟩, fun h => h.2.2⟩

/-- The area is accepted exactly when it is made of one to three complete sessions that keep the
rules, which are then the sessions recorded; and the recorded indices are those of the sessions
with the attributes. -/
theorem authorization_area_exact (x : Context) (t : Tpm) (code authSize : ℕ)
    (buffer : Bytes) (sessions : List AuthCommand) :
    (parseAuthorizationArea x t code authSize buffer = .ok sessions ↔
      authSize ≤ buffer.length ∧ buffer.take authSize = sessions.flatMap encodeSession ∧
        1 ≤ sessions.length ∧ sessions.length ≤ MAX_SESSION_NUM ∧
        (∀ s ∈ sessions, Unmarshaled s ∧ SessionRules x t code s) ∧
        sessions.Pairwise Compatible) ∧
    (parseAuthorizationArea x t code authSize buffer = .ok sessions →
      ∀ mask ∈ [decrypt, encrypt, audit], ∀ i, recordedIndex mask sessions = some i ↔
        ∃ s, sessions[i]? = some s ∧ hasAttribute mask s = true) := by
  rw [parseAuthorizationArea_ok_iff, retrieveSessionData_ok_iff]
  refine ⟨⟨?_, ?_⟩, ?_⟩
  · rintro ⟨hnine, hfits, hmax, harea, hread, hrules, hpairs⟩
    refine ⟨hfits, harea, ?_, hmax, fun s hs => ⟨hread s hs, hrules s hs⟩, hpairs⟩
    by_contra hnone
    obtain rfl : sessions = [] := length_eq_zero_iff.mp (by omega)
    have hlength := congrArg length harea
    rw [length_take, Nat.min_eq_left hfits] at hlength
    simp at hlength
    omega
  · rintro ⟨hfits, harea, hone, hmax, hall, hpairs⟩
    refine ⟨?_, hfits, hmax, harea, fun s hs => (hall s hs).1, fun s hs => (hall s hs).2, hpairs⟩
    obtain ⟨s, rest, rfl⟩ := exists_cons_of_length_pos hone
    have hlength := congrArg length harea
    rw [length_take, Nat.min_eq_left hfits, flatMap_cons, length_append] at hlength
    have := nine_le_length_encodeSession s
    omega
  · rintro ⟨-, -, -, -, -, -, hpairs⟩ mask hmask i
    exact recordedIndex_eq_some_iff (hpairs.imp fun h => h.2 mask hmask)

end RfTpm.Auth
