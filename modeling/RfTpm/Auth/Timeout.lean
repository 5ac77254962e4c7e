import RfTpm.Auth.Tighten

/-!
# Timeouts of authorizations

`TPM2_PolicySigned()` and `TPM2_PolicySecret()` have an expiration, in seconds and with a sign that
only says whether a ticket is asked for.

The number of seconds is the absolute value of a 32-bit number, taken by a negation.  The smallest
number has no negation: it stays negative, and its conversion to 64 bits is far off.  For every
other expiration the timeout is exact (`toNat_computeAuthTimeout_iff`), and over any run of
authorizations the session has the least of them (`leastTimeout_runAll`).
-/

namespace RfTpm.Auth

open List

/-! ## One timeout -/

/-- The expiration as a number. -/
def expirationVal (expiration : UInt32) : ℤ :=
  if isNegative expiration then (expiration.toNat : ℤ) - 2 ^ 32 else expiration.toNat

/-- The smallest expiration. -/
def INT32_MIN : UInt32 := 0x80000000

/-- The timeout that an expiration stands for, as a number without a bound. -/
def trueTimeout (env : PolicyEnv) (session : Session) (expiration : UInt32) (nonce : Bytes) :
    ℕ :=
  if expiration = 0 then 0
  else
    (if nonce = [] then env.time.toNat % 1000 else session.startTime.toNat) +
      1000 * (expirationVal expiration).natAbs

variable {expiration : UInt32} {session : Session}

lemma toNat_seconds (h : expiration ≠ INT32_MIN) :
    (seconds expiration).toNat = (expirationVal expiration).natAbs := by
  have hlt := expiration.toNat_lt
  have hmin : expiration.toNat ≠ 2 ^ 31 := fun heq => h (UInt32.toNat_inj.mp heq)
  unfold seconds expirationVal
  by_cases hneg : isNegative expiration = true
  · have hge : 2 ^ 31 ≤ expiration.toNat := by
      have hle : (0x80000000 : UInt32) ≤ expiration := by simpa [isNegative] using hneg
      exact UInt32.le_iff_toNat_le.mp hle
    have hsub : (0 - expiration).toNat = 2 ^ 32 - expiration.toNat := by
      rw [UInt32.toNat_sub]
      show (2 ^ 32 - expiration.toNat + 0) % 2 ^ 32 = _
      omega
    have hpos : isNegative (0 - expiration) = false := by
      unfold isNegative
      rw [decide_eq_false_iff_not, ge_iff_le, UInt32.le_iff_toNat_le, hsub]
      show ¬2 ^ 31 ≤ _
      omega
    simp only [hneg, hpos, if_true, Bool.false_eq_true, if_false]
    rw [UInt32.toNat_toUInt64, hsub]
    omega
  · simp only [hneg, Bool.false_eq_true, if_false]
    rw [UInt32.toNat_toUInt64]
    omega

lemma seconds_min : (seconds INT32_MIN).toNat = 2 ^ 64 - 2 ^ 31 := by decide

lemma expirationVal_min : (expirationVal INT32_MIN).natAbs = 2 ^ 31 := by decide

lemma toNat_computeAuthTimeout (h : expiration ≠ 0) (env : PolicyEnv) (session : Session)
    (nonce : Bytes) :
    (computeAuthTimeout env session expiration nonce).toNat =
      ((if nonce = [] then env.time.toNat % 1000 else session.startTime.toNat) +
        1000 * (seconds expiration).toNat) % 2 ^ 64 := by
  unfold computeAuthTimeout
  rw [if_neg h]
  by_cases hnonce : nonce = []
  · rw [if_pos (by rw [hnonce]; rfl), if_pos hnonce, UInt64.toNat_add, UInt64.toNat_mul,
      UInt64.toNat_mod]
    show ((seconds expiration).toNat * 1000 % 2 ^ 64 + env.time.toNat % 1000) % 2 ^ 64 = _
    omega
  · rw [if_neg (fun hlen => hnonce (length_eq_zero_iff.mp hlen)), if_neg hnonce,
      UInt64.toNat_add, UInt64.toNat_mul]
    show (session.startTime.toNat + (seconds expiration).toNat * 1000 % 2 ^ 64) % 2 ^ 64 = _
    omega

lemma toNat_computeAuthTimeout_iff {env : PolicyEnv} {nonce : Bytes}
    (hfits : trueTimeout env session expiration nonce < 2 ^ 64) :
    (computeAuthTimeout env session expiration nonce).toNat =
      trueTimeout env session expiration nonce ↔ expiration ≠ INT32_MIN := by
  by_cases hzero : expiration = 0
  · subst hzero
    exact iff_of_true rfl (by decide)
  rw [toNat_computeAuthTimeout hzero]
  unfold trueTimeout at hfits ⊢
  rw [if_neg hzero] at hfits ⊢
  constructor
  · rintro heq rfl
    rw [seconds_min, expirationVal_min] at heq
    rw [expirationVal_min] at hfits
    omega
  · intro hmin
    rw [toNat_seconds hmin, Nat.mod_eq_of_lt hfits]

/-! ## The authorizations of a session -/

/-- A `TPM2_PolicySigned()` or a `TPM2_PolicySecret()`, and the TPM at that time. -/
structure Authorization where
  bySecret : Bool
  env : PolicyEnv
  input : AuthorizationIn

namespace Authorization

/-- The command. -/
def run (c : Crypto) (a : Authorization) (session : Session) : TpmRc × Session :=
  if a.bySecret then policySecret c a.env a.input session else policySigned c a.env a.input session

/-- `ComputeAuthTimeout()` in the command. -/
def timeout (a : Authorization) (session : Session) : UInt64 :=
  computeAuthTimeout a.env session a.input.expiration a.input.nonceTPM

/-- The checks of the command pass, so that it is recorded in the session.  In a trial session
nothing is checked, and no timeout computed. -/
def isRecorded (a : Authorization) (session : Session) : Bool :=
  !session.attributes.isTrialPolicy &&
    policyParameterChecks a.env session (a.timeout session) a.input.cpHashA a.input.nonceTPM (rcP 1)
      (rcP 2) (rcP 4) == TPM_RC_SUCCESS &&
    (a.bySecret || a.input.validate == TPM_RC_SUCCESS)

end Authorization

/-- The session after some authorizations. -/
def runAll (c : Crypto) (as : List Authorization) (session : Session) : Session :=
  as.foldl (fun session a => (a.run c session).2) session

/-- The true timeouts of the authorizations that are recorded in the session. -/
def timeouts (c : Crypto) : List Authorization → Session → List ℕ
  | [], _ => []
  | a :: as, session =>
    (if a.isRecorded session then
      [trueTimeout a.env session a.input.expiration a.input.nonceTPM] else []) ++
      timeouts c as (a.run c session).2

/-- The least of the values that are not zero, or zero. -/
structure IsLeastNonzero (t : ℕ) (values : List ℕ) : Prop where
  mem : t ≠ 0 → t ∈ values
  le : ∀ v ∈ values, v ≠ 0 → t ≠ 0 ∧ t ≤ v

/-- What an authorization does to the fields of the session that matter for timeouts. -/
structure Timed (session session' : Session) (timeout : UInt64) : Prop where
  timeout : session'.timeout = (setTimeout timeout session).timeout
  startTime : session'.startTime = session.startTime
  isTrialPolicy : session'.attributes.isTrialPolicy = session.attributes.isTrialPolicy

section

variable {c : Crypto} {session : Session}

lemma setTimeout_zero (session : Session) : setTimeout 0 session = session :=
  if_neg fun h => h.1 rfl

lemma timed_refl (session : Session) : Timed session session 0 :=
  ⟨by rw [setTimeout_zero], rfl, rfl⟩

lemma timed_setTimeout (timeout : UInt64) {session' : Session} (h : Timed session session' 0) :
    Timed session (setTimeout timeout session') timeout := by
  have htimeout : session'.timeout = session.timeout := by
    rw [h.timeout, setTimeout_zero]
  by_cases hset : timeout ≠ 0 ∧ (session.timeout = 0 ∨ session.timeout > timeout)
  · have hset' : timeout ≠ 0 ∧ (session'.timeout = 0 ∨ session'.timeout > timeout) := by
      rwa [htimeout]
    unfold setTimeout
    rw [if_pos hset']
    refine ⟨?_, h.startTime, h.isTrialPolicy⟩
    unfold setTimeout
    rw [if_pos hset]
  · have hset' : ¬(timeout ≠ 0 ∧ (session'.timeout = 0 ∨ session'.timeout > timeout)) := by
      rwa [htimeout]
    unfold setTimeout
    rw [if_neg hset']
    refine ⟨?_, h.startTime, h.isTrialPolicy⟩
    unfold setTimeout
    rw [if_neg hset, htimeout]

lemma timed_setCpHash (cpHash : Bytes) {session' : Session} (h : Timed session session' 0) :
    Timed session (setCpHash cpHash session') 0 := by
  unfold setCpHash
  split
  · exact ⟨h.timeout, h.startTime, h.isTrialPolicy⟩
  · exact h

lemma timed_policyContextUpdate (commandCode : ℕ) (name : Bytes) (ref : Option Bytes)
    (cpHash : Bytes) (timeout : UInt64) :
    Timed session (policyContextUpdate c commandCode name ref cpHash timeout session) timeout := by
  unfold policyContextUpdate
  apply timed_setTimeout
  apply timed_setCpHash
  cases ref with
  | none => exact ⟨by rw [setTimeout_zero]; rfl, rfl, rfl⟩
  | some ref => exact ⟨by rw [setTimeout_zero]; rfl, rfl, rfl⟩

/-- An authorization is refused, or it updates the context.  Out of a trial session it is recorded
then. -/
lemma run_cases (c : Crypto) (session : Session) (a : Authorization) :
    (∃ rc, rc ≠ TPM_RC_SUCCESS ∧ a.isRecorded session = false ∧ a.run c session = (rc, session)) ∨
    ((session.attributes.isTrialPolicy = false → a.isRecorded session = true) ∧
      ∃ code, (a.run c session).2 = policyContextUpdate c code a.input.name
        (some a.input.policyRef) a.input.cpHashA
        (if a.isRecorded session then a.timeout session else 0) session) := by
  unfold Authorization.run Authorization.isRecorded Authorization.timeout policySecret policySigned
  dsimp only
  cases session.attributes.isTrialPolicy with
  | true =>
    refine .inr ⟨nofun, ?_⟩
    cases a.bySecret with
    | true => exact ⟨TPM_CC_PolicySecret, by simp⟩
    | false => exact ⟨TPM_CC_PolicySigned, by simp⟩
  | false =>
    simp only [Bool.false_eq_true, if_false, Bool.not_false, Bool.true_and]
    generalize policyParameterChecks a.env session _ _ _ _ _ _ = checks
    by_cases hchecks : checks = TPM_RC_SUCCESS
    · subst hchecks
      cases a.bySecret with
      | true =>
        refine .inr ⟨fun _ => rfl, TPM_CC_PolicySecret, ?_⟩
        rw [if_pos rfl, if_neg (not_not.mpr rfl)]
        split <;> rfl
      | false =>
        by_cases hvalid : a.input.validate = TPM_RC_SUCCESS
        · refine .inr ⟨fun _ => by simp [hvalid], TPM_CC_PolicySigned, ?_⟩
          rw [if_neg nofun, if_neg (not_not.mpr rfl), hvalid, if_neg fun h => h.2 rfl]
          split <;> rfl
        · exact .inl ⟨a.input.validate, hvalid, by simp [hvalid], by simp [hvalid]⟩
    · exact .inl ⟨checks, hchecks, by simp [hchecks], by simp [hchecks]⟩

lemma timed_run (a : Authorization) :
    Timed session (a.run c session).2 (if a.isRecorded session then a.timeout session else 0) := by
  obtain ⟨rc, -, hrecorded, hrun⟩ | ⟨-, code, hrun⟩ := run_cases c session a
  · rw [hrun, hrecorded]
    exact timed_refl session
  · rw [hrun]
    exact timed_policyContextUpdate _ _ _ _ _

end

/-! ## The least timeout -/

lemma IsLeastNonzero.set {values : List ℕ} (timeout : UInt64)
    (h : IsLeastNonzero session.timeout.toNat values) :
    IsLeastNonzero (setTimeout timeout session).timeout.toNat (values ++ [timeout.toNat]) := by
  have hzero (t : UInt64) : t.toNat ≠ 0 ↔ t ≠ 0 := by
    rw [ne_eq, ne_eq, ← UInt64.toNat_inj]
    rfl
  unfold setTimeout
  split
  case isTrue hset =>
    refine ⟨fun _ => by simp, fun v hv hne => ⟨(hzero _).mpr hset.1, ?_⟩⟩
    rcases mem_append.mp hv with hv | hv
    · obtain ⟨hold, hle⟩ := h.le v hv hne
      rcases hset.2 with heq | hlt
      · exact absurd heq ((hzero _).mp hold)
      · exact (UInt64.lt_iff_toNat_lt.mp hlt).le.trans hle
    · rw [mem_singleton.mp hv]
  case isFalse hset =>
    refine ⟨fun hne => mem_append_left _ (h.mem hne), fun v hv hne => ?_⟩
    rcases mem_append.mp hv with hv | hv
    · exact h.le v hv hne
    · obtain rfl := mem_singleton.mp hv
      have hkeep : session.timeout ≠ 0 ∧ ¬session.timeout > timeout := by
        rw [not_and, not_or] at hset
        exact hset ((hzero _).mp hne)
      refine ⟨(hzero _).mpr hkeep.1, Nat.not_lt.mp fun hlt => ?_⟩
      exact hkeep.2 (UInt64.lt_iff_toNat_lt.mpr hlt)

section

variable {c : Crypto}

variable {session : Session} {values : List ℕ}

lemma trueTimeout_congr {session' : Session} (h : session'.startTime = session.startTime)
    (env : PolicyEnv) (expiration : UInt32) (nonce : Bytes) :
    trueTimeout env session' expiration nonce = trueTimeout env session expiration nonce := by
  unfold trueTimeout
  rw [h]

/-- An authorization that may be given: its expiration has an absolute value in 32 bits, and its
timeout is one in 64 bits. -/
structure Authorization.Sane (session : Session) (a : Authorization) : Prop where
  expiration : a.input.expiration ≠ INT32_MIN
  fits : trueTimeout a.env session a.input.expiration a.input.nonceTPM < 2 ^ 64

lemma leastTimeout_runAll (as : List Authorization) (hsane : ∀ a ∈ as, a.Sane session)
    (h : IsLeastNonzero session.timeout.toNat values) :
    IsLeastNonzero (runAll c as session).timeout.toNat (values ++ timeouts c as session) := by
  induction as generalizing session values with
  | nil =>
    show IsLeastNonzero _ (values ++ [])
    rw [append_nil]
    exact h
  | cons a as ih =>
    have htimed : Timed session (a.run c session).2
        (if a.isRecorded session then a.timeout session else 0) := timed_run a
    obtain ⟨hmin, hfits⟩ := hsane a mem_cons_self
    have hsane' : ∀ b ∈ as, b.Sane (a.run c session).2 := by
      intro b hb
      obtain ⟨hbmin, hbfits⟩ := hsane b (mem_cons_of_mem _ hb)
      exact ⟨hbmin, by rwa [trueTimeout_congr htimed.startTime]⟩
    unfold timeouts
    rw [← append_assoc]
    refine ih hsane' ?_
    rw [htimed.timeout]
    cases hrecorded : a.isRecorded session with
    | true =>
      rw [if_pos rfl, if_pos rfl, ← (toNat_computeAuthTimeout_iff hfits).mpr hmin]
      exact h.set _
    | false =>
      rw [if_neg nofun, if_neg nofun, setTimeout_zero, append_nil]
      exact h

/-! ## Expiration -/

/-- The checks of a policy session that come before that of its timeout pass. -/
structure ReachesTimeout (u : Use) (session : Session) : Prop where
  mode : ¬(u.code = TPM_CC_PolicySecret ∧ !session.attributes.isPasswordNeeded ∧
    !session.attributes.isAuthValueNeeded)
  pcr : sessionPCRValueIsCurrent u.pcrCounter session = true
  policy : session.u2 = u.authPolicy
  alg : u.policyAlg = session.authHashAlg
  nv : u.nvStatus = TPM_RC_SUCCESS

lemma isExpired_of_lt {u : Use} (hset : session.timeout.toNat ≠ 0)
    (hlt : session.timeout.toNat < u.time.toNat) : isExpired u session = true := by
  have hne : session.timeout ≠ 0 := fun heq => hset (by rw [heq]; rfl)
  unfold isExpired
  rw [bne_iff_ne.mpr hne, decide_eq_true (UInt64.lt_iff_toNat_lt.mpr hlt)]
  rfl

lemma checkPolicyAuthSession_expired {u : Use} (hexpired : isExpired u session = true)
    (h : ReachesTimeout u session) : checkPolicyAuthSession c u session = TPM_RC_EXPIRED := by
  unfold checkPolicyAuthSession
  rw [if_neg h.mode, if_neg (by simp [h.pcr]), if_neg (not_not.mpr h.policy),
    if_neg (not_not.mpr h.alg), if_neg (fun hnv => hnv.2 h.nv), if_pos hexpired]

lemma refused_of_timeout {u : Use} (h : IsLeastNonzero session.timeout.toNat values) {v : ℕ}
    (hv : v ∈ values) (hne : v ≠ 0) (hlt : v < u.time.toNat) :
    checkPolicyAuthSession c u session ≠ TPM_RC_SUCCESS ∧
      (ReachesTimeout u session → checkPolicyAuthSession c u session = TPM_RC_EXPIRED) := by
  obtain ⟨hset, hle⟩ := h.le v hv hne
  have hexpired : isExpired u session = true := isExpired_of_lt hset (by omega)
  refine ⟨fun hsuccess => ?_, checkPolicyAuthSession_expired hexpired⟩
  exact nomatch ((checkPolicyAuthSession_satisfied hsuccess).time).symm.trans hexpired

lemma isRecorded_of_success {a : Authorization}
    (htrial : session.attributes.isTrialPolicy = false) (h : (a.run c session).1 = TPM_RC_SUCCESS) :
    a.isRecorded session = true := by
  obtain ⟨rc, hrefused, -, hrun⟩ | ⟨hrecorded, -⟩ := run_cases c session a
  · rw [hrun] at h
    exact absurd h hrefused
  · exact hrecorded htrial

/-- **Timeouts are exact.**  The timeout of an authorization is what its expiration stands for,
unless the expiration is the smallest number.  An authorization that succeeds is recorded.  A
session whose authorizations have other expirations has the least of the timeouts recorded, and is
refused after any of them. -/
theorem timeouts_exact (c : Crypto) :
    (∀ env session expiration nonce, trueTimeout env session expiration nonce < 2 ^ 64 →
      ((computeAuthTimeout env session expiration nonce).toNat =
        trueTimeout env session expiration nonce ↔ expiration ≠ INT32_MIN)) ∧
    (∀ (a : Authorization) session, session.attributes.isTrialPolicy = false →
      (a.run c session).1 = TPM_RC_SUCCESS → a.isRecorded session = true) ∧
    ∀ (as : List Authorization) (session : Session), session.timeout = 0 →
      (∀ a ∈ as, a.Sane session) →
      IsLeastNonzero (runAll c as session).timeout.toNat (timeouts c as session) ∧
      ∀ v ∈ timeouts c as session, v ≠ 0 → ∀ u : Use, v < u.time.toNat →
        checkPolicyAuthSession c u (runAll c as session) ≠ TPM_RC_SUCCESS ∧
        (ReachesTimeout u (runAll c as session) →
          checkPolicyAuthSession c u (runAll c as session) = TPM_RC_EXPIRED) := by
  refine ⟨fun env session expiration nonce h => toNat_computeAuthTimeout_iff h,
    fun a session htrial h => isRecorded_of_success htrial h, ?_⟩
  intro as session hnone hsane
  have hstart : IsLeastNonzero session.timeout.toNat [] := by
    rw [hnone]
    exact ⟨fun h => absurd rfl h, fun v hv => absurd hv not_mem_nil⟩
  have hleast : IsLeastNonzero (runAll c as session).timeout.toNat (timeouts c as session) :=
    leastTimeout_runAll as hsane hstart
  exact ⟨hleast, fun v hv hne u hlt => refused_of_timeout hleast hv hne hlt⟩

end

/-! ## The smallest expiration -/

/-- A TPM that has been on for a second. -/
def secondOn : PolicyEnv := ⟨TPM_RC_SUCCESS, 1000, 0, 0, fun _ _ => []⟩

/-- A secret, with an expiration. -/
def secretFor (expiration : UInt32) : Authorization where
  bySecret := true
  env := secondOn
  input := ⟨[], [], [], expiration, [], TPM_RC_SUCCESS, TPM_RC_SUCCESS, false⟩

/-- A use of the session that has had one secret. -/
def useAt (time : UInt64) (a : Authorization) : Use where
  code := TPM_CC_PolicySigned
  role := .user
  names := []
  parameters := []
  authPolicy := (a.run sumCrypto freshSession).2.u2
  policyAlg := freshSession.authHashAlg
  nvWritten := none
  pcrCounter := 0
  nvStatus := TPM_RC_SUCCESS
  time := time
  timeEpoch := 0
  locality := 0
  physicalPresence := false

/-- A session with two secrets, one for 60 seconds and one for 30, that ask for tickets or not: it
ends after 30 seconds. -/
theorem timeouts_exact_secrets :
    (∀ a ∈ [secretFor 60, secretFor (0 - 30)], a.Sane freshSession) ∧
      (runAll sumCrypto [secretFor 60, secretFor (0 - 30)] freshSession).timeout = 30000 ∧
      IsLeastNonzero
        (runAll sumCrypto [secretFor 60, secretFor (0 - 30)] freshSession).timeout.toNat
        (timeouts sumCrypto [secretFor 60, secretFor (0 - 30)] freshSession) := by
  have hsane : ∀ a ∈ [secretFor 60, secretFor (0 - 30)], a.Sane freshSession := by
    intro a ha
    rcases mem_cons.mp ha with rfl | ha
    · exact ⟨by decide, by decide⟩
    · obtain rfl := mem_singleton.mp ha
      exact ⟨by decide, by decide⟩
  exact ⟨hsane, by decide, ((timeouts_exact sumCrypto).2.2 _ freshSession rfl hsane).1⟩

/-- With the smallest expiration the timeout should be `2147483648000`.  The code has a time that
no TPM reaches, and the session is accepted after its end. -/
theorem timeouts_exact_smallest :
    trueTimeout secondOn freshSession INT32_MIN [] = 2147483648000 ∧
      (computeAuthTimeout secondOn freshSession INT32_MIN []).toNat = 2 ^ 64 - 2147483648000 ∧
      ((secretFor INT32_MIN).run sumCrypto freshSession).1 = TPM_RC_SUCCESS ∧
      checkPolicyAuthSession sumCrypto (useAt 2147483648001 (secretFor INT32_MIN))
        ((secretFor INT32_MIN).run sumCrypto freshSession).2 = TPM_RC_SUCCESS := by
  decide

end RfTpm.Auth
