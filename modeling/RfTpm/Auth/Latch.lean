import RfTpm.Auth.Mediation

/-!
# The latch of the lockout authorization

A failed authorization with lockoutAuth disables it: `IncrementLockout()` clears
`gp.lockOutAuthEnabled`, after asserting that it was set.  That the flag is set is checked
elsewhere, by `CheckLockedOut()`, which is called for the binding of a session in
`ParseSessionBuffer()` and for the entity it authorizes in `CheckAuthSession()`.

The check and the increment agree except in one case (`Misdirected`): a session that is bound to
some other entity with dictionary-attack protection, and that authorizes `TPM_RH_LOCKOUT` without
its authValue, as a policy session may.  The check is then made for the other entity, and the
failure is counted against lockoutAuth.
-/

namespace RfTpm.Auth

open Fallible

/-! ## Sessions as they are created -/

/-- `TPM_SE` -/
inductive SessionType
  | TPM_SE_HMAC
  | TPM_SE_POLICY
  | TPM_SE_TRIAL
  deriving DecidableEq

/-- The session that `SessionCreate()` puts into its slot.  `sessionKey` is the result of
`CryptKDFa()` and `nonceTPM` that of the random number generator. -/
def sessionCreate (c : Crypto) (t : Tpm) (sessionType : SessionType) (authHash : ℕ)
    (symmetric : Bool) (bind : TpmHandle) (seed sessionKey nonceTPM : Bytes) : Session where
  attributes :=
    { (default : SessionAttributes) with
      isPolicy := sessionType ≠ .TPM_SE_HMAC
      isTrialPolicy := sessionType = .TPM_SE_TRIAL
      isBound := bind ≠ TPM_RH_NULL ∧ sessionType = .TPM_SE_HMAC
      isDaBound := bind ≠ TPM_RH_NULL ∧ !isDAExempted t bind
      isLockoutBound := (bind ≠ TPM_RH_NULL ∧ !isDAExempted t bind) ∧ bind = TPM_RH_LOCKOUT }
  pcrCounter := 0
  startTime := if sessionType ≠ .TPM_SE_HMAC then t.da.time else 0
  timeout := 0
  epoch := if sessionType ≠ .TPM_SE_HMAC then t.da.gp.timeEpoch else 0
  commandCode := 0
  authHashAlg := authHash
  commandLocality := 0
  symmetric := symmetric
  sessionKey := if bind ≠ TPM_RH_NULL ∨ seed.length ≠ 0 then sessionKey else []
  nonceTPM := nonceTPM
  u1 :=
    if bind ≠ TPM_RH_NULL ∧ sessionType = .TPM_SE_HMAC then
      boundEntity (entityGetName t bind) (entityAuthValue t bind)
    else []
  u2 := if sessionType ≠ .TPM_SE_HMAC then List.replicate (c.digestSize authHash) 0 else []

/-- A session that is bound to lockoutAuth is bound to an entity with protection. -/
def LockoutBound (session : Session) : Prop :=
  session.attributes.isLockoutBound = true → session.attributes.isDaBound = true

lemma lockoutBound_sessionCreate (c : Crypto) (t : Tpm) (sessionType : SessionType)
    (authHash : ℕ) (symmetric : Bool) (bind : TpmHandle) (seed sessionKey nonceTPM : Bytes) :
    LockoutBound
      (sessionCreate c t sessionType authHash symmetric bind seed sessionKey nonceTPM) := by
  intro h
  have hboth := of_decide_eq_true h
  exact decide_eq_true hboth.1

/-! ## The three parts of a check -/

section

variable (x : Context) (r : Request) (i : ℕ)

/-- What comes before the comparison, with whether the authValue of the entity is used. -/
def beforeComparison : AuthM Bool := do
  checkConsistency r i
  if r.associatedHandle i ≠ TPM_RH_UNASSIGNED then
    mapError (fun rc => rcSafeAddToResult rc (errorIndex i)) do
      checkPresence x r i
      let authUsed ← setIncludeAuth r i
      checkLockout r i authUsed
      checkAvailable x r i
      pure authUsed
  else do
    .stopIf (!hasAttribute audit (r.session i) ∧ !hasAttribute encrypt (r.session i) ∧
      !hasAttribute decrypt (r.session i)) (TPM_RC_ATTRIBUTES + errorIndex i)
    .modify (Tpm.modifySession (r.sessionHandle i) (withInclude false))
    pure false

/-- The comparison of a password. -/
def passwordMatches : AuthM Bool := do
  let authValue ← entityGetAuthValue (r.associatedHandle i)
  pure (removeTrailingZeros (r.session i).hmac = authValue)

/-- The comparison of an HMAC. -/
def hmacMatches : AuthM Bool := do
  let session ← getSession (r.sessionHandle i)
  let hmac ← computeCommandHMAC x r i session
  pure ((r.session i).hmac = hmac)

/-- The comparison of what an authorization session gives. -/
def authMatches : AuthM Bool :=
  if r.sessionHandle i = TPM_RS_PW then passwordMatches r i
  else do
    let session ← getSession (r.sessionHandle i)
    if session.attributes.isPasswordNeeded then passwordMatches r i else hmacMatches x r i

/-- The comparison. -/
def comparison : AuthM Bool :=
  if r.associatedHandle i ≠ TPM_RH_UNASSIGNED then authMatches x r i else hmacMatches x r i

/-- The result of a comparison; a failure is counted. -/
def comparisonResult (equal : Bool) : AuthM TpmRc :=
  if equal then pure TPM_RC_SUCCESS else incrementLockout r i

/-- What follows the comparison. -/
def afterComparison (authUsed equal : Bool) : AuthM Unit :=
  if r.associatedHandle i ≠ TPM_RH_UNASSIGNED then
    mapError (fun rc => rcSafeAddToResult rc (errorIndex i)) do
      let result ← comparisonResult r i equal
      countPin r i authUsed result
      stopUnless result
  else do
    let result ← comparisonResult r i equal
    stopUnless (rcSafeAddToResult result (errorIndex i))

lemma checkPWAuthSession_eq :
    checkPWAuthSession r i = passwordMatches r i >>= comparisonResult r i := by
  unfold checkPWAuthSession passwordMatches comparisonResult
  rw [bind_assoc]
  refine bind_congr fun authValue => ?_
  rw [pure_bind]
  simp only [decide_eq_true_eq]

lemma checkSessionHMAC_eq :
    checkSessionHMAC x r i = hmacMatches x r i >>= comparisonResult r i := by
  unfold checkSessionHMAC hmacMatches comparisonResult
  simp only [bind_assoc, pure_bind, decide_eq_true_eq]

lemma compareAuth_eq : compareAuth x r i = authMatches x r i >>= comparisonResult r i := by
  unfold compareAuth authMatches
  split
  · exact checkPWAuthSession_eq r i
  · rw [bind_assoc]
    refine bind_congr fun session => ?_
    split
    · exact checkPWAuthSession_eq r i
    · exact checkSessionHMAC_eq x r i

lemma returns_passwordMatches : Returns (passwordMatches r i) :=
  returns_bind (returns_run _) fun _ => returns_pure _

lemma returns_hmacMatches : Returns (hmacMatches x r i) :=
  returns_bind (returns_run _) fun _ =>
    returns_bind
      (returns_bind (returns_ite (returns_run _) (returns_pure _)) fun _ =>
        returns_bind (returns_gets _) fun _ => returns_pure _)
      fun _ => returns_pure _

lemma returns_authMatches : Returns (authMatches x r i) :=
  returns_ite (returns_passwordMatches r i) <|
    returns_bind (returns_run _) fun _ =>
      returns_ite (returns_passwordMatches r i) (returns_hmacMatches x r i)

lemma checkSession_eq :
    checkSession x r i = (beforeComparison x r i >>= fun authUsed =>
      comparison x r i >>= fun equal => afterComparison r i authUsed equal) := by
  unfold checkSession beforeComparison comparison afterComparison
  rw [bind_assoc]
  refine bind_congr fun _ => ?_
  by_cases hassociated : r.associatedHandle i ≠ TPM_RH_UNASSIGNED
  · simp only [if_pos hassociated]
    unfold checkAuthSession
    rw [compareAuth_eq]
    simp only [mapError_bind, bind_assoc, mapError_pure, pure_bind,
      (returns_authMatches x r i).mapError_eq]
  · simp only [if_neg hassociated]
    unfold checkOtherSession
    rw [checkSessionHMAC_eq]
    simp only [bind_assoc, pure_bind]

end

/-! ## What keeps the latch -/

/-- `gp.lockOutAuthEnabled` -/
def latch (t : Tpm) : Bool := t.da.gp.lockOutAuthEnabled

/-- The latch is as it was. -/
def SameLatch (t t' : Tpm) : Prop := latch t' = latch t

instance : IsPreorder Tpm SameLatch where
  refl _ := rfl
  trans _ _ _ h h' := Eq.trans h' h

instance : KeptByChecks SameLatch where
  fail _ := rfl
  lockedOut lockoutAuthCheck := by
    refine keeps_bind (fun t => ?_) fun rc => keeps_stopUnless rc
    unfold SameLatch latch run Da.checkLockedOut Da.writePending
    dsimp only
    split_ifs <;> rfl

section

variable (x : Context) (r : Request) (i : ℕ) {R : Tpm → Tpm → Prop}

lemma keeps_beforeComparison [KeptByChecks R]
    (hinclude : ∀ handle b t, R t (t.modifySession handle (withInclude b))) :
    Keeps R (beforeComparison x r i) :=
  keeps_bind (keeps_checkConsistency r i) fun _ =>
    keeps_ite
      (keeps_mapError <|
        keeps_bind (keeps_checkPresence x r i) fun _ =>
          keeps_bind (keeps_setIncludeAuth r i hinclude) fun authUsed =>
            keeps_bind (keeps_checkLockout r i authUsed) fun _ =>
              keeps_bind (keeps_checkAvailable x r i) fun _ => keeps_pure _)
      (keeps_bind (keeps_stopIf _ _) fun _ =>
        keeps_bind (fun t => hinclude _ _ t) fun _ => keeps_pure _)

lemma keeps_passwordMatches [KeptByFail R] : Keeps R (passwordMatches r i) :=
  keeps_bind (keeps_entityGetAuthValue _) fun _ => keeps_pure _

lemma keeps_hmacMatches [KeptByFail R] : Keeps R (hmacMatches x r i) :=
  keeps_bind (keeps_getSession _) fun session =>
    keeps_bind (keeps_computeCommandHMAC x r i session) fun _ => keeps_pure _

lemma keeps_authMatches [KeptByFail R] : Keeps R (authMatches x r i) :=
  keeps_ite (keeps_passwordMatches r i) <| keeps_bind (keeps_getSession _) fun _ =>
    keeps_ite (keeps_passwordMatches r i) (keeps_hmacMatches x r i)

lemma keeps_comparison [KeptByFail R] : Keeps R (comparison x r i) :=
  keeps_ite (keeps_authMatches x r i) (keeps_hmacMatches x r i)

end

/-! ## Failures -/

section

variable (x : Context) (r : Request) (i : ℕ) (t u : Tpm)

/-- In the check of the session that starts in the state `t`, `IncrementLockout()` is called in
the state `u`. -/
def Failure : Prop :=
  ∃ authUsed u₀, beforeComparison x r i t = (.ok authUsed, u₀) ∧
    comparison x r i u₀ = (.ok false, u)

/-- The session uses the authValue of the entity it authorizes. -/
def UsesAuth (session : Session) : Prop :=
  if handleGetType (r.sessionHandle i) = TPM_HT_POLICY_SESSION then
    session.attributes.isAuthValueNeeded = true ∨ session.attributes.isPasswordNeeded = true
  else ¬IsBoundTo r i t session

/-- lockoutAuth takes part in the check of a session: as the authValue of the entity, or because
the session is bound to it. -/
def LockoutTakesPart : Prop :=
  (r.sessionHandle i = TPM_RS_PW ∧ r.associatedHandle i = TPM_RH_LOCKOUT) ∨
    (r.sessionHandle i ≠ TPM_RS_PW ∧ ∃ session,
      t.sessionGet (r.sessionHandle i) = some session ∧
        (session.attributes.isLockoutBound = true ∨
          (r.associatedHandle i = TPM_RH_LOCKOUT ∧ UsesAuth r i t session)))

/-- A session that is bound to another entity with protection authorizes `TPM_RH_LOCKOUT` without
its authValue, passes the checks before the comparison and fails that. -/
def Misdirected : Prop :=
  r.sessionHandle i ≠ TPM_RS_PW ∧ r.associatedHandle i = TPM_RH_LOCKOUT ∧
    (∃ session, t.sessionGet (r.sessionHandle i) = some session ∧
      session.attributes.isDaBound = true ∧ session.attributes.isLockoutBound = false ∧
      ¬UsesAuth r i t session) ∧
    ∃ u, Failure x r i t u

/-- The latch and its assertion agree in the check of a session: when a failure is counted
against lockoutAuth, it is enabled; and it is only disabled if it took part. -/
structure LatchConsistent : Prop where
  asserted : ∀ u, Failure x r i t u → lockoutEntity r i u = some .lockout →
    u.da.gp.lockOutAuthEnabled = true
  justified : t.da.gp.lockOutAuthEnabled = true →
    (checkSession x r i t).2.da.gp.lockOutAuthEnabled = false → LockoutTakesPart r i t

end

section

variable {x : Context} {r : Request} {i : ℕ} {t t' u : Tpm} {session : Session}

lemma Failure.unique {u' : Tpm} (h : Failure x r i t u) (h' : Failure x r i t u') : u = u' := by
  obtain ⟨authUsed, u₀, hbefore, hcompare⟩ := h
  obtain ⟨authUsed', u₀', hbefore', hcompare'⟩ := h'
  obtain ⟨-, rfl⟩ := Prod.mk.inj (hbefore.symm.trans hbefore')
  exact congrArg Prod.snd (hcompare.symm.trans hcompare')

lemma isDAExempted_lockout (t : Tpm) : isDAExempted t TPM_RH_LOCKOUT = false := rfl

lemma daEntity_eq_lockout {handle : TpmHandle} :
    daEntity t handle = .lockout ↔ handle = TPM_RH_LOCKOUT := by
  unfold daEntity
  split_ifs <;> simp_all

lemma lockoutEntity_password (hpw : r.sessionHandle i = TPM_RS_PW)
    (h : lockoutEntity r i t = some .lockout) : r.associatedHandle i = TPM_RH_LOCKOUT := by
  unfold lockoutEntity daSession Da.lockoutEntity at h
  rw [if_pos hpw] at h
  dsimp only at h
  split_ifs at h
  exact daEntity_eq_lockout.mp (Option.some.inj h)

lemma enabled_of_checkLockedOut {s : Da.Tpm}
    (h : (Da.checkLockedOut true s).1 = TPM_RC_SUCCESS) :
    (Da.checkLockedOut true s).2.gp.lockOutAuthEnabled = true := by
  unfold Da.checkLockedOut at h ⊢
  by_cases hunavailable : !s.nvIsAvailable && (s.nvIsOrderly || s.daPendingOnNv)
  · rw [if_pos hunavailable] at h
    have hstatus : s.nvStatus ≠ TPM_RC_SUCCESS := by
      simp only [Bool.and_eq_true, Bool.not_eq_true', Da.Tpm.nvIsAvailable,
        beq_eq_false_iff_ne] at hunavailable
      exact hunavailable.1
    exact absurd h hstatus
  · rw [if_neg hunavailable] at h ⊢
    dsimp only at h ⊢
    cases henabled : (Da.writePending s).gp.lockOutAuthEnabled with
    | true => exact henabled
    | false =>
      rw [henabled] at h
      exact absurd h (show ¬ Da.TPM_RC_LOCKOUT = TPM_RC_SUCCESS by decide)

lemma checkLockedOut_true_ok {v : Unit} (h : checkLockedOut true t = (.ok v, t')) :
    latch t' = true := by
  obtain ⟨rc, t₁, hrun, h⟩ := bind_ok h
  obtain ⟨hrc, rfl⟩ := stopUnless_eq_ok h
  obtain ⟨hresult, hstate⟩ := Prod.mk.inj (run_ok hrun)
  rw [hrc] at hresult
  rw [← hstate]
  exact enabled_of_checkLockedOut hresult

lemma checkLockout_ok {v : Unit} (hassociated : r.associatedHandle i = TPM_RH_LOCKOUT)
    (h : checkLockout r i true t = (.ok v, t')) : latch t' = true := by
  have h := gets_bind_ok h
  rw [hassociated, id, isDAExempted_lockout] at h
  exact checkLockedOut_true_ok h

lemma usesAuthValue_ok {b : Bool} (h : usesAuthValue r i session t = (.ok b, t')) :
    b = true ↔ UsesAuth r i t session := by
  unfold usesAuthValue at h
  unfold UsesAuth
  split_ifs at h ⊢
  · obtain ⟨rfl, -⟩ := pure_ok h
    rw [Bool.or_eq_true]
  · obtain ⟨bound, t₁, hbound, h⟩ := bind_ok h
    obtain ⟨rfl, -⟩ := pure_ok h
    rw [← isSessionBindEntity_ok hbound]
    simp

lemma Quiet.usesAuth (h : Quiet t t') : UsesAuth r i t' session ↔ UsesAuth r i t session := by
  unfold UsesAuth IsBoundTo
  rw [h.entityGetName, h.entityAuthValue]

lemma beforeComparison_associated {authUsed : Bool}
    (hassociated : r.associatedHandle i ≠ TPM_RH_UNASSIGNED)
    (h : beforeComparison x r i t = (.ok authUsed, u)) :
    ∃ t₁ t₂ t₃ v w, checkConsistency r i t = (.ok v, t₁) ∧
      setIncludeAuth r i t₁ = (.ok authUsed, t₂) ∧
      checkLockout r i authUsed t₂ = (.ok w, t₃) ∧ Still t₃ u ∧ SameLatch t₃ u := by
  obtain ⟨v, t₁, hconsistent, h⟩ := bind_ok h
  rw [if_pos hassociated] at h
  have h := mapError_ok h
  obtain ⟨_, t₀, hpresence, h⟩ := bind_ok h
  unfold checkPresence at hpresence
  have hpresence := gets_bind_ok hpresence
  obtain ⟨-, rfl⟩ := stopIf_ok hpresence
  obtain ⟨b, t₂, hset, h⟩ := bind_ok h
  obtain ⟨w, t₃, hlockout, h⟩ := bind_ok h
  obtain ⟨_, t₄, havailable, h⟩ := bind_ok h
  obtain ⟨rfl, rfl⟩ := pure_ok h
  exact ⟨t₁, t₂, t₃, v, w, hconsistent, hset, hlockout,
    (keeps_checkAvailable x r i).of_run havailable,
    (keeps_checkAvailable x r i).of_run havailable⟩

section

variable (hpw : r.sessionHandle i ≠ TPM_RS_PW)
  (hs : t.sessionGet (r.sessionHandle i) = some session)
include hpw hs

lemma lockoutEntity_session :
    lockoutEntity r i t = some .lockout ↔
      (session.attributes.isLockoutBound = true ∨ r.associatedHandle i = TPM_RH_LOCKOUT) ∧
        (session.attributes.isDaBound = true ∨ session.attributes.includeAuth = true) := by
  rw [← daEntity_eq_lockout (t := t)]
  unfold lockoutEntity daSession Da.lockoutEntity
  rw [if_neg hpw, hs, Option.map_some]
  dsimp only
  cases session.attributes.isLockoutBound <;> cases session.attributes.isDaBound <;>
    cases session.attributes.includeAuth <;> cases daEntity t (r.associatedHandle i) <;> simp

lemma checkConsistency_lockoutBound {v : Unit} (hbound : LockoutBound session)
    (hlockout : session.attributes.isLockoutBound = true)
    (h : checkConsistency r i t = (.ok v, t')) : latch t' = true := by
  unfold checkConsistency at h
  rw [if_neg hpw] at h
  have h := getSession_bind_ok hs h
  obtain ⟨_, t₁, hstop, h⟩ := bind_ok h
  rw [if_pos (hbound hlockout), hlockout] at h
  exact checkLockedOut_true_ok h

lemma setIncludeAuth_uses {b : Bool} (h : setIncludeAuth r i t = (.ok b, t')) :
    b = true ↔ UsesAuth r i t session := by
  unfold setIncludeAuth at h
  rw [if_neg hpw] at h
  have h := getSession_bind_ok hs h
  obtain ⟨b', t₁, huses, h⟩ := bind_ok h
  obtain ⟨_, t₂, -, h⟩ := bind_ok h
  obtain ⟨rfl, -⟩ := pure_ok h
  exact usesAuthValue_ok huses

lemma beforeComparison_session {authUsed : Bool}
    (hassociated : r.associatedHandle i = TPM_RH_LOCKOUT)
    (h : beforeComparison x r i t = (.ok authUsed, u)) :
    u.sessionGet (r.sessionHandle i) = some (withInclude authUsed session) ∧
      (authUsed = true ↔ UsesAuth r i t session) ∧ (authUsed = true → latch u = true) := by
  have hne : r.associatedHandle i ≠ TPM_RH_UNASSIGNED := by
    rw [hassociated]
    decide
  obtain ⟨t₁, t₂, t₃, v, w, hconsistent, hset, hlockout, hstill, hlatch⟩ :=
    beforeComparison_associated hne h
  have hstill₁ : Still t t₁ := (keeps_checkConsistency r i).of_run hconsistent
  have hs₁ : t₁.sessionGet (r.sessionHandle i) = some session := (hstill₁.sessionGet _).trans hs
  have hstill₃ : Still t₂ t₃ := (keeps_checkLockout r i authUsed).of_run hlockout
  refine ⟨?_, ?_, ?_⟩
  · rw [hstill.sessionGet, hstill₃.sessionGet]
    exact (setIncludeAuth_ok hpw hs₁ hset).2.1
  · rw [← hstill₁.quiet.usesAuth]
    exact setIncludeAuth_uses hpw hs₁ hset
  · rintro rfl
    exact hlatch.trans (checkLockout_ok hassociated hlockout)

end

/-- A failure that is counted against lockoutAuth is one in which it took part, and it was
enabled; or it is misdirected. -/
lemma failure_lockout
    (hloaded : r.sessionHandle i ≠ TPM_RS_PW → ∃ session,
      t.sessionGet (r.sessionHandle i) = some session ∧ LockoutBound session)
    (hfailure : Failure x r i t u) (hentity : lockoutEntity r i u = some .lockout) :
    (latch u = true ∧ LockoutTakesPart r i t) ∨ Misdirected x r i t := by
  obtain ⟨authUsed, u₀, hbefore, hcompare⟩ := id hfailure
  have hlatch : SameLatch u₀ u := (keeps_comparison x r i).of_run hcompare
  have hstill : Still u₀ u := (keeps_comparison x r i).of_run hcompare
  by_cases hpw : r.sessionHandle i = TPM_RS_PW
  · -- a password always uses the authValue, so the entity was checked
    have hassociated := lockoutEntity_password hpw hentity
    obtain ⟨t₁, t₂, t₃, v, w, -, hset, hlockout, -, hlatch₃⟩ :=
      beforeComparison_associated (by rw [hassociated]; decide) hbefore
    have hused : authUsed = true := by
      unfold setIncludeAuth at hset
      rw [if_pos hpw] at hset
      exact (pure_ok hset).1.symm
    subst hused
    exact .inl ⟨hlatch.trans (hlatch₃.trans (checkLockout_ok hassociated hlockout)),
      .inl ⟨hpw, hassociated⟩⟩
  obtain ⟨session, hs, hbound⟩ := hloaded hpw
  cases hlockout : session.attributes.isLockoutBound with
  | true =>
    -- the binding was checked first of all
    obtain ⟨v, t₁, hconsistent, -⟩ := bind_ok hbefore
    have henabled : latch u₀ = true := by
      have hkept : SameLatch t u₀ :=
        (keeps_beforeComparison x r i fun _ _ _ => rfl).of_run hbefore
      have hfirst := checkConsistency_lockoutBound hpw hs hbound hlockout hconsistent
      have hsame : SameLatch t t₁ := (keeps_checkConsistency r i).of_run hconsistent
      exact hkept.trans (hsame.symm.trans hfirst)
    exact .inl ⟨hlatch.trans henabled, .inr ⟨hpw, session, hs, .inl hlockout⟩⟩
  | false =>
    obtain ⟨session', hs', hsame⟩ : ∃ session', u.sessionGet (r.sessionHandle i) = some session' ∧
        withInclude false session' = withInclude false session := by
      have hsessions : SameSessions t u₀ :=
        (keeps_beforeComparison x r i sameSessions_modifySession).of_run hbefore
      obtain ⟨session', hs', hsame⟩ := hsessions.get hs
      exact ⟨session', (hstill.sessionGet _).trans hs', hsame⟩
    have hflags : session'.attributes.isLockoutBound = false := by
      have hfield := congrArg (fun s => s.attributes.isLockoutBound) hsame
      exact hfield.trans hlockout
    obtain ⟨hhandle, hcounted⟩ := (lockoutEntity_session hpw hs').mp hentity
    have hassociated : r.associatedHandle i = TPM_RH_LOCKOUT := by
      rw [hflags] at hhandle
      simpa using hhandle
    obtain ⟨hs₀, huses, henabled⟩ := beforeComparison_session hpw hs hassociated hbefore
    obtain rfl : session' = withInclude authUsed session :=
      Option.some.inj (hs'.symm.trans ((hstill.sessionGet _).trans hs₀))
    cases authUsed with
    | true =>
      exact .inl ⟨hlatch.trans (henabled rfl),
        .inr ⟨hpw, session, hs, .inr ⟨hassociated, huses.mp rfl⟩⟩⟩
    | false =>
      have hda : session.attributes.isDaBound = true := by
        simpa [withInclude] using hcounted
      exact .inr ⟨hpw, hassociated,
        ⟨session, hs, hda, hlockout, fun h => by simpa using huses.mpr h⟩,
        u, hfailure⟩

lemma incrementLockout_lockout (h : lockoutEntity r i t = some .lockout) :
    latch (incrementLockout r i t).2 = false := by
  unfold lockoutEntity at h
  unfold incrementLockout run Da.incrementLockout
  dsimp only
  rw [h]
  unfold latch Da.daRegisterFailure Da.countFailure
  dsimp only
  simp only [if_true]
  split_ifs
  all_goals rfl

lemma incrementLockout_other (h : lockoutEntity r i t ≠ some .lockout) :
    latch (incrementLockout r i t).2 = latch t := by
  unfold lockoutEntity at h
  unfold incrementLockout run Da.incrementLockout
  dsimp only
  cases hentity : Da.lockoutEntity (daEntity t (r.associatedHandle i)) (daSession r i t) with
  | none => rfl
  | some entity =>
    have hother : entity ≠ .lockout := fun heq => h (heq ▸ hentity)
    unfold latch Da.daRegisterFailure Da.countFailure
    dsimp only
    rw [if_neg hother, if_neg hother]
    split_ifs
    all_goals rfl

lemma latch_comparisonResult (equal : Bool) :
    latch (comparisonResult r i equal u).2 =
      if equal then latch u else latch (incrementLockout r i u).2 := by
  unfold comparisonResult
  cases equal <;> rfl

lemma latch_afterComparison (authUsed equal : Bool) :
    latch (afterComparison r i authUsed equal u).2 =
      if equal then latch u else latch (incrementLockout r i u).2 := by
  have hresult : ∀ result, Keeps SameLatch
      (countPin r i authUsed result >>= fun _ => stopUnless result) := fun result =>
    keeps_bind (keeps_countPin r i (fun handle n t =>
      congrArg Da.PersistentData.lockOutAuthEnabled (nvWritePinCount_same handle n t).2)
      authUsed result) fun _ => keeps_stopUnless _
  rw [← latch_comparisonResult]
  unfold afterComparison
  have hreturns : Returns (comparisonResult r i equal) :=
    returns_ite (returns_pure _) (returns_run _)
  obtain ⟨result, u₁, hcompare⟩ := hreturns u
  split
  · change latch ((comparisonResult r i equal >>= fun result =>
      countPin r i authUsed result >>= fun _ => stopUnless result) u).2 = _
    rw [bind_of_ok hcompare, hcompare]
    exact hresult result u₁
  · rw [bind_of_ok hcompare, hcompare]
    exact keeps_stopUnless (R := SameLatch) _ u₁

lemma latch_checkSession :
    (∃ u, Failure x r i t u ∧
      latch (checkSession x r i t).2 = latch (incrementLockout r i u).2 ∧ latch u = latch t) ∨
    ((∀ u, ¬Failure x r i t u) ∧ latch (checkSession x r i t).2 = latch t) := by
  rw [checkSession_eq]
  have hkept : SameLatch t _ := keeps_beforeComparison x r i (fun _ _ _ => rfl) t
  rcases hbefore : beforeComparison x r i t with ⟨e | authUsed, u₀⟩ <;> rw [hbefore] at hkept
  · refine .inr ⟨?_, ?_⟩
    · rintro u ⟨authUsed, u₁, h, -⟩
      cases hbefore.symm.trans h
    · rw [bind_apply, hbefore]
      exact hkept
  · rw [bind_of_ok hbefore]
    obtain ⟨equal, u, hcompare⟩ : ∃ equal u, comparison x r i u₀ = (.ok equal, u) :=
      returns_ite (returns_authMatches x r i) (returns_hmacMatches x r i) u₀
    have hcompared : SameLatch u₀ u := (keeps_comparison x r i).of_run hcompare
    rw [bind_of_ok hcompare, latch_afterComparison]
    cases equal with
    | false => exact .inl ⟨u, ⟨authUsed, u₀, hbefore, hcompare⟩, rfl, hcompared.trans hkept⟩
    | true =>
      refine .inr ⟨?_, hcompared.trans hkept⟩
      rintro u' ⟨authUsed', u₁, h, hcompare'⟩
      obtain ⟨-, rfl⟩ := Prod.mk.inj (hbefore.symm.trans h)
      cases hcompare.symm.trans hcompare'

end

/-- **The latch is consistent** in the check of a session, as `SessionCreate()` leaves them,
exactly if the session is not misdirected. -/
theorem lockout_latch_consistent_iff (x : Context) (r : Request) (i : ℕ) (t : Tpm)
    (hloaded : r.sessionHandle i ≠ TPM_RS_PW → ∃ session,
      t.sessionGet (r.sessionHandle i) = some session ∧ LockoutBound session) :
    LatchConsistent x r i t ↔ ¬Misdirected x r i t := by
  constructor
  · rintro hconsistent hmisdirected
    obtain ⟨hpw, hassociated, ⟨session, hs, hda, hlockout, huses⟩, u, hfailure⟩ := id hmisdirected
    obtain ⟨authUsed, u₀, hbefore, hcompare⟩ := id hfailure
    obtain ⟨hs₀, -, -⟩ := beforeComparison_session hpw hs hassociated hbefore
    have hstill : Still u₀ u := (keeps_comparison x r i).of_run hcompare
    have hentity : lockoutEntity r i u = some .lockout := by
      refine (lockoutEntity_session hpw ((hstill.sessionGet _).trans hs₀)).mpr
        ⟨.inr hassociated, ?_⟩
      exact .inl hda
    -- the assertion holds, so the failure clears the latch without lockoutAuth
    have henabled := hconsistent.asserted u hfailure hentity
    obtain ⟨u', hfailure', hafter, hsame⟩ | ⟨hnone, -⟩ := latch_checkSession (x := x) (t := t)
    · obtain rfl : u' = u := hfailure'.unique hfailure
      have hbegin : t.da.gp.lockOutAuthEnabled = true := hsame.symm.trans henabled
      have htakes := hconsistent.justified hbegin
        (hafter.trans (incrementLockout_lockout hentity))
      obtain ⟨hpw', -⟩ | ⟨-, session', hs', htook⟩ := htakes
      · exact hpw hpw'
      · obtain rfl : session' = session := Option.some.inj (hs'.symm.trans hs)
        obtain hbound | ⟨-, huses'⟩ := htook
        · exact nomatch hlockout.symm.trans hbound
        · exact huses huses'
    · exact hnone u hfailure
  · intro hnot
    refine ⟨?_, ?_⟩
    · intro u hfailure hentity
      obtain ⟨henabled, -⟩ | hmisdirected := failure_lockout hloaded hfailure hentity
      · exact henabled
      · exact absurd hmisdirected hnot
    · intro hbegin hend
      obtain ⟨u, hfailure, hafter, hsame⟩ | ⟨-, hafter⟩ := latch_checkSession (x := x) (t := t)
      · by_cases hentity : lockoutEntity r i u = some .lockout
        · obtain ⟨-, htakes⟩ | hmisdirected := failure_lockout hloaded hfailure hentity
          · exact htakes
          · exact absurd hmisdirected hnot
        · have hkept := (hafter.trans (incrementLockout_other hentity)).trans hsame
          exact absurd (hkept.symm.trans hend) (by rw [latch, hbegin]; decide)
      · exact absurd (hafter.symm.trans hend) (by rw [latch, hbegin]; decide)

/-! ## A policy session that is bound to an object -/

/-- An object with dictionary-attack protection. -/
def protectedObject : ObjectSlot where
  userWithAuth := true
  adminWithPolicy := false
  noDA := false
  publicOnly := false
  isSequence := false
  hierarchy := TPM_RH_OWNER
  nameAlg := 0x0B
  name := [1]
  authValue := [2]
  authPolicy := []

/-- A TPM with that object, and with a lockout policy that holds without any assertion. -/
def lockoutPolicy (enabled : Bool) : Tpm :=
  { unowned with
    da := { unowned.da with gp := { unowned.da.gp with lockOutAuthEnabled := enabled } }
    objects := fun handle => if handle = TRANSIENT_FIRST then some protectedObject else none
    lockout := ⟨[3], [0], 0x0B⟩ }

/-- The same with a policy session that is bound to `bind`. -/
def lockoutSession (enabled : Bool) (bind : TpmHandle) : Tpm :=
  { lockoutPolicy enabled with
    sessions := fun handle =>
      if handle = 0 then
        some (sessionCreate sumCrypto (lockoutPolicy enabled) .TPM_SE_POLICY 0x0B false bind []
          [4] [5])
      else none }

/-- A command that is authorized by `TPM_RH_LOCKOUT` with that session, with an HMAC that is
wrong. -/
def wrongHmac : Request where
  code := 0x126
  handles := [TPM_RH_LOCKOUT]
  parameters := []
  sessions := [⟨0x03000000, [], 0, [0]⟩]
  associatedHandles := [TPM_RH_LOCKOUT]

theorem lockout_latch_consistent_unbound :
    LatchConsistent userRole wrongHmac 0 (lockoutSession true TPM_RH_NULL) :=
  (lockout_latch_consistent_iff userRole wrongHmac 0 (lockoutSession true TPM_RH_NULL)
    fun _ => ⟨_, rfl, lockoutBound_sessionCreate _ _ _ _ _ _ _ _ _⟩).mpr <| by
      rintro ⟨-, -, ⟨session, hs, hda, -, -⟩, -⟩
      obtain rfl := Option.some.inj hs
      cases hda

/-- Bound to the object, the session disables lockoutAuth, which has no part in it; and where it
is disabled already, it puts the TPM into failure mode. -/
theorem lockout_latch_misdirected :
    (lockoutSession true TRANSIENT_FIRST).da.gp.lockOutAuthEnabled = true ∧
    (checkSession userRole wrongHmac 0
      (lockoutSession true TRANSIENT_FIRST)).2.da.gp.lockOutAuthEnabled = false ∧
    ¬LockoutTakesPart wrongHmac 0 (lockoutSession true TRANSIENT_FIRST) ∧
    (lockoutSession false TRANSIENT_FIRST).da.inFailureMode = false ∧
    (checkSession userRole wrongHmac 0
      (lockoutSession false TRANSIENT_FIRST)).2.da.inFailureMode = true := by
  refine ⟨rfl, by decide +kernel, ?_, rfl, by decide +kernel⟩
  rintro (⟨hpw, -⟩ | ⟨-, session, hs, htook⟩)
  · cases hpw
  · obtain rfl := Option.some.inj hs
    obtain hbound | ⟨-, huses⟩ := htook
    · exact absurd hbound (by decide)
    · unfold UsesAuth at huses
      rw [if_pos (by decide)] at huses
      exact absurd huses (by decide)

end RfTpm.Auth
