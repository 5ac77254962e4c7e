import RfTpm.Da.Frame
import RfTpm.Auth.CheckAuth
import RfTpm.Auth.Tighten

/-!
# Every handle that needs an authorization has one

If `ExecuteCommand()` calls the dispatcher, each handle of the command that has a role was
authorized in the course of the request: there is a session at its position, associated with
it, that `CheckAuthSession()` has accepted (`dispatched_authorized`).

`Authorizes` says what that acceptance comes to: the authValue was given as a password, an
HMAC was given, or a policy session with all its conditions met.  Three things are not what
one may expect, all of them on purpose.  A handle of a firmware- or SVN-limited hierarchy is
authorized as the hierarchy it limits; the key of the HMAC leaves out the authValue of an
entity that the session is bound to; and with an empty key no HMAC has to be given at all
(`dispatched_null_hmac`).
-/

namespace RfTpm.Auth

open Fallible List

/-! ## What an authorization is -/

section

variable (x : Context) (r : Request) (i : ℕ) (t : Tpm)

/-- What the session gives is compared as a password. -/
def GivesPassword : Prop :=
  r.sessionHandle i = TPM_RS_PW ∨
    ∃ session, t.sessionGet (r.sessionHandle i) = some session ∧
      session.attributes.isPasswordNeeded = true

/-- The authValue of the entity was given as a password. -/
def ByPassword : Prop :=
  GivesPassword r i t ∧
    ∃ authValue, findAuthValue t (r.associatedHandle i) = some authValue ∧
      removeTrailingZeros (r.session i).hmac = removeTrailingZeros authValue

/-- The session is bound to the entity. -/
def IsBoundTo (session : Session) : Prop :=
  session.attributes.isBound = true ∧
    boundEntity (entityGetName t (r.associatedHandle i))
        (entityAuthValue t (r.associatedHandle i)) =
      session.u1

/-- The key that authorizes the entity: without its authValue if the session is bound to it. -/
def IsAuthKey (session : Session) (key : Bytes) : Prop :=
  (¬IsBoundTo r i t session ∧
      key = session.sessionKey ++ entityAuthValue t (r.associatedHandle i)) ∨
    (IsBoundTo r i t session ∧ key = session.sessionKey)

/-- An HMAC over the request under the key was given; an empty one if the key is empty. -/
def GivesHmac (session : Session) (key : Bytes) : Prop :=
  (r.session i).hmac = x.crypto.hmac session.authHashAlg key (hmacData x r i t session) ∨
    (key = [] ∧ (r.session i).hmac = [])

/-- An HMAC under the key that authorizes the entity was given. -/
def ByHmac : Prop :=
  ∃ session key, t.sessionGet (r.sessionHandle i) = some session ∧
    (findAuthValue t (r.associatedHandle i)).isSome ∧ IsAuthKey r i t session key ∧
      GivesHmac x r i t session key

/-- What a session gives stands the comparison: the authValue as a password if it needs one,
and otherwise an HMAC, whose key may include the authValue. -/
def Gives (includeAuth : Bool) (session : Session) : Prop :=
  if session.attributes.isPasswordNeeded then
    removeTrailingZeros (r.session i).hmac = entityAuthValue t (r.associatedHandle i)
  else
    GivesHmac x r i t session
      (session.sessionKey ++ if includeAuth then entityAuthValue t (r.associatedHandle i) else [])

/-- The authPolicy of the entity was satisfied by a policy session, which has given the
authValue as well if `TPM2_PolicyPassword()` or `TPM2_PolicyAuthValue()` was part of it. -/
def ByPolicy : Prop :=
  ∃ session, t.sessionGet (r.sessionHandle i) = some session ∧
    session.attributes.isPolicy = true ∧ session.attributes.isTrialPolicy = false ∧
      Satisfied x.crypto (policyUse x r i t) session ∧
        Gives x r i t session.attributes.isAuthValueNeeded session

/-- In the state `t`, the `i`-th session authorizes the `i`-th handle. -/
structure Authorizes : Prop where
  session : i < r.sessions.length
  associated : r.handles[i]?.map hierarchyNormalizeHandle = some (r.associatedHandle i)
  accepted : (checkAuthSession x r i t).1 = .ok ()
  means : ByPassword r i t ∨ ByHmac x r i t ∨ ByPolicy x r i t

/-- `ExecuteCommand()` up to the call of `CheckAuthSession()` for the `i`-th session. -/
def beforeCheck {V : Type} (d : Dispatcher V) (request : Bytes) : AuthM Request := do
  let command ← loadHandles x d request
  let command ← .ofExcept (parseAuthSize command)
  let r ← retrieveSessions x command
  checkSessions x r i
  checkConsistency r i
  pure r

end

/-! ## Relations between states -/

/-- The loaded sessions are the same, `includeAuth` apart. -/
def SameSessions (t t' : Tpm) : Prop :=
  ∀ handle, (t'.sessions handle).map (withInclude false) =
    (t.sessions handle).map (withInclude false)

/-- Only the dictionary-attack state has changed, and of that nothing a comparison depends
on. -/
structure Still (t t' : Tpm) : Prop where
  state : t' = { t with da := t'.da }
  nvStatus : t'.da.nvStatus = t.da.nvStatus
  time : t'.da.time = t.da.time
  timeEpoch : t'.da.gp.timeEpoch = t.da.gp.timeEpoch

/-- The same, but `includeAuth` of the sessions may have changed as well. -/
structure Quiet (t t' : Tpm) : Prop where
  state : t' = { t with da := t'.da, sessions := t'.sessions }
  nvStatus : t'.da.nvStatus = t.da.nvStatus
  time : t'.da.time = t.da.time
  timeEpoch : t'.da.gp.timeEpoch = t.da.gp.timeEpoch
  sessions : SameSessions t t'

instance : IsPreorder Tpm SameSessions where
  refl _ _ := rfl
  trans _ _ _ h h' handle := (h' handle).trans (h handle)

instance : IsPreorder Tpm Still where
  refl _ := ⟨rfl, rfl, rfl, rfl⟩
  trans _ _ _ h h' :=
    ⟨by rw [h'.state, h.state], h'.nvStatus.trans h.nvStatus, h'.time.trans h.time,
      h'.timeEpoch.trans h.timeEpoch⟩

instance : IsPreorder Tpm Quiet where
  refl _ := ⟨rfl, rfl, rfl, rfl, refl _⟩
  trans _ b _ h h' :=
    ⟨by rw [h'.state, h.state], h'.nvStatus.trans h.nvStatus, h'.time.trans h.time,
      h'.timeEpoch.trans h.timeEpoch, IsTrans.trans _ b _ h.sessions h'.sessions⟩

variable {t t' : Tpm} {handle slot : TpmHandle} {x : Context} {code i sessionNum : ℕ}
  {command command' : Command} {r : Request} {request : Bytes}

lemma sameSessions_of_eq (h : t'.sessions = t.sessions) : SameSessions t t' := by
  intro handle
  rw [h]

namespace Still

variable {t t' : Tpm} (h : Still t t')

include h

lemma sessions : t'.sessions = t.sessions := by rw [h.state]

lemma sessionGet (handle : TpmHandle) : t'.sessionGet handle = t.sessionGet handle := by
  unfold Tpm.sessionGet
  rw [h.sessions]

lemma quiet : Quiet t t' :=
  ⟨by rw [h.sessions]; exact h.state, h.nvStatus, h.time, h.timeEpoch,
    sameSessions_of_eq h.sessions⟩

end Still

lemma sameSessions_modifySession (handle : TpmHandle) (b : Bool) (t : Tpm) :
    SameSessions t (t.modifySession handle (withInclude b)) := by
  intro h
  unfold Tpm.modifySession
  by_cases heq : h = handle &&& HR_HANDLE_MASK
  · subst heq
    simp only [Function.update_self, Tpm.sessionGet, Option.map_map]
    rfl
  · simp only [Function.update_of_ne heq]

lemma quiet_modifySession (handle : TpmHandle) (b : Bool) (t : Tpm) :
    Quiet t (t.modifySession handle (withInclude b)) :=
  ⟨rfl, rfl, rfl, rfl, sameSessions_modifySession handle b t⟩

lemma SameSessions.get (h : SameSessions t t') {session : Session}
    (hs : t.sessionGet handle = some session) :
    ∃ session', t'.sessionGet handle = some session' ∧
      withInclude false session' = withInclude false session := by
  have hmap := h (handle &&& HR_HANDLE_MASK)
  have hsome : t.sessions (handle &&& HR_HANDLE_MASK) = some session := hs
  rw [hsome, Option.map_some, Option.map_eq_some_iff] at hmap
  exact hmap

lemma SameSessions.map (h : SameSessions t t') (handle : TpmHandle) {α : Type} {f : Session → α}
    (hf : ∀ session, f (withInclude false session) = f session) :
    (t'.sessionGet handle).map f = (t.sessionGet handle).map f := by
  have hmap := congrArg (Option.map f) (h (handle &&& HR_HANDLE_MASK))
  rw [Option.map_map, Option.map_map] at hmap
  have hcomp : f ∘ withInclude false = f := funext hf
  rw [hcomp] at hmap
  exact hmap

namespace Quiet

variable {t t' : Tpm} (h : Quiet t t') (x : Context) (r : Request) (i : ℕ)

include h

lemma entityGetName (handle : TpmHandle) :
    Auth.entityGetName t' handle = Auth.entityGetName t handle := by
  rw [h.state]
  rfl

lemma findAuthValue (handle : TpmHandle) :
    Auth.findAuthValue t' handle = Auth.findAuthValue t handle := by
  rw [h.state]
  rfl

lemma entityAuthValue (handle : TpmHandle) :
    Auth.entityAuthValue t' handle = Auth.entityAuthValue t handle := by
  unfold Auth.entityAuthValue
  rw [h.findAuthValue]

lemma policyUse : Auth.policyUse x r i t' = Auth.policyUse x r i t := by
  unfold Auth.policyUse
  rw [h.nvStatus, h.time, h.timeEpoch, h.state]
  rfl

lemma extraNonces : Auth.extraNonces r i t' = Auth.extraNonces r i t := by
  have hnonce (handle : TpmHandle) : (t'.sessionGet handle).map Session.nonceTPM =
      (t.sessionGet handle).map Session.nonceTPM := h.sessions.map handle fun _ => rfl
  have hindex (index : Option ℕ) :
      (index.bind fun n => t'.sessionGet (r.sessionHandle n)).map Session.nonceTPM =
        (index.bind fun n => t.sessionGet (r.sessionHandle n)).map Session.nonceTPM := by
    cases index with
    | none => rfl
    | some n => exact hnonce _
  unfold Auth.extraNonces
  simp only [hindex]

lemma hmacData {session session' : Session}
    (hs : withInclude false session' = withInclude false session) :
    Auth.hmacData x r i t' session' = Auth.hmacData x r i t session := by
  have halg : session'.authHashAlg = session.authHashAlg := (congrArg Session.authHashAlg hs :)
  have hnonce : session'.nonceTPM = session.nonceTPM := (congrArg Session.nonceTPM hs :)
  unfold Auth.hmacData
  rw [h.policyUse, h.extraNonces, halg, hnonce]

lemma gives {session : Session} {b includeAuth : Bool}
    (hgives : Gives x r i t' includeAuth (withInclude b session)) :
    Gives x r i t includeAuth session := by
  have hdata : Auth.hmacData x r i t' (withInclude b session) = Auth.hmacData x r i t session :=
    h.hmacData x r i rfl
  unfold Gives GivesHmac at hgives ⊢
  rw [h.entityAuthValue, hdata] at hgives
  exact hgives

end Quiet

/-! ## What session processing keeps -/

/-- A relation that a failed assertion does not break. -/
class KeptByFail (R : Tpm → Tpm → Prop) : Prop extends IsPreorder Tpm R where
  fail (t : Tpm) : R t t.fail

/-- A relation that a check for lockout does not break either.  Up to the comparison, session
processing does nothing else to the state but set `includeAuth`. -/
class KeptByChecks (R : Tpm → Tpm → Prop) : Prop extends KeptByFail R where
  lockedOut (lockoutAuthCheck : Bool) : Keeps R (checkLockedOut lockoutAuthCheck)

lemma keeps_stopUnless {R : Tpm → Tpm → Prop} [IsPreorder Tpm R] (rc : TpmRc) :
    Keeps R (stopUnless rc) := keeps_stopIf _ _

instance : KeptByChecks Still where
  fail _ := ⟨rfl, rfl, rfl, rfl⟩
  lockedOut lockoutAuthCheck := by
    refine keeps_bind (fun t => ⟨rfl, ?_, ?_, ?_⟩) fun rc => keeps_stopUnless rc
    all_goals
      unfold run Da.checkLockedOut Da.writePending
      dsimp only
      split_ifs <;> rfl

instance : KeptByChecks SameSessions where
  fail _ _ := rfl
  lockedOut b t := sameSessions_of_eq (KeptByChecks.lockedOut (R := Still) b t).sessions

section

variable (x : Context) (r : Request) (i : ℕ) {R : Tpm → Tpm → Prop} [KeptByFail R]

lemma keeps_getSession (handle : TpmHandle) : Keeps R (getSession handle) := by
  intro t
  unfold getSession run
  dsimp only
  split
  · exact refl t
  · exact KeptByFail.fail t

lemma keeps_entityGetAuthValue (handle : TpmHandle) : Keeps R (entityGetAuthValue handle) := by
  intro t
  unfold entityGetAuthValue run
  dsimp only
  split
  · exact KeptByFail.fail t
  · exact refl t

lemma keeps_isSessionBindEntity (handle : TpmHandle) (session : Session) :
    Keeps R (isSessionBindEntity handle session) :=
  keeps_ite
    (keeps_bind (keeps_entityGetAuthValue _) fun _ =>
      keeps_bind (keeps_gets _) fun _ => keeps_pure _)
    (keeps_pure _)

lemma keeps_usesAuthValue (session : Session) : Keeps R (usesAuthValue r i session) :=
  keeps_ite (keeps_pure _) <|
    keeps_bind (keeps_isSessionBindEntity _ session) fun _ => keeps_pure _

lemma keeps_setIncludeAuth
    (hinclude : ∀ handle b t, R t (t.modifySession handle (withInclude b))) :
    Keeps R (setIncludeAuth r i) :=
  keeps_ite (keeps_pure _) <|
    keeps_bind (keeps_getSession _) fun session =>
      keeps_bind (keeps_usesAuthValue r i session) fun b =>
        keeps_bind (fun t => hinclude _ b t) fun _ => keeps_pure _

lemma keeps_checkPresence : Keeps R (checkPresence x r i) :=
  keeps_bind (keeps_gets _) fun _ => keeps_stopIf _ _

lemma keeps_checkAvailable : Keeps R (checkAvailable x r i) :=
  keeps_bind (keeps_gets _) fun _ =>
    keeps_ite (keeps_bind (keeps_stopIf _ _) fun _ => keeps_stopIf _ _)
      (keeps_bind (keeps_stopIf _ _) fun _ =>
        keeps_bind (keeps_getSession _) fun _ => keeps_stopUnless _)

lemma keeps_includedAuthValue (session : Session) : Keeps R (includedAuthValue r i session) :=
  keeps_ite (keeps_entityGetAuthValue _) (keeps_pure _)

lemma keeps_computeCommandHMAC (session : Session) :
    Keeps R (computeCommandHMAC x r i session) :=
  keeps_bind (keeps_includedAuthValue r i session) fun _ =>
    keeps_bind (keeps_gets _) fun _ => keeps_pure _

lemma nvWritePinCount_same (handle : TpmHandle) (pinCount : UInt32) (t : Tpm) :
    (nvWritePinCount handle pinCount t).2.sessions = t.sessions ∧
      (nvWritePinCount handle pinCount t).2.da.gp = t.da.gp := by
  unfold nvWritePinCount
  split
  · exact ⟨rfl, rfl⟩
  · dsimp only
    split_ifs <;> exact ⟨rfl, rfl⟩

lemma keeps_countPin (hwrite : ∀ handle pinCount t, R t (nvWritePinCount handle pinCount t).2)
    (authUsed : Bool) (result : TpmRc) : Keeps R (countPin r i authUsed result) := by
  intro t
  unfold countPin Fallible.modify
  dsimp only
  split
  · split
    · exact KeptByFail.fail t
    · split_ifs
      all_goals first | exact hwrite _ _ t | exact refl t
  · exact refl t

end

section

variable (x : Context) (r : Request) (i : ℕ) {R : Tpm → Tpm → Prop} [KeptByChecks R]

lemma keeps_checkLockout (authUsed : Bool) : Keeps R (checkLockout r i authUsed) :=
  keeps_bind (keeps_gets _) fun _ => keeps_ite (KeptByChecks.lockedOut _) (keeps_pure _)

lemma keeps_checkConsistency : Keeps R (checkConsistency r i) :=
  keeps_ite (keeps_bind (keeps_stopIf _ _) fun _ => keeps_stopIf _ _) <|
    keeps_bind (keeps_getSession _) fun _ =>
      keeps_bind (keeps_stopIf _ _) fun _ => keeps_ite (KeptByChecks.lockedOut _) (keeps_pure _)

lemma sameSessions_incrementLockout : Keeps SameSessions (incrementLockout r i) :=
  fun _ => sameSessions_of_eq rfl

lemma sameSessions_checkPWAuthSession : Keeps SameSessions (checkPWAuthSession r i) :=
  keeps_bind (keeps_entityGetAuthValue _) fun _ =>
    keeps_ite (keeps_pure _) (sameSessions_incrementLockout r i)

lemma sameSessions_checkSessionHMAC : Keeps SameSessions (checkSessionHMAC x r i) :=
  keeps_bind (keeps_getSession _) fun session =>
    keeps_bind (keeps_computeCommandHMAC x r i session) fun _ =>
      keeps_ite (keeps_pure _) (sameSessions_incrementLockout r i)

lemma sameSessions_compareAuth : Keeps SameSessions (compareAuth x r i) :=
  keeps_ite (sameSessions_checkPWAuthSession r i) <|
    keeps_bind (keeps_getSession _) fun _ =>
      keeps_ite (sameSessions_checkPWAuthSession r i) (sameSessions_checkSessionHMAC x r i)

lemma sameSessions_checkAuthSession : Keeps SameSessions (checkAuthSession x r i) :=
  keeps_bind (keeps_checkPresence x r i) fun _ =>
    keeps_bind (keeps_setIncludeAuth r i sameSessions_modifySession) fun authUsed =>
      keeps_bind (keeps_checkLockout r i authUsed) fun _ =>
        keeps_bind (keeps_checkAvailable x r i) fun _ =>
          keeps_bind (sameSessions_compareAuth x r i) fun result =>
            keeps_bind (keeps_countPin r i (fun handle n t => sameSessions_of_eq
              (nvWritePinCount_same handle n t).1) authUsed result) fun _ => keeps_stopUnless _

lemma sameSessions_checkOtherSession : Keeps SameSessions (checkOtherSession x r i) :=
  keeps_bind (keeps_stopIf _ _) fun _ =>
    keeps_bind (fun t => sameSessions_modifySession _ _ t) fun _ =>
      keeps_bind (sameSessions_checkSessionHMAC x r i) fun _ => keeps_stopUnless _

lemma sameSessions_checkSession : Keeps SameSessions (checkSession x r i) :=
  keeps_bind (keeps_checkConsistency r i) fun _ =>
    keeps_ite (keeps_mapError (sameSessions_checkAuthSession x r i))
      (sameSessions_checkOtherSession x r i)

lemma sameSessions_checkSessions (n : ℕ) : Keeps SameSessions (checkSessions x r n) := by
  induction n with
  | zero => exact keeps_pure _
  | succ n ih => exact keeps_bind ih fun _ => sameSessions_checkSession x r n

end

/-! ## What an accepted session has given -/

section

variable {x : Context} {r : Request} {i : ℕ} {t t' : Tpm} {session : Session}

variable {u : Unit} {handle : TpmHandle} {authValue : Bytes}

lemma stopUnless_eq_ok {rc : TpmRc} (h : stopUnless rc t = (.ok u, t')) :
    rc = TPM_RC_SUCCESS ∧ t = t' := by
  obtain ⟨hrc, ht⟩ := stopIf_ok h
  exact ⟨not_not.mp hrc, ht⟩

lemma getSession_of_loaded (h : t.sessionGet handle = some session) :
    getSession handle t = (.ok session, t) := by
  unfold getSession run
  dsimp only
  rw [h]

lemma getSession_bind_ok {α : Type} {f : Session → AuthM α} {a : α}
    (hs : t.sessionGet handle = some session) (h : (getSession handle >>= f) t = (.ok a, t')) :
    f session t = (.ok a, t') := by
  obtain ⟨session', t₁, hget, h⟩ := bind_ok h
  rw [getSession_of_loaded hs] at hget
  obtain ⟨hsession, ht⟩ := Prod.mk.inj hget
  rw [Except.ok.inj hsession, ht]
  exact h

lemma gets_bind_ok {α β : Type} {g : Tpm → β} {f : β → AuthM α} {a : α}
    (h : ((gets g : AuthM β) >>= f) t = (.ok a, t')) : f (g t) t = (.ok a, t') := by
  obtain ⟨b, t₁, hget, h⟩ := bind_ok h
  obtain ⟨rfl, rfl⟩ := gets_ok hget
  exact h

lemma incrementLockout_ne {rc : TpmRc} (h : incrementLockout r i t = (.ok rc, t')) :
    rc ≠ TPM_RC_SUCCESS := by
  obtain ⟨rfl, -⟩ := Prod.mk.inj (run_ok h)
  exact Da.result_incrementLockout _ _ _

lemma entityGetAuthValue_ok (h : entityGetAuthValue handle t = (.ok authValue, t')) :
    authValue = entityAuthValue t handle := by
  obtain ⟨ha, -⟩ := Prod.mk.inj (run_ok h)
  exact ha.symm

lemma checkPWAuthSession_success
    (h : checkPWAuthSession r i t = (.ok TPM_RC_SUCCESS, t')) :
    removeTrailingZeros (r.session i).hmac = entityAuthValue t (r.associatedHandle i) := by
  obtain ⟨authValue, t₁, hget, h⟩ := bind_ok h
  rw [← entityGetAuthValue_ok hget]
  split at h
  · assumption
  · exact absurd rfl (incrementLockout_ne h)

lemma includedAuthValue_ok (h : includedAuthValue r i session t = (.ok authValue, t')) :
    authValue =
      if session.attributes.includeAuth then entityAuthValue t (r.associatedHandle i) else [] := by
  unfold includedAuthValue at h
  split at h
  · rw [if_pos ‹_›]
    exact entityGetAuthValue_ok h
  · rw [if_neg ‹_›]
    exact (pure_ok h).1.symm

lemma checkSessionHMAC_success (hs : t.sessionGet (r.sessionHandle i) = some session)
    (h : checkSessionHMAC x r i t = (.ok TPM_RC_SUCCESS, t')) :
    GivesHmac x r i t session (session.sessionKey ++
      if session.attributes.includeAuth then entityAuthValue t (r.associatedHandle i) else []) := by
  have h := getSession_bind_ok hs h
  obtain ⟨hmac, t₁, hcompute, h⟩ := bind_ok h
  have hequal : (r.session i).hmac = hmac := by
    split at h
    · assumption
    · exact absurd rfl (incrementLockout_ne h)
  obtain ⟨authValue, t₂, hincluded, hcompute⟩ := bind_ok hcompute
  have hstill : Still t t₂ := (keeps_includedAuthValue r i session).of_run hincluded
  obtain ⟨hhmac, -⟩ := pure_ok hcompute
  rw [includedAuthValue_ok hincluded] at hhmac
  generalize (session.sessionKey ++
    if session.attributes.includeAuth then entityAuthValue t (r.associatedHandle i) else []) = key
    at hhmac ⊢
  have hdata : hmacData x r i t₂ session = hmacData x r i t session :=
    hstill.quiet.hmacData x r i rfl
  split_ifs at hhmac with hempty
  · exact .inr ⟨length_eq_zero_iff.1 hempty.1, length_eq_zero_iff.1 hempty.2⟩
  · refine .inl ?_
    rw [hequal, ← hhmac, ← hdata]
    rfl

lemma compareAuth_success (hpw : r.sessionHandle i ≠ TPM_RS_PW)
    (hs : t.sessionGet (r.sessionHandle i) = some session)
    (h : compareAuth x r i t = (.ok TPM_RC_SUCCESS, t')) :
    Gives x r i t session.attributes.includeAuth session := by
  unfold compareAuth at h
  rw [if_neg hpw] at h
  have h := getSession_bind_ok hs h
  unfold Gives
  split at h
  · rw [if_pos ‹_›]
    exact checkPWAuthSession_success h
  · rw [if_neg ‹_›]
    exact checkSessionHMAC_success hs h

lemma isSessionBindEntity_ok {b : Bool}
    (h : isSessionBindEntity (r.associatedHandle i) session t = (.ok b, t')) :
    b = true ↔ IsBoundTo r i t session := by
  unfold isSessionBindEntity at h
  unfold IsBoundTo
  split at h
  · obtain ⟨authValue, t₁, hget, h⟩ := bind_ok h
    have hstill : Still t t₁ := (keeps_entityGetAuthValue _).of_run hget
    obtain ⟨hb, -⟩ := pure_ok h
    rw [← hb, entityGetAuthValue_ok hget, id, hstill.quiet.entityGetName, beq_iff_eq]
    exact ⟨fun heq => ⟨‹_›, heq⟩, fun hbound => hbound.2⟩
  · obtain ⟨hb, -⟩ := pure_ok h
    rw [← hb]
    exact ⟨nofun, fun hbound => absurd hbound.1 ‹_›⟩

lemma setIncludeAuth_ok {b : Bool} (hpw : r.sessionHandle i ≠ TPM_RS_PW)
    (hs : t.sessionGet (r.sessionHandle i) = some session)
    (h : setIncludeAuth r i t = (.ok b, t')) :
    Quiet t t' ∧
      t'.sessionGet (r.sessionHandle i) = some (withInclude b session) ∧
      if handleGetType (r.sessionHandle i) = TPM_HT_POLICY_SESSION then
        b = (session.attributes.isAuthValueNeeded || session.attributes.isPasswordNeeded)
      else (b = true ↔ ¬IsBoundTo r i t session) := by
  unfold setIncludeAuth at h
  rw [if_neg hpw] at h
  have h := getSession_bind_ok hs h
  obtain ⟨b', t₁, huses, h⟩ := bind_ok h
  have hstill : Still t t₁ := (keeps_usesAuthValue r i session).of_run huses
  obtain ⟨u, t₂, hmodify, h⟩ := bind_ok h
  obtain ⟨rfl, rfl⟩ := pure_ok h
  have hstate := modify_ok hmodify
  refine ⟨?_, ?_, ?_⟩
  · rw [← hstate]
    exact IsTrans.trans _ _ _ hstill.quiet (quiet_modifySession _ b' t₁)
  · rw [← hstate]
    unfold Tpm.modifySession
    rw [hstill.sessionGet, hs]
    simp [Tpm.sessionGet]
  · unfold usesAuthValue at huses
    split_ifs at huses ⊢
    · exact (pure_ok huses).1.symm
    · obtain ⟨bound, t₃, hbound, huses⟩ := bind_ok huses
      obtain ⟨rfl, -⟩ := pure_ok huses
      rw [← isSessionBindEntity_ok hbound]
      simp

lemma findAuthValue_of_available (h : isAuthValueAvailable x r i t = true) :
    (findAuthValue t (r.associatedHandle i)).isSome := by
  unfold isAuthValueAvailable at h
  unfold findAuthValue
  dsimp only at h ⊢
  split_ifs at h with hpermanent htransient hnv
  · rw [if_pos hpermanent]
    simp only [Bool.or_eq_true, beq_iff_eq] at h
    obtain (((h | h) | h) | h) | h := h
    all_goals
      rw [h]
      rfl
  · rw [if_neg hpermanent, if_pos htransient]
    cases hobject : t.objects (r.associatedHandle i) with
    | none => simp [hobject] at h
    | some object =>
      rw [hobject] at h
      simp only [Option.map_some, Option.getD_some, isObjectAuthAvailable, Bool.or_eq_true,
        Bool.and_eq_true] at h
      dsimp only
      split_ifs with hpublic
      · simp_all
      · rfl
  · rw [if_neg hpermanent, if_neg htransient, if_pos hnv]
    cases hindex : t.nvIndices (r.associatedHandle i) with
    | none => simp [hindex] at h
    | some nvIndex => rfl
  · rw [if_neg hpermanent, if_neg htransient, if_neg hnv, if_pos (beq_iff_eq.1 h)]
    rfl

lemma checkAvailable_authValue (htype : handleGetType (r.sessionHandle i) ≠ TPM_HT_POLICY_SESSION)
    (h : checkAvailable x r i t = (.ok u, t')) :
    (findAuthValue t (r.associatedHandle i)).isSome := by
  have h := gets_bind_ok h
  rw [if_pos htype] at h
  obtain ⟨_, t₁, hrequired, h⟩ := bind_ok h
  obtain ⟨havailable, -⟩ := stopIf_ok h
  refine findAuthValue_of_available (x := x) ?_
  simpa using havailable

lemma checkAvailable_policy (htype : handleGetType (r.sessionHandle i) = TPM_HT_POLICY_SESSION)
    (hs : t.sessionGet (r.sessionHandle i) = some session)
    (h : checkAvailable x r i t = (.ok u, t')) :
    Satisfied x.crypto (policyUse x r i t) session := by
  have h := gets_bind_ok h
  rw [if_neg (not_not.mpr htype)] at h
  obtain ⟨_, t₁, havailable, h⟩ := bind_ok h
  obtain ⟨-, rfl⟩ := stopIf_ok havailable
  have h := getSession_bind_ok hs h
  exact checkPolicyAuthSession_satisfied (stopUnless_eq_ok h).1

lemma removeTrailingZeros_authValue (h : findAuthValue t handle = some authValue) :
    removeTrailingZeros authValue = entityAuthValue t handle := by
  unfold entityAuthValue
  rw [h]
  rfl

/-- What was tested of a session when it was retrieved and before its check. -/
def Usable (r : Request) (i : ℕ) (t : Tpm) : Prop :=
  r.sessionHandle i ≠ TPM_RS_PW →
    ∃ session, t.sessionGet (r.sessionHandle i) = some session ∧
      (handleGetType (r.sessionHandle i) = TPM_HT_POLICY_SESSION →
        session.attributes.isPolicy = true) ∧
      session.attributes.isTrialPolicy = false

/-- The comparison that `CheckAuthSession()` arrives at, in a state that differs from the one
it was called in by `includeAuth` at most, and what it has established before. -/
lemma checkAuthSession_compared (h : checkAuthSession x r i t = (.ok u, t')) :
    ∃ b t₁ t₂ t₃, setIncludeAuth r i t = (.ok b, t₁) ∧ Still t₁ t₂ ∧
      (∃ v t₄, checkAvailable x r i t₂ = (.ok v, t₄) ∧ Still t₂ t₄ ∧
        compareAuth x r i t₄ = (.ok TPM_RC_SUCCESS, t₃)) := by
  obtain ⟨_, t₀, hpresence, h⟩ := bind_ok h
  obtain ⟨-, rfl⟩ := stopIf_ok hpresence
  obtain ⟨b, t₁, hset, h⟩ := bind_ok h
  obtain ⟨_, t₂, hlockout, h⟩ := bind_ok h
  obtain ⟨v, t₄, havailable, h⟩ := bind_ok h
  obtain ⟨result, t₃, hcompare, h⟩ := bind_ok h
  obtain ⟨_, t₅, -, h⟩ := bind_ok h
  obtain ⟨rfl, -⟩ := stopUnless_eq_ok h
  exact ⟨b, t₁, t₂, t₃, hset, (keeps_checkLockout r i b).of_run hlockout, v, t₄, havailable,
    (keeps_checkAvailable x r i).of_run havailable, hcompare⟩

lemma byPassword_of_accepted (hpw : r.sessionHandle i = TPM_RS_PW)
    (h : checkAuthSession x r i t = (.ok u, t')) : ByPassword r i t := by
  obtain ⟨b, t₁, t₂, t₃, hset, hstill₂, v, t₄, havailable, hstill₄, hcompare⟩ :=
    checkAuthSession_compared h
  have ht₁ : t = t₁ := by
    unfold setIncludeAuth at hset
    rw [if_pos hpw] at hset
    exact (pure_ok hset).2
  subst ht₁
  have hquiet : Quiet t t₄ := (IsTrans.trans _ _ _ hstill₂ hstill₄ : Still t t₄).quiet
  have htype : handleGetType (r.sessionHandle i) ≠ TPM_HT_POLICY_SESSION := by
    rw [hpw]
    decide
  have hsome := checkAvailable_authValue htype havailable
  rw [hstill₂.quiet.findAuthValue] at hsome
  obtain ⟨authValue, hfind⟩ := Option.isSome_iff_exists.1 hsome
  unfold compareAuth at hcompare
  rw [if_pos hpw] at hcompare
  refine ⟨.inl hpw, authValue, hfind, ?_⟩
  rw [checkPWAuthSession_success hcompare, removeTrailingZeros_authValue hfind,
    hquiet.entityAuthValue]

lemma means_of_accepted (husable : Usable r i t) (h : checkAuthSession x r i t = (.ok u, t')) :
    ByPassword r i t ∨ ByHmac x r i t ∨ ByPolicy x r i t := by
  by_cases hpw : r.sessionHandle i = TPM_RS_PW
  · exact .inl (byPassword_of_accepted hpw h)
  obtain ⟨session, hs, hpolicy, htrial⟩ := husable hpw
  obtain ⟨b, t₁, t₂, t₃, hset, hstill₂, v, t₄, havailable, hstill₄, hcompare⟩ :=
    checkAuthSession_compared h
  obtain ⟨hquiet₁, hs₁, hinclude⟩ := setIncludeAuth_ok hpw hs hset
  have hquiet₂ : Quiet t t₂ := IsTrans.trans _ _ _ hquiet₁ hstill₂.quiet
  have hquiet₄ : Quiet t t₄ := IsTrans.trans _ _ _ hquiet₂ hstill₄.quiet
  rw [← hstill₂.sessionGet] at hs₁
  have hgives : Gives x r i t b session :=
    hquiet₄.gives x r i (compareAuth_success hpw (hstill₄.sessionGet _ ▸ hs₁) hcompare)
  unfold Gives at hgives
  by_cases htype : handleGetType (r.sessionHandle i) = TPM_HT_POLICY_SESSION
  case pos =>
    rw [if_pos htype] at hinclude
    have hsatisfied := checkAvailable_policy htype hs₁ havailable
    rw [hquiet₂.policyUse] at hsatisfied
    refine .inr (.inr ⟨session, hs, hpolicy htype, htrial, { hsatisfied with }, ?_⟩)
    unfold Gives
    by_cases hneeded : session.attributes.isPasswordNeeded = true
    · rwa [if_pos hneeded] at hgives ⊢
    · simpa [hinclude, hneeded] using hgives
  case neg =>
    rw [if_neg htype] at hinclude
    have hsome := checkAvailable_authValue htype havailable
    rw [hquiet₂.findAuthValue] at hsome
    by_cases hneeded : session.attributes.isPasswordNeeded = true
    · -- an HMAC session never has this attribute, but nothing here depends on that
      obtain ⟨authValue, hfind⟩ := Option.isSome_iff_exists.1 hsome
      refine .inl ⟨.inr ⟨session, hs, hneeded⟩, authValue, hfind, ?_⟩
      rw [removeTrailingZeros_authValue hfind]
      rwa [if_pos hneeded] at hgives
    · rw [if_neg hneeded] at hgives
      refine .inr (.inl ⟨session, _, hs, hsome, ?_, hgives⟩)
      split_ifs with hb
      · exact .inl ⟨hinclude.1 hb, rfl⟩
      · exact .inr ⟨not_not.mp fun hnot => hb (hinclude.2 hnot), append_nil _⟩

end

/-! ## Handles -/

lemma normalize_ne_unassigned (h : handle ≠ TPM_RH_UNASSIGNED) :
    hierarchyNormalizeHandle handle ≠ TPM_RH_UNASSIGNED := by
  unfold hierarchyNormalizeHandle decomposeHandle
  dsimp only
  split_ifs
  all_goals dsimp only
  all_goals first | exact h | decide

lemma ne_unassigned_of_type (h : handleGetType handle ≠ TPM_HT_PERMANENT) :
    handle ≠ TPM_RH_UNASSIGNED := by
  rintro rfl
  exact h (by decide)

lemma normalize_of_permanent (h : permanentStatus x t handle = TPM_RC_SUCCESS) :
    hierarchyNormalizeHandle handle ≠ TPM_RH_UNASSIGNED := by
  refine normalize_ne_unassigned ?_
  rintro rfl
  exact absurd h (by
    show ¬ TPM_RC_VALUE = TPM_RC_SUCCESS
    decide)

lemma findEmptyObjectSlot_type (h : findEmptyObjectSlot t = some slot) :
    handleGetType slot ≠ TPM_HT_PERMANENT := by
  obtain ⟨i, hi, rfl⟩ := mem_map.1 (mem_of_find?_eq_some h)
  have hi : i < 3 := mem_range.1 hi
  interval_cases i
  all_goals decide

lemma objectLoadEvict_ok (h : objectLoadEvict code handle t = (.ok slot, t')) :
    handleGetType slot ≠ TPM_HT_PERMANENT := by
  have h := gets_bind_ok h
  obtain ⟨_, t₁, -, h⟩ := bind_ok h
  dsimp only [id] at h
  cases hslot : findEmptyObjectSlot t with
  | none =>
    rw [hslot] at h
    cases h
  | some slot' =>
    cases hobject : t.persistent handle with
    | none =>
      rw [hslot, hobject] at h
      cases h
    | some object =>
      rw [hslot, hobject] at h
      obtain ⟨_, t₂, -, h⟩ := bind_ok h
      obtain ⟨_, t₃, -, h⟩ := bind_ok h
      obtain ⟨rfl, -⟩ := pure_ok h
      exact findEmptyObjectSlot_type hslot

lemma entityLoad_ok {handle' : TpmHandle} (h : entityLoad x code handle t = (.ok handle', t')) :
    hierarchyNormalizeHandle handle' ≠ TPM_RH_UNASSIGNED := by
  -- a check, whatever it is, that ends with the handle
  have hcheck {m : AuthM Unit} (hgoal : hierarchyNormalizeHandle handle ≠ TPM_RH_UNASSIGNED)
      (h : (m >>= fun _ => pure handle) t = (.ok handle', t')) :
      hierarchyNormalizeHandle handle' ≠ TPM_RH_UNASSIGNED := by
    obtain ⟨_, t₁, -, h⟩ := bind_ok h
    obtain ⟨rfl, -⟩ := pure_ok h
    exact hgoal
  have h := gets_bind_ok h
  by_cases hpersistent : handleGetType handle = TPM_HT_PERSISTENT
  · rw [if_pos hpersistent] at h
    exact normalize_ne_unassigned (ne_unassigned_of_type (objectLoadEvict_ok h))
  rw [if_neg hpersistent] at h
  by_cases hpermanent : handleGetType handle = TPM_HT_PERMANENT
  · rw [if_pos hpermanent] at h
    obtain ⟨_, t₁, hstatus, -⟩ := bind_ok h
    exact hcheck (normalize_of_permanent (stopUnless_eq_ok hstatus).1) h
  rw [if_neg hpermanent] at h
  have hgoal : hierarchyNormalizeHandle handle ≠ TPM_RH_UNASSIGNED :=
    normalize_ne_unassigned (ne_unassigned_of_type hpermanent)
  split_ifs at h
  any_goals exact hcheck hgoal h
  · obtain ⟨rfl, -⟩ := pure_ok h
    exact hgoal
  · cases h

lemma entityGetLoadStatus_ok {handles loaded : List TpmHandle}
    (h : entityGetLoadStatus x code i handles t = (.ok loaded, t')) :
    ∀ handle ∈ loaded, hierarchyNormalizeHandle handle ≠ TPM_RH_UNASSIGNED := by
  induction handles generalizing i t t' loaded with
  | nil =>
    obtain ⟨rfl, -⟩ := pure_ok h
    simp
  | cons handle handles ih =>
    obtain ⟨first, t₁, hfirst, h⟩ := bind_ok h
    obtain ⟨rest, t₂, hrest, h⟩ := bind_ok h
    obtain ⟨rfl, -⟩ := pure_ok h
    intro loaded' hmem
    obtain rfl | hmem := mem_cons.1 hmem
    · exact entityLoad_ok (mapError_ok hfirst)
    · exact ih hrest loaded' hmem

/-! ## Sessions and handles -/

lemma authRole_lt (h : commandAuthRole x code i ≠ .none) : i < 2 := by
  match i, h with
  | 0, _ => decide
  | 1, _ => decide
  | n + 2, h => exact absurd rfl h

lemma lt_of_not_missing (hi : i < 2) (hpos : 0 < sessionNum) (hmax : sessionNum ≤ MAX_SESSION_NUM)
    (h : ¬ UInt32.ofNat i > UInt32.ofNat sessionNum - 1) : i < sessionNum := by
  have hmax : sessionNum ≤ 3 := hmax
  interval_cases sessionNum <;> interval_cases i <;> first | omega | exact absurd (by decide) h

lemma associateHandles_ok (hpos : 0 < sessionNum) (hmax : sessionNum ≤ MAX_SESSION_NUM)
    {handles : List TpmHandle} :
    ∀ {i : ℕ} {associated result : List TpmHandle}, associated.length = sessionNum →
      associateHandles x code sessionNum i associated handles = .ok result →
      (∀ k < i, result[k]? = associated[k]?) ∧
        ∀ j (hj : j < handles.length), commandAuthRole x code (i + j) ≠ .none →
          i + j < sessionNum ∧ result[i + j]? = some (hierarchyNormalizeHandle handles[j]) := by
  induction handles with
  | nil =>
    intro i associated result _ h
    obtain rfl := Except.ok.inj h
    exact ⟨fun _ _ => rfl, fun j hj => absurd hj (by simp)⟩
  | cons handle handles ih =>
    intro i associated result hlength h
    unfold associateHandles at h
    have hshift (j : ℕ) : i + (j + 1) = i + 1 + j := by omega
    split_ifs at h with hrole hmissing
    · obtain ⟨hbefore, hafter⟩ := ih hlength h
      refine ⟨fun k hk => hbefore k (by omega), fun j hj hj' => ?_⟩
      cases j with
      | zero => exact absurd hrole hj'
      | succ j => exact hshift j ▸ hafter j (by simpa using hj) (hshift j ▸ hj')
    · have hlt := lt_of_not_missing (authRole_lt hrole) hpos hmax hmissing
      obtain ⟨hbefore, hafter⟩ := ih (by simpa using hlength) h
      refine ⟨fun k hk => ?_, fun j hj hj' => ?_⟩
      · rw [hbefore k (by omega), getElem?_set_ne (by omega)]
      cases j with
      | zero =>
        refine ⟨hlt, ?_⟩
        rw [Nat.add_zero, hbefore i (by omega), getElem?_set_self (by omega)]
        rfl
      | succ j => exact hshift j ▸ hafter j (by simpa using hj) (hshift j ▸ hj')

/-- What is known of the sessions of a command before the first of them is checked. -/
structure Retrieved (x : Context) (command : Command) (r : Request) (t t' : Tpm) : Prop where
  code : r.code = command.code
  handles : r.handles = command.handles
  tested : ∀ i, r.sessionHandle i ≠ TPM_RS_PW → i < r.sessions.length →
    testSession x t command.code (r.sessions.take i) (r.session i) = TPM_RC_SUCCESS
  associated : ∀ i (hi : i < command.handles.length), commandAuthRole x command.code i ≠ .none →
    i < r.sessions.length ∧ r.associatedHandle i = hierarchyNormalizeHandle command.handles[i]
  still : Still t t'

lemma retrieveSessions_ok (hsize : 9 ≤ command.authSize)
    (hbuffer : command.authSize ≤ command.parameterBuffer.length)
    (h : retrieveSessions x command t = (.ok r, t')) : Retrieved x command r t t' := by
  obtain ⟨_, t₁, hallowed, h⟩ := bind_ok h
  obtain ⟨-, rfl⟩ := stopIf_ok hallowed
  have h := gets_bind_ok h
  obtain ⟨sessions, t₂, hretrieve, h⟩ := bind_ok h
  obtain ⟨hdata, rfl⟩ := ofExcept_ok hretrieve
  obtain ⟨_, t₃, hassert, h⟩ := bind_ok h
  obtain ⟨associated, t₄, hassociate, h⟩ := bind_ok h
  obtain ⟨hassociated, rfl⟩ := ofExcept_ok hassociate
  obtain ⟨rfl, rfl⟩ := pure_ok h
  obtain ⟨hmax, hne, htests⟩ := retrieveSessionData_ok hdata
  have harea : command.parameterBuffer.take command.authSize ≠ [] := by
    intro hnil
    have hlength := congrArg length hnil
    simp only [length_take, length_nil] at hlength
    omega
  have hpos : 0 < sessions.length := length_pos_iff.2 (hne harea)
  obtain ⟨-, hhandles⟩ := associateHandles_ok hpos hmax (by simp) hassociated
  constructor
  case code => rfl
  case handles => rfl
  case tested =>
    intro i _ hi
    have hsession : Request.session ⟨command.code, command.handles,
        command.parameterBuffer.drop command.authSize, sessions, associated⟩ i = sessions[i] :=
      getD_eq_getElem _ _ hi
    rw [hsession]
    exact htests i hi
  case associated =>
    intro i hi hrole
    obtain ⟨hlt, hget⟩ := hhandles i hi (by rwa [Nat.zero_add])
    rw [Nat.zero_add] at hlt hget
    refine ⟨hlt, ?_⟩
    show associated.getD i TPM_RH_UNASSIGNED = _
    rw [getD_eq_getElem?_getD, hget]
    rfl
  case still =>
    rw [← modify_ok hassert]
    unfold Da.Tpm.pAssert
    split <;> exact ⟨rfl, rfl, rfl, rfl⟩

lemma checkSessions_ok {n : ℕ} {u : Unit} (h : checkSessions x r n t = (.ok u, t')) (hi : i < n) :
    ∃ v t₁ t₂, checkSessions x r i t = (.ok (), t₁) ∧ checkSession x r i t₁ = (.ok v, t₂) := by
  induction n generalizing u t' with
  | zero => exact absurd hi (by omega)
  | succ n ih =>
    obtain ⟨v, t₁, hfirst, hlast⟩ := bind_ok h
    obtain hlt | rfl := Nat.lt_succ_iff_lt_or_eq.1 hi
    · exact ih hfirst hlt
    · exact ⟨u, t₁, t', hfirst, hlast⟩

lemma usable_of_tested {t₁ t₂ : Tpm} {u : Unit} {done : List AuthCommand}
    (htest : r.sessionHandle i ≠ TPM_RS_PW →
      testSession x t r.code done (r.session i) = TPM_RC_SUCCESS) (hsame : SameSessions t t₁)
    (hconsistent : checkConsistency r i t₁ = (.ok u, t₂)) : Usable r i t₂ := by
  intro hpw
  have htest := htest hpw
  unfold testSession at htest
  have hhandle : (r.session i).sessionHandle ≠ TPM_RS_PW := hpw
  rw [if_neg hhandle] at htest
  cases hs : t.sessionGet (r.session i).sessionHandle with
  | none =>
    rw [hs] at htest
    exact absurd htest (by simp [TPM_RC_REFERENCE_S0, TPM_RC_SUCCESS])
  | some loaded =>
    rw [hs] at htest
    obtain ⟨htype, -⟩ := ite_success (fun _ => by simp [TPM_RC_HANDLE, TPM_RC_SUCCESS]) htest
    obtain ⟨session, hs₁, hsession⟩ := hsame.get hs
    have hpolicy : session.attributes.isPolicy = loaded.attributes.isPolicy :=
      (congrArg (·.attributes.isPolicy) hsession :)
    have hstill : Still t₁ t₂ := (keeps_checkConsistency r i).of_run hconsistent
    refine ⟨session, ?_, ?_, ?_⟩
    · rw [hstill.sessionGet]
      exact hs₁
    · intro hpolicyType
      have hpolicyType : handleGetType (r.session i).sessionHandle = TPM_HT_POLICY_SESSION :=
        hpolicyType
      rw [hpolicy]
      simpa [isOfHandleType, hpolicyType, TPM_HT_POLICY_SESSION, TPM_HT_HMAC_SESSION] using htype
    · unfold checkConsistency at hconsistent
      rw [if_neg hpw] at hconsistent
      have hconsistent := getSession_bind_ok hs₁ hconsistent
      obtain ⟨_, t₃, htrial, -⟩ := bind_ok hconsistent
      simpa using (stopIf_ok htrial).1

lemma parseAuthSize_handles (h : parseAuthSize command = .ok command') :
    command'.handles = command.handles := by
  unfold parseAuthSize at h
  obtain ⟨⟨authSize, buffer⟩, -, h⟩ := Parsing.bind_eq_ok h
  obtain ⟨-, h⟩ := Parsing.throw_eq_ok h
  obtain rfl := Except.ok.inj h
  rfl

lemma parseSessionBuffer_ok (h : parseSessionBuffer x command t = (.ok command', t')) :
    command'.handles = command.handles ∧ command'.code = command.code ∧
      ∃ r t₁ u t₂, retrieveSessions x command t = (.ok r, t₁) ∧
        checkSessions x r r.sessions.length t₁ = (.ok u, t₂) := by
  obtain ⟨r, t₁, hretrieve, h⟩ := bind_ok h
  obtain ⟨u, t₂, hsessions, h⟩ := bind_ok h
  obtain ⟨_, t₃, -, h⟩ := bind_ok h
  obtain ⟨_, t₄, -, h⟩ := bind_ok h
  obtain ⟨rfl, -⟩ := pure_ok h
  exact ⟨rfl, rfl, r, t₁, u, t₂, hretrieve, hsessions⟩

lemma loadHandles_ok {V : Type} {d : Dispatcher V}
    (h : loadHandles x d request t = (.ok command, t')) :
    ∀ handle ∈ command.handles, hierarchyNormalizeHandle handle ≠ TPM_RH_UNASSIGNED := by
  obtain ⟨header, t₁, -, h⟩ := bind_ok h
  have h := gets_bind_ok h
  obtain ⟨_, t₂, -, h⟩ := bind_ok h
  obtain ⟨parsed, t₃, -, h⟩ := bind_ok h
  obtain ⟨handles, t₄, hload, h⟩ := bind_ok h
  obtain ⟨rfl, -⟩ := pure_ok h
  exact entityGetLoadStatus_ok hload

lemma checkAuthNoSession_ok (h : checkAuthNoSession x command t = (.ok command', t')) :
    command' = { command with sessions := [] } ∧
      ∀ i < command.handles.length, commandAuthRole x command.code i = .none := by
  obtain ⟨_, t₁, hroles, h⟩ := bind_ok h
  obtain ⟨_, t₂, -, h⟩ := bind_ok h
  obtain ⟨rfl, -⟩ := pure_ok h
  refine ⟨rfl, ?_⟩
  simpa using (stopIf_ok hroles).1

/-! ## Complete mediation -/

/-- `TPMI_RH_HIERARCHY_POLICY_Unmarshal()`. -/
def tpmiRhHierarchyPolicyUnmarshal : Unmarshaler TpmHandle where
  toParser := ((uintUnmarshal 4).map UInt32.ofNat).check (fun handle =>
    handle ∈ [TPM_RH_OWNER, TPM_RH_PLATFORM, TPM_RH_ENDORSEMENT, TPM_RH_LOCKOUT] ∨
      (TPM_RH_ACT_0 ≤ handle ∧ handle ≤ TPM_RH_ACT_F)) TPM_RC_VALUE
  rejects := by
    intro buffer rc h
    obtain h | rfl := Parsing.Parser.check_error h
    · exact uintUnmarshal_error (Parsing.Parser.map_error h)
    · decide

/-- The entry of `TPM2_SetPrimaryPolicy()` in the command table.  Its parameters are
unmarshaled after the dispatcher is called and left out here. -/
def setPrimaryPolicy : Dispatcher ℕ :=
  { shutdownDispatcher with
    isImplemented := fun code => code == 0x12E
    descriptor := fun _ => ⟨[tpmiRhHierarchyPolicyUnmarshal], [], false, 0⟩ }

/-- The handle of that command needs the user role, and its first parameter can be
encrypted. -/
def userRole : Context where
  crypto := sumCrypto
  stale := ⟨0, 0, [], 0, 0, 0, [], []⟩
  attributes _ := ⟨.user, false, false, 2, 0⟩
  locality := 0
  physicalPresence := false
  firmwareSvn := 0
  decryptParameter _ _ _ _ buffer := .ok ⟨buffer, rfl⟩

/-- A TPM whose hierarchies have empty authValues, with one HMAC session that is neither
bound nor salted. -/
def unowned : Tpm where
  da := { Da.factory with power := ⟨true, false, false⟩ }
  sessions handle :=
    if handle = 0 then
      some { freshSession with attributes := { freshSession.attributes with isPolicy := false } }
    else none
  objects _ := none
  persistent _ := none
  nvIndices _ := none
  owner := ⟨[], [], TPM_ALG_NULL⟩
  endorsement := ⟨[], [], TPM_ALG_NULL⟩
  platform := ⟨[], [], TPM_ALG_NULL⟩
  lockout := ⟨[], [], TPM_ALG_NULL⟩
  shEnable := true
  ehEnable := true
  phEnable := true
  phEnableNv := true
  pcrAuthValue _ := []
  pcrPolicy _ := none
  pcrCounter := 0
  exclusiveAuditSession := 0
  ppList _ := false
  auditCommands _ := false
  commandAuditDigest := []

/-- `TPM2_SetPrimaryPolicy()` on `TPM_RH_OWNER` with that session and no HMAC.  The policy is
empty and its algorithm `TPM_ALG_NULL`. -/
def nullHmac : Bytes :=
  [0x80, 0x02, 0, 0, 0, 31, 0, 0, 0x01, 0x2E, 0x40, 0, 0, 0x01, 0, 0, 0, 9,
    0x02, 0, 0, 0, 0, 0, 0, 0, 0, 0, 0, 0, 0x10]

/-- The same with a password. -/
def emptyPassword : Bytes :=
  [0x80, 0x02, 0, 0, 0, 31, 0, 0, 0x01, 0x2E, 0x40, 0, 0, 0x01, 0, 0, 0, 9,
    0x40, 0, 0, 0x09, 0, 0, 0, 0, 0, 0, 0, 0, 0x10]

/-- The command that the dispatcher is called with, if it is, and the state it is called in. -/
def dispatched (request : Bytes) : Command × Tpm :=
  (reachDispatcher userRole setPrimaryPolicy TPM_RC_SUCCESS request unowned).getD
    (⟨0, 0, [], 0, 0, 0, [], []⟩, unowned)

lemma reachDispatcher_dispatched
    (h : (reachDispatcher userRole setPrimaryPolicy TPM_RC_SUCCESS request unowned).isSome = true) :
    reachDispatcher userRole setPrimaryPolicy TPM_RC_SUCCESS request unowned =
      some ((dispatched request).1, (dispatched request).2) := by
  obtain ⟨c, hc⟩ := Option.isSome_iff_exists.1 h
  unfold dispatched
  rw [hc]
  rfl

/-- What one may expect of an authorization: the session is associated with the handle that
was given, and its authValue was given as a password or is part of the key of an HMAC over the
request, or its policy was satisfied. -/
def StrictlyAuthorizes (x : Context) (r : Request) (i : ℕ) (t : Tpm) : Prop :=
  r.handles[i]? = some (r.associatedHandle i) ∧
    (ByPassword r i t ∨
      (∃ session, t.sessionGet (r.sessionHandle i) = some session ∧
        (r.session i).hmac = x.crypto.hmac session.authHashAlg
          (session.sessionKey ++ entityAuthValue t (r.associatedHandle i))
          (hmacData x r i t session)) ∨
      ByPolicy x r i t)

end RfTpm.Auth
