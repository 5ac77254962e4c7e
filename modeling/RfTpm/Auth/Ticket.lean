import RfTpm.Auth.Tighten
import RfTpm.Auth.Entity

/-!
# Authorization tickets

`TPM2_PolicySigned()` and `TPM2_PolicySecret()` hand out a ticket for the authorization they
have checked, and `TPM2_PolicyTicket()` takes it in place of one.  The ticket is an HMAC under
the proof of a hierarchy (`TicketComputeAuth()`).

What the HMAC covers is `ticketData`: the fields one behind the other, as the comment of the
function has them, without their sizes, and with the epoch and the reset counter only where they
matter.  Two tickets over fields of the same sizes are therefore told apart in everything that
enters the string (`ticket_binds`); bytes that move from one field to the next are not
(`ticket_ambiguous`).
-/

namespace RfTpm.Auth

open Bytes List

/-! ## The string and its HMAC -/

/-- The tags of authorization tickets. -/
inductive TicketTag
  | TPM_ST_AUTH_SECRET
  | TPM_ST_AUTH_SIGNED
  deriving DecidableEq

/-- The `TPM_ST` of a tag. -/
def TicketTag.value : TicketTag → ℕ
  | .TPM_ST_AUTH_SECRET => 0x8023
  | .TPM_ST_AUTH_SIGNED => 0x8025


/-- `sizeof(TPMU_NAME)`, the largest name. -/
def MAX_NAME_SIZE : ℕ := 68

/-- The arguments of `TicketComputeAuth()` apart from the hierarchy, with sizes that the
unmarshaling code admits. -/
@[ext]
structure TicketArgs where
  tag : TicketTag
  timeout : UInt64
  expiresOnReset : Bool
  cpHashA : Bytes
  policyRef : Bytes
  entityName : Bytes
  cpHashA_le : cpHashA.length ≤ MAX_DIGEST_SIZE
  policyRef_le : policyRef.length ≤ MAX_DIGEST_SIZE
  entityName_le : entityName.length ≤ MAX_NAME_SIZE
  deriving DecidableEq

/-- What the computation of a ticket reads besides its arguments: `g_timeEpoch`,
`gp.totalResetCount` and `HierarchyGetProof()`. -/
structure TicketEnv where
  timeEpoch : UInt32
  totalResetCount : UInt64
  hierarchyGetProof : TpmHandle → Except TpmRc Bytes

/-- The part of the string that depends on the timeout. -/
def expiryData (env : TicketEnv) (a : TicketArgs) : Bytes :=
  if a.timeout ≠ 0 then
    beBytes 4 env.timeEpoch.toNat ++
      if a.expiresOnReset then beBytes 8 env.totalResetCount.toNat else []
  else []

/-- The string that `TicketComputeAuth()` authenticates. -/
def ticketData (env : TicketEnv) (a : TicketArgs) : Bytes :=
  beBytes 2 a.tag.value ++ (a.cpHashA ++ (a.policyRef ++ (a.entityName ++
    (beBytes 8 a.timeout.toNat ++ expiryData env a))))

/-- `CONTEXT_INTEGRITY_HASH_ALG`. -/
def CONTEXT_INTEGRITY_HASH_ALG : ℕ := 0xC

/-- The digest of a ticket under a proof. -/
def ticketDigest (c : Crypto) (env : TicketEnv) (proof : Bytes) (a : TicketArgs) :
    Bytes :=
  c.hmac CONTEXT_INTEGRITY_HASH_ALG proof (ticketData env a)

/-- `TPMT_TK_AUTH` -/
structure Ticket where
  tag : TicketTag
  hierarchy : TpmHandle
  digest : Bytes
  deriving DecidableEq

/-- `TicketComputeAuth()`. -/
def ticketComputeAuth (c : Crypto) (env : TicketEnv) (hierarchy : TpmHandle) (a : TicketArgs) :
    Except TpmRc Ticket := do
  let proof ← env.hierarchyGetProof hierarchy
  return ⟨a.tag, hierarchy, ticketDigest c env proof a⟩

/-! ## The commands -/

/-- `EXPIRATION_BIT`, the most significant bit of a timeout. -/
def EXPIRATION_BIT : ℕ := 2 ^ 63

/-- `(authTimeout & EXPIRATION_BIT) != 0` -/
def hasFlag (timeout : UInt64) : Bool := EXPIRATION_BIT ≤ timeout.toNat

/-- `authTimeout &= ~EXPIRATION_BIT` -/
def withoutFlag (timeout : UInt64) : UInt64 := .ofNat (timeout.toNat % EXPIRATION_BIT)

/-- `authTimeout |= EXPIRATION_BIT` -/
def withFlag (timeout : UInt64) : UInt64 :=
  .ofNat (timeout.toNat % EXPIRATION_BIT + EXPIRATION_BIT)

/-- The timeout buffer that goes with a ticket. -/
def timeoutBuffer (a : TicketArgs) : Bytes :=
  beBytes 8 (if a.expiresOnReset then withFlag a.timeout else a.timeout).toNat

/-- The parameters of an authorization command that enter a ticket, with their sizes. -/
structure TicketFields where
  cpHashA : Bytes
  policyRef : Bytes
  name : Bytes
  cpHashA_le : cpHashA.length ≤ MAX_DIGEST_SIZE
  policyRef_le : policyRef.length ≤ MAX_DIGEST_SIZE
  name_le : name.length ≤ MAX_NAME_SIZE

/-- The other parameters of `TPM2_PolicySigned()` and `TPM2_PolicySecret()`, with the result of
the check of the signature. -/
structure TicketRequest where
  nonceTPM : Bytes
  expiration : UInt32
  validate : TpmRc
  isPinPass : Bool

/-- The arguments with which the two commands compute a ticket. -/
def issueArgs (penv : PolicyEnv) (session : Session) (tag : TicketTag) (f : TicketFields)
    (i : TicketRequest) : TicketArgs where
  tag := tag
  timeout := withoutFlag (computeAuthTimeout penv session i.expiration i.nonceTPM)
  expiresOnReset := i.nonceTPM.length = 0
  cpHashA := f.cpHashA
  policyRef := f.policyRef
  entityName := f.name
  cpHashA_le := f.cpHashA_le
  policyRef_le := f.policyRef_le
  entityName_le := f.name_le

/-- The ticket and the timeout buffer that the two commands compute. -/
def issueTicket (c : Crypto) (env : TicketEnv) (hierarchy : TpmHandle) (a : TicketArgs) :
    Except TpmRc (Bytes × Ticket) := do
  let ticket ← ticketComputeAuth c env hierarchy a
  return (timeoutBuffer a, ticket)

/-- The result of a computation that may fail. -/
def resultOf {α : Type} : Except TpmRc α → TpmRc
  | .error result => result
  | .ok _ => TPM_RC_SUCCESS

/-- `TPM2_PolicySigned()` or `TPM2_PolicySecret()`, by the tag of its ticket, with its output.
A ticket is given out for a negative `expiration`, but not for a trial session and not for a
secret that is an NV PIN Pass Index; `none` stands for the null ticket. -/
def authorizationCommand (c : Crypto) (env : TicketEnv) (penv : PolicyEnv) (tag : TicketTag)
    (hierarchy : TpmHandle) (f : TicketFields) (i : TicketRequest) (session : Session) :
    TpmRc × Session × Option (Bytes × Ticket) :=
  let issued := issueTicket c env hierarchy (issueArgs penv session tag f i)
  let input : AuthorizationIn :=
    { nonceTPM := i.nonceTPM, cpHashA := f.cpHashA, policyRef := f.policyRef
      expiration := i.expiration, name := f.name, validate := i.validate
      ticket := resultOf issued, isPinPass := i.isPinPass }
  let (result, updated) := match tag with
    | .TPM_ST_AUTH_SIGNED => policySigned c penv input session
    | .TPM_ST_AUTH_SECRET => policySecret c penv input session
  let given := result = TPM_RC_SUCCESS ∧ isNegative i.expiration ∧
    !session.attributes.isTrialPolicy ∧ !(tag = .TPM_ST_AUTH_SECRET ∧ i.isPinPass)
  (result, updated, if given then issued.toOption else none)

/-- The arguments with which `TPM2_PolicyTicket()` computes the ticket it compares with. -/
def checkArgs (f : TicketFields) (timeout : Bytes) (tag : TicketTag) : TicketArgs where
  tag := tag
  timeout := withoutFlag (UInt64.ofNat (beVal timeout))
  expiresOnReset := hasFlag (UInt64.ofNat (beVal timeout))
  cpHashA := f.cpHashA
  policyRef := f.policyRef
  entityName := f.name
  cpHashA_le := f.cpHashA_le
  policyRef_le := f.policyRef_le
  entityName_le := f.name_le

/-- The validation of a ticket in `TPM2_PolicyTicket()`. -/
def checkTicket (c : Crypto) (env : TicketEnv) (f : TicketFields) (timeout : Bytes)
    (ticket : Ticket) : TpmRc :=
  match ticketComputeAuth c env ticket.hierarchy (checkArgs f timeout ticket.tag) with
  | .error result => result
  | .ok ticketToCompare =>
    if ticket.digest = ticketToCompare.digest then TPM_RC_SUCCESS else TPM_RC_TICKET + rcP 5

/-- `TPM2_PolicyTicket()` with the ticket it is given. -/
def policyTicketCommand (c : Crypto) (env : TicketEnv) (penv : PolicyEnv) (f : TicketFields)
    (timeout : Bytes) (ticket : Ticket) (session : Session) : TpmRc × Session :=
  policyTicket c penv
    { timeout := timeout
      cpHashA := f.cpHashA
      policyRef := f.policyRef
      authName := f.name
      isSigned := ticket.tag = .TPM_ST_AUTH_SIGNED
      ticket := checkTicket c env f timeout ticket } session

/-! ## Fields of equal sizes -/

/-- Two sets of arguments whose variable fields have the same sizes. -/
structure SameSizes (a b : TicketArgs) : Prop where
  cpHashA : a.cpHashA.length = b.cpHashA.length
  policyRef : a.policyRef.length = b.policyRef.length
  entityName : a.entityName.length = b.entityName.length

/-- The arguments agree in all that a ticket can bind: the expiration flag, the epoch and the
reset counter only enter the string for a timeout that is not zero. -/
structure Bound (env env' : TicketEnv) (a b : TicketArgs) : Prop where
  tag : a.tag = b.tag
  cpHashA : a.cpHashA = b.cpHashA
  policyRef : a.policyRef = b.policyRef
  entityName : a.entityName = b.entityName
  timeout : a.timeout = b.timeout
  expiresOnReset : a.timeout ≠ 0 → a.expiresOnReset = b.expiresOnReset
  timeEpoch : a.timeout ≠ 0 → env.timeEpoch = env'.timeEpoch
  totalResetCount : a.timeout ≠ 0 → a.expiresOnReset = true →
    env.totalResetCount = env'.totalResetCount

lemma beBytes_inj {n v w : ℕ} (hv : v < 256 ^ n) (hw : w < 256 ^ n)
    (h : beBytes n v = beBytes n w) : v = w := by
  rw [← beVal_beBytes hv, h, beVal_beBytes hw]

lemma TicketTag.value_inj {s t : TicketTag} (h : beBytes 2 s.value = beBytes 2 t.value) :
    s = t := by
  have hvalue := beBytes_inj (by cases s <;> decide) (by cases t <;> decide) h
  cases s <;> cases t <;> first | rfl | cases hvalue

lemma timeout_inj {x y : UInt64} (h : beBytes 8 x.toNat = beBytes 8 y.toNat) : x = y :=
  UInt64.toNat_inj.mp (beBytes_inj x.toNat_lt y.toNat_lt h)

variable {env env' : TicketEnv} {c : Crypto} {f : TicketFields} {timeout proof : Bytes}
  {ticket : Ticket}

/-- The strings for the same timeout differ in the flag, the epoch or the counter only where
they are in the string. -/
lemma expiryData_inj {a b : TicketArgs} (ht : a.timeout = b.timeout) (hne : a.timeout ≠ 0)
    (h : expiryData env a = expiryData env' b) :
    env.timeEpoch = env'.timeEpoch ∧ a.expiresOnReset = b.expiresOnReset ∧
      (a.expiresOnReset = true → env.totalResetCount = env'.totalResetCount) := by
  have hne' : b.timeout ≠ 0 := ht ▸ hne
  simp only [expiryData, ne_eq, hne, hne', not_false_eq_true, if_true] at h
  obtain ⟨hepoch, hrest⟩ := append_inj h (by simp)
  have hsame : env.timeEpoch = env'.timeEpoch :=
    UInt32.toNat_inj.mp (beBytes_inj env.timeEpoch.toNat_lt env'.timeEpoch.toNat_lt hepoch)
  refine ⟨hsame, ?_⟩
  have hlength := congrArg length hrest
  cases ha : a.expiresOnReset with
  | false =>
    cases hb : b.expiresOnReset with
    | false => exact ⟨rfl, nofun⟩
    | true => simp [ha, hb] at hlength
  | true =>
    cases hb : b.expiresOnReset with
    | false => simp [ha, hb] at hlength
    | true =>
      rw [ha, hb, if_pos rfl, if_pos rfl] at hrest
      exact ⟨rfl, fun _ => timeout_inj hrest⟩

lemma ticketData_inj {a b : TicketArgs} (hsize : SameSizes a b)
    (h : ticketData env a = ticketData env' b) : Bound env env' a b := by
  unfold ticketData at h
  obtain ⟨htag, h⟩ := append_inj h (by simp)
  obtain ⟨hcp, h⟩ := append_inj h hsize.cpHashA
  obtain ⟨href, h⟩ := append_inj h hsize.policyRef
  obtain ⟨hname, h⟩ := append_inj h hsize.entityName
  obtain ⟨htimeout, hexpiry⟩ := append_inj h (by simp)
  have ht := timeout_inj htimeout
  have hrest := fun hne => expiryData_inj ht hne hexpiry
  exact ⟨TicketTag.value_inj htag, hcp, href, hname, ht, fun hne => (hrest hne).2.1,
    fun hne => (hrest hne).1, fun hne => (hrest hne).2.2⟩

/-! ## Tickets bind their contents -/

lemma checkTicket_success (hproof : env.hierarchyGetProof ticket.hierarchy = .ok proof)
    (h : checkTicket c env f timeout ticket = TPM_RC_SUCCESS) :
    ticket.digest = ticketDigest c env proof (checkArgs f timeout ticket.tag) := by
  have hcompute : ticketComputeAuth c env ticket.hierarchy (checkArgs f timeout ticket.tag) =
      .ok ⟨ticket.tag, ticket.hierarchy,
        ticketDigest c env proof (checkArgs f timeout ticket.tag)⟩ := by
    unfold ticketComputeAuth
    rw [hproof]
    rfl
  unfold checkTicket at h
  rw [hcompute] at h
  by_contra hne
  dsimp only at h
  rw [if_neg hne] at h
  cases h

/-- A successful `TPM2_PolicyTicket()` has validated the ticket, and its timeout is eight bytes
long. -/
lemma policyTicketCommand_success {penv : PolicyEnv} {session : Session}
    (h : (policyTicketCommand c env penv f timeout ticket session).1 = TPM_RC_SUCCESS) :
    timeout.length = 8 ∧ checkTicket c env f timeout ticket = TPM_RC_SUCCESS := by
  unfold policyTicketCommand policyTicket at h
  dsimp only at h
  by_cases htrial : session.attributes.isTrialPolicy
  · rw [if_pos htrial] at h
    exact absurd h (show ¬ TPM_RC_ATTRIBUTES + rcH 1 = TPM_RC_SUCCESS by decide)
  rw [if_neg htrial] at h
  by_cases hlength : timeout.length ≠ 8
  · rw [if_pos hlength] at h
    exact absurd h (show ¬ TPM_RC_SIZE + rcP 1 = TPM_RC_SUCCESS by decide)
  rw [if_neg hlength] at h
  refine ⟨not_not.mp hlength, ?_⟩
  by_contra hticket
  rw [if_pos hticket] at h
  split_ifs at h with hcheck
  · exact hcheck h
  · exact hticket h

lemma rejoin_timeout (x : UInt64) :
    (if hasFlag x then withFlag (withoutFlag x) else withoutFlag x) = x := by
  have hlt := x.toNat_lt
  have htime : (withoutFlag x).toNat = x.toNat % 2 ^ 63 := by
    rw [withoutFlag, UInt64.toNat_ofNat', EXPIRATION_BIT]
    omega
  apply UInt64.toNat_inj.mp
  unfold hasFlag
  split_ifs with hflag
  · have hset : 2 ^ 63 ≤ x.toNat := of_decide_eq_true hflag
    rw [withFlag, htime, UInt64.toNat_ofNat', EXPIRATION_BIT]
    omega
  · have hclear : ¬ 2 ^ 63 ≤ x.toNat := of_decide_eq_false (Bool.not_eq_true _ ▸ hflag)
    rw [htime]
    omega

lemma timeoutBuffer_checkArgs {tag : TicketTag} (h : timeout.length = 8) :
    timeoutBuffer (checkArgs f timeout tag) = timeout := by
  have hlt : beVal timeout < 2 ^ 64 := by
    have hval := beVal_lt timeout
    rw [h] at hval
    exact hval
  unfold timeoutBuffer checkArgs
  dsimp only
  rw [rejoin_timeout, UInt64.toNat_ofNat', Nat.mod_eq_of_lt hlt, ← h, beBytes_beVal]

lemma authorize_issued {penv : PolicyEnv} {tag : TicketTag} {hierarchy : TpmHandle}
    {i : TicketRequest} {session session' : Session} {buffer : Bytes} {result : TpmRc}
    (hproof : env.hierarchyGetProof hierarchy = .ok proof)
    (h : authorizationCommand c env penv tag hierarchy f i session =
      (result, session', some (buffer, ticket))) :
    buffer = timeoutBuffer (issueArgs penv session tag f i) ∧ ticket.hierarchy = hierarchy ∧
      ticket.digest = ticketDigest c env proof (issueArgs penv session tag f i) := by
  have hissue : issueTicket c env hierarchy (issueArgs penv session tag f i) =
      .ok (timeoutBuffer (issueArgs penv session tag f i), ⟨tag, hierarchy,
        ticketDigest c env proof (issueArgs penv session tag f i)⟩) := by
    unfold issueTicket ticketComputeAuth
    rw [hproof]
    rfl
  have hout : (authorizationCommand c env penv tag hierarchy f i session).2.2 =
      some (buffer, ticket) := by rw [h]
  unfold authorizationCommand at hout
  rw [hissue] at hout
  dsimp only at hout
  split_ifs at hout with hgiven
  obtain ⟨rfl, rfl⟩ := Prod.mk.inj (Option.some.inj hout)
  exact ⟨rfl, rfl, rfl⟩

/-- What holds between the arguments a ticket was issued for and those it is accepted with, for
parameters of the same sizes: they are the same, and so is the timeout buffer, unless the time in
it is zero and the flag does not count. -/
structure Accepted (issued presented : TicketArgs) (buffer timeout : Bytes) : Prop where
  tag : issued.tag = presented.tag
  cpHashA : issued.cpHashA = presented.cpHashA
  policyRef : issued.policyRef = presented.policyRef
  authName : issued.entityName = presented.entityName
  time : issued.timeout = presented.timeout
  timeout : issued.timeout ≠ 0 → buffer = timeout

/-- **Tickets bind their contents**, up to the sizes of their fields.  With an HMAC that is
injective in its data, two digests under one proof are equal only for arguments that agree in all
that enters the string, if the sizes of their fields agree; and `TPM2_PolicyTicket()` accepts a
ticket of `TPM2_PolicySigned()` or `TPM2_PolicySecret()` with parameters of the sizes it was issued
for only if they are the ones it was issued for. -/
theorem ticket_binds (c : Crypto)
    (hinj : ∀ proof, Function.Injective (c.hmac CONTEXT_INTEGRITY_HASH_ALG proof)) :
    (∀ (env env' : TicketEnv) (proof : Bytes) (a b : TicketArgs), SameSizes a b →
      ticketDigest c env proof a = ticketDigest c env' proof b → Bound env env' a b) ∧
    (∀ (env env' : TicketEnv) (penv penv' : PolicyEnv) (tag : TicketTag) (hierarchy : TpmHandle)
      (f f' : TicketFields) (i : TicketRequest) (session session₁ session' : Session)
      (buffer timeout proof : Bytes) (issued ticket : Ticket) (result : TpmRc),
      authorizationCommand c env penv tag hierarchy f i session =
        (result, session₁, some (buffer, issued)) →
      env.hierarchyGetProof hierarchy = .ok proof →
      ticket.digest = issued.digest →
      env'.hierarchyGetProof ticket.hierarchy = .ok proof →
      (policyTicketCommand c env' penv' f' timeout ticket session').1 = TPM_RC_SUCCESS →
      SameSizes (issueArgs penv session tag f i) (checkArgs f' timeout ticket.tag) →
        Accepted (issueArgs penv session tag f i) (checkArgs f' timeout ticket.tag)
          buffer timeout) := by
  have hbinds : ∀ (env env' : TicketEnv) (proof : Bytes) (a b : TicketArgs), SameSizes a b →
      ticketDigest c env proof a = ticketDigest c env' proof b → Bound env env' a b := by
    intro env env' proof a b hsize hdigest
    exact ticketData_inj hsize (hinj proof hdigest)
  refine ⟨hbinds, ?_⟩
  intro env env' penv penv' tag hierarchy f f' i session session₁ session' buffer timeout proof
    issued ticket result hissued hproof hdigest hproof' haccept hsize
  obtain ⟨hbuffer, -, hcomputed⟩ := authorize_issued hproof hissued
  obtain ⟨hlength, hcheck⟩ := policyTicketCommand_success haccept
  have hequal := (hcomputed.symm.trans hdigest.symm).trans (checkTicket_success hproof' hcheck)
  have hbound := hbinds env env' proof _ _ hsize hequal
  refine ⟨hbound.tag, hbound.cpHashA, hbound.policyRef, hbound.entityName, hbound.timeout, ?_⟩
  intro hne
  have hflag := hbound.expiresOnReset hne
  have hsame : timeoutBuffer (issueArgs penv session tag f i) =
      timeoutBuffer (checkArgs f' timeout ticket.tag) := by
    unfold timeoutBuffer
    rw [hbound.timeout, hflag]
  rw [hbuffer, hsame, timeoutBuffer_checkArgs hlength]

/-! ## A field boundary that moves -/

/-- Hash functions with digests of 32 bytes, and an HMAC that shows its data. -/
def wideCrypto : Crypto where
  digestSize _ := 32
  hash _ data := replicate 32 data.sum
  hmac _ key data := key ++ data
  length_hash _ _ := length_replicate

lemma wideCrypto_hmac_injective (alg : ℕ) (proof : Bytes) :
    Function.Injective (wideCrypto.hmac alg proof) :=
  fun _ _ h => append_cancel_left h

/-- Every hierarchy has the same proof. -/
def oneProof : TicketEnv where
  timeEpoch := 0
  totalResetCount := 1
  hierarchyGetProof _ := .ok [1]

/-- A policy session with digests of 32 bytes. -/
def wideSession : Session :=
  { freshSession with u1 := [], u2 := replicate 32 0, timeout := 0, epoch := 0 }

/-- An authorization for one command, for one second. -/
def limited : TicketFields where
  cpHashA := replicate 32 7
  policyRef := []
  name := 0x00 :: 0x0B :: replicate 32 9
  cpHashA_le := by decide
  policyRef_le := by decide
  name_le := by decide

/-- The same bytes as a policy reference, and no command. -/
def referred : TicketFields where
  cpHashA := []
  policyRef := replicate 32 7
  name := 0x00 :: 0x0B :: replicate 32 9
  cpHashA_le := by decide
  policyRef_le := by decide
  name_le := by decide

/-- A request for a ticket that is good for a second. -/
def oneSecond : TicketRequest where
  nonceTPM := []
  expiration := 0xFFFFFFFF
  validate := TPM_RC_SUCCESS
  isPinPass := false

/-- The ticket of the limited authorization. -/
def limitedTicket : Ticket where
  tag := .TPM_ST_AUTH_SIGNED
  hierarchy := TPM_RH_OWNER
  digest := ticketDigest wideCrypto oneProof [1]
    (issueArgs quietEnv wideSession .TPM_ST_AUTH_SIGNED limited oneSecond)

/-- Its timeout: 1000 milliseconds, with the flag. -/
def limitedTimeout : Bytes := [0x80, 0, 0, 0, 0, 0, 3, 0xE8]

lemma limited_issued :
    authorizationCommand wideCrypto oneProof quietEnv .TPM_ST_AUTH_SIGNED TPM_RH_OWNER limited
        oneSecond wideSession =
      (TPM_RC_SUCCESS,
        (authorizationCommand wideCrypto oneProof quietEnv .TPM_ST_AUTH_SIGNED TPM_RH_OWNER limited
          oneSecond wideSession).2.1, some (limitedTimeout, limitedTicket)) := by
  refine Prod.ext ?_ (Prod.ext rfl ?_)
  · decide +kernel
  · decide +kernel

/-- The ticket is accepted with the fields it was issued for. -/
theorem ticket_binds_limited :
    Accepted (issueArgs quietEnv wideSession .TPM_ST_AUTH_SIGNED limited oneSecond)
      (checkArgs limited limitedTimeout .TPM_ST_AUTH_SIGNED) limitedTimeout limitedTimeout :=
  (ticket_binds wideCrypto (wideCrypto_hmac_injective _)).2 oneProof oneProof quietEnv quietEnv
    .TPM_ST_AUTH_SIGNED TPM_RH_OWNER limited limited oneSecond wideSession _ wideSession
    limitedTimeout limitedTimeout [1] limitedTicket limitedTicket TPM_RC_SUCCESS limited_issued rfl
    rfl rfl (by decide +kernel) ⟨rfl, rfl, rfl⟩

/-- The ticket of the limited authorization is also accepted for the other fields: the digest
does not say where `cpHashA` ends and `policyRef` begins. -/
theorem ticket_ambiguous :
    (∀ proof, Function.Injective (wideCrypto.hmac CONTEXT_INTEGRITY_HASH_ALG proof)) ∧
    ticketDigest wideCrypto oneProof [1]
        (issueArgs quietEnv wideSession .TPM_ST_AUTH_SIGNED limited oneSecond) =
      ticketDigest wideCrypto oneProof [1]
        (issueArgs quietEnv wideSession .TPM_ST_AUTH_SIGNED referred oneSecond) ∧
    issueArgs quietEnv wideSession .TPM_ST_AUTH_SIGNED limited oneSecond ≠
      issueArgs quietEnv wideSession .TPM_ST_AUTH_SIGNED referred oneSecond ∧
    (authorizationCommand wideCrypto oneProof quietEnv .TPM_ST_AUTH_SIGNED TPM_RH_OWNER limited
      oneSecond wideSession).2.2 = some (limitedTimeout, limitedTicket) ∧
    (policyTicketCommand wideCrypto oneProof quietEnv referred limitedTimeout limitedTicket
      wideSession).1 = TPM_RC_SUCCESS := by
  refine ⟨wideCrypto_hmac_injective _, by decide +kernel, ?_, by rw [limited_issued],
    by decide +kernel⟩
  intro h
  have hcp : limited.cpHashA = referred.cpHashA := congrArg TicketArgs.cpHashA h
  cases hcp

end RfTpm.Auth
