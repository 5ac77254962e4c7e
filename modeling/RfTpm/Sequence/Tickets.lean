import RfTpm.Sequence.Commands

/-!
# What a restricted key signs

The bits of a hash sequence say the truth about its message: without `firstBlock` nothing has been
fed, and with `ticketSafe` the first buffer was long enough to see that the message does not start
with `TPM_GENERATED_VALUE` (`Tracks`).  The bits and the message are saved and loaded together, so
this holds of every loaded and every saved sequence (`Settled`), and so no ticket is given out for
a message that starts with the value.

A restricted key asks for a ticket.  If the HMAC of the ticket cannot be forged (`Unforged`), the
digest it signs belongs to a message for which one was given out (`restricted_key_signs`).
-/

namespace RfTpm.Sequence

open Bytes Auth Runs List

variable {c : Crypto} {macEnd : HashObject → Bytes} {t : Tpm} {o : HashObject}

/-! ## Messages -/

/-- The message starts with `TPM_GENERATED_VALUE`. -/
def Generated (message : Bytes) : Prop := beBytes 4 TPM_GENERATED_VALUE <+: message

lemma generated_iff (message : Bytes) :
    Generated message ↔ message.take 4 = beBytes 4 TPM_GENERATED_VALUE := by
  unfold Generated
  rw [prefix_iff_eq_take, length_beBytes, eq_comm]

lemma ticketIsSafe_iff (buffer : Bytes) :
    ticketIsSafe buffer = true ↔ 4 ≤ buffer.length ∧ ¬Generated buffer := by
  rw [generated_iff]
  unfold ticketIsSafe
  split_ifs with hshort hvalue
  · exact ⟨False.elim, fun h => absurd h.1 (Nat.not_le.mpr hshort)⟩
  · exact ⟨False.elim, fun h => absurd hvalue h.2⟩
  · exact ⟨fun _ => ⟨Nat.not_lt.mp hshort, hvalue⟩, fun _ => rfl⟩

variable {buffer message digest : Bytes} {o' : HashObject} {proofs : Proofs}
  {hierarchy : TpmHandle} {hashAlg : UInt16} {i : Fin MAX_LOADED_OBJECTS}

lemma ticketIsSafe_append (h : ticketIsSafe buffer = true) (rest : Bytes) :
    ticketIsSafe (buffer ++ rest) = true := by
  rw [ticketIsSafe_iff, generated_iff] at *
  obtain ⟨hlength, hvalue⟩ := h
  refine ⟨?_, ?_⟩
  · rw [length_append]
    omega
  · rwa [take_append_of_le_length hlength]

/-! ## The bits of a sequence -/

/-- The attributes of a hash sequence are right about what has been fed. -/
structure Tracks (o : HashObject) : Prop where
  kind : o.attributes.hashSeq = true → o.attributes.eventSeq = false
  fresh : o.attributes.hashSeq = true → o.attributes.firstBlock = false →
    (o.hashState 0).data = [] ∧ o.attributes.ticketSafe = false
  safe : o.attributes.hashSeq = true → o.attributes.ticketSafe = true →
    ticketIsSafe (o.hashState 0).data = true

lemma tracks_of_not_hashSeq (h : o.attributes.hashSeq = false) : Tracks o := by
  have hno {P : Prop} (hseq : o.attributes.hashSeq = true) : P :=
    absurd (h ▸ hseq) Bool.false_ne_true
  exact ⟨hno, hno, hno⟩

@[simp]
lemma update_hashState_zero (o : HashObject) (buffer : Bytes) :
    (o.update buffer).hashState 0 = (o.hashState 0).update buffer := by
  simp [HashObject.update]

lemma tracks_hashSequence (hashAlg : UInt16) (state : ℕ → HashState) :
    Tracks (hashSequence hashAlg ⟨{ occupied := true }, state⟩) where
  kind _ := rfl
  fresh _ _ := ⟨by simp [hashSequence, cryptHashStart], rfl⟩
  safe _ h := absurd h Bool.false_ne_true

lemma Tracks.first (h : Tracks o) (hseq : o.attributes.hashSeq = true)
    (hfirst : o.attributes.firstBlock = false)
    (hsafe : (o.attributes.ticketSafe || ticketIsSafe buffer) = true) :
    ticketIsSafe ((o.hashState 0).data ++ buffer) = true := by
  obtain ⟨hdata, hclear⟩ := h.fresh hseq hfirst
  rw [hclear, Bool.false_or] at hsafe
  rwa [hdata, nil_append]

lemma Tracks.sequenceUpdate (h : Tracks o) (hupdate : sequenceUpdate o buffer = .ok o') :
    Tracks o' := by
  unfold Sequence.sequenceUpdate at hupdate
  split_ifs at hupdate with hkind hevent hseq hfirst
  · injection hupdate with heq
    subst heq
    refine tracks_of_not_hashSeq ?_
    cases hhash : o.attributes.hashSeq with
    | false => rfl
    | true => exact absurd ((h.kind hhash).symm.trans hevent) Bool.false_ne_true
  · injection hupdate with heq
    subst heq
    have hclear : o.attributes.firstBlock = false := by simpa using hfirst
    refine ⟨fun _ => h.kind hseq, fun _ hno => absurd hno.symm Bool.false_ne_true, ?_⟩
    intro _ hsafe
    rw [update_hashState_zero]
    exact h.first hseq hclear hsafe
  · injection hupdate with heq
    subst heq
    have hset : o.attributes.firstBlock = true := by simpa using hfirst
    refine ⟨h.kind, fun _ hno => absurd (hno.symm.trans hset) Bool.false_ne_true, ?_⟩
    intro _ hsafe
    rw [update_hashState_zero]
    exact ticketIsSafe_append (h.safe hseq hsafe) buffer
  · injection hupdate with heq
    subst heq
    exact tracks_of_not_hashSeq (Bool.not_eq_true _ ▸ hseq)

/-! ## Tickets that are given out -/

/-- What `TPM2_SequenceComplete()` has done when its ticket is not empty. -/
structure Completes (c : Crypto) (o o' : HashObject) (buffer : Bytes) (out : DigestOut) :
    Prop where
  message : (o'.hashState 0).data = (o.hashState 0).data ++ buffer
  result : out.result = c.hash (o.hashState 0).hashAlg.toNat ((o.hashState 0).data ++ buffer)
  safe : ticketIsSafe ((o.hashState 0).data ++ buffer) = true

lemma Tracks.sequenceComplete {out : DigestOut} (h : Tracks o)
    (hcomplete : sequenceComplete c proofs macEnd o buffer hierarchy = .ok (out, o'))
    (hticket : out.validation.digest ≠ []) : Completes c o o' buffer out := by
  unfold Sequence.sequenceComplete at hcomplete
  by_cases hkind : (!o.attributes.hashSeq && !o.attributes.hmacSeq) = true
  · rw [if_pos hkind] at hcomplete
    cases hcomplete
  rw [if_neg hkind] at hcomplete
  by_cases hseq : o.attributes.hashSeq = true
  · rw [if_pos hseq] at hcomplete
    cases hcomplete
    dsimp only at hticket
    split_ifs at hticket with hnull hfaults
    · exact absurd rfl hticket
    · exact absurd rfl hticket
    refine ⟨by simp [HashState.update], by simp [HashState.update], ?_⟩
    have hbits : (o.attributes.ticketSafe ||
        (!o.attributes.firstBlock && ticketIsSafe buffer)) = true := by
      rwa [Bool.not_eq_true, Bool.not_eq_false'] at hfaults
    cases hfirst : o.attributes.firstBlock with
    | false =>
      rw [hfirst, Bool.not_false, Bool.true_and] at hbits
      exact h.first hseq hfirst hbits
    | true =>
      rw [hfirst, Bool.not_true, Bool.false_and, Bool.or_false] at hbits
      exact ticketIsSafe_append (h.safe hseq hbits) buffer
  · rw [if_neg hseq] at hcomplete
    cases hcomplete
    exact absurd rfl hticket

lemma sequenceComplete_evict {out : DigestOut}
    (hcomplete : sequenceComplete c proofs macEnd o buffer hierarchy = .ok (out, o')) :
    o'.attributes.evict = true := by
  unfold Sequence.sequenceComplete at hcomplete
  split_ifs at hcomplete <;> cases hcomplete <;> rfl

lemma tpm2Hash_not_generated {data : Bytes}
    (hticket : (tpm2Hash c proofs data hashAlg hierarchy).validation.digest ≠ []) :
    ¬Generated data := by
  intro hgenerated
  have hlength : 4 ≤ data.length := by simpa using hgenerated.length_le
  have hfaults : ticketIsSafe data = false := by
    refine Bool.eq_false_iff.mpr fun hsafe => ?_
    exact ((ticketIsSafe_iff data).mp hsafe).2 hgenerated
  unfold tpm2Hash at hticket
  dsimp only at hticket
  have hcond : 4 ≤ data.length ∧ (!ticketIsSafe data) = true := ⟨hlength, by simp [hfaults]⟩
  rw [if_pos hcond] at hticket
  split_ifs at hticket <;> exact hticket rfl

/-! ## The record of tickets -/

/-- Nothing in the record is a ticket for a message that starts with the value. -/
def Issued.Sound : Issued → Prop
  | .hashcheck _ _ message => ¬Generated message
  | .other _ data => data.take 2 ≠ beBytes 2 TPM_ST_HASHCHECK

@[simp]
lemma issue_objects (t : Tpm) (validation : HashcheckTicket) (hashAlg : UInt16)
    (message : Bytes) : (issue t validation hashAlg message).objects = t.objects := by
  unfold issue
  split
  · split_ifs <;> rfl
  · rfl

@[simp]
lemma issue_contexts (t : Tpm) (validation : HashcheckTicket) (hashAlg : UInt16)
    (message : Bytes) : (issue t validation hashAlg message).contexts = t.contexts := by
  unfold issue
  split
  · split_ifs <;> rfl
  · rfl

lemma sound_issue {validation : HashcheckTicket} (h : ∀ e ∈ t.issued, e.Sound)
    (hmessage : validation.digest ≠ [] → ¬Generated message) :
    ∀ e ∈ (issue t validation hashAlg message).issued, e.Sound := by
  unfold issue
  split
  · split_ifs with hdigest
    · intro e he
      rcases mem_cons.mp he with rfl | he
      · exact hmessage hdigest
      · exact h e he
    · exact h
  · exact h

/-! ## The machine -/

/-- What holds inside a command, before the cleanup: every sequence that will stay has the right
bits. -/
structure Acting (t : Tpm) : Prop where
  objects : ∀ i, (t.objects i).attributes.occupied = true →
    (t.objects i).attributes.evict = false → Tracks (t.objects i)
  contexts : ∀ o ∈ t.contexts, Tracks o
  issued : ∀ e ∈ t.issued, e.Sound

/-- What holds between commands. -/
structure Settled (t : Tpm) : Prop extends Acting t where
  evict : ∀ i, (t.objects i).attributes.occupied = true → (t.objects i).attributes.evict = false

lemma Settled.tracks (h : Settled t) (hi : (t.objects i).attributes.occupied = true) :
    Tracks (t.objects i) :=
  h.objects i hi (h.evict i hi)

lemma Acting.update (h : Acting t)
    (ho : o.attributes.occupied = true → o.attributes.evict = false → Tracks o) :
    Acting { t with objects := Function.update t.objects i o } where
  objects j := by
    dsimp only
    rcases eq_or_ne j i with rfl | hne
    · rw [Function.update_self]
      exact ho
    · rw [Function.update_of_ne hne]
      exact h.objects j
  contexts := h.contexts
  issued := h.issued

lemma Acting.objectAllocateSlot {fill : HashObject → HashObject} (h : Acting t)
    (hfill : ∀ state, Tracks (fill ⟨{ occupied := true }, state⟩)) :
    Acting (objectAllocateSlot t fill).2 := by
  unfold Sequence.objectAllocateSlot
  split
  · exact h
  · exact h.update fun _ _ => hfill _

lemma Acting.hashSequenceStart (h : Acting t) (hashAlg : UInt16) :
    Acting (hashSequenceStart t hashAlg).2 := by
  unfold Sequence.hashSequenceStart
  split_ifs
  · exact h.objectAllocateSlot fun _ => tracks_of_not_hashSeq rfl
  · exact h.objectAllocateSlot (tracks_hashSequence hashAlg)

lemma Settled.completeAt (h : Settled t) (hi : (t.objects i).attributes.occupied = true) :
    Acting (completeAt c macEnd t i buffer hierarchy).2 := by
  unfold Sequence.completeAt
  split
  · exact h.toActing
  case _ out o hcomplete =>
    have hissue : Acting (issue t out.validation (o.hashState 0).hashAlg (o.hashState 0).data) := by
      refine ⟨by simpa using h.objects, by simpa using h.contexts, sound_issue h.issued ?_⟩
      intro hticket
      have hdone := (h.tracks hi).sequenceComplete hcomplete hticket
      rw [hdone.message]
      exact ((ticketIsSafe_iff _).mp hdone.safe).2
    have hwrite := hissue.update (o := o) (i := i) fun _ hno =>
      absurd (hno.symm.trans (sequenceComplete_evict hcomplete)) Bool.false_ne_true
    rwa [issue_objects] at hwrite

lemma Settled.act {a : Action} (h : Settled t) (ha : Enabled t a) :
    Acting (act c macEnd t a) := by
  cases a with
  | hashSequenceStart hashAlg => exact h.hashSequenceStart hashAlg
  | macStart hashAlg => exact h.objectAllocateSlot fun _ => tracks_of_not_hashSeq rfl
  | sequenceUpdate i buffer =>
    unfold Sequence.act
    dsimp only
    split_ifs with hi
    · split
      · exact h.toActing
      case _ o hupdate => exact h.update fun _ _ => (h.tracks hi).sequenceUpdate hupdate
    · exact h.toActing
  | sequenceComplete i buffer hierarchy =>
    unfold Sequence.act
    dsimp only
    split_ifs with hi
    · exact h.completeAt hi
    · exact h.toActing
  | eventSequenceComplete i buffer =>
    unfold Sequence.act
    dsimp only
    split_ifs with hi
    · exact h.update fun _ hno => absurd hno.symm Bool.false_ne_true
    · exact h.toActing
  | hash data hashAlg hierarchy =>
    refine ⟨?_, ?_, sound_issue h.issued tpm2Hash_not_generated⟩
    · simpa [Sequence.act, hashAt] using h.objects
    · simpa [Sequence.act, hashAt] using h.contexts
  | contextSave i =>
    refine ⟨h.objects, ?_, h.issued⟩
    intro o ho
    rcases mem_cons.mp ho with rfl | ho
    · exact h.tracks ha
    · exact h.contexts o ho
  | contextLoad saved => exact h.objectAllocateSlot fun _ => h.contexts saved ha
  | flushContext i => exact h.update fun hno => absurd hno Bool.false_ne_true
  | objectLoad loaded =>
    refine h.objectAllocateSlot fun _ => tracks_of_not_hashSeq ?_
    have hkinds : objectIsSequence loaded = false := ha
    unfold objectIsSequence at hkinds
    simp only [Bool.or_eq_false_iff] at hkinds
    exact hkinds.1.2
  | objectFlush which =>
    refine ⟨fun i => ?_, h.contexts, h.issued⟩
    unfold Sequence.act
    dsimp only
    split_ifs
    · exact False.elim
    · exact h.objects i
  | newProofs proofs => exact ⟨h.objects, h.contexts, h.issued⟩
  | otherMac proof data =>
    refine ⟨h.objects, h.contexts, ?_⟩
    intro e he
    rcases mem_cons.mp he with rfl | he
    · exact ha
    · exact h.issued e he

lemma Acting.objectCleanupEvict (h : Acting t) : Settled (objectCleanupEvict t) where
  objects i := by
    unfold Sequence.objectCleanupEvict
    dsimp only
    split_ifs with hevict
    · exact False.elim
    · exact h.objects i
  contexts := h.contexts
  issued := h.issued
  evict i := by
    unfold Sequence.objectCleanupEvict
    dsimp only
    split_ifs with hevict
    · exact False.elim
    · exact fun _ => Bool.not_eq_true _ ▸ hevict

lemma reach_settled (h : (sequenceSystem c macEnd).Reach t) : Settled t := by
  refine h.invariant ?_ fun s a hs ha => (hs.act ha).objectCleanupEvict
  rintro s ⟨hempty, hcontexts, hissued⟩
  have hno {P : Prop} {i : Fin MAX_LOADED_OBJECTS}
      (hi : (s.objects i).attributes.occupied = true) : P :=
    absurd ((hempty i).symm.trans hi) Bool.false_ne_true
  exact ⟨⟨fun _ hi => hno hi, by simp [hcontexts], by simp [hissued]⟩, fun _ hi => hno hi⟩

/-! ## Signing -/

/-- A ticket that holds the HMAC of the string that `TPM2_Sign()` checks was given out by the TPM
for that string. -/
def Unforged (c : Crypto) (t : Tpm) (key : SignKey) (i : SignIn) : Prop :=
  ∀ scheme proof, cryptSelectSignScheme key i.inScheme = some scheme →
    t.proofs.hierarchyGetProof i.validation.hierarchy = .ok proof →
    i.validation.digest =
      c.hmac CONTEXT_INTEGRITY_HASH_ALG proof (hashcheckData scheme.hashAlg i.digest) →
    ∃ e ∈ t.issued, e.mac c = (proof, hashcheckData scheme.hashAlg i.digest)

/-- A ticket was given out for the message. -/
def Ticketed (t : Tpm) (hashAlg : UInt16) (message : Bytes) : Prop :=
  ∃ proof, .hashcheck proof hashAlg message ∈ t.issued

lemma hashcheckData_inj {hashAlg' : UInt16} {digest' : Bytes}
    (h : hashcheckData hashAlg digest = hashcheckData hashAlg' digest') :
    hashAlg = hashAlg' ∧ digest = digest' := by
  unfold hashcheckData at h
  obtain ⟨-, h⟩ := append_inj h (by simp)
  obtain ⟨halg, hdigest⟩ := append_inj h (by simp)
  exact ⟨UInt16.toNat_inj.mp (beBytes_inj hashAlg.toNat_lt hashAlg'.toNat_lt halg), hdigest⟩

lemma checkValidation_success {key : SignKey} {i : SignIn} (hkey : key.restricted = true)
    (h : checkValidation c proofs key i hashAlg = TPM_RC_SUCCESS) :
    ∃ proof, proofs.hierarchyGetProof i.validation.hierarchy = .ok proof ∧ i.validation.digest =
      c.hmac CONTEXT_INTEGRITY_HASH_ALG proof (hashcheckData hashAlg i.digest) := by
  unfold checkValidation ticketComputeHashCheck at h
  rw [if_pos (Or.inr hkey)] at h
  cases hproof : proofs.hierarchyGetProof i.validation.hierarchy with
  | error result =>
    rw [hproof] at h
    have hresult : result = TPM_RC_SUCCESS := h
    exact absurd (hresult ▸ hproof) (proofs.ne_success _)
  | ok proof =>
    rw [hproof] at h
    refine ⟨proof, rfl, ?_⟩
    by_contra hne
    have hcheck : (if i.validation.digest ≠ c.hmac CONTEXT_INTEGRITY_HASH_ALG proof
        (hashcheckData hashAlg i.digest) then TPM_RC_TICKET + rcP 3 else TPM_RC_SUCCESS) =
        TPM_RC_SUCCESS := h
    rw [if_pos hne] at hcheck
    cases hcheck

lemma tpm2Sign_success {cryptSign : SigScheme → TpmRc} {key : SignKey} {i : SignIn}
    (h : tpm2Sign c proofs cryptSign key i = TPM_RC_SUCCESS) :
    ∃ scheme, cryptSelectSignScheme key i.inScheme = some scheme ∧
      checkValidation c proofs key i scheme.hashAlg = TPM_RC_SUCCESS := by
  unfold tpm2Sign at h
  split_ifs at h
  · cases h
  · cases h
  cases hscheme : cryptSelectSignScheme key i.inScheme with
  | none =>
    rw [hscheme] at h
    exact absurd h (show ¬TPM_RC_SCHEME + rcP 2 = TPM_RC_SUCCESS by decide)
  | some scheme =>
    rw [hscheme] at h
    refine ⟨scheme, rfl, ?_⟩
    by_contra hne
    dsimp only at h
    rw [if_pos hne] at h
    exact hne h

/-- In a reachable state, the string of a ticket that was given out stands for a message that does
not start with the value. -/
lemma Settled.ticketed {proof : Bytes} (ht : Settled t) {e : Issued} (he : e ∈ t.issued)
    (hmac : e.mac c = (proof, hashcheckData hashAlg digest)) :
    ∃ message, Ticketed t hashAlg message ∧ digest = c.hash hashAlg.toNat message ∧
      ¬Generated message := by
  have hsound := ht.issued e he
  cases e with
  | hashcheck proof' hashAlg' message =>
    injection hmac with _ hdata
    obtain ⟨rfl, rfl⟩ := hashcheckData_inj hdata
    exact ⟨message, ⟨proof', he⟩, rfl, hsound⟩
  | other proof' data =>
    -- the string of a ticket starts with its tag
    injection hmac with _ hdata
    refine absurd ?_ hsound
    rw [hdata, hashcheckData, take_left' (by simp)]

/-- **A restricted key signs no fake attestation.** Wherever the machine has got to:
`TPM2_SequenceComplete()` gives a ticket only for a message of at least four bytes that does not
start with `TPM_GENERATED_VALUE`, `TPM2_Hash()` only for one that does not start with it; and
`TPM2_Sign()` with a restricted key and a ticket that was not forged succeeds only for the digest,
under the hash of the scheme, of a message for which there was a ticket.  Any message with this
digest that does not collide with those for which there were tickets does not start with the
value. -/
theorem restricted_key_signs (h : (sequenceSystem c macEnd).Reach t) :
    (∀ i buffer hierarchy out, (t.objects i).attributes.occupied = true →
      (completeAt c macEnd t i buffer hierarchy).1 = .ok out → out.validation.digest ≠ [] →
      out.result = c.hash ((t.objects i).hashState 0).hashAlg.toNat
          (((t.objects i).hashState 0).data ++ buffer) ∧
        4 ≤ (((t.objects i).hashState 0).data ++ buffer).length ∧
        ¬Generated (((t.objects i).hashState 0).data ++ buffer)) ∧
    (∀ data hashAlg hierarchy, (hashAt c t data hashAlg hierarchy).1.validation.digest ≠ [] →
      (hashAt c t data hashAlg hierarchy).1.result = c.hash hashAlg.toNat data ∧
        ¬Generated data) ∧
    ∀ cryptSign key i, key.restricted = true → Unforged c t key i →
      tpm2Sign c t.proofs cryptSign key i = TPM_RC_SUCCESS →
      ∃ scheme, cryptSelectSignScheme key i.inScheme = some scheme ∧
        (∃ message, Ticketed t scheme.hashAlg message ∧
          i.digest = c.hash scheme.hashAlg.toNat message ∧ ¬Generated message) ∧
        ∀ message, i.digest = c.hash scheme.hashAlg.toNat message →
          (∀ other, Ticketed t scheme.hashAlg other →
            c.hash scheme.hashAlg.toNat other = c.hash scheme.hashAlg.toNat message →
            other = message) →
          ¬Generated message := by
  have ht := reach_settled h
  refine ⟨?_, ?_, ?_⟩
  · intro i buffer hierarchy out hi hout hticket
    unfold completeAt at hout
    split at hout
    · cases hout
    case _ out' o hcomplete =>
      injection hout with heq
      subst heq
      have hdone := (ht.tracks hi).sequenceComplete hcomplete hticket
      obtain ⟨hlength, hvalue⟩ := (ticketIsSafe_iff _).mp hdone.safe
      exact ⟨hdone.result, hlength, hvalue⟩
  · intro data hashAlg hierarchy hticket
    exact ⟨rfl, tpm2Hash_not_generated hticket⟩
  · intro cryptSign key i hkey hunforged hsign
    obtain ⟨scheme, hscheme, hcheck⟩ := tpm2Sign_success hsign
    obtain ⟨proof, hproof, hpresented⟩ := checkValidation_success hkey hcheck
    obtain ⟨e, he, hmac⟩ := hunforged scheme proof hscheme hproof hpresented
    obtain ⟨message, hticketed, hdigest, hvalue⟩ := ht.ticketed he hmac
    refine ⟨scheme, hscheme, ⟨message, hticketed, hdigest, hvalue⟩, ?_⟩
    intro message' hdigest' hfree
    have hsame : message = message' := hfree message hticketed (hdigest ▸ hdigest')
    exact hsame ▸ hvalue

/-! ## Runs -/

/-- A hash of one byte and an HMAC from which the string can be read. -/
def plainCrypto : Crypto where
  digestSize _ := 1
  hash _ data := [data.foldr (· + ·) 0]
  hmac _ key data := key ++ data
  length_hash _ _ := rfl

/-- No object is loaded, and every hierarchy has the same proof. -/
def emptyTpm : Tpm where
  objects _ := ⟨{}, fun _ => ⟨ALG_NULL, []⟩⟩
  proofs := ⟨fun _ => .ok [7], fun _ heq => by cases heq⟩
  contexts := []
  issued := []

def plainSystem : System Tpm Action := sequenceSystem plainCrypto fun _ => []

lemma reach_emptyTpm : plainSystem.Reach emptyTpm := .start ⟨fun _ => rfl, rfl, rfl⟩

/-- A restricted key for RSASSA with SHA-256. -/
def restrictedKey : SignKey where
  isSigningObject := true
  x509sign := false
  restricted := true
  isSymCipher := false
  scheme := ⟨0x14, 0xB⟩

/-- The request to sign the digest of a message, with its ticket. -/
def signMessage (message : Bytes) : SignIn where
  digest := [message.sum]
  inScheme := ⟨ALG_NULL, ALG_NULL⟩
  validation := ⟨TPM_RH_OWNER, 7 :: hashcheckData 0xB [message.sum]⟩

lemma unforged_signMessage (hproofs : t.proofs = emptyTpm.proofs)
    (h : .hashcheck [7] 0xB message ∈ t.issued) :
    Unforged plainCrypto t restrictedKey (signMessage message) := by
  intro scheme proof _ hproof hdata
  rw [hproofs] at hproof
  cases hproof
  injection hdata with _ hdata
  exact ⟨_, h, Prod.ext rfl hdata⟩

/-- A sequence after its first buffer. -/
def firstPart : Tpm :=
  [.hashSequenceStart 0xB, .sequenceUpdate ⟨0, by decide⟩ [1, 2, 3, 4]].foldl plainSystem.step
    emptyTpm

/-- A message of five bytes comes in two parts, with the sequence saved and loaded in between. -/
def twoParts : List Action :=
  [.hashSequenceStart 0xB, .sequenceUpdate ⟨0, by decide⟩ [1, 2, 3, 4],
    .contextSave ⟨0, by decide⟩, .contextLoad (firstPart.objects ⟨0, by decide⟩),
    .sequenceComplete ⟨1, by decide⟩ [5] TPM_RH_OWNER]

lemma reach_twoParts : plainSystem.Reach (twoParts.foldl plainSystem.step emptyTpm) :=
  reach_emptyTpm.path twoParts
    ⟨trivial, trivial, rfl, mem_cons_self, trivial, trivial⟩

theorem restricted_key_signs_five_bytes :
    tpm2Sign plainCrypto (twoParts.foldl plainSystem.step emptyTpm).proofs
        (fun _ => TPM_RC_SUCCESS) restrictedKey (signMessage [1, 2, 3, 4, 5]) = TPM_RC_SUCCESS ∧
      ∃ scheme, cryptSelectSignScheme restrictedKey ⟨ALG_NULL, ALG_NULL⟩ = some scheme ∧
        ∃ message, Ticketed (twoParts.foldl plainSystem.step emptyTpm) scheme.hashAlg message ∧
          [15] = plainCrypto.hash scheme.hashAlg.toNat message ∧ ¬Generated message := by
  have hsign : tpm2Sign plainCrypto (twoParts.foldl plainSystem.step emptyTpm).proofs
      (fun _ => TPM_RC_SUCCESS) restrictedKey (signMessage [1, 2, 3, 4, 5]) = TPM_RC_SUCCESS := by
    decide
  have hunforged : Unforged plainCrypto (twoParts.foldl plainSystem.step emptyTpm) restrictedKey
      (signMessage [1, 2, 3, 4, 5]) := unforged_signMessage rfl mem_cons_self
  obtain ⟨scheme, hscheme, hmessage, -⟩ :=
    (restricted_key_signs reach_twoParts).2.2 _ restrictedKey _ rfl hunforged hsign
  exact ⟨hsign, scheme, hscheme, hmessage⟩

/-- `TPM2_Hash()` gives a ticket for a message of three bytes, and a restricted key then signs its
digest. -/
theorem short_message_ticketed :
    plainSystem.Reach emptyTpm ∧
      (hashAt plainCrypto emptyTpm [0xFF, 0x54, 0x43] 0xB TPM_RH_OWNER).1.validation.digest ≠ [] ∧
      Unforged plainCrypto (hashAt plainCrypto emptyTpm [0xFF, 0x54, 0x43] 0xB TPM_RH_OWNER).2
        restrictedKey (signMessage [0xFF, 0x54, 0x43]) ∧
      tpm2Sign plainCrypto
        (hashAt plainCrypto emptyTpm [0xFF, 0x54, 0x43] 0xB TPM_RH_OWNER).2.proofs
        (fun _ => TPM_RC_SUCCESS) restrictedKey (signMessage [0xFF, 0x54, 0x43]) =
          TPM_RC_SUCCESS :=
  ⟨reach_emptyTpm, by decide, unforged_signMessage rfl mem_cons_self, by decide⟩

end RfTpm.Sequence
