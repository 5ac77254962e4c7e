import RfTpm.Auth.Policy
import RfTpm.Lib.Runs

/-!
# The conditions of a policy session only tighten

A policy command that succeeds records a condition in the session, and a session that
refuses a use on account of a condition has to go on refusing it.  `Tightens` compares two
sessions field by field, `Tightens.onlyTightens` turns that into a statement about the uses
they refuse, and each policy command is shown to tighten.

One way out is open.  `PolicyParameterChecks()` compares the value of a `cpHashA` with the union
`u1` without asking which kind of digest the union holds, and `PolicyContextUpdate()` then marks it
as a `cpHash`.  A name hash, parameters hash or template hash is so turned into a `cpHash` with the
same value, by which other commands are accepted.
-/

namespace RfTpm.Auth

open Bytes Runs

/-! ## What a session refuses -/

/-- The conditions on account of which a use of a session can be refused. -/
inductive Account where
  | timeout
  | commandCode
  | locality
  | physicalPresence
  | digest
  | nvWritten
  deriving DecidableEq

/-- The session refuses the use on this account. -/
def refuses (c : Crypto) (u : Use) (session : Session) : Account → Bool
  | .timeout => session.timeout != 0 && (u.nvStatus != TPM_RC_SUCCESS || isExpired u session)
  | .commandCode => isOtherCommand u session
  | .locality => isOtherLocality u session
  | .physicalPresence => isPresenceMissing u session
  | .digest => isOtherDigest c u session
  | .nvWritten => isOtherNvState u session

lemma refuses_refused {c : Crypto} {u : Use} {session : Session} {account : Account}
    (h : refuses c u session account = true) :
    checkPolicyAuthSession c u session ≠ TPM_RC_SUCCESS := by
  intro hsuccess
  have hsat := checkPolicyAuthSession_satisfied hsuccess
  cases account with
  | timeout =>
    simp only [refuses, Bool.and_eq_true, Bool.or_eq_true, bne_iff_ne] at h
    obtain ⟨hne, hnv | hexpired⟩ := h
    · exact hnv (hsat.nv hne)
    · exact nomatch hsat.time.symm.trans hexpired
  | commandCode => exact nomatch hsat.command.symm.trans h
  | locality => exact nomatch hsat.locality.symm.trans h
  | physicalPresence => exact nomatch hsat.presence.symm.trans h
  | digest => exact nomatch hsat.digest.symm.trans h
  | nvWritten => exact nomatch hsat.nvState.symm.trans h

/-- The kinds of digest that the union can hold. -/
inductive DigestKind where
  | cpHash
  | nameHash
  | parametersHash
  | templateHash
  deriving DecidableEq

/-- The kind that `CheckPolicyAuthSession()` takes the digest for. -/
def digestKind (session : Session) : Option DigestKind :=
  if session.u1.length = 0 then none
  else if session.attributes.isCpHashDefined then some .cpHash
  else if session.attributes.isNameHashDefined then some .nameHash
  else if session.attributes.isParametersHashDefined then some .parametersHash
  else if session.attributes.isTemplateHashDefined then some .templateHash
  else none

/-- The authorization value or a password is required. -/
def needsAuth (session : Session) : Bool :=
  session.attributes.isAuthValueNeeded || session.attributes.isPasswordNeeded

/-- Between two states of a session: what was refused on some account is still refused on
it, an authorization value or password that was required is still required, a digest keeps
its kind, and a use that lacks a command code is refused until the code of its own command
is recorded. -/
structure OnlyTightens (c : Crypto) (s s' : Session) : Prop where
  refuses : ∀ u account, refuses c u s account = true → refuses c u s' account = true
  needsAuth : needsAuth s = true → needsAuth s' = true
  digestKind : ∀ kind, digestKind s = some kind → digestKind s' = some kind
  role : ∀ u, u.role = .admin ∨ u.role = .dup → s.commandCode = 0 → s'.commandCode ≠ u.code →
    checkPolicyAuthSession c u s' ≠ TPM_RC_SUCCESS

/-! ## Tightening, field by field -/

/-- One locality setting is contained in another: a subset of normal localities, or the same
extended one. -/
def LocalityWithin (locality' locality : UInt8) : Prop :=
  locality' = locality ∨ locality < 32 ∧ locality' ≠ 0 ∧ locality' &&& locality = locality'

/-- The kinds of digest that are defined are the same. -/
def SameKinds (a a' : SessionAttributes) : Prop :=
  a'.isCpHashDefined = a.isCpHashDefined ∧ a'.isNameHashDefined = a.isNameHashDefined ∧
    a'.isParametersHashDefined = a.isParametersHashDefined ∧
    a'.isTemplateHashDefined = a.isTemplateHashDefined

/-- A digest that is set has a kind. -/
def HasKind (session : Session) : Prop :=
  session.u1 ≠ [] → isCpHashUnionOccupied session.attributes = true

/-- Every condition of the first session is a condition of the second, or is implied by
one, and the second has no digest without a kind if the first has none. -/
structure Tightens (s s' : Session) : Prop where
  authHashAlg : s'.authHashAlg = s.authHashAlg
  epoch : s'.epoch = s.epoch
  timeout : s.timeout ≠ 0 → s'.timeout ≠ 0 ∧ s'.timeout ≤ s.timeout
  commandCode : s.commandCode ≠ 0 → s'.commandCode = s.commandCode
  locality : s.commandLocality ≠ 0 → LocalityWithin s'.commandLocality s.commandLocality
  presence : s.attributes.isPPRequired = true → s'.attributes.isPPRequired = true
  digest : s.u1 ≠ [] → s'.u1 = s.u1 ∧ SameKinds s.attributes s'.attributes
  nvWritten : s.attributes.checkNvWritten = true → s'.attributes.checkNvWritten = true ∧
    s'.attributes.nvWrittenState = s.attributes.nvWrittenState
  needsAuth : needsAuth s = true → Auth.needsAuth s' = true
  hasKind : HasKind s → HasKind s'

lemma SameKinds.rfl' (a : SessionAttributes) : SameKinds a a := ⟨rfl, rfl, rfl, rfl⟩

lemma Tightens.refl (s : Session) : Tightens s s where
  authHashAlg := rfl
  epoch := rfl
  timeout h := ⟨h, UInt64.le_refl _⟩
  commandCode _ := rfl
  locality _ := .inl rfl
  presence := id
  digest _ := ⟨rfl, SameKinds.rfl' _⟩
  nvWritten h := ⟨h, rfl⟩
  needsAuth := id
  hasKind := id

lemma LocalityWithin.ne_zero {locality' locality : UInt8}
    (h : LocalityWithin locality' locality) (hne : locality ≠ 0) : locality' ≠ 0 := by
  obtain rfl | ⟨-, hne', -⟩ := h
  · exact hne
  · exact hne'

lemma LocalityWithin.trans {a b d : UInt8} (hab : LocalityWithin b a)
    (hbd : LocalityWithin d b) : LocalityWithin d a := by
  obtain rfl | ⟨hnormal, hne, hsub⟩ := hab
  · exact hbd
  obtain rfl | ⟨-, hne', hsub'⟩ := hbd
  · exact .inr ⟨hnormal, hne, hsub⟩
  refine .inr ⟨hnormal, hne', ?_⟩
  rw [← hsub', UInt8.and_assoc, hsub]

lemma LocalityWithin.isOtherLocality {s s' : Session} {u : Use}
    (h : LocalityWithin s'.commandLocality s.commandLocality)
    (hother : isOtherLocality u s = true) : Auth.isOtherLocality u s' = true := by
  obtain heq | ⟨hnormal, hne', hsub⟩ := h
  · unfold Auth.isOtherLocality at hother ⊢
    rw [heq]
    exact hother
  · have hle : s'.commandLocality ≤ s.commandLocality := by
      rw [← hsub, UInt8.le_iff_toNat_le, UInt8.toNat_and]
      exact Nat.and_le_right
    have hnormal' : s'.commandLocality < 32 := UInt8.lt_of_le_of_lt hle hnormal
    unfold Auth.isOtherLocality at hother ⊢
    rw [Bool.and_eq_true] at hother ⊢
    refine ⟨by simpa using hne', ?_⟩
    obtain ⟨-, hother⟩ := hother
    split_ifs at hother ⊢ with hlow hhigh
    · -- the bit of a normal locality, which the smaller set does not have either
      have hbit : s.commandLocality &&& (1 : UInt8) <<< u.locality = 0 := by
        have hle31 : ¬ s.commandLocality > 31 := by
          rw [gt_iff_lt, UInt8.lt_iff_toNat_lt]
          rw [UInt8.lt_iff_toNat_lt] at hnormal
          exact Nat.not_lt.2 (Nat.le_of_lt_succ hnormal)
        simpa [hle31] using hother
      have hbit' : s'.commandLocality &&& (1 : UInt8) <<< u.locality = 0 := by
        rw [← hsub, UInt8.and_assoc, hbit, UInt8.and_zero]
      simp [hbit']
    · have hne : s'.commandLocality ≠ u.locality := by
        intro heq
        rw [heq] at hnormal'
        rw [gt_iff_lt, UInt8.lt_iff_toNat_lt] at hhigh
        rw [UInt8.lt_iff_toNat_lt] at hnormal'
        exact absurd hnormal' (Nat.not_lt.2 hhigh)
      simpa using hne
    · rfl

namespace Tightens

variable {c : Crypto} {s s' : Session} {u : Use}

lemma trans {s'' : Session} (h : Tightens s s') (h' : Tightens s' s'') : Tightens s s'' where
  authHashAlg := h'.authHashAlg.trans h.authHashAlg
  epoch := h'.epoch.trans h.epoch
  timeout hne := by
    obtain ⟨hne', hle⟩ := h.timeout hne
    obtain ⟨hne'', hle'⟩ := h'.timeout hne'
    exact ⟨hne'', UInt64.le_trans hle' hle⟩
  commandCode hne := by
    have heq := h.commandCode hne
    rw [← heq] at hne
    exact (h'.commandCode hne).trans heq
  locality hne := (h.locality hne).trans (h'.locality ((h.locality hne).ne_zero hne))
  presence hp := h'.presence (h.presence hp)
  digest hne := by
    obtain ⟨hu1, hcp, hname, hparameters, htemplate⟩ := h.digest hne
    have hne' : s'.u1 ≠ [] := hu1 ▸ hne
    obtain ⟨hu1', hcp', hname', hparameters', htemplate'⟩ := h'.digest hne'
    exact ⟨hu1'.trans hu1, hcp'.trans hcp, hname'.trans hname, hparameters'.trans hparameters,
      htemplate'.trans htemplate⟩
  nvWritten hcheck := by
    obtain ⟨hcheck', hstate⟩ := h.nvWritten hcheck
    obtain ⟨hcheck'', hstate'⟩ := h'.nvWritten hcheck'
    exact ⟨hcheck'', hstate'.trans hstate⟩
  needsAuth hauth := h'.needsAuth (h.needsAuth hauth)
  hasKind hkind := h'.hasKind (h.hasKind hkind)

lemma refuses_timeout (h : Tightens s s') (href : Auth.refuses c u s .timeout = true) :
    Auth.refuses c u s' .timeout = true := by
  simp only [Auth.refuses, isExpired, Bool.and_eq_true, Bool.or_eq_true, bne_iff_ne,
    decide_eq_true_eq] at href ⊢
  obtain ⟨hne, hcause⟩ := href
  obtain ⟨hne', hle⟩ := h.timeout hne
  refine ⟨hne', ?_⟩
  obtain hnv | ⟨-, hlt | hepoch⟩ := hcause
  · exact .inl hnv
  · exact .inr ⟨hne', .inl (UInt64.lt_of_le_of_lt hle hlt)⟩
  · exact .inr ⟨hne', .inr (h.epoch ▸ hepoch)⟩

lemma refuses_commandCode (h : Tightens s s') (href : isOtherCommand u s = true) :
    isOtherCommand u s' = true := by
  simp only [isOtherCommand, Bool.and_eq_true, bne_iff_ne] at href ⊢
  rw [h.commandCode href.1]
  exact href

lemma refuses_locality (h : Tightens s s') (href : isOtherLocality u s = true) :
    isOtherLocality u s' = true := by
  have hset : s.commandLocality ≠ 0 := by
    have href' := href
    rw [isOtherLocality, Bool.and_eq_true] at href'
    simpa using href'.1
  exact (h.locality hset).isOtherLocality href

lemma refuses_presence (h : Tightens s s') (href : isPresenceMissing u s = true) :
    isPresenceMissing u s' = true := by
  simp only [isPresenceMissing, Bool.and_eq_true] at href ⊢
  exact ⟨h.presence href.1, href.2⟩

lemma compareDigest_eq (h : Tightens s s') (hset : s.u1 ≠ []) :
    compareDigest c u s' = compareDigest c u s := by
  obtain ⟨hu1, hcp, hname, hparameters, htemplate⟩ := h.digest hset
  unfold compareDigest compareNameHash compareParametersHash compareTemplateHash
  rw [hu1, hcp, hname, hparameters, htemplate, h.authHashAlg]

lemma refuses_digest (h : Tightens s s') (href : isOtherDigest c u s = true) :
    isOtherDigest c u s' = true := by
  simp only [isOtherDigest, Bool.and_eq_true, bne_iff_ne, ne_eq, List.length_eq_zero_iff]
    at href ⊢
  refine ⟨(h.digest href.1).1 ▸ href.1, ?_⟩
  rw [h.compareDigest_eq href.1]
  exact href.2

lemma refuses_nvWritten (h : Tightens s s') (href : isOtherNvState u s = true) :
    isOtherNvState u s' = true := by
  simp only [isOtherNvState, Bool.and_eq_true] at href ⊢
  obtain ⟨hcheck, hstate⟩ := h.nvWritten href.1
  rw [hstate]
  exact ⟨hcheck, href.2⟩

lemma onlyTightens (h : Tightens s s') : OnlyTightens c s s' := by
  constructor
  case refuses =>
    intro u account href
    cases account with
    | timeout => exact h.refuses_timeout href
    | commandCode => exact h.refuses_commandCode href
    | locality => exact h.refuses_locality href
    | physicalPresence => exact h.refuses_presence href
    | digest => exact h.refuses_digest href
    | nvWritten => exact h.refuses_nvWritten href
  case needsAuth => exact h.needsAuth
  case digestKind =>
    intro kind hkind
    have hset : s.u1 ≠ [] := by
      intro hnil
      simp [Auth.digestKind, hnil] at hkind
    obtain ⟨hu1, hcp, hname, hparameters, htemplate⟩ := h.digest hset
    unfold Auth.digestKind at hkind ⊢
    rw [hu1, hcp, hname, hparameters, htemplate]
    exact hkind
  case role =>
    intro u hrole _ hcode hsuccess
    have hsat := checkPolicyAuthSession_satisfied hsuccess
    have hset := hsat.role hrole
    have hcommand := hsat.command
    simp [isOtherCommand, hset, hcode] at hcommand

end Tightens

/-! ## Every policy command tightens -/

/-- The `cpHashA` that a command carries. -/
def PolicyCommand.cpHashA : PolicyCommand → Bytes
  | .signed i => i.cpHashA
  | .secret i => i.cpHashA
  | .ticket i => i.cpHashA
  | _ => []

/-- A `cpHashA` meets a digest that is set only where that is the same `cpHash`. -/
def KeepsKind (cpHashA : Bytes) (session : Session) : Prop :=
  cpHashA ≠ [] → session.u1 ≠ [] →
    session.attributes.isCpHashDefined = true ∧ cpHashA = session.u1

section Commands

variable {c : Crypto} {env : PolicyEnv} {s : Session}

/-- A command that is refused leaves the session alone. -/
lemma tightens_unless {p : Prop} [Decidable p] {rc : TpmRc} {y : TpmRc × Session}
    (h : ¬p → Tightens s y.2) : Tightens s (if p then (rc, s) else y).2 := by
  split
  case isTrue => exact .refl s
  case isFalse hp => exact h hp

lemma tightens_extendPolicy (data : Bytes) (s : Session) :
    Tightens s (extendPolicy c data s) := { Tightens.refl s with }

lemma tightens_policyDigestClear (s : Session) : Tightens s (policyDigestClear c s) :=
  { Tightens.refl s with }

lemma tightens_setCpHash (cpHash : Bytes) (s : Session) (h : KeepsKind cpHash s) :
    Tightens s (setCpHash cpHash s) := by
  unfold setCpHash
  split
  · rename_i hne
    refine { Tightens.refl s with digest := fun hset => ?_, hasKind := fun _ _ => ?_ }
    · obtain ⟨hdefined, heq⟩ := h hne hset
      exact ⟨heq, hdefined.symm, rfl, rfl, rfl⟩
    · simp [isCpHashUnionOccupied]
  · exact .refl s

lemma tightens_setTimeout (policyTimeout : UInt64) (s : Session) :
    Tightens s (setTimeout policyTimeout s) := by
  unfold setTimeout
  split
  case isTrue hset =>
    obtain ⟨hpolicy, hlarger⟩ := hset
    refine { Tightens.refl s with timeout := fun hne => ⟨hpolicy, ?_⟩ }
    exact UInt64.le_of_lt (hlarger.resolve_left hne)
  case isFalse => exact .refl s

lemma tightens_policyContextUpdate {commandCode : ℕ} {name : Bytes}
    {ref : Option Bytes} {cpHash : Bytes} {policyTimeout : UInt64} {rc : TpmRc}
    (h : KeepsKind cpHash s) :
    Tightens s (rc, policyContextUpdate c commandCode name ref cpHash policyTimeout s).2 := by
  unfold policyContextUpdate
  refine .trans ?_ (tightens_setTimeout _ _)
  have hextended : Tightens s (extendPolicy c (beBytes 4 commandCode ++ name) s) :=
    tightens_extendPolicy _ s
  cases ref with
  | none => exact hextended.trans (tightens_setCpHash cpHash _ h)
  | some ref =>
    have hagain := hextended.trans (tightens_extendPolicy (c := c) ref _)
    exact hagain.trans (tightens_setCpHash cpHash _ h)

lemma tightens_policySigned {i : AuthorizationIn} (h : KeepsKind i.cpHashA s) :
    Tightens s (policySigned c env i s).2 := by
  refine tightens_unless fun _ => tightens_unless fun _ => ?_
  dsimp only
  split_ifs <;> exact tightens_policyContextUpdate h

lemma tightens_policySecret {i : AuthorizationIn} (h : KeepsKind i.cpHashA s) :
    Tightens s (policySecret c env i s).2 := by
  refine tightens_unless fun _ => ?_
  split <;> exact tightens_policyContextUpdate h

lemma tightens_policyTicket {i : TicketIn} (h : KeepsKind i.cpHashA s) :
    Tightens s (policyTicket c env i s).2 :=
  tightens_unless fun _ => tightens_unless fun _ => tightens_unless fun _ =>
    tightens_unless fun _ => tightens_policyContextUpdate h

lemma tightens_policyOR (digests : List Bytes) (s : Session) :
    Tightens s (policyOR c digests s).2 := by
  unfold policyOR
  split
  · exact (tightens_policyDigestClear s).trans (tightens_extendPolicy _ _)
  · exact .refl s

lemma tightens_policyCondition (commandCode : ℕ) (evaluate : TpmRc)
    (arguments name : Bytes) (s : Session) :
    Tightens s (policyCondition c commandCode evaluate arguments name s).2 :=
  tightens_unless fun _ => tightens_extendPolicy _ s

lemma tightens_policyCounterTimer (bounds evaluate : TpmRc) (arguments : Bytes)
    (s : Session) : Tightens s (policyCounterTimer c bounds evaluate arguments s).2 :=
  tightens_unless fun _ => tightens_policyCondition _ _ _ _ s

lemma keepsKind_nil (s : Session) : KeepsKind [] s := fun h => absurd rfl h

lemma tightens_policyAuthorize (keySign ticket : TpmRc)
    (approvedPolicy policyRef keyName : Bytes) (s : Session) :
    Tightens s (policyAuthorize c keySign ticket approvedPolicy policyRef keyName s).2 :=
  tightens_unless fun _ => tightens_unless fun _ => tightens_unless fun _ =>
    (tightens_policyDigestClear s).trans (tightens_policyContextUpdate (keepsKind_nil _))

lemma tightens_policyAuthorizeNV (read : TpmRc) (hashAlg : ℕ) (digest name : Bytes)
    (s : Session) : Tightens s (policyAuthorizeNV c read hashAlg digest name s).2 :=
  tightens_unless fun _ => tightens_unless fun _ => tightens_unless fun _ =>
    (tightens_policyDigestClear s).trans (tightens_policyContextUpdate (keepsKind_nil _))

lemma tightens_policyPCR (pcrs pcrDigest : Bytes) (s : Session) :
    Tightens s (policyPCR c env pcrs pcrDigest s).2 := by
  unfold policyPCR
  dsimp only
  split_ifs
  all_goals exact { Tightens.refl s with }

lemma tightens_policyPhysicalPresence (s : Session) :
    Tightens s (policyPhysicalPresence c s).2 :=
  { Tightens.refl s with presence := fun _ => rfl }

lemma nextLocality_within {prev locality next : UInt8}
    (h : nextLocality prev locality = some next) (hset : prev ≠ 0) :
    LocalityWithin next prev := by
  unfold nextLocality at h
  dsimp only at h
  rw [if_neg hset] at h
  split_ifs at h with hzero htype hnormal hnil hother
  · have hprev : prev < 32 := by
      have htype' := not_and.mp htype hset
      simpa [hnormal] using htype'
    obtain rfl := Option.some.inj h
    refine .inr ⟨hprev, hnil, ?_⟩
    rw [UInt8.and_comm prev locality, UInt8.and_assoc, UInt8.and_self]
  · obtain rfl := Option.some.inj h
    exact .inl (not_not.mp (not_and.mp hother hset)).symm

lemma tightens_policyLocality (locality : UInt8) (s : Session) :
    Tightens s (policyLocality c locality s).2 := by
  unfold policyLocality
  cases hnext : nextLocality s.commandLocality locality with
  | none => exact .refl s
  | some next =>
    exact { Tightens.refl s with locality := fun hset => nextLocality_within hnext hset }

lemma tightens_policyCommandCode (isImplemented : ℕ → Bool) (code : ℕ) (s : Session) :
    Tightens s (policyCommandCode c isImplemented code s).2 := by
  refine tightens_unless fun hother => tightens_unless fun _ =>
    { Tightens.refl s with commandCode := fun hset => ?_ }
  exact (not_not.mp (not_and.mp hother hset)).symm

lemma tightens_policyCpHash (h : HasKind s) (cpHashA : Bytes) :
    Tightens s (policyCpHash c cpHashA s).2 := by
  refine tightens_unless fun _ => tightens_unless fun hconflict =>
    { Tightens.refl s with digest := fun hset => ?_, hasKind := fun _ _ => ?_ }
  · have hsame := not_or.mp (not_and.mp hconflict (h hset))
    exact ⟨not_not.mp hsame.2, by simpa using hsame.1, rfl, rfl, rfl⟩
  · simp [isCpHashUnionOccupied]

lemma tightens_policyTemplate (h : HasKind s) (templateHash : Bytes) :
    Tightens s (policyTemplate c templateHash s).2 := by
  refine tightens_unless fun hconflict => tightens_unless fun _ =>
    { Tightens.refl s with digest := fun hset => ?_, hasKind := fun _ _ => ?_ }
  · have hsame := not_or.mp (not_and.mp hconflict (h hset))
    exact ⟨not_not.mp hsame.2, rfl, rfl, rfl, by simpa using hsame.1⟩
  · simp [isCpHashUnionOccupied]

lemma tightens_policyNameHash (h : HasKind s) (nameHash : Bytes) :
    Tightens s (policyNameHash c nameHash s).2 := by
  refine tightens_unless fun _ => tightens_unless fun hoccupied =>
    { Tightens.refl s with digest := ?_, hasKind := fun _ _ => ?_ }
  · exact fun hset => absurd (h hset) hoccupied
  · simp [isCpHashUnionOccupied]

lemma tightens_policyParameters (h : HasKind s) (pHash : Bytes) :
    Tightens s (policyParameters c pHash s).2 := by
  refine tightens_unless fun _ => tightens_unless fun hoccupied =>
    { Tightens.refl s with digest := ?_, hasKind := fun _ _ => ?_ }
  · exact fun hset => absurd (h hset) hoccupied
  · simp [isCpHashUnionOccupied]

lemma tightens_policyDuplicationSelect (objectName newParentName : Bytes)
    (includeObject : Bool) (s : Session) :
    Tightens s (policyDuplicationSelect c objectName newParentName includeObject s).2 := by
  refine tightens_unless fun hdigest => tightens_unless fun hcode =>
    { Tightens.refl s with commandCode := ?_, digest := ?_, hasKind := fun _ _ => ?_ }
  · exact fun hset => absurd hset hcode
  · exact fun hset => absurd (List.eq_nil_of_length_eq_zero (not_not.mp hdigest)) hset
  · simp [isCpHashUnionOccupied]

lemma tightens_policyAuthValue (s : Session) : Tightens s (policyAuthValue c s).2 :=
  { Tightens.refl s with needsAuth := fun _ => rfl }

lemma tightens_policyPassword (s : Session) : Tightens s (policyPassword c s).2 :=
  { Tightens.refl s with needsAuth := fun _ => rfl }

lemma tightens_policyNvWritten (writtenSet : Bool) (s : Session) :
    Tightens s (policyNvWritten c writtenSet s).2 := by
  refine tightens_unless fun hconflict =>
    { Tightens.refl s with nvWritten := fun hcheck => ⟨rfl, ?_⟩ }
  exact (not_not.mp (not_and.mp hconflict hcheck)).symm

lemma tightens_execute {command : PolicyCommand} (hcommand : KeepsKind command.cpHashA s)
    (hkind : HasKind s) : Tightens s (command.execute c env s).2 := by
  cases command with
  | signed i => exact tightens_policySigned hcommand
  | secret i => exact tightens_policySecret hcommand
  | ticket i => exact tightens_policyTicket hcommand
  | or digests => exact tightens_policyOR digests s
  | pcr pcrs digest => exact tightens_policyPCR pcrs digest s
  | physicalPresence => exact tightens_policyPhysicalPresence s
  | locality setting => exact tightens_policyLocality setting s
  | nv evaluate arguments name => exact tightens_policyCondition _ _ _ _ s
  | counterTimer bounds evaluate arguments => exact tightens_policyCounterTimer _ _ _ s
  | capability evaluate arguments => exact tightens_policyCondition _ _ _ _ s
  | commandCode isImplemented code => exact tightens_policyCommandCode isImplemented code s
  | cpHash digest => exact tightens_policyCpHash hkind digest
  | nameHash digest => exact tightens_policyNameHash hkind digest
  | duplicationSelect object parent includeObject =>
    exact tightens_policyDuplicationSelect object parent includeObject s
  | authorize keySign verified approved ref name => exact tightens_policyAuthorize _ _ _ _ _ s
  | authorizeNV read hashAlg digest name => exact tightens_policyAuthorizeNV _ _ _ _ s
  | authValue => exact tightens_policyAuthValue s
  | password => exact tightens_policyPassword s
  | getDigest => exact .refl s
  | nvWritten written => exact tightens_policyNvWritten written s
  | template digest => exact tightens_policyTemplate hkind digest
  | parameters digest => exact tightens_policyParameters hkind digest

end Commands

/-! ## Runs of policy commands -/

/-- A policy command, and the state of the TPM it finds. -/
structure PolicyStep where
  env : PolicyEnv
  command : PolicyCommand

/-- The runs of successful policy commands on a session.  A policy session that is created,
restarted or has been used has no digest. -/
def policySystem (c : Crypto) : System Session PolicyStep where
  init s := s.attributes.isPolicy = true ∧ s.u1 = []
  enabled s i := (i.command.execute c i.env s).1 = TPM_RC_SUCCESS
  step s i := (i.command.execute c i.env s).2

/-- The condition on a step: a `cpHashA` finds the union empty, or finds in it the same value
as a `cpHash`. -/
def CpHashAgrees (s : Session) (i : PolicyStep) : Prop := KeepsKind i.command.cpHashA s

lemma hasKind_of_reach {c : Crypto} {s : Session}
    (h : ((policySystem c).restrict CpHashAgrees).Reach s) : HasKind s := by
  refine h.invariant ?_ ?_
  · intro s hinit hne
    exact absurd hinit.2 hne
  · intro s i hkind hi
    exact (tightens_execute hi.2 hkind).hasKind hkind

/-- In a run in which every `cpHashA` agrees with the digest it finds, every policy command
only tightens the conditions of its session. -/
theorem only_tightens (c : Crypto) {s : Session} {i : PolicyStep}
    (h : ((policySystem c).restrict CpHashAgrees).Reach s)
    (hi : ((policySystem c).restrict CpHashAgrees).enabled s i) :
    OnlyTightens c s ((policySystem c).step s i) :=
  (tightens_execute hi.2 (hasKind_of_reach h)).onlyTightens

/-! ## A name hash becomes a `cpHash` -/

/-- A hash function with digests of one byte, the sum of the data. -/
def sumCrypto : Crypto where
  digestSize _ := 1
  hash _ data := [data.sum]
  hmac _ key data := [key.sum + data.sum]
  length_hash _ _ := rfl

/-- A policy session as it is created, for a hash algorithm with digests of one byte. -/
def freshSession : Session where
  attributes :=
    { isPolicy := true, isAudit := false, isBound := false, isCpHashDefined := false
      isNameHashDefined := false, isParametersHashDefined := false
      isTemplateHashDefined := false, isAuthValueNeeded := false, isPasswordNeeded := false
      isPPRequired := false, isTrialPolicy := false, isDaBound := false
      isLockoutBound := false, includeAuth := false, checkNvWritten := false
      nvWrittenState := false }
  pcrCounter := 0
  startTime := 0
  timeout := 0
  epoch := 0
  commandCode := 0
  authHashAlg := 0x0B
  commandLocality := 0
  symmetric := false
  sessionKey := []
  nonceTPM := []
  u1 := []
  u2 := [0]

/-- The state of the TPM in which the commands below run. -/
def quietEnv : PolicyEnv where
  nvStatus := TPM_RC_SUCCESS
  time := 0
  timeEpoch := 0
  pcrCounter := 0
  pcrDigest _ _ := [0]

/-- `TPM2_PolicyNameHash()` with the digest of no names, 7. -/
def setNameHash : PolicyStep := ⟨quietEnv, .nameHash [7]⟩

/-- `TPM2_PolicySigned()` with a valid signature and 7 as `cpHashA`. -/
def signCpHash : PolicyStep :=
  ⟨quietEnv, .signed
    { nonceTPM := [], cpHashA := [7], policyRef := [], expiration := 0, name := []
      validate := TPM_RC_SUCCESS, ticket := TPM_RC_SUCCESS, isPinPass := false }⟩

/-- A use for the command 7, without handles and parameters, of an entity whose policy the
two commands fulfil. -/
def otherUse : Use where
  code := 7
  role := .user
  names := []
  parameters := []
  authPolicy := [0xD9]
  policyAlg := 0x0B
  nvWritten := none
  pcrCounter := 0
  nvStatus := TPM_RC_SUCCESS
  time := 0
  timeEpoch := 0
  locality := 0
  physicalPresence := false

lemma enabled_setNameHash : (policySystem sumCrypto).enabled freshSession setNameHash := by
  show (setNameHash.command.execute sumCrypto setNameHash.env freshSession).1 = TPM_RC_SUCCESS
  decide

/-- One command for each of the conditions, and the digest 7 as a `cpHash` in the end. -/
def recordConditions : List PolicyStep :=
  [⟨quietEnv, .signed
      { nonceTPM := [], cpHashA := [], policyRef := [], expiration := 1, name := []
        validate := TPM_RC_SUCCESS, ticket := TPM_RC_SUCCESS, isPinPass := false }⟩,
    ⟨quietEnv, .commandCode (fun _ => true) 8⟩, ⟨quietEnv, .locality 2⟩,
    ⟨quietEnv, .physicalPresence⟩, ⟨quietEnv, .nvWritten true⟩, ⟨quietEnv, .authValue⟩,
    ⟨quietEnv, .cpHash [7]⟩]

/-- The session after these. -/
def recordedSession : Session := recordConditions.foldl (policySystem sumCrypto).step freshSession

instance (c : Crypto) (s : Session) (i : PolicyStep) :
    Decidable (((policySystem c).restrict CpHashAgrees).enabled s i) :=
  inferInstanceAs (Decidable (_ = _ ∧ (_ ≠ _ → _ ≠ _ → _ = _ ∧ _ = _)))

/-- Signing the `cpHash` that is recorded keeps every condition: each refuses a late use with
another command, and goes on to do so. -/
theorem only_tightens_recorded :
    ((policySystem sumCrypto).restrict CpHashAgrees).Reach recordedSession ∧
      ((policySystem sumCrypto).restrict CpHashAgrees).enabled recordedSession signCpHash ∧
      (∀ account, refuses sumCrypto { otherUse with code := 9, time := 2000 } recordedSession
        account = true) ∧
      needsAuth recordedSession = true ∧ digestKind recordedSession = some .cpHash ∧
      OnlyTightens sumCrypto recordedSession
        ((policySystem sumCrypto).step recordedSession signCpHash) := by
  have hstart : ((policySystem sumCrypto).restrict CpHashAgrees).Reach freshSession :=
    .start ⟨rfl, rfl⟩
  have hreach := hstart.path recordConditions (by decide)
  have henabled : ((policySystem sumCrypto).restrict CpHashAgrees).enabled recordedSession
      signCpHash := by
    decide
  refine ⟨hreach, henabled, fun account => ?_, by decide, by decide,
    only_tightens sumCrypto hreach henabled⟩
  cases account <;> decide

/-- A session that was restricted to the names of a command by `TPM2_PolicyNameHash()` refuses
a use, and after `TPM2_PolicySigned()` with the same digest as `cpHashA` it accepts it. -/
theorem exists_not_onlyTightens :
    ∃ s i u, (policySystem sumCrypto).Reach s ∧ (policySystem sumCrypto).enabled s i ∧
      refuses sumCrypto u s .digest = true ∧
      checkPolicyAuthSession sumCrypto u ((policySystem sumCrypto).step s i) = TPM_RC_SUCCESS ∧
      ¬ OnlyTightens sumCrypto s ((policySystem sumCrypto).step s i) := by
  have hstart : (policySystem sumCrypto).Reach freshSession := .start ⟨rfl, rfl⟩
  have hbefore : refuses sumCrypto otherUse
      ((policySystem sumCrypto).step freshSession setNameHash) .digest = true := by
    decide
  have hafter : checkPolicyAuthSession sumCrypto otherUse ((policySystem sumCrypto).step
      ((policySystem sumCrypto).step freshSession setNameHash) signCpHash) = TPM_RC_SUCCESS := by
    decide
  refine ⟨_, signCpHash, otherUse, hstart.step enabled_setNameHash, ?_, hbefore, hafter, ?_⟩
  · show (signCpHash.command.execute sumCrypto signCpHash.env
      (setNameHash.command.execute sumCrypto setNameHash.env freshSession).2).1 = TPM_RC_SUCCESS
    decide
  · intro htightens
    exact refuses_refused (htightens.refuses otherUse .digest hbefore) hafter

end RfTpm.Auth
