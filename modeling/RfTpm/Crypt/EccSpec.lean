import RfTpm.Crypt.Ecc

/-!
# Which ECC signatures verify

The signatures that `CryptEccSign` returns are accepted by `CryptEccValidateSignature` unless one
of three slips of the signing code is met:

* `TpmEcc_SignEcdsa` returns `TPM_RC_SUCCESS` also when all of its ten attempts to generate a key
  pair fail. The signature is then zero.
* `TpmEcc_SignEcSchnorr` computes with the hash modulo the order but puts out the hash itself,
  which may be as large as the order or larger.
* `TpmEcc_SignEcSm2` compares `k + r` with a number that is never set, where the order is meant.
  If `k + r` is the order, then `r + s` is too, and validation goes on with a wrong scalar.

Validation itself accepts exactly the signatures of the scheme, but for those of SM2 whose numbers
add up to the order (`accepts_valid_iff`).
-/

namespace RfTpm.Ecc

open Bytes Math Retry

/-! ## Numbers -/

lemma sizeInBits_le_iff {v n : ℕ} : sizeInBits v ≤ n ↔ v < 2 ^ n := by
  unfold sizeInBits
  split
  · rename_i hzero
    simp [hzero]
  · rename_i hv
    exact Nat.log2_lt hv

lemma sizeInBytes_le_iff {v n : ℕ} : sizeInBytes v ≤ n ↔ v < 256 ^ n := by
  rw [show 256 = 2 ^ 8 by rfl, ← Nat.pow_mul, ← sizeInBits_le_iff]
  unfold sizeInBytes
  omega

lemma lt_pow_sizeInBytes (v : ℕ) : v < 256 ^ sizeInBytes v := sizeInBytes_le_iff.mp le_rfl

lemma modInverse_spec {a n i : ℕ} (h : modInverse a n = some i) :
    i < n ∧ ((a : ZMod n) * i = 1) := by
  unfold modInverse at h
  have hmem : i < n := List.mem_range.mp (List.mem_of_find?_eq_some h)
  have hprod : a * i % n = 1 % n := by simpa using List.find?_some h
  refine ⟨hmem, ?_⟩
  have hcast := (ZMod.natCast_eq_natCast_iff' (a * i) 1 n).mpr hprod
  simpa using hcast

lemma modInverse_isSome {a n : ℕ} (hn : n.Prime) (ha : (a : ZMod n) ≠ 0) :
    ∃ i, modInverse a n = some i := by
  have : Fact n.Prime := ⟨hn⟩
  have hinverse : a * ((a : ZMod n)⁻¹).val % n = 1 % n := by
    rw [← ZMod.natCast_eq_natCast_iff']
    simp [ha]
  have hfound : (modInverse a n).isSome := by
    unfold modInverse
    rw [List.find?_isSome]
    exact ⟨_, List.mem_range.mpr (ZMod.val_lt _), by simpa using hinverse⟩
  exact Option.isSome_iff_exists.mp hfound

lemma modInverse_eq_none {a n : ℕ} (hn : n.Prime) (ha : (a : ZMod n) = 0) :
    modInverse a n = none := by
  have : Fact n.Prime := ⟨hn⟩
  cases h : modInverse a n with
  | none => rfl
  | some i =>
    have hprod := (modInverse_spec h).2
    rw [ha, zero_mul] at hprod
    exact absurd hprod zero_ne_one

lemma accept_iff (c : Prop) [Decidable c] :
    (if c then TPM_RC_SUCCESS else TPM_RC_SIGNATURE) = TPM_RC_SUCCESS ↔ c := by
  split_ifs with hc
  · exact iff_of_true rfl hc
  · exact iff_of_false (by decide) hc

section Group

variable {P : Type*} [AddCommGroup P] (E : Curve P)

lemma smul_base_eq_iff (a b : ℕ) :
    a • E.base = b • E.base ↔ (a : ZMod E.order) = b := by
  rw [ZMod.natCast_eq_natCast_iff, nsmul_eq_nsmul_iff_modEq, E.order_base]

lemma smul_base_eq_zero_iff (a : ℕ) : a • E.base = 0 ↔ (a : ZMod E.order) = 0 := by
  have h := smul_base_eq_iff E a 0
  rwa [zero_nsmul, Nat.cast_zero] at h

lemma smul_add_smul (a d u : ℕ) :
    a • E.base + u • (d • E.base) = (a + u * d) • E.base := by
  rw [add_nsmul, ← mul_nsmul']

lemma Curve.order_pos : 0 < E.order := E.prime.pos

variable {k d : ℕ}

lemma genPrivateScalar_range {g : Engine} {i : ℕ} (h : genPrivateScalar E g i = some (some k)) :
    1 ≤ k ∧ k < E.order := by
  have htwo := E.prime.two_le
  unfold genPrivateScalar at h
  dsimp only at h
  split at h
  · rename_i bn _
    have hmod := Nat.mod_lt bn.value (show 0 < E.order - 1 by omega)
    obtain ⟨dOut, hadd, hout⟩ := Option.bind_eq_some_iff.mp h
    unfold bnAddWord at hadd
    split_ifs at hadd with hzero
    cases hadd
    have hout := Option.some.inj hout
    split_ifs at hout
    cases hout
    omega
  · cases h

lemma natCast_ne_zero_of_range (h : 1 ≤ k ∧ k < E.order) : (k : ZMod E.order) ≠ 0 := by
  intro hzero
  have hdvd := (ZMod.natCast_eq_zero_iff k E.order).mp hzero
  exact absurd (Nat.le_of_dvd h.1 hdvd) (Nat.not_le.mpr h.2)

variable [DecidableEq P]

lemma pointMultiply_eq (h : (d : ZMod E.order) ≠ 0) : pointMultiply E d = some (d • E.base) :=
  if_neg fun hzero => h ((smul_base_eq_zero_iff E d).mp hzero)

lemma pointMultiply_some {R : P} (h : pointMultiply E d = some R) :
    R = d • E.base ∧ (d : ZMod E.order) ≠ 0 := by
  unfold pointMultiply at h
  split_ifs at h with hzero
  cases h
  exact ⟨rfl, fun hd => hzero ((smul_base_eq_zero_iff E d).mpr hd)⟩

lemma pointMultiplyAndAdd_eq {a u : ℕ} (hk : (k : ZMod E.order) ≠ 0)
    (hsum : (a : ZMod E.order) + u * d = k) :
    pointMultiplyAndAdd E a (d • E.base) u = some (k • E.base) := by
  have hpoint : (a + u * d) • E.base = k • E.base := by
    rw [smul_base_eq_iff]
    push_cast
    exact hsum
  unfold pointMultiplyAndAdd
  rw [smul_add_smul, hpoint, if_neg]
  exact fun hzero => hk ((smul_base_eq_zero_iff E k).mp hzero)

lemma generateKeyPair_eq (g : Engine) (i : ℕ) :
    generateKeyPair E g i = (genPrivateScalar E g i).map (Option.map fun k => (k, k • E.base)) := by
  unfold generateKeyPair
  rcases h : genPrivateScalar E g i with - | - | k
  · rfl
  · rfl
  · have hk := natCast_ne_zero_of_range E (genPrivateScalar_range E h)
    rw [Option.map_some, Option.bind_some, pointMultiply_eq E hk]
    rfl

end Group

/-! ## ECDSA -/

section Ecdsa

variable {P : Type*} [AddCommGroup P] [DecidableEq P] (E : Curve P)

/-- The `i`-th call of the random engine gives a key pair for ECDSA. -/
def Usable (g : Engine) (i : ℕ) : Prop :=
  ∃ k, genPrivateScalar E g i = some (some k) ∧ E.pointX (k • E.base) % E.order ≠ 0

/-- The numbers of an ECDSA signature before `s` is computed. -/
def EcdsaReady (k ik r : ℕ) : Prop :=
  (k : ZMod E.order) ≠ 0 ∧ (k : ZMod E.order) * ik = 1 ∧
    r = E.pointX (k • E.base) % E.order ∧ r ≠ 0

/-- The variables are those of a key pair, or nothing was set yet. -/
def EcdsaInv (v : EcdsaState) : Prop :=
  if v.ok then ∃ k, EcdsaReady E k v.ik v.r else v.r = 0 ∧ v.s = 0

lemma ecdsaTries_succ (g : Engine) (tries : ℕ) (v : EcdsaState) :
    (genPrivateScalar E g v.i = none ∧ ecdsaTries E g (tries + 1) v = none) ∨
    (genPrivateScalar E g v.i ≠ none ∧ ¬ Usable E g v.i ∧
      ecdsaTries E g (tries + 1) v = ecdsaTries E g tries { v with i := v.i + 1 }) ∨
    (Usable E g v.i ∧ ∃ k ik r, EcdsaReady E k ik r ∧
      ecdsaTries E g (tries + 1) v = some ⟨tries + 1, true, ik, r, v.s, v.i + 1⟩) := by
  rw [ecdsaTries, generateKeyPair_eq]
  rcases hk : genPrivateScalar E g v.i with - | - | k
  · exact Or.inl ⟨rfl, rfl⟩
  · refine Or.inr (Or.inl ⟨nofun, ?_, rfl⟩)
    rintro ⟨k, hsome, -⟩
    rw [hk] at hsome
    cases hsome
  · have hk0 := natCast_ne_zero_of_range E (genPrivateScalar_range E hk)
    simp only [Option.map_some]
    by_cases hx : E.pointX (k • E.base) % E.order = 0
    · refine Or.inr (Or.inl ⟨nofun, ?_, if_pos hx⟩)
      rintro ⟨k', hsome, hne⟩
      rw [hk] at hsome
      cases hsome
      exact hne hx
    · obtain ⟨ik, hik⟩ := modInverse_isSome E.prime hk0
      refine Or.inr (Or.inr ⟨⟨k, hk, hx⟩, k, ik, _, ⟨hk0, (modInverse_spec hik).2, rfl, hx⟩, ?_⟩)
      rw [if_neg hx, hik]

/-- The attempts keep the invariant. Without a key pair at their end there was none before, and
every call has failed. -/
lemma ecdsaTries_some {g : Engine} {tries : ℕ} {v v' : EcdsaState} (h : EcdsaInv E v)
    (hv : ecdsaTries E g tries v = some v') :
    EcdsaInv E v' ∧ (v'.ok = false → v.ok = false ∧
      ∀ j < tries, genPrivateScalar E g (v.i + j) ≠ none ∧ ¬ Usable E g (v.i + j)) := by
  induction tries generalizing v with
  | zero =>
    cases hv
    exact ⟨h, fun hok => ⟨hok, fun j hj => by omega⟩⟩
  | succ tries ih =>
    rcases ecdsaTries_succ E g tries v with
      ⟨-, heq⟩ | ⟨hback, hunusable, heq⟩ | ⟨-, k, ik, r, hready, heq⟩
    · rw [heq] at hv
      cases hv
    · rw [heq] at hv
      obtain ⟨hinv, hnone⟩ := ih (v := { v with i := v.i + 1 }) h hv
      refine ⟨hinv, fun hok => ⟨(hnone hok).1, fun j hj => ?_⟩⟩
      cases j with
      | zero => exact ⟨hback, hunusable⟩
      | succ j =>
        have hlater := (hnone hok).2 j (by omega)
        rwa [show v.i + 1 + j = v.i + (j + 1) by omega] at hlater
    · rw [heq] at hv
      cases hv
      exact ⟨⟨k, hready⟩, nofun⟩

lemma ecdsaTries_of_unusable {g : Engine} {tries : ℕ} {v : EcdsaState}
    (h : ∀ j < tries, genPrivateScalar E g (v.i + j) ≠ none ∧ ¬ Usable E g (v.i + j)) :
    ecdsaTries E g tries v = some { v with tries := 0, i := v.i + tries } := by
  induction tries generalizing v with
  | zero => rfl
  | succ tries ih =>
    obtain ⟨hback, hunusable⟩ := h 0 (by omega)
    rcases ecdsaTries_succ E g tries v with ⟨hnone, -⟩ | ⟨-, -, heq⟩ | ⟨husable, -⟩
    · exact absurd hnone hback
    · have hlater := ih (v := { v with i := v.i + 1 }) fun j hj => by
        rw [show v.i + 1 + j = v.i + (j + 1) by omega]
        exact h (j + 1) (by omega)
      rw [heq, hlater, Nat.add_assoc, Nat.add_comm 1]
    · exact absurd husable hunusable

/-- An ECDSA signature for the nonce `k`. -/
def IsEcdsa (bnD bnE r s : ℕ) : Prop :=
  ∃ k ik, EcdsaReady E k ik r ∧ s = ik * (bnE + r * bnD % E.order) % E.order ∧ s ≠ 0

variable {bnD fuel : ℕ} {g : Engine} {digest : Bytes}

/-- The loop returns the numbers of a signature, or what it began with after attempts that all
failed. -/
lemma ecdsaLoop_some {bnE : ℕ} {v : EcdsaState} {w : Signed} (hinv : EcdsaInv E v)
    (h : ecdsaLoop E bnD bnE g fuel v = some w) :
    IsEcdsa E bnD bnE w.r w.s ∨ v.ok = false ∧
      ∀ j < v.tries, genPrivateScalar E g (v.i + j) ≠ none ∧ ¬ Usable E g (v.i + j) := by
  induction fuel generalizing v with
  | zero => cases h
  | succ fuel ih =>
    obtain ⟨v₁, hv₁, h⟩ := Option.bind_eq_some_iff.mp h
    obtain ⟨hinv₁, hnone⟩ := ecdsaTries_some E hinv hv₁
    cases hok : v₁.ok with
    | false => exact Or.inr (hnone hok)
    | true =>
      obtain ⟨k, hk⟩ : ∃ k, EcdsaReady E k v₁.ik v₁.r := by
        unfold EcdsaInv at hinv₁
        rwa [if_pos hok] at hinv₁
      refine Or.inl ?_
      rw [if_neg (by simp [hok])] at h
      dsimp only at h
      split_ifs at h with hzero
      · have hagain :
            EcdsaInv E { v₁ with s := v₁.ik * (bnE + v₁.r * bnD % E.order) % E.order } := by
          unfold EcdsaInv
          rw [if_pos hok]
          exact ⟨k, hk⟩
        refine (ih hagain h).resolve_right fun hfailed => ?_
        exact absurd (hok.symm.trans hfailed.1) (by decide)
      · cases h
        exact ⟨k, _, hk, rfl, hzero⟩

lemma IsEcdsa.accepted {r s : ℕ} (h : IsEcdsa E bnD (adjustEcdsaDigest digest E.order) r s) :
    r ≠ 0 ∧ r < E.order ∧ s ≠ 0 ∧ s < E.order ∧
      validateSignatureEcdsa E r s (bnD • E.base) digest = TPM_RC_SUCCESS := by
  obtain ⟨k, ik, ⟨hk, hik, hr, hr0⟩, hs, hs0⟩ := h
  have hrlt : r < E.order := hr ▸ Nat.mod_lt _ E.order_pos
  have hslt : s < E.order := hs ▸ Nat.mod_lt _ E.order_pos
  refine ⟨hr0, hrlt, hs0, hslt, ?_⟩
  have hsne : (s : ZMod E.order) ≠ 0 :=
    natCast_ne_zero_of_range E ⟨Nat.one_le_iff_ne_zero.mpr hs0, hslt⟩
  obtain ⟨w, hw⟩ := modInverse_isSome E.prime hsne
  have hsw := (modInverse_spec hw).2
  have hscast : (s : ZMod E.order) =
      ik * (adjustEcdsaDigest digest E.order + r * bnD) := by
    rw [hs]
    push_cast [ZMod.natCast_mod]
    ring
  -- `w (e + r d)` is the nonce
  have hsum : ((adjustEcdsaDigest digest E.order * w % E.order : ℕ) : ZMod E.order) +
      ((r * w % E.order : ℕ) : ZMod E.order) * bnD = k := by
    push_cast [ZMod.natCast_mod]
    linear_combination (-(w * (adjustEcdsaDigest digest E.order + r * bnD) : ZMod E.order)) * hik +
      k * hsw - k * w * hscast
  unfold validateSignatureEcdsa
  dsimp only
  rw [hw]
  dsimp only
  rw [pointMultiplyAndAdd_eq E hk hsum]
  dsimp only
  rw [if_neg (not_not.mpr hr.symm)]

end Ecdsa

/-! ## EC-Schnorr -/

section Schnorr

variable {P : Type*} [AddCommGroup P] [DecidableEq P] (E : Curve P)
variable {A : Type*} (H : Hashes A)

omit [DecidableEq P] in
lemma schnorrHash_lt (hashAlg : A) (R : P) (digest : Bytes) :
    schnorrHash E H hashAlg R digest < 256 ^ sizeInBytes E.order := by
  unfold schnorrHash schnorrReduce
  refine (beVal_lt _).trans_le (Nat.pow_le_pow_right (by decide) ?_)
  rw [List.length_take]
  exact min_le_left _ _

variable {k r s bnD : ℕ} {digest : Bytes} {hashAlg : A} {g : Engine}

lemma schnorrCalculateS_some {d n : ℕ} (h : schnorrCalculateS k r d n = some s) :
    r % n ≠ 0 ∧ s = (r % n * d + k) % n ∧ s ≠ 0 := by
  unfold schnorrCalculateS at h
  dsimp only at h
  split_ifs at h with hr hs
  cases h
  exact ⟨hr, rfl, hs⟩

/-- The numbers of a Schnorr signature for the nonce `k`; `none` if it takes another nonce. -/
def schnorrPair (bnD : ℕ) (digest : Bytes) (hashAlg : A) (k : ℕ) : Option Signed :=
  let r := schnorrHash E H hashAlg (k • E.base) digest
  (schnorrCalculateS k r bnD E.order).map fun s => ⟨TPM_RC_SUCCESS, r, s⟩

/-- The `i`-th call of the random engine gives a nonce that has no signature. -/
def SchnorrAgain (bnD : ℕ) (digest : Bytes) (hashAlg : A) (g : Engine) (i : ℕ) : Prop :=
  ∃ k, genPrivateScalar E g i = some (some k) ∧ schnorrPair E H bnD digest hashAlg k = none

/-- What `TpmEcc_SignEcSchnorr` returns with success comes from the first nonce that has a
signature. -/
lemma signEcSchnorr_some_iff {w : Signed} (hdigest : H.digestSize hashAlg ≠ 0)
    (hsuccess : w.retVal = TPM_RC_SUCCESS) :
    (∃ fuel, signEcSchnorr E H bnD digest hashAlg g fuel = some w) ↔
      ∃ i k, First (SchnorrAgain E H bnD digest hashAlg g) 0 i ∧
        genPrivateScalar E g i = some (some k) ∧
          schnorrPair E H bnD digest hashAlg k = some w := by
  have hloop := loop_eq_some_iff (schnorrLoop E H bnD digest hashAlg g)
    (SchnorrAgain E H bnD digest hashAlg g)
    (fun i => (genPrivateScalar E g i).bind fun ok =>
      ok.elim (some ⟨TPM_RC_NO_RESULT, 0, 0⟩) (schnorrPair E H bnD digest hashAlg))
    (fun _ => rfl) (fun fuel i hagain => ?_) (fun fuel i hends => ?_) (i := 0) (b := w)
  · simp only [signEcSchnorr, if_neg hdigest, hloop]
    constructor
    · rintro ⟨fuel, i, -, hfirst, hout⟩
      obtain ⟨ok, hok, hout⟩ := Option.bind_eq_some_iff.mp hout
      cases ok with
      | none =>
        cases hout
        cases hsuccess
      | some k => exact ⟨i, k, hfirst, hok, hout⟩
    · rintro ⟨i, k, hfirst, hk, hw⟩
      exact ⟨i + 1, i, by omega, hfirst, by simp [hk, hw]⟩
  · obtain ⟨k, hk, hnone⟩ := hagain
    simp only [schnorrPair, Option.map_eq_none_iff] at hnone
    simp [schnorrLoop, generateKeyPair_eq, hk, hnone]
  · rw [schnorrLoop, generateKeyPair_eq]
    rcases hk : genPrivateScalar E g i with - | - | k
    · rfl
    · rfl
    · simp only [Option.map_some, Option.bind_some, Option.elim_some, schnorrPair]
      cases hs : schnorrCalculateS k (schnorrHash E H hashAlg (k • E.base) digest) bnD E.order with
      | some s => rfl
      | none => exact absurd ⟨k, hk, by simp [schnorrPair, hs]⟩ hends

lemma validateSignatureEcSchnorr_of_lt (hk : (k : ZMod E.order) ≠ 0)
    (hr : r = schnorrHash E H hashAlg (k • E.base) digest)
    (hs : s = (r % E.order * bnD + k) % E.order) (hlt : r < E.order) :
    validateSignatureEcSchnorr E H r s hashAlg (bnD • E.base) digest = TPM_RC_SUCCESS := by
  have hsum : (s : ZMod E.order) + ((E.order - r : ℕ) : ZMod E.order) * bnD = k := by
    rw [hs, Nat.cast_sub hlt.le]
    push_cast [ZMod.natCast_mod, ZMod.natCast_self]
    ring
  unfold validateSignatureEcSchnorr
  dsimp only
  rw [Nat.mod_eq_of_lt hlt, pointMultiplyAndAdd_eq E hk hsum]
  dsimp only
  rw [if_pos hr.symm]

end Schnorr

/-! ## SM2 -/

section Sm2

variable {P : Type*} [AddCommGroup P] [DecidableEq P] (E : Curve P)

/-- An SM2 signature for the nonce `k`. -/
structure IsSm2 (bnD bnE k r s : ℕ) : Prop where
  nonce : (k : ZMod E.order) ≠ 0
  r_eq : r = (bnE + E.pointX (k • E.base)) % E.order
  r_ne : r ≠ 0
  s_lt : s < E.order
  s_ne : s ≠ 0
  invertible : ((bnD : ZMod E.order) + 1) ≠ 0
  s_eq : (s : ZMod E.order) * (bnD + 1) = k - r * bnD

variable {bnD bnE k r s : ℕ}

lemma sm2Attempt_some (h : sm2Attempt E bnD bnE k = some (some (r, s))) :
    bnD ≠ 0 ∧ IsSm2 E bnD bnE k r s := by
  unfold sm2Attempt at h
  dsimp only at h
  cases hpoint : pointMultiply E k with
  | none => rw [hpoint] at h; cases h
  | some Q =>
    obtain ⟨rfl, hk⟩ := pointMultiply_some E hpoint
    rw [hpoint] at h
    dsimp only at h
    split_ifs at h with hr hkr
    · cases Option.some.inj h
    · cases Option.some.inj h
    obtain ⟨t, ht, h⟩ := Option.bind_eq_some_iff.mp h
    have h := Option.some.inj h
    split_ifs at h with hs
    unfold bnAddWord at ht
    split_ifs at ht with hd
    refine ⟨hd, ?_⟩
    cases ht
    cases h
    have hcast : (((k + (E.order - (bnE + E.pointX (k • E.base)) % E.order * bnD % E.order) : ℕ)) :
        ZMod E.order) = k - ((bnE + E.pointX (k • E.base)) % E.order : ℕ) * bnD := by
      rw [Nat.cast_add, Nat.cast_sub (Nat.mod_lt _ E.order_pos).le, ZMod.natCast_self,
        ZMod.natCast_mod, Nat.cast_mul]
      ring
    by_cases hinvertible : ((bnD + 1 : ℕ) : ZMod E.order) = 0
    · -- without an inverse the second number is zero, and the loop goes on
      refine absurd ?_ hs
      rw [modInverse_eq_none E.prime hinvertible, Option.getD_none, ← Nat.dvd_iff_mod_eq_zero,
        ← ZMod.natCast_eq_zero_iff, Nat.cast_mul, hinvertible, mul_zero]
    · obtain ⟨i, hi⟩ := modInverse_isSome E.prime hinvertible
      have hprod := (modInverse_spec hi).2
      rw [hi, Option.getD_some] at hs ⊢
      refine ⟨hk, rfl, hr, Nat.mod_lt _ E.order_pos, hs, by simpa using hinvertible, ?_⟩
      rw [ZMod.natCast_mod, Nat.cast_mul, hcast]
      push_cast at hprod
      linear_combination
        ((k : ZMod E.order) - ((bnE + E.pointX (k • E.base)) % E.order : ℕ) * bnD) * hprod

lemma sm2Attempt_ne_none (hd : bnD ≠ 0) : sm2Attempt E bnD bnE k ≠ none := by
  unfold sm2Attempt bnAddWord
  split
  · nofun
  · simp only [if_neg hd]
    split_ifs <;> nofun

/-- The nonce that `TpmEcc_SignEcSm2` holds after the `i`-th call of the random engine. It is
kept when a call fails. -/
def sm2Nonce (g : Engine) (i : ℕ) : ℕ := (g.number (cryptIntVar eccBits) E.order (i + 1)).value

/-- The `i`-th call is followed by another, because its number is not in the range or because
that nonce has no signature. -/
def Sm2Again (bnD bnE : ℕ) (g : Engine) (i : ℕ) : Prop :=
  g.Rejects (cryptIntVar eccBits) E.order i ∨ sm2Attempt E bnD bnE (sm2Nonce E g i) = some none

omit [DecidableEq P] in
lemma two_le_sizeInBits_order : 2 ≤ sizeInBits E.order := by
  by_contra hlt
  have hsmall := sizeInBits_le_iff.mp (show sizeInBits E.order ≤ 1 by omega)
  exact absurd E.prime.two_le (by omega)

variable {g : Engine} {fuel i j : ℕ} {w : Signed}

lemma sm2Loop_succ_iff :
    sm2Loop E bnD bnE g (fuel + 1) (g.number (cryptIntVar eccBits) E.order i) i = some w ↔
      ∃ j < i + fuel, First (g.Rejects (cryptIntVar eccBits) E.order) i j ∧
        (sm2Attempt E bnD bnE (sm2Nonce E g j) = some none ∧
            sm2Loop E bnD bnE g fuel (g.number (cryptIntVar eccBits) E.order (j + 1)) (j + 1) =
              some w ∨
          ∃ r s, sm2Attempt E bnD bnE (sm2Nonce E g j) = some (some (r, s)) ∧
            w = ⟨TPM_RC_SUCCESS, r, s⟩) := by
  have hdraw := fun d => tpmMathGetRandomInRange_eq_some_iff (cryptIntVar eccBits) E.order g fuel
    (i := i) (d := d) (two_le_sizeInBits_order E)
  rw [sm2Loop, Option.bind_eq_bind, Option.bind_eq_some_iff]
  simp only [hdraw]
  constructor
  · rintro ⟨d, ⟨j, hj, hfirst, heq⟩, h⟩
    cases heq
    obtain ⟨ok, hok, h⟩ := Option.bind_eq_some_iff.mp h
    refine ⟨j, hj, hfirst, ?_⟩
    rcases ok with - | ⟨r, s⟩
    · exact Or.inl ⟨hok, h⟩
    · exact Or.inr ⟨r, s, hok, (Option.some.inj h).symm⟩
  · rintro ⟨j, hj, hfirst, h⟩
    refine ⟨g.drawn _ _ j, ⟨j, hj, hfirst, rfl⟩, Option.bind_eq_some_iff.mpr ?_⟩
    rcases h with ⟨hagain, h⟩ | ⟨r, s, hok, rfl⟩
    · exact ⟨none, hagain, h⟩
    · exact ⟨some (r, s), hok, rfl⟩

lemma sm2Loop_some
    (h : sm2Loop E bnD bnE g fuel (g.number (cryptIntVar eccBits) E.order i) i = some w) :
    ∃ j r s, First (Sm2Again E bnD bnE g) i j ∧
      sm2Attempt E bnD bnE (sm2Nonce E g j) = some (some (r, s)) ∧
        w = ⟨TPM_RC_SUCCESS, r, s⟩ := by
  induction fuel generalizing i with
  | zero => cases h
  | succ fuel ih =>
    obtain ⟨j, -, hfirst, ⟨hagain, h⟩ | ⟨r, s, hok, hw⟩⟩ := (sm2Loop_succ_iff E).mp h
    · obtain ⟨k, r, s, hk, hrest⟩ := ih h
      refine ⟨k, r, s, (First.skip_iff (hfirst.le.trans j.le_succ) fun m hm hlt => ?_).mp hk, hrest⟩
      rcases (Nat.le_of_lt_succ hlt).eq_or_lt with rfl | hlt
      · exact Or.inr hagain
      · exact Or.inl (hfirst.before m hm hlt)
    · refine ⟨j, r, s, ⟨hfirst.le, fun m hm hlt => Or.inl (hfirst.before m hm hlt), ?_⟩, hok, hw⟩
      rintro (hreject | hagain)
      · exact hfirst.ends hreject
      · rw [hok] at hagain
        cases hagain

lemma sm2Loop_of_first (hj : First (Sm2Again E bnD bnE g) i j) (hfuel : j + 2 ≤ i + fuel)
    (h : sm2Attempt E bnD bnE (sm2Nonce E g j) = some (some (r, s))) :
    sm2Loop E bnD bnE g fuel (g.number (cryptIntVar eccBits) E.order i) i =
      some ⟨TPM_RC_SUCCESS, r, s⟩ := by
  induction fuel generalizing i with
  | zero => exact absurd hj.le (by omega)
  | succ fuel ih =>
    -- the nonce that this round tries is the first that is drawn in the range
    obtain ⟨k, hk, hfirst⟩ := First.exists_le hj.le fun hreject => hj.ends (Or.inl hreject)
    refine (sm2Loop_succ_iff E).mpr ⟨k, by omega, hfirst, ?_⟩
    rcases hk.eq_or_lt with rfl | hlt
    · exact Or.inr ⟨r, s, h, rfl⟩
    · have hagain := fun m hm hmk => hj.before m hm (show m < j from hmk)
      refine Or.inl ⟨(hagain k hfirst.le hlt).resolve_left hfirst.ends, ih ?_ ?_⟩
      · exact (First.skip_iff (hfirst.le.trans k.le_succ)
          fun m hm hmk => hagain m hm (by omega)).mpr
          hj
      · have := hfirst.le
        omega

lemma signEcSm2_some_iff {digest : Bytes} :
    (∃ fuel, signEcSm2 E bnD digest g fuel = some w) ↔
      ∃ j r s, First (Sm2Again E bnD (beVal digest) g) 0 j ∧
        sm2Attempt E bnD (beVal digest) (sm2Nonce E g j) = some (some (r, s)) ∧
          w = ⟨TPM_RC_SUCCESS, r, s⟩ := by
  constructor
  · rintro ⟨fuel, h⟩
    exact sm2Loop_some E (i := 0) h
  · rintro ⟨j, r, s, hj, h, rfl⟩
    exact ⟨j + 2, sm2Loop_of_first E hj (by omega) h⟩

/-- An SM2 signature is accepted unless `k + r` is the order up to multiples of it; then it is
accepted only if two points happen to have the same coordinate. -/
lemma IsSm2.accepted_iff {digest : Bytes} (h : IsSm2 E bnD (beVal digest) k r s) :
    validateSignatureEcSm2 E r s (bnD • E.base) digest = TPM_RC_SUCCESS ↔
      (k + r) % E.order ≠ 0 ∨
        E.pointX ((k * (bnD + 1)) • E.base) % E.order = E.pointX (k • E.base) % E.order := by
  have : Fact E.order.Prime := ⟨E.prime⟩
  have hzero : (r + s) % E.order = 0 ↔ (k + r) % E.order = 0 := by
    rw [← Nat.dvd_iff_mod_eq_zero, ← Nat.dvd_iff_mod_eq_zero, ← ZMod.natCast_eq_zero_iff,
      ← ZMod.natCast_eq_zero_iff]
    have hprod : ((r + s : ℕ) : ZMod E.order) * (bnD + 1) = ((k + r : ℕ) : ZMod E.order) := by
      push_cast
      linear_combination h.s_eq
    rw [← hprod, mul_eq_zero, or_iff_left h.invertible]
  unfold validateSignatureEcSm2
  dsimp only
  by_cases hkr : (k + r) % E.order = 0
  · -- validation multiplies by `s` where zero is meant
    have hr : (r : ZMod E.order) = -k := by
      have hsum := (ZMod.natCast_eq_zero_iff (k + r) E.order).mpr (Nat.dvd_of_mod_eq_zero hkr)
      push_cast at hsum
      linear_combination hsum
    have hk : ((k * (bnD + 1) : ℕ) : ZMod E.order) ≠ 0 := by
      push_cast
      exact mul_ne_zero h.nonce h.invertible
    have hsum : (s : ZMod E.order) + s * bnD = ((k * (bnD + 1) : ℕ) : ZMod E.order) := by
      push_cast
      linear_combination h.s_eq - bnD * hr
    rw [if_pos (hzero.mpr hkr), pointMultiplyAndAdd_eq E hk hsum]
    dsimp only
    rw [accept_iff, or_iff_right (not_not.mpr hkr), h.r_eq]
    constructor
    · intro heq
      exact (Nat.ModEq.add_left_cancel' (beVal digest) heq).symm
    · intro heq
      exact (Nat.ModEq.add_left (beVal digest) heq).symm
  · have hsum : (s : ZMod E.order) + (((r + s) % E.order : ℕ) : ZMod E.order) * bnD = k := by
      push_cast [ZMod.natCast_mod]
      linear_combination h.s_eq
    rw [if_neg (fun ht => hkr (hzero.mp ht)), pointMultiplyAndAdd_eq E h.nonce hsum]
    dsimp only
    rw [if_pos h.r_eq]
    exact iff_of_true rfl (Or.inl hkr)

end Sm2

/-! ## Signatures that verify -/

section Signatures

variable {P : Type*} [AddCommGroup P] [DecidableEq P] (E : Curve P)
variable {A : Type*} (H : Hashes A)

/-- None of the slips is met. One of the first ten calls of the random engine gives ECDSA a key
pair (or does not come back); the Schnorr hash for the first nonce that has a signature is below
the order; the first nonce that has an SM2 signature does not add up to the order with its `r` (or,
if it does, the point that validation computes instead has the right coordinate). -/
def NoSlip (sigAlg : SigAlg A) (bnD : ℕ) (digest : Bytes) (g : Engine) : Prop :=
  match sigAlg with
  | .ecdsa => ∃ j < 10, genPrivateScalar E g j = none ∨ Usable E g j
  | .ecschnorr hashAlg => H.digestSize hashAlg ≠ 0 → ∀ i k,
      First (SchnorrAgain E H bnD digest hashAlg g) 0 i → genPrivateScalar E g i = some (some k) →
        schnorrHash E H hashAlg (k • E.base) digest < E.order
  | .sm2 => bnD ≠ 0 → ∀ i, First (Sm2Again E bnD (beVal digest) g) 0 i →
      let k := sm2Nonce E g i
      (k + (beVal digest + E.pointX (k • E.base))) % E.order ≠ 0 ∨
        E.pointX ((k * (bnD + 1)) • E.base) % E.order = E.pointX (k • E.base) % E.order

/-- The signature is in range and `CryptEccValidateSignature` accepts it. -/
def Verifies (sigAlg : SigAlg A) (bnD : ℕ) (digest : Bytes) (sig : Signature) : Prop :=
  (1 ≤ beVal sig.signatureR ∧ beVal sig.signatureR < E.order) ∧
  (1 ≤ beVal sig.signatureS ∧ beVal sig.signatureS < E.order) ∧
  cryptEccValidateSignature E H sigAlg sig (bnD • E.base) digest = TPM_RC_SUCCESS

variable {sigAlg : SigAlg A} {digest : Bytes}

lemma cryptEccSign_verifies_iff {bnD : ℕ} {g : Engine} :
    (∀ fuel sig, cryptEccSign E H sigAlg bnD digest g fuel = some (TPM_RC_SUCCESS, some sig) →
        Verifies E H sigAlg bnD digest sig) ↔
      ∀ w, (∃ fuel, dispatchSign E H sigAlg bnD digest g fuel = some w) →
        w.retVal = TPM_RC_SUCCESS → Verifies E H sigAlg bnD digest
          ⟨intTo2B (sizeInBytes E.order) w.r, intTo2B (sizeInBytes E.order) w.s⟩ := by
  unfold cryptEccSign
  constructor
  · rintro h w ⟨fuel, hw⟩ hsuccess
    refine h fuel _ ?_
    rw [hw, Option.map_some, if_pos hsuccess, hsuccess]
  · intro h fuel sig hsig
    obtain ⟨w, hw, hsig⟩ := Option.map_eq_some_iff.mp hsig
    split_ifs at hsig with hsuccess
    · obtain ⟨-, hsig⟩ := Prod.mk.inj hsig
      cases hsig
      exact h w ⟨fuel, hw⟩ hsuccess
    · cases congrArg Prod.snd hsig

omit [DecidableEq P] in
lemma beVal_intTo2B {v : ℕ} (hv : v < 256 ^ sizeInBytes E.order) :
    beVal (intTo2B (sizeInBytes E.order) v) = v := by
  unfold intTo2B
  split_ifs with hzero
  · rw [hzero]
    rfl
  · exact beVal_beBytes hv

lemma verifies_iff {bnD r s : ℕ} (hr : r < 256 ^ sizeInBytes E.order)
    (hs : s < 256 ^ sizeInBytes E.order) :
    Verifies E H sigAlg bnD digest
        ⟨intTo2B (sizeInBytes E.order) r, intTo2B (sizeInBytes E.order) s⟩ ↔
      (1 ≤ r ∧ r < E.order) ∧ (1 ≤ s ∧ s < E.order) ∧
        dispatchValidate E H sigAlg r s (bnD • E.base) digest = TPM_RC_SUCCESS := by
  unfold Verifies cryptEccValidateSignature
  dsimp only
  rw [beVal_intTo2B E hr, beVal_intTo2B E hs]
  refine and_congr_right fun hrange => and_congr_right fun hsrange => ?_
  rw [if_neg (by omega), if_neg (by omega)]

omit [DecidableEq P] in
lemma fits_of_lt_order {x : ℕ} (hx : x < E.order) : x < 256 ^ sizeInBytes E.order :=
  hx.trans (lt_pow_sizeInBytes E.order)

lemma ecdsa_verifies_iff {bnD : ℕ} {g : Engine} :
    (∀ w, (∃ fuel, signEcdsa E bnD digest g fuel = some w) → w.retVal = TPM_RC_SUCCESS →
      Verifies E H .ecdsa bnD digest
        ⟨intTo2B (sizeInBytes E.order) w.r, intTo2B (sizeInBytes E.order) w.s⟩) ↔
      ∃ j < 10, genPrivateScalar E g j = none ∨ Usable E g j := by
  constructor
  · intro h
    by_contra hnone
    have htries : ecdsaTries E g 10 ⟨10, false, 0, 0, 0, 0⟩ = some ⟨0, false, 0, 0, 0, 10⟩ :=
      ecdsaTries_of_unusable E fun j hj => by
        rw [Nat.zero_add]
        exact not_or.mp fun hgood => hnone ⟨j, hj, hgood⟩
    have hzero := h ⟨TPM_RC_SUCCESS, 0, 0⟩ ⟨1, by simp [signEcdsa, ecdsaLoop, htries]⟩ rfl
    rw [verifies_iff E H (fits_of_lt_order E E.order_pos) (fits_of_lt_order E E.order_pos)] at hzero
    exact absurd hzero.1.1 (by decide)
  · rintro ⟨j, hj, hgood⟩ w ⟨fuel, hw⟩ -
    have hinv : EcdsaInv E ⟨10, false, 0, 0, 0, 0⟩ := ⟨rfl, rfl⟩
    rcases ecdsaLoop_some E hinv hw with hsig | ⟨-, hfailed⟩
    · obtain ⟨hr0, hr, hs0, hs, hvalid⟩ := hsig.accepted
      rw [verifies_iff E H (fits_of_lt_order E hr) (fits_of_lt_order E hs)]
      exact ⟨⟨Nat.pos_of_ne_zero hr0, hr⟩, ⟨Nat.pos_of_ne_zero hs0, hs⟩, hvalid⟩
    · have hj' := hfailed j hj
      rw [Nat.zero_add] at hj'
      exact absurd hgood (not_or.mpr hj')

lemma schnorr_verifies_iff {bnD k : ℕ} {hashAlg : A} {w : Signed} (hk : (k : ZMod E.order) ≠ 0)
    (hw : schnorrPair E H bnD digest hashAlg k = some w) :
    Verifies E H (.ecschnorr hashAlg) bnD digest
        ⟨intTo2B (sizeInBytes E.order) w.r, intTo2B (sizeInBytes E.order) w.s⟩ ↔
      schnorrHash E H hashAlg (k • E.base) digest < E.order := by
  obtain ⟨s, hs, rfl⟩ := Option.map_eq_some_iff.mp hw
  obtain ⟨hr0, hseq, hs0⟩ := schnorrCalculateS_some hs
  have hslt : s < E.order := hseq ▸ Nat.mod_lt _ E.order_pos
  rw [verifies_iff E H (schnorrHash_lt E H hashAlg _ digest) (fits_of_lt_order E hslt)]
  constructor
  · rintro ⟨⟨-, hrlt⟩, -⟩
    exact hrlt
  · intro hrlt
    rw [Nat.mod_eq_of_lt hrlt] at hr0
    exact ⟨⟨Nat.pos_of_ne_zero hr0, hrlt⟩, ⟨Nat.pos_of_ne_zero hs0, hslt⟩,
      validateSignatureEcSchnorr_of_lt E H hk rfl hseq hrlt⟩

/-- An SM2 signature verifies exactly if the nonce and `r` do not add up to the order, but for the
coincidence. -/
lemma sm2_verifies_iff {bnD k r s : ℕ} (h : IsSm2 E bnD (beVal digest) k r s) :
    Verifies E H .sm2 bnD digest
        ⟨intTo2B (sizeInBytes E.order) r, intTo2B (sizeInBytes E.order) s⟩ ↔
      (k + (beVal digest + E.pointX (k • E.base))) % E.order ≠ 0 ∨
        E.pointX ((k * (bnD + 1)) • E.base) % E.order = E.pointX (k • E.base) % E.order := by
  have hrlt : r < E.order := h.r_eq ▸ Nat.mod_lt _ E.order_pos
  have hsum : (k + (beVal digest + E.pointX (k • E.base))) % E.order = (k + r) % E.order := by
    rw [h.r_eq, Nat.add_mod_mod]
  rw [verifies_iff E H (fits_of_lt_order E hrlt) (fits_of_lt_order E h.s_lt), hsum,
    ← h.accepted_iff]
  constructor
  · rintro ⟨-, -, haccepted⟩
    exact haccepted
  · intro haccepted
    exact ⟨⟨Nat.pos_of_ne_zero h.r_ne, hrlt⟩, ⟨Nat.pos_of_ne_zero h.s_ne, h.s_lt⟩, haccepted⟩

/-- When every signature that the TPM returns verifies. The left side is the whole promise, for
runs of any length; the right side says that none of the three slips of the signing code is met. -/
theorem signature_verifies_iff (sigAlg : SigAlg A) (bnD : ℕ) (digest : Bytes) (g : Engine) :
    (∀ fuel sig, cryptEccSign E H sigAlg bnD digest g fuel = some (TPM_RC_SUCCESS, some sig) →
        Verifies E H sigAlg bnD digest sig) ↔
      NoSlip E H sigAlg bnD digest g := by
  rw [cryptEccSign_verifies_iff]
  cases sigAlg with
  | ecdsa => exact ecdsa_verifies_iff E H
  | ecschnorr hashAlg =>
    constructor
    · intro h hdigest i k hfirst hk
      have hnonce := natCast_ne_zero_of_range E (genPrivateScalar_range E hk)
      cases hw : schnorrPair E H bnD digest hashAlg k with
      | none => exact absurd ⟨k, hk, hw⟩ hfirst.ends
      | some w =>
        have hsuccess : w.retVal = TPM_RC_SUCCESS := by
          obtain ⟨s, -, rfl⟩ := Option.map_eq_some_iff.mp hw
          rfl
        exact (schnorr_verifies_iff E H hnonce hw).mp
          (h w ((signEcSchnorr_some_iff E H hdigest hsuccess).mpr ⟨i, k, hfirst, hk, hw⟩) hsuccess)
    · rintro h w ⟨fuel, hw⟩ hsuccess
      have hdigest : H.digestSize hashAlg ≠ 0 := by
        intro hzero
        rw [dispatchSign, signEcSchnorr, if_pos hzero] at hw
        cases hw
        cases hsuccess
      obtain ⟨i, k, hfirst, hk, hpair⟩ :=
        (signEcSchnorr_some_iff E H hdigest hsuccess).mp ⟨fuel, hw⟩
      have hnonce := natCast_ne_zero_of_range E (genPrivateScalar_range E hk)
      exact (schnorr_verifies_iff E H hnonce hpair).mpr (h hdigest i k hfirst hk)
  | sm2 =>
    constructor
    · intro h hd i hfirst
      rcases hok : sm2Attempt E bnD (beVal digest) (sm2Nonce E g i) with - | - | ⟨r, s⟩
      · exact absurd hok (sm2Attempt_ne_none E hd)
      · exact absurd (Or.inr hok) hfirst.ends
      · exact (sm2_verifies_iff E H (sm2Attempt_some E hok).2).mp
          (h _ ((signEcSm2_some_iff E).mpr ⟨i, r, s, hfirst, hok, rfl⟩) rfl)
    · intro h w hw _
      obtain ⟨i, r, s, hfirst, hok, rfl⟩ := (signEcSm2_some_iff E).mp hw
      obtain ⟨hd, hsig⟩ := sm2Attempt_some E hok
      exact (sm2_verifies_iff E H hsig).mpr (h hd i hfirst)

end Signatures

/-! ## Signatures that are accepted -/

section Validation

variable {P : Type*} [AddCommGroup P] [DecidableEq P] (E : Curve P)
variable {A : Type*} (H : Hashes A)

/-- The equation of the scheme for the numbers `r` and `s`, with a point that is not the point at
infinity. -/
def SchemeHolds (sigAlg : SigAlg A) (r s : ℕ) (Q : P) (digest : Bytes) : Prop :=
  match sigAlg with
  | .ecdsa =>
    let w := (s : ZMod E.order)⁻¹
    let R := (adjustEcdsaDigest digest E.order * w).val • E.base + (r * w).val • Q
    R ≠ 0 ∧ E.pointX R % E.order = r
  | .ecschnorr hashAlg =>
    let R := s • E.base - r • Q
    R ≠ 0 ∧ schnorrHash E H hashAlg R digest = r
  | .sm2 =>
    let t := (r + s) % E.order
    let R := s • E.base + t • Q
    t ≠ 0 ∧ R ≠ 0 ∧ (beVal digest + E.pointX R) % E.order = r

/-- The numbers add up to the order, and the equation of SM2 holds with `s` in place of their sum.
Validation goes on with `s` in that case, and accepts what is not a signature. -/
def SumsToOrder (sigAlg : SigAlg A) (r s : ℕ) (Q : P) (digest : Bytes) : Prop :=
  sigAlg = .sm2 ∧ (r + s) % E.order = 0 ∧ s • E.base + s • Q ≠ 0 ∧
    (beVal digest + E.pointX (s • E.base + s • Q)) % E.order = r

lemma accept_point_iff (a u : ℕ) (Q : P) (c : P → Prop) [DecidablePred c] :
    (match pointMultiplyAndAdd E a Q u with
      | none => TPM_RC_SIGNATURE
      | some R => if c R then TPM_RC_SUCCESS else TPM_RC_SIGNATURE) = TPM_RC_SUCCESS ↔
      a • E.base + u • Q ≠ 0 ∧ c (a • E.base + u • Q) := by
  unfold pointMultiplyAndAdd
  split_ifs with hzero
  · exact iff_of_false (show TPM_RC_SIGNATURE ≠ TPM_RC_SUCCESS by decide) fun h => h.1 hzero
  · exact (accept_iff _).trans (and_iff_right hzero).symm

lemma dispatchValidate_iff {r s : ℕ} (hr : r < E.order) (hs : 1 ≤ s ∧ s < E.order)
    (sigAlg : SigAlg A) {Q : P} (hQ : E.order • Q = 0) (digest : Bytes) :
    dispatchValidate E H sigAlg r s Q digest = TPM_RC_SUCCESS ↔
      SchemeHolds E H sigAlg r s Q digest ∨ SumsToOrder E sigAlg r s Q digest := by
  have : Fact E.order.Prime := ⟨E.prime⟩
  cases sigAlg with
  | ecdsa =>
    obtain ⟨w, hw⟩ := modInverse_isSome E.prime (natCast_ne_zero_of_range E hs)
    have hinv : (s : ZMod E.order)⁻¹ = w := inv_eq_of_mul_eq_one_right (modInverse_spec hw).2
    rw [or_iff_left (by rintro ⟨⟨⟩, -⟩), dispatchValidate, validateSignatureEcdsa, SchemeHolds, hw,
      hinv]
    dsimp only
    rw [← Nat.cast_mul, ← Nat.cast_mul, ZMod.val_natCast, ZMod.val_natCast]
    simp only [ite_not]
    exact accept_point_iff E _ _ Q fun R => E.pointX R % E.order = r
  | ecschnorr hashAlg =>
    have hneg : (E.order - r) • Q = -(r • Q) := by
      rw [eq_neg_iff_add_eq_zero, ← add_nsmul, Nat.sub_add_cancel hr.le, hQ]
    rw [or_iff_left (by rintro ⟨⟨⟩, -⟩), dispatchValidate, validateSignatureEcSchnorr,
      SchemeHolds]
    dsimp only
    rw [Nat.mod_eq_of_lt hr, sub_eq_add_neg, ← hneg]
    exact accept_point_iff E _ _ Q fun R => schnorrHash E H hashAlg R digest = r
  | sm2 =>
    rw [dispatchValidate, validateSignatureEcSm2, SchemeHolds, SumsToOrder, and_iff_right rfl]
    dsimp only
    refine (accept_point_iff E _ _ Q fun R => r = (beVal digest + E.pointX R) % E.order).trans ?_
    by_cases ht : (r + s) % E.order = 0 <;> simp [ht, eq_comm]

/-- When `CryptEccValidateSignature` accepts exactly the signatures of the scheme: those whose
numbers are in range and satisfy its equation. -/
theorem accepts_valid_iff (sigAlg : SigAlg A) (bnD : ℕ) (digest : Bytes) (sig : Signature) :
    let r := beVal sig.signatureR
    let s := beVal sig.signatureS
    let Q := bnD • E.base
    (cryptEccValidateSignature E H sigAlg sig Q digest = TPM_RC_SUCCESS ↔
        (1 ≤ r ∧ r < E.order) ∧ (1 ≤ s ∧ s < E.order) ∧ SchemeHolds E H sigAlg r s Q digest) ↔
      ¬ ((1 ≤ r ∧ r < E.order) ∧ (1 ≤ s ∧ s < E.order) ∧ SumsToOrder E sigAlg r s Q digest) := by
  intro r s Q
  have hQ : E.order • Q = 0 := by
    rw [smul_comm, ← E.order_base, addOrderOf_nsmul_eq_zero, smul_zero]
  have hvalid : cryptEccValidateSignature E H sigAlg sig Q digest = TPM_RC_SUCCESS ↔
      (1 ≤ r ∧ r < E.order) ∧ (1 ≤ s ∧ s < E.order) ∧
        (SchemeHolds E H sigAlg r s Q digest ∨ SumsToOrder E sigAlg r s Q digest) := by
    unfold cryptEccValidateSignature
    dsimp only
    change (if r = 0 ∨ s = 0 then _ else if s ≥ E.order ∨ r ≥ E.order then _ else _) = _ ↔ _
    split_ifs with hzero hlarge
    · exact iff_of_false (by decide) (by omega)
    · exact iff_of_false (by decide) (by omega)
    · have hr : 1 ≤ r ∧ r < E.order := by omega
      have hs : 1 ≤ s ∧ s < E.order := by omega
      rw [and_iff_right hr, and_iff_right hs]
      exact dispatchValidate_iff E H hr.2 hs sigAlg hQ digest
  -- the two cases exclude each other
  have hapart : SumsToOrder E sigAlg r s Q digest → ¬ SchemeHolds E H sigAlg r s Q digest := by
    rintro ⟨rfl, ht, -⟩ hholds
    exact hholds.1 ht
  rw [hvalid]
  tauto

end Validation

/-! ## A curve of seven points -/

/-- The group of order seven; a point and its inverse have the same coordinate. -/
def sevenPoints : Curve (ZMod 7) where
  base := 1
  order := 7
  pointX := fun p => min p.val (-p).val
  prime := by norm_num
  order_base := ZMod.addOrderOf_one 7
  pointX_lt := by decide

/-- A hash of one byte that is always nine. -/
def alwaysNine : Hashes Unit := ⟨fun _ => 1, fun _ _ => [9], fun _ _ => rfl⟩

/-- The random engine gives the number `v` each time. -/
def steady (v : UInt8) : Engine := ⟨fun _ n => List.replicate (n - 1) 0 ++ [v], fun _ => false⟩

/-- A signature over the seven points: `2` and `3` with SM2 and the nonce `1`. -/
theorem signature_verifies_seven :
    cryptEccSign sevenPoints alwaysNine .sm2 1 [1] (steady 1) 3 =
        some (TPM_RC_SUCCESS, some ⟨[2], [3]⟩) ∧
      Verifies sevenPoints alwaysNine .sm2 1 [1] ⟨[2], [3]⟩ := by
  have hsig : cryptEccSign sevenPoints alwaysNine .sm2 1 [1] (steady 1) 3 =
      some (TPM_RC_SUCCESS, some ⟨[2], [3]⟩) := by decide +kernel
  refine ⟨hsig, (signature_verifies_iff sevenPoints alwaysNine .sm2 1 [1] (steady 1)).mpr ?_ 3 _
    hsig⟩
  intro _ i hfirst
  have hends : ¬ Sm2Again sevenPoints 1 (beVal [1]) (steady 1) 0 := by
    rintro (⟨-, hout⟩ | hnone)
    · exact hout ⟨by decide +kernel, by decide +kernel⟩
    · revert hnone
      decide +kernel
  obtain rfl := hfirst.eq hends
  exact Or.inl (by decide +kernel)

/-- Signatures that the TPM returns and refuses: with ECDSA when the random engine fails, with
Schnorr when the hash is above the order, and with SM2 when the nonce and `r` add up to the
order. -/
theorem signature_refused :
    (cryptEccSign sevenPoints alwaysNine .ecdsa 1 [5] ⟨fun _ _ => [], fun _ => false⟩ 3 =
        some (TPM_RC_SUCCESS, some ⟨[0], [0]⟩) ∧
      cryptEccValidateSignature sevenPoints alwaysNine .ecdsa ⟨[0], [0]⟩ (1 • (1 : ZMod 7)) [5] =
        TPM_RC_SIGNATURE) ∧
    (cryptEccSign sevenPoints alwaysNine (.ecschnorr ()) 1 [5] (steady 1) 3 =
        some (TPM_RC_SUCCESS, some ⟨[9], [4]⟩) ∧
      cryptEccValidateSignature sevenPoints alwaysNine (.ecschnorr ()) ⟨[9], [4]⟩
        (1 • (1 : ZMod 7)) [5] = TPM_RC_SIGNATURE) ∧
    (cryptEccSign sevenPoints alwaysNine .sm2 1 [5] (steady 1) 3 =
        some (TPM_RC_SUCCESS, some ⟨[6], [1]⟩) ∧
      cryptEccValidateSignature sevenPoints alwaysNine .sm2 ⟨[6], [1]⟩ (1 • (1 : ZMod 7)) [5] =
        TPM_RC_SIGNATURE) := by
  refine ⟨⟨?_, ?_⟩, ⟨?_, ?_⟩, ⟨?_, ?_⟩⟩ <;> decide +kernel

/-- The numbers `4` and `3` add up to the order, and SM2 accepts them. -/
theorem accepts_invalid :
    cryptEccValidateSignature sevenPoints alwaysNine .sm2 ⟨[4], [3]⟩ (1 • (1 : ZMod 7)) [3] =
        TPM_RC_SUCCESS ∧
      ¬ SchemeHolds sevenPoints alwaysNine .sm2 4 3 (1 • (1 : ZMod 7)) [3] := by
  refine ⟨by decide +kernel, fun h => h.1 (by decide)⟩

end RfTpm.Ecc
