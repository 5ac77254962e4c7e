import RfTpm.Crypt.RsaKey

/-!
# The RSA operations are inverse

That the private operation is the power with the private exponent, through packing and unpacking.

The key is packed in the order in which the primes were found, and the pointers are sorted after it
is unpacked, by the same comparison as before it was packed.  So what is unpacked is what was
computed (`unpackExponent_packed`), whichever prime the key holds, and the pointer to the larger
prime goes with the exponent that was computed for it.
-/

namespace RfTpm.Rsa

open Faults Bytes Buffer Math Ecc List

/-! ## Numbers -/

lemma sizeInBits_eq {v n : ℕ} (hlow : 2 ^ n ≤ v) (hhigh : v < 2 ^ (n + 1)) :
    sizeInBits v = n + 1 := by
  have hne : v ≠ 0 := (Nat.two_pow_pos n).trans_le hlow |>.ne'
  unfold sizeInBits
  rw [if_neg hne, Nat.log2_eq_iff hne |>.mpr ⟨hlow, hhigh⟩]

lemma intToBytes_eq {v n : ℕ} (hv : v ≠ 0) (h : v < 256 ^ n) :
    intToBytes v n = .ok (beBytes n v, n) := by
  have hn : n ≠ 0 := by
    rintro rfl
    exact hv (Nat.lt_one_iff.mp h)
  unfold intToBytes
  dsimp only
  rw [if_neg hv, if_neg hn, if_pos (sizeInBytes_le_iff.mpr h)]
  rfl

lemma intFromBytes_eq {bits n v : ℕ} (hfit : 8 * n ≤ bits) (h : v < 256 ^ n) :
    intFromBytes bits (beBytes n v) = .ok v := by
  unfold intFromBytes
  rw [length_beBytes, if_pos hfit, beVal_beBytes h]
  rfl

lemma result_eq {bits v : ℕ} (h : v < 2 ^ bits) : result bits v = .ok v := if_pos h

lemma subtract_eq {bits a b : ℕ} (hle : b ≤ a) (ha : a < 2 ^ bits) :
    subtract bits a b = .ok (a - b) := by
  unfold subtract
  rw [if_pos hle, result_eq ((Nat.sub_le a b).trans_lt ha)]

lemma modExp_eq {bits n : ℕ} (hpos : 0 < n) (hn : n < 2 ^ bits) (c d : ℕ) :
    modExp bits c d n = .ok (c ^ d % n) := by
  unfold modExp
  rw [if_neg hpos.ne', result_eq ((Nat.mod_lt _ hpos).trans hn)]

lemma modMult_eq {bits n : ℕ} (hpos : 0 < n) (hn : n < 2 ^ bits) (a b : ℕ) :
    modMult bits a b n = .ok (a * b % n) := by
  unfold modMult
  rw [if_neg hpos.ne', result_eq ((Nat.mod_lt _ hpos).trans hn)]

/-! ## Packing -/

/-- The exponent with the pointers in their first order. -/
def PrivateExponent.ofEntries (f : Fin 5 → ℕ) : PrivateExponent :=
  { rsaInitializeExponent with entries := f }

/-- The exponent with the pointer to the larger prime first. -/
abbrev sorted (f : Fin 5 → ℕ) : PrivateExponent :=
  (PrivateExponent.ofEntries f).makePgreaterThanQ

/-- The entries as octets. -/
def packedEntries (k : ℕ) (f : Fin 5 → ℕ) (is : List (Fin 5)) : Bytes :=
  is.flatMap fun i => beBytes k (f i)

section Pack

variable {k : ℕ} {f : Fin 5 → ℕ} (hf : ∀ i, f i ≠ 0 ∧ f i < 256 ^ k)

include hf in
lemma packLoop_eq {Z : PrivateExponent} (hZ : Z.entries = f) {is : List (Fin 5)} {n : ℕ}
    (his : is.map Fin.val = List.range' n is.length) {front buf : Bytes}
    (hfront : front.length = k * n) (hroom : k * (n + is.length) ≤ buf.length) :
    packLoop Z k is k (front ++ buf.drop (k * n)) =
      .ok (k, front ++ packedEntries k f is ++ buf.drop (k * (n + is.length))) := by
  induction is generalizing n front with
  | nil =>
    unfold packLoop packedEntries
    rw [flatMap_nil, append_nil]
    rfl
  | cons i is ih =>
    rw [map_cons, length_cons, List.range'_succ, List.cons.injEq] at his
    obtain ⟨hi, his⟩ := his
    rw [length_cons] at hroom
    have hnext : k * n + k = k * (n + 1) := (Nat.mul_succ k n).symm
    have hle : k * (n + 1) ≤ buf.length :=
      (Nat.mul_le_mul_left k (by omega)).trans hroom
    have hput : put (ρ := TpmRc) (front ++ buf.drop (k * n)) (k * n) (beBytes k (f i)) =
        .ok (front ++ beBytes k (f i) ++ buf.drop (k * (n + 1))) :=
      put_front hfront (by rw [length_beBytes, hnext]) hle
    have hdone : (front ++ beBytes k (f i)).length = k * (n + 1) := by
      rw [length_append, hfront, length_beBytes, hnext]
    have hrest := ih his hdone (by rwa [Nat.add_right_comm n 1, Nat.add_assoc])
    unfold packLoop
    rw [hZ, intToBytes_eq (hf i).1 (hf i).2, ok_bind]
    dsimp only
    rw [hi, hput, ok_bind, hrest]
    unfold packedEntries
    rw [flatMap_cons, length_cons, Nat.add_right_comm n 1, Nat.add_assoc n,
      ← append_assoc]

lemma unpackLoop_eq (hf : ∀ i, f i < 256 ^ k) (hk : 8 * k ≤ primeBits) {is : List (Fin 5)} {n : ℕ}
    (his : is.map Fin.val = List.range' n is.length) {front rest : Bytes}
    (hfront : front.length = k * n) {b : Tpm2b}
    (hb : b.buffer = front ++ packedEntries k f is ++ rest) (Z : PrivateExponent) :
    unpackLoop b k is Z = .ok (is.foldl (fun Z i => Z.set i (f i)) Z) := by
  induction is generalizing n front Z with
  | nil => rfl
  | cons i is ih =>
    rw [map_cons, length_cons, List.range'_succ, List.cons.injEq] at his
    obtain ⟨hi, his⟩ := his
    have hparts : b.buffer = front ++ beBytes k (f i) ++ (packedEntries k f is ++ rest) := by
      rw [hb]
      unfold packedEntries
      rw [flatMap_cons]
      simp only [append_assoc]
    have hslice : slice (ρ := TpmRc) b.buffer (k * n) k = .ok (beBytes k (f i)) := by
      rw [hparts]
      exact slice_append hfront.symm (length_beBytes _ _).symm
    have hdone : (front ++ beBytes k (f i)).length = k * (n + 1) := by
      rw [length_append, hfront, length_beBytes, Nat.mul_succ]
    unfold unpackLoop
    rw [hi, hslice, ok_bind, intFromBytes_eq hk (hf i), ok_bind]
    exact ih his hdone (by rw [hparts, append_assoc, append_assoc,
      append_assoc]) _

/-- What is packed. -/
def packed (k : ℕ) (f : Fin 5 → ℕ) (buffer : Bytes) : Tpm2b :=
  ⟨k * 5 + RSA_prime_flag, packedEntries k f (finRange 5) ++ buffer.drop (k * 5)⟩

include hf in
lemma packExponent_eq {Z : PrivateExponent} (hZ : Z.entries = f)
    (hsize : sizeInBits Z.p = 8 * k) {b : Tpm2b} (hroom : k * 5 ≤ b.buffer.length) :
    packExponent b Z = .ok (some (packed k f b.buffer)) := by
  have hprime : ((mostSigBitNum Z.p + 7) / 8).toNat = k := by
    unfold mostSigBitNum
    rw [hsize]
    omega
  have hloop : packLoop Z k [0, 1, 2, 3, 4] k ([] ++ b.buffer.drop (k * 0)) =
      .ok (k, [] ++ packedEntries k f [0, 1, 2, 3, 4] ++ b.buffer.drop (k * (0 + 5))) :=
    packLoop_eq hf hZ rfl rfl hroom
  rw [Nat.mul_zero, drop_zero, nil_append, nil_append] at hloop
  unfold packExponent
  dsimp only
  rw [hprime, if_pos hroom, hloop, ok_bind]
  dsimp only
  rw [if_neg (fun hne => hne rfl)]
  rfl

lemma prime_flag {k : ℕ} (hk : k ≤ MAX_RSA_KEY_BYTES / 2) :
    k &&& RSA_prime_flag = 0 ∧ (k * 5 + RSA_prime_flag) &&& RSA_prime_flag ≠ 0 ∧
      (k * 5 + RSA_prime_flag) &&& (RSA_prime_flag - 1) = k * 5 ∧
      (k * 5 + RSA_prime_flag) ||| RSA_prime_flag = k * 5 + RSA_prime_flag := by
  have hall : ∀ k < 257, k &&& RSA_prime_flag = 0 ∧
      (k * 5 + RSA_prime_flag) &&& RSA_prime_flag ≠ 0 ∧
      (k * 5 + RSA_prime_flag) &&& (RSA_prime_flag - 1) = k * 5 ∧
      (k * 5 + RSA_prime_flag) ||| RSA_prime_flag = k * 5 + RSA_prime_flag := by decide +kernel
  exact hall k (Nat.lt_succ_of_le hk)

lemma unpackExponent_packed (hf : ∀ i, f i < 256 ^ k) (hk : k ≤ MAX_RSA_KEY_BYTES / 2)
    (buffer : Bytes) :
    unpackExponent (packed k f buffer) = .ok (some (sorted f)) := by
  obtain ⟨-, hflag, hsize, -⟩ := prime_flag hk
  have hbits : 8 * k ≤ primeBits := by
    unfold primeBits MAX_RSA_KEY_BITS
    unfold MAX_RSA_KEY_BYTES at hk ⊢
    omega
  have hloop : unpackLoop (packed k f buffer) k [0, 1, 2, 3, 4] rsaInitializeExponent =
      .ok ([0, 1, 2, 3, 4].foldl (fun Z i => Z.set i (f i)) rsaInitializeExponent) :=
    unpackLoop_eq hf hbits (n := 0) rfl (length_nil (α := UInt8)) rfl _
  have hentries : [0, 1, 2, 3, 4].foldl (fun Z i => Z.set i (f i)) rsaInitializeExponent =
      PrivateExponent.ofEntries f := by
    show PrivateExponent.mk 0 1 2 3 4 _ = PrivateExponent.mk 0 1 2 3 4 f
    congr 1
    funext i
    fin_cases i <;> rfl
  unfold unpackExponent
  dsimp only
  rw [show (packed k f buffer).size = k * 5 + RSA_prime_flag from rfl, if_neg hflag, hsize,
    if_neg (by omega), Nat.mul_div_cancel k (by decide), hloop, ok_bind, hentries]
  rfl

end Pack

/-! ## The exponent -/

section Exponent

lemma makePgreaterThanQ_spec (f : Fin 5 → ℕ) :
    (sorted f).entries = f ∧ (sorted f).p = max (f 0) (f 1) ∧ (sorted f).q = min (f 0) (f 1) ∧
      (sorted f).dP = 2 ∧ (sorted f).dQ = 3 ∧ (sorted f).qInv = 4 := by
  unfold sorted PrivateExponent.makePgreaterThanQ
  by_cases hlt : f 0 < f 1
  · rw [if_pos (show (PrivateExponent.ofEntries f).p < (PrivateExponent.ofEntries f).q from hlt)]
    exact ⟨rfl, (max_eq_right hlt.le).symm, (min_eq_left hlt.le).symm, rfl, rfl, rfl⟩
  · rw [if_neg (show ¬ (PrivateExponent.ofEntries f).p < (PrivateExponent.ofEntries f).q from hlt)]
    have hle := Nat.le_of_not_lt hlt
    exact ⟨rfl, (max_eq_left hle).symm, (min_eq_right hle).symm, rfl, rfl, rfl⟩

lemma makePgreaterThanQ_twice (f : Fin 5 → ℕ) :
    (sorted f).makePgreaterThanQ = sorted f := by
  obtain ⟨-, hp, hq, -⟩ := makePgreaterThanQ_spec f
  refine if_neg ?_
  rw [hp, hq]
  exact Nat.not_lt.mpr min_le_max

lemma makePgreaterThanQ_set (f : Fin 5 → ℕ) {i : Fin 5} (hi : 2 ≤ i) (v : ℕ) :
    (sorted f).set i v = sorted (Function.update f i v) := by
  have h0 : Function.update f i v 0 = f 0 :=
    Function.update_of_ne (fun h => absurd (h ▸ hi) (by decide)) _ _
  have h1 : Function.update f i v 1 = f 1 :=
    Function.update_of_ne (fun h => absurd (h ▸ hi) (by decide)) _ _
  unfold sorted PrivateExponent.makePgreaterThanQ
  have hp : ∀ g : Fin 5 → ℕ, (PrivateExponent.ofEntries g).p = g 0 := fun _ => rfl
  have hq : ∀ g : Fin 5 → ℕ, (PrivateExponent.ofEntries g).q = g 1 := fun _ => rfl
  rw [hp, hq, hp, hq, h0, h1]
  by_cases hlt : f 0 < f 1
  · rw [if_pos hlt, if_pos hlt]
    rfl
  · rw [if_neg hlt, if_neg hlt]
    rfl

lemma modInverse_of_coprime {a n : ℕ} (hn : 1 < n) (h : a.Coprime n) :
    ∃ i, modInverse a n = some i ∧ i ≠ 0 ∧ i < n ∧ a * i ≡ 1 [MOD n] := by
  obtain ⟨i, hi, hone⟩ := Nat.exists_mul_mod_eq_one_of_coprime h hn
  have hfound : (modInverse a n).isSome := by
    unfold modInverse
    rw [List.find?_isSome]
    refine ⟨i, mem_range.mpr hi, decide_eq_true ?_⟩
    rw [hone, Nat.mod_eq_of_lt hn]
  obtain ⟨j, hj⟩ := Option.isSome_iff_exists.mp hfound
  have hlt : j < n := mem_range.mp (mem_of_find?_eq_some hj)
  have htest := List.find?_some (p := fun i => decide (a * i % n = 1 % n)) hj
  have hmod : a * j ≡ 1 [MOD n] := of_decide_eq_true htest
  exact ⟨j, hj, Crt.inverse_ne_zero hn hmod, hlt, hmod⟩

/-- The exponents for the larger and the smaller prime, and the inverse of the smaller one. -/
structure IsExponent (e p q : ℕ) (f : Fin 5 → ℕ) : Prop where
  first : f 0 = p
  second : f 1 = q
  dP_lt : f 2 < max p q
  dQ_lt : f 3 < max p q
  qInv_lt : f 4 < max p q
  dP : e * f 2 ≡ 1 [MOD max p q - 1]
  dQ : e * f 3 ≡ 1 [MOD min p q - 1]
  qInv : min p q * f 4 ≡ 1 [MOD max p q]

/-- Two primes of `k` octets with the first bit set, and an exponent that has an inverse. -/
structure IsPair (k p q e : ℕ) : Prop where
  p_prime : p.Prime
  q_prime : q.Prime
  ne : p ≠ q
  p_low : 2 ^ (8 * k - 1) ≤ p
  p_high : p < 2 ^ (8 * k)
  q_low : 2 ^ (8 * k - 1) ≤ q
  q_high : q < 2 ^ (8 * k)
  coprime_p : e.Coprime (p - 1)
  coprime_q : e.Coprime (q - 1)
  size_le : k ≤ MAX_RSA_KEY_BYTES / 2

section Primes

variable {k p q e : ℕ} (hpair : IsPair k p q e)

section

include hpair

lemma IsPair.pos : 0 < k := by
  rcases Nat.eq_zero_or_pos k with rfl | hpos
  · have hlow := hpair.p_low
    have hhigh := hpair.p_high
    omega
  · exact hpos

lemma IsPair.two_lt : 2 < p ∧ 2 < q := by
  have hpos := hpair.pos
  have hpow : 2 ^ 7 ≤ 2 ^ (8 * k - 1) := Nat.pow_le_pow_right (by decide) (by omega)
  have hp := hpow.trans hpair.p_low
  have hq := hpow.trans hpair.q_low
  omega

lemma IsPair.octets : p < 256 ^ k ∧ q < 256 ^ k ∧ p * q < 256 ^ (2 * k) := by
  have hpow : 256 ^ k = 2 ^ (8 * k) := by rw [show 256 = 2 ^ 8 from rfl, ← pow_mul]
  refine ⟨hpow ▸ hpair.p_high, hpow ▸ hpair.q_high, ?_⟩
  rw [Nat.two_mul, pow_add, hpow]
  exact Nat.mul_lt_mul'' hpair.p_high hpair.q_high

lemma IsPair.bits : p < 2 ^ primeBits ∧ q < 2 ^ primeBits := by
  have hle : 2 ^ (8 * k) ≤ 2 ^ primeBits := by
    refine Nat.pow_le_pow_right (by decide) ?_
    have hsize := hpair.size_le
    unfold primeBits MAX_RSA_KEY_BITS
    unfold MAX_RSA_KEY_BYTES at hsize ⊢
    omega
  exact ⟨hpair.p_high.trans_le hle, hpair.q_high.trans_le hle⟩

lemma IsPair.modulus_bits : 8 * (2 * k) ≤ MAX_RSA_KEY_BITS := by
  have hsize := hpair.size_le
  unfold MAX_RSA_KEY_BITS
  omega

end

lemma of_max_min {C : ℕ → Prop} (hCp : C p) (hCq : C q) : C (max p q) ∧ C (min p q) := by
  rcases le_total p q with h | h
  · rw [max_eq_right h, min_eq_left h]
    exact ⟨hCq, hCp⟩
  · rw [max_eq_left h, min_eq_right h]
    exact ⟨hCp, hCq⟩

include hpair in
lemma IsPair.max_min : ((max p q).Prime ∧ (min p q).Prime) ∧ (2 < max p q ∧ 2 < min p q) ∧
    (max p q < 2 ^ primeBits ∧ min p q < 2 ^ primeBits) ∧ min p q < max p q :=
  ⟨of_max_min hpair.p_prime hpair.q_prime,
    of_max_min (C := fun x => 2 < x) hpair.two_lt.1 hpair.two_lt.2,
    of_max_min (C := fun x => x < 2 ^ primeBits) hpair.bits.1 hpair.bits.2,
    min_lt_max.mpr hpair.ne⟩

include hpair in
lemma computePrivateExponent_eq {f : Fin 5 → ℕ} (hfirst : f 0 = p) (hsecond : f 1 = q) :
    ∃ g, IsExponent e p q g ∧
      computePrivateExponent e (PrivateExponent.ofEntries f) = .ok (some (sorted g)) := by
  obtain ⟨⟨hmaxprime, hminprime⟩, ⟨hmax2, hmin2⟩, ⟨hmaxfit, hminfit⟩, hlt⟩ := hpair.max_min
  obtain ⟨hemax, hemin⟩ :=
    of_max_min (C := fun x => e.Coprime (x - 1)) hpair.coprime_p hpair.coprime_q
  obtain ⟨dP, hdP, hdP0, hdPlt, hdPmod⟩ := modInverse_of_coprime (by omega) hemax
  obtain ⟨dQ, hdQ, hdQ0, hdQlt, hdQmod⟩ := modInverse_of_coprime (by omega) hemin
  obtain ⟨qInv, hqInv, hqInv0, hqInvlt, hqInvmod⟩ := modInverse_of_coprime hmaxprime.one_lt
    ((Nat.coprime_primes hminprime hmaxprime).mpr hlt.ne)
  set f₁ := Function.update f 2 dP with hf₁
  set f₂ := Function.update f₁ 3 dQ with hf₂
  refine ⟨Function.update f₂ 4 qInv, ?_, ?_⟩
  · exact ⟨hfirst, hsecond, show dP < max p q by omega, show dQ < max p q by omega, hqInvlt,
      hdPmod, hdQmod, hqInvmod⟩
  · obtain ⟨-, hp₀, hq₀, hdP₀, hdQ₀, -⟩ := makePgreaterThanQ_spec f
    obtain ⟨-, hp₂, hq₂, -, -, hqInv₂⟩ := makePgreaterThanQ_spec f₂
    rw [hfirst, hsecond] at hp₀ hq₀
    have h0 : f₂ 0 = p := hfirst
    have h1 : f₂ 1 = q := hsecond
    rw [h0, h1] at hp₂ hq₂
    have hset : ((sorted f).set (sorted f).dP dP).set (sorted f).dQ dQ = sorted f₂ := by
      rw [hdP₀, hdQ₀, makePgreaterThanQ_set f (by decide), makePgreaterThanQ_set _ (by decide)]
    unfold computePrivateExponent
    dsimp only
    rw [hp₀, hq₀, subtract_eq hmaxprime.one_lt.le hmaxfit, ok_bind,
      subtract_eq hminprime.one_lt.le hminfit, ok_bind, hdP, hdQ]
    dsimp only
    rw [hset, hp₂, hq₂, hqInv, hqInv₂, Option.map_some, makePgreaterThanQ_set _ (by decide)]
    rfl

include hpair in
lemma rsaPrivateKeyOp_eq {f : Fin 5 → ℕ} (hf : IsExponent e p q f) {d : ℕ}
    (hd : e * d ≡ 1 [MOD Nat.lcm (p - 1) (q - 1)]) (c : ℕ) :
    rsaPrivateKeyOp c (sorted f) = .ok (c ^ d % (p * q)) := by
  obtain ⟨⟨hmaxprime, hminprime⟩, ⟨-, hmin2⟩, ⟨hmaxfit, hminfit⟩, hlt⟩ := hpair.max_min
  have hd' : e * d ≡ 1 [MOD Nat.lcm (max p q - 1) (min p q - 1)] := by
    rcases le_total p q with h | h
    · rwa [max_eq_right h, min_eq_left h, Nat.lcm_comm]
    · rwa [max_eq_left h, min_eq_right h]
  have hpower := Crt.recombine_pow hmaxprime hminprime hlt hd' hmin2 hf.dP hf.dQ hf.qInv c
  have hbound : Crt.recombine (max p q) (min p q) (f 4) (c ^ f 2 % max p q) (c ^ f 3 % min p q) <
      max p q * min p q := Crt.recombine_lt _ _ hmaxprime.pos (Nat.mod_lt _ hminprime.pos)
  rw [max_mul_min] at hpower
  obtain ⟨hentries, hpeq, hqeq, hdP, hdQ, hqInv⟩ := makePgreaterThanQ_spec f
  rw [hf.first, hf.second] at hpeq hqeq
  -- every number fits
  have hsum : primeBits + primeBits = MAX_RSA_KEY_BITS := rfl
  have hbits : 2 ^ primeBits * 2 ^ primeBits = 2 ^ MAX_RSA_KEY_BITS := by
    rw [← pow_add, hsum]
  have hroom : max p q * min p q < 2 ^ MAX_RSA_KEY_BITS := by
    rw [← hbits]
    exact Nat.mul_lt_mul'' hmaxfit hminfit
  have htwice : 2 * max p q < max p q * min p q := by
    rw [Nat.mul_comm]
    exact Nat.mul_lt_mul_of_pos_left hmin2 hmaxprime.pos
  have hm1 : c ^ f 2 % max p q < max p q := Nat.mod_lt _ hmaxprime.pos
  have hm2 : c ^ f 3 % min p q < min p q := Nat.mod_lt _ hminprime.pos
  unfold Crt.recombine at hpower hbound
  unfold rsaPrivateKeyOp
  dsimp only
  rw [makePgreaterThanQ_twice, hpeq, hqeq, hdP, hdQ, hqInv, hentries,
    modExp_eq hmaxprime.pos (by omega), ok_bind, modExp_eq hminprime.pos (by omega), ok_bind,
    subtract_eq (by omega) (by omega), ok_bind, result_eq (by omega), ok_bind,
    modMult_eq hmaxprime.pos (by omega), ok_bind, result_eq (by omega), ok_bind,
    result_eq (by omega)]
  exact congrArg _ hpower

end Primes

end Exponent

/-! ## The operations -/

/-- The key holds the product and one of the primes. -/
structure Key.Holds (key : Key) (k p q : ℕ) : Prop where
  unique_size : key.unique.size = 2 * k
  unique_data : key.unique.data = beBytes (2 * k) (p * q)
  sensitive_size : key.sensitive.size = k
  sensitive_data : key.sensitive.data = beBytes k p
  room : key.sensitive.buffer.length = RSA_PRIVATE_SIZE

lemma slice_data {b : Tpm2b} {n v : ℕ} (hsize : b.size = n) (hdata : b.data = beBytes n v) :
    slice (ρ := TpmRc) b.buffer 0 b.size = .ok (beBytes n v) ∧ n ≤ b.buffer.length := by
  have hlen := congrArg List.length hdata
  unfold Tpm2b.data at hdata hlen
  rw [length_beBytes, length_take, hsize] at hlen
  have hle : n ≤ b.buffer.length := by omega
  refine ⟨?_, hle⟩
  unfold slice
  rw [if_pos (by omega), drop_zero, hdata]
  rfl

lemma IsExponent.octets {e p q k : ℕ} {f : Fin 5 → ℕ} (hf : IsExponent e p q f) (hp2 : 2 < p)
    (hq2 : 2 < q) (hp : p < 256 ^ k) (hq : q < 256 ^ k) (i : Fin 5) : f i ≠ 0 ∧ f i < 256 ^ k := by
  obtain ⟨hmax2, hmin2⟩ := of_max_min (C := fun x => 2 < x) hp2 hq2
  have hmax : max p q < 256 ^ k := max_lt hp hq
  have hentry : ∀ {v : ℕ}, v ≠ 0 → v < max p q → v ≠ 0 ∧ v < 256 ^ k := fun hv hlt =>
    ⟨hv, hlt.trans hmax⟩
  match i with
  | 0 => rw [hf.first]; exact ⟨by omega, hp⟩
  | 1 => rw [hf.second]; exact ⟨by omega, hq⟩
  | 2 => exact hentry (Crt.inverse_ne_zero (by omega) hf.dP) hf.dP_lt
  | 3 => exact hentry (Crt.inverse_ne_zero (by omega) hf.dQ) hf.dQ_lt
  | 4 => exact hentry (Crt.inverse_ne_zero (by omega) hf.qInv) hf.qInv_lt

lemma put_number {buffer : Bytes} {n v : ℕ} (hroom : n ≤ buffer.length) (hv : v ≠ 0)
    (hfit : v < 256 ^ n) :
    intToBytes v n = .ok (beBytes n v, n) ∧
      put (ρ := TpmRc) buffer 0 (beBytes n v) = .ok (beBytes n v ++ buffer.drop n) :=
  ⟨intToBytes_eq hv hfit, put_front (a := []) rfl (by rw [length_beBytes, Nat.zero_add]) hroom⟩

lemma put_zero (buffer : Bytes) {n : ℕ} (hn : 0 < n) (hroom : n ≤ buffer.length) :
    intToBytes 0 n = .ok ([0], 1) ∧
      put (ρ := TpmRc) buffer 0 [0] = .ok ([0] ++ buffer.drop 1) :=
  ⟨rfl, put_front (a := []) rfl rfl (by omega)⟩

lemma head_zero {buffer : Bytes} {n : ℕ} (hn : 0 < n) (h : buffer.take n = beBytes n 0) :
    [0] ++ buffer.drop 1 = buffer := by
  obtain ⟨n, rfl⟩ := Nat.exists_eq_add_one_of_ne_zero hn.ne'
  unfold beBytes at h
  rw [leBytes_zero, reverse_replicate, replicate_succ] at h
  cases buffer with
  | nil => cases h
  | cons b rest =>
    obtain ⟨rfl, -⟩ := List.cons.inj h
    rfl

section Operations

variable {k p q : ℕ} {key : Key} (hpair : IsPair k p q key.publicExponent)

include hpair

lemma cryptRsaLoadPrivateExponent_eq (hkey : key.Holds k p q) :
    ∃ f, IsExponent key.publicExponent p q f ∧ (∀ i, f i < 256 ^ k) ∧
      cryptRsaLoadPrivateExponent key = .ok (packed k f key.sensitive.buffer) := by
  obtain ⟨hp2, hq2⟩ := hpair.two_lt
  obtain ⟨hpbytes, hqbytes, hnbytes⟩ := hpair.octets
  have hmodulus := hpair.modulus_bits
  have hprimebits : 8 * k ≤ primeBits := by
    unfold primeBits
    omega
  obtain ⟨f, hf, hcompute⟩ := computePrivateExponent_eq hpair
    (f := Function.update (Function.update (fun _ => 0) 0 p) 1 q) rfl rfl
  have hentries := hf.octets hp2 hq2 hpbytes hqbytes
  refine ⟨f, hf, fun i => (hentries i).2, ?_⟩
  obtain ⟨hzero, -, -, hflag⟩ := prime_flag hpair.size_le
  obtain ⟨hunique, -⟩ := slice_data hkey.unique_size hkey.unique_data
  obtain ⟨hprime, -⟩ := slice_data hkey.sensitive_size hkey.sensitive_data
  have hdivide : divide primeBits MAX_RSA_KEY_BITS (p * q) p = .ok (q, 0) := by
    unfold divide
    rw [if_neg (by omega), Nat.mul_div_cancel_left q (by omega), Nat.mul_mod_right,
      result_eq hpair.bits.2, ok_bind, result_eq (Nat.two_pow_pos _), ok_bind]
    rfl
  -- the larger prime has the bits of its octets
  have hpack : packExponent key.sensitive (sorted f) =
      .ok (some (packed k f key.sensitive.buffer)) := by
    obtain ⟨hsame, hlarger, -⟩ := makePgreaterThanQ_spec f
    have hpos := hpair.pos
    have height : 8 * k = 8 * k - 1 + 1 := by omega
    refine packExponent_eq hentries hsame ?_ ?_
    · rw [hlarger, hf.first, hf.second, height]
      refine sizeInBits_eq (hpair.p_low.trans (le_max_left p q)) ?_
      rw [← height]
      exact max_lt hpair.p_high hpair.q_high
    · have hsize := hpair.size_le
      rw [hkey.room]
      unfold MAX_RSA_KEY_BYTES at hsize
      unfold RSA_PRIVATE_SIZE
      omega
  unfold cryptRsaLoadPrivateExponent
  rw [hkey.sensitive_size, if_pos hzero, hkey.unique_size, if_pos (Nat.mul_comm k 2)]
  rw [hkey.unique_size] at hunique
  rw [hkey.sensitive_size] at hprime
  rw [hunique, ok_bind, intFromBytes_eq hmodulus hnbytes, ok_bind, hprime, ok_bind,
    intFromBytes_eq hprimebits hpbytes, ok_bind]
  dsimp only
  rw [hdivide, ok_bind]
  dsimp only
  rw [if_neg (fun hne => hne rfl)]
  have hstart : (rsaInitializeExponent.set 0 p).set 1 q =
      PrivateExponent.ofEntries (Function.update (Function.update (fun _ => 0) 0 p) 1 q) := rfl
  rw [hstart, hcompute, ok_bind]
  dsimp only
  rw [hpack, ok_bind]
  show Except.ok _ = _
  unfold packed
  rw [hflag]

/-- The public operation is the power with the public exponent, and stays in the size of the
modulus. -/
lemma rsaep_eq (hunique : key.unique.size = 2 * k ∧ key.unique.data = beBytes (2 * k) (p * q))
    {m : ℕ} (hm : m < p * q) {dInOut : Tpm2b} (hsize : dInOut.size = 2 * k)
    (hdata : dInOut.data = beBytes (2 * k) m) :
    ∃ out, rsaep dInOut key = .ok out ∧ out.size = 2 * k ∧
      out.data = beBytes (2 * k) (m ^ key.publicExponent % (p * q)) := by
  obtain ⟨-, -, hnbytes⟩ := hpair.octets
  have hmodulus := hpair.modulus_bits
  obtain ⟨hmslice, hroom⟩ := slice_data hsize hdata
  obtain ⟨hnslice, -⟩ := slice_data hunique.1 hunique.2
  have hnpos : 0 < p * q := Nat.mul_pos hpair.p_prime.pos hpair.q_prime.pos
  have hnbits : p * q < 2 ^ MAX_RSA_KEY_BITS := by
    refine hnbytes.trans_le ?_
    rw [show 256 = 2 ^ 8 from rfl, ← pow_mul]
    exact Nat.pow_le_pow_right (by decide) hmodulus
  have hcfit : m ^ key.publicExponent % (p * q) < 256 ^ (2 * k) :=
    (Nat.mod_lt _ hnpos).trans hnbytes
  unfold rsaep modExpB
  rw [hmslice, ok_bind, hnslice, ok_bind, intFromBytes_eq hmodulus hnbytes, ok_bind,
    intFromBytes_eq hmodulus (hm.trans hnbytes), ok_bind, hsize, hunique.1,
    if_neg (Nat.lt_irrefl _), if_neg (Nat.not_le.mpr hm), modExp_eq hnpos hnbits, ok_bind]
  by_cases hzero : m ^ key.publicExponent % (p * q) = 0
  · -- only zero has the power zero, and its octets stay
    have hmzero : m = 0 := Crt.eq_zero_of_pow_mod hpair.p_prime hpair.q_prime hpair.ne hm hzero
    have hpos := hpair.pos
    obtain ⟨hint, hput⟩ := put_zero dInOut.buffer (Nat.mul_pos two_pos hpos) hroom
    rw [hzero, hint, ok_bind]
    dsimp only
    rw [hput, ok_bind]
    refine ⟨_, rfl, rfl, ?_⟩
    rw [← hmzero, ← hdata]
    unfold Tpm2b.data
    have hzeros : dInOut.buffer.take (2 * k) = beBytes (2 * k) 0 := by
      rw [← hmzero, ← hdata, ← hsize]
      rfl
    rw [hsize, head_zero (Nat.mul_pos two_pos hpos) hzeros]
  · obtain ⟨hint, hput⟩ := put_number hroom hzero hcfit
    rw [hint, ok_bind]
    dsimp only
    rw [hput, ok_bind]
    exact ⟨_, rfl, rfl, take_left' (length_beBytes _ _)⟩

/-- The private part holds the prime, or the exponent that was loaded from it. -/
def Loadable (key : Key) (k p q : ℕ) : Prop :=
  key.Holds k p q ∨
    ∃ f buffer, IsExponent key.publicExponent p q f ∧ (∀ i, f i < 256 ^ k) ∧
      key.unique.size = 2 * k ∧ key.unique.data = beBytes (2 * k) (p * q) ∧
      key.sensitive = packed k f buffer

/-- The private operation is the power with the private exponent.  Zero comes back as a single
octet. -/
lemma rsadp_eq (hkey : Loadable key k p q) {d : ℕ}
    (hd : key.publicExponent * d ≡ 1 [MOD Nat.lcm (p - 1) (q - 1)]) {c : ℕ} (hc : c < p * q)
    {inOut : Tpm2b} (hsize : inOut.size = 2 * k) (hdata : inOut.data = beBytes (2 * k) c) :
    ∃ out sensitive, rsadp inOut key = .ok (out, sensitive) ∧
      beVal out.data = c ^ d % (p * q) ∧
      (c ^ d % (p * q) ≠ 0 → out.data = beBytes (2 * k) (c ^ d % (p * q))) := by
  obtain ⟨-, -, hnbytes⟩ := hpair.octets
  have hmodulus := hpair.modulus_bits
  have hpos := hpair.pos
  have hnpos : 0 < p * q := Nat.mul_pos hpair.p_prime.pos hpair.q_prime.pos
  obtain ⟨hcslice, hroom⟩ := slice_data hsize hdata
  -- in both cases the exponent that is unpacked is one for the primes
  obtain ⟨f, buffer, hf, hbytes, husize, hudata, hload⟩ : ∃ f buffer,
      IsExponent key.publicExponent p q f ∧ (∀ i, f i < 256 ^ k) ∧ key.unique.size = 2 * k ∧
        key.unique.data = beBytes (2 * k) (p * q) ∧
        exponentLoaded key = .ok (packed k f buffer) := by
    unfold exponentLoaded
    obtain ⟨hzero, hflag, -⟩ := prime_flag hpair.size_le
    rcases hkey with hkey | ⟨f, buffer, hf, hbytes, husize, hudata, hpacked⟩
    · obtain ⟨f, hf, hbytes, hload⟩ := cryptRsaLoadPrivateExponent_eq hpair hkey
      refine ⟨f, key.sensitive.buffer, hf, hbytes, hkey.unique_size, hkey.unique_data, ?_⟩
      rw [hkey.sensitive_size, if_pos hzero, hload]
    · refine ⟨f, buffer, hf, hbytes, husize, hudata, ?_⟩
      rw [hpacked]
      exact if_neg hflag
  obtain ⟨-, huroom⟩ := slice_data husize hudata
  have horder : Auth.unsignedCompareB (2 * k) inOut.buffer (2 * k) key.unique.buffer =
      .ok (Auth.order c (p * q)) := by
    have hcompare := Auth.unsignedCompareB_eq hroom huroom
    unfold Tpm2b.data at hdata hudata
    rwa [← hsize, hdata, hsize, ← husize, hudata, husize, beVal_beBytes (hc.trans hnbytes),
      beVal_beBytes hnbytes] at hcompare
  have hop := rsaPrivateKeyOp_eq hpair hf hd c
  have hrfit : c ^ d % (p * q) < 256 ^ (2 * k) := (Nat.mod_lt _ hnpos).trans hnbytes
  unfold rsadp
  rw [hcslice, ok_bind, intFromBytes_eq hmodulus (hc.trans hnbytes), ok_bind, hsize, husize, horder,
    ok_bind, if_neg (Int.not_le.mpr ((Auth.order_neg_iff c (p * q)).mpr hc)), hload, ok_bind,
    unpackExponent_packed hbytes hpair.size_le, ok_bind]
  dsimp only
  rw [hop, ok_bind]
  by_cases hzero : c ^ d % (p * q) = 0
  · obtain ⟨hint, hput⟩ := put_zero inOut.buffer (Nat.mul_pos two_pos hpos) hroom
    rw [hzero, hint, ok_bind]
    dsimp only
    rw [hput, ok_bind]
    exact ⟨_, _, rfl, rfl, fun hne => absurd rfl hne⟩
  · obtain ⟨hint, hput⟩ := put_number hroom hzero hrfit
    rw [hint, ok_bind]
    dsimp only
    rw [hput, ok_bind]
    have hout : (Tpm2b.mk (2 * k) (beBytes (2 * k) (c ^ d % (p * q)) ++
        inOut.buffer.drop (2 * k))).data = beBytes (2 * k) (c ^ d % (p * q)) :=
      take_left' (length_beBytes _ _)
    refine ⟨_, _, rfl, ?_, fun _ => hout⟩
    rw [hout, beVal_beBytes hrfit]

end Operations

/-- The exponent that is loaded from one prime and unpacked makes the private operation the power
with the private exponent, and the private operation undoes the public one, before and after the
exponent was loaded. -/
theorem rsa_inverse (k p q : ℕ) (key : Key) (hpair : IsPair k p q key.publicExponent)
    (hkey : key.Holds k p q) :
    ∃ sensitive Z, cryptRsaLoadPrivateExponent key = .ok sensitive ∧
      unpackExponent sensitive = .ok (some Z) ∧
      (∃ d, key.publicExponent * d ≡ 1 [MOD Nat.lcm (p - 1) (q - 1)]) ∧
      (∀ d c, key.publicExponent * d ≡ 1 [MOD Nat.lcm (p - 1) (q - 1)] → c < p * q →
        rsaPrivateKeyOp c Z = .ok (c ^ d % (p * q))) ∧
      ∀ m < p * q, ∀ dInOut : Tpm2b, dInOut.size = 2 * k → dInOut.data = beBytes (2 * k) m →
        ∃ coded, rsaep dInOut key = .ok coded ∧
          ∀ key' ∈ [key, { key with sensitive := sensitive }],
            ∃ out s, rsadp coded key' = .ok (out, s) ∧ beVal out.data = m ∧
              (m ≠ 0 → out.data = dInOut.data) := by
  obtain ⟨hp2, hq2⟩ := hpair.two_lt
  obtain ⟨f, hf, hbytes, hload⟩ := cryptRsaLoadPrivateExponent_eq hpair hkey
  have hcop : key.publicExponent.Coprime (Nat.lcm (p - 1) (q - 1)) :=
    (hpair.coprime_p.mul_right hpair.coprime_q).coprime_dvd_right (Nat.lcm_dvd_mul _ _)
  have hlcm : 1 < Nat.lcm (p - 1) (q - 1) :=
    (show 1 < p - 1 by omega).trans_le
      (Nat.le_of_dvd (Nat.lcm_pos (by omega) (by omega)) (Nat.dvd_lcm_left _ _))
  obtain ⟨d, -, -, -, hd⟩ := modInverse_of_coprime hlcm hcop
  refine ⟨_, _, hload, unpackExponent_packed hbytes hpair.size_le _, ⟨d, hd⟩, ?_, ?_⟩
  · intro d c hd _
    exact rsaPrivateKeyOp_eq hpair hf hd c
  · intro m hm dInOut hsize hdata
    obtain ⟨coded, hcoded, hcsize, hcdata⟩ :=
      rsaep_eq hpair ⟨hkey.unique_size, hkey.unique_data⟩ hm hsize hdata
    refine ⟨coded, hcoded, ?_⟩
    have hclt : m ^ key.publicExponent % (p * q) < p * q :=
      Nat.mod_lt _ (Nat.mul_pos hpair.p_prime.pos hpair.q_prime.pos)
    have hback : (m ^ key.publicExponent % (p * q)) ^ d % (p * q) = m :=
      Crt.pow_pow_mod hpair.p_prime hpair.q_prime hpair.ne hd hp2 hm
    rw [hdata]
    intro key' hmem
    have hprivate : ∃ out s, rsadp coded key' = .ok (out, s) ∧
        beVal out.data = (m ^ key.publicExponent % (p * q)) ^ d % (p * q) ∧
        ((m ^ key.publicExponent % (p * q)) ^ d % (p * q) ≠ 0 →
          out.data = beBytes (2 * k) ((m ^ key.publicExponent % (p * q)) ^ d % (p * q))) := by
      rcases mem_pair.mp hmem with rfl | rfl
      · exact rsadp_eq hpair (.inl hkey) hd hclt hcsize hcdata
      · set loaded := { key with sensitive := packed k f key.sensitive.buffer }
        have hloaded : Loadable loaded k p q :=
          .inr ⟨f, _, hf, hbytes, hkey.unique_size, hkey.unique_data, rfl⟩
        have hpair' : IsPair k p q loaded.publicExponent := hpair
        exact rsadp_eq hpair' hloaded hd hclt hcsize hcdata
    rwa [hback] at hprivate

/-- A key of two octets that holds the smaller prime. -/
def smallKey : Key where
  exponent := 3
  unique := ⟨2, beBytes 2 (131 * 137)⟩
  sensitive := ⟨1, beBytes 1 131 ++ List.replicate 1279 0⟩

/-- A number that is a multiple of one of the primes. -/
theorem rsa_inverse_small :
    IsPair 1 131 137 smallKey.publicExponent ∧ smallKey.Holds 1 131 137 ∧
      ∃ coded, rsaep ⟨2, beBytes 2 (3 * 131)⟩ smallKey = .ok coded ∧
        ∃ out s, rsadp coded smallKey = .ok (out, s) ∧ beVal out.data = 3 * 131 := by
  have hpair : IsPair 1 131 137 smallKey.publicExponent :=
    ⟨by norm_num, by norm_num, by decide, by decide, by decide, by decide, by decide, by decide,
      by decide, by decide⟩
  have hkey : smallKey.Holds 1 131 137 := by
    refine ⟨rfl, rfl, rfl, rfl, ?_⟩
    show (beBytes 1 131 ++ List.replicate 1279 0).length = 1280
    rw [length_append, length_beBytes, length_replicate]
  obtain ⟨_, _, -, -, -, -, hinverse⟩ := rsa_inverse 1 131 137 smallKey hpair hkey
  obtain ⟨coded, hcoded, hdecoded⟩ :=
    hinverse (3 * 131) (by decide) ⟨2, beBytes 2 (3 * 131)⟩ rfl rfl
  obtain ⟨out, s, hout, hvalue, -⟩ := hdecoded smallKey mem_cons_self
  exact ⟨hpair, hkey, coded, hcoded, out, s, hout, hvalue⟩

end RfTpm.Rsa
