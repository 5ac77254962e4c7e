import Mathlib.FieldTheory.Finite.Basic
import Mathlib.Data.Nat.ChineseRemainder

/-!
# Powers modulo a product of two primes

A power modulo a product of two primes, computed from powers modulo the two primes and put together
with an inverse of one prime modulo the other.  All is about natural numbers: the difference in the
recombination is taken from the larger prime first, which is why the order of the primes matters
(`recombine_modEq_left` needs `b < q < p`).
-/

namespace RfTpm.Crt

/-- Powers modulo a prime depend on the exponent modulo the prime less one, except that the zeroth
power of a multiple of the prime is not zero. -/
lemma pow_modEq_pow {p : ℕ} (hp : p.Prime) (x : ℕ) {a b : ℕ} (ha : a ≠ 0) (hb : b ≠ 0)
    (h : a ≡ b [MOD p - 1]) : x ^ a ≡ x ^ b [MOD p] := by
  by_cases hdvd : p ∣ x
  · have hzero : ∀ n : ℕ, n ≠ 0 → x ^ n ≡ 0 [MOD p] := fun n hn =>
      Nat.modEq_zero_iff_dvd.mpr (dvd_pow hdvd hn)
    exact (hzero a ha).trans (hzero b hb).symm
  · have hcop : x.Coprime p := ((Nat.Prime.coprime_iff_not_dvd hp).mpr hdvd).symm
    have hone : x ^ (p - 1) ≡ 1 [MOD p] := by
      have htotient := Nat.ModEq.pow_totient hcop
      rwa [Nat.totient_prime hp] at htotient
    -- the exponents differ by a multiple of `p - 1`
    have hstep : ∀ n : ℕ, x ^ n ≡ x ^ (n % (p - 1)) [MOD p] := by
      intro n
      have hsplit : x ^ n = (x ^ (p - 1)) ^ (n / (p - 1)) * x ^ (n % (p - 1)) := by
        rw [← pow_mul, ← pow_add, Nat.div_add_mod]
      rw [hsplit]
      have hpow := (hone.pow (n / (p - 1))).mul_right (x ^ (n % (p - 1)))
      rwa [one_pow, one_mul] at hpow
    have hsame : x ^ (a % (p - 1)) ≡ x ^ (b % (p - 1)) [MOD p] := by
      rw [show a % (p - 1) = b % (p - 1) from h]
    exact (hstep a).trans (hsame.trans (hstep b).symm)

lemma inverse_modEq {n e d d' : ℕ} (h : e * d ≡ 1 [MOD n]) (h' : e * d' ≡ 1 [MOD n]) :
    d ≡ d' [MOD n] :=
  calc d = 1 * d := (one_mul d).symm
    _ ≡ e * d' * d [MOD n] := h'.symm.mul_right d
    _ = e * d * d' := by ring
    _ ≡ 1 * d' [MOD n] := h.mul_right d'
    _ = d' := one_mul d'

lemma inverse_ne_zero {n e d : ℕ} (hn : 1 < n) (h : e * d ≡ 1 [MOD n]) : d ≠ 0 := by
  rintro rfl
  rw [mul_zero] at h
  have hdvd : n ∣ 1 := (Nat.modEq_zero_iff_dvd.mp h.symm)
  exact absurd (Nat.le_of_dvd Nat.one_pos hdvd) (Nat.not_le.mpr hn)

lemma eq_zero_of_pow_mod {p q m n : ℕ} (hp : p.Prime) (hq : q.Prime) (hne : p ≠ q)
    (hm : m < p * q) (h : m ^ n % (p * q) = 0) : m = 0 := by
  have hdvd : p * q ∣ m ^ n := Nat.dvd_of_mod_eq_zero h
  have hpm : p ∣ m := hp.dvd_of_dvd_pow ((dvd_mul_right p q).trans hdvd)
  have hqm : q ∣ m := hq.dvd_of_dvd_pow ((dvd_mul_left q p).trans hdvd)
  have hcop : p.Coprime q := (Nat.coprime_primes hp hq).mpr hne
  exact Nat.eq_zero_of_dvd_of_lt (hcop.mul_dvd_of_dvd_of_dvd hpm hqm) hm

section Recombine

variable {p q : ℕ} (inv a b : ℕ)

/-- The number that is `a` modulo `p` and `b` modulo `q`. -/
def recombine (p q inv a b : ℕ) : ℕ := b + (p - b + a) * inv % p * q

lemma recombine_modEq_right : recombine p q inv a b ≡ b [MOD q] := by
  unfold recombine
  have hmul : (p - b + a) * inv % p * q ≡ 0 [MOD q] := Nat.modEq_zero_iff_dvd.mpr (dvd_mul_left _ _)
  exact hmul.add_left b

variable {inv}

lemma recombine_modEq_left (hinv : q * inv ≡ 1 [MOD p]) (hb : b ≤ p) :
    recombine p q inv a b ≡ a [MOD p] := by
  unfold recombine
  have hmod : (p - b + a) * inv % p * q ≡ (p - b + a) * (q * inv) [MOD p] := by
    have hmod := (Nat.mod_modEq ((p - b + a) * inv) p).mul_right q
    rwa [mul_assoc, mul_comm inv q] at hmod
  calc b + (p - b + a) * inv % p * q
      ≡ b + (p - b + a) * 1 [MOD p] := (hmod.trans (hinv.mul_left _)).add_left b
    _ = p + a := by omega
    _ ≡ a [MOD p] := by simp [Nat.ModEq]

lemma recombine_lt (hp : 0 < p) (hb : b < q) : recombine p q inv a b < p * q := by
  unfold recombine
  set t := (p - b + a) * inv % p
  have hlt : t + 1 ≤ p := Nat.mod_lt _ hp
  calc b + t * q < (t + 1) * q := by rw [Nat.succ_mul]; omega
    _ ≤ p * q := Nat.mul_le_mul_right q hlt

end Recombine

section Powers

variable {p q e d dp dq : ℕ} (hp : p.Prime) (hq : q.Prime) (hlt : q < p)
  (hd : e * d ≡ 1 [MOD Nat.lcm (p - 1) (q - 1)])

include hp hq hlt hd in
lemma recombine_pow (hq2 : 2 < q) (hdp : e * dp ≡ 1 [MOD p - 1]) (hdq : e * dq ≡ 1 [MOD q - 1])
    {inv : ℕ} (hinv : q * inv ≡ 1 [MOD p]) (c : ℕ) :
    recombine p q inv (c ^ dp % p) (c ^ dq % q) = c ^ d % (p * q) := by
  have hcop : p.Coprime q := (Nat.coprime_primes hp hq).mpr hlt.ne'
  have hdP : e * d ≡ 1 [MOD p - 1] := hd.of_dvd (Nat.dvd_lcm_left _ _)
  have hdQ : e * d ≡ 1 [MOD q - 1] := hd.of_dvd (Nat.dvd_lcm_right _ _)
  have hleft : recombine p q inv (c ^ dp % p) (c ^ dq % q) ≡ c ^ d [MOD p] :=
    calc recombine p q inv (c ^ dp % p) (c ^ dq % q)
        ≡ c ^ dp % p [MOD p] :=
          recombine_modEq_left _ _ hinv ((Nat.mod_lt _ hq.pos).le.trans hlt.le)
      _ ≡ c ^ dp [MOD p] := Nat.mod_modEq _ _
      _ ≡ c ^ d [MOD p] := pow_modEq_pow hp c (inverse_ne_zero (by omega) hdp)
          (inverse_ne_zero (by omega) hdP) (inverse_modEq hdp hdP)
  have hright : recombine p q inv (c ^ dp % p) (c ^ dq % q) ≡ c ^ d [MOD q] :=
    calc recombine p q inv (c ^ dp % p) (c ^ dq % q)
        ≡ c ^ dq % q [MOD q] := recombine_modEq_right _ _ _
      _ ≡ c ^ dq [MOD q] := Nat.mod_modEq _ _
      _ ≡ c ^ d [MOD q] := pow_modEq_pow hq c (inverse_ne_zero (by omega) hdq)
          (inverse_ne_zero (by omega) hdQ) (inverse_modEq hdq hdQ)
  have hboth := (Nat.modEq_and_modEq_iff_modEq_mul hcop).mp ⟨hleft, hright⟩
  rw [← hboth, Nat.mod_eq_of_lt (recombine_lt _ _ hp.pos (Nat.mod_lt _ hq.pos))]

end Powers

lemma pow_pow_mod {p q e d m : ℕ} (hp : p.Prime) (hq : q.Prime) (hne : p ≠ q)
    (hd : e * d ≡ 1 [MOD Nat.lcm (p - 1) (q - 1)]) (hp2 : 2 < p) (hm : m < p * q) :
    (m ^ e % (p * q)) ^ d % (p * q) = m := by
  have hcop : p.Coprime q := (Nat.coprime_primes hp hq).mpr hne
  have hdP : e * d ≡ 1 [MOD p - 1] := hd.of_dvd (Nat.dvd_lcm_left _ _)
  have hdQ : e * d ≡ 1 [MOD q - 1] := hd.of_dvd (Nat.dvd_lcm_right _ _)
  have hone : 1 * (e * d) ≡ 1 [MOD p - 1] := by rwa [one_mul]
  have hprod : e * d ≠ 0 := inverse_ne_zero (by omega) hone
  have hleft := pow_modEq_pow hp m hprod one_ne_zero hdP
  have hright := pow_modEq_pow hq m hprod one_ne_zero hdQ
  have hboth := (Nat.modEq_and_modEq_iff_modEq_mul hcop).mp ⟨hleft, hright⟩
  rw [pow_one] at hboth
  rw [← Nat.pow_mod, ← pow_mul, hboth, Nat.mod_eq_of_lt hm]

end RfTpm.Crt
