import Mathlib

/-!
# Loops that try again

A loop without a bound tries one index after the other and stops at the first that does not send
it on. It is modelled with fuel, and `loop_eq_some_iff` says for which fuel it has come to an end
and with what: nothing else about the loop is needed.
-/

namespace RfTpm.Retry

/-- From `i` on, `j` is the first index that is not followed by another try. -/
structure First (again : ℕ → Prop) (i j : ℕ) : Prop where
  le : i ≤ j
  before : ∀ m, i ≤ m → m < j → again m
  ends : ¬ again j

variable {again : ℕ → Prop} {i j : ℕ}

namespace First

lemma refl (h : ¬ again i) : First again i i := ⟨le_rfl, fun m hm hlt => by omega, h⟩

lemma eq (h : ¬ again i) (hj : First again i j) : j = i :=
  (hj.le.eq_or_lt.resolve_right fun hlt => h (hj.before i le_rfl hlt)).symm

lemma skip_iff {k : ℕ} (hk : i ≤ k) (h : ∀ m, i ≤ m → m < k → again m) :
    First again k j ↔ First again i j := by
  constructor
  · intro hj
    refine ⟨hk.trans hj.le, fun m hm hlt => ?_, hj.ends⟩
    rcases Nat.lt_or_ge m k with hmk | hkm
    · exact h m hm hmk
    · exact hj.before m hkm hlt
  · intro hj
    refine ⟨Nat.le_of_not_lt fun hlt => hj.ends (h j hj.le hlt), fun m hm => ?_, hj.ends⟩
    exact hj.before m (hk.trans hm)

lemma succ_iff (h : again i) : First again (i + 1) j ↔ First again i j :=
  skip_iff (Nat.le_succ i) fun m hm hlt => (show m = i by omega) ▸ h

lemma exists_le (hij : i ≤ j) (h : ¬ again j) : ∃ k ≤ j, First again i k := by
  induction hij using Nat.decreasingInduction with
  | self => exact ⟨j, le_rfl, refl h⟩
  | of_succ i hi ih =>
    by_cases hagain : again i
    · obtain ⟨k, hk, hfirst⟩ := ih
      exact ⟨k, hk, (succ_iff hagain).mp hfirst⟩
    · exact ⟨i, hi.le, refl hagain⟩

end First

lemma loop_eq_some_iff {β : Type*} (loop : ℕ → ℕ → Option β) (again : ℕ → Prop)
    (out : ℕ → Option β) (hzero : ∀ i, loop 0 i = none)
    (hagain : ∀ fuel i, again i → loop (fuel + 1) i = loop fuel (i + 1))
    (hends : ∀ fuel i, ¬ again i → loop (fuel + 1) i = out i) (fuel : ℕ) {b : β} :
    loop fuel i = some b ↔ ∃ j < i + fuel, First again i j ∧ out j = some b := by
  induction fuel generalizing i with
  | zero =>
    rw [hzero]
    refine iff_of_false nofun ?_
    rintro ⟨j, hlt, hfirst, -⟩
    exact absurd hfirst.le (by omega)
  | succ fuel ih =>
    by_cases h : again i
    · rw [hagain _ _ h, ih, Nat.add_assoc, Nat.add_comm 1]
      simp only [First.succ_iff h]
    · rw [hends _ _ h]
      constructor
      · intro hout
        exact ⟨i, by omega, .refl h, hout⟩
      · rintro ⟨j, -, hfirst, hout⟩
        rwa [← hfirst.eq h]

end RfTpm.Retry
