import RfTpm.Lib.Retry
import RfTpm.Crypt.Random

/-!
# Random numbers in a range

`TpmMath_GetRandomInRange` (TpmMath_Util.c) draws numbers until one is in the range, or until
`TpmMath_GetRandomInteger` fails. It does not look at which of the two ended the loop: what it
returns is whether the TPM is in failure mode. A generator can give less than it was asked for
without that, a derivation that is at its limit for one (`DRBG_Generate`). The loop then ends
with the number that was rejected last, and the function reports success.

The loop has no bound in the code. It takes fuel here, and `none` is a loop that is still running.
-/

namespace RfTpm.Math

open RfTpm.Bytes Retry

/-- `ExtMath_SizeInBits`. -/
def sizeInBits (v : ℕ) : ℕ := if v = 0 then 0 else v.log2 + 1

/-- `CRYPT_INT_VAR`: a number with room for so many bits, initialised to zero. -/
def cryptIntVar (bits : ℕ) : BigNum := ⟨bitsToCryptWords bits, 0, Mem.ofList []⟩

/-- The calls of `DRBG_Generate`: what the `i`-th writes, and whether the TPM is in failure mode
after it. -/
structure Engine where
  rand : ℕ → Rand
  failed : ℕ → Bool

/-- What `TpmMath_GetRandomInRange` leaves: the number, what it returns, and which call of the
engine is next. -/
structure Drawn where
  dest : BigNum
  ret : Bool
  next : ℕ

/-- The engine gives the bytes that a number of so many bits takes. -/
def Engine.Gives (g : Engine) (i bits : ℕ) : Prop :=
  (g.rand i (numBytes bits)).length = numBytes bits

instance (g : Engine) (i bits : ℕ) : Decidable (g.Gives i bits) :=
  inferInstanceAs (Decidable (_ = _))

/-- The loop, at the `i`-th call of the engine. -/
def drawLoop (limit : ℕ) (g : Engine) : ℕ → BigNum → ℕ → Option Drawn
  | 0, _, _ => none
  | fuel + 1, dest, i =>
    match tpmMathGetRandomInteger dest (sizeInBits limit) (g.rand i) with
    -- a full answer that finds no room in the number is a failed assertion
    | none => some ⟨dest, !(g.Gives i (sizeInBits limit) || g.failed i), i + 1⟩
    | some n =>
      if n.value = 0 ∨ n.value ≥ limit then drawLoop limit g fuel n (i + 1)
      else some ⟨n, !g.failed i, i + 1⟩

/-- `TpmMath_GetRandomInRange`, at the `i`-th call of the engine. -/
def tpmMathGetRandomInRange (dest : BigNum) (limit : ℕ) (g : Engine) (fuel i : ℕ) :
    Option Drawn :=
  if sizeInBits limit < 2 then some ⟨{ dest with size := 0 }, false, i⟩
  else drawLoop limit g fuel dest i

/-! ## The numbers that the engine stands for -/

/-- The number is at least one and below the limit. -/
def InRange (limit : ℕ) (n : BigNum) : Prop := 1 ≤ n.value ∧ n.value < limit

section Numbers

variable (dest : BigNum) (limit : ℕ) (g : Engine)

/-- The number after so many calls of the engine, each for the bits of the limit. -/
def Engine.number : ℕ → BigNum
  | 0 => dest
  | i + 1 => (tpmMathGetRandomInteger (Engine.number i) (sizeInBits limit) (g.rand i)).getD
      (Engine.number i)

/-- The `i`-th call gives a number that is not in the range. -/
def Engine.Rejects (i : ℕ) : Prop :=
  (tpmMathGetRandomInteger (g.number dest limit i) (sizeInBits limit) (g.rand i)).isSome ∧
    ¬ InRange limit (g.number dest limit (i + 1))

/-- What the function leaves if the `i`-th call ends its loop. It reports success unless the TPM
is in failure mode, from before or for want of room. -/
def Engine.drawn (i : ℕ) : Drawn where
  dest := g.number dest limit (i + 1)
  ret :=
    ((tpmMathGetRandomInteger (g.number dest limit i) (sizeInBits limit) (g.rand i)).isSome ||
      !g.Gives i (sizeInBits limit)) && !g.failed i
  next := i + 1

variable (fuel : ℕ) {i : ℕ} {d : Drawn}

lemma drawLoop_succ (i : ℕ) :
    (g.Rejects dest limit i ∧ drawLoop limit g (fuel + 1) (g.number dest limit i) i =
        drawLoop limit g fuel (g.number dest limit (i + 1)) (i + 1)) ∨
      (¬ g.Rejects dest limit i ∧
        drawLoop limit g (fuel + 1) (g.number dest limit i) i = some (g.drawn dest limit i)) := by
  unfold Engine.Rejects Engine.drawn
  rw [drawLoop, Engine.number]
  cases tpmMathGetRandomInteger (g.number dest limit i) (sizeInBits limit) (g.rand i) with
  | none => exact Or.inr ⟨by simp, by simp⟩
  | some n =>
    simp only [Option.isSome_some, Option.getD_some, Bool.true_or, Bool.true_and, true_and, InRange]
    by_cases hout : n.value = 0 ∨ n.value ≥ limit
    · exact Or.inl ⟨by omega, if_pos hout⟩
    · exact Or.inr ⟨by omega, if_neg hout⟩

lemma tpmMathGetRandomInRange_eq_some_iff (hlimit : 2 ≤ sizeInBits limit) :
    tpmMathGetRandomInRange (g.number dest limit i) limit g fuel i = some d ↔
      ∃ j < i + fuel, First (g.Rejects dest limit) i j ∧ some (g.drawn dest limit j) = some d := by
  rw [tpmMathGetRandomInRange, if_neg (Nat.not_lt.mpr hlimit)]
  refine loop_eq_some_iff (fun fuel i => drawLoop limit g fuel (g.number dest limit i) i) _ _
    (fun _ => rfl) (fun fuel i hreject => ?_) (fun fuel i hends => ?_) fuel
  · exact ((drawLoop_succ dest limit g fuel i).resolve_right fun h => h.1 hreject).2
  · exact ((drawLoop_succ dest limit g fuel i).resolve_left fun h => hends h.1).2

lemma Engine.number_of_none
    (h : tpmMathGetRandomInteger (g.number dest limit i) (sizeInBits limit) (g.rand i) = none) :
    ¬ g.Rejects dest limit i ∧ g.number dest limit (i + 1) = g.number dest limit i := by
  rw [Engine.Rejects, Engine.number, h]
  exact ⟨fun hreject => Bool.false_ne_true hreject.1, rfl⟩

end Numbers

/-- Success always means a number in the range exactly if the engine does not give too little
after numbers that are all rejected, unless the TPM is then in failure mode (and success is not
reported), or it is the first call and the number was in the range before. -/
theorem random_in_range_iff {dest : BigNum} {limit : ℕ} {g : Engine}
    (hlimit : 2 ≤ sizeInBits limit) :
    (∀ fuel d, tpmMathGetRandomInRange dest limit g fuel 0 = some d → d.ret = true →
        InRange limit d.dest) ↔
      ∀ i, (∀ j < i, g.Rejects dest limit j) → ¬ g.Gives i (sizeInBits limit) →
        g.failed i = true ∨ i = 0 ∧ InRange limit dest := by
  have hrun := fun fuel d => tpmMathGetRandomInRange_eq_some_iff dest limit g fuel (i := 0) (d := d)
    hlimit
  constructor
  · intro h i hbefore hshort
    obtain ⟨hends, hstays⟩ := Engine.number_of_none dest limit g (if_neg hshort)
    by_contra hnot
    rw [not_or, Bool.not_eq_true] at hnot
    have hin : InRange limit (g.number dest limit (i + 1)) := h (i + 1) (g.drawn dest limit i)
      ((hrun _ _).mpr ⟨i, by omega, ⟨i.zero_le, fun m _ => hbefore m, hends⟩, rfl⟩)
      (by simp [Engine.drawn, hshort, hnot.1])
    rw [hstays] at hin
    cases i with
    | zero => exact hnot.2 ⟨rfl, hin⟩
    | succ i => exact (hbefore i (by omega)).2 hin
  · intro h fuel d hd hret
    obtain ⟨i, -, hfirst, heq⟩ := (hrun fuel d).mp hd
    cases heq
    show InRange limit (g.number dest limit (i + 1))
    cases hn : tpmMathGetRandomInteger (g.number dest limit i) (sizeInBits limit) (g.rand i) with
    | some n => exact not_not.mp fun hout => hfirst.ends ⟨by rw [hn]; rfl, hout⟩
    | none =>
      simp only [Engine.drawn, hn, Option.isSome_none, Bool.false_or, Bool.and_eq_true,
        Bool.not_eq_true', decide_eq_false_iff_not] at hret
      rcases h i (fun j => hfirst.before j j.zero_le) hret.1 with hfailed | ⟨rfl, hin⟩
      · exact absurd hfailed (by simp [hret.2])
      · rw [(Engine.number_of_none dest limit g hn).2]
        exact hin

/-- The engine writes the byte `7` first, which is rejected, and then the byte `3`. -/
theorem random_in_range_three :
    ∃ d, tpmMathGetRandomInRange (cryptIntVar 8) 5
        ⟨fun i _ => if i = 0 then [7] else [3], fun _ => false⟩ 2 0 = some d ∧
      d.ret = true ∧ InRange 5 d.dest := by
  have hgives : ∀ i, Engine.Gives ⟨fun i _ => if i = 0 then [7] else [3], fun _ => false⟩ i
      (sizeInBits 5) := by
    intro i
    unfold Engine.Gives
    dsimp only
    split_ifs <;> decide
  have hrun : ∃ d, tpmMathGetRandomInRange (cryptIntVar 8) 5
      ⟨fun i _ => if i = 0 then [7] else [3], fun _ => false⟩ 2 0 = some d ∧ d.ret = true := by
    exact ⟨_, rfl, rfl⟩
  obtain ⟨d, hd, hret⟩ := hrun
  exact ⟨d, hd, hret,
    (random_in_range_iff (by decide)).mpr (fun i _ hshort => absurd (hgives i) hshort) 2 d hd hret⟩

/-- The engine gives nothing: the function reports success with the number zero it was given. -/
theorem random_out_of_range :
    ∃ d, tpmMathGetRandomInRange (cryptIntVar 8) 5 ⟨fun _ _ => [], fun _ => false⟩ 1 0 = some d ∧
      d.ret = true ∧ d.dest.value = 0 :=
  ⟨_, rfl, rfl, rfl⟩

end RfTpm.Math
