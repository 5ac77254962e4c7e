import Mathlib

/-!
# Signed machine integers

Conversions of an integer to a signed type of a fixed width, as C makes them: modulo a power of two,
into the range around zero.
-/

namespace RfTpm.CInt

/-- A conversion to `INT16`. -/
def int16 (x : ℤ) : ℤ := (x + 2 ^ 15) % 2 ^ 16 - 2 ^ 15

lemma int16_eq {x : ℤ} (hlow : -2 ^ 15 ≤ x) (hhigh : x < 2 ^ 15) : int16 x = x := by
  unfold int16
  omega

lemma int16_lt (x : ℤ) : int16 x < 2 ^ 15 := by
  unfold int16
  omega

end RfTpm.CInt
