import Mathlib

/-!
# Runs that may touch memory they must not

A run ends with a value, with an early reply, or with a fault: an access outside of an object.
`Meets x Q` says that the run `x` has no fault and that the value it ends with, if it ends with
one, satisfies `Q`.  It is a weakest precondition for code whose early replies need no
justification, and its rules follow the shape of the code.
-/

namespace RfTpm.Faults

/-- How a run ends early. -/
inductive Stop (ρ : Type*)
  | fault
  | reply (r : ρ)
deriving DecidableEq

/-- A run with early replies `ρ` and values `α`. -/
abbrev Run (ρ α : Type) := Except (Stop ρ) α

variable {ρ α β : Type}

lemma ok_bind (a : α) (f : α → Run ρ β) : (.ok a : Run ρ α) >>= f = f a := rfl

lemma error_bind (e : Stop ρ) (f : α → Run ρ β) : (.error e : Run ρ α) >>= f = .error e := rfl

/-- No fault, and the value satisfies `Q`. -/
def Meets : Run ρ α → (α → Prop) → Prop
  | .ok a, Q => Q a
  | .error .fault, _ => False
  | .error (.reply _), _ => True

variable {x : Run ρ α} {Q : α → Prop}

lemma Meets.mono {Q' : α → Prop} (h : Meets x Q) (hQ : ∀ a, Q a → Q' a) : Meets x Q' := by
  cases x with
  | ok a => exact hQ a h
  | error e =>
    cases e with
    | fault => exact h
    | reply r => trivial

lemma Meets.bind {f : α → Run ρ β} {Q' : β → Prop} (h : Meets x Q)
    (hf : ∀ a, Q a → Meets (f a) Q') : Meets (x >>= f) Q' := by
  cases x with
  | ok a => exact hf a h
  | error e =>
    cases e with
    | fault => exact h
    | reply r => trivial

lemma Meets.ne_fault (h : Meets x Q) : x ≠ .error .fault := by
  rintro rfl
  exact h

/-- The first run has a fault, or it is the second. -/
def SameUnlessFault (x y : Run ρ α) : Prop := x = .error .fault ∨ x = y

namespace SameUnlessFault

variable {x' y y' : Run ρ α}

lemma refl (x : Run ρ α) : SameUnlessFault x x := .inr rfl

lemma bind {f g : α → Run ρ β} (h : SameUnlessFault x y) (hf : ∀ a, SameUnlessFault (f a) (g a)) :
    SameUnlessFault (x >>= f) (y >>= g) := by
  obtain rfl | rfl := h
  · exact .inl rfl
  · cases x with
    | ok a => exact hf a
    | error e => exact refl _

lemma ite {c : Prop} [Decidable c] (h : SameUnlessFault x y) (h' : SameUnlessFault x' y') :
    SameUnlessFault (if c then x else x') (if c then y else y') := by
  split
  · exact h
  · exact h'

end SameUnlessFault

end RfTpm.Faults
