import Mathlib

/-!
# Systems and their runs

A system is a set of initial states, a guard that says which labels may occur in a
state, and the state each label leads to.  `Reach` is reachability and
`Reach.invariant` the one induction every safety result goes through.  A stronger
guard gives a system with fewer runs (`restrict`): results that hold only while every
step meets a condition are stated over the restricted system.
-/

namespace RfTpm.Runs

/-- A labelled transition system whose steps are deterministic once the label is
chosen. -/
structure System (σ ι : Type*) where
  init : σ → Prop
  enabled : σ → ι → Prop
  step : σ → ι → σ

namespace System

variable {σ ι : Type*} (S : System σ ι)

/-- The reachable states. -/
inductive Reach : σ → Prop where
  | start {s : σ} (h : S.init s) : Reach s
  | step {s : σ} {i : ι} (h : Reach s) (hi : S.enabled s i) : Reach (S.step s i)

/-- The system restricted to the steps that meet a condition. -/
def restrict (cond : σ → ι → Prop) : System σ ι :=
  { S with enabled := fun s i => S.enabled s i ∧ cond s i }

/-- Along the labels, each is enabled where it occurs. -/
def Path : σ → List ι → Prop
  | _, [] => True
  | s, i :: is => S.enabled s i ∧ Path (S.step s i) is

instance decidablePath [∀ s i, Decidable (S.enabled s i)] :
    ∀ (s : σ) (is : List ι), Decidable (S.Path s is)
  | _, [] => .isTrue trivial
  | s, i :: is =>
    have := decidablePath (S.step s i) is
    inferInstanceAs (Decidable (S.enabled s i ∧ S.Path (S.step s i) is))

variable {S}

lemma Reach.invariant {I : σ → Prop} (hinit : ∀ s, S.init s → I s)
    (hstep : ∀ s i, I s → S.enabled s i → I (S.step s i)) {s : σ} (h : S.Reach s) : I s := by
  induction h with
  | start h => exact hinit _ h
  | step _ hi ih => exact hstep _ _ ih hi

lemma Reach.of_restrict {cond : σ → ι → Prop} {s : σ} (h : (S.restrict cond).Reach s) :
    S.Reach s :=
  h.invariant (fun _ hinit => .start hinit) fun _ _ hs hi => hs.step hi.1

lemma path_append {s : σ} {is js : List ι} :
    S.Path s (is ++ js) ↔ S.Path s is ∧ S.Path (is.foldl S.step s) js := by
  induction is generalizing s with
  | nil => simp [Path]
  | cons i is ih => simp [Path, ih, and_assoc]

lemma Reach.path {s : σ} (h : S.Reach s) (is : List ι) (hpath : S.Path s is) :
    S.Reach (is.foldl S.step s) := by
  induction is generalizing s with
  | nil => exact h
  | cons i is ih => exact ih (h.step hpath.1) hpath.2

end System

end RfTpm.Runs
