import Mathlib

/-!
# Chaining

A mode of operation cuts its data into pieces of one size, the last of which may be shorter, and
takes one after the other.  What is passed on from piece to piece is the chaining value.  The two
facts about it that do not depend on the mode are that it can be stopped between two pieces
(`run_append`), and that it is undone if every step is (`run_inverse`).
-/

namespace RfTpm.Chain

open List

variable {σ α : Type*}

/-- What is done with one piece. -/
abbrev Step (σ α : Type*) := σ → List α → List α × σ

/-- The first `n` pieces of the data. -/
def pieces (f : Step σ α) (size : ℕ) : ℕ → σ → List α → List α × σ
  | 0, s, _ => ([], s)
  | n + 1, s, data =>
    if data.isEmpty then ([], s)
    else
      let r := f s (data.take size)
      let rest := pieces f size n r.2 (data.drop size)
      (r.1 ++ rest.1, rest.2)

/-- All of the data. -/
def run (f : Step σ α) (size : ℕ) (s : σ) (data : List α) : List α × σ :=
  pieces f size data.length s data

variable {f g : Step σ α} {size : ℕ}

@[simp]
lemma run_nil (s : σ) : run f size s [] = ([], s) := rfl

variable {s : σ} {d : List α} {whole : Prop}

lemma pieces_of_le (hsize : 0 < size) {n m : ℕ} (hn : d.length ≤ n) (hm : d.length ≤ m) :
    pieces f size n s d = pieces f size m s d := by
  induction n generalizing m s d with
  | zero =>
    obtain rfl := length_eq_zero_iff.mp (Nat.le_zero.mp hn)
    cases m <;> rfl
  | succ n ih =>
    cases m with
    | zero =>
      obtain rfl := length_eq_zero_iff.mp (Nat.le_zero.mp hm)
      rfl
    | succ m =>
      unfold pieces
      split
      · rfl
      · have hdrop : (d.drop size).length = d.length - size := length_drop
        dsimp only
        rw [ih (m := m) (by omega) (by omega)]

lemma run_of_ne_nil (hsize : 0 < size) (h : d ≠ []) :
    run f size s d =
      ((f s (d.take size)).1 ++
          (run f size (f s (d.take size)).2 (d.drop size)).1,
        (run f size (f s (d.take size)).2 (d.drop size)).2) := by
  obtain ⟨n, hn⟩ := Nat.exists_eq_succ_of_ne_zero (mt length_eq_zero_iff.mp h)
  have hdrop : (d.drop size).length = d.length - size := length_drop
  unfold run
  rw [hn, pieces, if_neg (by simpa using h)]
  dsimp only
  rw [pieces_of_le (n := n) (m := (d.drop size).length) hsize (by omega) le_rfl]

lemma run_piece (hsize : 0 < size) (h : d ≠ []) (hle : d.length ≤ size) :
    run f size s d = f s d := by
  rw [run_of_ne_nil hsize h, take_of_length_le hle, drop_of_length_le hle]
  simp

/-- A piece of the data, if it may be cut into `whole` pieces only. -/
def Fits (whole : Prop) (size : ℕ) (c : List α) : Prop :=
  c.length ≤ size ∧ (whole → c.length = size)

lemma fits_take (hnil : d ≠ []) (hd : whole → size ∣ d.length) :
    Fits whole size (d.take size) := by
  have htake : (d.take size).length = min size d.length := length_take
  refine ⟨by omega, fun h => ?_⟩
  have := Nat.le_of_dvd (length_pos_iff.mpr hnil) (hd h)
  omega

lemma dvd_drop (hd : size ∣ d.length) : size ∣ (d.drop size).length := by
  rw [length_drop]
  exact Nat.dvd_sub hd (Nat.dvd_refl size)

lemma length_run (hsize : 0 < size) (hf : ∀ s c, Fits whole size c → (f s c).1.length = c.length)
    (s : σ) (hd : whole → size ∣ d.length) : (run f size s d).1.length = d.length := by
  induction hn : d.length using Nat.strong_induction_on generalizing s d with
  | _ n ih =>
    by_cases hnil : d = []
    · subst hnil
      exact hn
    · have hdrop : (d.drop size).length = d.length - size := length_drop
      have hpos := length_pos_iff.mpr hnil
      rw [run_of_ne_nil hsize hnil, length_append, hf _ _ (fits_take hnil hd),
        ih (d.drop size).length (by omega) _ (fun h => dvd_drop (hd h)) rfl, length_take,
        hdrop]
      omega

lemma run_append (hsize : 0 < size) {a b : List α} (ha : size ∣ a.length) :
    run f size s (a ++ b) =
      ((run f size s a).1 ++ (run f size (run f size s a).2 b).1,
        (run f size (run f size s a).2 b).2) := by
  induction hn : a.length using Nat.strong_induction_on generalizing s a with
  | _ n ih =>
    by_cases hnil : a = []
    · subst hnil
      rfl
    · have hpos := length_pos_iff.mpr hnil
      have hle : size ≤ a.length := Nat.le_of_dvd hpos ha
      have hdrop : (a.drop size).length = a.length - size := length_drop
      have hrest := ih (a.drop size).length (by omega) (s := (f s (a.take size)).2)
        (a := a.drop size) (hdrop ▸ Nat.dvd_sub ha (Nat.dvd_refl size)) rfl
      rw [run_of_ne_nil hsize (d := a ++ b) (by simp [hnil]), take_append_of_le_length hle,
        drop_append_of_le_length hle, hrest, run_of_ne_nil hsize hnil, append_assoc]

lemma run_inverse (hsize : 0 < size)
    (hlength : ∀ s c, Fits whole size c → (f s c).1.length = c.length)
    (hstep : ∀ s c, Fits whole size c → g s (f s c).1 = (c, (f s c).2))
    (hd : whole → size ∣ d.length) : run g size s (run f size s d).1 = (d, (run f size s d).2) := by
  induction hn : d.length using Nat.strong_induction_on generalizing s d with
  | _ n ih =>
    by_cases hnil : d = []
    · subst hnil
      rfl
    have hpos := length_pos_iff.mpr hnil
    have hdrop : (d.drop size).length = d.length - size := length_drop
    have htake : (d.take size).length = min size d.length := length_take
    have hfits := fits_take hnil hd
    have hfirst := hstep s (d.take size) hfits
    have hrest := ih (d.drop size).length (by omega) (s := (f s (d.take size)).2)
      (d := d.drop size) (fun h => dvd_drop (hd h)) rfl
    have hlen := hlength s (d.take size) hfits
    -- the first piece of the output is the output for the first piece
    by_cases hlast : d.length ≤ size
    · rw [take_of_length_le hlast] at hfirst hlen
      have hout : (f s d).1 ≠ [] := by
        rw [← length_pos_iff, hlen]
        exact hpos
      rw [run_piece hsize hnil hlast, run_piece hsize hout (by rw [hlen]; exact hlast)]
      exact hfirst
    · have hcut : (f s (d.take size)).1.length = size := by omega
      rw [run_of_ne_nil hsize hnil]
      dsimp only
      rw [run_append hsize (by rw [hcut]), run_piece hsize (by rw [← length_pos_iff]; omega)
        hcut.le, hfirst]
      dsimp only
      rw [hrest, take_append_drop]

end RfTpm.Chain
