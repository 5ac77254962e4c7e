import Mathlib

/-!
# Parsers of a finite input

A parser takes the input that is left and returns a value and what is left after it, or an
error.  It carries the proof that it only moves forward: what is left is a suffix of the
input.  Two ways to read a whole area are built from it: `sequence` reads one value for
each parser of a list, and `exhaust` reads values of one kind until nothing is left, up to
a bound.
-/

namespace RfTpm.Parsing

/-- A parser of symbols `σ` with errors `ε` and values `α`. -/
structure Parser (σ ε α : Type) where
  run : List σ → Except ε (α × List σ)
  suffix : ∀ {input rest : List σ} {a : α}, run input = .ok (a, rest) → rest <:+ input

lemma bind_eq_ok {ε α β : Type} {x : Except ε α} {f : α → Except ε β} {b : β}
    (h : x >>= f = .ok b) : ∃ a, x = .ok a ∧ f a = .ok b := by
  cases x with
  | error e => cases h
  | ok a => exact ⟨a, rfl, h⟩

lemma bind_eq_error {ε α β : Type} {x : Except ε α} {f : α → Except ε β} {e : ε}
    (h : x >>= f = .error e) : x = .error e ∨ ∃ a, x = .ok a ∧ f a = .error e := by
  cases x with
  | error e' => exact .inl (by simpa [bind, Except.bind] using h)
  | ok a => exact .inr ⟨a, rfl, h⟩

lemma throw_eq_error {ε α : Type} {c : Prop} [Decidable c] {e e' : ε} {x : Except ε α}
    (h : (if c then throw e else x) = .error e') : e' = e ∨ x = .error e' := by
  split at h
  · exact .inl (Except.error.inj h).symm
  · exact .inr h

lemma throw_eq_ok {ε α : Type} {c : Prop} [Decidable c] {e : ε} {x : Except ε α}
    {a : α} (h : (if c then throw e else x) = .ok a) : ¬c ∧ x = .ok a := by
  split at h
  · cases h
  · exact ⟨‹¬c›, h⟩

namespace Parser

variable {σ ε α β : Type}

variable {input rest : List σ} {number : ℕ → ε → ε} {ps : List (Parser σ ε α)} {n : ℕ}
  {bad e tooMany : ε} {item : ℕ → Parser σ ε α} {test : List α → α → Except ε Unit}

lemma consumed (p : Parser σ ε α) {a : α} (h : p.run input = .ok (a, rest)) :
    ∃ area, input = area ++ rest := by
  obtain ⟨area, harea⟩ := p.suffix h
  exact ⟨area, harea.symm⟩

/-- A value, with nothing read. -/
def ret (a : α) : Parser σ ε α where
  run input := .ok (a, input)
  suffix h := (Prod.mk.inj (Except.ok.inj h)).2 ▸ List.suffix_refl _

/-- An error. -/
def fail (e : ε) : Parser σ ε α where
  run _ := .error e
  suffix h := nomatch h

/-- Read `n` symbols. -/
def symbols (n : ℕ) (short : ε) : Parser σ ε (List σ) where
  run input := if input.length < n then .error short else .ok (input.take n, input.drop n)
  suffix := by
    intro input rest a h
    split at h
    · cases h
    · exact (Prod.mk.inj (Except.ok.inj h)).2 ▸ List.drop_suffix n input

/-- Rename the errors of a parser. -/
def mapError {ε' : Type} (p : Parser σ ε α) (f : ε → ε') : Parser σ ε' α where
  run input := (p.run input).mapError f
  suffix := by
    intro input rest a h
    cases hp : p.run input with
    | error e => exact absurd h (by simp [hp, Except.mapError])
    | ok r =>
      simp only [hp, Except.mapError, Except.ok.injEq] at h
      subst h
      exact p.suffix hp

lemma mapError_error {ε' : Type} {p : Parser σ ε α} {f : ε → ε'} {e : ε'}
    (h : (p.mapError f).run input = .error e) : ∃ e', e = f e' := by
  cases hp : p.run input with
  | error e' =>
    simp only [mapError, hp, Except.mapError, Except.error.injEq] at h
    exact ⟨e', h.symm⟩
  | ok r => exact absurd h (by simp [mapError, hp, Except.mapError])

/-- Read a value and then, depending on it, another. -/
def andThen (p : Parser σ ε α) (q : α → Parser σ ε β) : Parser σ ε β where
  run input := do
    let (a, rest) ← p.run input
    (q a).run rest
  suffix := by
    intro input rest b h
    obtain ⟨⟨a, rest'⟩, hp, hq⟩ := bind_eq_ok h
    exact ((q a).suffix hq).trans (p.suffix hp)

/-- Check a value after it was read. -/
def check (p : Parser σ ε α) (accepts : α → Bool) (error : ε) : Parser σ ε α :=
  p.andThen fun a => if accepts a then ret a else fail error

/-- Transform the value read. -/
def map (p : Parser σ ε α) (f : α → β) : Parser σ ε β := p.andThen fun a => ret (f a)

/-! What each of them has read, exactly. -/

section

variable {p : Parser σ ε α} {input rest : List σ}

lemma symbols_ok_iff {short : ε} {a : List σ} :
    (symbols n short).run input = .ok (a, rest) ↔ a.length = n ∧ input = a ++ rest := by
  unfold symbols
  dsimp only
  split
  · refine iff_of_false nofun ?_
    rintro ⟨rfl, rfl⟩
    simp_all
  · rw [Except.ok.injEq, Prod.mk.injEq]
    constructor
    · rintro ⟨rfl, rfl⟩
      simp_all
    · rintro ⟨rfl, rfl⟩
      simp

lemma mapError_ok_iff {ε' : Type} {f : ε → ε'} {r : α × List σ} :
    (p.mapError f).run input = .ok r ↔ p.run input = .ok r := by
  simp only [mapError]
  cases p.run input <;> simp [Except.mapError]

lemma andThen_ok_iff {q : α → Parser σ ε β} {b : β} :
    (p.andThen q).run input = .ok (b, rest) ↔
      ∃ a mid, p.run input = .ok (a, mid) ∧ (q a).run mid = .ok (b, rest) := by
  constructor
  · intro h
    obtain ⟨⟨a, mid⟩, hp, hq⟩ := bind_eq_ok h
    exact ⟨a, mid, hp, hq⟩
  · rintro ⟨a, mid, hp, hq⟩
    simpa [andThen, hp, bind, Except.bind] using hq

lemma check_ok_iff {accepts : α → Bool} {error : ε} {a : α} :
    (p.check accepts error).run input = .ok (a, rest) ↔
      p.run input = .ok (a, rest) ∧ accepts a = true := by
  rw [check, andThen_ok_iff]
  constructor
  · rintro ⟨a', mid, hp, hq⟩
    split at hq
    · rename_i hacc
      obtain ⟨rfl, rfl⟩ := Prod.mk.inj (Except.ok.inj hq)
      exact ⟨hp, hacc⟩
    · cases hq
  · rintro ⟨hp, hacc⟩
    exact ⟨a, rest, hp, by rw [hacc]; rfl⟩

lemma map_ok_iff {f : α → β} {b : β} :
    (p.map f).run input = .ok (b, rest) ↔ ∃ a, p.run input = .ok (a, rest) ∧ f a = b := by
  rw [map, andThen_ok_iff]
  refine exists_congr fun a => ⟨?_, fun ⟨hp, hb⟩ => ⟨rest, hp, hb ▸ rfl⟩⟩
  rintro ⟨mid, hp, hq⟩
  obtain ⟨rfl, rfl⟩ := Prod.mk.inj (Except.ok.inj hq)
  exact ⟨hp, rfl⟩

lemma symbols_error {short : ε} (h : (symbols n short).run input = .error e) : e = short := by
  unfold symbols at h
  dsimp only at h
  split at h
  · exact (Except.error.inj h).symm
  · cases h

lemma map_error {f : α → β} (h : (p.map f).run input = .error e) : p.run input = .error e :=
  (bind_eq_error h).resolve_right fun ⟨_, _, hret⟩ => nomatch hret

lemma check_error {accepts : α → Bool} {error : ε}
    (h : (p.check accepts error).run input = .error e) : p.run input = .error e ∨ e = error := by
  obtain h | ⟨⟨a, mid⟩, -, h⟩ := bind_eq_error h
  · exact .inl h
  · dsimp only at h
    split at h
    · cases h
    · exact .inr (Except.error.inj h).symm

end

/-! ## One value for each parser of a list -/

/-- Read one value with each parser, in order.  An error is renamed with the number of the
parser, counted from `n + 1`. -/
def sequence (number : ℕ → ε → ε) : ℕ → List (Parser σ ε α) → List σ →
    Except ε (List α × List σ)
  | _, [], input => .ok ([], input)
  | n, p :: ps, input => do
    let (a, input) ← (p.run input).mapError (number (n + 1))
    let (as, input) ← sequence number (n + 1) ps input
    pure (a :: as, input)

lemma sequence_consumed {as : List α} (h : sequence number n ps input = .ok (as, rest)) :
    as.length = ps.length ∧ ∃ area, input = area ++ rest := by
  induction ps generalizing n input as with
  | nil =>
    simp only [sequence, Except.ok.injEq, Prod.mk.injEq] at h
    obtain ⟨rfl, rfl⟩ := h
    exact ⟨rfl, [], rfl⟩
  | cons p ps ih =>
    obtain ⟨⟨a, input₁⟩, hp, h⟩ := bind_eq_ok h
    obtain ⟨⟨as', input₂⟩, hps, h⟩ := bind_eq_ok h
    simp only [pure, Except.pure, Except.ok.injEq, Prod.mk.injEq] at h
    obtain ⟨rfl, rfl⟩ := h
    obtain ⟨hlength, area₂, harea₂⟩ := ih hps
    obtain ⟨area₁, harea₁⟩ := (p.mapError (number (n + 1))).consumed hp
    refine ⟨by simp [hlength], area₁ ++ area₂, ?_⟩
    rw [harea₁, harea₂, List.append_assoc]

/-- If no parser's error and no renaming of one is `e`, then neither is an error of the
whole. -/
lemma sequence_error_ne (hnumber : ∀ n e, e ≠ bad → number n e ≠ bad)
    (hps : ∀ p ∈ ps, ∀ input e, p.run input = .error e → e ≠ bad)
    (h : sequence number n ps input = .error e) : e ≠ bad := by
  induction ps generalizing n input e with
  | nil => cases h
  | cons p ps ih =>
    cases hp : p.run input with
    | error e' =>
      simp only [sequence, hp, Except.mapError, bind, Except.bind, Except.error.injEq] at h
      rw [← h]
      exact hnumber _ _ (hps p (by simp) _ _ hp)
    | ok r =>
      obtain ⟨a, input₁⟩ := r
      cases hrest : sequence number (n + 1) ps input₁ with
      | error e' =>
        simp only [sequence, hp, Except.mapError, bind, Except.bind, hrest,
          Except.error.injEq] at h
        rw [← h]
        exact ih (fun q hq => hps q (by simp [hq])) hrest
      | ok r' =>
        exact absurd h (by simp [sequence, hp, Except.mapError, bind, Except.bind, hrest,
          pure, Except.pure])

/-! ## Values of one kind until nothing is left -/

/-- Read values until the input is used up, at most `n` more of them.  Each value is checked
against the ones before it. -/
def exhaust (item : ℕ → Parser σ ε α) (test : List α → α → Except ε Unit) (tooMany : ε) :
    ℕ → List α → List σ → Except ε (List α)
  | _, done, [] => .ok done
  | 0, _, _ :: _ => .error tooMany
  | n + 1, done, x :: input => do
    let (a, rest) ← (item done.length).run (x :: input)
    test done a
    exhaust item test tooMany n (done ++ [a]) rest

/-- The values that `exhaust` returns: those it was given, and after them values that each
passed the test against the ones before it.  It reads at least one from a nonempty input,
and never more than it may. -/
lemma exhaust_ok {done all : List α} (h : exhaust item test tooMany n done input = .ok all) :
    ∃ new, all = done ++ new ∧ new.length ≤ n ∧ (input ≠ [] → new ≠ []) ∧
      ∀ i (hi : i < new.length), test (done ++ new.take i) new[i] = .ok () := by
  induction n generalizing done input with
  | zero =>
    cases input with
    | nil =>
      simp only [exhaust, Except.ok.injEq] at h
      exact ⟨[], by simp [h], le_rfl, fun hne => absurd rfl hne, fun i hi => absurd hi (by simp)⟩
    | cons x input => cases h
  | succ n ih =>
    cases input with
    | nil =>
      simp only [exhaust, Except.ok.injEq] at h
      exact ⟨[], by simp [h], Nat.zero_le _, fun hne => absurd rfl hne,
        fun i hi => absurd hi (by simp)⟩
    | cons x input =>
      obtain ⟨⟨a, rest⟩, -, h⟩ := bind_eq_ok h
      obtain ⟨⟨⟩, htest, h⟩ := bind_eq_ok h
      obtain ⟨new, rfl, hlength, -, htests⟩ := ih h
      refine ⟨a :: new, by simp, by simpa using hlength, fun _ => by simp, ?_⟩
      intro i hi
      cases i with
      | zero => simpa using htest
      | succ i =>
        have hi' : i < new.length := by simpa using hi
        simpa using htests i hi'

@[simp]
lemma exhaust_nil (n : ℕ) (done : List α) : exhaust item test tooMany n done [] = .ok done := by
  cases n <;> rfl

/-- Where an item is read exactly as `encode` writes it, `exhaust` succeeds exactly on the
concatenations of valid items that pass the tests. -/
lemma exhaust_ok_iff {encode : α → List σ} {valid : α → Prop} (hne : ∀ a, encode a ≠ [])
    (hitem : ∀ k input a rest,
      (item k).run input = .ok (a, rest) ↔ valid a ∧ input = encode a ++ rest) {done new : List α} :
    exhaust item test tooMany n done input = .ok (done ++ new) ↔
      new.length ≤ n ∧ input = new.flatMap encode ∧ (∀ a ∈ new, valid a) ∧
        ∀ i (hi : i < new.length), test (done ++ new.take i) new[i] = .ok () := by
  induction n generalizing done new input with
  | zero =>
    cases new with
    | nil => cases input <;> simp [exhaust]
    | cons a new => cases input <;> simp [exhaust]
  | succ n ih =>
    cases input with
    | nil => cases new <;> simp [hne]
    | cons x input =>
      cases new with
      | nil =>
        -- an item that was read stays in the result
        refine ⟨fun h => ?_, fun h => absurd h.2.1 (by simp)⟩
        obtain ⟨new, hnew, -, hread, -⟩ := exhaust_ok h
        exact absurd ((List.append_right_inj done).mp hnew).symm (hread (by simp))
      | cons a new =>
        constructor
        · intro h
          obtain ⟨⟨a', rest⟩, hrun, h⟩ := bind_eq_ok h
          obtain ⟨⟨⟩, htest, h⟩ := bind_eq_ok h
          obtain ⟨new', hnew, -⟩ := exhaust_ok h
          have hcons : a :: new = a' :: new' := by simpa using hnew
          obtain ⟨rfl, rfl⟩ := List.cons.inj hcons
          rw [List.append_cons done a new, ih] at h
          obtain ⟨hlength, rfl, hvalid, htests⟩ := h
          obtain ⟨ha, hinput⟩ := (hitem _ _ _ _).mp hrun
          refine ⟨Nat.succ_le_succ hlength, hinput, List.forall_mem_cons.mpr ⟨ha, hvalid⟩, ?_⟩
          intro i hi
          cases i with
          | zero => simpa using htest
          | succ i => simpa using htests i (by simpa using hi)
        · rintro ⟨hlength, hinput, hvalid, htests⟩
          have hrun := (hitem done.length _ a _).mpr ⟨hvalid a (by simp), hinput⟩
          have htest : test done a = .ok () := by
            have hfirst := htests 0 (Nat.succ_pos _)
            rwa [List.take_zero, List.append_nil] at hfirst
          have hbehind : ∀ i (hi : i < new.length),
              test (done ++ [a] ++ new.take i) new[i] = .ok () := by
            intro i hi
            have hnext := htests (i + 1) (Nat.succ_lt_succ hi)
            rwa [List.take_succ_cons, List.append_cons] at hnext
          have hrest : exhaust item test tooMany n (done ++ [a]) (new.flatMap encode) =
              .ok (done ++ [a] ++ new) := ih.mpr
            ⟨Nat.le_of_succ_le_succ hlength, rfl, fun b hb => hvalid b (by simp [hb]),
              hbehind⟩
          rw [← List.append_cons] at hrest
          simp only [exhaust, hrun, htest, bind, Except.bind]
          exact hrest

/-- If `bad` is the error of no item and no test, and not the error for too many items, then
it is no error of the whole. -/
lemma exhaust_error_ne {done : List α}
    (hitem : ∀ n input e, (item n).run input = .error e → e ≠ bad)
    (htest : ∀ done a e, test done a = .error e → e ≠ bad) (hmany : tooMany ≠ bad)
    (h : exhaust item test tooMany n done input = .error e) : e ≠ bad := by
  induction n generalizing done input with
  | zero =>
    cases input with
    | nil => cases h
    | cons x input =>
      simp only [exhaust, Except.error.injEq] at h
      exact h ▸ hmany
  | succ n ih =>
    cases input with
    | nil => cases h
    | cons x input =>
      cases hrun : (item done.length).run (x :: input) with
      | error e' =>
        simp only [exhaust, hrun, bind, Except.bind, Except.error.injEq] at h
        exact h ▸ hitem _ _ _ hrun
      | ok r =>
        cases ht : test done r.1 with
        | error e' =>
          simp only [exhaust, hrun, bind, Except.bind, ht, Except.error.injEq] at h
          exact h ▸ htest _ _ _ ht
        | ok u =>
          simp only [exhaust, hrun, bind, Except.bind, ht] at h
          exact ih h

end Parser

end RfTpm.Parsing
