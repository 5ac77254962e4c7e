import RfTpm.Lib.Faults
import RfTpm.Lib.Cbc

/-!
# Buffers

A buffer is a string of a fixed length, and an access outside of it is a fault.  The code that
fills a buffer lays out parts one behind the other, so the rules below are about a buffer that is
written as the concatenation of its parts: `slice` takes a part out, `put` replaces one, and
`mixLoop` combines one with a part of another buffer, octet by octet.  `diffLoop` compares two parts
in the way of code that must not stop at the first difference.
-/

namespace RfTpm.Buffer

open Faults Cbc List

variable {ρ α : Type}

/-- The element at a place. -/
def get (buf : List α) (i : ℕ) : Run ρ α :=
  match buf[i]? with
  | some x => pure x
  | none => .error .fault

/-- The `n` elements from a place on. -/
def slice (buf : List α) (i n : ℕ) : Run ρ (List α) :=
  if i + n ≤ buf.length then pure ((buf.drop i).take n) else .error .fault

/-- The buffer with `l` written at a place. -/
def put (buf : List α) (i : ℕ) (l : List α) : Run ρ (List α) :=
  if i + l.length ≤ buf.length then pure (buf.take i ++ l ++ buf.drop (i + l.length))
  else .error .fault

section Rules

variable {a b c l : List α} {i n : ℕ}

lemma get_append (x : α) (hi : i = a.length) : get (ρ := ρ) (a ++ x :: c) i = .ok x := by
  subst hi
  unfold get
  rw [List.getElem?_append_right le_rfl, Nat.sub_self]
  rfl

lemma slice_append (hi : i = a.length) (hn : n = b.length) :
    slice (ρ := ρ) (a ++ b ++ c) i n = .ok b := by
  subst hi hn
  unfold slice
  rw [if_pos (by simp only [length_append]; omega), append_assoc, drop_left,
    take_left]
  rfl

lemma slice_front (hn : n = b.length) : slice (ρ := ρ) (b ++ c) 0 n = .ok b :=
  slice_append (a := []) rfl hn

lemma slice_back (hi : i = a.length) (hn : n = b.length) :
    slice (ρ := ρ) (a ++ b) i n = .ok b := by
  have hslice : slice (ρ := ρ) (a ++ b ++ []) i n = .ok b := slice_append hi hn
  rwa [append_nil] at hslice

lemma put_append (hi : i = a.length) (hl : l.length = b.length) :
    put (ρ := ρ) (a ++ b ++ c) i l = .ok (a ++ l ++ c) := by
  subst hi
  have hdrop : (a ++ b ++ c).drop (a.length + l.length) = c := by
    rw [hl, ← length_append, drop_left]
  unfold put
  rw [if_pos (by simp only [length_append]; omega), hdrop, append_assoc a b c,
    take_left]
  rfl

lemma put_start (hl : l.length = b.length) : put (ρ := ρ) (b ++ c) 0 l = .ok (l ++ c) :=
  put_append (a := []) rfl hl

/-- A buffer that is written from the front: the next part goes behind what is written already, and
the rest stays. -/
lemma put_front {buf : List α} {j : ℕ} (ha : a.length = i) (hj : i + l.length = j)
    (hroom : j ≤ buf.length) :
    put (ρ := ρ) (a ++ buf.drop i) i l = .ok ((a ++ l) ++ buf.drop j) := by
  have hnext : ((buf.drop i).take l.length).length = l.length := by
    rw [length_take, length_drop]
    omega
  have hput : put (ρ := ρ) (a ++ (buf.drop i).take l.length ++ (buf.drop i).drop l.length) i l =
      .ok (a ++ l ++ (buf.drop i).drop l.length) := put_append ha.symm hnext.symm
  rwa [append_assoc, take_append_drop, drop_drop, hj] at hput

lemma exists_parts (buf : List α) (h : i + n ≤ buf.length) :
    ∃ a b c, buf = a ++ b ++ c ∧ a.length = i ∧ b.length = n := by
  refine ⟨buf.take i, (buf.drop i).take n, (buf.drop i).drop n, ?_, ?_, ?_⟩
  · rw [append_assoc, take_append_drop, take_append_drop]
  · rw [length_take]
    omega
  · rw [length_take, length_drop]
    omega

lemma exists_front (buf : List α) (h : n ≤ buf.length) :
    ∃ b c, buf = b ++ c ∧ b.length = n :=
  ⟨buf.take n, buf.drop n, (take_append_drop n buf).symm, length_take_of_le h⟩

lemma scan_spec {β : Type} {f : ℕ → ℕ → Run ρ β} {g : ℕ → ℕ → β} {q : α → Prop}
    [DecidablePred q] {buf : List α}
    (hstep : ∀ n p, f (n + 1) p = do if q (← get buf p) then pure (g n p) else f n (p + 1))
    (hbuf : buf = a ++ l ++ c) :
    (∃ s x rest, l = s ++ x :: rest ∧ (∀ y ∈ s, ¬q y) ∧ q x ∧
      f l.length a.length = .ok (g rest.length (a.length + s.length))) ∨
    ((∀ y ∈ l, ¬q y) ∧ f l.length a.length = f 0 (a.length + l.length)) := by
  induction l generalizing a with
  | nil => exact .inr ⟨nofun, rfl⟩
  | cons x l ih =>
    subst hbuf
    rw [length_cons, hstep, append_assoc a, cons_append, get_append x rfl, ok_bind]
    by_cases hx : q x
    · rw [if_pos hx]
      exact .inl ⟨[], x, l, rfl, nofun, hx, rfl⟩
    · rw [if_neg hx]
      have hnext := ih (a := a ++ [x]) (by simp)
      rw [length_append, length_singleton] at hnext
      obtain ⟨s, y, rest, hl, hs, hy, hrun⟩ | ⟨hall, hrun⟩ := hnext
      · refine .inl ⟨x :: s, y, rest, by rw [hl]; rfl, forall_mem_cons.mpr ⟨hx, hs⟩, hy, ?_⟩
        rw [hrun, length_cons, Nat.add_right_comm, Nat.add_assoc]
      · refine .inr ⟨forall_mem_cons.mpr ⟨hx, hall⟩, ?_⟩
        rw [hrun, Nat.add_right_comm, Nat.add_assoc]

lemma first_unique {p : α → Prop} {a' c' : List α} {x y : α} (ha : ∀ b ∈ a, p b)
    (ha' : ∀ b ∈ a', p b) (hx : ¬ p x) (hy : ¬ p y) (h : a ++ x :: c = a' ++ y :: c') :
    a = a' ∧ x = y ∧ c = c' := by
  induction a generalizing a' with
  | nil =>
    cases a' with
    | nil =>
      obtain ⟨rfl, rfl⟩ := List.cons.inj h
      exact ⟨rfl, rfl, rfl⟩
    | cons b a' =>
      obtain ⟨rfl, -⟩ := List.cons.inj h
      exact absurd (ha' x mem_cons_self) hx
  | cons b a ih =>
    cases a' with
    | nil =>
      obtain ⟨rfl, -⟩ := List.cons.inj h
      exact absurd (ha b mem_cons_self) hy
    | cons b' a' =>
      obtain ⟨rfl, htail⟩ := List.cons.inj h
      obtain ⟨rfl, hrest⟩ := ih (forall_mem_cons.mp ha).2 (forall_mem_cons.mp ha').2 htail
      exact ⟨rfl, hrest⟩

end Rules

/-- `n` times `*dst++ ^= *src++`. -/
def mixLoop : ℕ → ℕ → ℕ → Bytes → Bytes → Run ρ Bytes
  | 0, _, _, dst, _ => pure dst
  | n + 1, i, j, dst, src => do
    let x ← get dst i
    let y ← get src j
    let dst₁ ← put dst i [x ^^^ y]
    mixLoop n (i + 1) (j + 1) dst₁ src

variable {a b c d e f : Bytes} {i n j : ℕ}

lemma get_middle (x : UInt8) (hi : i = a.length) :
    get (ρ := ρ) (a ++ (x :: b) ++ c) i = .ok x := by
  rw [append_assoc]
  exact get_append x hi

lemma mixLoop_append (hi : i = a.length) (hj : j = d.length) (hb : b.length = n)
    (hb' : e.length = n) :
    mixLoop (ρ := ρ) n i j (a ++ b ++ c) (d ++ e ++ f) = .ok (a ++ mix b e ++ c) := by
  induction n generalizing a b d e i j with
  | zero =>
    obtain rfl := eq_nil_of_length_eq_zero hb
    obtain rfl := eq_nil_of_length_eq_zero hb'
    rfl
  | succ n ih =>
    obtain ⟨x, b, rfl⟩ := exists_cons_of_length_eq_add_one hb
    obtain ⟨y, e, rfl⟩ := exists_cons_of_length_eq_add_one hb'
    have hput : put (ρ := ρ) (a ++ (x :: b) ++ c) i [x ^^^ y] =
        .ok ((a ++ [x ^^^ y]) ++ b ++ c) := by
      have hparts : a ++ (x :: b) ++ c = a ++ [x] ++ (b ++ c) := by simp
      rw [hparts, put_append (l := [x ^^^ y]) hi (Eq.refl 1), append_assoc (a ++ [x ^^^ y])]
    have hsrc : d ++ (y :: e) ++ f = (d ++ [y]) ++ e ++ f := by simp
    unfold mixLoop
    rw [get_middle x hi, ok_bind, get_middle y hj, ok_bind, hput, ok_bind, hsrc,
      ih (by rw [length_append, ← hi]; rfl) (by rw [length_append, ← hj]; rfl)
        (Nat.succ.inj hb) (Nat.succ.inj hb')]
    rw [append_assoc a]
    rfl

/-- `n` times `fail |= *p++ ^ *q++`. -/
def diffLoop : ℕ → ℕ → ℕ → Bytes → Bytes → UInt8 → Run ρ UInt8
  | 0, _, _, _, _, fail => pure fail
  | n + 1, i, j, p, q, fail => do
    let x ← get p i
    let y ← get q j
    diffLoop n (i + 1) (j + 1) p q (fail ||| (x ^^^ y))

lemma diffLoop_append (hi : i = a.length) (hj : j = d.length) (hb : b.length = n)
    (hb' : e.length = n) (fail : UInt8) :
    ∃ r, diffLoop (ρ := ρ) n i j (a ++ b ++ c) (d ++ e ++ f) fail = .ok r ∧
      (r = 0 ↔ fail = 0 ∧ b = e) := by
  induction n generalizing a b d e i j fail with
  | zero =>
    obtain rfl := eq_nil_of_length_eq_zero hb
    obtain rfl := eq_nil_of_length_eq_zero hb'
    exact ⟨fail, rfl, fun h => ⟨h, rfl⟩, fun h => h.1⟩
  | succ n ih =>
    obtain ⟨x, b, rfl⟩ := exists_cons_of_length_eq_add_one hb
    obtain ⟨y, e, rfl⟩ := exists_cons_of_length_eq_add_one hb'
    have hp : a ++ (x :: b) ++ c = (a ++ [x]) ++ b ++ c := by simp
    have hq : d ++ (y :: e) ++ f = (d ++ [y]) ++ e ++ f := by simp
    unfold diffLoop
    rw [get_middle x hi, ok_bind, get_middle y hj, ok_bind, hp, hq]
    have hi₁ : i + 1 = (a ++ [x]).length := by rw [length_append, ← hi]; rfl
    have hj₁ : j + 1 = (d ++ [y]).length := by rw [length_append, ← hj]; rfl
    obtain ⟨r, hr, hiff⟩ := ih hi₁ hj₁ (Nat.succ.inj hb) (Nat.succ.inj hb') (fail ||| (x ^^^ y))
    refine ⟨r, hr, ?_⟩
    rw [hiff, UInt8.or_eq_zero_iff, UInt8.xor_eq_zero_iff, List.cons.injEq, and_assoc]

lemma diffLoop_string {p : Bytes} (hp : p = a ++ b ++ c) (hi : i = a.length)
    (hb : b.length = n) (hb' : e.length = n) (fail : UInt8) :
    ∃ r, diffLoop (ρ := ρ) n i 0 p e fail = .ok r ∧ (r = 0 ↔ fail = 0 ∧ b = e) := by
  have hdiff := diffLoop_append (ρ := ρ) (d := []) (f := []) (c := c) hi rfl hb hb' fail
  rwa [append_nil, ← hp] at hdiff

end RfTpm.Buffer
