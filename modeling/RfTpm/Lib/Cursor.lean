import RfTpm.Lib.Bytes

/-!
# Readers with a cursor

A reader walks over an input with a cursor: how far it has come, and how many bytes it takes to
be left.  Nothing ties the two together but the code, and nothing keeps the code from reading
behind the input or from storing more than the target holds: both are a fault.  A reader that
ends with an error leaves the cursor where it stood.

`Reads r Q` is the safety of a reader: wherever the bytes that are taken to be left are there, it
has no fault, it moves the cursor by some number of them, and the value and that number satisfy `Q`.
-/

namespace RfTpm.Cursor

open Bytes

/-- A cursor: the bytes behind it, and the bytes taken to be left. -/
structure At where
  pos : ℕ
  size : ℤ
  deriving DecidableEq

/-- How a reader ends. -/
inductive Outcome (ε α : Type)
  | fault
  | done (result : Except ε α) (cursor : At)

/-- A reader of values `α` with errors `ε`. -/
def Reader (ε α : Type) : Type := Bytes → At → Outcome ε α

variable {ε α β : Type}

namespace Reader

instance : Monad (Reader ε) where
  pure v := fun _ a => .done (.ok v) a
  bind r f := fun input a =>
    match r input a with
    | .fault => .fault
    | .done (.error e) a' => .done (.error e) a'
    | .done (.ok v) a' => f v input a'

/-- An access outside of the input or of the target. -/
def fault : Reader ε α := fun _ _ => .fault

/-- End with an error. -/
def refuse (e : ε) : Reader ε α := fun _ a => .done (.error e) a

/-- End with an error if the condition holds. -/
def refuseIf (c : Prop) [Decidable c] (e : ε) : Reader ε Unit := if c then refuse e else pure ()

/-- The bytes taken to be left. -/
def remaining : Reader ε ℤ := fun _ a => .done (.ok a.size) a

/-- The next `n` bytes, and the cursor behind them. -/
def take (n : ℕ) : Reader ε Bytes := fun input a =>
  if a.pos + n ≤ input.length then
    .done (.ok ((input.drop a.pos).take n)) ⟨a.pos + n, a.size - n⟩
  else .fault

/-- A big-endian integer of `n` bytes; the size is compared as an unsigned integer. -/
def uint (n : ℕ) (e : ε) : Reader ε ℕ := fun input a =>
  if (a.size % 2 ^ 32).toNat < n then refuse e input a
  else (do let bs ← take n; return beVal bs : Reader ε ℕ) input a

/-- A string of `n` bytes into a buffer; the size is compared as a signed integer. -/
def array (capacity n : ℕ) (e : ε) : Reader ε Bytes := fun input a =>
  if (n : ℤ) > a.size then refuse e input a
  else if n ≤ capacity then take n input a
  else .fault

/-- Values into the places of an array from the `i`th on. -/
def elements (capacity : ℕ) (r : Reader ε α) : ℕ → ℕ → Reader ε (List α)
  | _, 0 => pure []
  | i, n + 1 =>
    if i < capacity then do
      let v ← r
      let vs ← elements capacity r (i + 1) n
      return v :: vs
    else fault

/-- A value that has to take up `n` bytes. -/
def sized (n : ℕ) (r : Reader ε α) (e : ε) : Reader ε α := do
  let startSize ← remaining
  let v ← r
  let size ← remaining
  refuseIf ((n : ℤ) ≠ startSize - size) e
  return v

variable {f : α → Reader ε β} {input : Bytes}

lemma bind_of_ok {r : Reader ε α} {a a' : At} {v : α} (h : r input a = .done (.ok v) a') :
    (r >>= f) input a = f v input a' := by
  simp only [bind, h]

lemma bind_of_error {r : Reader ε α} {a a' : At} {e : ε} (h : r input a = .done (.error e) a') :
    (r >>= f) input a = .done (.error e) a' := by
  simp only [bind, h]

end Reader

open Reader

/-! ## Safety -/

/-- The bytes that are taken to be left are there. -/
structure At.Within (input : Bytes) (a : At) : Prop where
  nonneg : 0 ≤ a.size
  bound : a.pos + a.size ≤ input.length

/-- The reader has no fault and moves the cursor over bytes that are there; its value and their
number satisfy `Q`. -/
def Reads (r : Reader ε α) (Q : α → ℕ → Prop) : Prop :=
  ∀ input a, a.Within input → ∃ (result : Except ε α) (n : ℕ),
    r input a = .done result ⟨a.pos + n, a.size - n⟩ ∧ (n : ℤ) ≤ a.size ∧
      ∀ v, result = .ok v → Q v n

variable {input : Bytes} {n capacity : ℕ} {r : Reader ε α} {Q : α → ℕ → Prop}
  {f : α → Reader ε β} {c : Prop}

lemma At.Within.move {a : At} (h : a.Within input) (hn : (n : ℤ) ≤ a.size) :
    At.Within input ⟨a.pos + n, a.size - n⟩ := by
  obtain ⟨hnonneg, hbound⟩ := h
  refine ⟨?_, ?_⟩
  · show 0 ≤ a.size - n
    omega
  · show ((a.pos + n : ℕ) : ℤ) + (a.size - n) ≤ input.length
    push_cast
    omega

lemma Reads.mono {Q' : α → ℕ → Prop} (h : Reads r Q) (hQ : ∀ v n, Q v n → Q' v n) :
    Reads r Q' := by
  intro input a ha
  obtain ⟨result, n, hrun, hn, hv⟩ := h input a ha
  exact ⟨result, n, hrun, hn, fun v heq => hQ v n (hv v heq)⟩

lemma Reads.pure {v : α} (h : Q v 0) : Reads (Pure.pure v : Reader ε α) Q := by
  intro input a ha
  refine ⟨.ok v, 0, ?_, by simpa using ha.nonneg, ?_⟩
  · simp [Pure.pure]
  · rintro _ ⟨⟩
    exact h

lemma Reads.refuse (e : ε) (Q : α → ℕ → Prop) : Reads (Reader.refuse e : Reader ε α) Q := by
  intro input a ha
  refine ⟨.error e, 0, ?_, by simpa using ha.nonneg, fun v heq => by cases heq⟩
  simp [Reader.refuse]

lemma Reads.bind {Q' : β → ℕ → Prop} (h : Reads r Q)
    (hf : ∀ v n, Q v n → Reads (f v) fun w m => Q' w (n + m)) : Reads (r >>= f) Q' := by
  intro input a ha
  obtain ⟨result, n, hrun, hn, hv⟩ := h input a ha
  cases result with
  | error e => exact ⟨.error e, n, bind_of_error hrun, hn, fun w heq => by cases heq⟩
  | ok v =>
    obtain ⟨result, m, hnext, hm, hw⟩ := hf v n (hv v rfl) input _ (ha.move hn)
    refine ⟨result, n + m, ?_, ?_, hw⟩
    · rw [bind_of_ok hrun, hnext]
      push_cast
      rw [Nat.add_assoc, Int.sub_sub]
    · push_cast
      dsimp only at hm
      omega

/-- The reader has no fault and moves the cursor over bytes that are there. -/
def Sound (r : Reader ε α) : Prop := Reads r fun _ _ => True

lemma Reads.sound (h : Reads r Q) : Sound r :=
  h.mono fun _ _ _ => trivial

lemma Sound.pure (v : α) : Sound (Pure.pure v : Reader ε α) := Reads.pure trivial

lemma Sound.refuse (e : ε) : Sound (Reader.refuse e : Reader ε α) := Reads.refuse e _

lemma Sound.bind (h : Sound r) (hf : ∀ v, Sound (f v)) : Sound (r >>= f) :=
  Reads.bind h fun v _ _ => hf v

lemma Sound.ite [Decidable c] {s : Reader ε α} (hr : Sound r) (hs : Sound s) :
    Sound (if c then r else s) := by
  split_ifs
  · exact hr
  · exact hs

lemma reads_refuseIf [Decidable c] (e : ε) :
    Reads (Reader.refuseIf c e) fun _ n => n = 0 ∧ ¬c := by
  unfold Reader.refuseIf
  split_ifs with hc
  · exact Reads.refuse e _
  · exact Reads.pure ⟨rfl, hc⟩

lemma take_within {a : At} (ha : a.Within input) (hn : (n : ℤ) ≤ a.size) :
    Reader.take (ε := ε) n input a =
      .done (.ok ((input.drop a.pos).take n)) ⟨a.pos + n, a.size - n⟩ := by
  unfold Reader.take
  rw [if_pos]
  have hbound := ha.bound
  omega

lemma length_take_drop {a : At} (ha : a.Within input) (hn : (n : ℤ) ≤ a.size) :
    ((input.drop a.pos).take n).length = n := by
  have hbound := ha.bound
  rw [List.length_take, List.length_drop]
  omega

lemma reads_uint (n : ℕ) (e : ε) : Reads (Reader.uint n e) fun v m => m = n ∧ v < 256 ^ n := by
  intro input a ha
  by_cases hshort : (a.size % 2 ^ 32).toNat < n
  · refine ⟨.error e, 0, ?_, by simpa using ha.nonneg, fun v heq => by cases heq⟩
    unfold Reader.uint
    rw [if_pos hshort]
    simp [Reader.refuse]
  · have hn : (n : ℤ) ≤ a.size := by
      have hnonneg := ha.nonneg
      omega
    refine ⟨.ok (beVal ((input.drop a.pos).take n)), n, ?_, hn, ?_⟩
    · unfold Reader.uint
      rw [if_neg hshort]
      exact bind_of_ok (take_within ha hn)
    · rintro _ ⟨⟩
      have hlt := beVal_lt ((input.drop a.pos).take n)
      rw [length_take_drop ha hn] at hlt
      exact ⟨rfl, hlt⟩

lemma reads_array (h : n ≤ capacity) (e : ε) :
    Reads (Reader.array capacity n e) fun v m => m = n ∧ v.length = n := by
  intro input a ha
  by_cases hshort : (n : ℤ) > a.size
  · refine ⟨.error e, 0, ?_, by simpa using ha.nonneg, fun v heq => by cases heq⟩
    unfold Reader.array
    rw [if_pos hshort]
    simp [Reader.refuse]
  · have hn : (n : ℤ) ≤ a.size := by omega
    refine ⟨.ok ((input.drop a.pos).take n), n, ?_, hn, ?_⟩
    · unfold Reader.array
      rw [if_neg hshort, if_pos h]
      exact take_within ha hn
    · rintro _ ⟨⟩
      exact ⟨rfl, length_take_drop ha hn⟩

lemma sound_refuseIf [Decidable c] (e : ε) : Sound (Reader.refuseIf c e) :=
  (reads_refuseIf e).sound

lemma reads_elements (hr : Sound r) {i : ℕ} (h : i + n ≤ capacity) :
    Reads (Reader.elements capacity r i n) fun vs _ => vs.length = n := by
  induction n generalizing i with
  | zero => exact Reads.pure rfl
  | succ n ih =>
    unfold Reader.elements
    rw [if_pos (by omega)]
    refine Reads.bind hr fun v m _ => (ih (by omega)).bind fun vs k hvs => Reads.pure ?_
    rw [List.length_cons, hvs]

lemma reads_sized (hr : Sound r) (e : ε) : Reads (Reader.sized n r e) fun _ m => m = n := by
  intro input a ha
  obtain ⟨result, m, hrun, hm, -⟩ := hr input a ha
  cases result with
  | error e' =>
    refine ⟨.error e', m, ?_, hm, fun v heq => by cases heq⟩
    exact (bind_of_ok (rfl : remaining input a = .done (.ok a.size) a)).trans (bind_of_error hrun)
  | ok v =>
    have hread : Reader.sized n r e input a =
        (do refuseIf ((n : ℤ) ≠ a.size - (a.size - m)) e; return v : Reader ε α) input
          ⟨a.pos + m, a.size - m⟩ := bind_of_ok hrun
    by_cases hsize : n = m
    · refine ⟨.ok v, m, ?_, hm, ?_⟩
      · rw [hread, refuseIf, if_neg (by omega)]
        rfl
      · rintro _ ⟨⟩
        exact hsize.symm
    · refine ⟨.error e, m, ?_, hm, fun v heq => by cases heq⟩
      rw [hread, refuseIf, if_pos (by omega)]
      rfl

end RfTpm.Cursor
