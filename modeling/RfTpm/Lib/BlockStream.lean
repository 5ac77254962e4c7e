import Mathlib

/-!
# Streams of blocks

Blocks of one size that are made from a counter, one behind the other, and cut off at a number of
elements.  A loop that makes such a stream has a block and what is left in each round; `stream_step`
is that round.
-/

namespace RfTpm.BlockStream

variable {α : Type*}

/-- `k` blocks, from the counter `i` on. -/
def blocks (f : ℕ → List α) : ℕ → ℕ → List α
  | _, 0 => []
  | i, k + 1 => f i ++ blocks f (i + 1) k

/-- The first `n` elements of the blocks from the counter `i` on. -/
def stream (f : ℕ → List α) (i n : ℕ) : List α := (blocks f i n).take n

variable {f : ℕ → List α} {size : ℕ}

lemma length_blocks (hsize : ∀ i, (f i).length = size) (i k : ℕ) :
    (blocks f i k).length = k * size := by
  induction k generalizing i with
  | zero => simp [blocks]
  | succ k ih =>
    rw [blocks, List.length_append, hsize, ih]
    ring

lemma take_blocks (hpos : 0 < size) (hsize : ∀ i, (f i).length = size) {n k : ℕ} (h : n ≤ k)
    (i : ℕ) : (blocks f i k).take n = stream f i n := by
  unfold stream
  induction n generalizing i k with
  | zero => rw [List.take_zero, List.take_zero]
  | succ n ih =>
    obtain ⟨k, rfl⟩ := Nat.exists_eq_add_of_le' (Nat.zero_lt_of_lt h)
    have htail (m : ℕ) (hm : n ≤ m) : (blocks f (i + 1) m).take (n + 1 - size) =
        ((blocks f (i + 1) n).take n).take (n + 1 - size) := by
      rw [← ih (k := m) hm, List.take_take, Nat.min_eq_left (by omega)]
    rw [blocks, blocks, List.take_append, List.take_append, hsize, htail k (by omega),
      htail n le_rfl]

lemma length_stream (hpos : 0 < size) (hsize : ∀ i, (f i).length = size) (i n : ℕ) :
    (stream f i n).length = n := by
  unfold stream
  rw [List.length_take, length_blocks hsize]
  exact Nat.min_eq_left (Nat.le_mul_of_pos_right n hpos)

@[simp]
lemma stream_zero (i : ℕ) : stream f i 0 = [] := rfl

lemma stream_step (hpos : 0 < size) (hsize : ∀ i, (f i).length = size) (i : ℕ) {n : ℕ}
    (hn : 0 < n) : stream f i n = (f i).take n ++ stream f (i + 1) (n - size) := by
  obtain ⟨m, rfl⟩ := Nat.exists_eq_add_of_le' hn
  rw [← take_blocks hpos hsize (show m + 1 - size ≤ m by omega) (i + 1), stream, blocks,
    List.take_append, hsize]

lemma stream_blocks (hpos : 0 < size) (hsize : ∀ i, (f i).length = size) (i k : ℕ) :
    stream f i (k * size) = blocks f i k := by
  induction k generalizing i with
  | zero => rw [Nat.zero_mul, stream_zero, blocks]
  | succ k ih =>
    have hfull : (f i).take ((k + 1) * size) = f i :=
      List.take_of_length_le (by rw [hsize]; exact Nat.le_mul_of_pos_left size k.succ_pos)
    rw [stream_step hpos hsize i (Nat.mul_pos k.succ_pos hpos), hfull, Nat.succ_mul,
      Nat.add_sub_cancel, ih, blocks]

lemma blocks_add (i j k : ℕ) : blocks f i (j + k) = blocks f i j ++ blocks f (i + j) k := by
  induction j generalizing i with
  | zero => rw [Nat.zero_add, blocks, List.nil_append, Nat.add_zero]
  | succ j ih =>
    rw [Nat.add_right_comm, blocks, blocks, ih, List.append_assoc, Nat.add_right_comm i 1 j,
      Nat.add_assoc]

end RfTpm.BlockStream
