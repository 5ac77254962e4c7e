import Mathlib

/-!
# Byte memories

A byte memory is a total function from addresses to bytes.  The four operations the C code performs
on its buffers are `read`, `write` (`memcpy` into the buffer), `fill` (`memset`) and `move`
(`memmove`).

The working predicate is `Mem.HasAt m off bs`: the byte string `bs` stands at
`off`.  It splits over `++`, so a record laid out as the concatenation of its
fields is addressed by splitting the string, and every operation below says what
it does to a `HasAt` inside, outside or across the bytes it touches.

`leBytes`/`leVal` and `beBytes`/`beVal` are the little- and big-endian integer
encodings of a fixed width.
-/

namespace RfTpm

/-- A string of bytes. -/
abbrev Bytes := List UInt8

namespace Bytes

open List

/-- A byte memory: address to byte. -/
abbrev Mem := ℕ → UInt8

namespace Mem

/-- The `n` bytes starting at `off`. -/
def read (m : Mem) (off n : ℕ) : Bytes :=
  (List.range n).map fun i => m (off + i)

/-- Copy the byte string `bs` to `off`. -/
def write (m : Mem) (off : ℕ) (bs : Bytes) : Mem :=
  fun a => if off ≤ a then (bs[a - off]?).getD (m a) else m a

/-- Set the `n` bytes starting at `off` to `b`. -/
def fill (m : Mem) (off n : ℕ) (b : UInt8) : Mem :=
  fun a => if off ≤ a ∧ a < off + n then b else m a

/-- Copy the `n` bytes at `src` to `dst`; the two ranges may overlap. -/
def move (m : Mem) (src dst n : ℕ) : Mem :=
  fun a => if dst ≤ a ∧ a < dst + n then m (src + (a - dst)) else m a

/-- A byte string as a memory, with zeros after it. -/
def ofList (bs : Bytes) : Mem := fun a => bs.getD a 0

/-- The byte string `bs` stands at `off`. -/
def HasAt (m : Mem) (off : ℕ) (bs : Bytes) : Prop :=
  m.read off bs.length = bs

instance (m : Mem) (off : ℕ) (bs : Bytes) : Decidable (m.HasAt off bs) :=
  inferInstanceAs (Decidable (m.read off bs.length = bs))

/-! ## Reads -/

@[simp] lemma length_read (m : Mem) (off n : ℕ) : (m.read off n).length = n := by
  simp [read]

@[simp] lemma getElem_read (m : Mem) (off n i : ℕ) (h : i < (m.read off n).length) :
    (m.read off n)[i] = m (off + i) := by
  simp [read]

@[simp] lemma read_zero (m : Mem) (off : ℕ) : m.read off 0 = [] := rfl

lemma read_succ (m : Mem) (off n : ℕ) : m.read off (n + 1) = m.read off n ++ [m (off + n)] := by
  simp [read, range_succ]

lemma read_add (m : Mem) (off a b : ℕ) :
    m.read off (a + b) = m.read off a ++ m.read (off + a) b := by
  simp [read, range_add, Nat.add_assoc, Function.comp_def]

variable {m m' : Mem} {off n a o src dst : ℕ} {bs xs ys : Bytes} {b : UInt8}

lemma read_congr (h : ∀ a, off ≤ a → a < off + n → m a = m' a) :
    m.read off n = m'.read off n := by
  unfold read
  apply map_congr_left
  intro i hi
  rw [mem_range] at hi
  exact h (off + i) (by omega) (by omega)

lemma take_read (m : Mem) (off k n : ℕ) (h : k ≤ n) :
    (m.read off n).take k = m.read off k := by
  obtain ⟨j, rfl⟩ := Nat.exists_eq_add_of_le h
  rw [read_add, take_left' (length_read m off k)]

lemma drop_read (m : Mem) (off k n : ℕ) (h : k ≤ n) :
    (m.read off n).drop k = m.read (off + k) (n - k) := by
  obtain ⟨j, rfl⟩ := Nat.exists_eq_add_of_le h
  rw [read_add, drop_left' (length_read m off k), Nat.add_sub_cancel_left]

/-! ## `HasAt` -/

lemma hasAt_iff : m.HasAt off bs ↔ ∀ (i : ℕ) (h : i < bs.length), m (off + i) = bs[i] := by
  constructor
  · intro hm i hi
    have hlen : i < (m.read off bs.length).length := by simpa using hi
    rw [← getElem_read m off bs.length i hlen]
    exact getElem_of_eq hm hlen
  · intro hm
    apply ext_getElem
    · simp
    · intro i _ hi
      rw [getElem_read]
      exact hm i hi

lemma HasAt.read (h : m.HasAt off bs) : m.read off bs.length = bs := h

lemma HasAt.read' (h : m.HasAt off bs) (hn : n = bs.length) : m.read off n = bs := by
  subst hn
  exact h

@[simp] lemma hasAt_read (m : Mem) (off n : ℕ) : m.HasAt off (m.read off n) := by
  simp [HasAt]

@[simp] lemma hasAt_nil (m : Mem) (off : ℕ) : m.HasAt off [] := rfl

@[simp] lemma hasAt_append :
    m.HasAt off (xs ++ ys) ↔ m.HasAt off xs ∧ m.HasAt (off + xs.length) ys := by
  unfold HasAt
  rw [length_append, read_add]
  constructor
  · intro h
    exact append_inj h (length_read ..)
  · rintro ⟨hx, hy⟩
    rw [hx, hy]

lemma HasAt.congr (h : m.HasAt off bs) (hm : ∀ a, off ≤ a → a < off + bs.length → m' a = m a) :
    m'.HasAt off bs := by
  unfold HasAt
  rw [read_congr hm]
  exact h

lemma hasAt_ofList (bs : Bytes) : (ofList bs).HasAt 0 bs := by
  rw [hasAt_iff]
  intro i hi
  simp [ofList, hi]

/-! ## Writes -/

lemma write_of_lt (bs : Bytes) (h : a < off) : m.write off bs a = m a := by
  simp [write, Nat.not_le.2 h]

lemma write_of_ge (h : off + bs.length ≤ a) : m.write off bs a = m a := by
  have hnone : bs[a - off]? = none := List.getElem?_eq_none (by omega)
  simp [write, hnone]

lemma write_outside (h : a < off ∨ off + bs.length ≤ a) : m.write off bs a = m a := by
  rcases h with h | h
  · exact write_of_lt bs h
  · exact write_of_ge h

lemma write_inside {i : ℕ} (h : i < bs.length) : m.write off bs (off + i) = bs[i] := by
  simp [write, h]

lemma hasAt_write (m : Mem) (off : ℕ) (bs : Bytes) : (m.write off bs).HasAt off bs :=
  hasAt_iff.2 fun _ hi => write_inside hi

lemma HasAt.write (h : m.HasAt off bs) {ws : Bytes}
    (hd : off + bs.length ≤ o ∨ o + ws.length ≤ off) : (m.write o ws).HasAt off bs := by
  apply h.congr
  intro a h1 h2
  exact write_outside (by omega)

lemma HasAt.write_mid (xs ys zs ws : Bytes) (h : m.HasAt off (xs ++ ys ++ zs))
    (hlen : ws.length = ys.length) : (m.write (off + xs.length) ws).HasAt off (xs ++ ws ++ zs) := by
  rw [hasAt_append, hasAt_append] at h ⊢
  obtain ⟨⟨hx, -⟩, hz⟩ := h
  refine ⟨⟨hx.write (Or.inl le_rfl), hasAt_write _ _ _⟩, ?_⟩
  have hz' : m.HasAt (off + (xs ++ ws).length) zs := by
    simpa [hlen] using hz
  exact hz'.write (Or.inr (by simp [Nat.add_assoc]))

@[simp] lemma write_nil (m : Mem) (off : ℕ) : m.write off [] = m := by
  funext a
  simp [write]

lemma write_append (xs ys : Bytes) :
    m.write off (xs ++ ys) = (m.write off xs).write (off + xs.length) ys := by
  funext a
  by_cases h₀ : a < off
  · rw [write_of_lt _ h₀, write_of_lt _ (by omega), write_of_lt _ h₀]
  obtain ⟨i, rfl⟩ := Nat.exists_eq_add_of_le (Nat.not_lt.mp h₀)
  by_cases h₁ : i < xs.length
  · rw [write_inside (by simp; omega), write_of_lt _ (show off + i < off + xs.length by omega),
      write_inside h₁, getElem_append_left h₁]
  obtain ⟨j, rfl⟩ := Nat.exists_eq_add_of_le (Nat.not_lt.mp h₁)
  by_cases h₂ : j < ys.length
  · rw [← Nat.add_assoc, write_inside h₂, Nat.add_assoc, write_inside (by simp; omega),
      getElem_append_right (by omega)]
    congr 1
    omega
  · rw [write_of_ge (by simp; omega), write_of_ge (by omega), write_of_ge (by omega)]

lemma write_concat (bs : Bytes) (b : UInt8) :
    m.write off (bs ++ [b]) = Function.update (m.write off bs) (off + bs.length) b := by
  rw [write_append]
  funext a
  by_cases ha : a = off + bs.length
  · subst ha
    rw [Function.update_self]
    exact write_inside (i := 0) (show 0 < [b].length from Nat.one_pos)
  · rw [Function.update_of_ne ha]
    exact write_outside (by rw [length_singleton]; omega)

lemma write_write (h : xs.length ≤ ys.length) :
    (m.write off xs).write off ys = m.write off ys := by
  funext a
  by_cases ha : a < off ∨ off + ys.length ≤ a
  · rw [write_outside ha, write_outside ha, write_outside (by omega)]
  · obtain ⟨i, rfl⟩ := Nat.exists_eq_add_of_le (show off ≤ a by omega)
    rw [write_inside (by omega), write_inside (by omega)]

/-! ## Fills -/

lemma fill_outside (h : a < off ∨ off + n ≤ a) : m.fill off n b a = m a := by
  simp only [fill]
  rw [if_neg (by omega)]

lemma fill_inside (h1 : off ≤ a) (h2 : a < off + n) : m.fill off n b a = b := by
  simp [fill, h1, h2]

lemma HasAt.fill (h : m.HasAt off bs) (hd : off + bs.length ≤ o ∨ o + n ≤ off) :
    (m.fill o n b).HasAt off bs := by
  apply h.congr
  intro a h1 h2
  exact fill_outside (by omega)

lemma hasAt_fill {k : ℕ} (h1 : off ≤ o) (h2 : o + k ≤ off + n) :
    (m.fill off n b).HasAt o (List.replicate k b) := by
  rw [hasAt_iff]
  intro i hi
  rw [length_replicate] at hi
  rw [fill_inside (by omega) (by omega), getElem_replicate]

/-! ## Moves -/

lemma move_outside (h : a < dst ∨ dst + n ≤ a) : m.move src dst n a = m a := by
  simp only [move]
  rw [if_neg (by omega)]

lemma move_zero (m : Mem) (src dst : ℕ) : m.move src dst 0 = m := by
  funext a
  exact move_outside (by omega)

lemma HasAt.move (h : m.HasAt off bs) (hd : off + bs.length ≤ dst ∨ dst + n ≤ off) :
    (m.move src dst n).HasAt off bs := by
  apply h.congr
  intro a h1 h2
  exact move_outside (by omega)

lemma HasAt.moved (h : m.HasAt src bs) (hn : bs.length ≤ n) :
    (m.move src dst n).HasAt dst bs := by
  rw [hasAt_iff] at h ⊢
  intro i hi
  have hsub : dst + i - dst = i := Nat.add_sub_cancel_left ..
  simp only [Mem.move]
  rw [if_pos (by omega), hsub]
  exact h i hi

lemma HasAt.move_down {zs : Bytes} (h : m.HasAt off (xs ++ ys ++ zs)) :
    (m.move (off + xs.length + ys.length) (off + xs.length) zs.length).HasAt off (xs ++ zs) := by
  rw [hasAt_append, hasAt_append] at h
  obtain ⟨⟨hx, -⟩, hz⟩ := h
  rw [length_append, ← Nat.add_assoc] at hz
  exact hasAt_append.2 ⟨hx.move (Or.inl le_rfl), hz.moved le_rfl⟩

/-! ## From one buffer to another -/

/-- Two buffers of length `n` are the same, or they do not overlap. -/
def SameOrApart (p q n : ℕ) : Prop := p = q ∨ p + n ≤ q ∨ q + n ≤ p

namespace SameOrApart

variable {p q k : ℕ}

lemma of_le (h : SameOrApart p q n) (hk : k ≤ n) : SameOrApart p q k := by
  unfold SameOrApart at h ⊢
  omega

lemma shift (h : SameOrApart p q n) (hk : k ≤ n) : SameOrApart (p + k) (q + k) (n - k) := by
  unfold SameOrApart at h ⊢
  omega

lemma write_next (h : SameOrApart p q n) (hk : k < n) (hl : bs.length ≤ k) :
    m.write q bs (p + k) = m (p + k) :=
  write_outside (by unfold SameOrApart at h; omega)

lemma read_rest (h : SameOrApart p q n) (hl : bs.length ≤ k) :
    (m.write q bs).read (p + k) (n - k) = m.read (p + k) (n - k) :=
  read_congr fun a _ _ => write_outside (by unfold SameOrApart at h; omega)

end SameOrApart

end Mem

/-! ## Integers as bytes -/

/-- The `n` low-order bytes of `v`, least significant first. -/
def leBytes : ℕ → ℕ → Bytes
  | 0, _ => []
  | n + 1, v => UInt8.ofNat v :: leBytes n (v / 256)

/-- The integer a little-endian byte string stands for. -/
def leVal : Bytes → ℕ
  | [] => 0
  | b :: bs => b.toNat + 256 * leVal bs

@[simp] lemma length_leBytes (n v : ℕ) : (leBytes n v).length = n := by
  induction n generalizing v with
  | zero => rfl
  | succ n ih => simp [leBytes, ih]

lemma leVal_leBytes_mod (n v : ℕ) : leVal (leBytes n v) = v % 256 ^ n := by
  induction n generalizing v with
  | zero => simp [leBytes, leVal, Nat.mod_one]
  | succ n ih =>
    have hb : (UInt8.ofNat v).toNat = v % 256 := UInt8.toNat_ofNat'
    rw [leBytes, leVal, ih, hb, Nat.pow_succ', Nat.mod_mul]

variable {n v : ℕ}

lemma leVal_leBytes (h : v < 256 ^ n) : leVal (leBytes n v) = v := by
  rw [leVal_leBytes_mod, Nat.mod_eq_of_lt h]

lemma leVal_lt (bs : Bytes) : leVal bs < 256 ^ bs.length := by
  induction bs with
  | nil => simp [leVal]
  | cons b bs ih =>
    have hb : b.toNat < 256 := b.toNat_lt
    rw [leVal, length_cons, Nat.pow_succ']
    omega

lemma leBytes_leVal_append (bs cs : Bytes) : leBytes bs.length (leVal (bs ++ cs)) = bs := by
  induction bs with
  | nil => rfl
  | cons b bs ih =>
    have hb : b.toNat < 256 := b.toNat_lt
    have hdiv : (b.toNat + 256 * leVal (bs ++ cs)) / 256 = leVal (bs ++ cs) := by omega
    have hmod : UInt8.ofNat (b.toNat + 256 * leVal (bs ++ cs)) = b := by
      apply UInt8.toNat_inj.1
      rw [UInt8.toNat_ofNat']
      omega
    rw [length_cons, cons_append, leVal, leBytes, hdiv, ih, hmod]

lemma leBytes_leVal (bs : Bytes) : leBytes bs.length (leVal bs) = bs := by
  simpa using leBytes_leVal_append bs []

lemma leBytes_zero (n : ℕ) : leBytes n 0 = List.replicate n 0 := by
  induction n with
  | zero => rfl
  | succ n ih => simp [leBytes, ih, replicate_succ]

lemma leBytes_inj {w : ℕ} (hv : v < 256 ^ n) (hw : w < 256 ^ n) (h : leBytes n v = leBytes n w) :
    v = w := by
  rw [← leVal_leBytes hv, h, leVal_leBytes hw]

lemma leVal_append (xs ys : Bytes) :
    leVal (xs ++ ys) = leVal xs + 256 ^ xs.length * leVal ys := by
  induction xs with
  | nil => simp [leVal]
  | cons x xs ih =>
    rw [cons_append, leVal, leVal, ih, length_cons, Nat.pow_succ']
    ring

lemma leVal_replicate_zero (n : ℕ) : leVal (List.replicate n 0) = 0 := by
  induction n with
  | zero => rfl
  | succ n ih => simp [replicate_succ, leVal, ih]

/-- The little-endian integer of `n` bytes stored at `off`. -/
def Mem.le (m : Mem) (off n : ℕ) : ℕ := leVal (m.read off n)

lemma Mem.le_lt (m : Mem) (off n : ℕ) : m.le off n < 256 ^ n := by
  simpa [Mem.le] using leVal_lt (m.read off n)

lemma Mem.HasAt.le {m : Mem} {off : ℕ} (h : m.HasAt off (leBytes n v)) (hv : v < 256 ^ n) :
    m.le off n = v := by
  rw [Mem.le, h.read' (length_leBytes n v).symm, leVal_leBytes hv]

/-- The `n` low-order bytes of `v`, most significant first. -/
def beBytes (n v : ℕ) : Bytes := (leBytes n v).reverse

/-- The integer a big-endian byte string stands for. -/
def beVal (bs : Bytes) : ℕ := leVal bs.reverse

@[simp] lemma length_beBytes (n v : ℕ) : (beBytes n v).length = n := by
  simp [beBytes]

lemma beVal_beBytes (h : v < 256 ^ n) : beVal (beBytes n v) = v := by
  rw [beVal, beBytes, reverse_reverse, leVal_leBytes h]

lemma beBytes_beVal (bs : Bytes) : beBytes bs.length (beVal bs) = bs := by
  unfold beBytes beVal
  rw [← length_reverse, leBytes_leVal, reverse_reverse]

lemma beVal_lt (bs : Bytes) : beVal bs < 256 ^ bs.length := by
  simpa [beVal] using leVal_lt bs.reverse

lemma beVal_append (xs ys : Bytes) :
    beVal (xs ++ ys) = beVal xs * 256 ^ ys.length + beVal ys := by
  rw [beVal, reverse_append, leVal_append, length_reverse, Nat.mul_comm, Nat.add_comm]
  rfl

lemma beVal_singleton (b : UInt8) : beVal [b] = b.toNat := by
  show b.toNat + 256 * 0 = b.toNat
  rw [Nat.mul_zero, Nat.add_zero]

lemma beVal_cons (b : UInt8) (bs : Bytes) :
    beVal (b :: bs) = b.toNat * 256 ^ bs.length + beVal bs := by
  rw [← singleton_append, beVal_append, beVal_singleton]

lemma beVal_concat (bs : Bytes) (b : UInt8) :
    beVal (bs ++ [b]) = beVal bs * 256 + b.toNat := by
  rw [beVal_append, beVal_singleton, length_singleton, Nat.pow_one]

/-! ## Low-order bits -/

lemma and_high_bits {x n k : ℕ} (hx : x < 2 ^ n) (hk : k ≤ n) :
    x &&& (2 ^ n - 2 ^ k) = 2 ^ k * (x / 2 ^ k) := by
  have hmask : 2 ^ n - 2 ^ k = 2 ^ k * (2 ^ (n - k) - 1) := by
    rw [Nat.mul_sub, ← Nat.pow_add, Nat.add_sub_cancel' hk, Nat.mul_one]
  apply Nat.eq_of_testBit_eq
  intro j
  rw [hmask, Nat.testBit_and, Nat.testBit_two_pow_mul, Nat.testBit_two_pow_mul,
    Nat.testBit_two_pow_sub_one, Nat.testBit_div_two_pow]
  by_cases hkj : k ≤ j
  · rw [Nat.sub_add_cancel hkj]
    by_cases hj : j < n
    · simp [hkj, Nat.sub_lt_sub_right hkj hj]
    · rw [Nat.testBit_lt_two_pow (hx.trans_le (Nat.pow_le_pow_right (by decide) (by omega)))]
      simp
  · simp [hkj]

lemma or_two_pow_sub_one (n k : ℕ) : n ||| (2 ^ k - 1) = 2 ^ k * (n / 2 ^ k) + (2 ^ k - 1) := by
  have hlt : 2 ^ k - 1 < 2 ^ k := Nat.sub_lt (Nat.two_pow_pos k) Nat.one_pos
  apply Nat.eq_of_testBit_eq
  intro j
  rw [Nat.testBit_or, Nat.testBit_two_pow_mul_add _ hlt, Nat.testBit_two_pow_sub_one]
  by_cases hj : j < k
  · simp [hj]
  · simp [hj, Nat.testBit_div_two_pow, Nat.sub_add_cancel (Nat.le_of_not_lt hj)]

end Bytes

end RfTpm
