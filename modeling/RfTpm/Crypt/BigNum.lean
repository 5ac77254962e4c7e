import RfTpm.Lib.Bytes

/-!
# Big numbers

The part of the number library (BnConvert.c, BnMath.c, BnMemory.c) that turns a byte string into a
number and cuts a number to a bit count.

A number is an array of 64-bit words, the least significant one first, with a count of the words
in use.  The code reaches the array in two ways: word by word, and byte by byte through a cast
pointer.  So the array is kept as the byte memory that it is on a little-endian machine, and a
word is what the eight bytes at its place encode.

A failed `pAssert` puts the TPM in failure mode.
-/

namespace RfTpm.Math

open RfTpm.Bytes

/-- `RADIX_BITS`: the size of a word. -/
def radixBits : ℕ := 64

/-- `RADIX_MOD`. -/
def radixMod (x : ℕ) : ℕ := x % radixBits

/-- `BITS_TO_CRYPT_WORDS`; the sum is one of `size_t`. -/
def bitsToCryptWords (bits : ℕ) : ℕ := (bits + (radixBits - 1)) % 2 ^ 64 / radixBits

/-- `BYTES_TO_CRYPT_WORDS`. -/
def bytesToCryptWords (bytes : ℕ) : ℕ := bitsToCryptWords (bytes * 8)

/-- `bignum_t`. -/
structure BigNum where
  /-- The number of words the array `d` has. -/
  allocated : ℕ
  /-- The number of words in use. -/
  size : ℕ
  /-- The bytes of the words. -/
  d : Mem

/-- The word `d[i]`. -/
def word (d : Mem) (i : ℕ) : ℕ := d.le (8 * i) 8

/-- `d[i] = v`. -/
def setWord (d : Mem) (i v : ℕ) : Mem := d.write (8 * i) (leBytes 8 v)

/-- The number that the words in use stand for. -/
def BigNum.value (bn : BigNum) : ℕ := bn.d.le 0 (8 * bn.size)

/-- `while(bn->size > top) bn->d[--bn->size] = 0;`, where the count starts at the argument. -/
def clearFrom (top : ℕ) : ℕ → Mem → Mem
  | 0, d => d
  | n + 1, d => if n + 1 > top then clearFrom top n (setWord d n 0) else d

/-- `while((bn->size > 0) && (bn->d[bn->size - 1] == 0)) bn->size -= 1;`. -/
def normalSize (d : Mem) : ℕ → ℕ
  | 0 => 0
  | n + 1 => if word d n = 0 then normalSize d n else n + 1

/-- `BnSetTop`. -/
def bnSetTop (bn : BigNum) (top : ℕ) : Option BigNum :=
  if top ≤ bn.allocated then
    let d := clearFrom top bn.size bn.d
    some { bn with size := normalSize d top, d := d }
  else none

/-- `for(; nBytes != 0; nBytes--) *pTo++ = *pFrom--;`, from the last byte of the list down. -/
def copyDown (d : Mem) (pTo : ℕ) : Bytes → Mem
  | [] => d
  | b :: bs => copyDown (d.write pTo [b]) (pTo + 1) bs

/-- `BnFromBytes`, for a buffer that exists. -/
def bnFromBytes (bn : BigNum) (bytes : Bytes) : Option BigNum :=
  let size := bytesToCryptWords bytes.length
  if bn.allocated ≥ size then
    let d :=
      if size > 0 then
        -- the topmost word may not be filled with data
        copyDown (setWord bn.d (size - 1) 0) 0 bytes.reverse
      else bn.d
    bnSetTop { bn with d := d } size
  else none

/-- `BnMaskBits`; `none` where it returns FALSE. -/
def bnMaskBits (bn : BigNum) (maskBit : ℕ) : Option BigNum :=
  let finalSize := bitsToCryptWords maskBit
  if finalSize ≤ bn.allocated then
    let d :=
      if finalSize > 0 then
        let mask := (2 ^ radixBits - 1) >>> radixMod maskBit
        setWord bn.d (finalSize - 1) (word bn.d (finalSize - 1) &&& mask)
      else bn.d
    bnSetTop { bn with d := d } finalSize
  else none

/-! ## What the functions compute -/

lemma copyDown_eq (d : Mem) (p : ℕ) (bs : Bytes) : copyDown d p bs = d.write p bs := by
  induction bs generalizing d p with
  | nil =>
    funext a
    simp [copyDown, Mem.write]
  | cons b bs ih =>
    rw [copyDown, ih]
    funext a
    rcases Nat.lt_trichotomy a p with hlt | rfl | hgt
    · simp [Mem.write, Nat.not_le.mpr hlt, Nat.not_le.mpr (Nat.lt_succ_of_lt hlt)]
    · simp [Mem.write]
    · obtain ⟨k, rfl⟩ := Nat.exists_eq_add_of_lt hgt
      have hsub : p + k + 1 - p = k + 1 := by omega
      have hsub' : p + k + 1 - (p + 1) = k := by omega
      have hle : p ≤ p + k + 1 := by omega
      have hle' : p + 1 ≤ p + k + 1 := by omega
      simp only [Mem.write, if_pos hle, if_pos hle', hsub, hsub', List.getElem?_cons_succ,
        List.getElem?_nil, Option.getD_none]

lemma pow_words (n : ℕ) : 256 ^ (8 * n) = 2 ^ (64 * n) := by
  rw [show 256 = 2 ^ 8 by norm_num, ← Nat.pow_mul]
  congr 1
  omega

lemma le_succ (d : Mem) (n : ℕ) :
    d.le 0 (8 * (n + 1)) = d.le 0 (8 * n) + 2 ^ (64 * n) * word d n := by
  unfold word Mem.le
  rw [Nat.mul_succ, Mem.read_add, leVal_append, Mem.length_read, pow_words, Nat.zero_add]

lemma le_normalSize (d : Mem) (n : ℕ) : d.le 0 (8 * normalSize d n) = d.le 0 (8 * n) := by
  induction n with
  | zero => rfl
  | succ n ih =>
    unfold normalSize
    split
    · rename_i hzero
      rw [ih, le_succ, hzero, Nat.mul_zero, Nat.add_zero]
    · rfl

variable {top a i v maskBit : ℕ} {bn r : BigNum} {bytes : Bytes}

lemma clearFrom_of_lt (n : ℕ) (d : Mem) (ha : a < 8 * top) : clearFrom top n d a = d a := by
  induction n generalizing d with
  | zero => rfl
  | succ n ih =>
    unfold clearFrom
    split
    · rename_i htop
      rw [ih, setWord]
      exact if_neg (by omega)
    · rfl

lemma bnSetTop_spec (h : bnSetTop bn top = some r) :
    r.allocated = bn.allocated ∧ r.value = bn.d.le 0 (8 * top) ∧
      r.d.le 0 (8 * top) = bn.d.le 0 (8 * top) := by
  unfold bnSetTop at h
  split at h
  · cases h
    have hkept : (clearFrom top bn.size bn.d).le 0 (8 * top) = bn.d.le 0 (8 * top) := by
      unfold Mem.le
      rw [Mem.read_congr fun a _ ha => clearFrom_of_lt bn.size bn.d (by omega)]
    exact ⟨rfl, (le_normalSize _ top).trans hkept, hkept⟩
  · cases h

lemma bnSetTop_isSome (h : top ≤ bn.allocated) : ∃ r, bnSetTop bn top = some r := ⟨_, if_pos h⟩

lemma setWord_of_lt {d : Mem} (ha : a < 8 * i) : setWord d i v a = d a :=
  if_neg (Nat.not_le.mpr ha)

lemma le_setWord (d : Mem) (i v : ℕ) : (setWord d i v).le 0 (8 * i) = d.le 0 (8 * i) := by
  unfold Mem.le
  rw [Mem.read_congr fun a _ ha => setWord_of_lt (by omega)]

lemma word_setWord (d : Mem) (i : ℕ) (hv : v < 2 ^ 64) : word (setWord d i v) i = v :=
  Mem.HasAt.le (Mem.hasAt_write _ _ _) (by simpa using hv)

lemma setWord_zero {d : Mem} (hle : 8 * i ≤ a) (hlt : a < 8 * (i + 1)) : setWord d i 0 a = 0 := by
  unfold setWord Mem.write
  rw [if_pos hle, leBytes_zero, List.getElem?_replicate, if_pos (by omega), Option.getD_some]

lemma bytesToCryptWords_eq {n : ℕ} (h : n < 2 ^ 60) : bytesToCryptWords n = (n + 7) / 8 := by
  unfold bytesToCryptWords bitsToCryptWords radixBits
  omega

lemma le_copyDown (d : Mem) {bs : Bytes} {size : ℕ} (hfit : bs.length ≤ 8 * (size + 1))
    (hlast : 8 * size ≤ bs.length) :
    (copyDown (setWord d size 0) 0 bs).le 0 (8 * (size + 1)) = leVal bs := by
  obtain ⟨k, hk⟩ := Nat.exists_eq_add_of_le hfit
  have hcopied : ((setWord d size 0).write 0 bs).read 0 bs.length = bs := Mem.hasAt_write _ _ _
  have hcleared : ((setWord d size 0).write 0 bs).read (0 + bs.length) k = List.replicate k 0 := by
    apply List.ext_getElem
    · simp
    · intro i hi _
      have hik : i < k := by simpa using hi
      rw [Mem.getElem_read, List.getElem_replicate, Mem.write_of_ge (by omega)]
      exact setWord_zero (by omega) (by omega)
  rw [copyDown_eq, Mem.le, hk, Mem.read_add, hcopied, hcleared, leVal_append,
    leVal_replicate_zero, Nat.mul_zero, Nat.add_zero]

/-- `BnFromBytes` reads a big-endian string.  The words it fills stand for the number also
before those of them that are zero are dropped. -/
lemma bnFromBytes_spec (hlen : bytes.length < 2 ^ 60) (h : bnFromBytes bn bytes = some r) :
    r.allocated = bn.allocated ∧ r.value = beVal bytes ∧
      r.d.le 0 (8 * bytesToCryptWords bytes.length) = beVal bytes := by
  have hwords := bytesToCryptWords_eq hlen
  unfold bnFromBytes at h
  dsimp only at h
  split_ifs at h with hfits hsize
  · obtain ⟨halloc, hvalue, hd⟩ := bnSetTop_spec h
    obtain ⟨size, hsucc⟩ := Nat.exists_eq_add_of_lt hsize
    rw [Nat.zero_add] at hsucc
    have hread : (copyDown (setWord bn.d size 0) 0 bytes.reverse).le 0 (8 * (size + 1)) =
        beVal bytes :=
      le_copyDown bn.d (by rw [List.length_reverse]; omega) (by rw [List.length_reverse]; omega)
    rw [hsucc, Nat.add_sub_cancel] at hvalue hd
    rw [hsucc]
    exact ⟨halloc, hvalue.trans hread, hd.trans hread⟩
  · obtain ⟨halloc, hvalue, hd⟩ := bnSetTop_spec h
    have hzero : bytesToCryptWords bytes.length = 0 := Nat.eq_zero_of_not_pos hsize
    obtain rfl : bytes = [] := List.eq_nil_of_length_eq_zero (by omega)
    rw [hzero] at hvalue hd ⊢
    exact ⟨halloc, hvalue, hd⟩

lemma bnFromBytes_isSome (h : bytesToCryptWords bytes.length ≤ bn.allocated) :
    ∃ r, bnFromBytes bn bytes = some r := by
  unfold bnFromBytes
  dsimp only
  rw [if_pos h]
  exact bnSetTop_isSome h

/-- The number of low bits that `BnMaskBits` keeps. -/
def keptBits (maskBit : ℕ) : ℕ := radixBits * bitsToCryptWords maskBit - radixMod maskBit

lemma word_lt (d : Mem) (i : ℕ) : word d i < 2 ^ 64 := by
  simpa [word] using d.le_lt (8 * i) 8

lemma le_lt_words (d : Mem) (n : ℕ) : d.le 0 (8 * n) < 2 ^ (64 * n) := by
  simpa [pow_words] using d.le_lt 0 (8 * n)

lemma land_mask (w : ℕ) {m : ℕ} (hm : m < radixBits) :
    w &&& ((2 ^ radixBits - 1) >>> m) = w % 2 ^ (radixBits - m) := by
  have hmask : ∀ m < radixBits, (2 ^ radixBits - 1) >>> m = 2 ^ (radixBits - m) - 1 := by decide
  rw [hmask m hm, Nat.and_two_pow_sub_one_eq_mod]

/-- `BnMaskBits` reduces the number modulo a power of two.  The bits it keeps of the last word
are those that the bit count would have cut off. -/
lemma bnMaskBits_spec (h : bnMaskBits bn maskBit = some r) :
    r.allocated = bn.allocated ∧
      r.value = bn.d.le 0 (8 * bitsToCryptWords maskBit) % 2 ^ keptBits maskBit := by
  have hmod : radixMod maskBit < radixBits := Nat.mod_lt _ (by decide)
  unfold bnMaskBits at h
  dsimp only at h
  split_ifs at h with hfits hsize
  · obtain ⟨halloc, hvalue, -⟩ := bnSetTop_spec h
    obtain ⟨n, hsucc⟩ := Nat.exists_eq_add_of_lt hsize
    rw [Nat.zero_add] at hsucc
    have hkept : keptBits maskBit = 64 * n + (radixBits - radixMod maskBit) := by
      unfold keptBits radixBits at *
      omega
    have hlow := le_lt_words bn.d n
    rw [hsucc, Nat.add_sub_cancel] at hvalue
    dsimp only at hvalue
    rw [le_succ, le_setWord, word_setWord _ _ ((Nat.and_le_left).trans_lt (word_lt _ _)),
      land_mask _ hmod] at hvalue
    refine ⟨halloc, hvalue.trans ?_⟩
    rw [hsucc, hkept, le_succ, Nat.pow_add, Nat.mod_mul, Nat.add_mul_mod_self_left,
      Nat.mod_eq_of_lt hlow, Nat.add_mul_div_left _ _ (Nat.two_pow_pos _),
      Nat.div_eq_of_lt hlow, Nat.zero_add]
  · obtain ⟨halloc, hvalue, -⟩ := bnSetTop_spec h
    rw [Nat.eq_zero_of_not_pos hsize] at hvalue
    have hkept : keptBits maskBit = 0 := by
      unfold keptBits
      rw [Nat.eq_zero_of_not_pos hsize]
      omega
    rw [hkept, Nat.pow_zero, Nat.mod_one]
    exact ⟨halloc, hvalue⟩

lemma bnMaskBits_isSome (h : bitsToCryptWords maskBit ≤ bn.allocated) :
    ∃ r, bnMaskBits bn maskBit = some r := by
  unfold bnMaskBits
  dsimp only
  rw [if_pos h]
  exact bnSetTop_isSome h

end RfTpm.Math
