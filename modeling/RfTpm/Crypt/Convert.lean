import RfTpm.Crypt.RsaCrt

/-!
# Numbers as strings

`BnToBytes` (BnConvert.c) writes a big number as a big-endian string of a requested size, and
`AdjustNumberB` (MathOnByteBuffers.c) changes the size of a number that is such a string.  A failed
`pAssert` does not end `BnToBytes`: it writes all octets of the number, also those for which there
is no room.  For a zero it ignores the requested size.  `AdjustNumberB` looks at an octet before it
looks at the count, and so behind a buffer that is full of zeros.
-/

namespace RfTpm.Math

open Faults Bytes Buffer Ecc Rsa List

/-! ## Strings of a given value -/

lemma sizeInBytes_pos {v : ℕ} (hv : v ≠ 0) : 0 < sizeInBytes v :=
  Nat.pos_of_ne_zero fun h => hv (Nat.lt_one_iff.mp (sizeInBytes_le_iff.mp h.le))

lemma beVal_replicate_append (k : ℕ) (l : Bytes) : beVal (replicate k 0 ++ l) = beVal l := by
  rw [beVal_append, beVal, reverse_replicate, leVal_replicate_zero, Nat.zero_mul, Nat.zero_add]

lemma replicate_append_eq (k : ℕ) (l : Bytes) :
    replicate k 0 ++ l = beBytes (k + l.length) (beVal l) := by
  have h := beBytes_beVal (replicate k 0 ++ l)
  rwa [length_append, length_replicate, beVal_replicate_append, eq_comm] at h

lemma eq_beBytes {n : ℕ} {l : Bytes} (hn : n ≤ l.length)
    (hhead : n < l.length → l.headD 0 ≠ 0) :
    l = beBytes (max n (sizeInBytes (beVal l))) (beVal l) := by
  have hle : sizeInBytes (beVal l) ≤ l.length := sizeInBytes_le_iff.mpr (beVal_lt l)
  have hlen : max n (sizeInBytes (beVal l)) = l.length := by
    rcases hn.eq_or_lt with rfl | hlt
    · exact max_eq_left hle
    · cases l with
      | nil => cases hlt
      | cons b l =>
        have hb : 1 ≤ b.toNat := Nat.pos_of_ne_zero fun h => hhead hlt (UInt8.toNat_inj.mp h)
        have hmany : ¬sizeInBytes (beVal (b :: l)) ≤ l.length := by
          rw [sizeInBytes_le_iff, beVal_cons]
          have := Nat.mul_le_mul_right (256 ^ l.length) hb
          omega
        rw [length_cons] at *
        omega
  rw [hlen, beBytes_beVal]

/-! ## `AdjustNumberB` -/

/-- A number in a buffer. -/
structure Num extends Rsa.Tpm2b where
  size_le : size ≤ buffer.length

/-- `for(i = num->size; *from == 0 && i > requestedSize; from++, i--)`. -/
def scanLoop (buffer : Bytes) (requestedSize : ℕ) : ℕ → ℕ → Run Unit (ℕ × ℕ)
  | 0, pFrom => do
    let _ ← get buffer pFrom
    pure (pFrom, 0)
  | i + 1, pFrom => do
    let b ← get buffer pFrom
    if b = 0 ∧ i + 1 > requestedSize then scanLoop buffer requestedSize i (pFrom + 1)
    else pure (pFrom, i + 1)

/-- `AdjustNumberB`. -/
def adjustNumberB (num : Rsa.Tpm2b) (requestedSize : ℕ) : Run Unit Rsa.Tpm2b :=
  if num.size = requestedSize then pure num
  else if num.size > requestedSize then do
    let (pFrom, i) ← scanLoop num.buffer requestedSize num.size 0
    if i < num.size then do
      let moved ← slice num.buffer pFrom i
      let buffer ← put num.buffer 0 moved
      pure ⟨i, buffer⟩
    else pure num
  else do
    let moved ← slice num.buffer 0 num.size
    let buffer ← put num.buffer (requestedSize - num.size) moved
    let buffer ← put buffer 0 (replicate (requestedSize - num.size) 0)
    pure ⟨requestedSize, buffer⟩

lemma scanLoop_eq (requestedSize : ℕ) (a b c : Bytes) :
    ∃ k l, b = replicate k 0 ++ l ∧ (requestedSize ≤ b.length → requestedSize ≤ l.length) ∧
      (requestedSize < l.length → l.headD 0 ≠ 0) ∧
      scanLoop (a ++ b ++ c) requestedSize b.length a.length =
        if l = [] ∧ c = [] then .error .fault else .ok (a.length + k, l.length) := by
  induction b generalizing a with
  | nil =>
    refine ⟨0, [], rfl, id, nofun, ?_⟩
    rw [append_nil]
    cases c with
    | nil =>
      rw [append_nil, if_pos ⟨rfl, rfl⟩, length_nil, scanLoop, Buffer.get, getElem?_eq_none le_rfl]
      rfl
    | cons x c =>
      rw [if_neg (by simp), length_nil, scanLoop, get_append x rfl]
      rfl
  | cons x b ih =>
    rw [length_cons, scanLoop, get_middle x rfl, ok_bind]
    by_cases hzero : x = 0 ∧ b.length + 1 > requestedSize
    · obtain ⟨k, l, hb, hle, hhead, hrun⟩ := ih (a ++ [x])
      refine ⟨k + 1, l, by rw [hb, hzero.1]; rfl, fun _ => hle (Nat.le_of_lt_succ hzero.2), hhead,
        ?_⟩
      rw [append_assoc a, length_append, length_singleton] at hrun
      rw [if_pos hzero, Nat.add_comm k, ← Nat.add_assoc]
      exact hrun
    · refine ⟨0, x :: b, rfl, id, fun hlt h => hzero ⟨h, hlt⟩, ?_⟩
      rw [if_neg hzero, if_neg (by simp)]
      rfl

lemma adjustNumberB_eq (num : Num) {n : ℕ} (hn : n ≤ num.buffer.length) :
    adjustNumberB num.toTpm2b n =
      if n = 0 ∧ beVal num.data = 0 ∧ num.size = num.buffer.length ∧ 0 < num.size then
        .error .fault
      else .ok (num.with (beBytes (max n (sizeInBytes (beVal num.data))) (beVal num.data))) := by
  obtain ⟨⟨size, buffer⟩, hsize⟩ := num
  obtain ⟨b, c, rfl, rfl⟩ := exists_front buffer hsize
  have hdata : (Rsa.Tpm2b.mk b.length (b ++ c)).data = b := take_left
  dsimp only at *
  rw [hdata]
  have hmin : sizeInBytes (beVal b) ≤ b.length := sizeInBytes_le_iff.mpr (beVal_lt b)
  unfold adjustNumberB
  dsimp only
  rcases Nat.lt_trichotomy b.length n with hlt | rfl | hgt
  · obtain ⟨x, y, z, hparts, hx, hy⟩ := exists_parts (i := n - b.length) (n := b.length) (b ++ c)
      (by omega)
    have hgrown := replicate_append_eq (n - b.length) b
    have hlen : (replicate (n - b.length) 0 ++ b).length = n := by
      rw [length_append, length_replicate, Nat.sub_add_cancel hlt.le]
    rw [Nat.sub_add_cancel hlt.le] at hgrown
    rw [if_neg hlt.ne, if_neg hlt.asymm, if_neg (by omega), slice_front rfl, ok_bind, hparts,
      put_append hx.symm hy.symm, ok_bind, append_assoc,
      put_start (by rw [length_replicate, hx]), max_eq_left (hmin.trans hlt.le), ← hgrown,
      Rsa.Tpm2b.with, hlen, drop_left' (by rw [length_append]; omega), append_assoc]
    rfl
  · rw [if_pos rfl, if_neg (by omega), max_eq_left hmin, beBytes_beVal, Rsa.Tpm2b.with, drop_left]
    rfl
  · obtain ⟨k, l, hb, hle, hhead, hrun⟩ := scanLoop_eq n [] b c
    have hval : beVal b = beVal l := by rw [hb, beVal_replicate_append]
    have hl := eq_beBytes (hle hgt.le) hhead
    have hlen := congrArg length hl
    rw [length_beBytes] at hlen
    have hnil : l = [] ∧ c = [] ↔
        n = 0 ∧ beVal l = 0 ∧ b.length = (b ++ c).length ∧ 0 < b.length := by
      have hzero := sizeInBytes_le_iff (v := beVal l) (n := 0)
      rw [← length_eq_zero_iff, ← length_eq_zero_iff, length_append]
      omega
    rw [if_neg hgt.ne', if_pos hgt, hval, ← hl]
    rw [nil_append, length_nil, Nat.zero_add] at hrun
    rw [hrun]
    by_cases hfault : l = [] ∧ c = []
    · rw [if_pos hfault, if_pos (hnil.mp hfault)]
      rfl
    · rw [if_neg hfault, if_neg (mt hnil.mpr hfault), ok_bind]
      dsimp only
      split_ifs with hmoved
      · have hput : put (ρ := Unit) (b ++ c) 0 l = .ok (l ++ (b ++ c).drop l.length) :=
          put_front (a := []) (i := 0) rfl (Nat.zero_add _)
            (hmoved.le.trans (by simp))
        have hslice : slice (ρ := Unit) (b ++ c) k l.length = .ok l := by
          rw [hb]
          exact slice_append length_replicate.symm rfl
        rw [hslice, ok_bind, hput]
        rfl
      · obtain rfl : k = 0 := by
          rw [hb, length_append, length_replicate] at hmoved
          omega
        obtain rfl : b = l := hb
        rw [Rsa.Tpm2b.with, drop_left]
        rfl

/-- **Resizing** keeps the value and stays inside of the buffer, but for a buffer full of zeros that
is to be normalised. -/
theorem adjustNumberB_iff (num : Num) (requestedSize : Fin (num.buffer.length + 1)) :
    (∃ r, adjustNumberB num.toTpm2b requestedSize = .ok r ∧ r.buffer.length = num.buffer.length ∧
        r.size = max requestedSize.val (sizeInBytes (beVal num.data)) ∧
        beVal r.data = beVal num.data) ↔
      ¬(requestedSize.val = 0 ∧ beVal num.data = 0 ∧ num.size = num.buffer.length ∧
        0 < num.size) := by
  have hn := Nat.le_of_lt_succ requestedSize.isLt
  have hle : max requestedSize.val (sizeInBytes (beVal num.data)) ≤ num.buffer.length := by
    have hdata := sizeInBytes_le_iff.mpr (beVal_lt num.data)
    have hsize : num.data.length ≤ num.buffer.length := by simp [Rsa.Tpm2b.data]
    omega
  rw [adjustNumberB_eq num hn]
  split_ifs with hfault
  · exact iff_of_false nofun (not_not.mpr hfault)
  · refine iff_of_true ⟨_, rfl, ?_, length_beBytes .., ?_⟩ hfault
    · rw [Rsa.Tpm2b.with, length_append, length_drop, length_beBytes, Nat.add_sub_of_le hle]
    · rw [Rsa.Tpm2b.data_with, beVal_beBytes (sizeInBytes_le_iff.mp (le_max_right ..))]

/-- Two zeros fill a buffer; the octet behind it is read. -/
theorem adjustNumberB_full : adjustNumberB ⟨2, [0, 0]⟩ 0 = .error .fault := by
  decide

/-! ## `BnToBytes` -/

/-- A number without leading words that are zero. -/
structure Number extends BigNum where
  normal : size = 0 ∨ word d (size - 1) ≠ 0

/-- `BnMsb`, with the number of the highest bit of a word for `Msb`. -/
def bnMsb (bn : BigNum) : ℤ :=
  if bn.size > 0 then (sizeInBits (word bn.d (bn.size - 1)) : ℤ) - 1 + (bn.size - 1 : ℕ) * radixBits
  else -1

/-- `BnSizeInBits`. -/
def bnSizeInBits (bn : BigNum) : ℕ := (bnMsb bn + 1).toNat

/-- What `BnToBytes` leaves: `*size`, the memory, and whether an assertion failed.  It returns TRUE
in any case. -/
structure ToBytes where
  size : ℕ
  mem : Mem
  failed : Bool

/-- `BnToBytes`, to a buffer at `p`. -/
def bnToBytes (bn : BigNum) (mem : Mem) (p size : ℕ) : ToBytes :=
  let requiredSize := (bnSizeInBits bn + 7) / 8
  if requiredSize = 0 then ⟨1, mem.write p [0], false⟩
  else
    let size := if size = 0 then requiredSize % 2 ^ 16 else size
    let padded := copyDown mem p (replicate (size - requiredSize) 0)
    -- the bytes of the words, from the most significant one down
    let bytes := (bn.d.read 0 requiredSize).reverse
    ⟨size, copyDown padded (p + (size - requiredSize)) bytes, !decide (requiredSize ≤ size)⟩

lemma bnSizeInBits_eq (bn : Number) : bnSizeInBits bn.toBigNum = sizeInBits bn.value := by
  obtain ⟨⟨allocated, size, d⟩, hnormal⟩ := bn
  unfold bnSizeInBits bnMsb BigNum.value
  cases size with
  | zero => rfl
  | succ n =>
    have hw : word d n ≠ 0 := hnormal.resolve_left n.succ_ne_zero
    have hlow := le_lt_words d n
    dsimp only
    rw [if_pos n.succ_pos, Nat.add_sub_cancel, le_succ]
    have hlog := (Nat.log2_eq_iff hw).mp rfl
    have hbits : sizeInBits (d.le 0 (8 * n) + 2 ^ (64 * n) * word d n) =
        64 * n + (word d n).log2 + 1 := by
      apply sizeInBits_eq
      · rw [Nat.pow_add]
        exact (Nat.mul_le_mul_left _ hlog.1).trans (Nat.le_add_left ..)
      · rw [Nat.add_assoc, Nat.pow_add]
        calc _ < 2 ^ (64 * n) * (word d n + 1) := by rw [Nat.mul_succ]; omega
          _ ≤ _ := Nat.mul_le_mul_left _ hlog.2
    rw [hbits, sizeInBits, if_neg hw]
    unfold radixBits
    omega

lemma read_eq_leBytes (bn : BigNum) :
    bn.d.read 0 (sizeInBytes bn.value) = leBytes (sizeInBytes bn.value) bn.value := by
  have hle : sizeInBytes bn.value ≤ 8 * bn.size := sizeInBytes_le_iff.mpr (bn.d.le_lt 0 _)
  obtain ⟨k, hk⟩ := Nat.exists_eq_add_of_le hle
  have hvalue : leVal (bn.d.read 0 (8 * bn.size)) = bn.value := rfl
  have hfront := leBytes_leVal_append (bn.d.read 0 (sizeInBytes bn.value))
    (bn.d.read (0 + sizeInBytes bn.value) k)
  rw [← Mem.read_add, ← hk, hvalue, Mem.length_read] at hfront
  exact hfront.symm

lemma copyDown_append (d : Mem) (p : ℕ) (xs ys : Bytes) :
    copyDown (copyDown d p xs) (p + xs.length) ys = copyDown d p (xs ++ ys) := by
  induction xs generalizing d p with
  | nil => rfl
  | cons x xs ih =>
    rw [length_cons, Nat.add_comm xs.length, ← Nat.add_assoc]
    exact ih _ _

lemma bnToBytes_zero (bn : Number) (hv : bn.value = 0) (k : ℕ) (mem : Mem) (p : ℕ) :
    bnToBytes bn.toBigNum mem p k = ⟨1, mem.write p [0], false⟩ := by
  refine if_pos ?_
  rw [bnSizeInBits_eq, hv]
  rfl

lemma bnToBytes_eq (bn : Number) {k n : ℕ} (hv : bn.value ≠ 0)
    (hn : (if k = 0 then sizeInBytes bn.value % 2 ^ 16 else k) = n) (mem : Mem) (p : ℕ) :
    bnToBytes bn.toBigNum mem p k =
      ⟨n, mem.write p (beBytes (n - sizeInBytes bn.value + sizeInBytes bn.value) bn.value),
        !decide (sizeInBytes bn.value ≤ n)⟩ := by
  unfold bnToBytes
  rw [bnSizeInBits_eq, ← sizeInBytes]
  dsimp only
  rw [if_neg (sizeInBytes_pos hv).ne', hn, read_eq_leBytes]
  have hcopy := copyDown_append mem p (replicate (n - sizeInBytes bn.value) 0)
    (beBytes (sizeInBytes bn.value) bn.value)
  rw [length_replicate, replicate_append_eq, length_beBytes,
    beVal_beBytes (lt_pow_sizeInBytes _)] at hcopy
  exact congrArg (ToBytes.mk n · _) (hcopy.trans (copyDown_eq ..))

/-- The size of a string for a request of `k` octets. -/
def requested (v k : ℕ) : ℕ := if k = 0 then max 1 (sizeInBytes v) else k

/-- What is asked of a conversion to `k` octets: the string of that size is written, and stands for
the number.  If `k` is too small, that is reported, and nothing is written beyond it. -/
def Converts (v k p : ℕ) (mem : Mem) (r : ToBytes) : Prop :=
  if k ≠ 0 ∧ k < sizeInBytes v then
    r.failed = true ∧ ∀ a, a < p ∨ p + k ≤ a → r.mem a = mem a
  else
    r = ⟨requested v k, mem.write p (beBytes (requested v k) v), false⟩ ∧
      beVal (beBytes (requested v k) v) = v

lemma bnSetTop_normal {bn r : BigNum} {top : ℕ} (h : bnSetTop bn top = some r) :
    r.size = 0 ∨ word r.d (r.size - 1) ≠ 0 := by
  have hnormal (d : Mem) (n : ℕ) : normalSize d n = 0 ∨ word d (normalSize d n - 1) ≠ 0 := by
    induction n with
    | zero => exact .inl rfl
    | succ n ih =>
      unfold normalSize
      split_ifs with hzero
      · exact ih
      · exact .inr hzero
  unfold bnSetTop at h
  split at h
  · cases h
    exact hnormal _ top
  · cases h

lemma bnFromBytes_number {target : BigNum} {bytes : Bytes} (hlen : bytes.length < 2 ^ 16)
    (hfit : bytesToCryptWords bytes.length ≤ target.allocated) :
    ∃ r : Number, bnFromBytes target bytes = some r.toBigNum ∧ r.value = beVal bytes := by
  obtain ⟨r, hr⟩ := bnFromBytes_isSome hfit
  have hnormal : r.size = 0 ∨ word r.d (r.size - 1) ≠ 0 := by
    unfold bnFromBytes at hr
    exact bnSetTop_normal ((if_pos hfit).symm.trans hr)
  exact ⟨⟨r, hnormal⟩, hr, (bnFromBytes_spec (hlen.trans (by decide)) hr).2.1⟩

/-- **Conversion** to a number is faithful.  Conversion to a string is, except for a zero of more
than one octet and for a number without enough room. -/
theorem convert_iff (bn : Number) (k : UInt16) :
    (∀ (target : BigNum) (bytes : Bytes), bytes.length < 2 ^ 16 →
      bytesToCryptWords bytes.length ≤ target.allocated → ∃ r : Number,
        bnFromBytes target bytes = some r.toBigNum ∧ r.value = beVal bytes) ∧
    ((∀ mem p, Converts bn.value k.toNat p mem (bnToBytes bn.toBigNum mem p k.toNat)) ↔
      if bn.value = 0 then k.toNat ≤ 1
      else sizeInBytes bn.value < 2 ^ 16 ∧ (k.toNat = 0 ∨ sizeInBytes bn.value ≤ k.toNat)) := by
  refine ⟨fun target bytes => bnFromBytes_number, ?_⟩
  have hk := k.toNat_lt
  generalize k.toNat = k at hk ⊢
  have hroom (h : ¬(k ≠ 0 ∧ k < sizeInBytes bn.value)) :
      sizeInBytes bn.value ≤ requested bn.value k := by
    unfold requested
    split_ifs <;> omega
  unfold Converts
  split_ifs with hsmall hv hv
  · rw [hv] at hsmall
    exact absurd hsmall.2 (Nat.not_lt_zero k)
  · -- the octet behind the room that there is gets written
    refine iff_of_false (fun h => ?_) (by omega)
    have hlt : k < (beBytes (k - sizeInBytes bn.value + sizeInBytes bn.value) bn.value).length := by
      rw [length_beBytes]
      omega
    have hkept := (h (fun _ => (beBytes _ bn.value)[k] + 1) 0).2 (0 + k) (.inr le_rfl)
    rw [bnToBytes_eq bn hv (if_neg hsmall.1)] at hkept
    dsimp only at hkept
    rw [Mem.write_inside hlt] at hkept
    exact absurd hkept (by simp)
  · have hrun := bnToBytes_zero bn hv k
    have hone : 1 = requested 0 k ↔ k ≤ 1 := by
      show 1 = (if k = 0 then 1 else k) ↔ _
      split_ifs <;> omega
    refine ⟨fun h => ?_, fun h mem p => ⟨?_, beVal_beBytes (sizeInBytes_le_iff.mp (hroom hsmall))⟩⟩
    · have hsize := (h (fun _ => 0) 0).1
      rw [hrun, hv] at hsize
      exact hone.mp (congrArg ToBytes.size hsize)
    · rw [hrun, hv, ← hone.mpr h]
      rfl
  · have hle := hroom hsmall
    have hrun := bnToBytes_eq bn hv (k := k) rfl
    refine ⟨fun h => ?_, fun h mem p => ⟨?_, beVal_beBytes (sizeInBytes_le_iff.mp hle)⟩⟩
    · have hsize := congrArg ToBytes.size (h (fun _ => 0) 0).1
      rw [hrun] at hsize
      dsimp only [requested] at hsize
      split_ifs at hsize <;> omega
    · have hpos := sizeInBytes_pos hv
      have hn : (if k = 0 then sizeInBytes bn.value % 2 ^ 16 else k) = requested bn.value k := by
        unfold requested
        split_ifs <;> omega
      rw [hrun, hn, Nat.sub_add_cancel hle, decide_eq_true hle]
      rfl

/-- A zero has one octet, whatever is requested, and two octets are written where one is. -/
theorem convert_fails :
    (bnToBytes ⟨1, 0, fun _ => 0⟩ (fun _ => 1) 0 2).size = 1 ∧
      (bnToBytes ⟨1, 1, Mem.ofList [2, 1]⟩ (fun _ => 0) 0 1).mem 1 = 2 := by
  decide

end RfTpm.Math
