import RfTpm.Crypt.BigNum

/-!
# Random bits

`TpmMath_GetRandomBits` and `TpmMath_GetRandomInteger` (TpmMath_Util.c) turn the output of the
random number generator into a number of a given bit length.  The first leaves it as a big-endian
string, the second as a big number.  Either asks for whole bytes and cuts off the bits in excess
with a mask, and either mask is wrong:

* the table in the first function says that the mask is `0xFF >> shift`; the code has the
  complement, which clears the bits that were asked for and keeps the others;
* the second function uses `BnMaskBits`, whose mask for a bit count with remainder `m` keeps
  `64 - m` bits of the last word and not `m`.

The generator is a parameter: `rand n` is what `DRBG_Generate` writes when it is asked for `n`
bytes, and its length is the count that `DRBG_Generate` returns.
-/

namespace RfTpm.Math

open RfTpm.Bytes

/-- What `DRBG_Generate` writes for a request of so many bytes. -/
abbrev Rand := ℕ → Bytes

/-- `BITS_TO_BYTES`; the sum is one of `size_t`. -/
def bitsToBytes (bits : ℕ) : ℕ := (bits + 7) % 2 ^ 64 / 8

/-- `(NUMBYTES)BITS_TO_BYTES(bits)`. -/
def numBytes (bits : ℕ) : ℕ := bitsToBytes bits % 2 ^ 16

/-- `LARGEST_NUMBER`: the bytes of a 4096-bit RSA key. -/
def largestNumber : ℕ := 512

/-! ## The functions -/

/-- `while(pTo < pFrom)`: the bytes at the two ends are swapped and the ends move inwards.  The
first argument bounds the number of rounds. -/
def flipLoop : ℕ → Mem → ℕ → ℕ → Mem
  | 0, m, _, _ => m
  | n + 1, m, pTo, pFrom =>
    if pTo < pFrom then
      let t := m pTo
      let m₁ := m.write pTo [m pFrom]
      let m₂ := m₁.write pFrom [t]
      flipLoop n m₂ (pTo + 1) (pFrom - 1)
    else m

/-- The mask for the high-order byte. -/
def highMask (bits : ℕ) : UInt8 :=
  let excessBits := bits % 8
  let shift := (8 - excessBits) % 8
  ~~~((0xFF : UInt8) >>> UInt8.ofNat shift)

/-- `TpmMath_GetRandomBits`: the memory afterwards, `none` where it returns FALSE. -/
def tpmMathGetRandomBits (m : Mem) (pBuffer bits : ℕ) (rand : Rand) : Option Mem :=
  let byteCount := numBytes bits
  let out := rand byteCount
  if out.length = byteCount then
    let m₁ := m.write pBuffer out
    let m₂ := flipLoop byteCount m₁ pBuffer (pBuffer + byteCount - 1)
    some (m₂.write pBuffer [m₂ pBuffer &&& highMask bits])
  else none

/-- `TpmMath_GetRandomInteger`: the number afterwards, `none` where it returns FALSE.  The buffer
`large` of the code has `LARGEST_NUMBER + 8` bytes; the model's is as long as the request. -/
def tpmMathGetRandomInteger (n : BigNum) (bits : ℕ) (rand : Rand) : Option BigNum :=
  let size := numBytes bits
  let large := rand size
  if large.length = size then
    match bnFromBytes n large with
    | some n₁ => bnMaskBits n₁ bits
    | none => none
  else none

/-! ## The string -/

lemma write_singleton (m : Mem) (p : ℕ) (b : UInt8) (a : ℕ) :
    m.write p [b] a = if a = p then b else m a := by
  rcases Nat.lt_trichotomy a p with hlt | rfl | hgt
  · rw [Mem.write_of_lt _ hlt, if_neg (by omega)]
  · simp [Mem.write]
  · rw [Mem.write_of_ge (by simpa using hgt), if_neg (by omega)]

lemma flipLoop_apply (n : ℕ) (m : Mem) {pTo pFrom : ℕ} (hn : pFrom ≤ pTo + n) (a : ℕ) :
    flipLoop n m pTo pFrom a =
      if pTo ≤ a ∧ a ≤ pFrom then m (pTo + pFrom - a) else m a := by
  -- the ends move towards each other, so what a round swaps is outside of the later rounds
  induction n generalizing m pTo pFrom with
  | zero =>
    unfold flipLoop
    split_ifs with hin
    · congr 1
      omega
    · rfl
  | succ n ih =>
    unfold flipLoop
    by_cases hlt : pTo < pFrom
    · have hsum : pTo + 1 + (pFrom - 1) = pTo + pFrom := by omega
      rw [if_pos hlt, ih _ (by omega), hsum]
      simp only [write_singleton]
      split_ifs <;> first | rfl | omega | (congr 1; omega)
    · rw [if_neg hlt]
      split_ifs with hin
      · congr 1
        omega
      · rfl

lemma read_flipLoop (m : Mem) (p : ℕ) (out : Bytes) :
    (flipLoop out.length (m.write p out) p (p + out.length - 1)).read p out.length =
      out.reverse := by
  apply List.ext_getElem
  · simp
  · intro i hi _
    rw [Mem.length_read] at hi
    have hplace : p + (p + out.length - 1) - (p + i) = p + (out.length - 1 - i) := by omega
    rw [Mem.getElem_read, flipLoop_apply _ _ (by omega), if_pos (by omega), hplace,
      Mem.write_inside (by omega), List.getElem_reverse]

variable {p bits : ℕ} {rand : Rand}

lemma read_write_head {m : Mem} {l : Bytes} (h : m.read p l.length = l) (f : UInt8 → UInt8) :
    (m.write p [f (m p)]).read p l.length = l.modifyHead f := by
  cases l with
  | nil => rfl
  | cons b l =>
    have hhead : m.read p (l.length + 1) = m p :: m.read (p + 1) l.length := by
      rw [Nat.add_comm, Mem.read_add]
      rfl
    rw [List.length_cons, hhead] at h
    obtain ⟨rfl, hrest⟩ := List.cons.inj h
    have hcell : (m.write p [f (m p)]).read p 1 = [f (m p)] := Mem.hasAt_write m p [f (m p)]
    have hlater : (m.write p [f (m p)]).read (p + 1) l.length = m.read (p + 1) l.length :=
      Mem.read_congr fun a ha _ => Mem.write_of_ge (by simpa using ha)
    rw [List.length_cons, Nat.add_comm, Mem.read_add, hcell, hlater, hrest,
      List.modifyHead_cons, List.singleton_append]

/-- The string after `TpmMath_GetRandomBits` is the output turned around, with the mask on its
first byte. -/
lemma read_tpmMathGetRandomBits {m m' : Mem} (h : tpmMathGetRandomBits m p bits rand = some m') :
    (rand (numBytes bits)).length = numBytes bits ∧
      m'.read p (numBytes bits) =
        (rand (numBytes bits)).reverse.modifyHead (· &&& highMask bits) := by
  unfold tpmMathGetRandomBits at h
  dsimp only at h
  split_ifs at h with hlen
  cases h
  refine ⟨hlen, ?_⟩
  generalize rand (numBytes bits) = out at hlen ⊢
  have hflip := read_flipLoop m p out
  rw [← List.length_reverse] at hflip
  have hread := read_write_head hflip (· &&& highMask bits)
  rw [List.length_reverse, hlen] at hread
  exact hread

/-- The number of bits wanted of the high-order byte. -/
def topBits (bits : ℕ) : ℕ := 8 - (8 - bits % 8) % 8

/-- The mask is right only for the byte zero: the bits it keeps are those above the wanted
ones. -/
lemma land_highMask_iff (b : UInt8) (bits : ℕ) :
    b &&& highMask bits = UInt8.ofNat (b.toNat % 2 ^ topBits bits) ↔ b = 0 := by
  have hall : ∀ e < 8, ∀ b : BitVec 8,
      (UInt8.ofBitVec b &&& ~~~((0xFF : UInt8) >>> UInt8.ofNat ((8 - e) % 8)) =
        UInt8.ofNat ((UInt8.ofBitVec b).toNat % 2 ^ (8 - (8 - e) % 8)) ↔
          UInt8.ofBitVec b = 0) := by decide +kernel
  exact hall (bits % 8) (Nat.mod_lt _ (by decide)) b.toBitVec

lemma land_highMask_eq_self_iff (b : UInt8) (bits : ℕ) :
    b &&& highMask bits = b ↔ b.toNat % 2 ^ topBits bits = 0 := by
  have hall : ∀ e < 8, ∀ b : BitVec 8,
      (UInt8.ofBitVec b &&& ~~~((0xFF : UInt8) >>> UInt8.ofNat ((8 - e) % 8)) =
        UInt8.ofBitVec b ↔ (UInt8.ofBitVec b).toNat % 2 ^ (8 - (8 - e) % 8) = 0) := by
    decide +kernel
  exact hall (bits % 8) (Nat.mod_lt _ (by decide)) b.toBitVec

lemma leBytes_mod (ini : Bytes) (t : UInt8) (w : ℕ) :
    leBytes (ini.length + 1) (leVal (ini ++ [t]) % 2 ^ (8 * ini.length + w)) =
      ini ++ [UInt8.ofNat (t.toNat % 2 ^ w)] := by
  have hpow : 2 ^ (8 * ini.length) = 256 ^ ini.length := by rw [Nat.pow_mul]
  have hlow := leVal_lt ini
  have hbyte : (UInt8.ofNat (t.toNat % 2 ^ w)).toNat = t.toNat % 2 ^ w := by
    rw [UInt8.toNat_ofNat']
    exact Nat.mod_eq_of_lt ((Nat.mod_le _ _).trans_lt t.toNat_lt)
  have hcut : leVal (ini ++ [t]) % 2 ^ (8 * ini.length + w) =
      leVal (ini ++ [UInt8.ofNat (t.toNat % 2 ^ w)]) := by
    rw [leVal_append, leVal_append, Nat.pow_add, hpow, Nat.mod_mul, Nat.add_mul_mod_self_left,
      Nat.mod_eq_of_lt hlow, Nat.add_mul_div_left _ _ (Nat.pow_pos (by decide)),
      Nat.div_eq_of_lt hlow, Nat.zero_add]
    simp [leVal, hbyte]
  have hlen : ini.length + 1 = (ini ++ [UInt8.ofNat (t.toNat % 2 ^ w)]).length := by simp
  rw [hcut, hlen, leBytes_leVal]

/-- The string has the wanted bits exactly if the last byte of the output is zero, or if the
request is too long for `NUMBYTES` and the bits that the mask clears are clear already. -/
lemma string_exact_iff {out : Bytes} (hlen : out.length = numBytes bits) :
    out.reverse.modifyHead (· &&& highMask bits) =
        beBytes (numBytes bits) (leVal out % 2 ^ bits) ↔
      out.getLastD 0 = 0 ∨
        8 * numBytes bits < bits ∧ (out.getLastD 0).toNat % 2 ^ topBits bits = 0 := by
  rcases List.eq_nil_or_concat out with rfl | ⟨ini, t, rfl⟩
  · have hzero : numBytes bits = 0 := hlen.symm
    simp [hzero, beBytes, leBytes]
  · rw [List.concat_eq_append] at hlen ⊢
    have hsize : numBytes bits = ini.length + 1 := by rw [← hlen]; simp
    have hlast : (ini ++ [t]).getLastD 0 = t := by simp
    rw [hlast, hsize]
    rw [List.reverse_concat, List.modifyHead_cons, beBytes]
    by_cases hlong : 8 * (ini.length + 1) < bits
    · have hbelow : leVal (ini ++ [t]) < 2 ^ bits := by
        have hlt := leVal_lt (ini ++ [t])
        rw [hlen, hsize, show 256 = 2 ^ 8 by rfl, ← Nat.pow_mul] at hlt
        exact hlt.trans_le (Nat.pow_le_pow_right (by decide) hlong.le)
      have hwhole : leBytes (ini.length + 1) (leVal (ini ++ [t])) = ini ++ [t] := by
        rw [← hsize, ← hlen, leBytes_leVal]
      rw [Nat.mod_eq_of_lt hbelow, hwhole, List.reverse_concat, List.cons.injEq,
        and_iff_left rfl, land_highMask_eq_self_iff, and_iff_right hlong]
      constructor
      · exact Or.inr
      · rintro (rfl | hclear)
        · simp
        · exact hclear
    · have hbits : 8 * ini.length + topBits bits = bits := by
        unfold topBits
        unfold numBytes bitsToBytes at hsize
        omega
      have hcut := leBytes_mod ini t (topBits bits)
      rw [hbits] at hcut
      rw [hcut, List.reverse_concat, List.cons.injEq, and_iff_left rfl, land_highMask_iff]
      exact ⟨Or.inl, fun h => h.resolve_right fun h' => hlong h'.1⟩

/-! ## The number -/

lemma mod_two_pow_eq_iff (v a b : ℕ) :
    v % 2 ^ a = v % 2 ^ b ↔ ∀ i, min a b ≤ i → i < max a b → v.testBit i = false := by
  constructor
  · intro h i hmin hmax
    have hbit := congrArg (Nat.testBit · i) h
    simp only [Nat.testBit_mod_two_pow] at hbit
    rcases Nat.lt_or_ge i a with ha | ha
    · have hb : ¬ i < b := by omega
      simpa [ha, hb] using hbit
    · have hb : i < b := by omega
      simpa [Nat.not_lt.mpr ha, hb] using hbit
  · intro h
    apply Nat.eq_of_testBit_eq
    intro i
    simp only [Nat.testBit_mod_two_pow]
    by_cases hin : min a b ≤ i ∧ i < max a b
    · simp [h i hin.1 hin.2]
    · have hsame : i < a ↔ i < b := by omega
      simp [hsame]

lemma bytesToCryptWords_numBytes (hbits : bits ≤ 8 * (largestNumber + 8)) :
    bytesToCryptWords (numBytes bits) = bitsToCryptWords bits := by
  unfold bytesToCryptWords bitsToCryptWords numBytes bitsToBytes radixBits
  unfold largestNumber at hbits
  omega

/-- The number after `TpmMath_GetRandomInteger` is the output as a big-endian number, of which
`keptBits` low bits are left. -/
lemma value_tpmMathGetRandomInteger {n r : BigNum} (hbits : bits ≤ 8 * (largestNumber + 8))
    (h : tpmMathGetRandomInteger n bits rand = some r) :
    r.value = beVal (rand (numBytes bits)) % 2 ^ keptBits bits := by
  unfold tpmMathGetRandomInteger at h
  dsimp only at h
  split_ifs at h with hlen
  cases hread : bnFromBytes n (rand (numBytes bits)) with
  | none => rw [hread] at h; cases h
  | some n₁ =>
    rw [hread] at h
    have hwords := bytesToCryptWords_numBytes hbits
    have hsmall : (rand (numBytes bits)).length < 2 ^ 60 := by
      rw [hlen]
      unfold numBytes
      omega
    obtain ⟨-, -, hd⟩ := bnFromBytes_spec hsmall hread
    rw [hlen, hwords] at hd
    rw [(bnMaskBits_spec h).2, hd]

lemma tpmMathGetRandomInteger_isSome {n : BigNum} (hbits : bits ≤ 8 * (largestNumber + 8))
    (hlen : (rand (numBytes bits)).length = numBytes bits)
    (hfits : bitsToCryptWords bits ≤ n.allocated) :
    ∃ r, tpmMathGetRandomInteger n bits rand = some r := by
  have hsmall : (rand (numBytes bits)).length < 2 ^ 60 := by
    rw [hlen]
    unfold numBytes
    omega
  have hread : bytesToCryptWords (rand (numBytes bits)).length ≤ n.allocated := by
    rw [hlen, bytesToCryptWords_numBytes hbits]
    exact hfits
  obtain ⟨n₁, hn₁⟩ := bnFromBytes_isSome hread
  have halloc := (bnFromBytes_spec hsmall hn₁).1
  obtain ⟨r, hr⟩ := bnMaskBits_isSome (halloc.symm ▸ hfits)
  refine ⟨r, ?_⟩
  unfold tpmMathGetRandomInteger
  dsimp only
  rw [if_pos hlen, hn₁]
  exact hr

/-- For the bit counts of whole bytes up to half a word beyond a whole word, every number below
`2 ^ bits` comes from exactly one output. -/
lemma existsUnique_output {n : BigNum} {v : ℕ} (hbits : bits ≤ 8 * (largestNumber + 8))
    (hbytes : bits % 8 = 0) (hhalf : bits % 64 ≤ 32) (hfits : bitsToCryptWords bits ≤ n.allocated)
    (hv : v < 2 ^ bits) :
    ∃! out : Bytes, out.length = numBytes bits ∧
      ∃ r, tpmMathGetRandomInteger n bits (fun _ => out) = some r ∧ r.value = v := by
  have hkept : bits ≤ keptBits bits := by
    unfold keptBits bitsToCryptWords radixMod radixBits
    unfold largestNumber at hbits
    omega
  have hbytePow : 256 ^ numBytes bits = 2 ^ bits := by
    rw [show 256 = 2 ^ 8 by rfl, ← Nat.pow_mul]
    congr 1
    unfold numBytes bitsToBytes
    unfold largestNumber at hbits
    omega
  have hbelow : 2 ^ bits ≤ 2 ^ keptBits bits := Nat.pow_le_pow_right (by decide) hkept
  refine ⟨beBytes (numBytes bits) v, ⟨length_beBytes _ _, ?_⟩, ?_⟩
  · have hroom :
        ∃ r, tpmMathGetRandomInteger n bits (fun _ => beBytes (numBytes bits) v) = some r :=
      tpmMathGetRandomInteger_isSome hbits (length_beBytes _ _) hfits
    obtain ⟨r, hr⟩ := hroom
    refine ⟨r, hr, ?_⟩
    rw [value_tpmMathGetRandomInteger hbits hr, beVal_beBytes (hbytePow.symm ▸ hv),
      Nat.mod_eq_of_lt (hv.trans_le hbelow)]
  · rintro out ⟨hlen, r, hr, hvalue⟩
    have hlt : beVal out < 2 ^ bits := by
      rw [← hbytePow, ← hlen]
      exact beVal_lt out
    rw [value_tpmMathGetRandomInteger hbits hr, Nat.mod_eq_of_lt (hlt.trans_le hbelow)] at hvalue
    rw [← hvalue, ← hlen, beBytes_beVal]

/-! ## Exactly the requested bits -/

/-- When the two functions keep exactly the requested bits.

The string is right only if the last byte of the output, which becomes its first, is zero; a
request too long for `NUMBYTES` apart, where the lost bytes leave nothing to cut.  The number is
right if the bits of the output between the requested count and the count that `BnMaskBits` keeps
are clear.  There are no such bits in the output if the count is of whole bytes and at most half
a word beyond a whole word, and then every number below `2 ^ bits` is equally likely. -/
theorem random_bits_exact_iff (bits : ℕ) (rand : Rand) :
    (∀ (m m' : Mem) (pBuffer : ℕ), tpmMathGetRandomBits m pBuffer bits rand = some m' →
      (m'.read pBuffer (numBytes bits) =
          beBytes (numBytes bits) (leVal (rand (numBytes bits)) % 2 ^ bits) ↔
        (rand (numBytes bits)).getLastD 0 = 0 ∨
          8 * numBytes bits < bits ∧
            ((rand (numBytes bits)).getLastD 0).toNat % 2 ^ topBits bits = 0)) ∧
    (bits ≤ 8 * (largestNumber + 8) →
      (∀ n r : BigNum, tpmMathGetRandomInteger n bits rand = some r →
        (r.value = beVal (rand (numBytes bits)) % 2 ^ bits ↔
          ∀ i, min bits (keptBits bits) ≤ i → i < max bits (keptBits bits) →
            (beVal (rand (numBytes bits))).testBit i = false)) ∧
      (bits % 8 = 0 → bits % 64 ≤ 32 → ∀ n : BigNum, bitsToCryptWords bits ≤ n.allocated →
        ∀ v < 2 ^ bits, ∃! out : Bytes, out.length = numBytes bits ∧
          ∃ r, tpmMathGetRandomInteger n bits (fun _ => out) = some r ∧ r.value = v)) := by
  refine ⟨?_, fun hbits => ⟨?_, ?_⟩⟩
  · intro m m' pBuffer h
    obtain ⟨hlen, hread⟩ := read_tpmMathGetRandomBits h
    rw [hread]
    exact string_exact_iff hlen
  · intro n r h
    rw [value_tpmMathGetRandomInteger hbits h, mod_two_pow_eq_iff, min_comm, max_comm]
  · intro hbytes hhalf n hfits v hv
    exact existsUnique_output hbits hbytes hhalf hfits hv

/-- Sixteen bits from two bytes: the number is the whole output. -/
theorem random_bits_exact_sixteen :
    ∃ r, tpmMathGetRandomInteger ⟨1, 0, Mem.ofList []⟩ 16 (fun _ => [1, 2]) = some r ∧
      r.value = beVal [1, 2] % 2 ^ 16 := by
  have hroom : ∃ r, tpmMathGetRandomInteger ⟨1, 0, Mem.ofList []⟩ 16 (fun _ => [1, 2]) = some r :=
    tpmMathGetRandomInteger_isSome (by decide) rfl (by decide)
  obtain ⟨r, hr⟩ := hroom
  have hexact := ((random_bits_exact_iff 16 fun _ => [1, 2]).2 (by decide)).1 _ r hr
  refine ⟨r, hr, hexact.mpr ?_⟩
  intro i hmin _
  have hbit : 16 ≤ i := (by decide : 16 ≤ min 16 (keptBits 16)).trans hmin
  exact Nat.testBit_lt_two_pow
    ((by decide : beVal [1, 2] < 2 ^ 16).trans_le (Nat.pow_le_pow_right (by decide) hbit))

/-- Eight bits of the output `1` are left as the string `0`, and nine bits of the output
`0xFFFF` as the number `0xFFFF`. -/
theorem random_bits_not_exact :
    (tpmMathGetRandomBits (Mem.ofList []) 0 8 (fun _ => [1])).map (·.read 0 1) = some [0] ∧
      beBytes 1 (leVal [1] % 2 ^ 8) = [1] ∧
      (tpmMathGetRandomInteger ⟨1, 0, Mem.ofList []⟩ 9 (fun _ => [0xFF, 0xFF])).map
        BigNum.value = some 0xFFFF ∧
      beVal [0xFF, 0xFF] % 2 ^ 9 = 0x1FF := by
  decide +kernel

end RfTpm.Math
