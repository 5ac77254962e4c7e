import RfTpm.Crypt.Hash

/-!
# XOR obfuscation

`CryptXORObfuscation()` of CryptUtil.c.  The mask is made one block at a time, in a buffer of the
size of a digest, by calls of `CryptKDFa()` that carry the counter from one to the next.  The size
that is hashed is the same in all calls, so the blocks are those of a single call for the whole
mask.
-/

namespace RfTpm.Crypt

open Faults Buffer BlockStream Cbc List

/-- `XOR_KEY`: the label has the null of its string. -/
def XOR_KEY : Bytes := [0x58, 0x4F, 0x52, 0x00]

/-- The inputs of `CryptKDFa()`. -/
def xorInputs (key : Bytes) (contextU contextV : Option Bytes) : KdfaInputs :=
  ⟨key, some XOR_KEY, contextU, contextV⟩

/-- The loop of `CryptXORObfuscation()`. -/
def xorLoop (h : HashDef) (i : KdfaInputs) (requestSize : UInt32) :
    ℕ → ℤ → UInt32 → Bytes → ℕ → Bytes → Run TpmRc Bytes
  | 0, _, _, _, _, _ => .error .fault
  | fuel + 1, remainBytes, counter, mask, p, data =>
    if remainBytes > 0 then do
      let (_, mask₁, counter₁) ← cryptKDFa h i requestSize mask (some counter) 1
      let n := if (h.digestSize : ℤ) < remainBytes then h.digestSize else remainBytes.toNat
      let data₁ ← mixLoop n p 0 data mask₁
      xorLoop h i requestSize fuel (remainBytes - h.digestSize) (counter₁.getD counter) mask₁
        (p + n) data₁
    else pure data

/-- `CryptXORObfuscation()`, with what is in the buffer `mask` before. -/
def cryptXORObfuscation (h : HashDef) (key : Bytes) (contextU contextV : Option Bytes)
    (mask data : Bytes) : Run TpmRc Bytes :=
  xorLoop h (xorInputs key contextU contextV) (UInt32.ofNat (data.length * 8)) (data.length + 1)
    data.length 0 mask 0 data

section Loop

variable {h : HashDef} (hpos : 0 < h.digestSize) (i : KdfaInputs)

include hpos in
lemma xorLoop_eq (size : UInt32) {fuel n : ℕ} (hfuel : n < fuel) (counter p : ℕ)
    {a b mask : Bytes} (ha : a.length = p) (hb : b.length = n)
    (hmask : mask.length = MAX_DIGEST_SIZE) :
    xorLoop h i size fuel n (UInt32.ofNat counter) mask p (a ++ b) =
      .ok (a ++ mix b (stream (kdfaBlocks h i size) (counter + 1) n)) := by
  induction fuel generalizing n counter p a b mask with
  | zero => exact absurd hfuel (Nat.not_lt_zero _)
  | succ fuel ih =>
    have hle := h.digestSize_le
    set block := kdfaBlocks h i size (counter + 1) with hblock
    have hblocklen : block.length = h.digestSize := length_kdfaBlocks i _ _
    unfold xorLoop
    by_cases hmore : 0 < n
    · -- the block takes the place of the front of the mask
      have hfront : (mask.take h.digestSize).length = h.digestSize :=
        length_take_of_le (by omega)
      have hkdfa := cryptKDFa_oneBlock hpos i size counter (c := mask.drop h.digestSize) hfront
      rw [take_append_drop, ← hblock] at hkdfa
      rw [if_pos (by omega), hkdfa, ok_bind]
      dsimp only [Option.getD_some]
      set count := if (h.digestSize : ℤ) < n then h.digestSize else (n : ℤ).toNat with hcount
      have hmin : count = min n h.digestSize := by
        rw [hcount]
        split_ifs <;> omega
      have htaken : (b.take count).length = count := length_take_of_le (by omega)
      have hmixed : (block.take count).length = count := length_take_of_le (by omega)
      have hmix : mixLoop (ρ := TpmRc) count p 0 (a ++ b) (block ++ mask.drop h.digestSize) =
          .ok (a ++ mix (b.take count) (block.take count) ++ b.drop count) := by
        have hdata : a ++ b = a ++ b.take count ++ b.drop count := by
          rw [append_assoc, take_append_drop]
        have hsource : block ++ mask.drop h.digestSize =
            [] ++ block.take count ++ (block.drop count ++ mask.drop h.digestSize) := by
          rw [nil_append, ← append_assoc, take_append_drop]
        rw [hdata, hsource]
        exact mixLoop_append ha.symm rfl htaken hmixed
      rw [hmix, ok_bind, stream_step hpos (length_kdfaBlocks i _) (counter + 1) hmore, ← hblock]
      have hstream : block.take n = block.take count := by
        rw [take_eq_take_min (i := n), hblocklen, hmin]
      have hresult (s : Bytes) : a ++ mix b (block.take n ++ s) =
          a ++ mix (b.take count) (block.take count) ++ mix (b.drop count) s := by
        conv_lhs => rw [← take_append_drop count b, hstream]
        rw [mix_append (htaken.trans hmixed.symm), append_assoc]
      rw [hresult]
      by_cases hlast : n ≤ h.digestSize
      · have hzero : n - h.digestSize = 0 := by omega
        have hnil : b.drop count = [] := drop_eq_nil_of_le (by omega)
        rw [hzero, hnil]
        cases fuel with
        | zero => omega
        | succ fuel =>
          unfold xorLoop
          rw [if_neg (by omega)]
          rfl
      · have hleft : (n : ℤ) - h.digestSize = (n - h.digestSize : ℕ) := by omega
        rw [hleft]
        refine ih (by omega) (counter + 1) (p + count) ?_ ?_ ?_
        · rw [length_append, length_mix (htaken.trans hmixed.symm), htaken, ha]
        · rw [length_drop]
          omega
        · rw [length_append, length_drop]
          omega
    · have hzero : n = 0 := Nat.eq_zero_of_not_pos hmore
      subst hzero
      rw [if_neg (by decide), eq_nil_of_length_eq_zero hb]
      rfl

end Loop

/-- **Obfuscation uses the stream of a single call.**  The data is mixed with the octets that one
call of `CryptKDFa()` for its size puts in a buffer of that size, and doing it again restores the
data.  The mask buffer is not overrun: that would be a fault. -/
theorem cryptXORObfuscation_oneShot (h : HashDef) (hpos : 0 < h.digestSize) (key : Bytes)
    (contextU contextV : Option Bytes) (data : Bytes)
    (hdata : data.length ≤ INT16_MAX) :
    ∃ s : Bytes, s.length = data.length ∧
      (∀ keyStream : Bytes, keyStream.length = data.length →
        cryptKDFa h (xorInputs key contextU contextV) (UInt32.ofNat (data.length * 8)) keyStream
          none 0 = .ok (data.length, s, none)) ∧
      ∀ mask : Bytes, mask.length = MAX_DIGEST_SIZE →
        cryptXORObfuscation h key contextU contextV mask data = .ok (mix data s) ∧
        cryptXORObfuscation h key contextU contextV mask (mix data s) = .ok data := by
  set i := xorInputs key contextU contextV
  have hlen := length_stream hpos (length_kdfaBlocks i (UInt32.ofNat (data.length * 8))) 1
    data.length
  have hxor (d mask : Bytes) (hd : d.length = data.length)
      (hmask : mask.length = MAX_DIGEST_SIZE) :
      cryptXORObfuscation h key contextU contextV mask d =
        .ok (mix d (stream (kdfaBlocks h i (UInt32.ofNat (data.length * 8))) 1 data.length)) := by
    unfold cryptXORObfuscation
    rw [hd]
    exact xorLoop_eq hpos i _ (Nat.lt_succ_self data.length) 0 0 (a := []) rfl hd hmask
  refine ⟨_, hlen, fun keyStream hk => cryptKDFa_oneShot hpos i hdata hk, fun mask hmask => ?_⟩
  refine ⟨hxor data mask rfl hmask, ?_⟩
  rw [hxor _ mask (length_mix hlen.symm) hmask, mix_mix hlen.symm]

/-- A hash function with digests of two octets. -/
def lengthHash : HashDef where
  digestSize := 2
  blockSize := 4
  oid := []
  hash data := [UInt8.ofNat data.length, data.sum]
  length_hash _ := rfl
  digestSize_le := by decide
  digestSize_le_blockSize := by decide

/-- Three octets, for which two blocks are made. -/
theorem cryptXORObfuscation_three :
    0 < lengthHash.digestSize ∧ [0x01, 0x02, 0x03].length ≤ INT16_MAX ∧
      ∃ s : Bytes, cryptKDFa lengthHash (xorInputs [0xAA] none none) 24 [0, 0, 0] none 0 =
          .ok (3, s, none) ∧
        cryptXORObfuscation lengthHash [0xAA] none none (List.replicate 64 0) [0x01, 0x02, 0x03] =
          .ok (mix [0x01, 0x02, 0x03] s) := by
  obtain ⟨s, -, hkdfa, hxor⟩ :=
    cryptXORObfuscation_oneShot lengthHash (by decide) [0xAA] none none [0x01, 0x02, 0x03]
      (by decide)
  exact ⟨by decide, by decide, s, hkdfa [0, 0, 0] rfl, (hxor _ rfl).1⟩

end RfTpm.Crypt
