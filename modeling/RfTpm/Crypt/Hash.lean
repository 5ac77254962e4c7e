import RfTpm.Nv.State
import RfTpm.Lib.Buffer
import RfTpm.Lib.CInt
import RfTpm.Lib.BlockStream

/-!
# Hashes, masks and key streams

The part of CryptHash.c that makes streams of octets from a hash function: the HMAC, the mask
generation `CryptMGF_KDF()`, and the key derivation `CryptKDFa()`.  The hash function is a parameter
of which only the size of its digests is known.

Both generators are loops with a counter that is hashed with the rest of the input.  They are
`BlockStream.stream` of their blocks (`mgfLoop_eq`, `kdfaLoop_eq`), which is what the code that uses
them reasons with.
-/

namespace RfTpm.Crypt

open Faults Bytes Buffer CInt BlockStream List

def INT16_MAX : ℕ := 0x7FFF

/-- `HASH_DEF`, with the hash function.  The size is zero for an algorithm that is not
implemented. -/
structure HashDef where
  digestSize : ℕ
  blockSize : ℕ
  oid : Bytes
  hash : Bytes → Bytes
  length_hash : ∀ data, (hash data).length = digestSize
  digestSize_le : digestSize ≤ MAX_DIGEST_SIZE
  digestSize_le_blockSize : digestSize ≤ blockSize

/-! ## HMAC -/

/-- The key block of `CryptHmacStart()`, with the padding of the inner hash. -/
def hmacKey (h : HashDef) (key : Bytes) : Bytes :=
  let key := if key.length > h.blockSize then h.hash key else key
  key.map (· ^^^ 0x36) ++ List.replicate (h.blockSize - key.length) 0x36

/-- `CryptHmacStart()`, the updates and `CryptHmacEnd()`. -/
def cryptHmac (h : HashDef) (key data : Bytes) : Bytes :=
  let inner := h.hash (hmacKey h key ++ data)
  h.hash ((hmacKey h key).map (· ^^^ (0x5C ^^^ 0x36)) ++ inner)

lemma length_cryptHmac (h : HashDef) (key data : Bytes) :
    (cryptHmac h key data).length = h.digestSize := h.length_hash _

/-! ## `CryptMGF_KDF` -/

/-- A block of the mask. -/
def mgfBlock (h : HashDef) (seed : Bytes) (counter : UInt32) : Bytes :=
  h.hash (seed ++ beBytes 4 counter.toNat)

/-- The loop of `CryptMGF_KDF()`, with the number of octets still to make.  The mask is put together
apart: in the code it never overlaps the seed. -/
def mgfLoop (h : HashDef) (seed : Bytes) : ℕ → UInt32 → ℕ → Bytes
  | 0, _, _ => []
  | fuel + 1, counter, left =>
    if 0 < left then
      (mgfBlock h seed counter).take (min left h.digestSize) ++
        mgfLoop h seed fuel (counter + 1) (left - h.digestSize)
    else []

/-- `CryptMGF_KDF()`: the mask, and the number of its octets. -/
def cryptMGFKDF (h : HashDef) (mSize : ℕ) (seed : Bytes) (counter : UInt32) :
    ℕ × Bytes :=
  if h.digestSize = 0 ∨ mSize = 0 then (0, [])
  else (mSize % 2 ^ 16, mgfLoop h seed mSize (if counter ≠ 0 then 1 else 0) mSize)

/-- The blocks of the mask by number. -/
def mgfBlocks (h : HashDef) (seed : Bytes) (i : ℕ) : Bytes :=
  mgfBlock h seed (UInt32.ofNat i)

section Mgf

variable {h : HashDef} (hpos : 0 < h.digestSize) (seed : Bytes)

lemma length_mgfBlocks (i : ℕ) : (mgfBlocks h seed i).length = h.digestSize := h.length_hash _

include hpos in
lemma mgfLoop_eq (fuel i left : ℕ) (hfuel : left ≤ fuel) :
    mgfLoop h seed fuel (UInt32.ofNat i) left = stream (mgfBlocks h seed) i left := by
  induction fuel generalizing i left with
  | zero =>
    rw [Nat.le_zero.mp hfuel]
    rfl
  | succ fuel ih =>
    unfold mgfLoop
    by_cases hleft : 0 < left
    · have hnext : UInt32.ofNat i + 1 = UInt32.ofNat (i + 1) := (UInt32.ofNat_add i 1).symm
      have htake : (mgfBlock h seed (UInt32.ofNat i)).take (min left h.digestSize) =
          (mgfBlocks h seed i).take left := by
        show (mgfBlocks h seed i).take _ = _
        rw [take_eq_take_min (i := left), length_mgfBlocks]
      rw [if_pos hleft, stream_step hpos (length_mgfBlocks seed) i hleft, hnext,
        ih (i + 1) _ (by omega), htake]
    · rw [if_neg hleft, Nat.eq_zero_of_not_pos hleft]
      rfl

include hpos in
lemma cryptMGFKDF_eq (mSize : ℕ) : (cryptMGFKDF h mSize seed 0).2 =
    stream (mgfBlocks h seed) 0 mSize := by
  unfold cryptMGFKDF
  by_cases hzero : mSize = 0
  · rw [if_pos (.inr hzero), hzero]
    rfl
  · rw [if_neg (by omega), if_neg (fun hne => hne rfl)]
    exact mgfLoop_eq hpos seed mSize 0 mSize le_rfl

include hpos in
lemma length_cryptMGFKDF (mSize : ℕ) : (cryptMGFKDF h mSize seed 0).2.length = mSize := by
  rw [cryptMGFKDF_eq hpos]
  exact length_stream hpos (length_mgfBlocks seed) 0 mSize

include hpos in
lemma cryptMGFKDF_size {mSize : ℕ} (hsmall : mSize < 2 ^ 16) :
    (cryptMGFKDF h mSize seed 0).1 = mSize := by
  unfold cryptMGFKDF
  by_cases hzero : mSize = 0
  · rw [if_pos (.inr hzero), hzero]
  · rw [if_neg (by omega)]
    exact Nat.mod_eq_of_lt hsmall

end Mgf

/-! ## `CryptKDFa` -/

/-- The inputs of `CryptKDFa()` that are hashed in every round, other than the size. -/
structure KdfaInputs where
  key : Bytes
  label : Option Bytes
  contextU : Option Bytes
  contextV : Option Bytes

/-- The label, with a null if it does not end in one. -/
def kdfaLabel (label : Option Bytes) : Bytes :=
  match label with
  | none => [0]
  | some label => label ++ if label.getLast? = some 0 then [] else [0]

/-- A block of the key stream. -/
def kdfaBlock (h : HashDef) (i : KdfaInputs) (sizeInBits counter : UInt32) : Bytes :=
  cryptHmac h i.key (beBytes 4 counter.toNat ++ kdfaLabel i.label ++ i.contextU.getD [] ++
    i.contextV.getD [] ++ beBytes 4 sizeInBits.toNat)

/-- The loop of `CryptKDFa()`: the counter, and the buffer. -/
def kdfaLoop (h : HashDef) (i : KdfaInputs) (sizeInBits : UInt32) :
    ℕ → ℤ → UInt32 → ℕ → Bytes → Run TpmRc (UInt32 × Bytes)
  | 0, _, _, _, _ => .error .fault
  | fuel + 1, bytes, counter, stream, keyStream =>
    if bytes > 0 then do
      let counter₁ := counter + 1
      let keyStream₁ ←
        put keyStream stream ((kdfaBlock h i sizeInBits counter₁).take bytes.toNat)
      kdfaLoop h i sizeInBits fuel (int16 (bytes - h.digestSize)) counter₁ (stream + h.digestSize)
        keyStream₁
    else pure (counter, keyStream)

/-- `CryptKDFa()`: the number of octets made, the buffer and the counter.  It asserts that the size
is at most `INT16_MAX` octets.  Without `longjmp` a failed assertion puts the TPM in failure mode,
and the function goes on. -/
def cryptKDFa (h : HashDef) (i : KdfaInputs) (sizeInBits : UInt32) (keyStream : Bytes)
    (counterInOut : Option UInt32) (blocks : UInt16) :
    Run TpmRc (ℕ × Bytes × Option UInt32) :=
  if h.digestSize = 0 then pure (0, keyStream, counterInOut)
  else do
    let bytes : ℤ :=
      if blocks > 0 then int16 (blocks.toNat * h.digestSize)
      else int16 (((sizeInBits + 7) >>> 3).toNat % 2 ^ 16 : ℕ)
    let (counter, keyStream₁) ←
      kdfaLoop h i sizeInBits (keyStream.length + 1) bytes (counterInOut.getD 0) 0 keyStream
    pure ((bytes % 2 ^ 16).toNat, keyStream₁, counterInOut.map fun _ => counter)

/-- The blocks of the key stream by number. -/
def kdfaBlocks (h : HashDef) (i : KdfaInputs) (sizeInBits : UInt32) (n : ℕ) : Bytes :=
  kdfaBlock h i sizeInBits (UInt32.ofNat n)

section Kdfa

variable {h : HashDef} (hpos : 0 < h.digestSize) (i : KdfaInputs) (sizeInBits : UInt32)

lemma length_kdfaBlocks (n : ℕ) : (kdfaBlocks h i sizeInBits n).length = h.digestSize :=
  length_cryptHmac h _ _

include hpos in
/-- The loop puts the stream of the blocks in the buffer, in as many rounds as it has blocks, and
the counter is that of the last one. -/
lemma kdfaLoop_eq {fuel n : ℕ} (hn : n < 2 ^ 15) (hfuel : n < fuel) (counter p : ℕ)
    {a b c : Bytes} (ha : a.length = p) (hb : b.length = n) :
    ∃ rounds, n ≤ rounds * h.digestSize ∧ rounds * h.digestSize < n + h.digestSize ∧
      kdfaLoop h i sizeInBits fuel n (UInt32.ofNat counter) p (a ++ b ++ c) =
        .ok (UInt32.ofNat (counter + rounds),
          a ++ stream (kdfaBlocks h i sizeInBits) (counter + 1) n ++ c) := by
  induction fuel generalizing n counter p a b with
  | zero => exact absurd hfuel (Nat.not_lt_zero _)
  | succ fuel ih =>
    have hle := h.digestSize_le
    unfold MAX_DIGEST_SIZE at hle
    unfold kdfaLoop
    by_cases hmore : 0 < n
    · have hnext : UInt32.ofNat counter + 1 = UInt32.ofNat (counter + 1) :=
        (UInt32.ofNat_add counter 1).symm
      have hblock : kdfaBlock h i sizeInBits (UInt32.ofNat (counter + 1)) =
          kdfaBlocks h i sizeInBits (counter + 1) := rfl
      -- the octets of this round, and those that are left
      set now := (kdfaBlocks h i sizeInBits (counter + 1)).take n with hnow
      have hnowlen : now.length = min n h.digestSize := by
        rw [hnow, length_take, length_kdfaBlocks]
      have hsplit : b = b.take now.length ++ b.drop now.length := (take_append_drop _ _).symm
      have hput : put (ρ := TpmRc) (a ++ b ++ c) p now =
          .ok ((a ++ now) ++ b.drop now.length ++ c) := by
        have hparts : a ++ b ++ c = a ++ b.take now.length ++ (b.drop now.length ++ c) := by
          conv_lhs => rw [hsplit]
          simp only [append_assoc]
        rw [hparts, put_append ha.symm (length_take_of_le (by omega)).symm]
        simp only [append_assoc]
      rw [if_pos (by omega), hnext, Int.toNat_natCast]
      dsimp only
      rw [hblock, hput, ok_bind,
        stream_step hpos (length_kdfaBlocks i sizeInBits) (counter + 1) hmore, ← hnow]
      have hdrop : (b.drop now.length).length = n - h.digestSize := by
        rw [length_drop]
        omega
      by_cases hlast : n ≤ h.digestSize
      · -- the last round: the loop ends with a count that is not positive
        refine ⟨1, by omega, by omega, ?_⟩
        have hzero : n - h.digestSize = 0 := by omega
        rw [hzero] at hdrop ⊢
        rw [eq_nil_of_length_eq_zero hdrop, stream_zero, append_nil, append_nil,
          int16_eq (by omega) (by omega)]
        cases fuel with
        | zero => omega
        | succ fuel =>
          unfold kdfaLoop
          rw [if_neg (by omega)]
          rfl
      · obtain ⟨rounds, hlow, hhigh, hrest⟩ := ih (n := n - h.digestSize) (by omega) (by omega)
          (counter + 1) (p + h.digestSize) (a := a ++ now) (b := b.drop now.length)
          (by rw [length_append]; omega) hdrop
        refine ⟨rounds + 1, by rw [Nat.succ_mul]; omega, by rw [Nat.succ_mul]; omega, ?_⟩
        have hleft : (n : ℤ) - h.digestSize = (n - h.digestSize : ℕ) := by omega
        rw [hleft, int16_eq (by omega) (by omega), hrest]
        rw [append_assoc a now, Nat.add_assoc counter 1 rounds, Nat.add_comm 1 rounds]
    · have hzero : n = 0 := Nat.eq_zero_of_not_pos hmore
      subst hzero
      refine ⟨0, by omega, by omega, ?_⟩
      rw [if_neg (by decide), stream_zero, eq_nil_of_length_eq_zero hb]
      rfl

lemma size_request {n : ℕ} (hn : n ≤ INT16_MAX) :
    ((UInt32.ofNat (n * 8) + 7) >>> 3).toNat = n := by
  unfold INT16_MAX at hn
  have hsum : (UInt32.ofNat (n * 8) + 7).toNat = n * 8 + 7 := by
    rw [UInt32.toNat_add, UInt32.toNat_ofNat']
    show (n * 8 % 2 ^ 32 + 7) % 2 ^ 32 = _
    omega
  rw [UInt32.toNat_shiftRight, hsum, Nat.shiftRight_eq_div_pow]
  show (n * 8 + 7) / 2 ^ 3 = n
  omega

include hpos in
lemma cryptKDFa_oneShot {n : ℕ} (hn : n ≤ INT16_MAX) {keyStream : Bytes}
    (hlen : keyStream.length = n) :
    cryptKDFa h i (UInt32.ofNat (n * 8)) keyStream none 0 =
      .ok (n, stream (kdfaBlocks h i (UInt32.ofNat (n * 8))) 1 n, none) := by
  have hshift := size_request hn
  unfold INT16_MAX at hn
  obtain ⟨rounds, -, -, hloop⟩ := kdfaLoop_eq hpos i (UInt32.ofNat (n * 8))
    (by omega) (Nat.lt_succ_self n) 0 0 (a := []) (c := []) rfl hlen
  have hzero : UInt32.ofNat 0 = (none : Option UInt32).getD 0 := rfl
  rw [nil_append, append_nil, hzero] at hloop
  unfold cryptKDFa
  rw [if_neg (by omega)]
  dsimp only
  rw [if_neg (by decide), hshift, Nat.mod_eq_of_lt (by omega), int16_eq (by omega) (by omega), hlen,
    hloop, ok_bind]
  dsimp only
  rw [nil_append, append_nil]
  congr 2
  omega

include hpos in
lemma cryptKDFa_blocks {k : ℕ} (hk : 0 < k) (hn : k * h.digestSize < 2 ^ 15) (counter : ℕ)
    {b c : Bytes} (hb : b.length = k * h.digestSize) :
    cryptKDFa h i sizeInBits (b ++ c) (some (UInt32.ofNat counter)) (UInt16.ofNat k) =
      .ok (k * h.digestSize, blocks (kdfaBlocks h i sizeInBits) (counter + 1) k ++ c,
        some (UInt32.ofNat (counter + k))) := by
  obtain ⟨rounds, hlow, hhigh, hloop⟩ := kdfaLoop_eq hpos i sizeInBits hn
    (show _ < (b ++ c).length + 1 by rw [length_append]; omega) counter 0 (a := []) (c := c) rfl hb
  have hrounds : rounds = k :=
    Nat.le_antisymm (Nat.lt_succ_iff.mp (Nat.lt_of_mul_lt_mul_right (Nat.succ_mul k _ ▸ hhigh)))
      (Nat.le_of_mul_le_mul_right hlow hpos)
  rw [nil_append, nil_append, hrounds, stream_blocks hpos (length_kdfaBlocks i _)] at hloop
  have hnat : (UInt16.ofNat k).toNat = k :=
    UInt16.toNat_ofNat_of_lt' (show k < 2 ^ 16 by
      have := Nat.le_mul_of_pos_right k hpos
      omega)
  have hmore : UInt16.ofNat k > 0 := UInt16.lt_iff_toNat_lt.mpr (hnat.symm ▸ hk)
  unfold cryptKDFa
  rw [if_neg (by omega)]
  dsimp only
  rw [if_pos hmore, hnat, ← Int.natCast_mul, int16_eq (by omega) (by omega)]
  dsimp only [Option.getD_some]
  rw [hloop, ok_bind]
  dsimp only [Option.map_some]
  congr 2
  omega

include hpos in
lemma cryptKDFa_oneBlock (counter : ℕ) {b c : Bytes} (hb : b.length = h.digestSize) :
    cryptKDFa h i sizeInBits (b ++ c) (some (UInt32.ofNat counter)) 1 =
      .ok (h.digestSize, kdfaBlocks h i sizeInBits (counter + 1) ++ c,
        some (UInt32.ofNat (counter + 1))) := by
  have hle : h.digestSize < 2 ^ 15 := h.digestSize_le.trans_lt (by decide)
  have hblocks := cryptKDFa_blocks hpos i sizeInBits Nat.one_pos (by omega) counter (b := b)
    (c := c) (hb.trans (Nat.one_mul _).symm)
  rwa [Nat.one_mul, blocks, blocks, append_nil] at hblocks

end Kdfa

end RfTpm.Crypt
