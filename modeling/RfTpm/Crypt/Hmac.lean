import RfTpm.Crypt.Hash

/-!
# HMAC sequences

`CryptHmacStart()`, `CryptDigestUpdate()` and `CryptHmacEnd()` of CryptHash.c.  One buffer holds the
key block: it is filled and padded for the inner hash, and once that has begun it is turned into the
block of the outer hash in place and kept for the end.  `cryptHmac` says what a sequence computes,
and it is the HMAC of RFC 2104 (`cryptHmac_eq`).  An algorithm is its `HashDef`, and `TPM_ALG_NULL`
the one without digests.
-/

namespace RfTpm.Hmac

open Faults Buffer Crypt Cbc List

def MAX_HASH_BLOCK_SIZE : ℕ := 128

/-- `HASH_STATE_TYPE` -/
inductive StateType
  | empty
  | hash
  | hmac
  deriving DecidableEq

/-- `HASH_STATE`, with the data hashed so far. -/
structure HashState where
  hashAlg : HashDef
  type : StateType
  data : Bytes

/-- `HMAC_STATE` -/
structure HmacState extends HashState where
  keySize : ℕ
  hmacKey : Bytes

/-- `CryptHashStart()`. -/
def cryptHashStart (hashAlg : HashDef) : HashState := ⟨hashAlg, .hash, []⟩

/-- `CryptDigestUpdate()`: a state of another type puts the TPM in failure mode and stays. -/
def cryptDigestUpdate (s : HashState) (data : Bytes) : HashState :=
  if s.hashAlg.digestSize ≠ 0 ∧ s.type ≠ .empty then { s with data := s.data ++ data }
  else s

/-- `HashEnd()`: the state, and the octets that are copied. -/
def hashEnd (s : HashState) (dOutSize : ℕ) : HashState × Bytes :=
  ({ s with type := .empty },
    if s.hashAlg.digestSize = 0 ∨ s.type ≠ .hash then []
    else (s.hashAlg.hash s.data).take (min dOutSize s.hashAlg.digestSize))

/-- `CryptHashBlock()`. -/
def cryptHashBlock (hashAlg : HashDef) (data : Bytes) (dOutSize : ℕ) : Bytes :=
  (hashEnd (cryptDigestUpdate (cryptHashStart hashAlg) data) dOutSize).2

/-- `CryptHmacStart()`.  The loops that combine the buffer with a constant are `mixLoop` with a
string of it. -/
def cryptHmacStart (s : HmacState) (hashAlg : HashDef) (key : Bytes) :
    Run TpmRc (ℕ × HmacState) :=
  let blockSize := hashAlg.blockSize
  if hashAlg.digestSize ≠ 0 then do
    let key :=
      if key.length > blockSize then cryptHashBlock hashAlg key hashAlg.digestSize else key
    let buffer ← put s.hmacKey 0 key
    let buffer ← mixLoop key.length 0 0 buffer (List.replicate key.length 0x36)
    let buffer ← put buffer key.length (List.replicate (blockSize - key.length) 0x36)
    let block ← slice buffer 0 blockSize
    let hashState := cryptDigestUpdate (cryptHashStart hashAlg) block
    let buffer ← mixLoop blockSize 0 0 buffer (List.replicate blockSize (0x5C ^^^ 0x36))
    pure (hashAlg.digestSize, ⟨{ hashState with type := .hmac }, blockSize, buffer⟩)
  else pure (0, { s with hashAlg, type := .hmac })

/-- `CryptHmacEnd()`.  It asserts the type of the state and goes on. -/
def cryptHmacEnd (s : HmacState) (dOutSize : ℕ) : Run TpmRc (HashState × Bytes) :=
  let hState := { s.toHashState with type := .hash }
  if s.hashAlg.digestSize = 0 then pure (hashEnd hState 0)
  else do
    let temp := (hashEnd hState s.hashAlg.digestSize).2
    let key ← slice s.hmacKey 0 s.keySize
    let hState := cryptDigestUpdate (cryptDigestUpdate (cryptHashStart s.hashAlg) key) temp
    pure (hashEnd hState dOutSize)

/-- A sequence: the start, the updates, and the octets of the end. -/
def hmacSequence (s : HmacState) (hashAlg : HashDef) (key : Bytes)
    (updates : List Bytes) (dOutSize : ℕ) : Run TpmRc Bytes := do
  let (_, s) ← cryptHmacStart s hashAlg key
  let s := { s with toHashState := updates.foldl cryptDigestUpdate s.toHashState }
  let (_, dOut) ← cryptHmacEnd s dOutSize
  pure dOut

/-! ## What a sequence computes -/

/-- The HMAC of RFC 2104: the key, or its hash if it is longer than a block, is filled with zeros
to a block, and each hash has the block with its own padding in front. -/
def rfc2104 (h : HashDef) (key text : Bytes) : Bytes :=
  let key := if key.length > h.blockSize then h.hash key else key
  let block := key ++ List.replicate (h.blockSize - key.length) 0
  h.hash (block.map (· ^^^ 0x5C) ++ h.hash (block.map (· ^^^ 0x36) ++ text))

lemma cryptHmac_eq (h : HashDef) (key text : Bytes) :
    cryptHmac h key text = rfc2104 h key text := by
  have hpad : ∀ x : UInt8, x ^^^ 0x36 ^^^ (0x5C ^^^ 0x36) = x ^^^ 0x5C := fun x => by
    rw [UInt8.xor_assoc]
    rfl
  unfold cryptHmac rfc2104 hmacKey
  simp only [map_append, map_map, map_replicate, Function.comp_def, hpad]
  rfl

lemma mixLoop_replicate {n : ℕ} {a : Bytes} (ha : a.length = n) (x : UInt8)
    (c : Bytes) : mixLoop (ρ := TpmRc) n 0 0 (a ++ c) (List.replicate n x) =
      .ok (a.map (· ^^^ x) ++ c) := by
  have hmap : mix a (List.replicate n x) = a.map (· ^^^ x) := by
    subst ha
    induction a with
    | nil => rfl
    | cons y a ih => exact congrArg (_ :: ·) ih
  have hmix : mixLoop (ρ := TpmRc) n 0 0 (a ++ c) (List.replicate n x ++ []) = _ :=
    mixLoop_append (a := []) (d := []) rfl rfl ha length_replicate
  rwa [hmap, append_nil] at hmix

section Sequence

variable {h : HashDef} (hpos : 0 < h.digestSize)

include hpos in
lemma cryptDigestUpdate_eq {type : StateType} (htype : type ≠ .empty) (data more : Bytes) :
    cryptDigestUpdate ⟨h, type, data⟩ more = ⟨h, type, data ++ more⟩ := if_pos ⟨hpos.ne', htype⟩

include hpos in
lemma foldl_cryptDigestUpdate {type : StateType} (htype : type ≠ .empty) (data : Bytes)
    (updates : List Bytes) :
    updates.foldl cryptDigestUpdate ⟨h, type, data⟩ = ⟨h, type, data ++ updates.flatten⟩ := by
  induction updates generalizing data with
  | nil => rw [flatten_nil, append_nil, foldl_nil]
  | cons more updates ih =>
    rw [foldl_cons, cryptDigestUpdate_eq hpos htype, ih, flatten_cons, append_assoc]

include hpos in
lemma hashEnd_hash (data : Bytes) (dOutSize : ℕ) :
    (hashEnd ⟨h, .hash, data⟩ dOutSize).2 = (h.hash data).take dOutSize := by
  unfold hashEnd
  dsimp only
  rw [if_neg (not_or.mpr ⟨hpos.ne', not_not.mpr rfl⟩), ← h.length_hash data, ← take_eq_take_min]

lemma length_hmacKey (key : Bytes) : (hmacKey h key).length = h.blockSize := by
  unfold hmacKey
  dsimp only
  rw [length_append, length_map, length_replicate]
  split_ifs with hlong
  · have hle := h.digestSize_le_blockSize
    rw [h.length_hash]
    omega
  · omega

include hpos in
lemma cryptHmacStart_eq {s : HmacState} (hroom : h.blockSize ≤ s.hmacKey.length)
    (key : Bytes) :
    ∃ spare, cryptHmacStart s h key = .ok (h.digestSize, ⟨⟨h, .hmac, hmacKey h key⟩,
      h.blockSize, (hmacKey h key).map (· ^^^ (0x5C ^^^ 0x36)) ++ spare⟩) := by
  have hlen := length_hmacKey (h := h) key
  have hhash : cryptHashBlock h key h.digestSize = h.hash key := by
    rw [cryptHashBlock, cryptHashStart, cryptDigestUpdate_eq hpos (by decide), hashEnd_hash hpos,
      nil_append, ← h.length_hash key, take_length]
  unfold cryptHmacStart
  unfold hmacKey at hlen ⊢
  dsimp only at hlen ⊢
  rw [if_pos hpos.ne', hhash]
  generalize (if key.length > h.blockSize then h.hash key else key) = k at *
  rw [length_append, length_map, length_replicate] at hlen
  obtain ⟨a, b, spare, hparts, ha, hb⟩ := exists_parts s.hmacKey (i := k.length)
    (n := h.blockSize - k.length) (by omega)
  have hfirst : put (ρ := TpmRc) (a ++ b ++ spare) 0 k = .ok (k ++ (b ++ spare)) := by
    rw [append_assoc]
    exact put_start ha.symm
  have hfill := put_append (ρ := TpmRc) (a := k.map (· ^^^ 0x36)) (c := spare)
    (l := List.replicate (h.blockSize - k.length) 0x36) (length_map _).symm
    (length_replicate.trans hb.symm)
  refine ⟨spare, ?_⟩
  have hlen' : (k.map (· ^^^ 0x36) ++ List.replicate (h.blockSize - k.length) 0x36).length =
      h.blockSize := by rwa [length_append, length_map, length_replicate]
  rw [hparts, hfirst, ok_bind, mixLoop_replicate rfl, ok_bind, ← append_assoc, hfill, ok_bind,
    slice_front hlen'.symm, ok_bind, mixLoop_replicate hlen', ok_bind, cryptHashStart,
    cryptDigestUpdate_eq hpos (by decide), nil_append]
  rfl

end Sequence

/-- A sequence computes the HMAC of what it was given in its updates, cut to the size asked for. -/
theorem hmac_sequence (h : HashDef) (hpos : 0 < h.digestSize)
    (hblock : h.blockSize ≤ MAX_HASH_BLOCK_SIZE) (s : HmacState)
    (hbuffer : s.hmacKey.length = MAX_HASH_BLOCK_SIZE) (key : Bytes)
    (updates : List Bytes) (dOutSize : ℕ) :
    hmacSequence s h key updates dOutSize =
      .ok ((rfc2104 h key updates.flatten).take dOutSize) := by
  obtain ⟨spare, hstart⟩ := cryptHmacStart_eq hpos (hblock.trans_eq hbuffer.symm) key
  have hlen : ((hmacKey h key).map (· ^^^ (0x5C ^^^ 0x36))).length = h.blockSize :=
    (length_map _).trans (length_hmacKey key)
  unfold hmacSequence
  rw [hstart, ok_bind]
  dsimp only
  rw [foldl_cryptDigestUpdate hpos (by decide)]
  unfold cryptHmacEnd cryptHashStart
  dsimp only
  rw [if_neg hpos.ne', slice_front hlen.symm, ok_bind, hashEnd_hash hpos,
    cryptDigestUpdate_eq hpos (by decide), cryptDigestUpdate_eq hpos (by decide),
    take_of_length_le (h.length_hash _).le, ← cryptHmac_eq]
  exact congrArg Except.ok (hashEnd_hash hpos _ dOutSize)

/-- A checksum of one octet, over blocks of two. -/
def sumHash : HashDef where
  digestSize := 1
  blockSize := 2
  oid := []
  hash data := [data.sum]
  length_hash _ := rfl
  digestSize_le := by decide
  digestSize_le_blockSize := by decide

/-- A key longer than a block and two updates. -/
theorem hmac_sequence_sum :
    hmacSequence ⟨⟨sumHash, .empty, []⟩, 0, List.replicate 128 0⟩ sumHash [1, 2, 3]
      [[4], [5, 6]] 20 = .ok [43] :=
  (hmac_sequence sumHash (by decide) (by decide) _ rfl [1, 2, 3] [[4], [5, 6]] 20).trans rfl

end RfTpm.Hmac
