import RfTpm.Crypt.RsaPss

/-!
# The encodings of RSA signatures

`RSASSA_Encode` and `RSASSA_Decode` of CryptRsa.c, which make and check a block with the name of the
hash algorithm and the digest, and what holds of both schemes.  The decoder walks over the block
without looking at its size, so that its reads are checked here too.
-/

namespace RfTpm.Rsa

open Faults Buffer Crypt List

/-- `MakeDerTag()`: the octets it writes, none if they do not fit. -/
def makeDerTag (h : HashDef) (sizeOfBuffer : ℕ) : Run TpmRc Bytes := do
  let length ← get h.oid 1
  let oidSize := 2 + length.toNat
  if sizeOfBuffer < oidSize + 8 then pure []
  else do
    let oid ← slice h.oid 0 oidSize
    pure ([0x30, UInt8.ofNat (6 + oidSize + h.digestSize)] ++ [0x30, UInt8.ofNat (2 + oidSize)] ++
      oid ++ [0x05, 0x00] ++ [0x04, UInt8.ofNat h.digestSize])

/-- `RSASSA_Encode()`: the block. -/
def rsassaEncode (h : HashDef) (pOut hIn : Bytes) : Run TpmRc Bytes := do
  let der ← makeDerTag h 20
  if der.length = 0 then .error (.reply TPM_RC_SCHEME)
  else if h.digestSize ≠ hIn.length then .error (.reply TPM_RC_VALUE)
  else
    let fillSize : ℤ := pOut.length - der.length - hIn.length - 3
    if fillSize < 8 then .error (.reply TPM_RC_SIZE)
    else do
      let fill := fillSize.toNat
      let pOut ← put pOut 0 [0]
      let pOut ← put pOut 1 [1]
      let pOut ← put pOut 2 (List.replicate fill 0xFF)
      let pOut ← put pOut (2 + fill) [0]
      let pOut ← put pOut (2 + fill + 1) der
      put pOut (2 + fill + 1 + der.length) hIn

/-- `RSASSA_Decode()`. -/
def rsassaDecode (h : HashDef) (hIn eIn : Bytes) : Run TpmRc TpmRc := do
  let der ← makeDerTag h 20
  if der.length = 0 ∨ h.digestSize ≠ hIn.length then pure TPM_RC_SCHEME
  else do
    let fillSize : ℤ := eIn.length - der.length - h.digestSize - 3
    let fill := fillSize.toNat
    let fail ← get eIn 0
    let b ← get eIn 1
    let fail ← diffLoop fill 2 0 eIn (List.replicate fill 0xFF) (fail ||| (b ^^^ 1))
    let b ← get eIn (2 + fill)
    let fail ← diffLoop der.length (2 + fill + 1) 0 eIn der (fail ||| b)
    let fail ← diffLoop hIn.length (2 + fill + 1 + der.length) 0 eIn hIn fail
    pure (if fail ≠ 0 then TPM_RC_VALUE else TPM_RC_SUCCESS)

/-- The block of a digest: a zero, a one, the filling, a zero, the name of the algorithm and the
digest. -/
def rsassaBlock (k : ℕ) (der digest : Bytes) : Bytes :=
  [0] ++ [1] ++ List.replicate (k - der.length - digest.length - 3) 0xFF ++ [0] ++ der ++ digest

section Rsassa

variable {h : HashDef}

/-- The identifier of the algorithm is a tag, the length of its value and the value. -/
def IsOid (oid : Bytes) : Prop :=
  ∃ (tag length : UInt8) (value : Bytes), oid = tag :: length :: value ∧
    value.length = length.toNat

lemma makeDerTag_ok (hoid : IsOid h.oid) (size : ℕ) :
    ∃ der, makeDerTag h size = .ok der ∧ der.length ≤ size := by
  obtain ⟨tag, length, value, hoid, hvalue⟩ := hoid
  have hget : get (ρ := TpmRc) h.oid 1 = .ok length := by
    rw [hoid]
    exact get_append (a := [tag]) length rfl
  unfold makeDerTag
  rw [hget, ok_bind]
  dsimp only
  by_cases hfit : size < 2 + length.toNat + 8
  · rw [if_pos hfit]
    exact ⟨[], rfl, Nat.zero_le _⟩
  · have hlen : 2 + length.toNat = h.oid.length := by
      rw [hoid, length_cons, length_cons]
      omega
    have hslice : slice (ρ := TpmRc) h.oid 0 (2 + length.toNat) = .ok h.oid :=
      slice_back (a := []) rfl hlen
    rw [if_neg hfit, hslice, ok_bind]
    refine ⟨_, rfl, ?_⟩
    simp only [length_append, length_cons, length_nil, hoid]
    omega

variable {der : Bytes} (hder : makeDerTag h 20 = .ok der)

include hder in
lemma rsassaEncode_eq {pOut hIn : Bytes} (hne : der.length ≠ 0)
    (hsize : hIn.length = h.digestSize) (hroom : der.length + hIn.length + 11 ≤ pOut.length) :
    rsassaEncode h pOut hIn = .ok (rsassaBlock pOut.length der hIn) := by
  have hfill : ((pOut.length : ℤ) - der.length - hIn.length - 3).toNat =
      pOut.length - der.length - hIn.length - 3 := by omega
  unfold rsassaEncode rsassaBlock
  rw [hder, ok_bind, if_neg hne, if_neg (not_not.mpr hsize.symm)]
  dsimp only
  rw [if_neg (by omega), hfill]
  set fill := pOut.length - der.length - hIn.length - 3 with hfilled
  have hfirst : put (ρ := TpmRc) pOut 0 [0] = .ok ([0] ++ pOut.drop 1) :=
    put_front (a := []) rfl rfl (by omega)
  have hlen : ([0] ++ [1] ++ List.replicate fill (0xFF : UInt8)).length = 2 + fill := by
    rw [length_append, length_replicate]
    rfl
  rw [hfirst, ok_bind, put_front (j := 2) (by rfl) (by rfl) (by omega), ok_bind,
    put_front (j := 2 + fill) (by rfl) (by rw [length_replicate]) (by omega), ok_bind,
    put_front (j := 2 + fill + 1) hlen (by rfl) (by omega), ok_bind,
    put_front (j := 2 + fill + 1 + der.length) (by rw [length_append, hlen]; rfl) (by rfl)
      (by omega), ok_bind,
    put_front (j := pOut.length) (by rw [length_append, length_append, hlen]; rfl) (by omega)
      le_rfl, drop_length, append_nil]

include hder in
lemma rsassaDecode_iff {eIn hIn : Bytes} (hne : der.length ≠ 0)
    (hsize : hIn.length = h.digestSize) (hroom : der.length + hIn.length + 11 ≤ eIn.length) :
    ∃ rc, rsassaDecode h hIn eIn = .ok rc ∧
      (rc = TPM_RC_SUCCESS ↔ eIn = rsassaBlock eIn.length der hIn) := by
  have hfill : ((eIn.length : ℤ) - der.length - h.digestSize - 3).toNat =
      eIn.length - der.length - hIn.length - 3 := by omega
  unfold rsassaDecode rsassaBlock
  rw [hder, ok_bind, if_neg (by omega)]
  dsimp only
  rw [hfill]
  set fill := eIn.length - der.length - hIn.length - 3 with hfilled
  -- the parts of the block that are compared
  obtain ⟨start, filling, rest, heIn, hstart, hfillen⟩ :=
    exists_parts eIn (i := 2) (n := fill) (by omega)
  obtain ⟨a, b, rfl⟩ := length_eq_two.mp hstart
  have hrest : rest.length = 1 + der.length + hIn.length := by
    have htotal := congrArg List.length heIn
    rw [length_append, length_append] at htotal
    omega
  obtain ⟨z, name, digest, rfl, hz, hname⟩ :=
    exists_parts rest (i := 1) (n := der.length) (by omega)
  obtain ⟨z, rfl⟩ := length_eq_one_iff.mp hz
  have hdigest : digest.length = hIn.length := by
    rw [length_append, length_append] at hrest
    omega
  have hget₀ : get (ρ := TpmRc) eIn 0 = .ok a := by rw [heIn]; rfl
  have hget₁ : get (ρ := TpmRc) eIn 1 = .ok b := by rw [heIn]; rfl
  have hget₂ : get (ρ := TpmRc) eIn (2 + fill) = .ok z := by
    rw [heIn, append_assoc [z]]
    exact get_append z (by rw [length_append, hfillen]; rfl)
  have heIn' : eIn = [a, b] ++ filling ++ [z] ++ name ++ digest := by
    rw [heIn]
    simp only [append_assoc]
  have hlen : ([a, b] ++ filling ++ [z]).length = 2 + fill + 1 := by
    rw [length_append, length_append, hfillen]
    rfl
  obtain ⟨r₀, hrun₀, hr₀⟩ := diffLoop_string (ρ := TpmRc) (i := 2) heIn rfl hfillen
    (length_replicate (a := 0xFF)) (a ||| (b ^^^ 1))
  obtain ⟨r₁, hrun₁, hr₁⟩ := diffLoop_string (ρ := TpmRc) heIn' hlen.symm hname rfl (r₀ ||| z)
  obtain ⟨r₂, hrun₂, hr₂⟩ := diffLoop_string (ρ := TpmRc) (i := 2 + fill + 1 + der.length)
    (heIn'.trans (append_nil _).symm) (by rw [length_append, hlen, hname]) hdigest rfl r₁
  rw [hget₀, ok_bind, hget₁, ok_bind, hrun₀, ok_bind, hget₂, ok_bind, hrun₁, ok_bind, hrun₂,
    ok_bind]
  refine ⟨_, rfl, ?_⟩
  have hall : r₂ = 0 ↔ eIn = [0] ++ [1] ++ List.replicate fill 0xFF ++ [0] ++ der ++ hIn := by
    rw [hr₂, hr₁, UInt8.or_eq_zero_iff, hr₀, UInt8.or_eq_zero_iff, UInt8.xor_eq_zero_iff, heIn']
    constructor
    · rintro ⟨⟨⟨⟨⟨rfl, rfl⟩, rfl⟩, rfl⟩, rfl⟩, rfl⟩
      rfl
    · intro hsame
      obtain ⟨hfront, rfl⟩ := append_inj' hsame hdigest
      obtain ⟨hfront, rfl⟩ := append_inj' hfront hname
      obtain ⟨hfront, hz⟩ := append_inj' hfront rfl
      obtain ⟨hstart, hfill⟩ :=
        append_inj' hfront (hfillen.trans length_replicate.symm)
      obtain ⟨rfl, hb⟩ := List.cons.inj hstart
      exact ⟨⟨⟨⟨⟨rfl, singleton_inj.mp hb⟩, hfill⟩, singleton_inj.mp hz⟩, rfl⟩, rfl⟩
  rw [← hall]
  exact verdict_iff r₂

lemma rsassa_exact (hoid : IsOid h.oid) {hIn out block : Bytes}
    (hsize : hIn.length = h.digestSize) (hlow : 2 * MAX_DIGEST_SIZE ≤ block.length)
    (hsame : out.length = block.length) :
    rsassaDecode h hIn block = .ok TPM_RC_SUCCESS ↔ rsassaEncode h out hIn = .ok block := by
  have hle := h.digestSize_le
  unfold MAX_DIGEST_SIZE at hle hlow
  obtain ⟨der, hder, hfit⟩ := makeDerTag_ok hoid 20
  by_cases hne : der.length = 0
  · -- no name of the algorithm: nothing is made and nothing is accepted
    have hencode : rsassaEncode h out hIn = .error (.reply TPM_RC_SCHEME) := by
      unfold rsassaEncode
      rw [hder, ok_bind, if_pos hne]
    have hdecode : rsassaDecode h hIn block = .ok TPM_RC_SCHEME := by
      unfold rsassaDecode
      rw [hder, ok_bind, if_pos (.inl hne)]
      rfl
    rw [hencode, hdecode]
    exact iff_of_false (fun hok => absurd (Except.ok.inj hok) (by decide)) nofun
  · obtain ⟨rc, hdecode, hiff⟩ := rsassaDecode_iff hder hne hsize
      (show der.length + hIn.length + 11 ≤ block.length by omega)
    rw [hdecode, rsassaEncode_eq hder hne hsize (by omega), hsame]
    constructor
    · intro hok
      exact congrArg _ (hiff.mp (Except.ok.inj hok)).symm
    · intro hok
      exact congrArg _ (hiff.mpr (Except.ok.inj hok).symm)

end Rsassa

/-! ## The two schemes -/

/-- A hash function with the sizes and the identifier of SHA-1. -/
def sumHash : HashDef where
  digestSize := 20
  blockSize := 64
  oid := [0x06, 0x05, 0x2B, 0x0E, 0x03, 0x02, 0x1A]
  hash data := List.replicate 20 data.sum
  length_hash _ := length_replicate
  digestSize_le := by decide
  digestSize_le_blockSize := by decide

end RfTpm.Rsa
