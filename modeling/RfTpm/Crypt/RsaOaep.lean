import RfTpm.Crypt.RsaPadding

/-!
# The padding of OAEP

`OaepEncode` and `OaepDecode` of CryptRsa.c.  The data of a block is the hash of a label, zeros, a
one and the message.  It is mixed with a mask that is generated from a random seed, and the seed
with a mask that is generated from the result, so the decoder takes the masks off in the opposite
order, each over the buffer that holds the mask.
-/

namespace RfTpm.Rsa

open Faults Buffer Crypt Cbc List


/-- `OaepEncode()`. -/
def oaepEncode (h : HashDef) (label : Bytes) : Encoder := fun padded message rand failed =>
  let hLen := h.digestSize
  if hLen = 0 then .error (.reply TPM_RC_VALUE)
  else if padded.length < 2 * hLen + 2 then .error (.reply TPM_RC_HASH)
  else if (message.length : ℤ) > padded.length - 2 * hLen - 2 then .error (.reply TPM_RC_VALUE)
  else do
    let pp := hLen + 1
    let padded ← put padded pp (h.hash label)
    if (h.hash label).length ≠ hLen then .error (.reply TPM_RC_FAILURE)
    else do
      let padLen := padded.length - message.length - 2 * hLen - 2
      let padded ← put padded (pp + hLen) (List.replicate padLen 0)
      let padded ← put padded (pp + hLen + padLen) [0x01]
      let padded ← put padded (pp + hLen + (padLen + 1)) message
      let dbSize := hLen + (padLen + 1) + message.length
      let seed := drbgGenerate rand hLen
      if failed then .error (.reply TPM_RC_FAILURE)
      else do
        let mask ← put (List.replicate MAX_RSA_KEY_BYTES 0) 0 (cryptMGFKDF h dbSize seed 0).2
        let padded ← mixLoop dbSize pp 0 padded mask
        let db ← slice padded pp dbSize
        let padded ← put padded 1 (cryptMGFKDF h hLen db 0).2
        if (cryptMGFKDF h hLen db 0).1 ≠ hLen then .error (.reply TPM_RC_VALUE)
        else do
          let padded ← mixLoop hLen 1 0 padded seed
          put padded 0 [0x00]

/-- The loop of `OaepDecode()` that looks for the first octet that is not zero: what is left with
it, and the place behind it. -/
def findNonzero (mask : Bytes) : ℕ → ℕ → Run TpmRc (ℕ × ℕ)
  | 0, pm => pure (0, pm)
  | i + 1, pm => do
    let b ← get mask pm
    if b ≠ 0 then pure (i + 1, pm + 1) else findNonzero mask i (pm + 1)

/-- The end of `OaepDecode()`, once the data is recovered. -/
def oaepMessage (hLen size : ℕ) (mask : Bytes) (dataOut : Tpm2b) :
    Run TpmRc (TpmRc × Tpm2b) := do
  let (i, pm) ← findNonzero mask (size - 2 * hLen - 1) hLen
  if i = 0 then pure (TPM_RC_VALUE, { dataOut with size := 0 })
  else do
    let b ← get mask (pm - 1)
    if b ≠ 0x01 then pure (TPM_RC_VALUE, { dataOut with size := 0 })
    else if i - 1 > dataOut.size then pure (TPM_RC_VALUE, dataOut)
    else do
      let data ← slice mask pm (i - 1)
      let buffer ← put dataOut.buffer 0 data
      pure (TPM_RC_SUCCESS, ⟨i - 1, buffer⟩)

/-- `OaepDecode()`. -/
def oaepDecode (h : HashDef) (label : Bytes) : Decoder := fun dataOut padded =>
  let hLen := h.digestSize
  if padded.length < 2 * hLen + 2 then pure (TPM_RC_VALUE, { dataOut with size := 0 })
  else do
    let first ← get padded 0
    if first ≠ 0 then pure (TPM_RC_VALUE, { dataOut with size := 0 })
    else do
      let dbSize := padded.length - hLen - 1
      let db ← slice padded (hLen + 1) dbSize
      let seedMask ← put (List.replicate MAX_DIGEST_SIZE 0) 0 (cryptMGFKDF h hLen db 0).2
      let seedMask ← mixLoop hLen 0 1 seedMask padded
      let seed ← slice seedMask 0 hLen
      let mask ← put (List.replicate MAX_RSA_KEY_BYTES 0) 0 (cryptMGFKDF h dbSize seed 0).2
      let mask ← mixLoop dbSize 0 (hLen + 1) mask padded
      let seedMask ← put seedMask 0 (h.hash label)
      let expected ← slice seedMask 0 hLen
      let found ← slice mask 0 hLen
      if expected ≠ found then pure (TPM_RC_VALUE, { dataOut with size := 0 })
      else oaepMessage hLen padded.length mask dataOut

/-! ## The format -/

/-- The mask of a seed. -/
def mgf (h : HashDef) (n : ℕ) (seed : Bytes) : Bytes := (cryptMGFKDF h n seed 0).2

/-- The data of a message. -/
def oaepData (h : HashDef) (label : Bytes) (zeros : ℕ) (message : Bytes) : Bytes :=
  h.hash label ++ List.replicate zeros 0 ++ 0x01 :: message

/-- The data under the masks. -/
def oaepUnmask (h : HashDef) (maskedSeed maskedDb : Bytes) : Bytes :=
  mix (mgf h maskedDb.length (mix (mgf h h.digestSize maskedDb) maskedSeed)) maskedDb

/-- The block is a zero, a seed and data, both masked: the hash of the label, zeros, a one and the
message. -/
def OaepFormat (h : HashDef) (label block message : Bytes) : Prop :=
  ∃ (maskedSeed maskedDb : Bytes) (zeros : ℕ), block = [0x00] ++ maskedSeed ++ maskedDb ∧
    maskedSeed.length = h.digestSize ∧
    oaepUnmask h maskedSeed maskedDb = oaepData h label zeros message

lemma OaepFormat.unique (h : HashDef) (label block message message' : Bytes)
    (hformat : OaepFormat h label block message) (hformat' : OaepFormat h label block message') :
    message = message' := by
  obtain ⟨seed, db, zeros, rfl, hseed, hdata⟩ := hformat
  obtain ⟨seed', db', zeros', hsame, hseed', hdata'⟩ := hformat'
  rw [append_assoc, append_assoc] at hsame
  obtain ⟨rfl, rfl⟩ := append_inj (append_cancel_left hsame) (hseed.trans hseed'.symm)
  have hboth := hdata.symm.trans hdata'
  unfold oaepData at hboth
  rw [append_assoc, append_assoc] at hboth
  exact (zeros_unique (by decide) (by decide) (append_cancel_left hboth)).2

/-! ## The decoder -/

lemma oaepMessage_spec {hLen size : ℕ} {a l c : Bytes} (ha : a.length = hLen)
    (hl : l.length = size - 2 * hLen - 1) {dataOut : Tpm2b}
    (hbuffer : dataOut.size ≤ dataOut.buffer.length) :
    (∃ zeros message, l = List.replicate zeros 0 ++ 0x01 :: message ∧
      message.length ≤ dataOut.size ∧
      oaepMessage hLen size (a ++ l ++ c) dataOut = .ok (TPM_RC_SUCCESS, dataOut.with message)) ∨
    ((∀ zeros message, l = List.replicate zeros 0 ++ 0x01 :: message →
        dataOut.size < message.length) ∧
      ∃ n, oaepMessage hLen size (a ++ l ++ c) dataOut =
        .ok (TPM_RC_VALUE, { dataOut with size := n })) := by
  subst ha
  unfold oaepMessage
  rw [← hl]
  obtain ⟨s, b, rest, hparts, hs, hb, hrun⟩ | ⟨hzeros, hrun⟩ :=
    scan_spec (f := findNonzero (a ++ l ++ c)) (g := fun i pm => (i + 1, pm + 1)) (q := (· ≠ 0))
      (fun _ _ => rfl) rfl
  · obtain ⟨zeros, rfl⟩ : ∃ zeros, s = List.replicate zeros 0 :=
      ⟨_, eq_replicate_of_mem fun y hy => not_not.mp (hs y hy)⟩
    rw [length_replicate] at hrun
    have hget : get (ρ := TpmRc) (a ++ l ++ c) (a.length + zeros + 1 - 1) = .ok b := by
      have hsplit : a ++ l ++ c = (a ++ List.replicate zeros 0) ++ b :: (rest ++ c) := by
        rw [hparts]
        simp
      rw [hsplit]
      exact get_append b (by rw [length_append, length_replicate]; rfl)
    rw [hrun, ok_bind]
    dsimp only
    rw [if_neg (Nat.succ_ne_zero _), hget, ok_bind]
    by_cases hone : b = 0x01
    · subst hone
      rw [if_neg (not_not.mpr rfl), Nat.add_sub_cancel]
      by_cases hroom : rest.length ≤ dataOut.size
      · have hslice : slice (ρ := TpmRc) (a ++ l ++ c) (a.length + zeros + 1) rest.length =
            .ok rest := by
          have hsplit : a ++ l ++ c = (a ++ List.replicate zeros 0 ++ [0x01]) ++ rest ++ c := by
            rw [hparts]
            simp
          rw [hsplit]
          refine slice_append ?_ rfl
          rw [length_append, length_append, length_replicate]
          rfl
        refine .inl ⟨zeros, rest, hparts, hroom, ?_⟩
        rw [if_neg (Nat.not_lt.mpr hroom), hslice, ok_bind, put_tpm2b hbuffer hroom]
        rfl
      · refine .inr ⟨fun zeros' message hsame => ?_, dataOut.size, ?_⟩
        · obtain rfl := (zeros_unique (by decide) (by decide) (hparts.symm.trans hsame)).2
          exact Nat.lt_of_not_le hroom
        · rw [if_pos (Nat.lt_of_not_le hroom)]
          rfl
    · rw [if_pos hone]
      refine .inr ⟨fun zeros' message hsame => ?_, 0, rfl⟩
      exact absurd (zeros_unique hb (by decide) (hparts.symm.trans hsame)).1 hone
  · rw [hrun]
    refine .inr ⟨fun zeros message hsame => ?_, 0, rfl⟩
    have hmem : (0x01 : UInt8) ∈ l := by
      rw [hsame]
      exact mem_append_right _ mem_cons_self
    exact absurd (by decide) (hzeros _ hmem)

section Decode

variable {h : HashDef} (hpos : 0 < h.digestSize)

include hpos in
lemma length_mgf (n : ℕ) (seed : Bytes) : (mgf h n seed).length = n :=
  length_cryptMGFKDF hpos seed n

include hpos in
lemma length_oaepUnmask (maskedSeed maskedDb : Bytes) :
    (oaepUnmask h maskedSeed maskedDb).length = maskedDb.length := by
  unfold oaepUnmask
  rw [length_mix (length_mgf hpos _ _), length_mgf hpos]

lemma length_oaepData (label : Bytes) (zeros : ℕ) (message : Bytes) :
    (oaepData h label zeros message).length = h.digestSize + zeros + (message.length + 1) := by
  unfold oaepData
  rw [length_append, length_append, h.length_hash, length_replicate,
    length_cons]

include hpos in
lemma put_mgf {size n : ℕ} (hsize : n ≤ size) (seed : Bytes) :
    put (ρ := TpmRc) (List.replicate size 0) 0 (cryptMGFKDF h n seed 0).2 =
      .ok (mgf h n seed ++ List.replicate (size - n) 0) := by
  have hsplit : List.replicate size (0 : UInt8) =
      List.replicate n 0 ++ List.replicate (size - n) 0 := by
    rw [replicate_append_replicate, Nat.add_sub_cancel' hsize]
  rw [hsplit]
  exact put_start ((length_mgf hpos n seed).trans length_replicate.symm)

include hpos in
lemma mixLoop_mgf {n i : ℕ} {a part : Bytes} (hi : i = a.length) (hpart : part.length = n)
    (c seed spare : Bytes) :
    mixLoop (ρ := TpmRc) n 0 i (mgf h n seed ++ spare) (a ++ part ++ c) =
      .ok (mix (mgf h n seed) part ++ spare) :=
  mixLoop_append (a := []) rfl hi (length_mgf hpos n seed) hpart

variable {maskedSeed maskedDb found rest : Bytes}

lemma oaepFormat_iff {first : UInt8} (hseed : maskedSeed.length = h.digestSize)
    (hfound : found.length = h.digestSize)
    (hdata : oaepUnmask h maskedSeed maskedDb = found ++ rest) (label message : Bytes) :
    OaepFormat h label ([first] ++ maskedSeed ++ maskedDb) message ↔
      first = 0x00 ∧ h.hash label = found ∧
        ∃ zeros, rest = List.replicate zeros 0 ++ 0x01 :: message := by
  constructor
  · rintro ⟨seed', db', zeros, hsame, hseed', hdata'⟩
    rw [append_assoc, append_assoc] at hsame
    obtain ⟨hfirst, hmasked⟩ := append_inj hsame rfl
    obtain ⟨rfl, rfl⟩ := append_inj hmasked (hseed.trans hseed'.symm)
    unfold oaepData at hdata'
    rw [hdata, append_assoc] at hdata'
    obtain ⟨hhash, hrest⟩ := append_inj hdata' (hfound.trans (h.length_hash label).symm)
    exact ⟨singleton_inj.mp hfirst, hhash.symm, zeros, hrest⟩
  · rintro ⟨rfl, rfl, zeros, rfl⟩
    refine ⟨maskedSeed, maskedDb, zeros, rfl, hseed, ?_⟩
    unfold oaepData
    rw [hdata, append_assoc]

include hpos in
lemma oaepDecode_eq {first : UInt8} (hseed : maskedSeed.length = h.digestSize)
    (hfound : found.length = h.digestSize)
    (hdata : oaepUnmask h maskedSeed maskedDb = found ++ rest)
    (hlow : h.digestSize + 1 ≤ maskedDb.length) (hhigh : maskedDb.length ≤ MAX_RSA_KEY_BYTES)
    (label : Bytes) (dataOut : Tpm2b) :
    oaepDecode h label dataOut ([first] ++ maskedSeed ++ maskedDb) =
      if first ≠ 0 ∨ h.hash label ≠ found then .ok (TPM_RC_VALUE, { dataOut with size := 0 })
      else oaepMessage h.digestSize (1 + h.digestSize + maskedDb.length)
        (found ++ rest ++ List.replicate (MAX_RSA_KEY_BYTES - maskedDb.length) 0) dataOut := by
  have hplace : ([first] ++ maskedSeed).length = h.digestSize + 1 := by
    rw [length_append, hseed, length_singleton, Nat.add_comm]
  have hlen : ([first] ++ maskedSeed ++ maskedDb).length =
      1 + h.digestSize + maskedDb.length := by
    rw [length_append, hplace, Nat.add_comm 1]
  have hdb : 1 + h.digestSize + maskedDb.length - h.digestSize - 1 = maskedDb.length := by omega
  set seed := mix (mgf h h.digestSize maskedDb) maskedSeed with hseeddef
  have hseedlen : seed.length = h.digestSize :=
    (length_mix ((length_mgf hpos _ _).trans hseed.symm)).trans (length_mgf hpos _ _)
  have hunmask : mix (mgf h maskedDb.length seed) maskedDb = found ++ rest := hdata
  have hmix := mixLoop_mgf hpos hplace.symm (Eq.refl maskedDb.length) [] seed
    (List.replicate (MAX_RSA_KEY_BYTES - maskedDb.length) 0)
  rw [append_nil, hunmask, append_assoc found] at hmix
  unfold oaepDecode
  dsimp only
  rw [hlen, if_neg (by omega), show get (ρ := TpmRc) ([first] ++ _ ++ _) 0 = .ok first from rfl,
    ok_bind]
  by_cases hfirst : first = 0
  · have hcond : (first ≠ 0 ∨ h.hash label ≠ found) ↔ h.hash label ≠ found :=
      or_iff_right (not_not.mpr hfirst)
    -- the seed is recovered into one buffer, the data into another
    rw [if_neg (not_not.mpr hfirst), hdb, slice_back hplace.symm rfl, ok_bind,
      put_mgf hpos h.digestSize_le, ok_bind, mixLoop_mgf hpos (length_singleton (a := first)).symm
        hseed, ok_bind, ← hseeddef,
      slice_front hseedlen.symm, ok_bind, put_mgf hpos hhigh, ok_bind, hmix, ok_bind]
    -- the hash of the label takes the place of the seed
    rw [put_start ((h.length_hash label).trans hseedlen.symm), ok_bind,
      slice_front (h.length_hash label).symm, ok_bind, slice_front hfound.symm, ok_bind,
      ← append_assoc]
    by_cases hhash : h.hash label = found
    · rw [if_neg (not_not.mpr hhash), if_neg (hcond.not.mpr (not_not.mpr hhash))]
    · rw [if_pos hhash, if_pos (hcond.mpr hhash)]
      rfl
  · rw [if_pos hfirst, if_pos (.inl hfirst)]
    rfl

include hpos in
lemma decodes_oaepDecode (label : Bytes) {k : ℕ} (hhigh : k ≤ MAX_RSA_KEY_BYTES) :
    Decodes k (oaepDecode h label) (OaepFormat h label) := by
  rintro block dataOut rfl hbuffer
  by_cases hsmall : block.length < 2 * h.digestSize + 2
  · -- a block with the format is longer
    refine .inr ⟨?_, 0, ?_⟩
    · rintro message ⟨seed, db, zeros, rfl, hseed, hdata⟩
      have hlen := congrArg List.length hdata
      rw [length_oaepUnmask hpos, length_oaepData] at hlen
      rw [length_append, length_append, hseed, length_singleton] at hsmall
      omega
    · unfold oaepDecode
      dsimp only
      rw [if_pos hsmall]
      rfl
  obtain ⟨start, maskedSeed, maskedDb, rfl, hstart, hseed⟩ :=
    exists_parts block (i := 1) (n := h.digestSize) (by omega)
  obtain ⟨first, rfl⟩ := length_eq_one_iff.mp hstart
  have hlen : ([first] ++ maskedSeed ++ maskedDb).length =
      1 + h.digestSize + maskedDb.length := by
    rw [length_append, length_append, hseed, length_singleton]
  rw [hlen] at hhigh hsmall
  have hunmasklen := length_oaepUnmask hpos maskedSeed maskedDb
  obtain ⟨found, rest, hdata, hfound⟩ :=
    exists_front (oaepUnmask h maskedSeed maskedDb) (n := h.digestSize) (by omega)
  have hrest : rest.length = 1 + h.digestSize + maskedDb.length - 2 * h.digestSize - 1 := by
    rw [hdata, length_append] at hunmasklen
    omega
  rw [oaepDecode_eq hpos hseed hfound hdata (by omega) (by omega)]
  by_cases hgood : first ≠ 0 ∨ h.hash label ≠ found
  · rw [if_pos hgood]
    refine .inr ⟨fun message hformat => ?_, 0, rfl⟩
    obtain ⟨hfirst, hhash, -⟩ := (oaepFormat_iff hseed hfound hdata label message).mp hformat
    exact absurd hgood (not_or.mpr ⟨not_not.mpr hfirst, not_not.mpr hhash⟩)
  · rw [if_neg hgood]
    obtain ⟨hfirst, hhash⟩ := not_or.mp hgood
    obtain ⟨zeros, message, hrest', hroom, hrun⟩ | ⟨hnone, n, hrun⟩ :=
      oaepMessage_spec hfound hrest hbuffer
        (c := List.replicate (MAX_RSA_KEY_BYTES - maskedDb.length) 0)
    · refine .inl ⟨message, ?_, hroom, hrun⟩
      exact (oaepFormat_iff hseed hfound hdata label message).mpr
        ⟨not_not.mp hfirst, not_not.mp hhash, zeros, hrest'⟩
    · refine .inr ⟨fun message hformat => ?_, n, hrun⟩
      obtain ⟨-, -, zeros, hrest'⟩ := (oaepFormat_iff hseed hfound hdata label message).mp hformat
      exact hnone zeros message hrest'

end Decode

/-! ## The encoder -/

section Encode

variable {h : HashDef} (hpos : 0 < h.digestSize)

/-- The data and its mask. -/
def oaepMasked (h : HashDef) (seed data : Bytes) : Bytes :=
  mix data (mgf h data.length seed)

variable {padded message : Bytes}

lemma put_oaepData {zeros : ℕ} (label : Bytes)
    (hsize : padded.length = h.digestSize + 1 + h.digestSize + (zeros + 1) + message.length) :
    ∃ start, start.length = h.digestSize + 1 ∧ ∃ buf₁ buf₂ buf₃,
      put (ρ := TpmRc) padded (h.digestSize + 1) (h.hash label) = .ok buf₁ ∧
      buf₁.length = padded.length ∧
      put (ρ := TpmRc) buf₁ (h.digestSize + 1 + h.digestSize) (List.replicate zeros 0) = .ok buf₂ ∧
      put (ρ := TpmRc) buf₂ (h.digestSize + 1 + h.digestSize + zeros) [0x01] = .ok buf₃ ∧
      put (ρ := TpmRc) buf₃ (h.digestSize + 1 + h.digestSize + (zeros + 1)) message =
        .ok (start ++ oaepData h label zeros message) := by
  have hstart : (padded.take (h.digestSize + 1)).length = h.digestSize + 1 :=
    length_take_of_le (by omega)
  set start := padded.take (h.digestSize + 1) with hstartdef
  have hpadded : padded = start ++ padded.drop (h.digestSize + 1) :=
    (take_append_drop _ _).symm
  have hhash : (start ++ h.hash label).length = h.digestSize + 1 + h.digestSize := by
    rw [length_append, hstart, h.length_hash]
  have hzeros : (start ++ h.hash label ++ List.replicate zeros 0).length =
      h.digestSize + 1 + h.digestSize + zeros := by
    rw [length_append, hhash, length_replicate]
  have hone : (start ++ h.hash label ++ List.replicate zeros 0 ++ [0x01]).length =
      h.digestSize + 1 + h.digestSize + (zeros + 1) := by
    rw [length_append, hzeros]
    rfl
  refine ⟨start, hstart, start ++ h.hash label ++ padded.drop (h.digestSize + 1 + h.digestSize),
    start ++ h.hash label ++ List.replicate zeros 0 ++
      padded.drop (h.digestSize + 1 + h.digestSize + zeros),
    start ++ h.hash label ++ List.replicate zeros 0 ++ [0x01] ++
      padded.drop (h.digestSize + 1 + h.digestSize + (zeros + 1)), ?_, ?_, ?_, ?_, ?_⟩
  · conv_lhs => rw [hpadded]
    exact put_front hstart (by rw [h.length_hash]) (by omega)
  · rw [length_append, hhash, length_drop]
    omega
  · exact put_front hhash (by rw [length_replicate]) (by omega)
  · exact put_front hzeros rfl (by omega)
  · have hmessage : put (ρ := TpmRc) (start ++ h.hash label ++ List.replicate zeros 0 ++ [0x01] ++
        padded.drop (h.digestSize + 1 + h.digestSize + (zeros + 1)))
        (h.digestSize + 1 + h.digestSize + (zeros + 1)) message =
          .ok (start ++ h.hash label ++ List.replicate zeros 0 ++ [0x01] ++ message ++
            padded.drop padded.length) := put_front hone hsize.symm le_rfl
    rw [hmessage, drop_length]
    unfold oaepData
    simp only [append_assoc, append_nil, singleton_append]

include hpos in
lemma oaepEncode_eq (label : Bytes) (rand : ℕ → UInt8) (failed : Bool)
    (hroom : message.length + (2 * h.digestSize + 2) ≤ padded.length)
    (hhigh : padded.length ≤ MAX_RSA_KEY_BYTES) :
    ∃ zeros, padded.length = h.digestSize + 1 + h.digestSize + (zeros + 1) + message.length ∧
      oaepEncode h label padded message rand failed =
        if failed then .error (.reply TPM_RC_FAILURE)
        else
          let seed := drbgGenerate rand h.digestSize
          let maskedDb := oaepMasked h seed (oaepData h label zeros message)
          .ok ([0x00] ++ mix (mgf h h.digestSize maskedDb) seed ++ maskedDb) := by
  set zeros := padded.length - message.length - 2 * h.digestSize - 2 with hzerosdef
  have hsize : padded.length = h.digestSize + 1 + h.digestSize + (zeros + 1) + message.length := by
    omega
  refine ⟨zeros, hsize, ?_⟩
  obtain ⟨start, hstart, buf₁, buf₂, buf₃, hput₁, hlen₁, hput₂, hput₃, hput₄⟩ :=
    put_oaepData label hsize
  have hdatalen : (oaepData h label zeros message).length =
      h.digestSize + (zeros + 1) + message.length := by
    rw [length_oaepData]
    omega
  set data := oaepData h label zeros message
  set seed := drbgGenerate rand h.digestSize with hseed
  have hseedlen : seed.length = h.digestSize := length_drbgGenerate _ _
  -- the data is masked where it is
  have hmgflen := length_mgf hpos data.length seed
  have hmask := put_mgf hpos (show data.length ≤ MAX_RSA_KEY_BYTES by omega) seed
  set spare := List.replicate (MAX_RSA_KEY_BYTES - data.length) (0 : UInt8)
  have hmix : mixLoop (ρ := TpmRc) data.length (h.digestSize + 1) 0 (start ++ data ++ [])
      (mgf h data.length seed ++ spare) = .ok (start ++ oaepMasked h seed data ++ []) :=
    mixLoop_append (d := []) hstart.symm rfl rfl hmgflen
  have hmaskedlen : (oaepMasked h seed data).length = data.length := length_mix hmgflen.symm
  set maskedDb := oaepMasked h seed data
  rw [append_nil, append_nil] at hmix
  -- the seed is masked with what was made of the data
  obtain ⟨first, place, rfl⟩ := exists_cons_of_length_eq_add_one hstart
  have hplace : place.length = h.digestSize := Nat.succ.inj hstart
  have hmgf := length_mgf hpos h.digestSize maskedDb
  have hput₅ : put (ρ := TpmRc) (first :: place ++ maskedDb) 1 (mgf h h.digestSize maskedDb) =
      .ok ([first] ++ mgf h h.digestSize maskedDb ++ maskedDb) :=
    put_append (a := [first]) rfl (hmgf.trans hplace.symm)
  have hmix₅ : mixLoop (ρ := TpmRc) h.digestSize 1 0
      ([first] ++ mgf h h.digestSize maskedDb ++ maskedDb) ([] ++ seed ++ []) =
        .ok ([first] ++ mix (mgf h h.digestSize maskedDb) seed ++ maskedDb) :=
    mixLoop_append (by rfl) (by rfl) hmgf hseedlen
  have hcount : (cryptMGFKDF h h.digestSize maskedDb 0).1 = h.digestSize := by
    have hle := h.digestSize_le
    unfold MAX_DIGEST_SIZE at hle
    exact cryptMGFKDF_size hpos maskedDb (by omega)
  rw [append_nil, nil_append] at hmix₅
  unfold oaepEncode
  dsimp only
  rw [if_neg (by omega), if_neg (by omega), if_neg (by omega), hput₁, ok_bind, h.length_hash,
    if_neg (fun hne => hne rfl), hlen₁, ← hzerosdef, hput₂, ok_bind, hput₃, ok_bind, hput₄, ok_bind,
    ← hdatalen, ← hseed]
  cases failed with
  | true => rfl
  | false =>
    rw [if_neg Bool.false_ne_true, if_neg Bool.false_ne_true, hmask, ok_bind, hmix, ok_bind,
      slice_back hstart.symm hmaskedlen.symm, ok_bind,
      show (cryptMGFKDF h h.digestSize maskedDb 0).2 = mgf h h.digestSize maskedDb from rfl, hput₅,
      ok_bind, hcount, if_neg (fun hne => hne rfl), hmix₅, ok_bind]
    exact put_start (b := [first]) rfl

include hpos in
lemma encodes_oaepEncode (label : Bytes) {k : ℕ} (hhigh : k ≤ MAX_RSA_KEY_BYTES) :
    Encodes k (2 * h.digestSize + 2) (oaepEncode h label) (OaepFormat h label) := by
  rintro padded message rand failed rfl
  by_cases hroom : message.length + (2 * h.digestSize + 2) ≤ padded.length
  · obtain ⟨zeros, hsize, hrun⟩ := oaepEncode_eq hpos label rand failed hroom hhigh
    cases failed with
    | true => exact .inr ⟨.inr rfl, _, hrun⟩
    | false =>
      refine .inl ⟨hroom, rfl, _, hrun, ?_, ?_⟩
      all_goals
        set data := oaepData h label zeros message with hdatadef
        set seed := drbgGenerate rand h.digestSize with hseed
        have hseedlen : seed.length = h.digestSize := length_drbgGenerate _ _
        have hmaskedlen : (oaepMasked h seed data).length = data.length :=
          length_mix (length_mgf hpos _ _).symm
        have hmgflen := length_mgf hpos h.digestSize (oaepMasked h seed data)
      · have hdatalen : data.length = _ := length_oaepData label zeros message
        rw [length_append, length_append, length_mix (hmgflen.trans hseedlen.symm),
          hmgflen, hmaskedlen, hdatalen, length_singleton]
        omega
      · refine ⟨_, _, zeros, rfl, ?_, ?_⟩
        · rw [length_mix (hmgflen.trans hseedlen.symm), hmgflen]
        · -- each mask is taken off by mixing it in again
          unfold oaepUnmask
          rw [mix_comm (mgf h h.digestSize _) seed, mix_comm (mgf h h.digestSize _) (mix seed _),
            mix_mix (hseedlen.trans hmgflen.symm), hmaskedlen, mix_comm]
          exact mix_mix (length_mgf hpos _ _).symm
  · refine .inr ⟨.inl (Nat.lt_of_not_le hroom), ?_⟩
    unfold oaepEncode
    dsimp only
    rw [if_neg (by omega)]
    by_cases hsmall : padded.length < 2 * h.digestSize + 2
    · exact ⟨_, if_pos hsmall⟩
    · rw [if_neg hsmall]
      exact ⟨_, if_pos (by omega)⟩

end Encode

/-! ## The two schemes -/

/-- OAEP and the padding of PKCS#1 v1.5 are inverse and strict, for any hash function and label. -/
theorem paddings_exact (h : HashDef) (hpos : 0 < h.digestSize) (label : Bytes) (k : ℕ)
    (hlow : 128 ≤ k) (hhigh : k ≤ MAX_RSA_KEY_BYTES) :
    Padding k (2 * h.digestSize + 2) (oaepEncode h label) (oaepDecode h label)
      (OaepFormat h label) ∧
    Padding k 11 rsaesPkcs1v15Encode rsaesDecode RsaesFormat := by
  constructor
  · exact .of (encodes_oaepEncode hpos label hhigh) (decodes_oaepDecode hpos label hhigh)
      (OaepFormat.unique h label)
  · unfold MAX_RSA_KEY_BYTES at hhigh
    exact .of (encodes_rsaesPkcs1v15Encode k) (decodes_rsaesDecode (by omega) (by omega))
      RsaesFormat.unique

/-- A hash function with one digest. -/
def constantHash (n : ℕ) (hn : n ≤ MAX_DIGEST_SIZE) : HashDef where
  digestSize := n
  blockSize := n
  oid := []
  hash _ := List.replicate n 0x5A
  length_hash _ := length_replicate
  digestSize_le := hn
  digestSize_le_blockSize := le_rfl

/-- A modulus of 1024 bits: with digests of 20 octets 86 octets have room in OAEP and 87 have not,
and with the other padding 117. -/
theorem paddings_exact_largest :
    (∃ block, oaepEncode (constantHash 20 (by decide)) [0x41] (List.replicate 128 0)
      (List.replicate 86 1) (fun _ => 7) false = .ok block) ∧
    (¬ ∃ block, oaepEncode (constantHash 20 (by decide)) [0x41] (List.replicate 128 0)
      (List.replicate 87 1) (fun _ => 7) false = .ok block) ∧
    ∃ block, rsaesPkcs1v15Encode (List.replicate 128 0) (List.replicate 117 1) (fun _ => 0) false =
      .ok block := by
  obtain ⟨hoaep, hrsaes⟩ := paddings_exact (constantHash 20 (by decide)) (by decide) [0x41] 128
    le_rfl (by decide)
  refine ⟨?_, ?_, ?_⟩
  · rw [hoaep.succeeds_iff _ _ _ length_replicate]
    decide
  · rw [hoaep.succeeds_iff _ _ _ length_replicate]
    decide
  · rw [hrsaes.succeeds_iff _ _ _ length_replicate]
    decide

end RfTpm.Rsa
