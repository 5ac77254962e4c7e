import RfTpm.Crypt.Hash

/-!
# The encoding of a PSS signature

`PssEncode` and `PssDecode` of CryptRsa.c.  They work on a block of the size of the modulus, in
place.  The decoder does not stop at an error: it collects differences in one octet, `fail`, and
goes on with a substitute for what it could not find.

`pssDecode_iff` says which blocks are accepted; that the encoder makes such a block follows from its
own result, `pssEncode_eq`.
-/

namespace RfTpm.Rsa

open Faults Buffer Crypt Cbc CInt List


/-- A `TPM2B`: a size, and a buffer of which so many octets are in use.  Where it receives data, the
size says before how many there may be. -/
@[ext]
structure Tpm2b where
  size : ℕ
  buffer : Bytes
deriving DecidableEq

/-- The buffer with a message in it. -/
def Tpm2b.with (r : Tpm2b) (message : Bytes) : Tpm2b :=
  ⟨message.length, message ++ r.buffer.drop message.length⟩

/-- What is in the buffer. -/
def Tpm2b.data (r : Tpm2b) : Bytes := r.buffer.take r.size

@[simp]
lemma Tpm2b.data_with (r : Tpm2b) (message : Bytes) :
    (r.with message).data = message := by
  unfold Tpm2b.with Tpm2b.data
  rw [take_left]

/-- `DRBG_Generate()`: the octets of a random stream. -/
def drbgGenerate (rand : ℕ → UInt8) (n : ℕ) : Bytes := (List.range n).map rand

@[simp]
lemma length_drbgGenerate (rand : ℕ → UInt8) (n : ℕ) : (drbgGenerate rand n).length = n := by
  simp [drbgGenerate]

lemma verdict_iff (fail : UInt8) :
    (if fail ≠ 0 then TPM_RC_VALUE else TPM_RC_SUCCESS) = TPM_RC_SUCCESS ↔ fail = 0 := by
  by_cases hzero : fail = 0
  · rw [if_neg (not_not.mpr hzero)]
    exact iff_of_true rfl hzero
  · rw [if_pos hzero]
    exact iff_of_false (by decide) hzero

/-! ## PSS -/

/-- `CryptRsaPssSaltSize()`. -/
def cryptRsaPssSaltSize (hashSize outSize : ℤ) : ℤ :=
  let saltSize := int16 (outSize - hashSize - 1 - 1)
  if saltSize > hashSize then hashSize else if saltSize < 0 then 0 else saltSize

/-- `PssEncode()`: the block.  `failed` says that the TPM is in failure mode once the salt was
generated. -/
def pssEncode (h : HashDef) (out digest : Bytes) (rand : ℕ → UInt8) (failed : Bool) :
    Run TpmRc Bytes := do
  let hLen := h.digestSize
  let mLen := (out.length + 2 ^ 16 - hLen - 1) % 2 ^ 16
  let saltSize := (cryptRsaPssSaltSize hLen out.length).toNat
  let out ← put out 0 (List.replicate 8 0)
  let salt := drbgGenerate rand saltSize
  if failed then .error (.reply TPM_RC_FAILURE)
  else do
    let pad ← slice out 0 8
    let out ← put out (out.length - hLen - 1) (h.hash (pad ++ digest ++ salt))
    let seed ← slice out mLen hLen
    let out ← put out 0 (cryptMGFKDF h mLen seed 0).2
    let first ← get out 0
    let out ← put out 0 [first &&& 0x7F]
    let out ← put out (out.length - 1) [0xBC]
    let p := mLen - saltSize - 1
    let b ← get out p
    let out ← put out p [b ^^^ 0x01]
    mixLoop saltSize (p + 1) 0 out salt

/-- The loop of `PssDecode()` that looks for the first octet of one: what is left, where it is, and
whether something else than a zero came before. -/
def findOne (mask : Bytes) : ℕ → ℕ → UInt8 → Run TpmRc (ℕ × ℕ × UInt8)
  | 0, pm, fail => pure (0, pm, fail)
  | i + 1, pm, fail => do
    let b ← get mask pm
    if b = 0x01 then pure (i + 1, pm, fail) else findOne mask i (pm + 1) (fail ||| b)

/-- `PssDecode()`. -/
def pssDecode (h : HashDef) (dIn eIn : Bytes) : Run TpmRc TpmRc :=
  let hLen := h.digestSize
  if hLen = 0 then pure TPM_RC_SCHEME
  else do
    let first ← get eIn 0
    let last ← get eIn (eIn.length - 1)
    let fail := (first &&& 0x80) ||| (last ^^^ 0xBC)
    let mLen := (eIn.length + 2 ^ 32 - hLen - 1) % 2 ^ 32
    let seed ← slice eIn mLen hLen
    let mask ← put (List.replicate MAX_RSA_KEY_BYTES 0) 0 (cryptMGFKDF h mLen seed 0).2
    let m ← get mask 0
    let mask ← put mask 0 [m &&& 0x7F]
    let mask ← mixLoop mLen 0 0 mask eIn
    let (i, pm, fail) ← findOne mask mLen 0 fail
    let fail := fail ||| if i = 0 then 1 else 0
    let (i, pm) := if fail ≠ 0 then (mLen, 0) else (i - 1, pm + 1)
    let salt ← slice mask pm i
    let digest := h.hash (List.replicate 8 0 ++ dIn ++ salt)
    let mask ← put mask 0 digest
    let fail := fail ||| if digest.length ≠ hLen then 1 else 0
    let fail ← diffLoop hLen 0 mLen mask eIn fail
    pure (if fail ≠ 0 then TPM_RC_VALUE else TPM_RC_SUCCESS)

/-- The mask of a seed, with its first bit cleared. -/
def pssMask (h : HashDef) (mLen : ℕ) (seed : Bytes) : Bytes :=
  (cryptMGFKDF h mLen seed 0).2.modifyHead (· &&& 0x7F)

/-- The block is one for the digest: the first bit is clear and the last octet is `0xBC`, the data
under the mask is zeros, a one and a salt, and the hash is that of eight zeros, the digest and the
salt. -/
structure PssFormat (h : HashDef) (digest block : Bytes) (masked hash salt : Bytes)
    (zeros : ℕ) : Prop where
  block_eq : block = masked ++ hash ++ [0xBC]
  length_hash : hash.length = h.digestSize
  top : masked.headD 0 &&& 0x80 = 0
  unmasked : mix (pssMask h masked.length hash) masked = List.replicate zeros 0 ++ 0x01 :: salt
  hash_eq : hash = h.hash (List.replicate 8 0 ++ digest ++ salt)

/-! ## The search for the salt -/

lemma findOne_eq {mask a db c : Bytes} (hmask : mask = a ++ db ++ c) {pm : ℕ}
    (ha : a.length = pm) (fail : UInt8) :
    ∃ i pm' fail', findOne mask db.length pm fail = .ok (i, pm', fail') ∧
      ((i ≠ 0 ∧ fail' = 0) → fail = 0 ∧ ∃ zeros salt, db = List.replicate zeros 0 ++ 0x01 :: salt ∧
        i = salt.length + 1 ∧ pm' = pm + zeros) ∧
      ((fail = 0 ∧ ∃ zeros salt, db = List.replicate zeros 0 ++ 0x01 :: salt) →
        i ≠ 0 ∧ fail' = 0) := by
  induction db generalizing a pm fail with
  | nil =>
    refine ⟨0, pm, fail, rfl, fun h => absurd rfl h.1, ?_⟩
    rintro ⟨-, zeros, salt, hnil⟩
    exact absurd (congrArg List.length hnil) (by simp)
  | cons b db ih =>
    have hget : get (ρ := TpmRc) mask pm = .ok b := by
      rw [hmask, append_assoc]
      exact get_append b ha.symm
    unfold findOne
    rw [length_cons]
    dsimp only
    rw [hget, ok_bind]
    by_cases hone : b = 0x01
    · rw [if_pos hone]
      refine ⟨db.length + 1, pm, fail, rfl, fun h => ⟨h.2, 0, db, by rw [hone]; rfl, rfl, rfl⟩, ?_⟩
      exact fun h => ⟨Nat.succ_ne_zero _, h.1⟩
    · rw [if_neg hone]
      obtain ⟨i, pm', fail', hrun, hfound, hfinds⟩ := ih (a := a ++ [b])
        (by rw [hmask]; simp) (show (a ++ [b]).length = pm + 1 by rw [length_append, ha]; rfl)
        (fail ||| b)
      refine ⟨i, pm', fail', hrun, fun h => ?_, fun h => hfinds ?_⟩
      · obtain ⟨hfail, zeros, salt, hdb, hi, hpm⟩ := hfound h
        obtain ⟨hbefore, rfl⟩ := UInt8.or_eq_zero_iff.mp hfail
        refine ⟨hbefore, zeros + 1, salt, ?_, hi, by omega⟩
        rw [hdb, replicate_succ]
        rfl
      · obtain ⟨hfail, zeros, salt, hdb⟩ := h
        cases zeros with
        | zero =>
          cases hdb
          exact absurd rfl hone
        | succ zeros =>
          rw [replicate_succ, cons_append, List.cons.injEq] at hdb
          obtain ⟨rfl, rfl⟩ := hdb
          exact ⟨UInt8.or_eq_zero_iff.mpr ⟨hfail, rfl⟩, zeros, salt, rfl⟩

lemma zeros_unique {m n : ℕ} {b b' : UInt8} {l l' : Bytes} (hb : b ≠ 0) (hb' : b' ≠ 0)
    (h : List.replicate m 0 ++ b :: l = List.replicate n 0 ++ b' :: l') : b = b' ∧ l = l' :=
  (first_unique (p := fun x => x = 0) (fun _ => eq_of_mem_replicate)
    (fun _ => eq_of_mem_replicate) hb hb' h).2

/-! ## What is accepted -/

section Decode

variable {h : HashDef} (hpos : 0 < h.digestSize)

include hpos in
lemma length_pssMask (mLen : ℕ) (seed : Bytes) : (pssMask h mLen seed).length = mLen := by
  unfold pssMask
  rw [length_modifyHead, length_cryptMGFKDF hpos]

include hpos in
lemma put_pssMask {a : Bytes} (c seed : Bytes) {mLen : ℕ} (ha : a.length = mLen)
    (hm : 0 < mLen) :
    ∃ buf m, put (ρ := TpmRc) (a ++ c) 0 (cryptMGFKDF h mLen seed 0).2 = .ok buf ∧
      get (ρ := TpmRc) buf 0 = .ok m ∧
      put (ρ := TpmRc) buf 0 [m &&& 0x7F] = .ok (pssMask h mLen seed ++ c) := by
  have hlen := length_cryptMGFKDF hpos seed mLen
  unfold pssMask
  generalize (cryptMGFKDF h mLen seed 0).2 = mgf at hlen ⊢
  cases mgf with
  | nil => exact absurd hlen (by simp only [length_nil]; omega)
  | cons m rest =>
    exact ⟨m :: rest ++ c, m, put_start (hlen.trans ha.symm), rfl, put_start (b := [m]) rfl⟩

/-- The end of `PssDecode()`: the hash is computed over the first part of the mask buffer and
compared with the one in the block. -/
lemma pssDecode_end (masked tail : Bytes) {mask hash : Bytes}
    (hmask : mask.length = MAX_RSA_KEY_BYTES) (hhash : hash.length = h.digestSize)
    (data : Bytes) (fail : UInt8) :
    ∃ rc, (do
        let mask ← put mask 0 (h.hash data)
        let fail ← diffLoop h.digestSize 0 masked.length mask (masked ++ hash ++ tail)
          (fail ||| if (h.hash data).length ≠ h.digestSize then 1 else 0)
        pure (if fail ≠ 0 then TPM_RC_VALUE else TPM_RC_SUCCESS) : Run TpmRc TpmRc) = .ok rc ∧
      (rc = TPM_RC_SUCCESS ↔ fail = 0 ∧ h.hash data = hash) := by
  have hle := h.digestSize_le
  have hlen := h.length_hash data
  obtain ⟨b, c, rfl, hb⟩ := exists_front mask (n := h.digestSize)
    (hle.trans ((show MAX_DIGEST_SIZE ≤ MAX_RSA_KEY_BYTES by decide).trans_eq hmask.symm))
  obtain ⟨r, hr, hiff⟩ : ∃ r, diffLoop (ρ := TpmRc) h.digestSize 0 masked.length (h.hash data ++ c)
      (masked ++ hash ++ tail) (fail ||| 0) = .ok r ∧
      (r = 0 ↔ fail ||| 0 = 0 ∧ h.hash data = hash) :=
    diffLoop_append (a := []) rfl rfl hlen hhash _
  rw [put_start (hlen.trans hb.symm), ok_bind, hlen, if_neg (fun hne => hne rfl), hr, ok_bind]
  refine ⟨_, rfl, ?_⟩
  have hfail : fail ||| 0 = 0 ↔ fail = 0 := by
    rw [UInt8.or_eq_zero_iff]
    exact and_iff_left rfl
  rw [← hfail, ← hiff]
  exact verdict_iff r

include hpos in
lemma unmask_eq {masked : Bytes} (hm : 0 < masked.length)
    (hmax : masked.length ≤ MAX_RSA_KEY_BYTES) (seed rest : Bytes) :
    ∃ buf m spare,
      put (ρ := TpmRc) (List.replicate MAX_RSA_KEY_BYTES 0) 0
        (cryptMGFKDF h masked.length seed 0).2 = .ok buf ∧
      get (ρ := TpmRc) buf 0 = .ok m ∧
      put (ρ := TpmRc) buf 0 [m &&& 0x7F] = .ok (pssMask h masked.length seed ++ spare) ∧
      mixLoop (ρ := TpmRc) masked.length 0 0 (pssMask h masked.length seed ++ spare)
        (masked ++ rest) = .ok (mix (pssMask h masked.length seed) masked ++ spare) ∧
      (mix (pssMask h masked.length seed) masked ++ spare).length = MAX_RSA_KEY_BYTES := by
  set spare := List.replicate (MAX_RSA_KEY_BYTES - masked.length) (0 : UInt8) with hspare
  have hbuffer : List.replicate MAX_RSA_KEY_BYTES (0 : UInt8) =
      List.replicate masked.length 0 ++ spare := by
    rw [hspare, replicate_append_replicate, Nat.add_sub_cancel' hmax]
  obtain ⟨buf, m, hmgf, hget, hclear⟩ := put_pssMask hpos spare seed
    (length_replicate (n := masked.length) (a := (0 : UInt8))) hm
  have hmasklen := length_pssMask hpos masked.length seed
  refine ⟨buf, m, spare, hbuffer ▸ hmgf, hget, hclear,
    mixLoop_append (a := []) (d := []) rfl rfl hmasklen rfl, ?_⟩
  rw [length_append, length_mix hmasklen, hmasklen, hspare, length_replicate,
    Nat.add_sub_cancel' hmax]

/-- `PssDecode()` from the search for the salt on: the data is zeros, a one and a salt, and the hash
is the one in the block. -/
lemma pssDecode_salt {masked hash db spare : Bytes} (hdb : db.length = masked.length)
    (hbuflen : (db ++ spare).length = MAX_RSA_KEY_BYTES) (hhashlen : hash.length = h.digestSize)
    (tail dIn : Bytes) (fail : UInt8) :
    ∃ rc, (do
        let (i, pm, fail) ← findOne (db ++ spare) masked.length 0 fail
        let fail := fail ||| if i = 0 then 1 else 0
        let (i, pm) := if fail ≠ 0 then (masked.length, 0) else (i - 1, pm + 1)
        let salt ← slice (db ++ spare) pm i
        let digest := h.hash (List.replicate 8 0 ++ dIn ++ salt)
        let mask ← put (db ++ spare) 0 digest
        let fail := fail ||| if digest.length ≠ h.digestSize then 1 else 0
        let fail ← diffLoop h.digestSize 0 masked.length mask (masked ++ hash ++ tail) fail
        pure (if fail ≠ 0 then TPM_RC_VALUE else TPM_RC_SUCCESS) : Run TpmRc TpmRc) = .ok rc ∧
      (rc = TPM_RC_SUCCESS ↔ fail = 0 ∧ ∃ salt zeros,
        db = List.replicate zeros 0 ++ 0x01 :: salt ∧
          h.hash (List.replicate 8 0 ++ dIn ++ salt) = hash) := by
  obtain ⟨i, pm, fail', hfind, hfound, hfinds⟩ := findOne_eq (a := []) (c := spare) rfl
    (length_nil (α := UInt8)) fail
  rw [hdb, nil_append] at hfind
  rw [hfind, ok_bind]
  dsimp only
  by_cases hok : i ≠ 0 ∧ fail' = 0
  · -- the salt was found
    obtain ⟨hbefore, zeros, salt, hsalt, hi, hpm⟩ := hfound hok
    have hzero : (fail' ||| if i = 0 then 1 else 0) = 0 := by
      rw [hok.2, if_neg hok.1]
      rfl
    have hslice : slice (ρ := TpmRc) (db ++ spare) (pm + 1) (i - 1) = .ok salt := by
      rw [hsalt, append_cons]
      refine slice_append ?_ (by omega)
      rw [length_append, length_replicate, hpm, Nat.zero_add]
      rfl
    obtain ⟨rc, hrc, hiff⟩ := pssDecode_end masked tail hbuflen hhashlen
      (List.replicate 8 0 ++ dIn ++ salt) 0
    rw [hzero, if_neg (fun hne => hne rfl)]
    dsimp only
    rw [hslice, ok_bind]
    refine ⟨rc, hrc, hiff.trans ⟨fun hsuccess => ⟨hbefore, salt, zeros, hsalt, hsuccess.2⟩, ?_⟩⟩
    rintro ⟨-, salt', zeros', hsalt', hhash⟩
    refine ⟨rfl, ?_⟩
    rwa [(zeros_unique (by decide) (by decide) (hsalt.symm.trans hsalt')).2]
  · have hnonzero : (fail' ||| if i = 0 then 1 else 0) ≠ 0 := by
      intro hzero
      obtain ⟨hfail, hflag⟩ := UInt8.or_eq_zero_iff.mp hzero
      refine hok ⟨fun hi => ?_, hfail⟩
      rw [if_pos hi] at hflag
      cases hflag
    obtain ⟨rc, hrc, hiff⟩ := pssDecode_end masked tail hbuflen hhashlen
      (List.replicate 8 0 ++ dIn ++ db) (fail' ||| if i = 0 then 1 else 0)
    rw [if_pos hnonzero]
    dsimp only
    rw [slice_front hdb.symm, ok_bind]
    refine ⟨rc, hrc, hiff.trans ⟨fun hsuccess => absurd hsuccess.1 hnonzero, ?_⟩⟩
    rintro ⟨hbefore, salt, zeros, hsalt, -⟩
    exact absurd (hfinds ⟨hbefore, zeros, salt, hsalt⟩) hok

lemma pssFormat_iff {first last : UInt8} {rest hash : Bytes}
    (hhashlen : hash.length = h.digestSize) (dIn : Bytes) :
    (∃ masked hash' salt zeros,
        PssFormat h dIn (first :: rest ++ hash ++ [last]) masked hash' salt zeros) ↔
      (first &&& 0x80) ||| (last ^^^ 0xBC) = 0 ∧ ∃ salt zeros,
        mix (pssMask h (first :: rest).length hash) (first :: rest) =
            List.replicate zeros 0 ++ 0x01 :: salt ∧
          h.hash (List.replicate 8 0 ++ dIn ++ salt) = hash := by
  rw [UInt8.or_eq_zero_iff, UInt8.xor_eq_zero_iff]
  constructor
  · rintro ⟨masked, hash', salt, zeros, hblock, hlen, htop, hunmasked, hhash⟩
    obtain ⟨hfront, hlast⟩ := append_inj' hblock rfl
    obtain ⟨rfl, rfl⟩ := append_inj' hfront (hhashlen.trans hlen.symm)
    exact ⟨⟨htop, singleton_inj.mp hlast⟩, salt, zeros, hunmasked, hhash.symm⟩
  · rintro ⟨⟨htop, rfl⟩, salt, zeros, hunmasked, hhash⟩
    exact ⟨_, hash, salt, zeros, rfl, hhashlen, htop, hunmasked, hhash.symm⟩

include hpos in
/-- A block of the size of a modulus is decoded without a fault, and accepted iff it has the format
for the digest. -/
lemma pssDecode_iff {eIn : Bytes} (hlow : 2 * MAX_DIGEST_SIZE ≤ eIn.length)
    (hhigh : eIn.length ≤ MAX_RSA_KEY_BYTES) (dIn : Bytes) :
    ∃ rc, pssDecode h dIn eIn = .ok rc ∧ (rc = TPM_RC_SUCCESS ↔
      ∃ masked hash salt zeros, PssFormat h dIn eIn masked hash salt zeros) := by
  have hle := h.digestSize_le
  unfold MAX_DIGEST_SIZE at hle hlow
  -- the parts of the block
  obtain ⟨masked, hash, tail, rfl, hmaskedlen, hhashlen⟩ :=
    exists_parts eIn (i := eIn.length - h.digestSize - 1) (n := h.digestSize) (by omega)
  simp only [length_append] at hlow hhigh hmaskedlen
  have htaillen : tail.length = 1 := by omega
  obtain ⟨last, rfl⟩ := length_eq_one_iff.mp htaillen
  obtain ⟨first, rest, rfl⟩ := exists_cons_of_length_pos (l := masked) (by omega)
  have hmLen : ((first :: rest ++ hash ++ [last]).length + 2 ^ 32 - h.digestSize - 1) % 2 ^ 32 =
      (first :: rest).length := by
    unfold MAX_RSA_KEY_BYTES at hhigh
    simp only [length_append, length_singleton] at hhigh ⊢
    omega
  have hlast : get (ρ := TpmRc) (first :: rest ++ hash ++ [last])
      ((first :: rest ++ hash ++ [last]).length - 1) = .ok last :=
    get_append last (by rw [length_append, length_singleton, Nat.add_sub_cancel])
  have hseed : slice (ρ := TpmRc) (first :: rest ++ hash ++ [last]) (first :: rest).length
      h.digestSize = .ok hash := slice_append rfl hhashlen.symm
  obtain ⟨buf, m, spare, hmgf, hget, hclear, hmix, hbuflen⟩ :=
    unmask_eq hpos (show 0 < (first :: rest).length by simp) (by omega) hash (hash ++ [last])
  rw [← append_assoc] at hmix
  have hmasklen := length_pssMask hpos (first :: rest).length hash
  rw [pssFormat_iff hhashlen]
  unfold pssDecode
  dsimp only
  rw [if_neg (by omega), show get (ρ := TpmRc) (first :: rest ++ hash ++ [last]) 0 = .ok first
    from rfl, ok_bind, hlast, ok_bind, hmLen, hseed, ok_bind, hmgf, ok_bind, hget, ok_bind, hclear,
    ok_bind, hmix, ok_bind]
  exact pssDecode_salt ((length_mix hmasklen).trans hmasklen) hbuflen hhashlen [last] dIn _

end Decode

/-! ## What is made -/

lemma cryptRsaPssSaltSize_eq {hLen k : ℕ} (hroom : hLen + 2 ≤ k) (hk : k ≤ MAX_RSA_KEY_BYTES) :
    (cryptRsaPssSaltSize hLen k).toNat = min hLen (k - hLen - 2) := by
  unfold MAX_RSA_KEY_BYTES at hk
  have hint : int16 ((k : ℤ) - hLen - 1 - 1) = k - hLen - 1 - 1 :=
    int16_eq (by omega) (by omega)
  unfold cryptRsaPssSaltSize
  dsimp only
  rw [hint]
  by_cases hlarge : (k : ℤ) - hLen - 1 - 1 > hLen
  · rw [if_pos hlarge]
    omega
  · rw [if_neg hlarge, if_neg (by omega)]
    omega

lemma mix_salt {mask salt : Bytes} {zeros : ℕ} (rest : Bytes)
    (hlen : mask.length = zeros + 1 + salt.length) :
    ∃ b buf, get (ρ := TpmRc) (mask ++ rest) zeros = .ok b ∧
      put (ρ := TpmRc) (mask ++ rest) zeros [b ^^^ 0x01] = .ok buf ∧
      mixLoop (ρ := TpmRc) salt.length (zeros + 1) 0 buf salt =
        .ok (mix mask (List.replicate zeros 0 ++ 0x01 :: salt) ++ rest) := by
  obtain ⟨front, one, back, rfl, hfront, hone⟩ :=
    exists_parts mask (i := zeros) (n := 1) (by omega)
  obtain ⟨b, rfl⟩ := length_eq_one_iff.mp hone
  have hback : back.length = salt.length := by
    rw [length_append, length_append, hfront, hone] at hlen
    omega
  have hbuf : front ++ [b] ++ back ++ rest = front ++ [b] ++ (back ++ rest) :=
    append_assoc _ _ _
  have hmixed : mix (front ++ [b] ++ back) (List.replicate zeros 0 ++ 0x01 :: salt) =
      front ++ [b ^^^ 0x01] ++ mix back salt := by
    rw [append_assoc, mix_append (by rw [hfront, length_replicate]), ← hfront,
      mix_replicate_zero, append_assoc]
    rfl
  have hmix : mixLoop (ρ := TpmRc) salt.length (zeros + 1) 0
      ((front ++ [b ^^^ 0x01]) ++ back ++ rest) (salt ++ []) =
        .ok ((front ++ [b ^^^ 0x01]) ++ mix back salt ++ rest) :=
    mixLoop_append (d := []) (by rw [length_append, hfront]; rfl) rfl hback rfl
  refine ⟨b, front ++ [b ^^^ 0x01] ++ (back ++ rest), ?_, ?_, ?_⟩
  · rw [hbuf, append_assoc]
    exact get_append b hfront.symm
  · rw [hbuf]
    exact put_append hfront.symm rfl
  · rw [hmixed, ← hmix, append_nil, ← append_assoc]

section Encode

variable {h : HashDef} (hpos : 0 < h.digestSize)

/-- The salt of an encoding. -/
def pssSalt (h : HashDef) (k : ℕ) (rand : ℕ → UInt8) : Bytes :=
  drbgGenerate rand (min h.digestSize (k - h.digestSize - 2))

/-- The hash in a block with a salt. -/
def pssHash (h : HashDef) (digest salt : Bytes) : Bytes :=
  h.hash (List.replicate 8 0 ++ digest ++ salt)

/-- The data that is masked. -/
def pssData (h : HashDef) (k : ℕ) (salt : Bytes) : Bytes :=
  List.replicate (k - h.digestSize - 1 - salt.length - 1) 0 ++ 0x01 :: salt

lemma length_pssData {k : ℕ} (hlow : 2 * MAX_DIGEST_SIZE ≤ k) (rand : ℕ → UInt8) :
    (pssData h k (pssSalt h k rand)).length = k - h.digestSize - 1 := by
  have hle := h.digestSize_le
  unfold MAX_DIGEST_SIZE at hle hlow
  unfold pssData pssSalt
  rw [length_append, length_replicate, length_cons, length_drbgGenerate]
  omega

include hpos in
lemma pssEncode_eq {out : Bytes} (hlow : 2 * MAX_DIGEST_SIZE ≤ out.length)
    (hhigh : out.length ≤ MAX_RSA_KEY_BYTES) (digest : Bytes) (rand : ℕ → UInt8) :
    pssEncode h out digest rand false = .ok
      (mix (pssMask h (out.length - h.digestSize - 1)
          (pssHash h digest (pssSalt h out.length rand)))
        (pssData h out.length (pssSalt h out.length rand)) ++
      pssHash h digest (pssSalt h out.length rand) ++ [0xBC]) := by
  have hle := h.digestSize_le
  unfold MAX_DIGEST_SIZE at hle hlow
  have hsize : (cryptRsaPssSaltSize h.digestSize out.length).toNat =
      min h.digestSize (out.length - h.digestSize - 2) := cryptRsaPssSaltSize_eq (by omega) hhigh
  unfold MAX_RSA_KEY_BYTES at hhigh
  set k := out.length with hk
  have hmLen : (k + 2 ^ 16 - h.digestSize - 1) % 2 ^ 16 = k - h.digestSize - 1 := by omega
  have hsaltlen : (pssSalt h k rand).length = min h.digestSize (k - h.digestSize - 2) :=
    length_drbgGenerate _ _
  have hdrbg : drbgGenerate rand (min h.digestSize (k - h.digestSize - 2)) = pssSalt h k rand := rfl
  set salt := pssSalt h k rand with hsalt
  have hhashlen : (pssHash h digest salt).length = h.digestSize := h.length_hash _
  set mLen := k - h.digestSize - 1 with hm
  -- the zeros at the beginning
  obtain ⟨start, rest, rfl, hstart⟩ := exists_front out (n := 8) (by omega)
  have hlen : (List.replicate 8 0 ++ rest).length = k := by
    rw [hk, length_append, length_append, hstart]
    rfl
  -- the parts of the block, of which only the sizes matter from here on
  obtain ⟨front, mid, tail, hparts, hfront, hmid⟩ :=
    exists_parts (List.replicate 8 0 ++ rest) (i := mLen) (n := h.digestSize) (by omega)
  have htail : tail.length = 1 := by
    have htotal := congrArg List.length hparts
    rw [hlen, length_append, length_append] at htotal
    omega
  obtain ⟨buf, m, hmgf, hget, hclear⟩ := put_pssMask hpos
    (pssHash h digest salt ++ tail) (pssHash h digest salt) hfront (by omega)
  rw [← append_assoc] at hmgf
  have hmasklen := length_pssMask hpos mLen (pssHash h digest salt)
  set mask := pssMask h mLen (pssHash h digest salt) with hmask
  have hlast : put (ρ := TpmRc) (mask ++ (pssHash h digest salt ++ tail)) (k - 1) [0xBC] =
      .ok (mask ++ (pssHash h digest salt ++ [0xBC])) := by
    have hput : put (ρ := TpmRc) ((mask ++ pssHash h digest salt) ++ tail ++ []) (k - 1) [0xBC] =
        .ok ((mask ++ pssHash h digest salt) ++ [0xBC] ++ []) :=
      put_append (by rw [length_append, hmasklen, hhashlen]; omega) htail.symm
    simpa using hput
  obtain ⟨b, buf', hget', hput', hmix⟩ := mix_salt (pssHash h digest salt ++ [0xBC])
    (show mask.length = mLen - salt.length - 1 + 1 + salt.length by omega)
  have hlen₁ : (front ++ pssHash h digest salt ++ tail).length = k := by
    rw [length_append, length_append, hfront, hhashlen, htail]
    omega
  have hlen₂ : (mask ++ (pssHash h digest salt ++ tail)).length = k := by
    rw [length_append, length_append, hmasklen, hhashlen, htail]
    omega
  unfold pssEncode
  dsimp only
  rw [← hk, hmLen, hsize, put_start (by rw [hstart]; rfl), ok_bind, if_neg Bool.false_ne_true,
    slice_front length_replicate.symm, ok_bind, hdrbg, hlen, ← hm,
    show h.hash (List.replicate 8 0 ++ digest ++ salt) = pssHash h digest salt from rfl, hparts,
    put_append hfront.symm (hhashlen.trans hmid.symm), ok_bind,
    slice_append hfront.symm hhashlen.symm, ok_bind, hmgf, ok_bind, hget, ok_bind, hclear, ok_bind,
    hlen₂, hlast, ok_bind, ← hsaltlen, hget', ok_bind, hput', ok_bind, hmix, ← append_assoc]
  rfl

include hpos in
/-- The first bit stays clear where the one or the salt is mixed in: the salt begins behind the
first octet. -/
lemma top_clear {mLen zeros : ℕ} (hm : 0 < mLen) (seed salt : Bytes) :
    (mix (pssMask h mLen seed) (List.replicate zeros 0 ++ 0x01 :: salt)).headD 0 &&& 0x80 = 0 := by
  have hlen := length_cryptMGFKDF hpos seed mLen
  unfold pssMask
  generalize (cryptMGFKDF h mLen seed 0).2 = mgf at hlen ⊢
  have hzero : ∀ b : UInt8, ((b &&& 0x7F) ^^^ 0x00) &&& 0x80 = 0 := by decide +kernel
  have hone : ∀ b : UInt8, ((b &&& 0x7F) ^^^ 0x01) &&& 0x80 = 0 := by decide +kernel
  cases mgf with
  | nil => exact absurd hlen (by simp only [length_nil]; omega)
  | cons m rest =>
    cases zeros with
    | zero => exact hone m
    | succ zeros => exact hzero m

include hpos in
lemma length_encoded {k : ℕ} (hlow : 2 * MAX_DIGEST_SIZE ≤ k) (digest : Bytes)
    (rand : ℕ → UInt8) :
    (mix (pssMask h (k - h.digestSize - 1) (pssHash h digest (pssSalt h k rand)))
        (pssData h k (pssSalt h k rand)) ++ pssHash h digest (pssSalt h k rand) ++
      [0xBC]).length = k := by
  have hle := h.digestSize_le
  unfold MAX_DIGEST_SIZE at hle hlow
  have hhashlen : (pssHash h digest (pssSalt h k rand)).length = h.digestSize := h.length_hash _
  have hmasklen := length_pssMask hpos (k - h.digestSize - 1) (pssHash h digest (pssSalt h k rand))
  have hdatalen := length_pssData (h := h) hlow rand
  rw [length_append, length_append, length_mix (hmasklen.trans hdatalen.symm), hmasklen,
    hhashlen, length_singleton]
  omega

include hpos in
lemma pssFormat_encoded {k : ℕ} (hlow : 2 * MAX_DIGEST_SIZE ≤ k) (digest : Bytes)
    (rand : ℕ → UInt8) :
    ∃ masked hash salt zeros, PssFormat h digest
      (mix (pssMask h (k - h.digestSize - 1) (pssHash h digest (pssSalt h k rand)))
        (pssData h k (pssSalt h k rand)) ++ pssHash h digest (pssSalt h k rand) ++ [0xBC])
      masked hash salt zeros := by
  have hle := h.digestSize_le
  have hdatalen := length_pssData (h := h) hlow rand
  unfold MAX_DIGEST_SIZE at hle hlow
  set salt := pssSalt h k rand
  set seed := pssHash h digest salt
  have hmasklen := length_pssMask hpos (k - h.digestSize - 1) seed
  have hsame := hmasklen.trans hdatalen.symm
  refine ⟨_, seed, salt, k - h.digestSize - 1 - salt.length - 1, rfl, h.length_hash _, ?_, ?_, rfl⟩
  · exact top_clear hpos (by omega) seed salt
  · rw [length_mix hsame, hmasklen, mix_comm, mix_comm (pssMask _ _ _) (pssData _ _ _),
      mix_mix hsame.symm]
    rfl

end Encode

end RfTpm.Rsa
