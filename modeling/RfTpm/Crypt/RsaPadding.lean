import RfTpm.Crypt.RsaPss

/-!
# Paddings of RSA encryption

What a padding is for, and the padding of PKCS#1 v1.5: `RSAES_PKCS1v1_5Encode` and `RSAES_Decode` of
CryptRsa.c.

A padding puts a message into a block of the size of the modulus.  `Padding` says what is expected
of an encoder and a decoder: that they are inverse, that the encoder fails only for a message that
is too long, and that the decoder accepts no block without the format.
-/

namespace RfTpm.Rsa

open Faults Buffer List

/-! ## Paddings -/

/-- An encoder of a message into a block; the last argument says that the TPM is in failure mode
once random octets were made. -/
abbrev Encoder := Bytes → Bytes → (ℕ → UInt8) → Bool → Run TpmRc Bytes

/-- A decoder of a block into a buffer. -/
abbrev Decoder := Tpm2b → Bytes → Run TpmRc (TpmRc × Tpm2b)

/-- An encoder and a decoder for blocks of `k` octets, of which `overhead` are not the message's. -/
structure Padding (k overhead : ℕ) (encode : Encoder) (decode : Decoder)
    (Format : Bytes → Bytes → Prop) : Prop where
  /-- A message is encoded iff there is room for it. -/
  succeeds_iff : ∀ padded message rand, padded.length = k →
    ((∃ block, encode padded message rand false = .ok block) ↔ message.length + overhead ≤ k)
  /-- What is encoded is a block from which exactly the message is decoded. -/
  inverse : ∀ padded message rand failed block, padded.length = k →
    encode padded message rand failed = .ok block →
      block.length = k ∧ ∀ dataOut : Tpm2b, dataOut.size ≤ dataOut.buffer.length →
        message.length ≤ dataOut.size →
          ∃ out, decode dataOut block = .ok (TPM_RC_SUCCESS, out) ∧ out.data = message
  /-- A block that is accepted has the format. -/
  strict : ∀ block (dataOut out : Tpm2b), block.length = k →
    dataOut.size ≤ dataOut.buffer.length → decode dataOut block = .ok (TPM_RC_SUCCESS, out) →
      Format block out.data
  /-- Nothing is read or written outside of the blocks and buffers. -/
  encode_inside : ∀ padded message rand failed, padded.length = k →
    encode padded message rand failed ≠ .error .fault
  decode_inside : ∀ block (dataOut : Tpm2b), block.length = k →
    dataOut.size ≤ dataOut.buffer.length → ∃ rc out, decode dataOut block = .ok (rc, out)

/-- What an encoder does by itself. -/
def Encodes (k overhead : ℕ) (encode : Encoder) (Format : Bytes → Bytes → Prop) : Prop :=
  ∀ padded message rand failed, padded.length = k →
    (message.length + overhead ≤ k ∧ failed = false ∧
      ∃ block, encode padded message rand failed = .ok block ∧ block.length = k ∧
        Format block message) ∨
    ((k < message.length + overhead ∨ failed = true) ∧
      ∃ rc, encode padded message rand failed = .error (.reply rc))

/-- What a decoder does by itself. -/
def Decodes (k : ℕ) (decode : Decoder) (Format : Bytes → Bytes → Prop) : Prop :=
  ∀ block (dataOut : Tpm2b), block.length = k → dataOut.size ≤ dataOut.buffer.length →
    (∃ message, Format block message ∧ message.length ≤ dataOut.size ∧
      decode dataOut block = .ok (TPM_RC_SUCCESS, dataOut.with message)) ∨
    ((∀ message, Format block message → dataOut.size < message.length) ∧
      ∃ size, decode dataOut block = .ok (TPM_RC_VALUE, { dataOut with size := size }))

lemma Padding.of {k overhead : ℕ} {encode : Encoder} {decode : Decoder}
    {Format : Bytes → Bytes → Prop} (hencode : Encodes k overhead encode Format)
    (hdecode : Decodes k decode Format)
    (hunique : ∀ block message message', Format block message → Format block message' →
      message = message') :
    Padding k overhead encode decode Format where
  succeeds_iff padded message rand hlen := by
    obtain ⟨hroom, -, block, hrun, -⟩ | ⟨hnot, rc, hrun⟩ := hencode padded message rand false hlen
    · exact iff_of_true ⟨block, hrun⟩ hroom
    · refine iff_of_false (fun ⟨block, hok⟩ => ?_) ?_
      · rw [hrun] at hok
        cases hok
      · rcases hnot with hlarge | hfailed
        · exact Nat.not_le.mpr hlarge
        · cases hfailed
  inverse padded message rand failed block hlen hok := by
    obtain ⟨-, -, block', hrun, hblock, hformat⟩ | ⟨-, rc, hrun⟩ :=
      hencode padded message rand failed hlen
    · rw [hrun] at hok
      obtain rfl := Except.ok.inj hok
      refine ⟨hblock, fun dataOut hbuffer hroom => ?_⟩
      obtain ⟨message', hformat', -, hdecoded⟩ | ⟨hnone, -⟩ :=
        hdecode block' dataOut hblock hbuffer
      · obtain rfl := hunique _ _ _ hformat hformat'
        exact ⟨_, hdecoded, dataOut.data_with message⟩
      · exact absurd (hnone message hformat) (Nat.not_lt.mpr hroom)
    · rw [hrun] at hok
      cases hok
  strict block dataOut out hblock hbuffer hok := by
    obtain ⟨message, hformat, -, hdecoded⟩ | ⟨-, size, hdecoded⟩ :=
      hdecode block dataOut hblock hbuffer
    · rw [hdecoded] at hok
      cases hok
      rwa [Tpm2b.data_with]
    · rw [hdecoded] at hok
      exact absurd (congrArg Prod.fst (Except.ok.inj hok))
        (show ¬ TPM_RC_VALUE = TPM_RC_SUCCESS by decide)
  encode_inside padded message rand failed hlen hfault := by
    obtain ⟨-, -, block, hrun, -⟩ | ⟨-, rc, hrun⟩ := hencode padded message rand failed hlen
    all_goals
      rw [hrun] at hfault
      cases hfault
  decode_inside block dataOut hblock hbuffer := by
    obtain ⟨message, -, -, hdecoded⟩ | ⟨-, size, hdecoded⟩ := hdecode block dataOut hblock hbuffer
    · exact ⟨_, _, hdecoded⟩
    · exact ⟨_, _, hdecoded⟩

lemma put_tpm2b {dataOut : Tpm2b} {message : Bytes}
    (hbuffer : dataOut.size ≤ dataOut.buffer.length) (hroom : message.length ≤ dataOut.size) :
    put (ρ := TpmRc) dataOut.buffer 0 message = .ok (dataOut.with message).buffer :=
  put_front (a := []) rfl (Nat.zero_add _) (hroom.trans hbuffer)

/-! ## PKCS#1 v1.5 -/

/-- The loop that replaces the zeros among the random octets, from the last one down. -/
def replaceZeros : ℕ → Bytes → Run TpmRc Bytes
  | ps + 2, padded => do
    let b ← get padded (ps + 2)
    if b = 0 then do
      let padded ← put padded (ps + 2) [0x55]
      replaceZeros (ps + 1) padded
    else replaceZeros (ps + 1) padded
  | _, padded => pure padded

/-- `RSAES_PKCS1v1_5Encode()`. -/
def rsaesPkcs1v15Encode : Encoder := fun padded message rand failed =>
  let ps := padded.length - message.length - 3
  if (message.length : ℤ) > padded.length - 11 then .error (.reply TPM_RC_VALUE)
  else do
    let padded ← put padded (padded.length - message.length) message
    let padded ← put padded 0 [0]
    let padded ← put padded 1 [2]
    let padded ← put padded 2 (drbgGenerate rand ps)
    if failed then .error (.reply TPM_RC_FAILURE)
    else do
      let padded ← put padded (2 + ps) [0]
      replaceZeros (ps + 1) padded

/-- The loop that looks for a zero, over `n` octets from `pSize` on. -/
def findZero (coded : Bytes) : ℕ → ℕ → Run TpmRc ℕ
  | 0, pSize => pure pSize
  | n + 1, pSize => do
    let b ← get coded pSize
    if b = 0 then pure pSize else findZero coded n (pSize + 1)

/-- `RSAES_Decode()`. -/
def rsaesDecode : Decoder := fun message coded => do
  let fail := decide (coded.length < 11)
  let first ← get coded 0
  let fail := decide (first ≠ 0x00) || fail
  let second ← get coded 1
  let fail := decide (second ≠ 0x02) || fail
  let pSize ← findZero coded (coded.length - 2) 2
  let pSize := pSize + 1
  let fail := decide (pSize > coded.length) || fail
  let fail := decide (pSize - 2 ≤ 8) || fail
  let rest := (coded.length + 2 ^ 16 - pSize) % 2 ^ 16
  if message.size < rest ∨ fail = true then pure (TPM_RC_VALUE, message)
  else do
    let data ← slice coded pSize (coded.length - pSize)
    let buffer ← put message.buffer 0 data
    pure (TPM_RC_SUCCESS, ⟨coded.length - pSize, buffer⟩)

/-- The block is a zero, a two, at least eight octets that are not zero, a zero and the message. -/
def RsaesFormat (block message : Bytes) : Prop :=
  ∃ ps : Bytes, block = [0x00, 0x02] ++ ps ++ 0x00 :: message ∧ 8 ≤ ps.length ∧
    ∀ b ∈ ps, b ≠ 0

lemma delimited_unique {ps ps' l l' : Bytes} (hps : ∀ b ∈ ps, b ≠ 0)
    (hps' : ∀ b ∈ ps', b ≠ 0) (h : ps ++ 0x00 :: l = ps' ++ 0x00 :: l') : ps = ps' ∧ l = l' := by
  obtain ⟨rfl, -, rfl⟩ := first_unique hps hps' (not_not.mpr rfl) (not_not.mpr rfl) h
  exact ⟨rfl, rfl⟩

lemma RsaesFormat.unique (block message message' : Bytes) (h : RsaesFormat block message)
    (h' : RsaesFormat block message') : message = message' := by
  obtain ⟨ps, rfl, -, hps⟩ := h
  obtain ⟨ps', hsame, -, hps'⟩ := h'
  rw [append_assoc, append_assoc] at hsame
  exact (delimited_unique hps hps' (append_cancel_left hsame)).2

/-- The octets that replace the random ones. -/
def nonzero (b : UInt8) : UInt8 := if b = 0 then 0x55 else b

lemma nonzero_ne_zero (b : UInt8) : nonzero b ≠ 0 := by
  unfold nonzero
  by_cases hb : b = 0
  · rw [if_pos hb]
    decide
  · rwa [if_neg hb]

lemma replaceZeros_eq {a : Bytes} (ha : a.length = 2) (r c : Bytes) :
    replaceZeros (r.length + 1) (a ++ r ++ c) = .ok (a ++ r.map nonzero ++ c) := by
  -- the loop goes down, so the octets are taken from the end
  induction r using List.reverseRecOn generalizing c with
  | nil => rfl
  | append_singleton r b ih =>
    have hplace : r.length + 2 = (a ++ r).length := by
      rw [length_append, ha, Nat.add_comm]
    have hbuf : a ++ (r ++ [b]) ++ c = a ++ r ++ [b] ++ c := by rw [← append_assoc a]
    have hget : get (ρ := TpmRc) (a ++ r ++ [b] ++ c) (r.length + 2) = .ok b := by
      rw [append_assoc]
      exact get_append b hplace
    have hmap : a ++ (r ++ [b]).map nonzero ++ c = a ++ r.map nonzero ++ ([nonzero b] ++ c) := by
      simp only [map_append, map_singleton, append_assoc]
    rw [length_append, length_singleton, hbuf, hmap]
    unfold replaceZeros
    rw [hget, ok_bind]
    unfold nonzero
    by_cases hb : b = 0
    · have hput : put (ρ := TpmRc) (a ++ r ++ [b] ++ c) (r.length + 2) [0x55] =
          .ok (a ++ r ++ [0x55] ++ c) := put_append hplace rfl
      rw [if_pos hb, if_pos hb, hput, ok_bind, append_assoc (a ++ r)]
      exact ih _
    · rw [if_neg hb, if_neg hb, append_assoc (a ++ r)]
      exact ih _

lemma rsaesPkcs1v15Encode_eq {padded message : Bytes} (rand : ℕ → UInt8) (failed : Bool)
    (hroom : message.length + 11 ≤ padded.length) :
    rsaesPkcs1v15Encode padded message rand failed =
      if failed then .error (.reply TPM_RC_FAILURE)
      else .ok ([0x00, 0x02] ++
        (drbgGenerate rand (padded.length - message.length - 3)).map nonzero ++
          0x00 :: message) := by
  obtain ⟨front, spare, rest, hparts, hfront, hspare⟩ :=
    exists_parts padded (i := padded.length - message.length) (n := message.length) (by omega)
  have hrest : rest = [] := by
    have htotal := congrArg List.length hparts
    rw [length_append, length_append] at htotal
    exact eq_nil_of_length_eq_zero (by omega)
  have hmessage : put (ρ := TpmRc) padded (padded.length - message.length) message =
      .ok (front ++ message) := by
    rw [← hfront, hparts, hrest, put_append rfl hspare.symm, append_nil]
  -- the message is in its place; the rest is written from the front
  set ps := padded.length - message.length - 3 with hps
  have hlen : (front ++ message).length = 2 + ps + 1 + message.length := by
    rw [length_append]
    omega
  have hdrop : (front ++ message).drop (2 + ps + 1) = message := drop_left' (by omega)
  generalize front ++ message = body at hmessage hlen hdrop
  have hfirst : put (ρ := TpmRc) body 0 [0] = .ok ([0] ++ body.drop 1) :=
    put_front (a := []) rfl rfl (by omega)
  have hreplace := replaceZeros_eq (a := [0] ++ [2]) rfl (drbgGenerate rand ps) (0 :: message)
  rw [length_drbgGenerate] at hreplace
  unfold rsaesPkcs1v15Encode
  dsimp only
  rw [if_neg (by omega), hmessage, ok_bind, hfirst, ok_bind,
    put_front (j := 2) (by rfl) (by rfl) (by omega), ok_bind, ← hps,
    put_front (j := 2 + ps) (by rfl) (by rw [length_drbgGenerate]) (by omega), ok_bind,
    put_front (j := 2 + ps + 1) (by rw [length_append, length_drbgGenerate]; rfl) (by rfl)
      (by omega), ok_bind, hdrop, append_assoc _ [0]]
  cases failed with
  | true => rfl
  | false => exact hreplace

lemma encodes_rsaesPkcs1v15Encode (k : ℕ) :
    Encodes k 11 rsaesPkcs1v15Encode RsaesFormat := by
  rintro padded message rand failed rfl
  by_cases hroom : message.length + 11 ≤ padded.length
  · cases failed with
    | false =>
      refine .inl ⟨hroom, rfl, _, rsaesPkcs1v15Encode_eq rand false hroom, ?_, ?_⟩
      · rw [length_append, length_append, length_map, length_drbgGenerate]
        show 2 + _ + (message.length + 1) = _
        omega
      · refine ⟨_, rfl, ?_, ?_⟩
        · rw [length_map, length_drbgGenerate]
          omega
        · intro b hb
          obtain ⟨c, -, rfl⟩ := mem_map.mp hb
          exact nonzero_ne_zero c
    | true => exact .inr ⟨.inr rfl, _, rsaesPkcs1v15Encode_eq rand true hroom⟩
  · refine .inr ⟨.inl (Nat.lt_of_not_le hroom), TPM_RC_VALUE, ?_⟩
    unfold rsaesPkcs1v15Encode
    dsimp only
    rw [if_pos (by omega)]

lemma decodes_rsaesDecode {k : ℕ} (hlow : 11 ≤ k) (hhigh : k < 2 ^ 16) :
    Decodes k rsaesDecode RsaesFormat := by
  rintro block dataOut rfl hbuffer
  obtain ⟨first, second, rest, rfl⟩ : ∃ first second rest, block = first :: second :: rest := by
    match block, hlow with
    | first :: second :: rest, _ => exact ⟨first, second, rest, rfl⟩
  have hget₀ : get (ρ := TpmRc) (first :: second :: rest) 0 = .ok first := rfl
  have hget₁ : get (ρ := TpmRc) (first :: second :: rest) 1 = .ok second := rfl
  have hlen : (first :: second :: rest).length = rest.length + 2 := rfl
  rw [hlen] at hlow hhigh
  have hsearch := scan_spec (f := findZero (first :: second :: rest)) (g := fun _ p => p)
    (q := (· = 0)) (fun _ _ => rfl) (a := [first, second]) (l := rest) (append_nil _).symm
  unfold rsaesDecode
  rw [hget₀, ok_bind, hget₁, ok_bind, hlen, Nat.add_sub_cancel]
  obtain ⟨ps, _, message, hrest, hps, rfl, hfind⟩ | ⟨hall, hfind⟩ := hsearch
  · have htotal := congrArg List.length hrest
    rw [length_append, length_cons] at htotal
    have hmod : (rest.length + 2 + 2 ^ 16 - (2 + ps.length + 1)) % 2 ^ 16 = message.length := by
      omega
    have hsub : rest.length + 2 - (2 + ps.length + 1) = message.length := by omega
    have hunique : ∀ message', RsaesFormat (first :: second :: rest) message' →
        first = 0x00 ∧ second = 0x02 ∧ 8 ≤ ps.length ∧ message' = message := by
      rintro message' ⟨ps', hsame, height, hps'⟩
      obtain ⟨hfirst, hsame⟩ := List.cons.inj hsame
      obtain ⟨hsecond, hsame⟩ := List.cons.inj hsame
      obtain ⟨rfl, rfl⟩ := delimited_unique hps hps' (hrest.symm.trans hsame)
      exact ⟨hfirst, hsecond, height, rfl⟩
    rw [show findZero (first :: second :: rest) rest.length 2 = .ok (2 + ps.length) from hfind,
      ok_bind]
    dsimp only
    rw [hmod, hsub]
    by_cases hgood : (first = 0x00 ∧ second = 0x02 ∧ 8 ≤ ps.length) ∧
        message.length ≤ dataOut.size
    · obtain ⟨⟨rfl, rfl, height⟩, hroom⟩ := hgood
      refine .inl ⟨message, ⟨ps, by rw [hrest]; rfl, height, hps⟩, hroom, ?_⟩
      have hslice : slice (ρ := TpmRc) (0x00 :: 0x02 :: rest) (2 + ps.length + 1) message.length =
          .ok message := by
        rw [hrest, append_cons]
        exact slice_back (a := 0x00 :: 0x02 :: (ps ++ [0x00])) (by simp; omega) rfl
      rw [if_neg (by simp; omega), hslice, ok_bind, put_tpm2b hbuffer hroom]
      rfl
    · refine .inr ⟨fun message' hformat => ?_, dataOut.size, ?_⟩
      · obtain ⟨hfirst, hsecond, height, rfl⟩ := hunique message' hformat
        exact Nat.lt_of_not_le fun hroom => hgood ⟨⟨hfirst, hsecond, height⟩, hroom⟩
      · rw [if_pos ?_]
        · rfl
        · by_contra hnot
          obtain ⟨hsize, hfail⟩ := not_or.mp hnot
          simp only [Bool.or_eq_true, decide_eq_true_eq, not_or, not_not] at hfail
          obtain ⟨height, -, hsecond, hfirst, -⟩ := hfail
          exact hgood ⟨⟨hfirst, hsecond, by omega⟩, Nat.le_of_not_lt hsize⟩
  · -- there is no zero behind the first two octets
    refine .inr ⟨?_, dataOut.size, ?_⟩
    · rintro message ⟨ps, hsame, -⟩
      obtain ⟨-, hsame⟩ := List.cons.inj hsame
      obtain ⟨-, hsame⟩ := List.cons.inj hsame
      refine absurd rfl (hall 0 ?_)
      rw [hsame]
      exact mem_append_right _ mem_cons_self
    · rw [show findZero (first :: second :: rest) rest.length 2 = .ok (2 + rest.length) from hfind,
        ok_bind]
      dsimp only
      rw [if_pos (.inr (by simp; omega))]
      rfl

end RfTpm.Rsa
