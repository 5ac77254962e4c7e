import RfTpm.Crypt.Xor

/-!
# The generator of derivations

`DRBG_Generate()` (CryptRand.c) for a `KDF_STATE`.  A request is answered with what is left of the
last block, then with whole blocks that `CryptKDFa()` writes to the buffer of the caller, and then
with the front of a new block, of which the rest is kept.  What was delivered and what is kept are
together the blocks up to the counter (`Delivered`), however the requests are split.

`CryptKDFa()` counts the octets it makes in an `INT16`.  For whole blocks of `2 ^ 15` octets or more
the count is negative: nothing is written, the counter stays, and `DRBG_Generate()`, which ignores
what `CryptKDFa()` returns, reports success.
-/

namespace RfTpm.Derive

open Crypt Faults BlockStream List

/-- `KDF_STATE`.  `residual` is the end of the buffer of that name, which was not used yet. -/
structure KdfState where
  counter : ℕ
  limit : UInt32
  inputs : KdfaInputs
  hash : HashDef
  residual : Bytes

/-- `DRBG_InstantiateSeededKdf()`. -/
def drbgInstantiateSeededKdf (hash : HashDef) (seed : Bytes)
    (label context : Option Bytes) (limit : UInt32) : KdfState :=
  ⟨0, limit, ⟨seed, label, context, none⟩, hash, []⟩

/-- The loop of `DRBG_Generate()`: the octets that are left, the counter, the residual, and the
buffer from the place on that is written next. -/
def drbgLoop (kdf : KdfState) :
    ℕ → ℕ → UInt32 → Bytes → Bytes → Run TpmRc (UInt32 × Bytes × Bytes)
  | 0, _, _, _, _ => .error .fault
  | fuel + 1, bytesLeft, counter, residual, random =>
    if bytesLeft > 0 then
      if residual.length > 0 then do
        let size := min residual.length bytesLeft
        let (counter₁, residual₁, rest) ← drbgLoop kdf fuel (bytesLeft - size) counter
          (residual.drop size) (random.drop size)
        pure (counter₁, residual₁, residual.take size ++ rest)
      else
        let blocks := UInt16.ofNat (bytesLeft / kdf.hash.digestSize)
        if blocks > 0 then do
          let size := blocks.toNat * kdf.hash.digestSize % 2 ^ 16
          let (_, random₁, counter₁) ← cryptKDFa kdf.hash kdf.inputs kdf.limit random
            (some counter) blocks
          let (counter₂, residual₁, rest) ← drbgLoop kdf fuel (bytesLeft - size)
            (counter₁.getD counter) residual (random₁.drop size)
          pure (counter₂, residual₁, random₁.take size ++ rest)
        else do
          -- what is in the buffer of the residual is overwritten by the block
          let (size, block, counter₁) ← cryptKDFa kdf.hash kdf.inputs kdf.limit
            (replicate MAX_DIGEST_SIZE 0) (some counter) 1
          drbgLoop kdf fuel bytesLeft (counter₁.getD counter)
            ((block.take kdf.hash.digestSize).drop (kdf.hash.digestSize - size)) random
    else pure (counter, residual, random)

/-- `DRBG_Generate()` for a derivation: what it returns, the buffer and the state. -/
def drbgGenerate (kdf : KdfState) (random : Bytes) (randomSize : UInt16) :
    Run TpmRc (UInt16 × Bytes × KdfState) :=
  if (kdf.counter * kdf.hash.digestSize + randomSize.toNat) * 8 > kdf.limit.toNat then
    pure (0, random, kdf)
  else do
    let (counter, residual, random₁) ← drbgLoop kdf (2 * randomSize.toNat + 2) randomSize.toNat
      (UInt32.ofNat kdf.counter) kdf.residual random
    pure (randomSize, random₁, { kdf with counter := counter.toNat, residual })

/-- A request: its size, and the buffer with what is in it before. -/
structure Request where
  randomSize : UInt16
  random : Bytes
  room : randomSize.toNat ≤ random.length

/-- One request after the other, with the octets of those that succeed. -/
def drbgRequests (kdf : KdfState) : List Request → Run TpmRc (Bytes × KdfState)
  | [] => pure ([], kdf)
  | r :: rs => do
    let (size, random, kdf₁) ← drbgGenerate kdf r.random r.randomSize
    let (out, kdf₂) ← drbgRequests kdf₁ rs
    pure (random.take size.toNat ++ out, kdf₂)

/-- The stream of a derivation, by blocks. -/
abbrev KdfState.blocks (kdf : KdfState) : ℕ → Bytes :=
  kdfaBlocks kdf.hash kdf.inputs kdf.limit

/-- What was delivered and the residual are the blocks up to the counter. -/
structure Delivered (kdf : KdfState) (out : Bytes) : Prop where
  eq : out ++ kdf.residual = blocks kdf.blocks 1 kdf.counter
  limit : 8 * out.length ≤ kdf.limit.toNat

lemma KdfState.length_blocks (kdf : KdfState) (n : ℕ) :
    (kdf.blocks n).length = kdf.hash.digestSize := length_kdfaBlocks _ _ _

section Loop

variable {kdf : KdfState} (hpos : 0 < kdf.hash.digestSize)

include hpos in
/-- The loop writes what comes next in the stream, and keeps what is left of the blocks it made.
The bound on the rounds counts one more if there is no residual. -/
lemma drbgLoop_eq {fuel n e : ℕ} (hn : n < 2 ^ 15) (hfuel : 2 * n + e < fuel) (counter : ℕ)
    (residual : Bytes) {random : Bytes} (he : residual = [] → e = 1)
    (hroom : n ≤ random.length) :
    ∃ k ≤ n + e, ∃ out rest, out.length = n ∧
      residual ++ blocks kdf.blocks (counter + 1) k = out ++ rest ∧
      drbgLoop kdf fuel n (UInt32.ofNat counter) residual random =
        .ok (UInt32.ofNat (counter + k), rest, out ++ random.drop n) := by
  induction fuel generalizing n e counter residual random with
  | zero => cases hfuel
  | succ fuel ih =>
    unfold drbgLoop
    by_cases hmore : 0 < n
    · -- what is behind the octets of this round
      have hdrop {m : ℕ} (hm : m ≤ n) :
          n - m ≤ (random.drop m).length ∧ (random.drop m).drop (n - m) = random.drop n := by
        rw [length_drop, drop_drop, Nat.add_sub_cancel' hm]
        exact ⟨by omega, rfl⟩
      rw [if_pos hmore]
      rcases eq_or_ne residual [] with rfl | hres
      · obtain rfl := he rfl
        rw [length_nil, if_neg (Nat.lt_irrefl 0)]
        dsimp only
        set q := n / kdf.hash.digestSize with hq
        have hle : q * kdf.hash.digestSize ≤ n := Nat.div_mul_le_self _ _
        have hmul : q ≤ q * kdf.hash.digestSize := Nat.le_mul_of_pos_right q hpos
        have hnat : (UInt16.ofNat q).toNat = q :=
          UInt16.toNat_ofNat_of_lt' (show q < 2 ^ 16 by omega)
        by_cases hblocks : 0 < q
        · -- whole blocks, in the buffer
          have hkdfa := cryptKDFa_blocks hpos kdf.inputs kdf.limit hblocks (by omega) counter
            (c := random.drop (q * kdf.hash.digestSize))
            (length_take_of_le (hle.trans hroom))
          rw [take_append_drop] at hkdfa
          have hlen := length_blocks kdf.length_blocks (counter + 1) q
          obtain ⟨k, hk, out, rest, hout, hsplit, hrun⟩ := ih (e := 1) (by omega) (by omega)
            (counter + q) [] (fun _ => rfl) (hdrop hle).1
          refine ⟨q + k, by omega, blocks kdf.blocks (counter + 1) q ++ out, rest, ?_, ?_, ?_⟩
          · rw [length_append]
            omega
          · rw [nil_append, blocks_add, append_assoc, ← hsplit, nil_append, Nat.add_right_comm]
          · rw [if_pos (UInt16.lt_iff_toNat_lt.mpr (hnat.symm ▸ hblocks)), hkdfa, ok_bind]
            dsimp only [Option.getD_some]
            rw [hnat, Nat.mod_eq_of_lt (by omega), drop_left' hlen, take_left' hlen, hrun, ok_bind,
              (hdrop hle).2, ← append_assoc, Nat.add_assoc]
            rfl
        · -- a block that is kept
          have hkdfa := cryptKDFa_oneBlock hpos kdf.inputs kdf.limit counter
            (b := replicate kdf.hash.digestSize 0)
            (c := replicate (MAX_DIGEST_SIZE - kdf.hash.digestSize) 0) length_replicate
          rw [replicate_append_replicate, Nat.add_sub_cancel' kdf.hash.digestSize_le] at hkdfa
          have hne : kdf.blocks (counter + 1) ≠ [] :=
            ne_nil_of_length_pos ((kdf.length_blocks _).symm ▸ hpos)
          obtain ⟨k, hk, out, rest, hout, hsplit, hrun⟩ := ih (e := 0) hn (by omega) (counter + 1)
            _ (fun hnil => absurd hnil hne) hroom
          refine ⟨1 + k, by omega, out, rest, hout, ?_, ?_⟩
          · rw [nil_append, blocks_add, blocks, blocks, append_nil, hsplit]
          · rw [Nat.eq_zero_of_not_pos hblocks, if_neg (by decide), hkdfa, ok_bind]
            dsimp only [Option.getD_some]
            rw [take_left' (kdf.length_blocks _), Nat.sub_self, drop_zero, ← Nat.add_assoc]
            exact hrun
      · have hpart := length_pos_of_ne_nil hres
        rw [if_pos hpart]
        dsimp only
        set size := min residual.length n
        obtain ⟨k, hk, out, rest, hout, hsplit, hrun⟩ := ih (n := n - size) (e := 1) (by omega)
          (by omega) counter (residual.drop size) (fun _ => rfl)
          (hdrop (Nat.min_le_right ..)).1
        refine ⟨k, by omega, residual.take size ++ out, rest, ?_, ?_, ?_⟩
        · rw [length_append, length_take]
          omega
        · rw [append_assoc, ← hsplit, ← append_assoc, take_append_drop]
        · rw [hrun, ok_bind, (hdrop (Nat.min_le_right ..)).2, append_assoc]
          rfl
    · obtain rfl := Nat.eq_zero_of_not_pos hmore
      exact ⟨0, Nat.zero_le _, [], residual, rfl, append_nil _, rfl⟩

include hpos in
lemma drbgGenerate_delivered (r : Request)
    (hsmall : kdf.limit.toNat ≤ 8 * INT16_MAX ∨ r.randomSize.toNat ≤ INT16_MAX)
    {out : Bytes} (h : Delivered kdf out) :
    ∃ size random counter residual,
      drbgGenerate kdf r.random r.randomSize = .ok (size, random, { kdf with counter, residual }) ∧
      Delivered { kdf with counter, residual } (out ++ random.take size.toNat) := by
  unfold drbgGenerate
  split_ifs with hover
  · exact ⟨0, r.random, kdf.counter, kdf.residual, rfl, by rwa [UInt16.toNat_zero, take_zero,
      append_nil]⟩
  · unfold INT16_MAX at hsmall
    have hlimit : kdf.limit.toNat < 2 ^ 32 := kdf.limit.toNat_lt
    have hcounter := Nat.le_mul_of_pos_right kdf.counter hpos
    have hlen := congrArg length h.eq
    rw [length_append, length_blocks kdf.length_blocks] at hlen
    obtain ⟨k, hk, new, rest, hnew, hsplit, hrun⟩ := drbgLoop_eq hpos (e := 1)
      (show r.randomSize.toNat < 2 ^ 15 by omega) (Nat.lt_succ_self _) kdf.counter
      kdf.residual (fun _ => rfl) r.room
    rw [hrun, ok_bind]
    refine ⟨_, _, _, _, rfl, ?_, ?_⟩
    · rw [take_left' hnew, append_assoc, ← hsplit, ← append_assoc, h.eq,
        UInt32.toNat_ofNat_of_lt' (show kdf.counter + k < 2 ^ 32 by omega), blocks_add,
        Nat.add_comm kdf.counter 1]
    · rw [take_left' hnew, length_append]
      dsimp only
      omega

include hpos in
lemma drbgGenerate_zero {r : Request} {random : Bytes} {kdf' : KdfState}
    (h : drbgGenerate kdf r.random r.randomSize = .ok (0, random, kdf')) : kdf' = kdf := by
  unfold drbgGenerate at h
  split_ifs at h with hover
  · cases h
    rfl
  · by_cases hzero : r.randomSize = 0
    · have hlimit : kdf.limit.toNat < 2 ^ 32 := kdf.limit.toNat_lt
      have hcounter := Nat.le_mul_of_pos_right kdf.counter hpos
      have hnat : (UInt32.ofNat kdf.counter).toNat = kdf.counter :=
        UInt32.toNat_ofNat_of_lt' (show kdf.counter < 2 ^ 32 by omega)
      rw [hzero] at h
      cases h
      rw [hnat]
    · cases hloop : drbgLoop kdf (2 * r.randomSize.toNat + 2) r.randomSize.toNat
          (UInt32.ofNat kdf.counter) kdf.residual r.random with
      | error e => exact nomatch hloop ▸ h
      | ok v =>
        rw [hloop, ok_bind] at h
        exact absurd (congrArg Prod.fst (Except.ok.inj h)) hzero

include hpos in
lemma drbgRequests_delivered {requests : List Request}
    (hsmall : kdf.limit.toNat ≤ 8 * INT16_MAX ∨ ∀ r ∈ requests, r.randomSize.toNat ≤ INT16_MAX)
    {out : Bytes} (h : Delivered kdf out) :
    ∃ more counter residual,
      drbgRequests kdf requests = .ok (more, { kdf with counter, residual }) ∧
      Delivered { kdf with counter, residual } (out ++ more) := by
  induction requests generalizing kdf out with
  | nil => exact ⟨[], kdf.counter, kdf.residual, rfl, (append_nil out).symm ▸ h⟩
  | cons r rs ih =>
    obtain ⟨size, random, counter₁, residual₁, hgenerate, h₁⟩ :=
      drbgGenerate_delivered hpos r (hsmall.imp_right fun hall => hall r mem_cons_self) h
    obtain ⟨more, counter, residual, hrest, h₂⟩ :=
      @ih { kdf with counter := counter₁, residual := residual₁ } hpos
        (hsmall.imp_right fun hall r' hr => hall r' (mem_cons_of_mem r hr)) _ h₁
    refine ⟨random.take size.toNat ++ more, counter, residual, ?_, append_assoc out _ more ▸ h₂⟩
    rw [drbgRequests, hgenerate, ok_bind]
    dsimp only
    rw [hrest]
    rfl

end Loop

/-- **A derivation is a stream.**  The octets of the requests that succeed are the front of the
blocks of `CryptKDFa()` for the limit, so they do not depend on how the requests are split.  They
are no more than the limit, and a request that returns zero changes nothing. -/
theorem derivation_stream (h : HashDef) (hpos : 0 < h.digestSize) (seed : Bytes)
    (label context : Option Bytes) (limit : UInt32) (requests : List Request)
    (hsmall : limit.toNat ≤ 8 * INT16_MAX ∨ ∀ r ∈ requests, r.randomSize.toNat ≤ INT16_MAX) :
    ∃ out kdf, drbgRequests (drbgInstantiateSeededKdf h seed label context limit) requests =
        .ok (out, kdf) ∧
      out <+: blocks (kdfaBlocks h ⟨seed, label, context, none⟩ limit) 1 kdf.counter ∧
      8 * out.length ≤ limit.toNat ∧
      ∀ (r : Request) (random : Bytes) (kdf' : KdfState),
        drbgGenerate kdf r.random r.randomSize = .ok (0, random, kdf') → kdf' = kdf := by
  obtain ⟨out, counter, residual, hrun, hout⟩ :=
    @drbgRequests_delivered (drbgInstantiateSeededKdf h seed label context limit) hpos _ hsmall []
      ⟨rfl, Nat.zero_le _⟩
  exact ⟨out, _, hrun, ⟨residual, hout.eq⟩, hout.limit, fun _ _ _ => drbgGenerate_zero hpos⟩

/-- Three octets and one: the second request takes what the first left of the second block. -/
theorem derivation_stream_four : 0 < lengthHash.digestSize ∧
    ∃ out kdf, drbgRequests (drbgInstantiateSeededKdf lengthHash [0xAA] none none 64)
        [⟨3, [0, 0, 0], by decide⟩, ⟨1, [0], by decide⟩] = .ok (out, kdf) ∧
      out <+: blocks (kdfaBlocks lengthHash ⟨[0xAA], none, none, none⟩ 64) 1 kdf.counter := by
  obtain ⟨out, kdf, hrun, hprefix, -⟩ := derivation_stream lengthHash (by decide) [0xAA] none none
    64 [⟨3, [0, 0, 0], by decide⟩, ⟨1, [0], by decide⟩] (.inl (by decide))
  exact ⟨by decide, out, kdf, hrun, hprefix⟩

/-- A derivation with room for `2 ^ 16` octets. -/
def wideKdf : KdfState := drbgInstantiateSeededKdf lengthHash [] none none 0x80000

/-- A request for whole blocks of `2 ^ 15` octets returns with success what was in the buffer. -/
theorem derivation_stale : ∃ out kdf,
    drbgRequests wideKdf [⟨0x8000, replicate 0x8000 0xFF, length_replicate.ge⟩] = .ok (out, kdf) ∧
      ∀ k, ¬ out <+: blocks wideKdf.blocks 1 k := by
  have hgenerate (buf : Bytes) : drbgGenerate wideKdf buf 0x8000 =
      .ok (0x8000, buf.take 0x8000 ++ buf.drop 0x8000, wideKdf) := rfl
  refine ⟨replicate 0x8000 0xFF, wideKdf, ?_, fun k hprefix => ?_⟩
  · rw [drbgRequests, hgenerate, ok_bind, take_append_drop]
    dsimp only [drbgRequests]
    rw [take_of_length_le (length_replicate.le.trans (by decide))]
    exact congrArg (fun out => Except.ok (out, _)) (append_nil _)
  · -- the first octet of the stream is the length of what the outer hash takes
    obtain ⟨x, hblock⟩ : ∃ x, wideKdf.blocks 1 = [6, x] := ⟨_, rfl⟩
    obtain ⟨rest, hrest⟩ := hprefix
    rw [replicate_succ (n := 0x7FFF), cons_append] at hrest
    cases k with
    | zero => exact nomatch hrest
    | succ k =>
      rw [blocks, hblock] at hrest
      exact absurd (cons.inj hrest).1 (by decide)

end RfTpm.Derive
