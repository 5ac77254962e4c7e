import RfTpm.X509.Certify
import RfTpm.Lib.Parser

/-!
# Bit strings

`ASN1GetBitStringValue` reads a bit string of up to 32 bits and justifies it to the left.  Its loop
collects the octets in 32 bits and refuses to shift out a bit that is set.  That is a test of the
value and not of the number of bits: a string of more than 32 bits whose first octets are zero
passes it, and the shift that justifies the value has a negative count then.

C leaves the result of such a shift open.  `checkedGetBitStringValue` is the function with every
count tested, so that a shift without a meaning is a fault, and wherever it has no fault the two are
the same.  `outcome_of_isAt` says what it does to a bit string, of any number of bits.
-/

namespace RfTpm.X509

open Faults Bytes List

/-! ## Shifts with a meaning -/

section Model

variable (cert : Bytes)

/-- The count of a shift of 32 bits. -/
def shiftCount (count : ℤ) : Run TpmRc Unit :=
  if 0 ≤ count ∧ count < 32 then pure () else .error .fault

/-- `ASN1GetBitStringValue` with the counts of its shifts tested. -/
def checkedGetBitStringValue (ctx : Context) : Run TpmRc (Option UInt32 × Context) :=
  getBitStringValue cert shiftCount ctx

lemma same_shiftCount (count : ℤ) : SameUnlessFault (shiftCount count) (pure ()) := by
  unfold shiftCount
  split
  · exact .refl _
  · exact .inl rfl

lemma same_bitStringEnd (inputBits : ℤ) : ∀ r : Option UInt32 × Context,
    SameUnlessFault (bitStringEnd shiftCount inputBits r)
      (bitStringEnd (fun _ => pure ()) inputBits r)
  | (none, _) => .refl _
  | (some _, _) => .ite ((same_shiftCount _).bind fun _ => .refl _) (.refl _)

lemma same_bitStringLast (shift : UInt8) (value : UInt32) (ctx : Context) :
    SameUnlessFault (bitStringLast cert shiftCount shift value ctx)
      (bitStringLast cert (fun _ => pure ()) shift value ctx) := by
  refine (same_shiftCount _).bind fun _ => .ite ?_ (.refl _)
  exact .bind (.refl _) fun _ => (same_shiftCount _).bind fun _ => .refl _

lemma same_checked (ctx : Context) :
    SameUnlessFault (checkedGetBitStringValue cert ctx) (asn1GetBitStringValue cert ctx) := by
  refine .bind (.refl _) fun (_, _) => .ite (.bind (.refl _) fun (_, _) => .ite ?_ (.refl _))
    (.refl _)
  refine .bind (.refl _) fun (value, _) => ?_
  cases value with
  | none => exact .refl _
  | some value =>
    exact .ite ((same_bitStringLast cert _ value _).bind (same_bitStringEnd _))
      (same_bitStringEnd _ _)

end Model

/-! ## Bit strings and their values -/

/-- A bit string: octets with the most significant bit first, and how many bits of the last octet
do not belong to the string. -/
structure BitString where
  unused : UInt8
  octets : Bytes
  unused_lt : unused < 8
  unused_nil : octets = [] → unused = 0

namespace BitString

/-- The number of bits. -/
def bits (s : BitString) : ℕ := 8 * s.octets.length - s.unused.toNat

/-- The bits as a number. -/
def number (s : BitString) : ℕ := beVal s.octets / 2 ^ s.unused.toNat

/-- The bits at the left of a word of 32 bits, with zeros behind them. -/
def justified (s : BitString) : ℕ := s.number * 2 ^ (32 - s.bits)

/-- The string is the first element of `l`. -/
def IsAt (l : Bytes) (s : BitString) : Prop :=
  ∃ rest, nextElement l =
    some (ASN1_BITSTRING, s.octets.length + 1, s.unused :: s.octets ++ rest)

/-- What the loop and the last test look at: the octets before the last one have no bit set that
the test for the last octet covers. -/
def PassesTests (s : BitString) : Prop := beVal s.octets.dropLast < 2 ^ (32 - s.unused.toNat)

instance (s : BitString) : Decidable s.PassesTests :=
  inferInstanceAs (Decidable (_ < _))

lemma unused_toNat_lt (s : BitString) : s.unused.toNat < 8 := UInt8.lt_iff_toNat_lt.mp s.unused_lt

lemma bits_le_iff (s : BitString) : s.bits ≤ 32 ↔ s.octets.length ≤ 4 := by
  have hlt := s.unused_toNat_lt
  unfold bits
  omega

lemma passesTests_of_bits_le {s : BitString} (h : s.bits ≤ 32) : s.PassesTests := by
  have hlt := s.unused_toNat_lt
  have hlen : s.octets.dropLast.length ≤ 3 := by
    have hle := s.bits_le_iff.mp h
    rw [length_dropLast]
    omega
  calc beVal s.octets.dropLast < 256 ^ s.octets.dropLast.length := beVal_lt _
    _ ≤ 256 ^ 3 := Nat.pow_le_pow_right (by decide) hlen
    _ = 2 ^ 24 := by norm_num
    _ ≤ 2 ^ (32 - s.unused.toNat) := Nat.pow_le_pow_right (by decide) (by omega)

lemma IsAt.unique {l : Bytes} {s s' : BitString} (h : s.IsAt l) (h' : s'.IsAt l) :
    s = s' := by
  obtain ⟨rest, helem⟩ := h
  obtain ⟨rest', helem'⟩ := h'
  rw [helem] at helem'
  obtain ⟨unused, octets, hlt, hnil⟩ := s
  obtain ⟨unused', octets', hlt', hnil'⟩ := s'
  simp only [Option.some.injEq, Prod.mk.injEq, true_and, cons_append, List.cons.injEq,
    Nat.add_right_cancel_iff] at helem'
  obtain ⟨hlen, rfl, happend⟩ := helem'
  obtain ⟨rfl, -⟩ := append_inj happend hlen
  rfl

end BitString

/-! ## What the function does -/

lemma and_high_eq_zero_iff {x n k : ℕ} (hx : x < 2 ^ n) (hk : k ≤ n) :
    x &&& (2 ^ n - 2 ^ k) = 0 ↔ x < 2 ^ k := by
  rw [and_high_bits hx hk, Nat.mul_eq_zero, or_iff_right (Nat.two_pow_pos k).ne',
    Nat.div_eq_zero_iff_lt (Nat.two_pow_pos k)]

lemma loop_test_iff (value : UInt32) : value &&& 0xFF000000 = 0 ↔ value.toNat < 2 ^ 24 := by
  have hmask : (0xFF000000 : UInt32).toNat = 2 ^ 32 - 2 ^ 24 := by decide
  rw [← UInt32.toNat_inj, UInt32.toNat_and, hmask]
  exact and_high_eq_zero_iff value.toNat_lt (Nat.le_add_right 24 8)

lemma last_mask : ∀ shift : UInt8, shift < 8 →
    ((0xFF000000 : UInt32) <<< (8 - shift.toUInt32)).toNat = 2 ^ 32 - 2 ^ (32 - shift.toNat) := by
  decide +kernel

lemma last_test_iff {shift : UInt8} (h : shift < 8) (value : UInt32) :
    value &&& ((0xFF000000 : UInt32) <<< (8 - shift.toUInt32)) = 0 ↔
      value.toNat < 2 ^ (32 - shift.toNat) := by
  rw [← UInt32.toNat_inj, UInt32.toNat_and, last_mask shift h]
  exact and_high_eq_zero_iff value.toNat_lt (Nat.sub_le _ _)

section Spec

variable {cert : Bytes} {ctx : Context}

lemma bitStringLoop_spec {octets rest : Bytes} (h : Inside cert ctx)
    (hview : view cert ctx = octets ++ rest) (value : UInt32) :
    ∃ r ctx', bitStringLoop cert octets.length value ctx = .ok (r, ctx') ∧
      (r.isSome ↔ value.toNat * 256 ^ octets.length + beVal octets < 2 ^ 32) ∧
      ∀ w, r = some w → w.toNat = value.toNat * 256 ^ octets.length + beVal octets ∧
        Inside cert ctx' ∧ view cert ctx' = rest := by
  induction octets generalizing value ctx with
  | nil =>
    have hval : value.toNat * 256 ^ ([] : Bytes).length + beVal [] = value.toNat := by
      simp [beVal, leVal]
    refine ⟨some value, ctx, rfl, ?_, ?_⟩
    · rw [hval]
      exact iff_of_true rfl value.toNat_lt
    · rintro w ⟨rfl⟩
      exact ⟨hval.symm, h, hview⟩
  | cons b octets ih =>
    have hb := b.toNat_lt
    have hsum : value.toNat * 256 ^ (b :: octets).length + beVal (b :: octets) =
        (value.toNat * 256 + b.toNat) * 256 ^ octets.length + beVal octets := by
      rw [beVal_cons, length_cons, Nat.pow_succ]
      ring
    rw [hsum, length_cons]
    unfold bitStringLoop
    by_cases htest : value &&& 0xFF000000 = 0
    · have hsmall := (loop_test_iff value).mp htest
      obtain ⟨hread, hin₁, hview₁⟩ := nextOctet_spec h hview
      have hnext : ((value <<< 8) + b.toUInt32).toNat = value.toNat * 256 + b.toNat := by
        rw [UInt32.toNat_add, UInt32.toNat_shiftLeft, UInt8.toNat_toUInt32, Nat.shiftLeft_eq]
        show (value.toNat * 2 ^ 8 % 2 ^ 32 + b.toNat) % 2 ^ 32 = _
        omega
      rw [if_pos htest, hread, ok_bind, ← hnext]
      exact ih hin₁ hview₁ _
    · have hlarge : 2 ^ 24 ≤ value.toNat := by
        rw [loop_test_iff] at htest
        omega
      have hover :
          ¬(value.toNat * 256 + b.toNat) * 256 ^ octets.length + beVal octets < 2 ^ 32 := by
        have hpos : 1 ≤ 256 ^ octets.length := Nat.one_le_pow _ _ (by decide)
        have hmul := Nat.mul_le_mul (show 2 ^ 32 ≤ value.toNat * 256 + b.toNat by omega) hpos
        omega
      rw [if_neg htest]
      exact ⟨none, ctx, rfl, iff_of_false Bool.false_ne_true hover, fun w hw => by cases hw⟩

lemma shiftCount_eq {count : ℤ} (hpos : 0 ≤ count) (hlt : count < 32) :
    shiftCount count = .ok () := if_pos ⟨hpos, hlt⟩

/-- The value with the last octet, before the shift to the left. -/
def withLast (shift : UInt8) (value : UInt32) (b : UInt8) : UInt32 :=
  (value <<< (8 - shift.toUInt32)) + (b >>> shift).toUInt32

lemma bitStringLast_spec {shift b : UInt8} {rest : Bytes} (h : Inside cert ctx)
    (hview : view cert ctx = b :: rest) (hshift : shift < 8) (value : UInt32) :
    bitStringLast cert shiftCount shift value ctx =
      .ok (if value.toNat < 2 ^ (32 - shift.toNat) then
        (some (withLast shift value b), { ctx with offset := ctx.offset + 1 })
      else (none, ctx)) := by
  have hlt : shift.toNat < 8 := UInt8.lt_iff_toNat_lt.mp hshift
  obtain ⟨hread, -, -⟩ := nextOctet_spec h hview
  unfold bitStringLast
  rw [shiftCount_eq (by omega) (by omega), ok_bind]
  by_cases htest : value.toNat < 2 ^ (32 - shift.toNat)
  · rw [if_pos ((last_test_iff hshift value).mpr htest), if_pos htest, hread, ok_bind,
      shiftCount_eq (by omega) (by omega)]
    rfl
  · rw [if_neg (fun hc => htest ((last_test_iff hshift value).mp hc)), if_neg htest]
    rfl

lemma bitStringEnd_some (bits : ℕ) (value : UInt32) (ctx : Context) :
    bitStringEnd shiftCount bits (some value, ctx) =
      if bits ≤ 32 then
        .ok (some (if 0 < bits then value <<< UInt32.ofNat (32 - bits) else value), ctx)
      else .error .fault := by
  unfold bitStringEnd
  dsimp only
  by_cases hpos : 0 < bits
  · rw [if_pos (by omega), if_pos hpos]
    by_cases hle : bits ≤ 32
    · have hcount : ((32 : ℤ) - bits).toNat = 32 - bits := by omega
      rw [shiftCount_eq (by omega) (by omega), ok_bind, if_pos hle, hcount]
      rfl
    · rw [if_neg hle]
      unfold shiftCount
      rw [if_neg (by omega)]
      rfl
  · rw [if_neg (by omega), if_pos (by omega), if_neg hpos]
    rfl

variable {value : UInt32} {s : BitString}

lemma toNat_justify {bits : ℕ} (hpos : 0 < bits) (hle : bits ≤ 32)
    (hlt : value.toNat < 2 ^ bits) :
    (value <<< UInt32.ofNat (32 - bits)).toNat = value.toNat * 2 ^ (32 - bits) := by
  have hcount : (UInt32.ofNat (32 - bits)).toNat = 32 - bits := by
    rw [UInt32.toNat_ofNat']
    omega
  have hfits : value.toNat * 2 ^ (32 - bits) < 2 ^ 32 := by
    calc value.toNat * 2 ^ (32 - bits) < 2 ^ bits * 2 ^ (32 - bits) :=
          Nat.mul_lt_mul_of_pos_right hlt (Nat.two_pow_pos _)
      _ = 2 ^ 32 := by rw [← Nat.pow_add, Nat.add_sub_cancel' hle]
  rw [UInt32.toNat_shiftLeft, hcount, Nat.mod_eq_of_lt (show 32 - bits < 32 by omega),
    Nat.shiftLeft_eq, Nat.mod_eq_of_lt hfits]

lemma toNat_withLast {shift b : UInt8} {init : Bytes} (hshift : shift < 8)
    (hvalue : value.toNat = beVal init) (hlen : init.length ≤ 3) :
    (withLast shift value b).toNat = beVal (init ++ [b]) / 2 ^ shift.toNat := by
  have hlt : shift.toNat < 8 := UInt8.lt_iff_toNat_lt.mp hshift
  have hb := b.toNat_lt
  have hinit : beVal init < 2 ^ 24 :=
    (beVal_lt init).trans_le ((Nat.pow_le_pow_right (by decide) hlen).trans_eq (by norm_num))
  have hcount : ∀ shift : UInt8, shift < 8 → (8 - shift.toUInt32).toNat = 8 - shift.toNat := by
    decide +kernel
  have hpow : 256 = 2 ^ shift.toNat * 2 ^ (8 - shift.toNat) := by
    rw [← Nat.pow_add, Nat.add_sub_cancel' hlt.le]
  have hright : (b >>> shift).toNat = b.toNat / 2 ^ shift.toNat := by
    rw [UInt8.toNat_shiftRight, Nat.mod_eq_of_lt hlt, Nat.shiftRight_eq_div_pow]
  have hdiv : beVal (init ++ [b]) / 2 ^ shift.toNat =
      beVal init * 2 ^ (8 - shift.toNat) + b.toNat / 2 ^ shift.toNat := by
    rw [beVal_concat, hpow, ← Nat.mul_assoc, Nat.mul_right_comm, Nat.mul_comm _ (2 ^ shift.toNat),
      Nat.mul_add_div (Nat.two_pow_pos _)]
  have hle : 2 ^ (8 - shift.toNat) ≤ 2 ^ 8 := Nat.pow_le_pow_right (by decide) (Nat.sub_le _ _)
  have hmul : beVal init * 2 ^ (8 - shift.toNat) + b.toNat / 2 ^ shift.toNat < 2 ^ 32 := by
    rw [← hdiv]
    have hbe := beVal_concat init b
    exact (Nat.div_le_self _ _).trans_lt (by omega)
  unfold withLast
  rw [UInt32.toNat_add, UInt32.toNat_shiftLeft, UInt8.toNat_toUInt32, hright, hcount shift hshift,
    hvalue, Nat.mod_eq_of_lt (show 8 - shift.toNat < 32 by omega), Nat.shiftLeft_eq, hdiv]
  rw [Nat.mod_eq_of_lt (show beVal init * 2 ^ (8 - shift.toNat) < 2 ^ 32 by omega),
    Nat.mod_eq_of_lt hmul]

/-- What becomes of a bit string: the value of one of up to 32 bits is exact, and one with more bits
is refused only by the tests. -/
structure Outcome (run : Run TpmRc (Option UInt32 × Context)) (s : BitString) : Prop where
  exact : s.bits ≤ 32 → ∃ v ctx', run = .ok (some v, ctx') ∧ v.toNat = s.justified
  passed : 32 < s.bits → s.PassesTests → run = .error .fault
  refused : ¬s.PassesTests → ∃ ctx', run = .ok (none, ctx')

lemma Outcome.of_refused {run : Run TpmRc (Option UInt32 × Context)} (htests : ¬s.PassesTests)
    (hrun : run = .ok (none, ctx)) : Outcome run s where
  exact hle := absurd (BitString.passesTests_of_bits_le hle) htests
  passed _ hpasses := absurd hpasses htests
  refused _ := ⟨ctx, hrun⟩

lemma Outcome.of_end (hpasses : s.PassesTests) (hvalue : s.bits ≤ 32 → value.toNat = s.number)
    (ctx : Context) : Outcome (bitStringEnd shiftCount s.bits (some value, ctx)) s := by
  rw [bitStringEnd_some]
  refine ⟨fun hle => ?_, fun hlt _ => if_neg (by omega), fun htests => absurd hpasses htests⟩
  rw [if_pos hle]
  refine ⟨_, _, rfl, ?_⟩
  have hnumber : s.number < 2 ^ s.bits := by
    unfold BitString.number BitString.bits
    rw [Nat.div_lt_iff_lt_mul (Nat.two_pow_pos _), ← Nat.pow_add]
    have hlt := s.unused_toNat_lt
    calc beVal s.octets < 256 ^ s.octets.length := beVal_lt _
      _ = 2 ^ (8 * s.octets.length) := by rw [Nat.pow_mul]
      _ ≤ _ := Nat.pow_le_pow_right (by decide) (by omega)
  unfold BitString.justified
  rw [← hvalue hle]
  rw [← hvalue hle] at hnumber
  split_ifs with hpos
  · exact toNat_justify hpos hle hnumber
  · have hzero : s.bits = 0 := by omega
    rw [hzero, Nat.pow_zero] at hnumber
    rw [Nat.lt_one_iff.mp hnumber, Nat.zero_mul]

lemma outcome_of_isAt (h : Inside cert ctx) (hs : s.IsAt (view cert ctx)) :
    Outcome (checkedGetBitStringValue cert ctx) s := by
  obtain ⟨rest, helem⟩ := hs
  obtain ⟨⟨length, ctx₁⟩, htag, hagrees⟩ := asn1NextTag_spec h
  obtain ⟨hlength, hmoved, htagged⟩ := hagrees.read helem
  obtain ⟨hread, hin₂, hview₂⟩ := nextOctet_spec hmoved.inside hmoved.view_eq
  dsimp only at hlength hmoved htagged hread hin₂ hview₂
  have hunused := s.unused_toNat_lt
  unfold checkedGetBitStringValue getBitStringValue
  rw [htag, ok_bind]
  dsimp only
  rw [if_pos ⟨by omega, htagged⟩, hread, ok_bind]
  dsimp only
  rcases eq_nil_or_concat s.octets with hnil | ⟨init, b, hconcat⟩
  · -- no octets: nothing is read any more, and the value is zero
    have hzero := s.unused_nil hnil
    have hcount : (length - 1 - 1).toNat = 0 := by
      rw [hlength, hnil]
      rfl
    have hbits : 8 * (length - 1) - (s.unused.toNat : ℤ) = (s.bits : ℕ) := by
      unfold BitString.bits
      rw [hlength, hnil, hzero]
      rfl
    have hpasses : s.PassesTests := BitString.passesTests_of_bits_le (by
      rw [s.bits_le_iff, hnil]
      exact Nat.zero_le _)
    rw [if_pos ⟨s.unused_lt, .inr hzero⟩, hcount, hbits]
    unfold bitStringLoop
    show Outcome (if length - 1 ≥ 1 then _ else bitStringEnd shiftCount s.bits (some 0, _)) s
    rw [if_neg (by rw [hlength, hnil]; decide)]
    refine .of_end hpasses (fun _ => ?_) _
    unfold BitString.number
    rw [hnil]
    exact (Nat.zero_div _).symm
  · have hlen : s.octets.length = init.length + 1 := by
      rw [hconcat, length_concat]
    have hcount : (length - 1 - 1).toNat = init.length := by omega
    have hbits : 8 * (length - 1) - (s.unused.toNat : ℤ) = (s.bits : ℕ) := by
      unfold BitString.bits
      omega
    have htests : s.PassesTests ↔ beVal init < 2 ^ (32 - s.unused.toNat) := by
      unfold BitString.PassesTests
      rw [hconcat, concat_eq_append, dropLast_concat]
    have hview₂' : view cert { ctx₁ with offset := ctx₁.offset + 1 } = init ++ (b :: rest) := by
      rw [hview₂]
      show s.octets ++ rest = init ++ (b :: rest)
      rw [hconcat, concat_eq_append, append_assoc]
      rfl
    obtain ⟨r, ctx₃, hloop, hsome, hvalue⟩ := bitStringLoop_spec hin₂ hview₂' 0
    have hsum : (0 : UInt32).toNat * 256 ^ init.length + beVal init = beVal init := by
      rw [show (0 : UInt32).toNat = 0 from rfl, Nat.zero_mul, Nat.zero_add]
    rw [hsum] at hsome hvalue
    rw [if_pos ⟨s.unused_lt, .inl (by omega)⟩, hcount, hbits, hloop, ok_bind]
    cases r with
    | none =>
      refine .of_refused (fun hpasses => ?_) rfl
      have hle : 2 ^ (32 - s.unused.toNat) ≤ 2 ^ 32 :=
        Nat.pow_le_pow_right (by decide) (Nat.sub_le _ _)
      exact absurd (hsome.mpr ((htests.mp hpasses).trans_le hle)) Bool.false_ne_true
    | some w =>
      obtain ⟨hw, hin₃, hview₃⟩ := hvalue w rfl
      dsimp only
      rw [if_pos (by omega), bitStringLast_spec hin₃ hview₃ s.unused_lt, ok_bind, hw]
      by_cases hpasses : s.PassesTests
      · rw [if_pos (htests.mp hpasses)]
        refine .of_end hpasses (fun hle => ?_) _
        have hshort : init.length ≤ 3 := by
          have hfour := s.bits_le_iff.mp hle
          omega
        rw [toNat_withLast s.unused_lt hw hshort]
        unfold BitString.number
        rw [hconcat, concat_eq_append]
      · rw [if_neg (fun hlt => hpasses (htests.mpr hlt))]
        exact .of_refused hpasses rfl

lemma refused_of_not_isAt (h : Inside cert ctx) (hs : ∀ s : BitString, ¬s.IsAt (view cert ctx)) :
    ∃ ctx', checkedGetBitStringValue cert ctx = .ok (none, ctx') := by
  obtain ⟨⟨length, ctx₁⟩, htag, hagrees⟩ := asn1NextTag_spec h
  unfold checkedGetBitStringValue getBitStringValue
  rw [htag, ok_bind]
  dsimp only
  by_cases hlength : length ≥ 1 ∧ ctx₁.tag = ASN1_BITSTRING
  · rw [if_pos hlength]
    cases helem : nextElement (view cert ctx) with
    | none =>
      have hneg : length = -1 := (hagrees.failed helem).1
      omega
    | some e =>
      obtain ⟨tag, n, contents⟩ := e
      obtain ⟨hn, hmoved, htagged⟩ := hagrees.read helem
      dsimp only at hn htagged
      have hle := (le_length_of_nextElement helem).1
      cases contents with
      | nil =>
        rw [length_nil] at hle
        omega
      | cons unused l =>
        rw [length_cons] at hle
        obtain ⟨hread, -, -⟩ := nextOctet_spec hmoved.inside hmoved.view_eq
        rw [hread, ok_bind]
        dsimp only
        by_cases hshift : unused < 8 ∧ (length - 1 > 0 ∨ unused = 0)
        · -- then the element is a bit string
          have htake : (l.take (n - 1)).length = n - 1 := by
            rw [length_take]
            omega
          have hnil : l.take (n - 1) = [] → unused = 0 := by
            intro hnil
            rw [hnil, length_nil] at htake
            exact hshift.2.resolve_left (by omega)
          refine absurd ⟨l.drop (n - 1), ?_⟩ (hs ⟨unused, l.take (n - 1), hshift.1, hnil⟩)
          dsimp only
          rw [helem, htake, ← htagged, hlength.2, cons_append, take_append_drop,
            Nat.sub_add_cancel (by omega)]
        · rw [if_neg hshift]
          exact ⟨_, rfl⟩
  · rw [if_neg hlength]
    exact ⟨_, rfl⟩

/-- The reader is exact: every shift has a meaning, so that it returns `out`, a value that is
returned is that of a bit string of up to 32 bits at the offset, in the given form, and a string of
more bits is refused. -/
structure Exact (Form : Bytes → BitString → Prop) (cert : Bytes) (ctx : Context)
    (out : Option UInt32 × Context) : Prop where
  run : checkedGetBitStringValue cert ctx = .ok out
  same : asn1GetBitStringValue cert ctx = .ok out
  value : ∀ v, out.1 = some v → ∃ s : BitString, s.IsAt (view cert ctx) ∧ Form (view cert ctx) s ∧
    s.bits ≤ 32 ∧ v.toNat = s.justified
  refuses : ∀ s : BitString, s.IsAt (view cert ctx) → 32 < s.bits → out.1 = none

lemma same_of_checked {out : Option UInt32 × Context}
    (h : checkedGetBitStringValue cert ctx = .ok out) : asn1GetBitStringValue cert ctx = .ok out :=
  (same_checked cert ctx).elim (fun hfault => nomatch h.symm.trans hfault)
    fun hsame => hsame ▸ h

/-- The tests refuse a string of more than 32 bits at the front of `l`. -/
def TestsRefuse (l : Bytes) : Prop :=
  ∀ s : BitString, s.IsAt l → 32 < s.bits → ¬s.PassesTests

/-- The form that DER asks for: the shortest length field, and zeros as the unused bits. -/
def BitString.IsDer (l : Bytes) (s : BitString) : Prop :=
  ∃ rest, l = ASN1_BITSTRING :: derLength (s.octets.length + 1) ++ s.unused :: s.octets ++ rest ∧
    beVal s.octets % 2 ^ s.unused.toNat = 0

lemma exact_iff (Form : Bytes → BitString → Prop) (h : Inside cert ctx) :
    (∃ out, Exact Form cert ctx out) ↔ TestsRefuse (view cert ctx) ∧
      ∀ s : BitString, s.IsAt (view cert ctx) → s.bits ≤ 32 → Form (view cert ctx) s := by
  constructor
  · rintro ⟨out, hrun, -, hvalue, -⟩
    refine ⟨fun s hs hlt hpasses => ?_, fun s hs hle => ?_⟩
    · rw [(outcome_of_isAt h hs).passed hlt hpasses] at hrun
      cases hrun
    · obtain ⟨v, ctx', hout, -⟩ := (outcome_of_isAt h hs).exact hle
      rw [hrun] at hout
      cases hout
      obtain ⟨s', hs', hform, -⟩ := hvalue v rfl
      rwa [hs.unique hs']
  · rintro ⟨htests, hform⟩
    by_cases hat : ∃ s : BitString, s.IsAt (view cert ctx)
    · obtain ⟨s, hs⟩ := hat
      by_cases hle : s.bits ≤ 32
      · obtain ⟨v, ctx', hout, hv⟩ := (outcome_of_isAt h hs).exact hle
        refine ⟨_, hout, same_of_checked hout, ?_, fun s' hs' hlt => ?_⟩
        · rintro w ⟨rfl⟩
          exact ⟨s, hs, hform s hs hle, hle, hv⟩
        · rw [hs.unique hs'] at hle
          omega
      · obtain ⟨ctx', hout⟩ := (outcome_of_isAt h hs).refused (htests s hs (by omega))
        exact ⟨_, hout, same_of_checked hout, nofun, fun _ _ _ => rfl⟩
    · obtain ⟨ctx', hout⟩ := refused_of_not_isAt h (not_exists.mp hat)
      exact ⟨_, hout, same_of_checked hout, nofun, fun _ _ _ => rfl⟩

lemma exact_of_size_lt (Form : Bytes → BitString → Prop) (h : ctx.size < ctx.offset) :
    view cert ctx = [] ∧ ∃ out, Exact Form cert ctx out := by
  have hview : view cert ctx = [] := by
    unfold view
    rw [Int.toNat_of_nonpos (by omega), take_zero]
  have htag : asn1NextTag cert ctx = .ok (-1, { ctx with size := -1, tag := 0xFF }) :=
    if_neg (by omega)
  have hrun : checkedGetBitStringValue cert ctx =
      .ok (none, { ctx with size := -1, tag := 0xFF }) := by
    unfold checkedGetBitStringValue getBitStringValue
    rw [htag]
    rfl
  exact ⟨hview, _, hrun, same_of_checked hrun, nofun, fun s _ _ => rfl⟩

end Spec

/-- **Bit strings are read exactly** iff the tests refuse the string at the offset if it has more
than 32 bits.  The reader takes length fields that are not the shortest ones and unused bits that
are set; that the string has the form of DER as well is a condition on the input. -/
theorem getBitStringValue_exact_iff (cert : Bytes) (ctx : Context) (hoffset : 0 ≤ ctx.offset)
    (hsize : ctx.size < 2 ^ 15) (hwithin : ctx.buffer + ctx.size ≤ cert.length) :
    ((∃ out, Exact (fun _ _ => True) cert ctx out) ↔ TestsRefuse (view cert ctx)) ∧
      ((∃ out, Exact BitString.IsDer cert ctx out) ↔ TestsRefuse (view cert ctx) ∧
        ∀ s : BitString, s.IsAt (view cert ctx) → s.bits ≤ 32 → s.IsDer (view cert ctx)) := by
  by_cases hle : ctx.offset ≤ ctx.size
  · have hinside : Inside cert ctx := ⟨hoffset, hle, hsize, hwithin⟩
    refine ⟨(exact_iff _ hinside).trans ?_, exact_iff _ hinside⟩
    exact and_iff_left fun _ _ _ => trivial
  · have hempty (s : BitString) : ¬s.IsAt [] := fun ⟨_, helem⟩ => by cases helem
    have hlt : ctx.size < ctx.offset := not_le.mp hle
    obtain ⟨hview, hexact⟩ := exact_of_size_lt (fun _ _ => True) hlt
    obtain ⟨-, hder⟩ := exact_of_size_lt BitString.IsDer hlt
    have hrefuse : TestsRefuse (view cert ctx) := by
      rw [hview]
      exact fun s hs => absurd hs (hempty s)
    refine ⟨iff_of_true hexact hrefuse, iff_of_true hder ⟨hrefuse, fun s hs => ?_⟩⟩
    rw [hview] at hs
    exact absurd hs (hempty s)

/-- A key usage of nine bits. -/
def nineBits : Bytes := [0x03, 0x03, 0x07, 0x86, 0x80]

/-- The nine bits are read exactly. -/
theorem getBitStringValue_nine_bits :
    ∃ out, Exact (fun _ _ => True) nineBits ⟨0, 5, 0, 0xFF⟩ out := by
  have htests : TestsRefuse (view nineBits ⟨0, 5, 0, 0xFF⟩) := by
    rintro s ⟨rest, helem⟩ hlt
    have hnine : nextElement (view nineBits ⟨0, 5, 0, 0xFF⟩) =
        some (ASN1_BITSTRING, 3, [0x07, 0x86, 0x80]) := by decide
    rw [hnine] at helem
    have hlen : 3 = s.octets.length + 1 := congrArg (·.2.1) (Option.some.inj helem)
    have hle := s.bits_le_iff.mpr (by omega)
    omega
  exact (getBitStringValue_exact_iff nineBits ⟨0, 5, 0, 0xFF⟩ (by decide) (by decide)
    (by decide)).1.mpr htests

/-- A string of 40 bits, of which only the last is set. -/
def fortyBits : BitString := ⟨0, [0, 0, 0, 0, 1], by decide, fun h => by cases h⟩

/-- The string of 40 bits is accepted, and its value shifted by a count of minus eight. -/
theorem getBitStringValue_forty_bits :
    fortyBits.IsAt [0x03, 0x06, 0x00, 0x00, 0x00, 0x00, 0x00, 0x01] ∧ fortyBits.bits = 40 ∧
      checkedGetBitStringValue [0x03, 0x06, 0x00, 0x00, 0x00, 0x00, 0x00, 0x01] ⟨0, 8, 0, 0xFF⟩ =
        .error .fault ∧
      ∃ v ctx', asn1GetBitStringValue [0x03, 0x06, 0x00, 0x00, 0x00, 0x00, 0x00, 0x01]
        ⟨0, 8, 0, 0xFF⟩ = .ok (some v, ctx') :=
  ⟨⟨[], by decide⟩, by decide, rfl, _, _, rfl⟩

end RfTpm.X509
