import RfTpm.Auth.Policy
import RfTpm.Lib.Faults

/-!
# Conditions of a policy

`PolicySptCheckCondition()` of Policy_spt.c, with the comparisons of MathOnByteBuffers.c that it
uses.  An operand is the front of a buffer; how much of the buffer is given apart.  The buffers are
lists, and an access outside of one is a fault.

What a condition says is about the operands alone (`Operation.Holds`): as unsigned numbers, as
numbers in two's complement, or as sets of bits.  `SignedCompareB()` looks at the first octet of
both buffers for the sign before it looks at the size.  With an empty operand, which
`TPM2_PolicyNV()` and `TPM2_PolicyCounterTimer()` allow, that octet is not one of the operand, and
what happens to be there decides.  In every other case the function is the condition
(`checkCondition_iff`).
-/

namespace RfTpm.Auth

open Bytes Faults List

/-! ## The functions -/

/-- `TPM_EO` -/
inductive Operation
  | eq
  | neq
  | signedGt
  | unsignedGt
  | signedLt
  | unsignedLt
  | signedGe
  | unsignedGe
  | signedLe
  | unsignedLe
  | bitSet
  | bitClear
  deriving DecidableEq

/-- The octet of a buffer. -/
def octetAt (buffer : Bytes) (i : ℕ) : Run TpmRc UInt8 :=
  match buffer[i]? with
  | some b => pure b
  | none => .error .fault

/-- The loop of `UnsignedCompareB()`: the octets that are left, from the place `i`. -/
def compareLoop (a b : Bytes) : ℕ → ℕ → Run TpmRc ℤ
  | 0, _ => pure 0
  | n + 1, i => do
    let x ← octetAt a i
    let y ← octetAt b i
    if x ≠ y then pure (if x > y then 1 else -1) else compareLoop a b n (i + 1)

/-- `UnsignedCompareB()` -/
def unsignedCompareB (aSize : ℕ) (a : Bytes) (bSize : ℕ) (b : Bytes) : Run TpmRc ℤ :=
  if aSize > bSize then pure 1
  else if aSize < bSize then pure (-1)
  else compareLoop a b aSize 0

/-- `SignedCompareB()` -/
def signedCompareB (aSize : ℕ) (a : Bytes) (bSize : ℕ) (b : Bytes) : Run TpmRc ℤ := do
  let x ← octetAt a 0
  let y ← octetAt b 0
  if (x ^^^ y) &&& 0x80 > 0 then pure (if x &&& 0x80 ≠ 0 then -1 else 1)
  else unsignedCompareB aSize a bSize b

/-- The loops for sets of bits: `test` has to hold of the octets at every place. -/
def bitLoop (test : UInt8 → UInt8 → Bool) (a b : Bytes) : ℕ → ℕ → Run TpmRc Bool
  | 0, _ => pure true
  | n + 1, i => do
    let x ← octetAt a i
    let y ← octetAt b i
    if test x y then bitLoop test a b n (i + 1) else pure false

/-- `PolicySptCheckCondition()` -/
def policySptCheckCondition (operation : Operation) (opA opB : Bytes) (size : ℕ) :
    Run TpmRc Bool :=
  match operation with
  | .eq => return (← unsignedCompareB size opA size opB) = 0
  | .neq => return (← unsignedCompareB size opA size opB) ≠ 0
  | .signedGt => return (← signedCompareB size opA size opB) > 0
  | .unsignedGt => return (← unsignedCompareB size opA size opB) > 0
  | .signedLt => return (← signedCompareB size opA size opB) < 0
  | .unsignedLt => return (← unsignedCompareB size opA size opB) < 0
  | .signedGe => return (← signedCompareB size opA size opB) ≥ 0
  | .unsignedGe => return (← unsignedCompareB size opA size opB) ≥ 0
  | .signedLe => return (← signedCompareB size opA size opB) ≤ 0
  | .unsignedLe => return (← unsignedCompareB size opA size opB) ≤ 0
  | .bitSet => bitLoop (fun x y => x &&& y == y) opA opB size 0
  | .bitClear => bitLoop (fun x y => x &&& y == 0) opA opB size 0

/-! ## What a condition says -/

/-- The number that a string stands for in two's complement. -/
def signedVal (bs : Bytes) : ℤ :=
  if bs.headD 0 ≥ 0x80 then (beVal bs : ℤ) - 256 ^ bs.length else beVal bs

namespace Operation

/-- The relation that an operation names. -/
def Holds (operation : Operation) (a b : Bytes) : Prop :=
  match operation with
  | eq => beVal a = beVal b
  | neq => beVal a ≠ beVal b
  | signedGt => signedVal a > signedVal b
  | unsignedGt => beVal a > beVal b
  | signedLt => signedVal a < signedVal b
  | unsignedLt => beVal a < beVal b
  | signedGe => signedVal a ≥ signedVal b
  | unsignedGe => beVal a ≥ beVal b
  | signedLe => signedVal a ≤ signedVal b
  | unsignedLe => beVal a ≤ beVal b
  | bitSet => ∀ i, (beVal b).testBit i = true → (beVal a).testBit i = true
  | bitClear => ∀ i, (beVal b).testBit i = true → (beVal a).testBit i = false

/-- The operations that compare signed numbers. -/
def isSigned : Operation → Bool
  | signedGt | signedLt | signedGe | signedLe => true
  | _ => false

end Operation

/-! ## Comparisons -/

/-- The result of a comparison. -/
def order {α : Type} [LinearOrder α] (x y : α) : ℤ := if x > y then 1 else if x < y then -1 else 0

section Order

variable {α : Type} [LinearOrder α] (x y : α)

lemma order_pos_iff : order x y > 0 ↔ x > y := by
  unfold order
  split_ifs with h h'
  · simp [h]
  · simp [h]
  · simp [h]

lemma order_neg_iff : order x y < 0 ↔ x < y := by
  unfold order
  split_ifs with h h'
  · simp [h.le]
  · simp [h']
  · simp [h']

lemma order_eq_zero_iff : order x y = 0 ↔ x = y := by
  unfold order
  split_ifs with h h'
  · simp [h.ne']
  · simp [h'.ne]
  · simp [le_antisymm (not_lt.mp h) (not_lt.mp h')]

lemma order_nonneg_iff : order x y ≥ 0 ↔ x ≥ y := by
  rw [ge_iff_le, ← not_lt, order_neg_iff, not_lt]

lemma order_nonpos_iff : order x y ≤ 0 ↔ x ≤ y := by
  rw [← not_lt, ← gt_iff_lt, order_pos_iff, gt_iff_lt, not_lt]

end Order

lemma order_of_lead_ne {x y p q b : ℕ} (hne : x ≠ y) (hp : p < b) (hq : q < b) :
    order (x * b + p) (y * b + q) = if x > y then 1 else -1 := by
  unfold order
  rcases Nat.lt_or_gt_of_ne hne with h | h
  · have hlt : x * b + p < y * b + q := calc
      x * b + p < x * b + b := by omega
      _ = (x + 1) * b := by ring
      _ ≤ y * b := Nat.mul_le_mul_right b h
      _ ≤ y * b + q := Nat.le_add_right _ _
    rw [if_neg (by omega), if_pos hlt, if_neg (by omega)]
  · have hlt : y * b + q < x * b + p := calc
      y * b + q < y * b + b := by omega
      _ = (y + 1) * b := by ring
      _ ≤ x * b := Nat.mul_le_mul_right b h
      _ ≤ x * b + p := Nat.le_add_right _ _
    rw [if_pos hlt, if_pos h]

lemma order_add_left (x p q : ℕ) : order (x + p) (x + q) = order p q := by
  unfold order
  simp only [gt_iff_lt, Nat.add_lt_add_iff_left]

lemma octetAt_eq {buffer : Bytes} {i : ℕ} (h : i < buffer.length) :
    octetAt buffer i = .ok buffer[i] := by
  unfold octetAt
  rw [List.getElem?_eq_getElem h]
  rfl

variable {l : Bytes}

lemma take_drop_succ {i n : ℕ} (h : i < l.length) :
    (l.drop i).take (n + 1) = l[i] :: (l.drop (i + 1)).take n := by
  rw [drop_eq_getElem_cons h, take_succ_cons]

section

variable {a b : Bytes}

lemma compareLoop_eq (n i : ℕ) (ha : i + n ≤ a.length) (hb : i + n ≤ b.length) :
    compareLoop a b n i =
      .ok (order (beVal ((a.drop i).take n)) (beVal ((b.drop i).take n))) := by
  induction n generalizing i with
  | zero => rfl
  | succ n ih =>
    have hai : i < a.length := by omega
    have hbi : i < b.length := by omega
    rw [take_drop_succ hai, take_drop_succ hbi, beVal_cons, beVal_cons]
    unfold compareLoop
    rw [octetAt_eq hai, octetAt_eq hbi, ok_bind, ok_bind]
    have hlen : ((a.drop (i + 1)).take n).length = n := by
      rw [length_take, length_drop]
      omega
    have hlen' : ((b.drop (i + 1)).take n).length = n := by
      rw [length_take, length_drop]
      omega
    have hlt := beVal_lt ((a.drop (i + 1)).take n)
    have hlt' := beVal_lt ((b.drop (i + 1)).take n)
    rw [hlen] at hlt ⊢
    rw [hlen'] at hlt' ⊢
    by_cases hne : a[i] ≠ b[i]
    · rw [if_pos hne, order_of_lead_ne (fun h => hne (UInt8.toNat_inj.mp h)) hlt hlt']
      rfl
    · rw [if_neg hne, ih (i + 1) (by omega) (by omega), not_not.mp hne, order_add_left]

lemma unsignedCompareB_eq {size : ℕ} (ha : size ≤ a.length) (hb : size ≤ b.length) :
    unsignedCompareB size a size b = .ok (order (beVal (a.take size)) (beVal (b.take size))) := by
  unfold unsignedCompareB
  rw [if_neg (Nat.lt_irrefl _), if_neg (Nat.lt_irrefl _),
    compareLoop_eq size 0 (by omega) (by omega)]
  rfl

end

lemma signedVal_cons (x : UInt8) (l : Bytes) :
    signedVal (x :: l) =
      if x ≥ 0x80 then (beVal (x :: l) : ℤ) - 256 ^ (l.length + 1) else beVal (x :: l) := rfl

lemma beVal_lt_pow (x : UInt8) (l : Bytes) :
    (beVal (x :: l) : ℤ) < 256 ^ (l.length + 1) := by
  have h := beVal_lt (x :: l)
  rw [length_cons] at h
  exact_mod_cast h

lemma order_of_sign_ne {x y : UInt8} (l l' : Bytes) (h : ¬(x ≥ 0x80 ↔ y ≥ 0x80)) :
    order (signedVal (x :: l)) (signedVal (y :: l')) = if x ≥ 0x80 then -1 else 1 := by
  have hx := beVal_lt_pow x l
  have hy := beVal_lt_pow y l'
  rw [signedVal_cons, signedVal_cons]
  unfold order
  by_cases hneg : x ≥ 0x80
  · have hpos : ¬y ≥ 0x80 := fun hy => h ⟨fun _ => hy, fun _ => hneg⟩
    rw [if_pos hneg, if_neg hpos, if_pos hneg, if_neg (by omega), if_pos (by omega)]
  · have hneg' : y ≥ 0x80 := by
      by_contra hpos
      exact h ⟨fun hx => absurd hx hneg, fun hy => absurd hy hpos⟩
    rw [if_neg hneg, if_pos hneg', if_neg hneg, if_pos (by omega)]

lemma order_of_sign_eq {x y : UInt8} {l' : Bytes} (hlen : l.length = l'.length)
    (h : x ≥ 0x80 ↔ y ≥ 0x80) :
    order (signedVal (x :: l)) (signedVal (y :: l')) =
      order (beVal (x :: l)) (beVal (y :: l')) := by
  rw [signedVal_cons, signedVal_cons, hlen]
  unfold order
  by_cases hneg : x ≥ 0x80
  · simp only [if_pos hneg, if_pos (h.mp hneg), gt_iff_lt, sub_lt_sub_iff_right, Nat.cast_lt]
  · simp only [if_neg hneg, if_neg (fun hy => hneg (h.mpr hy)), gt_iff_lt, Nat.cast_lt]

lemma and_sign : ∀ x : UInt8, x &&& 0x80 = if x ≥ 0x80 then 0x80 else 0 := by
  decide +kernel

lemma sign_tests (x y : UInt8) :
    ((x ^^^ y) &&& 0x80 > 0 ↔ ¬(x ≥ 0x80 ↔ y ≥ 0x80)) ∧ (x &&& 0x80 ≠ 0 ↔ x ≥ 0x80) := by
  have hand : (x ^^^ y) &&& 0x80 = (x &&& 0x80) ^^^ (y &&& 0x80) := by
    rw [← UInt8.toBitVec_inj]
    ext i hi
    simp [Bool.and_xor_distrib_right]
  rw [hand, and_sign x, and_sign y]
  by_cases hx : x ≥ 0x80
  · by_cases hy : y ≥ 0x80
    · simp [hx, hy]
    · simp [hx, hy]
  · by_cases hy : y ≥ 0x80
    · simp [hx, hy]
    · simp [hx, hy]

variable {a b : Bytes}

lemma signedCompareB_eq {size : ℕ} (hpos : size ≠ 0) (ha : size ≤ a.length)
    (hb : size ≤ b.length) :
    signedCompareB size a size b =
      .ok (order (signedVal (a.take size)) (signedVal (b.take size))) := by
  have hunsigned := unsignedCompareB_eq ha hb
  obtain ⟨n, rfl⟩ := Nat.exists_eq_succ_of_ne_zero hpos
  cases a with
  | nil => simp at ha
  | cons x l =>
    cases b with
    | nil => simp at hb
    | cons y l' =>
      rw [take_succ_cons, take_succ_cons] at hunsigned ⊢
      unfold signedCompareB
      rw [octetAt_eq (by simp), octetAt_eq (by simp), ok_bind, ok_bind]
      simp only [getElem_cons_zero]
      by_cases hsign : (x ≥ 0x80 ↔ y ≥ 0x80)
      · rw [if_neg (fun hc => (sign_tests x y).1.mp hc hsign), hunsigned, order_of_sign_eq _ hsign]
        rw [length_cons] at ha hb
        rw [length_take, length_take]
        omega
      · rw [if_pos ((sign_tests x y).1.mpr hsign), order_of_sign_ne _ _ hsign]
        simp only [(sign_tests x y).2]
        rfl

/-! ## Sets of bits -/

lemma bitLoop_eq (test : UInt8 → UInt8 → Bool) (n i : ℕ) (ha : i + n ≤ a.length)
    (hb : i + n ≤ b.length) :
    ∃ r, bitLoop test a b n i = .ok r ∧
      (r = true ↔ List.Forall₂ (fun x y => test x y = true) ((a.drop i).take n)
        ((b.drop i).take n)) := by
  induction n generalizing i with
  | zero => exact ⟨true, rfl, fun _ => .nil, fun _ => rfl⟩
  | succ n ih =>
    have hai : i < a.length := by omega
    have hbi : i < b.length := by omega
    rw [take_drop_succ hai, take_drop_succ hbi, List.forall₂_cons]
    unfold bitLoop
    rw [octetAt_eq hai, octetAt_eq hbi, ok_bind, ok_bind]
    by_cases htest : test a[i] b[i] = true
    · obtain ⟨r, hr, hiff⟩ := ih (i + 1) (by omega) (by omega)
      refine ⟨r, ?_, ?_⟩
      · rw [if_pos htest, hr]
      · rw [hiff]
        exact ⟨fun h => ⟨htest, h⟩, fun h => h.2⟩
    · refine ⟨false, by rw [if_neg htest]; rfl, nofun, fun h => ?_⟩
      exact absurd h.1 htest

lemma testBit_beVal_cons (x : UInt8) (l : Bytes) (j : ℕ) :
    (beVal (x :: l)).testBit j =
      if j < 8 * l.length then (beVal l).testBit j else x.toNat.testBit (j - 8 * l.length) := by
  have hpow : 256 ^ l.length = 2 ^ (8 * l.length) := by
    rw [Nat.pow_mul]
  have hlt := beVal_lt l
  rw [hpow] at hlt
  rw [beVal_cons, hpow, Nat.mul_comm, Nat.testBit_two_pow_mul_add _ hlt]

lemma forall_testBit_iff (R : Bool → Bool → Prop) (hlen : a.length = b.length)
    (hzero : R false false) :
    (∀ j, R ((beVal a).testBit j) ((beVal b).testBit j)) ↔
      List.Forall₂ (fun x y => ∀ j, R (x.toNat.testBit j) (y.toNat.testBit j)) a b := by
  induction a generalizing b with
  | nil =>
    cases b with
    | nil =>
      refine ⟨fun _ => .nil, fun _ j => ?_⟩
      rw [show beVal [] = 0 from rfl, Nat.zero_testBit]
      exact hzero
    | cons y l' => simp at hlen
  | cons x l ih =>
    cases b with
    | nil => simp at hlen
    | cons y l' =>
      have hlen' : l.length = l'.length := by simpa using hlen
      rw [List.forall₂_cons, ← ih hlen']
      simp only [testBit_beVal_cons, hlen']
      constructor
      · intro h
        refine ⟨fun j => ?_, fun j => ?_⟩
        · have hj := h (j + 8 * l'.length)
          rwa [if_neg (by omega), if_neg (by omega), Nat.add_sub_cancel] at hj
        · by_cases hj : j < 8 * l'.length
          · have hbit := h j
            rwa [if_pos hj, if_pos hj] at hbit
          · -- beyond the string there is no bit
            have hpow : 256 ^ l'.length ≤ 2 ^ j := by
              rw [show 256 = 2 ^ 8 from rfl, ← Nat.pow_mul]
              exact Nat.pow_le_pow_right (by decide) (by omega)
            rw [Nat.testBit_lt_two_pow (lt_of_lt_of_le (hlen' ▸ beVal_lt l) hpow),
              Nat.testBit_lt_two_pow (lt_of_lt_of_le (beVal_lt l') hpow)]
            exact hzero
      · rintro ⟨hx, hl⟩ j
        by_cases hj : j < 8 * l'.length
        · rw [if_pos hj, if_pos hj]
          exact hl j
        · rw [if_neg hj, if_neg hj]
          exact hx _

lemma octet_and_iff (x y z : UInt8) : (x &&& y == z) = true ↔
    ∀ j, (x.toNat.testBit j && y.toNat.testBit j) = z.toNat.testBit j := by
  rw [beq_iff_eq, ← UInt8.toNat_inj, UInt8.toNat_and]
  constructor
  · intro h j
    rw [← h, Nat.testBit_and]
  · intro h
    exact Nat.eq_of_testBit_eq fun j => by rw [Nat.testBit_and, h]

lemma octet_bitSet_iff (x y : UInt8) :
    (x &&& y == y) = true ↔ ∀ j, y.toNat.testBit j = true → x.toNat.testBit j = true := by
  rw [octet_and_iff]
  refine forall_congr' fun j => ?_
  cases y.toNat.testBit j <;> simp

lemma octet_bitClear_iff (x y : UInt8) :
    (x &&& y == 0) = true ↔ ∀ j, y.toNat.testBit j = true → x.toNat.testBit j = false := by
  rw [octet_and_iff]
  refine forall_congr' fun j => ?_
  cases y.toNat.testBit j <;> simp

/-! ## The condition -/

/-- The function says whether the condition holds of the operands, and needs no more than the
operands for it. -/
structure MeansWhatItSays (operation : Operation) (opA opB : Bytes) (size : ℕ) : Prop where
  result : ∃ r, policySptCheckCondition operation opA opB size = .ok r ∧
    (r = true ↔ operation.Holds (opA.take size) (opB.take size))
  inside : policySptCheckCondition operation (opA.take size) (opB.take size) size ≠ .error .fault

section

variable {opA opB : Bytes} {size : ℕ}

variable {operation : Operation}

lemma compared_iff {compare : Run TpmRc ℤ} {order : ℤ} {P : Prop} (test : ℤ → Prop)
    [DecidablePred test] (hcompare : compare = .ok order) (hiff : test order ↔ P) :
    ∃ r, (do return decide (test (← compare)) : Run TpmRc Bool) = .ok r ∧ (r = true ↔ P) := by
  refine ⟨decide (test order), by rw [hcompare]; rfl, ?_⟩
  rw [decide_eq_true_iff]
  exact hiff

lemma checkCondition_result (h : operation.isSigned = true → size ≠ 0) (ha : size ≤ opA.length)
    (hb : size ≤ opB.length) :
    ∃ r, policySptCheckCondition operation opA opB size = .ok r ∧
      (r = true ↔ operation.Holds (opA.take size) (opB.take size)) := by
  have hunsigned := unsignedCompareB_eq ha hb
  have hsigned := fun hs => signedCompareB_eq (h hs) ha hb
  have hlen : (opA.take size).length = (opB.take size).length := by
    rw [length_take, length_take]
    omega
  cases operation with
  | eq => exact compared_iff (· = 0) hunsigned (order_eq_zero_iff _ _)
  | neq => exact compared_iff (· ≠ 0) hunsigned (order_eq_zero_iff _ _).not
  | unsignedGt => exact compared_iff (· > 0) hunsigned (order_pos_iff _ _)
  | unsignedLt => exact compared_iff (· < 0) hunsigned (order_neg_iff _ _)
  | unsignedGe => exact compared_iff (· ≥ 0) hunsigned (order_nonneg_iff _ _)
  | unsignedLe => exact compared_iff (· ≤ 0) hunsigned (order_nonpos_iff _ _)
  | signedGt => exact compared_iff (· > 0) (hsigned rfl) (order_pos_iff _ _)
  | signedLt => exact compared_iff (· < 0) (hsigned rfl) (order_neg_iff _ _)
  | signedGe => exact compared_iff (· ≥ 0) (hsigned rfl) (order_nonneg_iff _ _)
  | signedLe => exact compared_iff (· ≤ 0) (hsigned rfl) (order_nonpos_iff _ _)
  | bitSet =>
    obtain ⟨r, hr, hiff⟩ :=
      bitLoop_eq (fun x y => x &&& y == y) size 0 (by simpa using ha) (by simpa using hb)
    refine ⟨r, hr, ?_⟩
    rw [hiff]
    simp only [octet_bitSet_iff, drop_zero]
    exact (forall_testBit_iff (fun p q => q = true → p = true) hlen (fun h => h)).symm
  | bitClear =>
    obtain ⟨r, hr, hiff⟩ :=
      bitLoop_eq (fun x y => x &&& y == 0) size 0 (by simpa using ha) (by simpa using hb)
    refine ⟨r, hr, ?_⟩
    rw [hiff]
    simp only [octet_bitClear_iff, drop_zero]
    exact (forall_testBit_iff (fun p q => q = true → p = false) hlen (fun _ => rfl)).symm

lemma checkCondition_empty (h : operation.isSigned = true) (opA opB : Bytes) :
    policySptCheckCondition operation (opA.take 0) (opB.take 0) 0 = .error .fault := by
  cases operation with
  | signedGt | signedLt | signedGe | signedLe => rfl
  | eq | neq | unsignedGt | unsignedLt | unsignedGe | unsignedLe | bitSet | bitClear => cases h

/-- **A condition means what it says** unless it compares empty operands as signed numbers. -/
theorem checkCondition_iff (operation : Operation) (opA opB : Bytes) (size : ℕ)
    (ha : size ≤ opA.length) (hb : size ≤ opB.length) :
    MeansWhatItSays operation opA opB size ↔ (operation.isSigned = true → size ≠ 0) := by
  constructor
  · rintro ⟨-, hinside⟩ hsigned rfl
    exact hinside (checkCondition_empty hsigned opA opB)
  · intro h
    refine ⟨checkCondition_result h ha hb, ?_⟩
    have hlen (l : Bytes) (hl : size ≤ l.length) : size ≤ (l.take size).length := by
      rw [length_take]
      omega
    obtain ⟨r, hr, -⟩ := checkCondition_result h (hlen opA ha) (hlen opB hb)
    rw [hr]
    exact fun heq => by cases heq

end

/-- A signed comparison of two octets. -/
theorem checkCondition_signed_octets :
    MeansWhatItSays .signedLt [0xFF, 0] [0x01, 0] 1 ↔
      (Operation.isSigned .signedLt = true → 1 ≠ 0) :=
  checkCondition_iff .signedLt [0xFF, 0] [0x01, 0] 1 (by decide) (by decide)

/-- Two empty operands are not equal as signed numbers if the octets in the buffers have different
signs. -/
theorem checkCondition_empty_signed :
    policySptCheckCondition .signedGt [0x00] [0x80] 0 = .ok true ∧
      policySptCheckCondition .signedGe [0x80] [0x00] 0 = .ok false ∧
      ¬Operation.Holds .signedGt [] [] ∧ Operation.Holds .signedGe [] [] ∧
      ¬MeansWhatItSays .signedGt [0x00] [0x80] 0 :=
  ⟨by decide, by decide, lt_irrefl _, le_refl (0 : ℤ), fun h => h.inside rfl⟩

end RfTpm.Auth
