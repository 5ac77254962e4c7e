import RfTpm.X509.Certify

/-!
# Marshaling ASN.1

The part of TpmAsn1.c that builds a DER encoding.  It is built from its end: an offset starts at the
size of the buffer and goes down with every push, and is minus one once something did not fit.  The
contents of an encapsulation are pushed before its header, whose length is the difference of two
offsets.

`Pushed` says what a push does to a context, in terms of the string that it puts in front.  It
composes along `++`, so the functions are specified one on top of the other.

An integer has its leading zeros removed.  Of a zero nothing is left then, and the code pushes an
integer without contents where DER has one octet; `integerContents` has these contents as a
parameter.
-/

namespace RfTpm.X509

open Bytes CInt List

def ASN1_INTEGER : UInt8 := 0x02
def ASN1_NULL : UInt8 := 0x05
def ASN1_OBJECT_IDENTIFIER : UInt8 := 0x06
def INT16_MAX : ℤ := 0x7FFF
def MAX_DEPTH : ℕ := 10

/-- `ASN1MarshalContext`, with the memory that the buffer points into.  `buffer` is `none` for a
`NULL` pointer, and `failed` says that an assertion did not hold. -/
structure MarshalContext where
  mem : Mem
  buffer : Option ℕ
  offset : ℤ
  endOffset : ℤ
  depth : ℤ
  ends : List ℤ
  failed : Bool

namespace MarshalContext

/-- Write to the buffer, if there is one. -/
def store (ctx : MarshalContext) (bytes : Bytes) : MarshalContext :=
  match ctx.buffer with
  | none => ctx
  | some b => { ctx with mem := ctx.mem.write (b + ctx.offset).toNat bytes }

/-- `pAssert`: the TPM goes to failure mode, and the code goes on. -/
def pAssert (ctx : MarshalContext) (condition : Bool) : MarshalContext :=
  { ctx with failed := ctx.failed || !condition }

end MarshalContext

/-! ## The functions -/

/-- `ASN1InitialializeMarshalContext`. -/
def asn1InitialializeMarshalContext (mem : Mem) (length : ℤ) (buffer : Option ℕ) :
    MarshalContext :=
  let offset := if buffer.isSome then length else INT16_MAX
  ⟨mem, buffer, offset, offset, -1, List.replicate MAX_DEPTH 0, false⟩

/-- `ASN1StartMarshalContext`. -/
def asn1StartMarshalContext (ctx : MarshalContext) : MarshalContext :=
  let ctx := ctx.pAssert (ctx.depth + 1 < MAX_DEPTH)
  { ctx with
    depth := ctx.depth + 1
    ends := ctx.ends.set (ctx.depth + 1).toNat ctx.endOffset
    endOffset := ctx.offset }

/-- `ASN1EndMarshalContext`: the size of what was just ended. -/
def asn1EndMarshalContext (ctx : MarshalContext) : ℤ × MarshalContext :=
  let ctx := ctx.pAssert (ctx.depth ≥ 0)
  let length := int16 (ctx.endOffset - ctx.offset)
  (length, { ctx with endOffset := ctx.ends.getD ctx.depth.toNat 0, depth := ctx.depth - 1 })

/-- `ASN1PushByte`. -/
def asn1PushByte (ctx : MarshalContext) (b : UInt8) : Bool × MarshalContext :=
  if ctx.offset > 0 then (true, { ctx with offset := ctx.offset - 1 }.store [b])
  else (false, { ctx with offset := -1 })

/-- `ASN1PushBytes`.  The bytes are `none` for a `NULL` pointer. -/
def asn1PushBytes (ctx : MarshalContext) (count : ℤ) (bytes : Option Bytes) :
    ℤ × MarshalContext :=
  if count ≥ 0 ∧ (bytes.isSome ∨ count = 0) then
    let ctx₁ := { ctx with offset := int16 (ctx.offset - count) }
    if ctx₁.offset ≥ 0 then
      match bytes with
      | some bytes => (count, if count ≠ 0 then ctx₁.store (bytes.take count.toNat) else ctx₁)
      | none => (count, ctx₁)
    else (0, { ctx₁ with offset := -1 })
  else (0, { ctx with offset := -1 })

/-- `ASN1PushNull`. -/
def asn1PushNull (ctx : MarshalContext) : ℤ × MarshalContext :=
  let ctx₁ := (asn1PushByte ctx 0).2
  let ctx₂ := (asn1PushByte ctx₁ ASN1_NULL).2
  (if ctx₂.offset ≥ 0 then 2 else 0, ctx₂)

/-- The pushes of `ASN1PushLength`. -/
def pushLengthOctets (ctx : MarshalContext) (len : ℤ) : MarshalContext :=
  if len ≤ 127 then (asn1PushByte ctx (UInt8.ofNat len.toNat)).2
  else
    let ctx₁ := (asn1PushByte ctx (UInt8.ofNat (len.toNat % 0x100))).2
    if len / 0x100 = 0 then (asn1PushByte ctx₁ 0x81).2
    else
      let ctx₂ := (asn1PushByte ctx₁ (UInt8.ofNat (len / 0x100).toNat)).2
      (asn1PushByte ctx₂ 0x82).2

/-- `ASN1PushLength`.  The start of the field is a `UINT16`. -/
def asn1PushLength (ctx : MarshalContext) (len : ℤ) : ℤ × MarshalContext :=
  let start := ctx.offset % 2 ^ 16
  let ctx₁ := if len ≥ 0 then pushLengthOctets ctx len else { ctx with offset := -1 }
  (if ctx₁.offset > 0 then int16 (start - ctx₁.offset) else 0, ctx₁)

/-- `ASN1PushTagAndLength`. -/
def asn1PushTagAndLength (ctx : MarshalContext) (tag : UInt8) (length : ℤ) :
    ℤ × MarshalContext :=
  let (bytes, ctx₁) := asn1PushLength ctx length
  let (pushed, ctx₂) := asn1PushByte ctx₁ tag
  let bytes := int16 (bytes + if pushed then 1 else 0)
  (if ctx₂.offset < 0 then 0 else bytes, ctx₂)

/-- `ASN1EndEncapsulation`. -/
def asn1EndEncapsulation (ctx : MarshalContext) (tag : UInt8) : ℤ × MarshalContext :=
  let ctx₁ := if tag = ASN1_BITSTRING then (asn1PushByte ctx 0).2 else ctx
  let ctx₂ := (asn1PushTagAndLength ctx₁ tag (int16 (ctx₁.endOffset - ctx₁.offset))).2
  let (length, ctx₃) := asn1EndMarshalContext ctx₂
  (length % 2 ^ 16, ctx₃)

/-- `ASN1PushTaggedOctetString`. -/
def asn1PushTaggedOctetString (ctx : MarshalContext) (size : ℤ) (string : Bytes)
    (tag : UInt8) : ℤ × MarshalContext :=
  let ctx₁ := (asn1PushBytes ctx size (some string)).2
  let (bytes, ctx₂) := asn1PushTagAndLength ctx₁ tag size
  (int16 (size + bytes), ctx₂)

/-- The loop of `ASN1PushInteger`: the length, and the octets from the pointer on. -/
def stripLoop : ℤ → Bytes → ℤ × Bytes
  | iLen, [] => (iLen, [])
  | iLen, b :: integer =>
    if b = 0 then
      if iLen - 1 > 0 then stripLoop (iLen - 1) integer else (iLen - 1, b :: integer)
    else (iLen, b :: integer)

/-- `ASN1PushInteger`. -/
def asn1PushInteger (ctx : MarshalContext) (iLen : ℤ) (integer : Bytes) :
    ℤ × MarshalContext :=
  let (iLen, integer) := stripLoop iLen integer
  let ctx₁ := (asn1PushBytes ctx iLen (some integer)).2
  let (iLen, ctx₂) :=
    if integer.headD 0 &&& 0x80 ≠ 0 then
      let (pushed, ctx₂) := asn1PushByte ctx₁ 0
      (int16 (iLen + if pushed then 1 else 0), ctx₂)
    else (iLen, ctx₁)
  let (bytes, ctx₃) := asn1PushTagAndLength ctx₂ ASN1_INTEGER iLen
  (int16 (iLen + bytes), ctx₃)

/-- `ASN1PushUINT`. -/
def asn1PushUINT (ctx : MarshalContext) (integer : UInt32) : ℤ × MarshalContext :=
  asn1PushInteger ctx 4 (beBytes 4 integer.toNat)

/-- `ASN1PushOID`. -/
def asn1PushOID (ctx : MarshalContext) (oid : Bytes) : ℤ × MarshalContext :=
  if oid.headD 0 = ASN1_OBJECT_IDENTIFIER ∧ oid.getD 1 0 &&& 0x80 = 0 then
    asn1PushBytes ctx ((oid.getD 1 0).toNat + 2) (some oid)
  else (0, { ctx with offset := -1 })

/-! ## What a push does -/

/-- The string `l` is pushed: it stands in front of what was there if there is room, and the context
fails otherwise. -/
structure Pushed (ctx ctx' : MarshalContext) (l : Bytes) : Prop where
  room : (l.length : ℤ) ≤ ctx.offset → ctx'.offset = ctx.offset - l.length ∧
    ∀ b, ctx.buffer = some b → ctx'.mem.HasAt (b + ctx'.offset).toNat l
  full : ctx.offset < l.length → ctx'.offset = -1
  frame : ∀ a, (∀ b, ctx.buffer = some b → a < b ∨ b + ctx.offset ≤ a) → ctx'.mem a = ctx.mem a
  buffer : ctx'.buffer = ctx.buffer
  endOffset : ctx'.endOffset = ctx.endOffset
  depth : ctx'.depth = ctx.depth
  ends : ctx'.ends.length = ctx.ends.length ∧
    ∀ i : ℕ, (i : ℤ) ≤ ctx.depth → ctx'.ends.getD i 0 = ctx.ends.getD i 0
  failed : ctx'.failed = ctx.failed

/-- The offset is a place in the buffer, or minus one. -/
def Placed (ctx : MarshalContext) : Prop := -1 ≤ ctx.offset ∧ ctx.offset < 2 ^ 15

section Pushes

variable {ctx ctx₁ ctx₂ : MarshalContext} {l l' : Bytes}

lemma Pushed.placed (h : Pushed ctx ctx₁ l) (hplaced : Placed ctx) : Placed ctx₁ := by
  obtain ⟨hlow, hhigh⟩ := hplaced
  by_cases hroom : (l.length : ℤ) ≤ ctx.offset
  · have hoffset := (h.room hroom).1
    exact ⟨by omega, by omega⟩
  · have hoffset := h.full (not_le.mp hroom)
    exact ⟨by omega, by omega⟩

lemma Pushed.refl (h : Placed ctx) : Pushed ctx ctx [] where
  room _ := ⟨by simp, fun _ _ => Mem.hasAt_nil _ _⟩
  full hlt := by
    have hlow := h.1
    rw [length_nil] at hlt
    omega
  frame _ _ := rfl
  buffer := rfl
  endOffset := rfl
  depth := rfl
  ends := ⟨rfl, fun _ _ => rfl⟩
  failed := rfl

lemma Pushed.trans (h₁ : Pushed ctx ctx₁ l) (h₂ : Pushed ctx₁ ctx₂ l') :
    Pushed ctx ctx₂ (l' ++ l) where
  room hroom := by
    rw [length_append] at hroom ⊢
    obtain ⟨hoffset₁, hhas₁⟩ := h₁.room (by omega)
    obtain ⟨hoffset₂, hhas₂⟩ := h₂.room (by omega)
    refine ⟨by omega, fun b hb => Mem.hasAt_append.mpr ⟨hhas₂ b (h₁.buffer.trans hb), ?_⟩⟩
    have hplace : (b + ctx₂.offset).toNat + l'.length = (b + ctx₁.offset).toNat := by omega
    rw [hplace]
    refine (hhas₁ b hb).congr fun a hlow _ => h₂.frame a fun b' hb' => ?_
    obtain rfl : b = b' := Option.some.inj (hb.symm.trans (h₁.buffer.symm.trans hb'))
    omega
  full hlt := by
    rw [length_append] at hlt
    by_cases hroom : (l.length : ℤ) ≤ ctx.offset
    · have hoffset₁ := (h₁.room hroom).1
      exact h₂.full (by omega)
    · have hoffset₁ := h₁.full (by omega)
      exact h₂.full (by omega)
  frame a ha := by
    rw [h₂.frame a, h₁.frame a ha]
    intro b hb
    have hout := ha b (h₁.buffer.symm.trans hb)
    by_cases hroom : (l.length : ℤ) ≤ ctx.offset
    · have hoffset₁ := (h₁.room hroom).1
      omega
    · have hoffset₁ := h₁.full (by omega)
      omega
  buffer := h₂.buffer.trans h₁.buffer
  endOffset := h₂.endOffset.trans h₁.endOffset
  depth := h₂.depth.trans h₁.depth
  ends := by
    refine ⟨h₂.ends.1.trans h₁.ends.1, fun i hi => ?_⟩
    rw [h₂.ends.2 i (h₁.depth.symm ▸ hi), h₁.ends.2 i hi]
  failed := h₂.failed.trans h₁.failed

lemma pushed_store (hroom : (l.length : ℤ) ≤ ctx.offset) :
    Pushed ctx ({ ctx with offset := ctx.offset - l.length }.store l) l := by
  unfold MarshalContext.store
  cases hbuffer : ctx.buffer with
  | none =>
    refine ⟨fun _ => ⟨rfl, fun b hb => ?_⟩, fun hlt => absurd hroom (by omega), fun _ _ => rfl,
      hbuffer.symm, rfl, rfl, ⟨rfl, fun _ _ => rfl⟩, rfl⟩
    rw [hbuffer] at hb
    cases hb
  | some b =>
    refine ⟨fun _ => ⟨rfl, fun b' hb' => ?_⟩, fun hlt => absurd hroom (by omega), fun a ha => ?_,
      hbuffer.symm, rfl, rfl, ⟨rfl, fun _ _ => rfl⟩, rfl⟩
    · rw [hbuffer] at hb'
      cases hb'
      exact Mem.hasAt_write _ _ _
    · have hout := ha b hbuffer
      dsimp only
      exact Mem.write_outside (by omega)

lemma pushed_full (hlt : ctx.offset < l.length) : Pushed ctx { ctx with offset := -1 } l where
  room hroom := absurd hroom (by omega)
  full _ := rfl
  frame _ _ := rfl
  buffer := rfl
  endOffset := rfl
  depth := rfl
  ends := ⟨rfl, fun _ _ => rfl⟩
  failed := rfl

lemma pushed_pushByte (ctx : MarshalContext) (b : UInt8) :
    Pushed ctx (asn1PushByte ctx b).2 [b] := by
  unfold asn1PushByte
  by_cases hpos : ctx.offset > 0
  · rw [if_pos hpos]
    exact pushed_store (l := [b]) (by rw [length_singleton]; omega)
  · rw [if_neg hpos]
    exact pushed_full (by rw [length_singleton]; omega)

lemma pushed_pushBytes (hplaced : Placed ctx) (hlen : l.length < 2 ^ 15) (rest : Bytes) :
    Pushed ctx (asn1PushBytes ctx l.length (some (l ++ rest))).2 l := by
  obtain ⟨hlow, hhigh⟩ := hplaced
  unfold asn1PushBytes
  rw [if_pos ⟨by omega, .inl rfl⟩, int16_eq (by omega) (by omega)]
  dsimp only
  by_cases hroom : (l.length : ℤ) ≤ ctx.offset
  · rw [if_pos (by omega)]
    by_cases hcount : (l.length : ℤ) ≠ 0
    · rw [if_pos hcount, Int.toNat_natCast, take_left]
      exact pushed_store hroom
    · have hnil : l = [] := eq_nil_of_length_eq_zero (by omega)
      subst hnil
      rw [if_neg hcount]
      simpa using Pushed.refl ⟨hlow, hhigh⟩
  · rw [if_neg (by omega)]
    exact pushed_full (not_le.mp hroom)

lemma Pushed.offset_of_failed (h : Pushed ctx ctx₁ l) (hfailed : ctx.offset = -1) :
    ctx₁.offset = -1 := h.full (by omega)

lemma Pushed.of_failed (h : Pushed ctx ctx₁ l) (hfailed : ctx.offset = -1) (l' : Bytes) :
    Pushed ctx ctx₁ l' :=
  { h with
    room := fun hroom => absurd hroom (by omega)
    full := fun _ => h.offset_of_failed hfailed }

lemma pushed_pushLengthOctets (ctx : MarshalContext) (n : ℕ) (hn : n < 2 ^ 15) :
    Pushed ctx (pushLengthOctets ctx n) (derLength n) := by
  unfold pushLengthOctets derLength
  by_cases hshort : n < 0x80
  · rw [if_pos (by omega), if_pos hshort]
    exact pushed_pushByte ctx _
  · have hlow : UInt8.ofNat ((n : ℤ).toNat % 0x100) = UInt8.ofNat n := by
      rw [Int.toNat_natCast]
      exact UInt8.ofNat_mod_size
    have hfirst := pushed_pushByte ctx (UInt8.ofNat n)
    rw [if_neg (by omega), if_neg hshort, hlow]
    by_cases hone : n < 0x100
    · rw [if_pos (by omega), if_pos hone]
      exact hfirst.trans (pushed_pushByte _ 0x81)
    · have hhigh : ((n : ℤ) / 0x100).toNat = n / 0x100 := by omega
      rw [if_neg (by omega), if_neg hone, hhigh]
      exact (hfirst.trans (pushed_pushByte _ _)).trans (pushed_pushByte _ 0x82)

lemma pushed_pushLength (ctx : MarshalContext) (n : ℕ) (hn : n < 2 ^ 15) :
    Pushed ctx (asn1PushLength ctx n).2 (derLength n) := by
  unfold asn1PushLength
  rw [if_pos (by omega)]
  exact pushed_pushLengthOctets ctx n hn

lemma pushed_pushTagAndLength (ctx : MarshalContext) (tag : UInt8) (n : ℕ) (hn : n < 2 ^ 15) :
    Pushed ctx (asn1PushTagAndLength ctx tag n).2 (tag :: derLength n) :=
  (pushed_pushLength ctx n hn).trans (pushed_pushByte _ tag)

lemma pushed_pushTagAndLength_of_failed (hfailed : ctx.offset = -1) (tag : UInt8) (length : ℤ)
    (hlength : length < 2 ^ 15) (l : Bytes) :
    Pushed ctx (asn1PushTagAndLength ctx tag length).2 l := by
  by_cases hneg : length ≥ 0
  · obtain ⟨n, rfl⟩ := Int.eq_ofNat_of_zero_le hneg
    exact (pushed_pushTagAndLength ctx tag n (by omega)).of_failed hfailed l
  · have hlen : (asn1PushLength ctx length).2 = { ctx with offset := -1 } := if_neg hneg
    have hpushed : Pushed ctx (asn1PushLength ctx length).2 [0] := by
      rw [hlen]
      exact pushed_full (by rw [length_singleton]; omega)
    exact (hpushed.trans (pushed_pushByte _ tag)).of_failed hfailed l

/-! ## Elements -/

/-- The DER encoding of an element. -/
def der (tag : UInt8) (contents : Bytes) : Bytes :=
  tag :: derLength contents.length ++ contents

lemma isElement_der {tag : UInt8} (htag : tag &&& 0x1F ≠ 0x1F) {contents : Bytes}
    (hlen : contents.length < 2 ^ 15) : IsElement tag contents (der tag contents) := by
  unfold IsElement der nextElement
  dsimp only [cons_append]
  rw [if_pos htag, lengthField_derLength hlen le_rfl]
  rfl

lemma Pushed.header (h : Pushed ctx ctx₁ l) (tag : UInt8) {length : ℤ}
    (hlength : length < 2 ^ 15) (heq : (l.length : ℤ) ≤ ctx.offset → length = l.length) :
    Pushed ctx (asn1PushTagAndLength ctx₁ tag length).2 (der tag l) := by
  by_cases hroom : (l.length : ℤ) ≤ ctx.offset
  · rw [heq hroom]
    exact h.trans (pushed_pushTagAndLength ctx₁ tag l.length (by omega))
  · have hfailed := h.full (not_le.mp hroom)
    exact h.trans (pushed_pushTagAndLength_of_failed hfailed tag length hlength _)

lemma pushed_pushTaggedOctetString (hplaced : Placed ctx) (hlen : l.length < 2 ^ 15)
    (tag : UInt8) : Pushed ctx (asn1PushTaggedOctetString ctx l.length l tag).2 (der tag l) := by
  have hbytes := pushed_pushBytes hplaced hlen []
  rw [append_nil] at hbytes
  exact hbytes.header tag (by omega) fun _ => rfl

/-- The contents of an encapsulation: a bit string is made of octets. -/
def padded (tag : UInt8) (contents : Bytes) : Bytes :=
  if tag = ASN1_BITSTRING then 0 :: contents else contents

lemma pushed_start (ctx : MarshalContext) (h : ctx.depth + 1 < MAX_DEPTH) :
    (asn1StartMarshalContext ctx).failed = ctx.failed := by
  unfold asn1StartMarshalContext MarshalContext.pAssert
  rw [decide_eq_true h]
  exact Bool.or_false _

lemma pushed_encapsulation (tag : UInt8) (hplaced : Placed ctx)
    (hlow : -1 ≤ ctx.depth) (hdepth : ctx.depth + 1 < MAX_DEPTH)
    (hends : ctx.ends.length = MAX_DEPTH)
    (h : Pushed (asn1StartMarshalContext ctx) ctx₁ l) :
    Pushed ctx (asn1EndEncapsulation ctx₁ tag).2 (der tag (padded tag l)) := by
  set start := asn1StartMarshalContext ctx
  have hoffset : start.offset = ctx.offset := rfl
  have hpadded : Pushed start (if tag = ASN1_BITSTRING then (asn1PushByte ctx₁ 0).2 else ctx₁)
      (padded tag l) := by
    unfold padded
    split_ifs
    · exact h.trans (pushed_pushByte ctx₁ 0)
    · exact h
  unfold asn1EndEncapsulation
  set ctx₂ := if tag = ASN1_BITSTRING then (asn1PushByte ctx₁ 0).2 else ctx₁
  have hend : ctx₂.endOffset = ctx.offset := hpadded.endOffset
  have hheader : Pushed start
      (asn1PushTagAndLength ctx₂ tag (int16 (ctx₂.endOffset - ctx₂.offset))).2
      (der tag (padded tag l)) := by
    have hhigh := hplaced.2
    refine hpadded.header tag (int16_lt _) fun hroom => ?_
    obtain ⟨hoffset₂, -⟩ := hpadded.room hroom
    rw [hend, hoffset₂, hoffset, int16_eq (by omega) (by omega)]
    omega
  set ctx₃ := (asn1PushTagAndLength ctx₂ tag (int16 (ctx₂.endOffset - ctx₂.offset))).2
  have hdepth₃ : ctx₃.depth = ctx.depth + 1 := hheader.depth
  have hfailed : ctx₃.failed = ctx.failed := hheader.failed.trans (pushed_start ctx hdepth)
  -- the ends below the depth of the encapsulation are those before it, and its own is the end
  have hstored : ctx₃.ends.getD (ctx.depth + 1).toNat 0 = ctx.endOffset := by
    rw [hheader.ends.2 _ (by show _ ≤ ctx.depth + 1; omega)]
    show (ctx.ends.set (ctx.depth + 1).toNat ctx.endOffset).getD (ctx.depth + 1).toNat 0 = _
    rw [getD_eq_getElem?_getD, List.getElem?_set_self (by omega)]
    rfl
  refine ⟨hheader.room, hheader.full, hheader.frame, hheader.buffer, ?_, ?_, ⟨?_, fun i hi => ?_⟩,
    ?_⟩
  · show ctx₃.ends.getD ctx₃.depth.toNat 0 = _
    rw [hdepth₃, hstored]
  · show ctx₃.depth - 1 = _
    omega
  · show ctx₃.ends.length = _
    rw [hheader.ends.1]
    exact length_set
  · show ctx₃.ends.getD i 0 = _
    rw [hheader.ends.2 i (by show _ ≤ ctx.depth + 1; omega)]
    show (ctx.ends.set (ctx.depth + 1).toNat ctx.endOffset).getD i 0 = _
    rw [getD_eq_getElem?_getD, List.getElem?_set_ne (by omega), getD_eq_getElem?_getD]
  · show (ctx₃.failed || !decide (ctx₃.depth ≥ 0)) = _
    rw [decide_eq_true (by omega), hfailed]
    exact Bool.or_false _

/-! ## Integers -/

/-- The contents of an integer: without leading zeros, and with one if the first bit is set.  `zero`
are the contents of a zero. -/
def integerContents (zero octets : Bytes) : Bytes :=
  match octets.dropWhile (· == 0) with
  | [] => zero
  | b :: l => if b ≥ 0x80 then 0 :: b :: l else b :: l

lemma stripLoop_eq {octets : Bytes} (h : octets ≠ []) :
    stripLoop octets.length octets = (((octets.dropWhile (· == 0)).length : ℤ),
      if octets.dropWhile (· == 0) = [] then [0] else octets.dropWhile (· == 0)) := by
  induction octets with
  | nil => exact absurd rfl h
  | cons b l ih =>
    unfold stripLoop
    by_cases hb : b = 0
    · subst hb
      rw [if_pos rfl, dropWhile_cons_of_pos rfl]
      cases l with
      | nil => rfl
      | cons c l =>
        have hlen : ((0 :: c :: l : Bytes).length : ℤ) - 1 = (c :: l).length := by
          simp only [length_cons]
          omega
        rw [hlen, if_pos (by simp only [length_cons]; omega)]
        exact ih (cons_ne_nil c l)
    · have hkeep : (b :: l).dropWhile (· == 0) = b :: l :=
        dropWhile_cons_of_neg (by simpa using hb)
      rw [if_neg hb, hkeep, if_neg (cons_ne_nil b l)]

lemma and_sign_eq_zero_iff : ∀ b : UInt8, b &&& 0x80 = 0 ↔ b < 0x80 := by
  decide +kernel

lemma pushed_pushInteger (hplaced : Placed ctx) (hne : l ≠ []) (hlen : l.length < 2 ^ 15) :
    Pushed ctx (asn1PushInteger ctx l.length l).2 (der ASN1_INTEGER (integerContents [] l)) := by
  have hle : (l.dropWhile (· == 0)).length ≤ l.length := (dropWhile_sublist _).length_le
  unfold asn1PushInteger integerContents
  rw [stripLoop_eq hne]
  cases hstrip : l.dropWhile (· == 0) with
  | nil =>
    have hbytes := pushed_pushBytes (l := []) hplaced (by decide) [0]
    rw [nil_append] at hbytes
    dsimp only
    rw [if_pos rfl, if_neg (by decide)]
    dsimp only
    exact hbytes.header ASN1_INTEGER (by decide) fun _ => rfl
  | cons b rest =>
    rw [hstrip] at hle
    have hbytes := pushed_pushBytes (l := b :: rest) hplaced (by omega) []
    rw [append_nil] at hbytes
    dsimp only
    rw [if_neg (cons_ne_nil b rest)]
    by_cases hsign : b ≥ 0x80
    · have hbit : (b :: rest).headD 0 &&& 0x80 ≠ 0 := fun hzero =>
        absurd ((and_sign_eq_zero_iff b).mp hzero) (UInt8.not_lt.mpr hsign)
      rw [if_pos hbit, if_pos hsign]
      have hpositive := hbytes.trans (pushed_pushByte _ 0)
      refine hpositive.header ASN1_INTEGER (int16_lt _) fun hroom => ?_
      dsimp only
      -- there was room for the octet, so it is counted
      have hhigh := hplaced.2
      have htotal : (([0] ++ b :: rest : Bytes).length : ℤ) = (b :: rest).length + 1 := by
        rw [length_append, length_singleton]
        omega
      rw [htotal] at hroom ⊢
      obtain ⟨hoffset, -⟩ := hbytes.room (by omega)
      have hpushed :
          (asn1PushByte (asn1PushBytes ctx (b :: rest).length (some (b :: rest))).2 0).1 := by
        unfold asn1PushByte
        rw [if_pos (by omega)]
      rw [hpushed, if_pos rfl, int16_eq (by omega) (by omega)]
    · have hbit : ¬(b :: rest).headD 0 &&& 0x80 ≠ 0 :=
        not_not.mpr ((and_sign_eq_zero_iff b).mpr (UInt8.not_le.mp hsign))
      rw [if_neg hbit, if_neg hsign]
      exact hbytes.header ASN1_INTEGER (by omega) fun _ => rfl

end Pushes

/-- The contents of a DER integer that is not negative: it has an octet, its sign bit is not set,
and it has a leading zero only to that end. -/
structure IsDerInteger (contents : Bytes) (value : ℕ) : Prop where
  ne_nil : contents ≠ []
  value_eq : beVal contents = value
  nonneg : contents.headD 0 < 0x80
  minimal : ∀ b l, contents = 0 :: b :: l → b ≥ 0x80

lemma beVal_zero_cons (l : Bytes) : beVal (0 :: l) = beVal l := by
  rw [beVal_cons]
  show 0 * _ + _ = _
  rw [Nat.zero_mul, Nat.zero_add]

lemma beVal_dropWhile (l : Bytes) : beVal (l.dropWhile (· == 0)) = beVal l := by
  induction l with
  | nil => rfl
  | cons b l ih =>
    by_cases hb : b = 0
    · subst hb
      rw [dropWhile_cons_of_pos rfl, ih, beVal_zero_cons]
    · rw [dropWhile_cons_of_neg (by simpa using hb)]

lemma ne_zero_of_dropWhile {l rest : Bytes} {b : UInt8}
    (h : l.dropWhile (· == 0) = b :: rest) : b ≠ 0 := by
  have hhead := List.head?_dropWhile_not (· == 0) l
  rw [h] at hhead
  simpa using hhead

lemma isDerInteger_integerContents (octets : Bytes) :
    IsDerInteger (integerContents [0] octets) (beVal octets) := by
  have hval := beVal_dropWhile octets
  unfold integerContents
  cases hstrip : octets.dropWhile (· == 0) with
  | nil =>
    rw [hstrip] at hval
    exact ⟨cons_ne_nil _ _, hval, by decide, fun b l h => by cases h⟩
  | cons b rest =>
    rw [hstrip] at hval
    have hne := ne_zero_of_dropWhile hstrip
    dsimp only
    split_ifs with hsign
    · refine ⟨cons_ne_nil _ _, (beVal_zero_cons _).trans hval,
        (show (0 : UInt8) < 0x80 by decide), fun c l h => ?_⟩
      cases h
      exact hsign
    · refine ⟨cons_ne_nil _ _, hval, UInt8.not_le.mp hsign, fun c l h => ?_⟩
      cases h
      exact absurd rfl hne

lemma dropWhile_eq_nil_iff (octets : Bytes) :
    octets.dropWhile (· == 0) = [] ↔ beVal octets = 0 := by
  constructor
  · intro h
    rw [← beVal_dropWhile, h]
    rfl
  · intro h
    cases hstrip : octets.dropWhile (· == 0) with
    | nil => rfl
    | cons b rest =>
      have hb : 0 < b.toNat := by
        rcases Nat.eq_zero_or_pos b.toNat with hzero | hpos
        · exact absurd (UInt8.toNat_inj.mp hzero) (ne_zero_of_dropWhile hstrip)
        · exact hpos
      rw [← beVal_dropWhile, hstrip, beVal_cons] at h
      have hpos := Nat.mul_pos hb (Nat.pow_pos (n := rest.length) (show 0 < 256 by decide))
      omega

end RfTpm.X509
