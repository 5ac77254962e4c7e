import RfTpm.X509.Push

/-!
# Writing DER

Structures that are built with the functions of `RfTpm.X509.Push`: sequences of pushes with
balanced encapsulations.  `Pushes.run` makes the calls and `Pushes.encode` is the string that they
push.  The contents of a zero are a parameter of the encoding: with `[]` it is what the code does
(`Pushes.pushed_run`), and with `[0]` it is DER (`Pushes.parsesAs_encode`).
-/

namespace RfTpm.X509

open Bytes

/-! ## Structures -/

/-- Octets that a count of 16 bits can stand for. -/
structure Octets where
  bytes : Bytes
  length_lt : bytes.length < 2 ^ 15

/-- An integer: one octet or more. -/
structure IntegerOctets extends Octets where
  ne_nil : bytes ≠ []

/-- An object identifier, with its length in one octet. -/
structure ObjectIdentifier where
  length : UInt8
  body : Bytes
  length_eq : body.length = length.toNat
  length_lt : length < 0x80

/-- The octets of an object identifier. -/
def ObjectIdentifier.bytes (oid : ObjectIdentifier) : Bytes :=
  ASN1_OBJECT_IDENTIFIER :: oid.length :: oid.body

/-- A push that is not an encapsulation. -/
inductive Push
  | byte (b : UInt8)
  | bytes (octets : Octets)
  | null
  | integer (octets : IntegerOctets)
  | uint (value : UInt32)
  | taggedOctetString (octets : Octets) (tag : UInt8)
  | oid (identifier : ObjectIdentifier)

namespace Push

/-- The call that makes the push. -/
def run : Push → MarshalContext → MarshalContext
  | byte b, ctx => (asn1PushByte ctx b).2
  | bytes octets, ctx => (asn1PushBytes ctx octets.bytes.length (some octets.bytes)).2
  | null, ctx => (asn1PushNull ctx).2
  | integer octets, ctx => (asn1PushInteger ctx octets.bytes.length octets.bytes).2
  | uint value, ctx => (asn1PushUINT ctx value).2
  | taggedOctetString octets tag, ctx =>
    (asn1PushTaggedOctetString ctx octets.bytes.length octets.bytes tag).2
  | oid identifier, ctx => (asn1PushOID ctx identifier.bytes).2

/-- The string that is pushed; `zero` are the contents of a zero. -/
def encode (zero : Bytes) : Push → Bytes
  | byte b => [b]
  | bytes octets => octets.bytes
  | null => der ASN1_NULL []
  | integer octets => der ASN1_INTEGER (integerContents zero octets.bytes)
  | uint value => der ASN1_INTEGER (integerContents zero (beBytes 4 value.toNat))
  | taggedOctetString octets tag => der tag octets.bytes
  | oid identifier => der ASN1_OBJECT_IDENTIFIER identifier.body

/-- The push of a zero. -/
def isZero : Push → Bool
  | integer octets => beVal octets.bytes == 0
  | uint value => value == 0
  | byte _ | bytes _ | null | taggedOctetString _ _ | oid _ => false

/-- The tag has one octet. -/
def TagOk : Push → Prop
  | taggedOctetString _ tag => tag &&& 0x1F ≠ 0x1F
  | byte _ | bytes _ | null | integer _ | uint _ | oid _ => True

/-- What `ASN1NextTag` makes of the string `e` is what was pushed.  Raw octets are not parsed. -/
def ParsesAs : Push → Bytes → Prop
  | byte b, e => e = [b]
  | bytes octets, e => e = octets.bytes
  | null, e => IsElement ASN1_NULL [] e
  | integer octets, e =>
    ∃ contents, IsElement ASN1_INTEGER contents e ∧ IsDerInteger contents (beVal octets.bytes)
  | uint value, e =>
    ∃ contents, IsElement ASN1_INTEGER contents e ∧ IsDerInteger contents value.toNat
  | taggedOctetString octets tag, e => IsElement tag octets.bytes e
  | oid identifier, e => IsElement ASN1_OBJECT_IDENTIFIER identifier.body e

end Push

/-- A sequence of pushes, in the order of the calls, with balanced encapsulations. -/
inductive Pushes
  | done
  | push (first : Push) (rest : Pushes)
  | encapsulation (tag : UInt8) (inner rest : Pushes)

namespace Pushes

/-- The calls. -/
def run : Pushes → MarshalContext → MarshalContext
  | done, ctx => ctx
  | push first rest, ctx => rest.run (first.run ctx)
  | encapsulation tag inner rest, ctx =>
    rest.run (asn1EndEncapsulation (inner.run (asn1StartMarshalContext ctx)) tag).2

/-- The string that is pushed.  What comes later stands in front. -/
def encode (zero : Bytes) : Pushes → Bytes
  | done => []
  | push first rest => rest.encode zero ++ first.encode zero
  | encapsulation tag inner rest => rest.encode zero ++ der tag (padded tag (inner.encode zero))

/-- How deep the encapsulations are. -/
def depth : Pushes → ℕ
  | done => 0
  | push _ rest => rest.depth
  | encapsulation _ inner rest => max (inner.depth + 1) rest.depth

/-- A zero is pushed. -/
def hasZero : Pushes → Bool
  | done => false
  | push first rest => first.isZero || rest.hasZero
  | encapsulation _ inner rest => inner.hasZero || rest.hasZero

/-- All tags have one octet. -/
def TagsOk : Pushes → Prop
  | done => True
  | push first rest => first.TagOk ∧ rest.TagsOk
  | encapsulation tag inner rest => tag &&& 0x1F ≠ 0x1F ∧ inner.TagsOk ∧ rest.TagsOk

/-- The string parses as what was pushed. -/
def ParsesAs : Pushes → Bytes → Prop
  | done, l => l = []
  | push first rest, l => ∃ front e, l = front ++ e ∧ first.ParsesAs e ∧ rest.ParsesAs front
  | encapsulation tag inner rest, l => ∃ front e contents, l = front ++ e ∧
    IsElement tag (padded tag contents) e ∧ inner.ParsesAs contents ∧ rest.ParsesAs front

end Pushes

/-! ## Runs -/

lemma ObjectIdentifier.bytes_eq (oid : ObjectIdentifier) :
    oid.bytes = der ASN1_OBJECT_IDENTIFIER oid.body := by
  have hlt : oid.length.toNat < 0x80 := UInt8.lt_iff_toNat_lt.mp oid.length_lt
  unfold bytes der derLength
  rw [oid.length_eq, if_pos hlt, UInt8.ofNat_toNat]
  rfl

variable {ctx : MarshalContext} {octets : Bytes} {p : Pushes}

lemma Push.pushed_run (x : Push) (h : Placed ctx) : Pushed ctx (x.run ctx) (x.encode []) := by
  cases x with
  | byte b => exact pushed_pushByte ctx b
  | bytes octets =>
    have hbytes := pushed_pushBytes h octets.length_lt []
    rwa [List.append_nil] at hbytes
  | null => exact (pushed_pushByte ctx 0).trans (pushed_pushByte _ ASN1_NULL)
  | integer octets => exact pushed_pushInteger h octets.ne_nil octets.length_lt
  | uint value =>
    have hlen : (beBytes 4 value.toNat).length = 4 := length_beBytes 4 _
    have hne : beBytes 4 value.toNat ≠ [] := by
      intro hnil
      rw [hnil] at hlen
      cases hlen
    have hinteger := pushed_pushInteger h hne (by rw [hlen]; decide)
    rwa [hlen] at hinteger
  | taggedOctetString octets tag => exact pushed_pushTaggedOctetString h octets.length_lt tag
  | oid identifier =>
    have hlt : identifier.length.toNat < 0x80 := UInt8.lt_iff_toNat_lt.mp identifier.length_lt
    have hlen : identifier.bytes.length = identifier.length.toNat + 2 := by
      rw [← identifier.length_eq]
      rfl
    have hbytes := pushed_pushBytes (l := identifier.bytes) h (by omega) []
    rw [List.append_nil, hlen] at hbytes
    show Pushed ctx (asn1PushOID ctx identifier.bytes).2 (der _ identifier.body)
    unfold asn1PushOID
    rw [if_pos ⟨rfl, (and_sign_eq_zero_iff _).mpr identifier.length_lt⟩, ← identifier.bytes_eq]
    exact hbytes

lemma Pushes.pushed_run (p : Pushes) (hplaced : Placed ctx) (hlow : -1 ≤ ctx.depth)
    (hdepth : ctx.depth + p.depth < MAX_DEPTH) (hends : ctx.ends.length = MAX_DEPTH) :
    Pushed ctx (p.run ctx) (p.encode []) := by
  induction p generalizing ctx with
  | done => exact Pushed.refl hplaced
  | push first rest ih =>
    have hfirst := first.pushed_run hplaced
    refine hfirst.trans (ih (hfirst.placed hplaced) ?_ ?_ (hfirst.ends.1.trans hends))
    · rw [hfirst.depth]
      exact hlow
    · rw [hfirst.depth]
      exact hdepth
  | encapsulation tag inner rest ihInner ihRest =>
    have hmax : ctx.depth + ((max (inner.depth + 1) rest.depth : ℕ) : ℤ) < MAX_DEPTH := hdepth
    have hinner : Pushed (asn1StartMarshalContext ctx) (inner.run (asn1StartMarshalContext ctx))
        (inner.encode []) := by
      refine ihInner hplaced ?_ ?_ ?_
      · show -1 ≤ ctx.depth + 1
        omega
      · show ctx.depth + 1 + inner.depth < MAX_DEPTH
        omega
      · exact List.length_set.trans hends
    have hencapsulation := pushed_encapsulation tag hplaced hlow (by omega) hends hinner
    refine hencapsulation.trans
      (ihRest (hencapsulation.placed hplaced) ?_ ?_ (hencapsulation.ends.1.trans hends))
    · rw [hencapsulation.depth]
      exact hlow
    · rw [hencapsulation.depth]
      omega

/-! ## The contents of a zero -/

lemma integerContents_of_ne_zero (h : beVal octets ≠ 0) (zero zero' : Bytes) :
    integerContents zero octets = integerContents zero' octets := by
  unfold integerContents
  cases hstrip : octets.dropWhile (· == 0) with
  | nil => exact absurd ((dropWhile_eq_nil_iff octets).mp hstrip) h
  | cons b rest => rfl

lemma integerContents_of_eq_zero (h : beVal octets = 0) (zero : Bytes) :
    integerContents zero octets = zero := by
  unfold integerContents
  rw [(dropWhile_eq_nil_iff octets).mpr h]

lemma length_der (tag : UInt8) (l : Bytes) :
    (der tag l).length = (derLength l.length).length + l.length + 1 := by
  unfold der
  rw [List.length_append, List.length_cons]
  omega

lemma length_derLength_mono {m n : ℕ} (h : m ≤ n) :
    (derLength m).length ≤ (derLength n).length := by
  unfold derLength
  split_ifs <;> simp only [List.length_cons, List.length_nil] <;> omega

lemma length_padded_lt_iff (tag : UInt8) (l l' : Bytes) :
    (padded tag l).length < (padded tag l').length ↔ l.length < l'.length := by
  unfold padded
  split_ifs
  · simp
  · rfl

lemma length_der_lt (tag : UInt8) {l l' : Bytes} (h : l.length < l'.length) :
    (der tag l).length < (der tag l').length := by
  have hmono := length_derLength_mono h.le
  rw [length_der, length_der]
  omega

lemma beVal_uint (value : UInt32) : beVal (beBytes 4 value.toNat) = value.toNat :=
  beVal_beBytes value.toNat_lt

lemma Push.encode_zero (x : Push) :
    (x.isZero = false → x.encode [] = x.encode [0]) ∧
      (x.isZero = true → (x.encode []).length < (x.encode [0]).length) := by
  have hinteger (octets : Bytes) :
      (beVal octets ≠ 0 → der ASN1_INTEGER (integerContents [] octets) =
        der ASN1_INTEGER (integerContents [0] octets)) ∧
      (beVal octets = 0 → (der ASN1_INTEGER (integerContents [] octets)).length <
        (der ASN1_INTEGER (integerContents [0] octets)).length) := by
    refine ⟨fun h => by rw [integerContents_of_ne_zero h [] [0]], fun h => length_der_lt _ ?_⟩
    rw [integerContents_of_eq_zero h, integerContents_of_eq_zero h]
    decide
  cases x with
  | integer octets =>
    obtain ⟨hne, heq⟩ := hinteger octets.bytes
    exact ⟨fun h => hne (by simpa [isZero] using h), fun h => heq (by simpa [isZero] using h)⟩
  | uint value =>
    obtain ⟨hne, heq⟩ := hinteger (beBytes 4 value.toNat)
    rw [beVal_uint] at hne heq
    have hiff : value.toNat = 0 ↔ value = 0 := by
      rw [← UInt32.toNat_inj]
      rfl
    exact ⟨fun h => hne fun hzero => absurd (hiff.mp hzero) (by simpa [isZero] using h),
      fun h => heq (hiff.mpr (by simpa [isZero] using h))⟩
  | byte | bytes | null | taggedOctetString | oid =>
    exact ⟨fun _ => rfl, nofun⟩

lemma Pushes.encode_of_not_hasZero (h : p.hasZero = false) : p.encode [] = p.encode [0] := by
  induction p with
  | done => rfl
  | push first rest ih =>
    obtain ⟨hfirst, hrest⟩ := Bool.or_eq_false_iff.mp h
    unfold encode
    rw [first.encode_zero.1 hfirst, ih hrest]
  | encapsulation tag inner rest ihInner ihRest =>
    obtain ⟨hinner, hrest⟩ := Bool.or_eq_false_iff.mp h
    unfold encode
    rw [ihInner hinner, ihRest hrest]

lemma Push.length_encode_le (x : Push) : (x.encode []).length ≤ (x.encode [0]).length := by
  cases hzero : x.isZero with
  | true => exact (x.encode_zero.2 hzero).le
  | false => rw [x.encode_zero.1 hzero]

lemma Pushes.length_encode_lt (h : p.hasZero = true) :
    (p.encode []).length < (p.encode [0]).length := by
  have hle (p : Pushes) (ih : p.hasZero = true → (p.encode []).length < (p.encode [0]).length) :
      (p.encode []).length ≤ (p.encode [0]).length := by
    cases hzero : p.hasZero with
    | true => exact (ih hzero).le
    | false => rw [p.encode_of_not_hasZero hzero]
  induction p with
  | done => cases h
  | push first rest ih =>
    have hrest := hle rest ih
    have hfirst := first.length_encode_le
    unfold encode
    rw [List.length_append, List.length_append]
    rcases (Bool.or_eq_true _ _).mp h with hzero | hzero
    · have hlt := first.encode_zero.2 hzero
      omega
    · have hlt := ih hzero
      omega
  | encapsulation tag inner rest ihInner ihRest =>
    have hrest := hle rest ihRest
    unfold encode
    rw [List.length_append, List.length_append]
    cases hinner : inner.hasZero with
    | true =>
      have hlt := length_der_lt tag ((length_padded_lt_iff tag _ _).mpr (ihInner hinner))
      omega
    | false =>
      have hlt := ihRest (by simpa [hasZero, hinner] using h)
      rw [inner.encode_of_not_hasZero hinner]
      omega

/-! ## Parsing -/

lemma length_lt_length_der (tag : UInt8) (l : Bytes) : l.length < (der tag l).length := by
  rw [length_der]
  omega

lemma Push.parsesAs_encode {x : Push} (htag : x.TagOk) (hlen : (x.encode [0]).length < 2 ^ 15) :
    x.ParsesAs (x.encode [0]) := by
  have helement {tag : UInt8} (htag : tag &&& 0x1F ≠ 0x1F) {contents : Bytes}
      (hlen : (der tag contents).length < 2 ^ 15) : IsElement tag contents (der tag contents) :=
    isElement_der htag ((length_lt_length_der tag contents).trans hlen)
  cases x with
  | byte b => rfl
  | bytes octets => rfl
  | null => exact helement (by decide) hlen
  | integer octets => exact ⟨_, helement (by decide) hlen, isDerInteger_integerContents _⟩
  | uint value =>
    have hinteger := isDerInteger_integerContents (beBytes 4 value.toNat)
    rw [beVal_uint] at hinteger
    exact ⟨_, helement (by decide) hlen, hinteger⟩
  | taggedOctetString octets tag => exact helement htag hlen
  | oid identifier => exact helement (by decide) hlen

lemma Pushes.parsesAs_encode (htags : p.TagsOk) (hlen : (p.encode [0]).length < 2 ^ 15) :
    p.ParsesAs (p.encode [0]) := by
  induction p with
  | done => rfl
  | push first rest ih =>
    unfold encode at hlen
    rw [List.length_append] at hlen
    exact ⟨_, _, rfl, Push.parsesAs_encode htags.1 (by omega), ih htags.2 (by omega)⟩
  | encapsulation tag inner rest ihInner ihRest =>
    unfold encode at hlen
    rw [List.length_append] at hlen
    have hcontents := length_lt_length_der tag (padded tag (inner.encode [0]))
    have hinner : (inner.encode [0]).length ≤ (padded tag (inner.encode [0])).length := by
      unfold padded
      split_ifs
      · exact Nat.le_succ _
      · exact le_rfl
    exact ⟨_, _, inner.encode [0], rfl, isElement_der htags.1 (by omega),
      ihInner htags.2.1 (by omega), ihRest htags.2.2 (by omega)⟩

/-! ## Writing DER -/

/-- The size of the buffer; without one, as much as an offset can count. -/
def roomOf (buffer : Option ℕ) (size : ℕ) : ℕ := if buffer.isSome then size else 2 ^ 15 - 1

/-- DER is written: nothing changes outside of the buffer and no assertion fails, the offset is
negative if the DER encoding does not fit, and else the encoding stands at the end of the buffer. -/
structure Written (mem : Mem) (buffer : Option ℕ) (size : ℕ) (p : Pushes)
    (final : MarshalContext) : Prop where
  frame : ∀ a, (∀ b, buffer = some b → a < b ∨ b + size ≤ a) → final.mem a = mem a
  failed : final.failed = false
  full : roomOf buffer size < (p.encode [0]).length → final.offset < 0
  fits : (p.encode [0]).length ≤ roomOf buffer size →
    final.offset = roomOf buffer size - (p.encode [0]).length ∧
      ∀ b, buffer = some b → final.mem.HasAt (b + final.offset).toNat (p.encode [0])

/-- **DER is written**, and parses as what was pushed, iff no zero is pushed or the data, with
nothing for the contents of a zero, does not fit. -/
theorem marshal_written_iff (p : Pushes) (hdepth : p.depth ≤ MAX_DEPTH) (mem : Mem)
    (buffer : Option ℕ) (size : ℕ) (hsize : size < 2 ^ 15) :
    (Written mem buffer size p (p.run (asn1InitialializeMarshalContext mem size buffer)) ↔
      p.hasZero = false ∨ roomOf buffer size < (p.encode []).length) ∧
    (p.TagsOk → (p.encode [0]).length ≤ roomOf buffer size → p.ParsesAs (p.encode [0])) := by
  set start := asn1InitialializeMarshalContext mem size buffer with hstart
  have hbuffer : start.buffer = buffer := rfl
  have hroom : roomOf buffer size < 2 ^ 15 := by
    unfold roomOf
    split_ifs <;> omega
  have hoffset : start.offset = roomOf buffer size := by
    show (if buffer.isSome then (size : ℤ) else INT16_MAX) = _
    unfold roomOf
    split_ifs
    · rfl
    · rfl
  have hpushed : Pushed start (p.run start) (p.encode []) := by
    refine p.pushed_run ⟨by omega, by omega⟩ (le_refl (-1)) ?_ rfl
    show -1 + (p.depth : ℤ) < MAX_DEPTH
    omega
  refine ⟨⟨fun hwritten => ?_, fun hcondition => ?_⟩, fun htags hlen => ?_⟩
  · -- with a zero the code's encoding is shorter than DER, so its offset is not the right one
    by_contra hnot
    rw [not_or, Bool.not_eq_false, not_lt] at hnot
    obtain ⟨hzero, hfits⟩ := hnot
    have hlonger := Pushes.length_encode_lt hzero
    obtain ⟨hcode, -⟩ := hpushed.room (by omega)
    by_cases hder : (p.encode [0]).length ≤ roomOf buffer size
    · have hplace := (hwritten.fits hder).1
      omega
    · have hneg := hwritten.full (not_le.mp hder)
      omega
  · have hframe (a : ℕ) (ha : ∀ b, buffer = some b → a < b ∨ b + size ≤ a) :
        (p.run start).mem a = mem a := by
      refine hpushed.frame a fun b hb => ?_
      have hout := ha b hb
      have hsome : roomOf buffer size = size := by
        unfold roomOf
        rw [show buffer = some b from hb]
        rfl
      omega
    rcases hcondition with hzero | hfull
    · rw [Pushes.encode_of_not_hasZero hzero] at hpushed
      refine ⟨hframe, hpushed.failed, fun hlt => ?_, fun hle => ?_⟩
      · have hneg := hpushed.full (by omega)
        omega
      · obtain ⟨hplace, hhas⟩ := hpushed.room (by omega)
        exact ⟨by omega, hhas⟩
    · have hneg := hpushed.full (by omega)
      have hlonger : (p.encode []).length ≤ (p.encode [0]).length := by
        cases hzero : p.hasZero with
        | true => exact (Pushes.length_encode_lt hzero).le
        | false => rw [Pushes.encode_of_not_hasZero hzero]
      exact ⟨hframe, hpushed.failed, fun _ => by omega, fun hle => absurd hle (by omega)⟩
  · exact Pushes.parsesAs_encode htags (by omega)

/-- A sequence with an integer and an octet string. -/
def sampleSequence : Pushes :=
  .encapsulation ASN1_CONSTRUCTED_SEQUENCE
    (.push (.taggedOctetString ⟨[0xAA, 0xBB], by decide⟩ ASN1_OCTET_STRING)
      (.push (.uint 0x80) .done)) .done

/-- The sequence is written to a buffer that it fills. -/
theorem marshal_written_sequence :
    Written (fun _ => 0) (some 100) 10 sampleSequence
        (sampleSequence.run (asn1InitialializeMarshalContext (fun _ => 0) (10 : ℕ) (some 100))) ∧
      sampleSequence.encode [0] = [0x30, 0x08, 0x02, 0x02, 0x00, 0x80, 0x04, 0x02, 0xAA, 0xBB] ∧
      sampleSequence.ParsesAs (sampleSequence.encode [0]) := by
  obtain ⟨hwritten, hparses⟩ :=
    marshal_written_iff sampleSequence (by decide) (fun _ => 0) (some 100) 10 (by decide)
  refine ⟨hwritten.mpr (.inl (by decide)), by decide, hparses ?_ (by decide)⟩
  exact ⟨by decide, ⟨show ASN1_OCTET_STRING &&& 0x1F ≠ 0x1F by decide, trivial, trivial⟩, trivial⟩

/-- A zero is written without contents. -/
theorem marshal_written_zero :
    ((Pushes.push (.uint 0) .done).run
        (asn1InitialializeMarshalContext (fun _ => 0xFF) 4 (some 0))).offset = 2 ∧
      ((Pushes.push (.uint 0) .done).run
        (asn1InitialializeMarshalContext (fun _ => 0xFF) 4 (some 0))).mem.read 2 2 = [0x02, 0x00] ∧
      (Pushes.push (.uint 0) .done).encode [0] = [0x02, 0x01, 0x00] ∧
      ¬Written (fun _ => 0xFF) (some 0) 4 (.push (.uint 0) .done)
        ((Pushes.push (.uint 0) .done).run
          (asn1InitialializeMarshalContext (fun _ => 0xFF) 4 (some 0))) := by
  refine ⟨by decide, by decide, by decide, fun hwritten => ?_⟩
  exact absurd (hwritten.fits (by decide)).1 (by decide)

/-- **The reader takes back what the writer left.**  An encapsulation of anything that fits is read
from the memory by `ASN1NextTag`: its tag, the length of its contents and the contents. -/
theorem nextTag_written (inner : Pushes) (hdepth : inner.depth < MAX_DEPTH) {tag : UInt8}
    (htag : tag &&& 0x1F ≠ 0x1F) (mem : Mem) (b size : ℕ) (hsize : size < 2 ^ 15)
    {final : MarshalContext} (hrun : (Pushes.encapsulation tag inner .done).run
      (asn1InitialializeMarshalContext mem size (some b)) = final) (hfits : 0 ≤ final.offset) :
    ∃ cert ctx, final.mem.HasAt (b + final.offset).toNat cert ∧
      cert.length = size - final.offset ∧
      asn1NextTag cert ⟨0, cert.length, 0, 0xFF⟩ =
        .ok (((padded tag (inner.encode [])).length : ℕ), ctx) ∧
      ctx.tag = tag ∧ view cert ctx = padded tag (inner.encode []) := by
  set contents := padded tag (inner.encode [])
  set start := asn1InitialializeMarshalContext mem size (some b)
  have hstart : start.offset = size := rfl
  have hpushed : Pushed start final (der tag contents) := by
    rw [← hrun]
    refine Pushes.pushed_run (.encapsulation tag inner .done) ⟨by omega, by omega⟩ le_rfl ?_ rfl
    show -1 + ((max (inner.depth + 1) 0 : ℕ) : ℤ) < MAX_DEPTH
    omega
  have hroom : ((der tag contents).length : ℤ) ≤ start.offset := by
    by_contra hfull
    have hneg := hpushed.full (not_le.mp hfull)
    omega
  obtain ⟨hoffset, hhas⟩ := hpushed.room hroom
  have hlen := length_lt_length_der tag contents
  have hinside : Inside (der tag contents) ⟨0, (der tag contents).length, 0, 0xFF⟩ :=
    ⟨le_rfl, Int.natCast_nonneg _, by dsimp only; omega, by dsimp only; omega⟩
  obtain ⟨⟨n, ctx⟩, hnext, hagrees⟩ := asn1NextTag_spec hinside
  have hview : view (der tag contents) ⟨0, (der tag contents).length, 0, 0xFF⟩ = der tag contents :=
    List.take_length
  rw [hview] at hagrees
  obtain ⟨rfl, hmoved, hctx⟩ := hagrees.read (isElement_der htag (by omega))
  exact ⟨_, ctx, hhas b rfl, by omega, hnext, hctx, hmoved.view_eq⟩

/-- The context after a sequence that holds a null is written at the end of ten bytes. -/
def nullSequence : MarshalContext :=
  (Pushes.encapsulation ASN1_CONSTRUCTED_SEQUENCE (.push .null .done) .done).run
    (asn1InitialializeMarshalContext (fun _ => 0) 10 (some 100))

theorem nextTag_written_sequence : ∃ cert ctx, nullSequence.mem.HasAt 106 cert ∧
    cert.length = 4 ∧ asn1NextTag cert ⟨0, cert.length, 0, 0xFF⟩ = .ok (2, ctx) ∧
      ctx.tag = ASN1_CONSTRUCTED_SEQUENCE ∧ view cert ctx = [5, 0] := by
  obtain ⟨cert, ctx, hmem, hlength, hnext, htag, hview⟩ :=
    nextTag_written (.push .null .done) (by decide)
      (show ASN1_CONSTRUCTED_SEQUENCE &&& 0x1F ≠ 0x1F by decide) (fun _ => 0) 100 10 (by decide)
      (rfl : _ = nullSequence) (by decide)
  have hoffset : nullSequence.offset = 6 := by decide
  rw [hoffset] at hlength
  exact ⟨cert, ctx, hmem, by omega, hnext, htag, hview⟩

end RfTpm.X509
