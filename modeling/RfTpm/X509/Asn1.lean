import RfTpm.Nv.State
import RfTpm.Lib.Faults
import RfTpm.Lib.CInt

/-!
# Unmarshaling ASN.1

The part of TpmAsn1.c that takes a DER encoding apart.  A context is a piece of the certificate
with an offset into it, and a size that is negative once an error was met.

The model reads octets by their place in the certificate and a read outside of it is a fault.  Above
it stands a decoder on lists: `nextElement` takes the first element off a string.
-/

namespace RfTpm.X509

open Faults CInt List

/-- `ASN1UnmarshalContext`; the buffer pointer is an offset into the certificate. -/
structure Context where
  buffer : ℕ
  size : ℤ
  offset : ℤ
  tag : UInt8

/-- `ASN1UnmarshalContextInitialize`; `none` where it returns FALSE. -/
def asn1UnmarshalContextInitialize (size : ℤ) (buffer : ℕ) : Option Context :=
  if size > 0 then some ⟨buffer, size, 0, 0xFF⟩ else none

section Model

variable (cert : Bytes)

/-- The octet at a place of the certificate. -/
def octet (i : ℤ) : Run TpmRc UInt8 :=
  if 0 ≤ i ∧ i < cert.length then pure (cert.getD i.toNat 0) else .error .fault

/-- `NEXT_OCTET`. -/
def nextOctet (ctx : Context) : Run TpmRc (UInt8 × Context) := do
  let b ← octet cert (ctx.buffer + ctx.offset)
  pure (b, { ctx with offset := int16 (ctx.offset + 1) })

/-- `CHECK_SIZE`. -/
def checkSize (ctx : Context) (length : ℤ) : Bool :=
  length + ctx.offset ≥ ctx.offset ∧ length + ctx.offset ≤ ctx.size

/-- The error exit of `ASN1DecodeLength`. -/
def decodeError (ctx : Context) : ℤ × Context := (-1, { ctx with size := -1 })

/-- The end of `ASN1DecodeLength`: the size has to be within the context. -/
def decodeEnd (ctx : Context) (value : ℤ) : ℤ × Context :=
  if checkSize ctx value then (value, ctx) else decodeError ctx

/-- `ASN1DecodeLength`. -/
def asn1DecodeLength (ctx : Context) : Run TpmRc (ℤ × Context) :=
  if ctx.offset < ctx.size then do
    let (first, ctx₁) ← nextOctet cert ctx
    if first ≥ 0x80 then
      if checkSize ctx₁ (first &&& 0x7F).toNat then
        if first = 0x82 then do
          let (high, ctx₂) ← nextOctet cert ctx₁
          if high < 0x80 then do
            let (low, ctx₃) ← nextOctet cert ctx₂
            pure (decodeEnd ctx₃ (high.toNat * 2 ^ 8 + low.toNat))
          else pure (decodeError ctx₂)
        else if first = 0x81 then do
          let (value, ctx₂) ← nextOctet cert ctx₁
          pure (decodeEnd ctx₂ value.toNat)
        else pure (decodeError ctx₁)
      else pure (decodeError ctx₁)
    else pure (decodeEnd ctx₁ first.toNat)
  else pure (decodeError ctx)

/-- `ASN1NextTag`. -/
def asn1NextTag (ctx : Context) : Run TpmRc (ℤ × Context) :=
  if ctx.offset < ctx.size then do
    let (tag, ctx₁) ← nextOctet cert ctx
    let ctx₂ := { ctx₁ with tag := tag }
    if tag &&& 0x1F ≠ 0x1F then asn1DecodeLength cert ctx₂
    else pure (-1, { ctx₂ with size := -1, tag := 0xFF })
  else pure (-1, { ctx with size := -1, tag := 0xFF })

end Model

/-! ## Strings of elements -/

/-- The length field at the front of a string, if the string has as much after it. -/
def lengthField : Bytes → Option (ℕ × Bytes)
  | [] => none
  | first :: l =>
    let field : Option (ℕ × Bytes) :=
      if first < 0x80 then some (first.toNat, l)
      else if first = 0x82 then
        match l with
        | high :: low :: l => if high < 0x80 then some (high.toNat * 2 ^ 8 + low.toNat, l) else none
        | _ => none
      else if first = 0x81 then
        match l with
        | value :: l => some (value.toNat, l)
        | [] => none
      else none
    field.filter fun p => p.1 ≤ p.2.length

/-- The first element of a string: its tag, the length of its contents, and the string from the
contents on. -/
def nextElement : Bytes → Option (UInt8 × ℕ × Bytes)
  | [] => none
  | tag :: l =>
    if tag &&& 0x1F ≠ 0x1F then (lengthField l).map fun p => (tag, p.1, p.2) else none

variable {l rest : Bytes} {n : ℕ} {tag : UInt8}

lemma le_length_of_lengthField (h : lengthField l = some (n, rest)) : n ≤ rest.length := by
  cases l with
  | nil => cases h
  | cons first l =>
    unfold lengthField at h
    have hfilter := Option.filter_eq_some_iff.mp h
    simpa using hfilter.2

lemma lengthField_short {first : UInt8} (hfirst : first < 0x80) (hle : first.toNat ≤ l.length) :
    lengthField (first :: l) = some (first.toNat, l) := by
  unfold lengthField
  dsimp only
  rw [if_pos hfirst, Option.filter_some, if_pos (by simpa using hle)]

lemma lengthField_one {value : UInt8} (hle : value.toNat ≤ l.length) :
    lengthField (0x81 :: value :: l) = some (value.toNat, l) := by
  unfold lengthField
  dsimp only
  rw [if_neg (by decide), if_neg (by decide), if_pos rfl, Option.filter_some,
    if_pos (by simpa using hle)]

lemma lengthField_two {high low : UInt8} (hhigh : high < 0x80)
    (hle : high.toNat * 2 ^ 8 + low.toNat ≤ l.length) :
    lengthField (0x82 :: high :: low :: l) = some (high.toNat * 2 ^ 8 + low.toNat, l) := by
  unfold lengthField
  dsimp only
  rw [if_neg (by decide), if_pos rfl, if_pos hhigh, Option.filter_some,
    if_pos (by simpa using hle)]

lemma lengthField_split (h : lengthField l = some (n, rest)) :
    ∃ header, header ≠ [] ∧ l = header ++ rest ∧
      ∀ rest', n ≤ rest'.length → lengthField (header ++ rest') = some (n, rest') := by
  cases l with
  | nil => cases h
  | cons first l =>
    unfold lengthField at h
    have hfield := (Option.filter_eq_some_iff.mp h).1
    split_ifs at hfield with hfirst htwo hone
    · cases hfield
      exact ⟨[first], cons_ne_nil _ _, rfl, fun rest' => lengthField_short hfirst⟩
    · subst htwo
      rcases l with - | ⟨high, - | ⟨low, l⟩⟩
      · cases hfield
      · cases hfield
      · dsimp only at hfield
        split_ifs at hfield with hhigh
        cases hfield
        exact ⟨[0x82, high, low], cons_ne_nil _ _, rfl, fun rest' => lengthField_two hhigh⟩
    · subst hone
      cases l with
      | nil => cases hfield
      | cons value l =>
        cases hfield
        exact ⟨[0x81, value], cons_ne_nil _ _, rfl, fun rest' => lengthField_one⟩

lemma length_lt_of_lengthField (h : lengthField l = some (n, rest)) : rest.length < l.length := by
  obtain ⟨header, hne, rfl, -⟩ := lengthField_split h
  rw [length_append]
  exact Nat.lt_add_of_pos_left (length_pos_iff.mpr hne)

/-- The context lies in the certificate and its offset in the context. -/
structure Inside (cert : Bytes) (ctx : Context) : Prop where
  nonneg : 0 ≤ ctx.offset
  le_size : ctx.offset ≤ ctx.size
  small : ctx.size < 2 ^ 15
  within : ctx.buffer + ctx.size ≤ cert.length

/-- What the context has left. -/
def view (cert : Bytes) (ctx : Context) : Bytes :=
  (cert.drop (ctx.buffer + ctx.offset.toNat)).take (ctx.size - ctx.offset).toNat

section Spec

variable {cert : Bytes} {ctx : Context}

lemma length_view (h : Inside cert ctx) :
    (view cert ctx).length = (ctx.size - ctx.offset).toNat := by
  have hnonneg := h.nonneg
  have hle := h.le_size
  have hwithin := h.within
  unfold view
  rw [length_take, length_drop]
  omega

lemma view_skip (h : Inside cert ctx) {n : ℕ} (hn : n ≤ (view cert ctx).length) (tag : UInt8) :
    Inside cert { ctx with offset := ctx.offset + n, tag := tag } ∧
      view cert { ctx with offset := ctx.offset + n, tag := tag } = (view cert ctx).drop n := by
  have hnonneg := h.nonneg
  have hle := h.le_size
  rw [length_view h] at hn
  refine ⟨⟨by dsimp only; omega, by dsimp only; omega, h.small, h.within⟩, ?_⟩
  unfold view
  dsimp only
  rw [drop_take, drop_drop]
  congr 1
  · omega
  · congr 1
    omega

variable {l rest : Bytes}

lemma nextOctet_spec (h : Inside cert ctx) {b : UInt8} (hview : view cert ctx = b :: l) :
    nextOctet cert ctx = .ok (b, { ctx with offset := ctx.offset + 1 }) ∧
      Inside cert { ctx with offset := ctx.offset + 1 } ∧
      view cert { ctx with offset := ctx.offset + 1 } = l := by
  have hlen := length_view h
  rw [hview, length_cons] at hlen
  have hnonneg := h.nonneg
  have hwithin := h.within
  have hsmall := h.small
  have hplace : (ctx.buffer + ctx.offset).toNat = ctx.buffer + ctx.offset.toNat := by omega
  have hoctet : cert.getD (ctx.buffer + ctx.offset).toNat 0 = b := by
    have hhead := congrArg List.head? hview
    unfold view at hhead
    rw [List.head?_take, if_neg (by omega), List.head?_drop] at hhead
    rw [hplace, getD_eq_getElem?_getD, hhead]
    rfl
  obtain ⟨hinside, hrest⟩ := view_skip h (n := 1) (by rw [hview]; simp) ctx.tag
  refine ⟨?_, hinside, ?_⟩
  · unfold nextOctet octet
    rw [if_pos (by omega), hoctet, int16_eq (by omega) (by omega)]
    rfl
  · rw [hview] at hrest
    exact hrest

/-- The context moved forward over the front of what it has left. -/
structure Moved (cert : Bytes) (ctx ctx' : Context) (rest : Bytes) : Prop where
  inside : Inside cert ctx'
  view_eq : view cert ctx' = rest
  buffer_eq : ctx'.buffer = ctx.buffer
  size_eq : ctx'.size = ctx.size

/-- The result of decoding agrees with the decoder on strings. -/
def Agrees (cert : Bytes) (ctx : Context) (out : ℤ × Context) :
    Option (ℕ × Bytes) → Prop
  | none => out.1 = -1 ∧ out.2.size = -1 ∧ out.2.offset ≤ ctx.size
  | some (n, rest) => out.1 = n ∧ Moved cert ctx out.2 rest ∧ out.2.tag = ctx.tag

lemma checkSize_iff (h : Inside cert ctx) (n : ℕ) :
    checkSize ctx n = true ↔ n ≤ (view cert ctx).length := by
  have hlen := length_view h
  have hle := h.le_size
  unfold checkSize
  rw [decide_eq_true_iff]
  omega

lemma decodeEnd_spec {ctx₀ : Context} (n : ℕ) (h : Moved cert ctx₀ ctx rest)
    (htag : ctx.tag = ctx₀.tag) :
    Agrees cert ctx₀ (decodeEnd ctx n)
      ((some (n, rest)).filter fun p => p.1 ≤ p.2.length) := by
  have hcheck := checkSize_iff h.inside n
  rw [h.view_eq] at hcheck
  unfold decodeEnd
  by_cases hn : n ≤ rest.length
  · rw [if_pos (hcheck.mpr hn), Option.filter_some, if_pos (by simpa using hn)]
    exact ⟨rfl, h, htag⟩
  · rw [if_neg (fun hc => hn (hcheck.mp hc)), Option.filter_some, if_neg (by simpa using hn)]
    exact ⟨rfl, rfl, h.size_eq ▸ h.inside.le_size⟩

lemma asn1DecodeLength_spec (h : Inside cert ctx) :
    ∃ out, asn1DecodeLength cert ctx = .ok out ∧
      Agrees cert ctx out (lengthField (view cert ctx)) := by
  have hlen := length_view h
  have hle := h.le_size
  cases hview : view cert ctx with
  | nil =>
    rw [hview, length_nil] at hlen
    refine ⟨decodeError ctx, ?_, rfl, rfl, hle⟩
    unfold asn1DecodeLength
    rw [if_neg (by omega)]
    rfl
  | cons first l =>
    rw [hview, length_cons] at hlen
    obtain ⟨hread, hin₁, hview₁⟩ := nextOctet_spec h hview
    have hcheck := checkSize_iff hin₁ (first &&& 0x7F).toNat
    rw [hview₁] at hcheck
    unfold asn1DecodeLength lengthField
    rw [if_pos (by omega), hread, ok_bind]
    dsimp only
    by_cases hshort : first < 0x80
    · rw [if_neg (UInt8.not_le.mpr hshort), if_pos hshort]
      exact ⟨_, rfl, decodeEnd_spec _ ⟨hin₁, hview₁, rfl, rfl⟩ rfl⟩
    · rw [if_pos (UInt8.not_lt.mp hshort), if_neg hshort]
      by_cases htwo : first = 0x82
      · subst htwo
        rw [if_pos rfl, if_pos rfl]
        rcases l with - | ⟨high, - | ⟨low, l⟩⟩
        · rw [if_neg (fun hc => absurd (hcheck.mp hc) (by decide))]
          exact ⟨_, rfl, rfl, rfl, hin₁.le_size⟩
        · rw [if_neg (fun hc => absurd (hcheck.mp hc) (by simp))]
          exact ⟨_, rfl, rfl, rfl, hin₁.le_size⟩
        · obtain ⟨hread₂, hin₂, hview₂⟩ := nextOctet_spec hin₁ hview₁
          rw [if_pos (hcheck.mpr (by simp)), hread₂, ok_bind]
          dsimp only
          by_cases hhigh : high < 0x80
          · obtain ⟨hread₃, hin₃, hview₃⟩ := nextOctet_spec hin₂ hview₂
            rw [if_pos hhigh, if_pos hhigh, hread₃, ok_bind]
            exact ⟨_, rfl, decodeEnd_spec _ ⟨hin₃, hview₃, rfl, rfl⟩ rfl⟩
          · rw [if_neg hhigh, if_neg hhigh]
            exact ⟨_, rfl, rfl, rfl, hin₂.le_size⟩
      · rw [if_neg htwo, if_neg htwo]
        by_cases hone : first = 0x81
        · subst hone
          rw [if_pos rfl, if_pos rfl]
          cases l with
          | nil =>
            rw [if_neg (fun hc => absurd (hcheck.mp hc) (by decide))]
            exact ⟨_, rfl, rfl, rfl, hin₁.le_size⟩
          | cons value l =>
            obtain ⟨hread₂, hin₂, hview₂⟩ := nextOctet_spec hin₁ hview₁
            rw [if_pos (hcheck.mpr (by simp)), hread₂, ok_bind]
            exact ⟨_, rfl, decodeEnd_spec _ ⟨hin₂, hview₂, rfl, rfl⟩ rfl⟩
        · rw [if_neg hone, if_neg hone, ite_self]
          exact ⟨_, rfl, rfl, rfl, hin₁.le_size⟩

/-- The result of `ASN1NextTag` agrees with the decoder on strings. -/
structure TagAgrees (cert : Bytes) (ctx : Context) (out : ℤ × Context)
    (element : Option (UInt8 × ℕ × Bytes)) : Prop where
  failed : element = none → out.1 = -1 ∧ out.2.size = -1 ∧ out.2.offset ≤ ctx.size
  read : ∀ {tag n rest}, element = some (tag, n, rest) →
    out.1 = n ∧ Moved cert ctx out.2 rest ∧ out.2.tag = tag

lemma TagAgrees.of_failed {ctx' : Context} (hsize : ctx'.size = -1)
    (hle : ctx'.offset ≤ ctx.size) : TagAgrees cert ctx (-1, ctx') none :=
  ⟨fun _ => ⟨rfl, hsize, hle⟩, fun h => by cases h⟩

lemma asn1NextTag_spec (h : Inside cert ctx) :
    ∃ out, asn1NextTag cert ctx = .ok out ∧
      TagAgrees cert ctx out (nextElement (view cert ctx)) := by
  have hlen := length_view h
  have hle := h.le_size
  cases hview : view cert ctx with
  | nil =>
    rw [hview, length_nil] at hlen
    exact ⟨_, if_neg (by omega), .of_failed rfl hle⟩
  | cons tag l =>
    rw [hview, length_cons] at hlen
    obtain ⟨hread, hin₁, hview₁⟩ := nextOctet_spec h hview
    unfold asn1NextTag nextElement
    rw [if_pos (by omega), hread, ok_bind]
    dsimp only
    by_cases htag : tag &&& 0x1F ≠ 0x1F
    · rw [if_pos htag, if_pos htag]
      have hin₂ : Inside cert { ctx with offset := ctx.offset + 1, tag := tag } :=
        { hin₁ with }
      obtain ⟨out, hout, hagrees⟩ := asn1DecodeLength_spec hin₂
      refine ⟨out, hout, ?_⟩
      have hview₂ : view cert { ctx with offset := ctx.offset + 1, tag := tag } = l := hview₁
      rw [hview₂] at hagrees
      cases hfield : lengthField l with
      | none =>
        rw [hfield] at hagrees
        exact ⟨fun _ => hagrees, fun hsome => by cases hsome⟩
      | some p =>
        rw [hfield] at hagrees
        obtain ⟨hn, hmoved, htag'⟩ := hagrees
        refine ⟨fun hnone => (by cases hnone), fun hsome => ?_⟩
        cases hsome
        exact ⟨hn, ⟨hmoved.inside, hmoved.view_eq, hmoved.buffer_eq, hmoved.size_eq⟩, htag'⟩
    · rw [if_neg htag, if_neg htag]
      exact ⟨_, rfl, .of_failed rfl hin₁.le_size⟩

lemma le_length_of_nextElement {tag : UInt8} {n : ℕ} (h : nextElement l = some (tag, n, rest)) :
    n ≤ rest.length ∧ rest.length < l.length := by
  cases l with
  | nil => cases h
  | cons t l =>
    unfold nextElement at h
    dsimp only at h
    split_ifs at h
    obtain ⟨p, hp, heq⟩ := Option.map_eq_some_iff.mp h
    cases heq
    exact ⟨le_length_of_lengthField hp, Nat.lt_succ_of_lt (length_lt_of_lengthField hp)⟩

end Spec

/-! ## Elements and what follows them -/

lemma nextElement_split (h : nextElement l = some (tag, n, rest)) :
    ∃ header, header ≠ [] ∧ l = header ++ rest ∧
      ∀ rest', n ≤ rest'.length → nextElement (header ++ rest') = some (tag, n, rest') := by
  cases l with
  | nil => cases h
  | cons t l =>
    unfold nextElement at h
    dsimp only at h
    split_ifs at h with htag
    obtain ⟨p, hp, heq⟩ := Option.map_eq_some_iff.mp h
    cases heq
    obtain ⟨header, -, rfl, hread⟩ := lengthField_split hp
    refine ⟨tag :: header, cons_ne_nil _ _, rfl, fun rest' hle => ?_⟩
    unfold nextElement
    dsimp only [cons_append]
    rw [if_pos htag, hread rest' hle]
    rfl

/-- A string that is one element, with its tag and contents. -/
def IsElement (tag : UInt8) (contents e : Bytes) : Prop :=
  nextElement e = some (tag, contents.length, contents)

lemma IsElement.append {contents e : Bytes} (h : IsElement tag contents e)
    (rest : Bytes) :
    nextElement (e ++ rest) = some (tag, contents.length, contents ++ rest) := by
  obtain ⟨header, -, rfl, hread⟩ := nextElement_split h
  rw [append_assoc]
  exact hread _ (by rw [length_append]; omega)

lemma exists_isElement (h : nextElement l = some (tag, n, rest)) :
    ∃ e, IsElement tag (rest.take n) e ∧ l = e ++ rest.drop n ∧
      l.length = e.length - n + rest.length := by
  obtain ⟨header, -, rfl, hread⟩ := nextElement_split h
  have hle := (le_length_of_nextElement h).1
  have hlen : (rest.take n).length = n := by
    rw [length_take]
    omega
  refine ⟨header ++ rest.take n, ?_, ?_, ?_⟩
  · unfold IsElement
    rw [hlen]
    exact hread _ hlen.ge
  · rw [append_assoc, take_append_drop]
  · rw [length_append, length_append, hlen]
    omega

/-- The shortest length field for a length below `2 ^ 16`. -/
def derLength (n : ℕ) : Bytes :=
  if n < 0x80 then [UInt8.ofNat n]
  else if n < 0x100 then [0x81, UInt8.ofNat n]
  else [0x82, UInt8.ofNat (n / 0x100), UInt8.ofNat n]

lemma lengthField_derLength (hn : n < 2 ^ 15) (hle : n ≤ l.length) :
    lengthField (derLength n ++ l) = some (n, l) := by
  have hlow : (UInt8.ofNat n).toNat = n % 0x100 := UInt8.toNat_ofNat'
  unfold derLength
  split_ifs with hshort hone
  · have hval : (UInt8.ofNat n).toNat = n := by omega
    have hlt : UInt8.ofNat n < 0x80 := by
      rw [UInt8.lt_iff_toNat_lt, hval]
      exact hshort
    have hfield := lengthField_short hlt (hval.trans_le hle)
    rwa [hval] at hfield
  · have hval : (UInt8.ofNat n).toNat = n := by omega
    have hfield := lengthField_one (hval.trans_le hle)
    rwa [hval] at hfield
  · have hhigh : (UInt8.ofNat (n / 0x100)).toNat = n / 0x100 := by
      rw [UInt8.toNat_ofNat']
      omega
    have hlt : UInt8.ofNat (n / 0x100) < 0x80 := by
      rw [UInt8.lt_iff_toNat_lt, hhigh]
      show n / 0x100 < 0x80
      omega
    have hval : (UInt8.ofNat (n / 0x100)).toNat * 2 ^ 8 + (UInt8.ofNat n).toNat = n := by omega
    have hfield := lengthField_two hlt (hval.trans_le hle)
    rwa [hval] at hfield

end RfTpm.X509
