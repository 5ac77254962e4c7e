import RfTpm.X509.Asn1

/-!
# Partial certificates

The parsing in `TPM2_CertifyX509` (AttestationCommands.c) and in `X509ProcessExtensions`
(X509_spt.c).  The elements of a partial certificate are looked up once and kept as references in
two tables, `partial` for the sequences and `certTBS` for the elements in their order in a
certificate.

The table for the sequences has four entries.  The loop that fills it tests its count after the
entry is written, and goes on while the count is not *above* four, so a fifth sequence is written
behind the table.
-/

namespace RfTpm.X509

open Faults CInt List

def TPM_RCS_ATTRIBUTES : TpmRc := 0x82
def TPM_RCS_RESERVED_BITS : TpmRc := 0xA1
def RC_CertifyX509_signHandle : TpmRc := 0x100
def RC_CertifyX509_objectHandle : TpmRc := 0x200
def RC_CertifyX509_partialCertificate : TpmRc := 0x340

def ASN1_BITSTRING : UInt8 := 0x03
def ASN1_OCTET_STRING : UInt8 := 0x04
def ASN1_CONSTRUCTED_SEQUENCE : UInt8 := 0x30
def X509_EXTENSIONS : UInt8 := 0xA3

def SIGNATURE_REF : ℤ := 3
def SUBJECT_KEY_REF : ℤ := 6
def SUBJECT_PUBLIC_KEY_REF : ℤ := 7
def EXTENSIONS_REF : ℤ := 8
def REF_COUNT : ℕ := 9

/-- `ALLOWED_SEQUENCES`. -/
def ALLOWED_SEQUENCES : ℕ := (SUBJECT_PUBLIC_KEY_REF - SIGNATURE_REF).toNat

def OID_KEY_USAGE_EXTENSION : Bytes := [0x06, 0x03, 0x55, 0x1D, 0x0F]
def OID_TCG_TPMA_OBJECT : Bytes := [0x06, 0x07, 0x67, 0x81, 0x05, 0x0a, 0x01, 0x01, 0x01]

/-- `stringRef`: where an element is in the certificate. -/
structure StringRef where
  buf : Option ℕ
  len : ℤ

/-- `{0}`. -/
def nullRef : StringRef := ⟨none, 0⟩

/-- An entry of a table. -/
def entry (table : List StringRef) (i : ℤ) : Run TpmRc StringRef :=
  if 0 ≤ i ∧ i < table.length then pure (table.getD i.toNat nullRef) else .error .fault

/-- A write to an entry of a table. -/
def setEntry (table : List StringRef) (i : ℤ) (ref : StringRef) : Run TpmRc (List StringRef) :=
  if 0 ≤ i ∧ i < table.length then pure (table.set i.toNat ref) else .error .fault

/-! ## The extensions -/

section Extensions

variable (cert : Bytes)

/-- The octets that `MemoryEqual` reads. -/
def octets (i : ℤ) : ℕ → Run TpmRc Bytes
  | 0 => pure []
  | n + 1 => do
    let b ← octet cert i
    let bs ← octets (i + 1) n
    pure (b :: bs)

/-- The loop of `ASN1GetBitStringValue` over all octets but the last: the value, or `none` for the
error exit. -/
def bitStringLoop : ℕ → UInt32 → Context → Run TpmRc (Option UInt32 × Context)
  | 0, value, ctx => pure (some value, ctx)
  | n + 1, value, ctx =>
    if value &&& 0xFF000000 = 0 then do
      let (b, ctx₁) ← nextOctet cert ctx
      bitStringLoop n ((value <<< 8) + b.toUInt32) ctx₁
    else pure (none, ctx)

/-- The last octet of the bit string.  `shifts` is what becomes of a shift, by its count. -/
def bitStringLast (shifts : ℤ → Run TpmRc Unit) (shift : UInt8) (value : UInt32) (ctx : Context) :
    Run TpmRc (Option UInt32 × Context) := do
  shifts (8 - shift.toNat)
  if value &&& ((0xFF000000 : UInt32) <<< (8 - shift.toUInt32)) = 0 then do
    let (b, ctx₁) ← nextOctet cert ctx
    shifts shift.toNat
    pure (some ((value <<< (8 - shift.toUInt32)) + (b >>> shift).toUInt32), ctx₁)
  else pure (none, ctx)

/-- The end of `ASN1GetBitStringValue`: its error exit, where there is no value, or the shift that
justifies the value to the left. -/
def bitStringEnd (shifts : ℤ → Run TpmRc Unit) (inputBits : ℤ) :
    Option UInt32 × Context → Run TpmRc (Option UInt32 × Context)
  | (none, ctx) => pure (none, { ctx with size := -1 })
  | (some value, ctx) =>
    if inputBits > 0 then do
      shifts (32 - inputBits)
      pure (some (value <<< UInt32.ofNat (32 - inputBits).toNat), ctx)
    else pure (some value, ctx)

/-- `ASN1GetBitStringValue`, with a meaning for its shifts. -/
def getBitStringValue (shifts : ℤ → Run TpmRc Unit) (ctx : Context) :
    Run TpmRc (Option UInt32 × Context) := do
  let (length, ctx₁) ← asn1NextTag cert ctx
  if length ≥ 1 ∧ ctx₁.tag = ASN1_BITSTRING then do
    let (shift, ctx₂) ← nextOctet cert ctx₁
    let length₁ := length - 1
    let inputBits := 8 * length₁ - shift.toNat
    if shift < 8 ∧ (length₁ > 0 ∨ shift = 0) then do
      let (value, ctx₃) ← bitStringLoop cert (length₁ - 1).toNat 0 ctx₂
      match value with
      | none => bitStringEnd shifts inputBits (none, ctx₃)
      | some value =>
        if length₁ ≥ 1 then do
          let r ← bitStringLast cert shifts shift value ctx₃
          bitStringEnd shifts inputBits r
        else bitStringEnd shifts inputBits (some value, ctx₃)
    else bitStringEnd shifts inputBits (none, ctx₂)
  else pure (none, { ctx₁ with size := -1 })

/-- `ASN1GetBitStringValue`.  A shift by a count that C leaves open has some result here. -/
def asn1GetBitStringValue (ctx : Context) : Run TpmRc (Option UInt32 × Context) :=
  getBitStringValue cert (fun _ => pure ()) ctx

/-- The loop of `X509GetExtensionBits`. -/
def extensionBitsLoop : ℕ → Context → Run TpmRc (Option UInt32 × Context)
  | 0, _ => .error .fault
  | fuel + 1, ctx => do
    let (length, ctx₁) ← asn1NextTag cert ctx
    if length > 0 ∧ ctx₁.size > ctx₁.offset then
      if ctx₁.tag = ASN1_OCTET_STRING then asn1GetBitStringValue cert ctx₁
      else extensionBitsLoop fuel { ctx₁ with offset := int16 (ctx₁.offset + length) }
    else pure (none, { ctx₁ with size := -1 })

/-- `X509GetExtensionBits`. -/
def x509GetExtensionBits (ctx : Context) : Run TpmRc (Option UInt32 × Context) :=
  extensionBitsLoop cert (cert.length + 1) ctx

/-- The loop of `X509FindExtensionByOID`: whether the extension was found, and the context. -/
def findLoop (oid : Bytes) : ℕ → Context → Run TpmRc (Bool × Context)
  | 0, _ => .error .fault
  | fuel + 1, ctx =>
    if ctx.size > ctx.offset then do
      let (length, ctx₁) ← asn1NextTag cert ctx
      if length ≥ 0 ∧ ctx₁.tag = ASN1_CONSTRUCTED_SEQUENCE then
        if length ≥ oid.length then do
          let found ← octets cert (ctx₁.buffer + ctx₁.offset) oid.length
          if found = oid then
            pure (true, { ctx₁ with
              buffer := ctx₁.buffer + ctx₁.offset.toNat, offset := 0, size := length })
          else findLoop oid fuel { ctx₁ with offset := int16 (ctx₁.offset + length) }
        else findLoop oid fuel { ctx₁ with offset := int16 (ctx₁.offset + length) }
      else pure (false, { ctx₁ with size := -1 })
    else if ctx.offset = ctx.size then pure (false, ctx)
    else pure (false, { ctx with size := -1 })

/-- `X509FindExtensionByOID`, searching in a copy of the context. -/
def x509FindExtensionByOID (ctx : Context) (oid : Bytes) : Run TpmRc (Bool × Context) :=
  findLoop cert oid (cert.length + 1) ctx

/-- An extension and its bits: `none` where one of the two functions returns FALSE. -/
def extensionValue (ctx : Context) (oid : Bytes) : Run TpmRc (Option UInt32 × Context) := do
  let (found, extensionCtx) ← x509FindExtensionByOID cert ctx oid
  if found then x509GetExtensionBits cert extensionCtx else pure (none, extensionCtx)

/-- The attributes of a `TPMA_OBJECT` that the key usage is compared with. -/
structure ObjectAttributes where
  bits : UInt32

def ObjectAttributes.fixedTPM (a : ObjectAttributes) : Bool := a.bits &&& 0x2 != 0
def ObjectAttributes.restricted (a : ObjectAttributes) : Bool := a.bits &&& 0x10000 != 0
def ObjectAttributes.decrypt (a : ObjectAttributes) : Bool := a.bits &&& 0x20000 != 0
def ObjectAttributes.sign (a : ObjectAttributes) : Bool := a.bits &&& 0x40000 != 0

/-- `TPMA_X509_KEY_USAGE_ALLOWED_BITS`. -/
def TPMA_X509_KEY_USAGE_ALLOWED_BITS : UInt32 := 0xFF800000

/-- The key usage against the attributes of the key. -/
def badKeyUsage (attributes : ObjectAttributes) (keyUsage : UInt32) : Bool :=
  let KEY_USAGE_SIGN : UInt32 := 0x86000000
  let KEY_USAGE_DECRYPT : UInt32 := 0x39800000
  let badSign := KEY_USAGE_SIGN &&& keyUsage != 0 && !attributes.sign
  let badDecrypt := KEY_USAGE_DECRYPT &&& keyUsage != 0 && !attributes.decrypt
  let badFixedTPM := keyUsage &&& 0x40000000 != 0 && !attributes.fixedTPM
  let badRestricted := keyUsage &&& 0x20000000 != 0 && !attributes.restricted
  badSign || badDecrypt || badFixedTPM || badRestricted

/-- `X509ProcessExtensions`: its result. -/
def x509ProcessExtensions (attributes : ObjectAttributes) (extension : StringRef) :
    Run TpmRc TpmRc :=
  match extension.buf with
  | none => pure TPM_RC_VALUE
  | some buf =>
    match asn1UnmarshalContextInitialize extension.len buf with
    | none => pure TPM_RC_VALUE
    | some ctx => do
      let (length, ctx₁) ← asn1NextTag cert ctx
      if length < 0 ∨ ctx₁.tag ≠ X509_EXTENSIONS then pure TPM_RC_VALUE
      else do
        let (length, ctx₂) ← asn1NextTag cert ctx₁
        if length < 0 ∨ ctx₂.tag ≠ ASN1_CONSTRUCTED_SEQUENCE then pure TPM_RC_VALUE
        else do
          let (value, extensionCtx) ← extensionValue cert ctx₂ OID_TCG_TPMA_OBJECT
          match value with
          | some value =>
            if value ≠ attributes.bits then pure TPM_RCS_ATTRIBUTES else keyUsageResult ctx₂
          | none =>
            if extensionCtx.size < 0 then pure TPM_RC_VALUE else keyUsageResult ctx₂
where
  /-- The required key usage extension. -/
  keyUsageResult (ctx : Context) : Run TpmRc TpmRc := do
    let (value, _) ← extensionValue cert ctx OID_KEY_USAGE_EXTENSION
    match value with
    | none => pure TPM_RC_VALUE
    | some value =>
      if value &&& ~~~TPMA_X509_KEY_USAGE_ALLOWED_BITS ≠ 0 then pure TPM_RCS_RESERVED_BITS
      else if badKeyUsage attributes value then pure TPM_RC_VALUE
      else pure TPM_RC_SUCCESS

end Extensions

/-! ## The elements -/

section Elements

variable (cert : Bytes)

/-- The variables of the loop over the elements; `partials` is the table `partial`. -/
structure Scan where
  ctx : Context
  partials : List StringRef
  certTBS : List StringRef
  countOfSequences : ℤ

/-- The reply to a malformed certificate. -/
def malformed : Run TpmRc Scan :=
  .error (.reply (TPM_RC_VALUE + RC_CertifyX509_partialCertificate))

/-- A write of one element reference: the pointer, then the length once the offset is behind the
element. -/
def setRef (table : List StringRef) (i : ℤ) (ctx : Context) (startOfElement length : ℤ) :
    Run TpmRc (List StringRef × Context) := do
  let ref ← entry table i
  let table₁ ← setEntry table i { ref with buf := some (ctx.buffer + startOfElement.toNat) }
  let ctx₁ := { ctx with offset := int16 (ctx.offset + length) }
  let table₂ ← setEntry table₁ i
    ⟨some (ctx.buffer + startOfElement.toNat), int16 (ctx₁.offset - startOfElement)⟩
  pure (table₂, ctx₁)

/-- `while(ctx.offset < ctx.size)`. -/
def scanLoop : ℕ → Scan → Run TpmRc Scan
  | 0, _ => .error .fault
  | fuel + 1, s =>
    if s.ctx.offset < s.ctx.size then do
      let startOfElement := s.ctx.offset
      let (length, ctx) ← asn1NextTag cert s.ctx
      if length < 0 then pure { s with ctx := ctx }
      else if ctx.tag = ASN1_CONSTRUCTED_SEQUENCE then do
        let (partials, ctx₁) ← setRef s.partials s.countOfSequences ctx startOfElement length
        let s₁ := { s with
          ctx := ctx₁, partials := partials, countOfSequences := s.countOfSequences + 1 }
        if s₁.countOfSequences > (ALLOWED_SEQUENCES : ℤ) then pure s₁ else scanLoop fuel s₁
      else if ctx.tag = X509_EXTENSIONS then do
        let extensions ← entry s.certTBS EXTENSIONS_REF
        if extensions.len ≠ 0 then malformed
        else do
          let (certTBS, ctx₁) ← setRef s.certTBS EXTENSIONS_REF ctx startOfElement length
          scanLoop fuel { s with ctx := ctx₁, certTBS := certTBS }
      else malformed
    else pure s

/-- `for(i = 0; i < countOfSequences; i++)`: the sequences are put where they belong.  The first
argument is the number of rounds left. -/
def placeLoop (partials : List StringRef) (countOfSequences : ℤ) :
    ℕ → ℤ → List StringRef → Run TpmRc (List StringRef)
  | 0, _, certTBS => pure certTBS
  | n + 1, i, certTBS => do
    let ref ← entry partials (countOfSequences - 1 - i)
    let certTBS₁ ← setEntry certTBS (SUBJECT_KEY_REF - i) ref
    placeLoop partials countOfSequences n (i + 1) certTBS₁

/-- What follows the loop over the elements.  `canSign` says that the TPM can produce the signature
algorithm. -/
def elementTable (attributes : ObjectAttributes) (canSign : Bool) (s : Scan) :
    Run TpmRc (List StringRef) := do
  let extensions ← entry s.certTBS EXTENSIONS_REF
  if s.ctx.offset ≠ s.ctx.size ∨ s.countOfSequences < 3 ∨ s.countOfSequences > 4 ∨
      extensions.buf = none then
    .error (.reply (TPM_RC_VALUE + RC_CertifyX509_partialCertificate))
  else do
    let certTBS ← placeLoop s.partials s.countOfSequences s.countOfSequences.toNat 0 s.certTBS
    if s.countOfSequences = 3 ∧ !canSign then
      .error (.reply (TPM_RC_SCHEME + RC_CertifyX509_signHandle))
    else do
      let extensions ← entry certTBS EXTENSIONS_REF
      let result ← x509ProcessExtensions cert attributes extensions
      if result ≠ TPM_RC_SUCCESS then
        .error (.reply (result + if result = TPM_RCS_ATTRIBUTES
          then RC_CertifyX509_objectHandle else RC_CertifyX509_partialCertificate))
      else pure certTBS

/-- The parsing that follows the first tag and its length: the certificate must be a constructed
sequence that uses all of the input. -/
def afterFirstTag (attributes : ObjectAttributes) (canSign : Bool) (length : ℤ) (ctx : Context) :
    Run TpmRc (List StringRef) :=
  if ctx.tag ≠ ASN1_CONSTRUCTED_SEQUENCE ∨ ctx.offset + length ≠ cert.length then
    .error (.reply (TPM_RC_SIZE + RC_CertifyX509_partialCertificate))
  else do
    let s ← scanLoop cert (cert.length + 1)
      ⟨ctx, replicate ALLOWED_SEQUENCES nullRef, replicate REF_COUNT nullRef, 0⟩
    elementTable cert attributes canSign s

/-- The parsing in `TPM2_CertifyX509`: the table of the elements. -/
def certifyX509Parse (attributes : ObjectAttributes) (canSign : Bool) :
    Run TpmRc (List StringRef) :=
  match asn1UnmarshalContextInitialize (int16 cert.length) 0 with
  | none => .error (.reply (TPM_RC_VALUE + RC_CertifyX509_partialCertificate))
  | some ctx => do
    let (length, ctx₁) ← asn1NextTag cert ctx
    afterFirstTag cert attributes canSign length ctx₁

end Elements

/-! ## Reads of the extensions -/

section Reads

variable {cert : Bytes} {ctx : Context}

lemma length_view_le : (view cert ctx).length ≤ cert.length := by
  unfold view
  rw [length_take, length_drop]
  omega

lemma meets_asn1NextTag (h : Inside cert ctx) :
    Meets (asn1NextTag cert ctx) fun out => 0 ≤ out.1 →
      Inside cert out.2 ∧ out.1 ≤ (view cert out.2).length ∧
        (view cert out.2).length < (view cert ctx).length := by
  obtain ⟨out, hout, hagrees⟩ := asn1NextTag_spec h
  rw [hout]
  intro hpos
  cases helem : nextElement (view cert ctx) with
  | none =>
    have hneg : out.1 = -1 := (hagrees.failed helem).1
    omega
  | some e =>
    obtain ⟨tag, n, rest⟩ := e
    obtain ⟨hn, hmoved, -⟩ := hagrees.read helem
    obtain ⟨hle, hlt⟩ := le_length_of_nextElement helem
    rw [hmoved.view_eq]
    exact ⟨hmoved.inside, by omega, hlt⟩

lemma meets_nextOctet (h : Inside cert ctx) (hpos : 0 < (view cert ctx).length) :
    Meets (nextOctet cert ctx) fun out =>
      Inside cert out.2 ∧ (view cert out.2).length + 1 = (view cert ctx).length := by
  cases hview : view cert ctx with
  | nil => rw [hview] at hpos; cases hpos
  | cons b l =>
    obtain ⟨hread, hinside, hrest⟩ := nextOctet_spec h hview
    rw [hread]
    exact ⟨hinside, by rw [hrest, length_cons]⟩

lemma meets_octets {i : ℤ} {n : ℕ} (hpos : 0 ≤ i) (hle : i + n ≤ cert.length) :
    Meets (octets cert i n) fun _ => True := by
  induction n generalizing i with
  | zero => trivial
  | succ n ih =>
    unfold octets octet
    rw [if_pos (by omega)]
    refine Meets.bind (Q := fun _ => True) trivial fun b _ => ?_
    exact Meets.bind (ih (by omega) (by omega)) fun bs _ => trivial

lemma Inside.skip (h : Inside cert ctx) {length : ℤ} (hpos : 0 ≤ length)
    (hle : length ≤ (view cert ctx).length) :
    Inside cert { ctx with offset := int16 (ctx.offset + length) } ∧
      (view cert { ctx with offset := int16 (ctx.offset + length) }).length ≤
        (view cert ctx).length := by
  obtain ⟨n, rfl⟩ := Int.eq_ofNat_of_zero_le hpos
  have hlen := length_view h
  have ⟨hnonneg, hsize, hsmall, _⟩ := h
  obtain ⟨hinside, hview⟩ := view_skip h (n := n) (by omega) ctx.tag
  rw [int16_eq (by omega) (by omega)]
  refine ⟨hinside, ?_⟩
  rw [show (view cert { ctx with offset := ctx.offset + n }) = (view cert ctx).drop n from hview,
    length_drop]
  omega

lemma meets_bitStringLoop (n : ℕ) (value : UInt32) (h : Inside cert ctx)
    (hle : n ≤ (view cert ctx).length) :
    Meets (bitStringLoop cert n value ctx) fun r => Inside cert r.2 ∧
      (r.1.isSome → (view cert r.2).length + n = (view cert ctx).length) := by
  induction n generalizing value ctx with
  | zero => exact ⟨h, fun _ => rfl⟩
  | succ n ih =>
    unfold bitStringLoop
    split_ifs
    · refine Meets.bind (meets_nextOctet h (by omega)) fun out hout => ?_
      refine (ih _ hout.1 (by omega)).mono fun r hr => ⟨hr.1, fun hsome => ?_⟩
      have hcount := hr.2 hsome
      omega
    · exact ⟨h, nofun⟩

lemma meets_bitStringLast (shift : UInt8) (value : UInt32) (h : Inside cert ctx)
    (hpos : 0 < (view cert ctx).length) :
    Meets (bitStringLast cert (fun _ => pure ()) shift value ctx) fun _ => True := by
  show Meets (if _ then _ else _) _
  split_ifs
  · exact Meets.bind (meets_nextOctet h hpos) fun _ _ => trivial
  · trivial

lemma meets_bitStringEnd (inputBits : ℤ) (r : Option UInt32 × Context) :
    Meets (bitStringEnd (fun _ => pure ()) inputBits r) fun _ => True := by
  obtain ⟨_ | value, ctx⟩ := r
  · trivial
  · show Meets (if _ then _ else _) _
    split_ifs <;> trivial

lemma meets_asn1GetBitStringValue (h : Inside cert ctx) :
    Meets (asn1GetBitStringValue cert ctx) fun _ => True := by
  unfold asn1GetBitStringValue getBitStringValue
  refine Meets.bind (meets_asn1NextTag h) fun ⟨length, ctx₁⟩ hout => ?_
  dsimp only at hout ⊢
  by_cases hlength : length ≥ 1 ∧ ctx₁.tag = ASN1_BITSTRING
  · rw [if_pos hlength]
    obtain ⟨hin₁, hle, -⟩ := hout (by omega)
    refine Meets.bind (meets_nextOctet hin₁ (by omega)) fun ⟨shift, ctx₂⟩ hout₂ => ?_
    dsimp only at hout₂ ⊢
    by_cases hshift : shift < 8 ∧ (length - 1 > 0 ∨ shift = 0)
    · rw [if_pos hshift]
      refine Meets.bind (meets_bitStringLoop _ 0 hout₂.1 (by omega)) fun ⟨value, ctx₃⟩ hr => ?_
      cases value with
      | none => trivial
      | some value =>
        have hcount := hr.2 rfl
        dsimp only at hcount ⊢
        split_ifs with hlast
        · exact Meets.bind (meets_bitStringLast shift value hr.1 (by omega))
            fun r _ => meets_bitStringEnd _ r
        · exact meets_bitStringEnd _ _
    · rw [if_neg hshift]
      trivial
  · rw [if_neg hlength]
    trivial

lemma meets_extensionBitsLoop (fuel : ℕ) (h : Inside cert ctx)
    (hfuel : (view cert ctx).length < fuel) :
    Meets (extensionBitsLoop cert fuel ctx) fun _ => True := by
  induction fuel generalizing ctx with
  | zero => cases hfuel
  | succ fuel ih =>
    unfold extensionBitsLoop
    refine Meets.bind (meets_asn1NextTag h) fun ⟨length, ctx₁⟩ hout => ?_
    dsimp only at hout ⊢
    split_ifs with hlength
    · exact meets_asn1GetBitStringValue (hout (by omega)).1
    · obtain ⟨hin₁, hle, hlt⟩ := hout (by omega)
      obtain ⟨hin₂, hle₂⟩ := hin₁.skip (by omega) hle
      exact ih hin₂ (by omega)
    · trivial

lemma meets_findLoop (oid : Bytes) (fuel : ℕ) (h : Inside cert ctx)
    (hfuel : (view cert ctx).length < fuel) :
    Meets (findLoop cert oid fuel ctx) fun r => r.1 = true → Inside cert r.2 := by
  induction fuel generalizing ctx with
  | zero => cases hfuel
  | succ fuel ih =>
    unfold findLoop
    split_ifs with hmore
    · refine Meets.bind (meets_asn1NextTag h) fun ⟨length, ctx₁⟩ hout => ?_
      dsimp only at hout ⊢
      split_ifs with hlength hroom
      · obtain ⟨hin₁, hle, hlt⟩ := hout hlength.1
        obtain ⟨hin₂, hle₂⟩ := hin₁.skip hlength.1 hle
        have hlen := length_view hin₁
        have ⟨hnonneg, hsize, hsmall, hwithin⟩ := hin₁
        refine Meets.bind (meets_octets (by omega) (by omega)) fun found _ => ?_
        split_ifs
        · exact fun _ => ⟨le_rfl, hlength.1, by dsimp only; omega, by dsimp only; omega⟩
        · exact ih hin₂ (by omega)
      · obtain ⟨hin₁, hle, hlt⟩ := hout hlength.1
        obtain ⟨hin₂, hle₂⟩ := hin₁.skip hlength.1 hle
        exact ih hin₂ (by omega)
      · exact nofun
    · exact nofun
    · exact nofun

lemma meets_extensionValue (oid : Bytes) (h : Inside cert ctx) :
    Meets (extensionValue cert ctx oid) fun _ => True := by
  unfold extensionValue
  refine Meets.bind (meets_findLoop oid _ h (Nat.lt_succ_of_le length_view_le))
    fun ⟨found, _⟩ hr => ?_
  dsimp only at hr ⊢
  split_ifs with hfound
  · exact meets_extensionBitsLoop _ (hr hfound) (Nat.lt_succ_of_le length_view_le)
  · trivial

/-- The element that a reference stands for lies in the certificate. -/
def RefInside (cert : Bytes) (ref : StringRef) : Prop :=
  ∀ buf, ref.buf = some buf → ref.len < 2 ^ 15 ∧ buf + ref.len ≤ cert.length

lemma meets_x509ProcessExtensions (attributes : ObjectAttributes) {ref : StringRef}
    (h : RefInside cert ref) : Meets (x509ProcessExtensions cert attributes ref) fun _ => True := by
  have hkeyUsage {ctx : Context} (hin : Inside cert ctx) :
      Meets (x509ProcessExtensions.keyUsageResult cert attributes ctx) fun _ => True := by
    unfold x509ProcessExtensions.keyUsageResult
    refine Meets.bind (meets_extensionValue _ hin) fun ⟨value, _⟩ _ => ?_
    cases value with
    | none => trivial
    | some value =>
      dsimp only
      split_ifs <;> trivial
  unfold x509ProcessExtensions
  cases hbuf : ref.buf with
  | none => trivial
  | some buf =>
    obtain ⟨hsmall, hwithin⟩ := h buf hbuf
    unfold asn1UnmarshalContextInitialize
    dsimp only
    split_ifs with hsize
    · have hin : Inside cert ⟨buf, ref.len, 0, 0xFF⟩ := ⟨le_rfl, hsize.le, hsmall, hwithin⟩
      refine Meets.bind (meets_asn1NextTag hin) fun ⟨length₁, ctx₁⟩ hout₁ => ?_
      split_ifs with hfirst
      · trivial
      · obtain ⟨hin₁, -, -⟩ := hout₁ (by omega)
        refine Meets.bind (meets_asn1NextTag hin₁) fun ⟨length₂, ctx₂⟩ hout₂ => ?_
        split_ifs with hsecond
        · trivial
        · obtain ⟨hin₂, -, -⟩ := hout₂ (by omega)
          refine Meets.bind (meets_extensionValue _ hin₂) fun ⟨value, _⟩ _ => ?_
          cases value
          all_goals
            dsimp only
            split_ifs
            · trivial
            · exact hkeyUsage hin₂
    · trivial

end Reads

/-! ## Well-formed certificates do not run out of the tables -/

/-- The number of sequences that a scan of the elements meets.  It ends at an element that is
malformed or has another tag, and at a second extensions element. -/
def sequences : ℕ → Bool → Bytes → ℕ
  | 0, _, _ => 0
  | fuel + 1, extended, l =>
    match nextElement l with
    | none => 0
    | some (tag, n, rest) =>
      if tag = ASN1_CONSTRUCTED_SEQUENCE then sequences fuel extended (rest.drop n) + 1
      else if tag = X509_EXTENSIONS then
        if extended then 0 else sequences fuel true (rest.drop n)
      else 0

/-- The certificate is one sequence, and a scan of its elements meets more than four sequences. -/
def TooManySequences (cert : Bytes) : Prop :=
  cert.length < 2 ^ 15 ∧ ∃ n content,
    nextElement cert = some (ASN1_CONSTRUCTED_SEQUENCE, n, content) ∧ n = content.length ∧
      ALLOWED_SEQUENCES < sequences (cert.length + 1) false content

section Scanning

variable {cert : Bytes}

variable {table : List StringRef} {i length : ℤ} {s : Scan} {ctx : Context} {content : Bytes}

lemma entry_eq (hpos : 0 ≤ i) (hlt : i < table.length) :
    entry table i = .ok (table.getD i.toNat nullRef) := if_pos ⟨hpos, hlt⟩

lemma setEntry_eq (ref : StringRef) (hpos : 0 ≤ i) (hlt : i < table.length) :
    setEntry table i ref = .ok (table.set i.toNat ref) :=
  if_pos ⟨hpos, hlt⟩

lemma setRef_eq (ctx : Context) (start length : ℤ) (hpos : 0 ≤ i) (hlt : i < table.length) :
    setRef table i ctx start length =
      .ok (table.set i.toNat ⟨some (ctx.buffer + start.toNat),
          int16 (int16 (ctx.offset + length) - start)⟩,
        { ctx with offset := int16 (ctx.offset + length) }) := by
  unfold setRef
  rw [entry_eq hpos hlt, ok_bind, setEntry_eq _ hpos hlt, ok_bind]
  dsimp only
  rw [setEntry_eq _ hpos (by rwa [length_set]), ok_bind, set_set]
  rfl

lemma setRef_fault (ctx : Context) (start length : ℤ) (hge : table.length ≤ i) :
    setRef table i ctx start length = .error .fault := by
  unfold setRef entry
  rw [if_neg (by omega)]
  rfl

/-- The context behind an element with `n` octets of contents. -/
def behind (ctx : Context) (n : ℤ) : Context := { ctx with offset := int16 (ctx.offset + n) }

/-- The reference to the element from `start` to the context behind it. -/
def refTo (start ctx : Context) (n : ℤ) : StringRef :=
  ⟨some (ctx.buffer + start.offset.toNat), int16 ((behind ctx n).offset - start.offset)⟩

/-- The scan after a sequence. -/
def Scan.withSequence (s : Scan) (ctx : Context) (n : ℤ) : Scan :=
  ⟨behind ctx n, s.partials.set s.countOfSequences.toNat (refTo s.ctx ctx n), s.certTBS,
    s.countOfSequences + 1⟩

/-- The scan after the extensions. -/
def Scan.withExtensions (s : Scan) (ctx : Context) (n : ℤ) : Scan :=
  ⟨behind ctx n, s.partials, s.certTBS.set EXTENSIONS_REF.toNat (refTo s.ctx ctx n),
    s.countOfSequences⟩

/-- The entry of the extensions. -/
def Scan.extensions (s : Scan) : StringRef := s.certTBS.getD EXTENSIONS_REF.toNat nullRef

/-- An extensions element was met. -/
def Scan.extended (s : Scan) : Bool := s.extensions.len ≠ 0

lemma entry_extensions (h : s.certTBS.length = REF_COUNT) :
    entry s.certTBS EXTENSIONS_REF = .ok s.extensions :=
  entry_eq (by decide) (by rw [h]; decide)

/-- What holds in the loop over the elements. -/
structure ScanInv (cert : Bytes) (s : Scan) : Prop where
  inside : Inside cert s.ctx
  whole : s.ctx.buffer = 0
  partials : s.partials.length = ALLOWED_SEQUENCES
  certTBS : s.certTBS.length = REF_COUNT
  nonneg : 0 ≤ s.countOfSequences
  counted : s.countOfSequences ≤ ALLOWED_SEQUENCES
  extensions : RefInside cert s.extensions

/-- What holds after the loop, if it has no fault. -/
structure ScanDone (cert : Bytes) (s : Scan) : Prop where
  partials : s.partials.length = ALLOWED_SEQUENCES
  certTBS : s.certTBS.length = REF_COUNT
  extensions : RefInside cert s.extensions

lemma ScanInv.done (h : ScanInv cert s) (ctx : Context) : ScanDone cert { s with ctx := ctx } :=
  ⟨h.partials, h.certTBS, h.extensions⟩

lemma behind_spec {ctx' : Context} {rest : Bytes} {n : ℕ} (h : Inside cert ctx)
    (hmoved : Moved cert ctx ctx' rest) (hn : n ≤ rest.length)
    (hlt : rest.length < (view cert ctx).length) :
    Inside cert (behind ctx' n) ∧ view cert (behind ctx' n) = rest.drop n ∧
      (refTo ctx ctx' n).len ≠ 0 ∧ RefInside cert (refTo ctx ctx' n) := by
  have hin := hmoved.inside
  have hlen := length_view hin
  have hlen₀ := length_view h
  have hsize := hmoved.size_eq
  have hbuffer := hmoved.buffer_eq
  have ⟨h₁, h₂, h₃, _⟩ := hin
  have ⟨h₄, h₅, _, h₆⟩ := h
  rw [hmoved.view_eq] at hlen
  obtain ⟨hinside, hview⟩ := view_skip hin (n := n) (by rw [hmoved.view_eq]; exact hn) ctx'.tag
  rw [hmoved.view_eq] at hview
  have hplace : int16 (ctx'.offset + n) = ctx'.offset + n := int16_eq (by omega) (by omega)
  have hlength : int16 (ctx'.offset + n - ctx.offset) = ctx'.offset + n - ctx.offset :=
    int16_eq (by omega) (by omega)
  unfold refTo behind
  dsimp only
  rw [hplace, hlength]
  refine ⟨hinside, hview, by omega, ?_⟩
  intro buf hbuf
  cases hbuf
  exact ⟨by dsimp only; omega, by rw [hbuffer]; push_cast; omega⟩

section Steps

variable {s : Scan} {ctx : Context} {n : ℕ} {rest : Bytes}

lemma ScanInv.withSequence (h : ScanInv cert s) (hmoved : Moved cert s.ctx ctx rest)
    (hin : Inside cert (behind ctx n)) (hroom : s.countOfSequences < ALLOWED_SEQUENCES) :
    ScanInv cert (s.withSequence ctx n) :=
  { h with
    inside := hin
    whole := hmoved.buffer_eq.trans h.whole
    partials := (length_set ..).trans h.partials
    nonneg := Int.add_nonneg h.nonneg (by decide)
    counted := Int.add_one_le_of_lt hroom }

lemma extensions_withExtensions (h : ScanInv cert s) :
    (s.withExtensions ctx n).extensions = refTo s.ctx ctx n := by
  unfold Scan.extensions Scan.withExtensions
  rw [getD_eq_getElem?_getD, getElem?_set_self (by rw [h.certTBS]; decide)]
  rfl

lemma ScanInv.withExtensions (h : ScanInv cert s) (hmoved : Moved cert s.ctx ctx rest)
    (hin : Inside cert (behind ctx n)) (href : RefInside cert (refTo s.ctx ctx n)) :
    ScanInv cert (s.withExtensions ctx n) :=
  { h with
    inside := hin
    whole := hmoved.buffer_eq.trans h.whole
    certTBS := (length_set ..).trans h.certTBS
    extensions := (extensions_withExtensions h).symm ▸ href }

end Steps

lemma scanLoop_spec (fuel : ℕ) (h : ScanInv cert s) (hfuel : (view cert s.ctx).length < fuel) :
    (ALLOWED_SEQUENCES < s.countOfSequences + sequences fuel s.extended (view cert s.ctx) →
      scanLoop cert fuel s = .error .fault) ∧
    (s.countOfSequences + sequences fuel s.extended (view cert s.ctx) ≤ ALLOWED_SEQUENCES →
      Meets (scanLoop cert fuel s) (ScanDone cert)) := by
  induction fuel generalizing s with
  | zero => cases hfuel
  | succ fuel ih =>
    have hcounted := h.counted
    -- where the scan ends there are no more sequences
    have hstop {x : Run TpmRc Scan} (hx : Meets x (ScanDone cert)) :
        (ALLOWED_SEQUENCES < s.countOfSequences + (0 : ℕ) → x = .error .fault) ∧
          (s.countOfSequences + (0 : ℕ) ≤ ALLOWED_SEQUENCES → Meets x (ScanDone cert)) :=
      ⟨fun hmany => absurd hmany (by simpa using hcounted), fun _ => hx⟩
    by_cases hmore : s.ctx.offset < s.ctx.size
    · obtain ⟨⟨length, ctx⟩, hout, hagrees⟩ := asn1NextTag_spec h.inside
      unfold scanLoop sequences
      rw [if_pos hmore, hout, ok_bind]
      dsimp only
      cases helem : nextElement (view cert s.ctx) with
      | none =>
        obtain rfl : length = -1 := (hagrees.failed helem).1
        rw [if_pos (by decide)]
        exact hstop (h.done ctx)
      | some e =>
        obtain ⟨tag, n, rest⟩ := e
        obtain ⟨hn, hmoved, htag⟩ := hagrees.read helem
        dsimp only at hn hmoved htag
        obtain ⟨hle, hlt⟩ := le_length_of_nextElement helem
        obtain ⟨hin, hview, hne, href⟩ := behind_spec h.inside hmoved hle hlt
        have hless : (view cert (behind ctx n)).length < fuel := by
          rw [hview, length_drop]
          omega
        rw [hn, if_neg (by omega), htag]
        dsimp only
        by_cases hseq : tag = ASN1_CONSTRUCTED_SEQUENCE
        · rw [if_pos hseq, if_pos hseq]
          by_cases hfull : s.countOfSequences = ALLOWED_SEQUENCES
          · -- the table is full, and the entry behind it is written
            rw [setRef_fault _ _ _ (by rw [h.partials, hfull]), error_bind]
            exact ⟨fun _ => rfl, fun hfew => absurd hfew (by push_cast; omega)⟩
          · rw [setRef_eq _ _ _ h.nonneg (by rw [h.partials]; omega), ok_bind]
            rw [if_neg (by omega)]
            have hcount : s.countOfSequences +
                ((sequences fuel s.extended (rest.drop n) + 1 : ℕ) : ℤ) =
                (s.withSequence ctx n).countOfSequences +
                  sequences fuel (s.withSequence ctx n).extended
                    (view cert (s.withSequence ctx n).ctx) := by
              rw [show view cert (s.withSequence ctx n).ctx = rest.drop n from hview]
              push_cast
              exact (add_assoc ..).symm.trans (add_right_comm ..)
            rw [hcount]
            exact ih (h.withSequence hmoved hin (by omega)) hless
        · rw [if_neg hseq, if_neg hseq]
          by_cases hext : tag = X509_EXTENSIONS
          · rw [if_pos hext, if_pos hext, entry_extensions h.certTBS, ok_bind]
            by_cases hsecond : s.extended = true
            · rw [if_pos (of_decide_eq_true hsecond), if_pos hsecond]
              exact hstop trivial
            · rw [if_neg (fun hlen => hsecond (decide_eq_true hlen)), if_neg hsecond,
                setRef_eq _ _ _ (by decide) (by rw [h.certTBS]; decide), ok_bind]
              have hrest := ih (h.withExtensions hmoved hin href) hless
              have hnow : (s.withExtensions ctx n).extended = true := by
                unfold Scan.extended
                rw [extensions_withExtensions h]
                exact decide_eq_true hne
              rwa [hnow, show view cert (s.withExtensions ctx n).ctx = rest.drop n from hview]
                at hrest
          · rw [if_neg hext, if_neg hext]
            exact hstop trivial
    · have hempty : view cert s.ctx = [] := by
        refine eq_nil_of_length_eq_zero ?_
        rw [length_view h.inside]
        omega
      unfold scanLoop sequences
      rw [if_neg hmore, hempty, show nextElement [] = none from rfl]
      exact hstop (h.done s.ctx)

lemma meets_placeLoop {partials certTBS : List StringRef} {count : ℤ} (n : ℕ)
    (hpartials : partials.length = ALLOWED_SEQUENCES) (hcertTBS : certTBS.length = REF_COUNT)
    (hpos : 0 ≤ i) (hsum : i + n = count) (hcount : count ≤ 4) :
    Meets (placeLoop partials count n i certTBS) fun table => table.length = REF_COUNT ∧
      table.getD EXTENSIONS_REF.toNat nullRef = certTBS.getD EXTENSIONS_REF.toNat nullRef := by
  have hfour : (ALLOWED_SEQUENCES : ℤ) = 4 := rfl
  have hnine : (REF_COUNT : ℤ) = 9 := rfl
  have hkey : SUBJECT_KEY_REF = 6 := rfl
  induction n generalizing i certTBS with
  | zero => exact ⟨hcertTBS, rfl⟩
  | succ n ih =>
    unfold placeLoop
    rw [entry_eq (by omega) (by rw [hpartials]; omega), ok_bind,
      setEntry_eq _ (by omega) (by rw [hcertTBS]; omega), ok_bind]
    refine (ih ?_ (by omega) (by omega)).mono fun table htable => ⟨htable.1, htable.2.trans ?_⟩
    · rw [length_set, hcertTBS]
    · have hother : (SUBJECT_KEY_REF - i).toNat ≠ EXTENSIONS_REF.toNat := by
        have hext : EXTENSIONS_REF.toNat = 8 := rfl
        omega
      rw [getD_eq_getElem?_getD, getElem?_set_ne hother, ← getD_eq_getElem?_getD]

lemma meets_elementTable (attributes : ObjectAttributes) (canSign : Bool) (h : ScanDone cert s) :
    Meets (elementTable cert attributes canSign s) fun _ => True := by
  unfold elementTable
  rw [entry_extensions h.certTBS, ok_bind]
  by_cases hbad : s.ctx.offset ≠ s.ctx.size ∨ s.countOfSequences < 3 ∨ s.countOfSequences > 4 ∨
      s.extensions.buf = none
  · rw [if_pos hbad]
    trivial
  · rw [if_neg hbad]
    refine Meets.bind (meets_placeLoop _ h.partials h.certTBS le_rfl (by omega) (by omega))
      fun table htable => ?_
    split_ifs
    · trivial
    · rw [entry_eq (by decide) (by rw [htable.1]; decide), ok_bind, htable.2]
      refine Meets.bind (meets_x509ProcessExtensions attributes h.extensions) fun result _ => ?_
      split_ifs <;> trivial

lemma view_whole (tag : UInt8) (h : cert.length < 2 ^ 15) :
    view cert ⟨0, int16 cert.length, 0, tag⟩ = cert := by
  unfold view
  rw [int16_eq (by omega) (by omega)]
  simp

lemma not_tooMany_of_outer {n : ℕ} {tag : UInt8}
    (helem : nextElement cert = some (tag, n, content))
    (h : tag ≠ ASN1_CONSTRUCTED_SEQUENCE ∨ n ≠ content.length) : ¬ TooManySequences cert := by
  rintro ⟨-, n', content', helem', hn', -⟩
  rw [helem] at helem'
  cases helem'
  exact h.elim (fun hne => hne rfl) fun hne => hne hn'

lemma tooManySequences_iff {n : ℕ} (hshort : cert.length < 2 ^ 15)
    (helem : nextElement cert = some (ASN1_CONSTRUCTED_SEQUENCE, n, content))
    (hn : n = content.length) :
    TooManySequences cert ↔ ALLOWED_SEQUENCES < sequences (cert.length + 1) false content := by
  constructor
  · rintro ⟨-, n', content', helem', -, hmany⟩
    rw [helem] at helem'
    cases helem'
    exact hmany
  · intro hmany
    exact ⟨hshort, n, content, helem, hn, hmany⟩

/-- The scan before the first element. -/
abbrev startScan (ctx : Context) : Scan :=
  ⟨ctx, replicate ALLOWED_SEQUENCES nullRef, replicate REF_COUNT nullRef, 0⟩

lemma scan_of_whole {ctx₀ : Context} (hmoved : Moved cert ctx₀ ctx content)
    (hwhole : ctx₀.buffer = 0) :
    (ALLOWED_SEQUENCES < sequences (cert.length + 1) false content →
      scanLoop cert (cert.length + 1) (startScan ctx) = .error .fault) ∧
    (sequences (cert.length + 1) false content ≤ ALLOWED_SEQUENCES →
      Meets (scanLoop cert (cert.length + 1) (startScan ctx)) (ScanDone cert)) := by
  have hinv : ScanInv cert (startScan ctx) :=
    ⟨hmoved.inside, hmoved.buffer_eq.trans hwhole, rfl, rfl, le_rfl, Int.natCast_nonneg _, nofun⟩
  obtain ⟨hfault, hsafe⟩ := scanLoop_spec (cert.length + 1) hinv (Nat.lt_succ_of_le length_view_le)
  have hfresh : (startScan ctx).extended = false := rfl
  rw [hfresh, hmoved.view_eq, zero_add] at hfault hsafe
  exact ⟨fun hmany => hfault (by exact_mod_cast hmany), fun hfew => hsafe (by exact_mod_cast hfew)⟩

lemma offset_ne_of_long (hlong : int16 cert.length < cert.length)
    (hagrees : TagAgrees cert ⟨0, int16 cert.length, 0, 0xFF⟩ (length, ctx)
      (nextElement (view cert ⟨0, int16 cert.length, 0, 0xFF⟩))) :
    ctx.offset + length ≠ cert.length := by
  cases helem : nextElement (view cert ⟨0, int16 cert.length, 0, 0xFF⟩) with
  | none =>
    obtain ⟨hlength, -, hoffset⟩ := hagrees.failed helem
    dsimp only at hlength hoffset
    omega
  | some e =>
    obtain ⟨tag, n, content⟩ := e
    obtain ⟨hlength, hmoved, -⟩ := hagrees.read helem
    have hn := (le_length_of_nextElement helem).1
    have hlen := length_view hmoved.inside
    rw [hmoved.view_eq, hmoved.size_eq] at hlen
    have hle := hmoved.inside.le_size
    rw [hmoved.size_eq] at hle
    dsimp only at hlength hlen hle
    omega

lemma afterFirstTag_iff {attributes : ObjectAttributes} {canSign : Bool}
    (hshort : cert.length < 2 ^ 15)
    (hagrees : TagAgrees cert ⟨0, int16 cert.length, 0, 0xFF⟩ (length, ctx) (nextElement cert)) :
    afterFirstTag cert attributes canSign length ctx ≠ .error .fault ↔
      ¬ TooManySequences cert := by
  have hwhole : int16 cert.length = cert.length := int16_eq (by omega) (by omega)
  unfold afterFirstTag
  cases helem : nextElement cert with
  | none =>
    obtain ⟨hlength, -, hoffset⟩ := hagrees.failed helem
    dsimp only at hlength hoffset
    rw [if_pos (.inr (by omega))]
    refine iff_of_true nofun ?_
    rintro ⟨-, n, content, helem', -⟩
    exact nomatch helem.symm.trans helem'
  | some e =>
    obtain ⟨tag, n, content⟩ := e
    obtain ⟨hlength, hmoved, htag⟩ := hagrees.read helem
    have hlen := length_view hmoved.inside
    rw [hmoved.view_eq, hmoved.size_eq] at hlen
    have hoffset := hmoved.inside.nonneg
    have hle := hmoved.inside.le_size
    rw [hmoved.size_eq] at hle
    dsimp only at hlength htag hlen hoffset hle
    by_cases hbad : tag ≠ ASN1_CONSTRUCTED_SEQUENCE ∨ n ≠ content.length
    · rw [if_pos (hbad.imp (fun hne => htag ▸ hne) fun hne => by omega)]
      exact iff_of_true nofun (not_tooMany_of_outer helem hbad)
    · rw [not_or, not_not, not_not] at hbad
      rw [if_neg (by rw [not_or, not_not, not_not, htag]; exact ⟨hbad.1, by omega⟩)]
      obtain ⟨hfault, hsafe⟩ := scan_of_whole hmoved rfl
      rw [tooManySequences_iff hshort (hbad.1 ▸ helem) hbad.2]
      by_cases hmany : ALLOWED_SEQUENCES < sequences (cert.length + 1) false content
      · rw [hfault hmany, error_bind]
        exact iff_of_false (fun hne => hne rfl) fun hnot => hnot hmany
      · have hmeets := (hsafe (Nat.le_of_not_lt hmany)).bind fun s hs =>
          meets_elementTable attributes canSign hs
        exact iff_of_true hmeets.ne_fault hmany

end Scanning

/-- When the parsing of a partial certificate stays inside the certificate and its tables: exactly
if the certificate does not have more sequences than the table for them has entries.  Everything
else in the certificate, well-formed or not, is harmless. -/
theorem certificate_parsing_safe_iff (cert : Bytes) (attributes : ObjectAttributes)
    (canSign : Bool) :
    certifyX509Parse cert attributes canSign ≠ .error .fault ↔ ¬ TooManySequences cert := by
  have hint : int16 cert.length ≤ cert.length ∧ int16 cert.length < 2 ^ 15 := by
    unfold int16
    omega
  unfold certifyX509Parse asn1UnmarshalContextInitialize
  by_cases hsize : int16 cert.length > 0
  · have hin : Inside cert ⟨0, int16 cert.length, 0, 0xFF⟩ :=
      ⟨le_rfl, hsize.le, hint.2, by push_cast; omega⟩
    obtain ⟨⟨length, ctx⟩, hout, hagrees⟩ := asn1NextTag_spec hin
    rw [if_pos hsize]
    dsimp only
    rw [hout, ok_bind]
    by_cases hshort : cert.length < 2 ^ 15
    · rw [view_whole _ hshort] at hagrees
      exact afterFirstTag_iff hshort hagrees
    · have hfar := offset_ne_of_long (by omega) hagrees
      unfold afterFirstTag
      rw [if_pos (.inr hfar)]
      exact iff_of_true nofun fun hmany => hshort hmany.1
  · rw [if_neg hsize]
    refine iff_of_true nofun ?_
    rintro ⟨hshort, n, content, helem, -⟩
    have hempty : cert.length = 0 := by
      rw [int16_eq (by omega) (by omega)] at hsize
      omega
    rw [eq_nil_of_length_eq_zero hempty] at helem
    cases helem

/-- Five empty sequences. -/
theorem certificate_of_five_sequences_faults :
    certifyX509Parse [0x30, 10, 0x30, 0, 0x30, 0, 0x30, 0, 0x30, 0, 0x30, 0] ⟨0⟩ true =
      .error .fault := by
  rfl

end RfTpm.X509
