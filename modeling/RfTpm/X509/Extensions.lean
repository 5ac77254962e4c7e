import RfTpm.X509.BitString

/-!
# The search for an extension

`X509FindExtensionByOID` goes over the elements of a context, each of which must be a sequence, and
stops at the first one whose contents start with the identifier.  Lengths come from the certificate
and move the offset of the context; every one was tested against the size of the context, so the
search stays inside and each round takes something off what is left.
-/

namespace RfTpm.X509

open Faults CInt List

/-- A string that is a sequence, with its contents. -/
abbrev IsSequence (contents e : Bytes) : Prop :=
  IsElement ASN1_CONSTRUCTED_SEQUENCE contents e

/-- The string starts with the sequences `before`, none of which has the identifier at its start,
and then the sequence `e` with the given contents that has. -/
structure Found (oid : Bytes) (before : List Bytes) (e contents l : Bytes) :
    Prop where
  earlier : ∀ e' ∈ before, ∃ contents', IsSequence contents' e' ∧ ¬oid <+: contents'
  isSequence : IsSequence contents e
  starts : oid <+: contents
  at_front : before.flatten ++ e <+: l

/-- The string starts with sequences, one of which has the identifier at its start. -/
def HasExtension (oid l : Bytes) : Prop :=
  ∃ es : List Bytes, (∀ e ∈ es, ∃ contents, IsSequence contents e) ∧
    (∃ e ∈ es, ∃ contents, IsSequence contents e ∧ oid <+: contents) ∧ es.flatten <+: l

section Strings

variable {oid l e contents rest : Bytes} {before : List Bytes}

lemma IsElement.contents_eq {tag tag' : UInt8} {contents' : Bytes}
    (h : IsElement tag contents e) (h' : IsElement tag' contents' e) : contents = contents' :=
  congrArg (·.2.2) (Option.some.inj (h.symm.trans h'))

lemma IsElement.append_inj {tag tag' : UInt8} {e' contents' rest' : Bytes}
    (h : IsElement tag contents e) (h' : IsElement tag' contents' e')
    (heq : e ++ rest = e' ++ rest') : e = e' ∧ contents = contents' ∧ rest = rest' := by
  have helem := h.append rest
  rw [heq, h'.append rest'] at helem
  simp only [Option.some.injEq, Prod.mk.injEq] at helem
  obtain ⟨-, hlen, happend⟩ := helem
  obtain ⟨hcontents, hrest⟩ := List.append_inj happend hlen
  rw [hrest] at heq
  exact ⟨append_cancel_right heq, hcontents.symm, hrest.symm⟩

lemma Found.hasExtension (h : Found oid before e contents l) : HasExtension oid l := by
  refine ⟨before ++ [e], fun e' he' => ?_, ⟨e, ?_, contents, h.isSequence, h.starts⟩, ?_⟩
  · rcases mem_append.mp he' with he' | he'
    · obtain ⟨contents', hseq, -⟩ := h.earlier e' he'
      exact ⟨contents', hseq⟩
    · rw [mem_singleton.mp he']
      exact ⟨contents, h.isSequence⟩
  · exact mem_append_right _ (mem_singleton_self e)
  · rw [flatten_append, flatten_singleton]
    exact h.at_front

lemma HasExtension.found (h : HasExtension oid l) :
    ∃ before e contents, Found oid before e contents l := by
  obtain ⟨es, hseqs, hmatch, hfront⟩ := h
  induction es generalizing l with
  | nil =>
    obtain ⟨e, he, -⟩ := hmatch
    exact absurd he not_mem_nil
  | cons e₁ es ih =>
    obtain ⟨contents₁, hseq₁⟩ := hseqs e₁ mem_cons_self
    rw [flatten_cons] at hfront
    by_cases hstarts : oid <+: contents₁
    · exact ⟨[], e₁, contents₁, fun _ h => absurd h not_mem_nil, hseq₁, hstarts,
        (prefix_append _ _).trans hfront⟩
    · obtain ⟨r, rfl⟩ := hfront
      have hmatch' : ∃ e ∈ es, ∃ contents, IsSequence contents e ∧ oid <+: contents := by
        obtain ⟨e, he, contents, hseq, hoid⟩ := hmatch
        rcases mem_cons.mp he with rfl | he
        · rw [hseq.contents_eq hseq₁] at hoid
          exact absurd hoid hstarts
        · exact ⟨e, he, contents, hseq, hoid⟩
      obtain ⟨before, e, contents, hbefore, hseq, hoid, hfront⟩ :=
        ih (fun e he => hseqs e (mem_cons_of_mem _ he)) hmatch' (prefix_append _ r)
      refine ⟨e₁ :: before, e, contents, fun e' he' => ?_, hseq, hoid, ?_⟩
      · rcases mem_cons.mp he' with rfl | he'
        · exact ⟨contents₁, hseq₁, hstarts⟩
        · exact hbefore e' he'
      · rw [flatten_cons, append_assoc, append_assoc]
        exact (prefix_append_right_inj e₁).mpr hfront

lemma Found.cases (h : Found oid before e contents l) :
    ∃ e₁ contents₁ rest, l = e₁ ++ rest ∧ IsSequence contents₁ e₁ ∧
      ((oid <+: contents₁ ∧ before = [] ∧ e = e₁ ∧ contents = contents₁) ∨
        ¬oid <+: contents₁ ∧ ∃ before', before = e₁ :: before' ∧
          Found oid before' e contents rest) := by
  obtain ⟨hbefore, hseq, hoid, r, rfl⟩ := h
  cases before with
  | nil => exact ⟨e, contents, r, rfl, hseq, .inl ⟨hoid, rfl, rfl, rfl⟩⟩
  | cons e₁ before' =>
    obtain ⟨contents₁, hseq₁, hstarts⟩ := hbefore e₁ mem_cons_self
    refine ⟨e₁, contents₁, before'.flatten ++ e ++ r, ?_, hseq₁, .inr ⟨hstarts, before', rfl, ?_⟩⟩
    · rw [flatten_cons, append_assoc, append_assoc, append_assoc]
    · exact ⟨fun e' he' => hbefore e' (mem_cons_of_mem _ he'), hseq, hoid,
        prefix_append _ r⟩

lemma Found.cons {e₁ contents₁ : Bytes} (hseq : IsSequence contents₁ e₁)
    (hstarts : ¬oid <+: contents₁) (h : Found oid before e contents rest) :
    Found oid (e₁ :: before) e contents (e₁ ++ rest) where
  earlier e' he' := by
    rcases mem_cons.mp he' with rfl | he'
    · exact ⟨contents₁, hseq, hstarts⟩
    · exact h.earlier e' he'
  isSequence := h.isSequence
  starts := h.starts
  at_front := by
    rw [flatten_cons, append_assoc]
    exact (prefix_append_right_inj e₁).mpr h.at_front

end Strings

/-! ## The loop -/

section Loop

variable {cert : Bytes} {ctx : Context}

lemma octets_spec {n : ℕ} (h : Inside cert ctx) (hn : n ≤ (view cert ctx).length) :
    octets cert (ctx.buffer + ctx.offset) n = .ok ((view cert ctx).take n) := by
  induction n generalizing ctx with
  | zero => rfl
  | succ n ih =>
    cases hview : view cert ctx with
    | nil =>
      rw [hview, length_nil] at hn
      omega
    | cons b l =>
      rw [hview, length_cons] at hn
      obtain ⟨hread, hin₁, hview₁⟩ := nextOctet_spec h hview
      obtain ⟨b', hb, hpair⟩ := Parsing.bind_eq_ok hread
      obtain rfl : b' = b := congrArg (·.1) (Except.ok.inj hpair)
      have hrest := ih hin₁ (by rw [hview₁]; omega)
      dsimp only at hrest
      rw [hview₁, ← add_assoc] at hrest
      unfold octets
      rw [hb, ok_bind, hrest]
      rfl

variable {oid rest e₁ contents₁ : Bytes} {out : Bool × Context}

lemma take_eq_oid_iff {n : ℕ} (hroom : oid.length ≤ n) :
    rest.take oid.length = oid ↔ oid <+: rest.take n := by
  rw [prefix_iff_eq_take, take_take, Nat.min_eq_left hroom]
  exact eq_comm

lemma not_prefix_of_length_lt {n : ℕ} (hroom : ¬oid.length ≤ n) : ¬oid <+: rest.take n := by
  intro h
  have hle := h.length_le
  rw [length_take] at hle
  omega

/-- The context of an extension that was found. -/
def extensionContext (ctx : Context) (before : List Bytes) (e contents : Bytes) :
    Context :=
  ⟨ctx.buffer + ctx.offset.toNat + before.flatten.length + (e.length - contents.length),
    contents.length, 0, ASN1_CONSTRUCTED_SEQUENCE⟩

/-- What the search in a context ends with. -/
structure Searched (oid : Bytes) (cert : Bytes) (ctx : Context) (out : Bool × Context) :
    Prop where
  found : out.1 = true → ∃ before e contents, Found oid before e contents (view cert ctx)
  eq : ∀ {before e contents}, Found oid before e contents (view cert ctx) →
    out = (true, extensionContext ctx before e contents)

lemma Searched.of_not_sequence (hout : out.1 = false)
    (h : ∀ n rest, nextElement (view cert ctx) ≠ some (ASN1_CONSTRUCTED_SEQUENCE, n, rest)) :
    Searched oid cert ctx out := by
  refine ⟨fun htrue => ?_, fun hfound => ?_⟩
  · rw [hout] at htrue
    cases htrue
  · obtain ⟨e₁, contents₁, rest, hl, hseq, -⟩ := hfound.cases
    rw [hl] at h
    exact absurd (hseq.append rest) (h _ _)

lemma Searched.of_first (hview : view cert ctx = e₁ ++ rest) (hseq : IsSequence contents₁ e₁)
    (hstarts : oid <+: contents₁) :
    Searched oid cert ctx (true, extensionContext ctx [] e₁ contents₁) := by
  refine ⟨fun _ => ⟨[], e₁, contents₁, fun _ he => absurd he not_mem_nil, hseq, hstarts,
    hview ▸ prefix_append _ _⟩, fun hfound => ?_⟩
  obtain ⟨e', contents', rest', hl, hseq', hcases⟩ := hfound.cases
  obtain ⟨rfl, rfl, rfl⟩ := hseq.append_inj hseq' (hview.symm.trans hl)
  rcases hcases with ⟨-, rfl, rfl, rfl⟩ | ⟨hnot, -⟩
  · rfl
  · exact absurd hstarts hnot

lemma Searched.of_rest {ctx₂ : Context} (hview : view cert ctx = e₁ ++ rest)
    (hseq : IsSequence contents₁ e₁) (hstarts : ¬oid <+: contents₁) (hview₂ : view cert ctx₂ = rest)
    (hplace : ctx₂.buffer + ctx₂.offset.toNat = ctx.buffer + ctx.offset.toNat + e₁.length)
    (h : Searched oid cert ctx₂ out) : Searched oid cert ctx out := by
  refine ⟨fun htrue => ?_, fun hfound => ?_⟩
  · obtain ⟨before, e, contents, hfound⟩ := h.found htrue
    rw [hview₂] at hfound
    rw [hview]
    exact ⟨e₁ :: before, e, contents, hfound.cons hseq hstarts⟩
  · obtain ⟨e', contents', rest', hl, hseq', hcases⟩ := hfound.cases
    obtain ⟨rfl, rfl, rfl⟩ := hseq.append_inj hseq' (hview.symm.trans hl)
    rcases hcases with ⟨hoid, -⟩ | ⟨-, before', rfl, hfound'⟩
    · exact absurd hoid hstarts
    · rw [h.eq (hview₂.symm ▸ hfound')]
      unfold extensionContext
      rw [hplace, flatten_cons, length_append]
      congr 2
      omega

lemma Moved.place {ctx₁ : Context} (h : Inside cert ctx) (hmoved : Moved cert ctx ctx₁ rest) :
    ctx₁.buffer + ctx₁.offset.toNat + rest.length =
      ctx.buffer + ctx.offset.toNat + (view cert ctx).length := by
  have hlen := length_view h
  have hlen₁ := length_view hmoved.inside
  have hnonneg := h.nonneg
  have hnonneg₁ := hmoved.inside.nonneg
  have hle := h.le_size
  have hle₁ := hmoved.inside.le_size
  have hsize := hmoved.size_eq
  have hbuffer := hmoved.buffer_eq
  rw [hmoved.view_eq] at hlen₁
  omega

lemma Moved.skip {ctx₁ : Context} {n : ℕ} (h : Inside cert ctx) (hmoved : Moved cert ctx ctx₁ rest)
    (hfits : n ≤ rest.length) (hsplit : view cert ctx = e₁ ++ rest.drop n) :
    let ctx₂ := { ctx₁ with offset := int16 (ctx₁.offset + n) }
    Inside cert ctx₂ ∧ view cert ctx₂ = rest.drop n ∧
      ctx₂.buffer + ctx₂.offset.toNat = ctx.buffer + ctx.offset.toNat + e₁.length := by
  have hplace := hmoved.place h
  have hlen₁ := length_view hmoved.inside
  have hnonneg₁ := hmoved.inside.nonneg
  have hle₁ := hmoved.inside.le_size
  have hsmall := hmoved.inside.small
  have htotal := congrArg List.length hsplit
  rw [length_append, length_drop] at htotal
  obtain ⟨hin₂, hview₂⟩ := view_skip hmoved.inside (n := n)
    (by rw [hmoved.view_eq]; exact hfits) ctx₁.tag
  rw [hmoved.view_eq] at hview₂ hlen₁
  rw [int16_eq (by omega) (by omega)]
  exact ⟨hin₂, hview₂, by dsimp only; omega⟩

lemma findLoop_sequence {fuel n : ℕ} {ctx₁ : Context} (h : Inside cert ctx)
    (helem : nextElement (view cert ctx) = some (ASN1_CONSTRUCTED_SEQUENCE, n, rest))
    (hmoved : Moved cert ctx ctx₁ rest) (htag : ctx₁.tag = ASN1_CONSTRUCTED_SEQUENCE)
    (hrec : ∀ ctx₂, Inside cert ctx₂ → (view cert ctx₂).length < (view cert ctx).length →
      ∃ out, findLoop cert oid fuel ctx₂ = .ok out ∧ Searched oid cert ctx₂ out) :
    ∃ out, (if (n : ℤ) ≥ oid.length then do
        let found ← octets cert (ctx₁.buffer + ctx₁.offset) oid.length
        if found = oid then
          pure (true, { ctx₁ with
            buffer := ctx₁.buffer + ctx₁.offset.toNat, offset := 0, size := n })
        else findLoop cert oid fuel { ctx₁ with offset := int16 (ctx₁.offset + n) }
      else findLoop cert oid fuel { ctx₁ with offset := int16 (ctx₁.offset + n) }) = .ok out ∧
      Searched oid cert ctx out := by
  obtain ⟨hfits, hshorter⟩ := le_length_of_nextElement helem
  obtain ⟨e₁, hseq, hsplit, hheader⟩ := exists_isElement helem
  obtain ⟨hin₂, hview₂, hplace⟩ := hmoved.skip h hfits hsplit
  -- the next round, for an element without the identifier
  have hnext (hstarts : ¬oid <+: rest.take n) :
      ∃ out, findLoop cert oid fuel { ctx₁ with offset := int16 (ctx₁.offset + n) } = .ok out ∧
        Searched oid cert ctx out := by
    obtain ⟨out, hout, hsearched⟩ := hrec _ hin₂ (by
      rw [hview₂, length_drop]
      omega)
    exact ⟨out, hout, .of_rest hsplit hseq hstarts hview₂ hplace hsearched⟩
  by_cases hroom : (n : ℤ) ≥ oid.length
  · have hroom' : oid.length ≤ n := by omega
    rw [if_pos hroom, octets_spec hmoved.inside (by rw [hmoved.view_eq]; omega), ok_bind,
      hmoved.view_eq]
    by_cases hfound : rest.take oid.length = oid
    · have hfirst := Searched.of_first hsplit hseq ((take_eq_oid_iff hroom').mp hfound)
      rw [if_pos hfound]
      refine ⟨_, rfl, ?_⟩
      convert hfirst using 2
      have hplace₁ := hmoved.place h
      have htotal := congrArg List.length hsplit
      rw [length_append, length_drop] at htotal
      unfold extensionContext
      rw [flatten_nil, length_nil, length_take, Nat.min_eq_left hfits, htag]
      congr 1
      omega
    · rw [if_neg hfound]
      exact hnext fun hstarts => hfound ((take_eq_oid_iff hroom').mpr hstarts)
  · rw [if_neg hroom]
    exact hnext (not_prefix_of_length_lt (by omega))

/-- The search in a context inside the certificate.  Each round takes an element off what is left,
so there are no more rounds than octets. -/
lemma findLoop_spec (oid : Bytes) (fuel : ℕ) (h : Inside cert ctx)
    (hfuel : (view cert ctx).length < fuel) :
    ∃ out, findLoop cert oid fuel ctx = .ok out ∧ Searched oid cert ctx out := by
  induction fuel generalizing ctx with
  | zero => exact absurd hfuel (Nat.not_lt_zero _)
  | succ fuel ih =>
    have hlen := length_view h
    have hle := h.le_size
    unfold findLoop
    by_cases hmore : ctx.size > ctx.offset
    · obtain ⟨⟨length, ctx₁⟩, htag, hagrees⟩ := asn1NextTag_spec h
      rw [if_pos hmore, htag, ok_bind]
      dsimp only
      by_cases hsequence : length ≥ 0 ∧ ctx₁.tag = ASN1_CONSTRUCTED_SEQUENCE
      · rw [if_pos hsequence]
        cases helem : nextElement (view cert ctx) with
        | none =>
          have hneg : length = -1 := (hagrees.failed helem).1
          omega
        | some p =>
          obtain ⟨hn, hmoved, htagged⟩ := hagrees.read helem
          dsimp only at hn hmoved htagged
          rw [hn]
          refine findLoop_sequence h ?_ hmoved hsequence.2 fun ctx₂ hin₂ hshorter =>
            ih hin₂ (by omega)
          rw [helem, ← hsequence.2, htagged]
      · rw [if_neg hsequence]
        refine ⟨_, rfl, .of_not_sequence rfl fun n rest helem => ?_⟩
        obtain ⟨hn, -, htagged⟩ := hagrees.read helem
        dsimp only at hn htagged
        exact hsequence ⟨by omega, htagged⟩
    · have hnil : view cert ctx = [] := eq_nil_of_length_eq_zero (by omega)
      rw [if_neg hmore, if_pos (by omega)]
      refine ⟨_, rfl, .of_not_sequence rfl fun n rest helem => ?_⟩
      rw [hnil] at helem
      cases helem

lemma Found.view_extensionContext {e contents : Bytes} {before : List Bytes}
    (hsmall : cert.length < 2 ^ 15) (h : Found oid before e contents cert) :
    Inside cert (extensionContext ⟨0, cert.length, 0, 0xFF⟩ before e contents) ∧
      view cert (extensionContext ⟨0, cert.length, 0, 0xFF⟩ before e contents) = contents := by
  obtain ⟨rest, hcert⟩ := h.at_front
  obtain ⟨header, -, he, -⟩ := nextElement_split h.isSequence
  have hheader : e.length - contents.length = header.length := by
    rw [he, length_append, Nat.add_sub_cancel]
  have hplace : cert = (before.flatten ++ header) ++ (contents ++ rest) := by
    rw [← hcert, he]
    simp only [append_assoc]
  have hlen := congrArg List.length hplace
  simp only [length_append] at hlen
  have hbuffer : 0 + (0 : ℤ).toNat + before.flatten.length + (e.length - contents.length) =
      (before.flatten ++ header).length := by
    rw [hheader, length_append, Int.toNat_zero, Nat.zero_add]
  unfold extensionContext
  rw [hbuffer]
  refine ⟨⟨le_rfl, Int.natCast_nonneg _, by dsimp only; omega, ?_⟩, ?_⟩
  · dsimp only
    rw [length_append]
    omega
  · unfold view
    dsimp only
    rw [Int.toNat_zero, Nat.add_zero, sub_zero, Int.toNat_natCast]
    conv_lhs => rw [hplace]
    rw [drop_left, take_left]

lemma length_view_lt (h : Inside cert ctx) : (view cert ctx).length < ctx.size.toNat + 1 := by
  have hlen := length_view h
  have hnonneg := h.nonneg
  omega

end Loop

/-- **The search for an extension stays inside, ends, and finds the first one.**  A certificate is
exactly as long as its size; a read behind it would be a fault, and so would be more rounds of a
loop than the size. -/
theorem extensions_parsed (cert oid : Bytes) (hpos : 0 < cert.length)
    (hsmall : cert.length < 2 ^ 15) :
    ∃ ctx, asn1UnmarshalContextInitialize cert.length 0 = some ctx ∧ Inside cert ctx ∧
      (∃ out, x509FindExtensionByOID cert ctx oid = .ok out ∧
        (out.1 = true ↔ HasExtension oid cert) ∧
        ∀ before e contents, Found oid before e contents cert →
          out = (true, extensionContext ctx before e contents) ∧ Inside cert out.2 ∧
            view cert out.2 = contents) ∧
      ∀ ctx, Inside cert ctx →
        asn1DecodeLength cert ctx ≠ .error .fault ∧ asn1NextTag cert ctx ≠ .error .fault ∧
        findLoop cert oid (ctx.size.toNat + 1) ctx ≠ .error .fault ∧
        extensionBitsLoop cert (ctx.size.toNat + 1) ctx ≠ .error .fault ∧
        x509GetExtensionBits cert ctx ≠ .error .fault := by
  have hinside : Inside cert ⟨0, cert.length, 0, 0xFF⟩ :=
    ⟨le_rfl, Int.natCast_nonneg _, by dsimp only; omega, by dsimp only; omega⟩
  have hview : view cert ⟨0, cert.length, 0, 0xFF⟩ = cert := by
    unfold view
    dsimp only
    rw [Int.toNat_zero, Nat.add_zero, drop_zero, sub_zero, Int.toNat_natCast, take_length]
  refine ⟨⟨0, cert.length, 0, 0xFF⟩, if_pos (by omega), hinside, ?_, fun ctx hctx => ?_⟩
  · obtain ⟨out, hout, hfound, heq⟩ :=
      findLoop_spec oid (cert.length + 1) hinside (Nat.lt_succ_of_le length_view_le)
    rw [hview] at hfound heq
    refine ⟨out, hout, ⟨fun htrue => ?_, fun hext => ?_⟩, fun before e contents h => ?_⟩
    · obtain ⟨before, e, contents, h⟩ := hfound htrue
      exact h.hasExtension
    · obtain ⟨before, e, contents, h⟩ := hext.found
      rw [heq h]
    · rw [heq h]
      exact ⟨rfl, h.view_extensionContext hsmall⟩
  · obtain ⟨lengthOut, hlength, -⟩ := asn1DecodeLength_spec hctx
    obtain ⟨tagOut, htag, -⟩ := asn1NextTag_spec hctx
    refine ⟨?_, ?_, (meets_findLoop oid _ hctx (length_view_lt hctx)).ne_fault,
      (meets_extensionBitsLoop _ hctx (length_view_lt hctx)).ne_fault,
      (meets_extensionBitsLoop _ hctx (Nat.lt_succ_of_le length_view_le)).ne_fault⟩
    · rw [hlength]
      exact fun heq => by cases heq
    · rw [htag]
      exact fun heq => by cases heq

/-- A key usage, with its header. -/
def keyUsageExtension : Bytes :=
  [0x30, 0x0B] ++ OID_KEY_USAGE_EXTENSION ++ [0x04, 0x04, 0x03, 0x02, 0x07, 0x80]

/-- Two extensions, the second of which is a key usage. -/
def twoExtensions : Bytes := [0x30, 0x02, 0x06, 0x00] ++ keyUsageExtension

/-- The key usage is found behind the other extension. -/
theorem extensions_parsed_two :
    0 < twoExtensions.length ∧ twoExtensions.length < 2 ^ 15 ∧
      ∃ ctx, asn1UnmarshalContextInitialize twoExtensions.length 0 = some ctx ∧
        Inside twoExtensions ctx ∧
        (∃ out, x509FindExtensionByOID twoExtensions ctx OID_KEY_USAGE_EXTENSION = .ok out ∧
          (out.1 = true ↔ HasExtension OID_KEY_USAGE_EXTENSION twoExtensions) ∧
          out.1 = true) := by
  obtain ⟨ctx, hinit, hinside, ⟨out, hout, hiff, -⟩, -⟩ :=
    extensions_parsed twoExtensions OID_KEY_USAGE_EXTENSION (by decide) (by decide)
  have hfirst : IsSequence [0x06, 0x00] [0x30, 0x02, 0x06, 0x00] := rfl
  have hsecond : IsSequence (keyUsageExtension.drop 2) keyUsageExtension := by
    unfold IsSequence IsElement
    decide
  refine ⟨by decide, by decide, ctx, hinit, hinside, out, hout, hiff, hiff.mpr ?_⟩
  refine ⟨[[0x30, 0x02, 0x06, 0x00], keyUsageExtension], fun e he => ?_,
    ⟨_, mem_cons_of_mem _ (mem_singleton_self _), _, hsecond, by decide⟩, by decide⟩
  rcases mem_cons.mp he with rfl | he
  · exact ⟨_, hfirst⟩
  · rw [mem_singleton.mp he]
    exact ⟨_, hsecond⟩

end RfTpm.X509
