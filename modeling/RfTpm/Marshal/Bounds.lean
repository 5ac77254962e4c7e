import RfTpm.Marshal.Unmarshal

/-!
# Unmarshaling stays inside its buffers

Every function that reads a parameter is `Sound`: it reads bytes of the input only, moves the
pointer and the remaining size together, and stores no more than its target holds.  The integers
and `Array_Unmarshal()` check the remaining size before they read; `TPM2B_Unmarshal()` and the
lists compare with the capacity before they store; everything else is put together from these, so
its safety is put together from theirs.
-/

namespace RfTpm.Marshal

open Cursor Reader

variable {α : Type}

/-! ## Integers and buffers -/

lemma sound_uint (n : ℕ) : Sound (uint n TPM_RC_INSUFFICIENT) := (reads_uint n _).sound

lemma reads_tpm2bUnmarshal {capacity targetSize : ℕ} (h : targetSize ≤ capacity) :
    Reads (tpm2bUnmarshal capacity targetSize)
      fun v n => n = 2 + v.length ∧ v.length ≤ capacity := by
  refine (reads_uint 2 _).bind ?_
  rintro size _ ⟨rfl, -⟩
  refine (reads_refuseIf _).bind ?_
  rintro ⟨⟩ _ ⟨rfl, hsize⟩
  have hfits : size ≤ capacity := by omega
  refine (reads_array hfits _).mono ?_
  rintro v n ⟨rfl, hv⟩
  omega

lemma reads_tpm2b (capacity : ℕ) :
    Reads (tpm2b capacity) fun v n => n = 2 + v.length ∧ v.length ≤ capacity :=
  reads_tpm2bUnmarshal (Nat.mod_le _ _)

lemma sound_tpm2b (capacity : ℕ) : Sound (tpm2b capacity) := (reads_tpm2b capacity).sound

variable {r : Unmarshal ℕ}

lemma sound_checked (hr : Sound r) (admitted : List ℕ) (rc : TpmRc) :
    Sound (checked r admitted rc) :=
  hr.bind fun v => (sound_refuseIf rc).bind fun _ => Sound.pure v

lemma sound_attributes (hr : Sound r) (reserved : ℕ) : Sound (attributes r reserved) :=
  hr.bind fun v => (sound_refuseIf _).bind fun _ => Sound.pure v

lemma sound_handleIn (ranges : List (ℕ × ℕ)) : Sound (handleIn ranges) :=
  (sound_uint 4).bind fun v => (sound_refuseIf _).bind fun _ => Sound.pure v

lemma sound_algorithm (admitted : List ℕ) (rc : TpmRc) (allowNull : Bool) :
    Sound (algorithm admitted rc allowNull) :=
  sound_checked (sound_uint 2) _ rc

lemma reads_sizedUnmarshal {r : Unmarshal α} (hr : Sound r) :
    Reads (sizedUnmarshal r) fun v n => n = 2 + v.size := by
  refine (reads_uint 2 _).bind ?_
  rintro size _ ⟨rfl, -⟩
  refine (reads_refuseIf _).bind ?_
  rintro ⟨⟩ _ ⟨rfl, -⟩
  refine (reads_sized hr _).bind ?_
  rintro v _ rfl
  refine Reads.pure ?_
  dsimp only
  omega

lemma reads_listUnmarshal {r : Unmarshal α} (hr : Sound r) {capacity low high : ℕ}
    (h : high ≤ capacity) :
    Reads (listUnmarshal capacity low high r) fun vs _ => vs.length ≤ capacity := by
  refine (reads_uint 4 _).bind fun count _ _ => (reads_refuseIf _).bind fun _ _ _ =>
    (reads_refuseIf _).bind ?_
  rintro ⟨⟩ _ ⟨-, hcount⟩
  refine (reads_elements hr (by omega)).mono ?_
  intro vs n hvs
  omega

/-! ## Structures -/

lemma sound_tpmuHaUnmarshal (selector : ℕ) : Sound (tpmuHaUnmarshal selector) := by
  unfold tpmuHaUnmarshal
  refine .ite ?_ (.ite ?_ (.ite ?_ (.ite ?_ (.ite (.pure _) (.refuse _)))))
  all_goals exact (reads_array le_rfl _).sound

lemma sound_tpmtHaUnmarshal (allowNull : Bool) : Sound (tpmtHaUnmarshal allowNull) :=
  (sound_algorithm _ _ _).bind fun hashAlg => (sound_tpmuHaUnmarshal hashAlg).bind fun _ => .pure _

lemma sound_tpmsPcrSelectionUnmarshal : Sound tpmsPcrSelectionUnmarshal := by
  refine (sound_algorithm _ _ _).bind fun hash => (sound_uint 1).bind fun sizeofSelect => ?_
  -- the size is checked against the bit map before the bytes are stored
  refine Reads.bind (reads_refuseIf _) ?_
  rintro ⟨⟩ _ ⟨-, hsize⟩
  exact Sound.bind (reads_array (by omega) _).sound fun _ => .pure _

lemma sound_ticketUnmarshal (tags : List ℕ) : Sound (ticketUnmarshal tags) :=
  (sound_checked (sound_uint 2) _ _).bind fun _ => (sound_refuseIf _).bind fun _ =>
    (sound_handleIn _).bind fun _ => (sound_tpm2b _).bind fun _ => .pure _

lemma sound_symDefUnmarshal (hr : Sound r) : Sound (symDefUnmarshal r) := by
  refine hr.bind fun algorithm => Sound.bind ?_ fun keyBits => Sound.bind ?_ fun mode => .pure _
  · unfold tpmuSymKeyBitsUnmarshal
    exact .ite (sound_checked (sound_uint 2) _ _) (.ite (sound_checked (sound_uint 2) _ _)
      (.ite (sound_algorithm _ _ _) (.ite (.pure _) (.refuse _))))
  · unfold tpmuSymModeUnmarshal
    exact .ite (sound_algorithm _ _ _) (.ite (sound_algorithm _ _ _)
      (.ite (.pure _) (.ite (.pure _) (.refuse _))))

lemma sound_tpmsSchemeHashUnmarshal : Sound tpmsSchemeHashUnmarshal :=
  (sound_algorithm _ _ _).bind fun _ => .pure _

lemma sound_tpmsSchemeEcdaaUnmarshal : Sound tpmsSchemeEcdaaUnmarshal :=
  (sound_algorithm _ _ _).bind fun _ => (sound_uint 2).bind fun _ => .pure _

lemma sound_tpmsSchemeXorUnmarshal : Sound tpmsSchemeXorUnmarshal :=
  (sound_algorithm _ _ _).bind fun _ => (sound_algorithm _ _ _).bind fun _ => .pure _

lemma sound_tpmuSchemeKeyedhashUnmarshal (selector : ℕ) :
    Sound (tpmuSchemeKeyedhashUnmarshal selector) :=
  .ite sound_tpmsSchemeHashUnmarshal (.ite sound_tpmsSchemeXorUnmarshal
    (.ite (.pure _) (.refuse _)))

lemma sound_tpmuSigSchemeUnmarshal (selector : ℕ) : Sound (tpmuSigSchemeUnmarshal selector) :=
  .ite sound_tpmsSchemeEcdaaUnmarshal (.ite sound_tpmsSchemeHashUnmarshal
    (.ite (.pure _) (.refuse _)))

lemma sound_tpmuKdfSchemeUnmarshal (selector : ℕ) : Sound (tpmuKdfSchemeUnmarshal selector) :=
  .ite sound_tpmsSchemeHashUnmarshal (.ite (.pure _) (.refuse _))

lemma sound_tpmuAsymSchemeUnmarshal (selector : ℕ) : Sound (tpmuAsymSchemeUnmarshal selector) :=
  .ite sound_tpmsSchemeEcdaaUnmarshal (.ite sound_tpmsSchemeHashUnmarshal
    (.ite (.pure _) (.ite (.pure _) (.refuse _))))

lemma sound_schemeUnmarshal {details : ℕ → Unmarshal SchemeDetails} (hr : Sound r)
    (hdetails : ∀ scheme, Sound (details scheme)) : Sound (schemeUnmarshal r details) :=
  hr.bind fun scheme => (hdetails scheme).bind fun _ => .pure _

lemma sound_tpmsEccPointUnmarshal : Sound tpmsEccPointUnmarshal :=
  (sound_tpm2b _).bind fun _ => (sound_tpm2b _).bind fun _ => .pure _

lemma sound_tpmtSignatureUnmarshal (allowNull : Bool) :
    Sound (tpmtSignatureUnmarshal allowNull) := by
  refine (sound_algorithm _ _ _).bind fun sigAlg => Sound.bind ?_ fun _ => .pure _
  unfold tpmuSignatureUnmarshal
  refine .ite ?_ (.ite ?_ (.ite ?_ (.ite (.pure _) (.refuse _))))
  · exact (sound_algorithm _ _ _).bind fun _ => (sound_tpm2b _).bind fun _ => .pure _
  · exact (sound_algorithm _ _ _).bind fun _ => (sound_tpm2b _).bind fun _ =>
      (sound_tpm2b _).bind fun _ => .pure _
  · exact (sound_tpmtHaUnmarshal false).bind fun _ => .pure _

lemma sound_tpmuPublicParmsUnmarshal (selector : ℕ) :
    Sound (tpmuPublicParmsUnmarshal selector) := by
  have hsym (allowNull : Bool) : Sound (tpmtSymDefObjectUnmarshal allowNull) :=
    sound_symDefUnmarshal (sound_algorithm _ _ _)
  have hasym {r : Unmarshal ℕ} (hr : Sound r) : Sound (schemeUnmarshal r tpmuAsymSchemeUnmarshal) :=
    sound_schemeUnmarshal hr sound_tpmuAsymSchemeUnmarshal
  unfold tpmuPublicParmsUnmarshal
  refine .ite ?keyedHash (.ite ?symCipher (.ite ?rsa (.ite ?ecc (.refuse _))))
  case keyedHash =>
    exact (sound_schemeUnmarshal (sound_algorithm _ _ _) sound_tpmuSchemeKeyedhashUnmarshal).bind
      fun _ => .pure _
  case symCipher => exact (hsym false).bind fun _ => .pure _
  case rsa =>
    exact (hsym true).bind fun _ => (hasym (sound_algorithm _ _ _)).bind fun _ =>
      (sound_checked (sound_uint 2) _ _).bind fun _ => (sound_uint 4).bind fun _ => .pure _
  case ecc =>
    refine (hsym true).bind fun _ => (hasym (sound_algorithm _ _ _)).bind fun _ =>
      Sound.bind ?_ fun _ => Sound.bind ?_ fun _ => .pure _
    · exact (sound_checked (sound_uint 2) _ _).bind fun _ => (sound_refuseIf _).bind fun _ =>
        .pure _
    · exact sound_schemeUnmarshal (sound_algorithm _ _ _) sound_tpmuKdfSchemeUnmarshal

lemma sound_map {β : Type} {r : Unmarshal α} (hr : Sound r) (f : α → β) : Sound (f <$> r) :=
  hr.bind fun v => .pure (f v)

lemma sound_tpmuPublicIdUnmarshal (selector : ℕ) : Sound (tpmuPublicIdUnmarshal selector) :=
  .ite (sound_map (sound_tpm2b _) _) (.ite (sound_map (sound_tpm2b _) _)
    (.ite (sound_map (sound_tpm2b _) _) (.ite (sound_map sound_tpmsEccPointUnmarshal _)
      (.refuse _))))

lemma sound_tpmtPublicUnmarshal (allowNull : Bool) : Sound (tpmtPublicUnmarshal allowNull) :=
  (sound_checked (sound_uint 2) _ _).bind fun type => (sound_algorithm _ _ _).bind fun _ =>
    (sound_attributes (sound_uint 4) _).bind fun _ => (sound_tpm2b _).bind fun _ =>
      (sound_tpmuPublicParmsUnmarshal type).bind fun _ =>
        (sound_tpmuPublicIdUnmarshal type).bind fun _ => .pure _

lemma sound_tpmtSensitiveUnmarshal : Sound tpmtSensitiveUnmarshal := by
  refine (sound_checked (sound_uint 2) _ _).bind fun sensitiveType => (sound_tpm2b _).bind fun _ =>
    (sound_tpm2b _).bind fun _ => Sound.bind ?_ fun _ => .pure _
  unfold tpmuSensitiveCompositeUnmarshal
  exact .ite (sound_tpm2b _) (.ite (sound_tpm2b _) (.ite (sound_tpm2b _) (.ite (sound_tpm2b _)
    (.refuse _))))

lemma reads_tpm2bSensitiveUnmarshal :
    Reads tpm2bSensitiveUnmarshal fun v n => n = 2 + v.size := by
  refine (reads_uint 2 _).bind ?_
  rintro size _ ⟨rfl, -⟩
  split_ifs with hsize
  · refine (reads_sized sound_tpmtSensitiveUnmarshal _).bind ?_
    rintro v _ rfl
    exact Reads.pure rfl
  · refine Reads.pure ?_
    dsimp only
    omega

lemma sound_nvPublicUnmarshal {index attributes : Unmarshal ℕ} (hindex : Sound index)
    (hattributes : Sound attributes) : Sound (nvPublicUnmarshal index attributes) :=
  hindex.bind fun _ => (sound_algorithm _ _ _).bind fun _ => hattributes.bind fun _ =>
    (sound_tpm2b _).bind fun _ => (sound_uint 2).bind fun _ => (sound_refuseIf _).bind fun _ =>
      .pure _

lemma sound_tpmsNvPublicUnmarshal : Sound tpmsNvPublicUnmarshal :=
  sound_nvPublicUnmarshal (sound_handleIn _) (sound_attributes (sound_uint 4) _)

lemma sound_tpmtNvPublic2Unmarshal : Sound tpmtNvPublic2Unmarshal := by
  refine (sound_uint 1).bind fun handleType => Sound.bind ?_ fun _ => .pure _
  exact .ite sound_tpmsNvPublicUnmarshal (.ite
    (sound_nvPublicUnmarshal (sound_handleIn _) (sound_attributes (sound_uint 8) _))
    (.ite sound_tpmsNvPublicUnmarshal (.refuse _)))

lemma sound_tpmsContextUnmarshal (sizes : Sizes) : Sound (tpmsContextUnmarshal sizes) :=
  (sound_uint 8).bind fun _ => (sound_handleIn _).bind fun _ => (sound_handleIn _).bind fun _ =>
    (sound_tpm2b _).bind fun _ => .pure _

/-! ## The parameters of commands -/

/-- What a parameter that was read has to do with the bytes it took up: a buffer or a structure
behind its size took up that size, and a list fits into its array. -/
def Parameter.Exact : (p : Parameter) → p.Value → ℕ → Prop
  | TPM2B_ECC_POINT, v, n => n = 2 + v.size
  | TPM2B_NV_PUBLIC, v, n => n = 2 + v.size
  | TPM2B_NV_PUBLIC_2, v, n => n = 2 + v.size
  | TPM2B_SENSITIVE, v, n => n = 2 + v.size
  | TPM2B_SENSITIVE_CREATE, v, n => n = 2 + v.size
  | TPM2B_SET_CAPABILITY_DATA, v, n => n = 2 + v.size
  | TPM2B_PUBLIC, v, n => n = 2 + v.size
  | TPM2B_DATA, v, n | TPM2B_DIGEST, v, n | TPM2B_ECC_PARAMETER, v, n
  | TPM2B_ENCRYPTED_SECRET, v, n | TPM2B_EVENT, v, n | TPM2B_ID_OBJECT, v, n | TPM2B_IV, v, n
  | TPM2B_MAX_BUFFER, v, n | TPM2B_MAX_NV_BUFFER, v, n | TPM2B_NAME, v, n | TPM2B_PRIVATE, v, n
  | TPM2B_PUBLIC_KEY_RSA, v, n | TPM2B_SENSITIVE_DATA, v, n | TPM2B_TEMPLATE, v, n
  | TPM2B_TIMEOUT, v, n => n = 2 + List.length (α := UInt8) v
  | TPML_ALG, v, _ => List.length (α := ℕ) v ≤ MAX_ALG_LIST_SIZE
  | TPML_CC, v, _ => List.length (α := ℕ) v ≤ MAX_CAP_CC
  | TPML_DIGEST, v, _ => List.length (α := Bytes) v ≤ 8
  | TPML_DIGEST_VALUES, v, _ => List.length (α := Ha) v ≤ HASH_COUNT
  | TPML_PCR_SELECTION, v, _ => List.length (α := PcrSelection) v ≤ HASH_COUNT
  | _, _, _ => True

lemma reads_unmarshalArray (sizes : Sizes) (allowNull : Bool) (p : Parameter) :
    Reads (unmarshalArray sizes allowNull p) p.Exact := by
  have hbuffer (capacity : ℕ) : Reads (tpm2b capacity) fun v n => n = 2 + v.length :=
    (reads_tpm2b capacity).mono fun _ _ h => h.1
  cases p with
  | TPM2B_DATA => exact hbuffer _
  | TPM2B_DIGEST => exact hbuffer _
  | TPM2B_ECC_PARAMETER => exact hbuffer _
  | TPM2B_ECC_POINT => exact reads_sizedUnmarshal sound_tpmsEccPointUnmarshal
  | TPM2B_ENCRYPTED_SECRET => exact hbuffer _
  | TPM2B_EVENT => exact hbuffer _
  | TPM2B_ID_OBJECT => exact hbuffer _
  | TPM2B_IV => exact hbuffer _
  | TPM2B_MAX_BUFFER => exact hbuffer _
  | TPM2B_MAX_NV_BUFFER => exact hbuffer _
  | TPM2B_NAME => exact hbuffer _
  | TPM2B_NV_PUBLIC => exact reads_sizedUnmarshal sound_tpmsNvPublicUnmarshal
  | TPM2B_NV_PUBLIC_2 => exact reads_sizedUnmarshal sound_tpmtNvPublic2Unmarshal
  | TPM2B_PRIVATE => exact hbuffer _
  | TPM2B_PUBLIC_KEY_RSA => exact hbuffer _
  | TPM2B_SENSITIVE => exact reads_tpm2bSensitiveUnmarshal
  | TPM2B_SENSITIVE_CREATE =>
    exact reads_sizedUnmarshal ((sound_tpm2b _).bind fun _ => (sound_tpm2b _).bind fun _ => .pure _)
  | TPM2B_SENSITIVE_DATA => exact hbuffer _
  | TPM2B_SET_CAPABILITY_DATA =>
    exact reads_sizedUnmarshal ((sound_checked (sound_uint 4) _ _).bind fun _ => .refuse _)
  | TPM2B_TEMPLATE => exact hbuffer _
  | TPM2B_TIMEOUT => exact hbuffer _
  | TPMI_DH_CONTEXT => exact sound_handleIn _
  | TPMI_DH_PERSISTENT => exact sound_handleIn _
  | TPMI_YES_NO => exact sound_checked (sound_uint 1) _ _
  | TPML_ALG => exact reads_listUnmarshal (sound_uint 2) le_rfl
  | TPML_CC => exact reads_listUnmarshal (sound_uint 4) le_rfl
  | TPML_DIGEST => exact reads_listUnmarshal (sound_tpm2b _) le_rfl
  | TPML_DIGEST_VALUES => exact reads_listUnmarshal (sound_tpmtHaUnmarshal false) le_rfl
  | TPML_PCR_SELECTION => exact reads_listUnmarshal sound_tpmsPcrSelectionUnmarshal le_rfl
  | TPMS_CONTEXT => exact sound_tpmsContextUnmarshal sizes
  | TPMT_PUBLIC_PARMS =>
    exact (sound_checked (sound_uint 2) _ _).bind fun type =>
      (sound_tpmuPublicParmsUnmarshal type).bind fun _ => .pure _
  | TPMT_TK_AUTH => exact sound_ticketUnmarshal _
  | TPMT_TK_CREATION => exact sound_ticketUnmarshal _
  | TPMT_TK_HASHCHECK => exact sound_ticketUnmarshal _
  | TPMT_TK_VERIFIED => exact sound_ticketUnmarshal _
  | TPM_AT => exact sound_uint 4
  | TPM_CAP => exact sound_checked (sound_uint 4) _ _
  | TPM_CLOCK_ADJUST => exact sound_checked (sound_uint 1) _ _
  | TPM_EO => exact sound_checked (sound_uint 2) _ _
  | TPM_SE => exact sound_checked (sound_uint 1) _ _
  | TPM_SU => exact sound_checked (sound_uint 2) _ _
  | UINT16 => exact sound_uint 2
  | UINT32 => exact sound_uint 4
  | UINT64 => exact sound_uint 8
  | UINT8 => exact sound_uint 1
  | TPM2B_PUBLIC => exact reads_sizedUnmarshal (sound_tpmtPublicUnmarshal allowNull)
  | TPMI_ALG_CIPHER_MODE => exact sound_algorithm _ _ _
  | TPMI_ALG_HASH => exact sound_algorithm _ _ _
  | TPMI_ALG_MAC_SCHEME => exact sound_algorithm _ _ _
  | TPMI_DH_PCR => exact sound_handleIn _
  | TPMI_ECC_CURVE =>
    exact (sound_checked (sound_uint 2) _ _).bind fun _ => (sound_refuseIf _).bind fun _ => .pure _
  | TPMI_ECC_KEY_EXCHANGE => exact sound_algorithm _ _ _
  | TPMI_RH_ENABLES => exact sound_handleIn _
  | TPMI_RH_HIERARCHY => exact sound_handleIn _
  | TPMT_KDF_SCHEME =>
    exact sound_schemeUnmarshal (sound_algorithm _ _ _) sound_tpmuKdfSchemeUnmarshal
  | TPMT_RSA_DECRYPT =>
    exact sound_schemeUnmarshal (sound_algorithm _ _ _) sound_tpmuAsymSchemeUnmarshal
  | TPMT_SIGNATURE => exact sound_tpmtSignatureUnmarshal allowNull
  | TPMT_SIG_SCHEME =>
    exact sound_schemeUnmarshal (sound_algorithm _ _ _) sound_tpmuSigSchemeUnmarshal
  | TPMT_SYM_DEF => exact sound_symDefUnmarshal (sound_algorithm _ _ _)
  | TPMT_SYM_DEF_OBJECT => exact sound_symDefUnmarshal (sound_algorithm _ _ _)

/-- **Command parsing never leaves its buffers.** Every parameter, wherever in the command it
stands and whatever the bytes are: nothing outside of the input is read and nothing outside of the
target is written, the remaining size stays non-negative and is the size before less the bytes
taken up, and a buffer or structure that was read took up the size it declares. -/
theorem unmarshal_within_buffers (sizes : Sizes) (allowNull : Bool) (p : Parameter)
    (input : Bytes) (pos : ℕ) (size : ℤ) (hsize : 0 ≤ size)
    (hinput : pos + size ≤ input.length) :
    ∃ (result : Except TpmRc p.Value) (n : ℕ),
      unmarshalArray sizes allowNull p input ⟨pos, size⟩ = .done result ⟨pos + n, size - n⟩ ∧
        0 ≤ size - n ∧ ∀ v, result = .ok v → p.Exact v n := by
  obtain ⟨result, n, hrun, hn, hv⟩ :=
    reads_unmarshalArray sizes allowNull p input ⟨pos, size⟩ ⟨hsize, hinput⟩
  exact ⟨result, n, hrun, by dsimp only at hn; omega, hv⟩

theorem unmarshal_digest_within_buffers :
    ∃ (result : Except TpmRc Bytes) (n : ℕ),
      tpm2bDigestUnmarshal [0, 2, 5, 6, 9] ⟨0, 5⟩ = .done result ⟨0 + n, 5 - n⟩ ∧
        0 ≤ (5 : ℤ) - n ∧ ∀ v, result = .ok v → n = 2 + v.length :=
  unmarshal_within_buffers ⟨0, 0, 0, 0, 0⟩ false .TPM2B_DIGEST [0, 2, 5, 6, 9] 0 5 (by decide)
    (by decide)

end RfTpm.Marshal
