import RfTpm.Lib.Cursor
import RfTpm.Auth.Entity

/-!
# Unmarshaling of command parameters

The functions of `Unmarshal.c` that read the parameters of a command.  They are readers over the
command buffer (`RfTpm.Cursor`): each takes the pointer into the buffer and the remaining size and
moves both, and an access outside of the buffer, or outside of the target, is a fault.

A type that is one integer with a set of admitted values is `checked`; the admitted values are those
of this build (SHA-1 and SHA-2, AES and Camellia, all modes, RSA, the NIST, BN and SM2 curves).  In
most of these types `TPM_ALG_NULL` is admitted if the caller allows it (`orNull`).
-/

namespace RfTpm.Marshal

open Cursor Reader Auth

abbrev Unmarshal (α : Type) : Type := Reader TpmRc α

def TPM_RC_KDF : TpmRc := 0x8C
def TPM_RC_TAG : TpmRc := 0x97
def TPM_RC_SELECTOR : TpmRc := 0x98
def TPM_RC_CURVE : TpmRc := 0xA6

def TPM_ALG_RSA : ℕ := 0x1
def TPM_ALG_SHA1 : ℕ := 0x4
def TPM_ALG_HMAC : ℕ := 0x5
def TPM_ALG_AES : ℕ := 0x6
def TPM_ALG_MGF1 : ℕ := 0x7
def TPM_ALG_KEYEDHASH : ℕ := 0x8
def TPM_ALG_XOR : ℕ := 0xA
def TPM_ALG_SHA256 : ℕ := 0xB
def TPM_ALG_SHA384 : ℕ := 0xC
def TPM_ALG_SHA512 : ℕ := 0xD
def TPM_ALG_RSASSA : ℕ := 0x14
def TPM_ALG_RSAES : ℕ := 0x15
def TPM_ALG_RSAPSS : ℕ := 0x16
def TPM_ALG_OAEP : ℕ := 0x17
def TPM_ALG_ECDSA : ℕ := 0x18
def TPM_ALG_ECDH : ℕ := 0x19
def TPM_ALG_ECDAA : ℕ := 0x1A
def TPM_ALG_SM2 : ℕ := 0x1B
def TPM_ALG_ECSCHNORR : ℕ := 0x1C
def TPM_ALG_ECMQV : ℕ := 0x1D
def TPM_ALG_KDF1_SP800_56A : ℕ := 0x20
def TPM_ALG_KDF2 : ℕ := 0x21
def TPM_ALG_KDF1_SP800_108 : ℕ := 0x22
def TPM_ALG_ECC : ℕ := 0x23
def TPM_ALG_SYMCIPHER : ℕ := 0x25
def TPM_ALG_CAMELLIA : ℕ := 0x26
def TPM_ALG_CMAC : ℕ := 0x3F
def TPM_ALG_CTR : ℕ := 0x40
def TPM_ALG_OFB : ℕ := 0x41
def TPM_ALG_CBC : ℕ := 0x42
def TPM_ALG_CFB : ℕ := 0x43
def TPM_ALG_ECB : ℕ := 0x44

def MAX_DIGEST_BUFFER : ℕ := 1024
def MAX_SYM_DATA : ℕ := 128
def MAX_SYM_KEY_BYTES : ℕ := 32
def MAX_SYM_BLOCK_SIZE : ℕ := 16
def MAX_ECC_KEY_BYTES : ℕ := 80
def MAX_CAP_CC : ℕ := 254
def MAX_ALG_LIST_SIZE : ℕ := 64
def PCR_SELECT_MIN : ℕ := 3

/-- The sizes of structures that are the capacity of a buffer. -/
structure Sizes where
  tpmtPublic : ℕ
  tpmuEncryptedSecret : ℕ
  privateArea : ℕ
  tpmsIdObject : ℕ
  tpmsContextData : ℕ

/-! ## Integers and buffers -/

def uint8Unmarshal : Unmarshal ℕ := uint 1 TPM_RC_INSUFFICIENT
def uint16Unmarshal : Unmarshal ℕ := uint 2 TPM_RC_INSUFFICIENT
def uint32Unmarshal : Unmarshal ℕ := uint 4 TPM_RC_INSUFFICIENT
def uint64Unmarshal : Unmarshal ℕ := uint 8 TPM_RC_INSUFFICIENT

/-- `Array_Unmarshal()` into a buffer of the given capacity. -/
def arrayUnmarshal (capacity targetSize : ℕ) : Unmarshal Bytes :=
  array capacity targetSize TPM_RC_INSUFFICIENT

/-- `TPM2B_Unmarshal()` into a buffer of the given capacity. -/
def tpm2bUnmarshal (capacity targetSize : ℕ) : Unmarshal Bytes := do
  let size ← uint16Unmarshal
  refuseIf (size > targetSize) TPM_RC_SIZE
  arrayUnmarshal capacity size

/-- A `TPM2B` whose bound is its capacity, passed as a `UINT16`. -/
def tpm2b (capacity : ℕ) : Unmarshal Bytes := tpm2bUnmarshal capacity (capacity % 2 ^ 16)

/-- An integer that has to be one of a set of values. -/
def checked (r : Unmarshal ℕ) (admitted : List ℕ) (rc : TpmRc) : Unmarshal ℕ := do
  let target ← r
  refuseIf (target ∉ admitted) rc
  return target

/-- The values of a type that has the null algorithm as an option. -/
def orNull (allowNull : Bool) (admitted : List ℕ) : List ℕ :=
  if allowNull then TPM_ALG_NULL :: admitted else admitted

/-- An attribute word whose reserved bits have to be clear. -/
def attributes (r : Unmarshal ℕ) (reserved : ℕ) : Unmarshal ℕ := do
  let target ← r
  refuseIf (target &&& reserved ≠ 0) TPM_RC_RESERVED_BITS
  return target

/-- A handle in one of some ranges. -/
def handleIn (ranges : List (ℕ × ℕ)) : Unmarshal ℕ := do
  let target ← uint32Unmarshal
  refuseIf (¬∃ range ∈ ranges, range.1 ≤ target ∧ target ≤ range.2) TPM_RC_VALUE
  return target

/-- A structure behind its size. -/
structure Sized (α : Type) where
  size : ℕ
  value : α

/-- A structure behind its size, which must not be zero and is compared afterwards. -/
def sizedUnmarshal {α : Type} (r : Unmarshal α) : Unmarshal (Sized α) := do
  let size ← uint16Unmarshal
  refuseIf (size = 0) TPM_RC_SIZE
  let value ← sized size r TPM_RC_SIZE
  return ⟨size, value⟩

/-- A list behind its count. -/
def listUnmarshal {α : Type} (capacity low high : ℕ) (r : Unmarshal α) : Unmarshal (List α) := do
  let count ← uint32Unmarshal
  refuseIf (count < low) TPM_RC_SIZE
  refuseIf (count > high) TPM_RC_SIZE
  elements capacity r 0 count

/-! ## Constants and handles -/

def tpmSuUnmarshal : Unmarshal ℕ := checked uint16Unmarshal [0, 1] TPM_RC_VALUE
def tpmSeUnmarshal : Unmarshal ℕ := checked uint8Unmarshal [0, 1, 3] TPM_RC_VALUE
def tpmEoUnmarshal : Unmarshal ℕ := checked uint16Unmarshal (List.range 12) TPM_RC_VALUE
def tpmiYesNoUnmarshal : Unmarshal ℕ := checked uint8Unmarshal [0, 1] TPM_RC_VALUE
def tpmAtUnmarshal : Unmarshal ℕ := uint32Unmarshal
def tpmCcUnmarshal : Unmarshal ℕ := uint32Unmarshal
def tpmAlgIdUnmarshal : Unmarshal ℕ := uint16Unmarshal
def tpmKeyBitsUnmarshal : Unmarshal ℕ := uint16Unmarshal

/-- `TPM_CLOCK_ADJUST_Unmarshal()`: from -3 to 3 in one byte. -/
def tpmClockAdjustUnmarshal : Unmarshal ℕ :=
  checked uint8Unmarshal [253, 254, 255, 0, 1, 2, 3] TPM_RC_VALUE

def tpmCapUnmarshal : Unmarshal ℕ :=
  checked uint32Unmarshal (0x100 :: List.range 11) TPM_RC_VALUE

def tpmStUnmarshal : Unmarshal ℕ :=
  checked uint16Unmarshal [0xC4, 0x8000, 0x8001, 0x8002, 0x8014, 0x8015, 0x8016, 0x8017, 0x8018,
    0x8019, 0x801A, 0x8021, 0x8022, 0x8023, 0x8024, 0x8025] TPM_RC_VALUE

def hmacSessions : ℕ × ℕ := (0x02000000, 0x0200003F)
def policySessions : ℕ × ℕ := (0x03000000, 0x0300003F)
def transients : ℕ × ℕ := (0x80000000, 0x80000002)
def persistents : ℕ × ℕ := (0x81000000, 0x81FFFFFF)
def nvIndices : ℕ × ℕ := (0x01000000, 0x01FFFFFF)
def externalNvs : ℕ × ℕ := (0x11000000, 0x11FFFFFF)
def permanentNvs : ℕ × ℕ := (0x12000000, 0x12FFFFFF)
def pcrs : ℕ × ℕ := (0, 23)

/-- `TPM_RH_NULL`, as an option. -/
def nullHandle (allowNull : Bool) : List (ℕ × ℕ) :=
  if allowNull then [(0x40000007, 0x40000007)] else []

def tpmiDhPersistentUnmarshal : Unmarshal ℕ := handleIn [persistents]
def tpmiDhContextUnmarshal : Unmarshal ℕ := handleIn [hmacSessions, policySessions, transients]
def tpmiDhPcrUnmarshal (allowNull : Bool) : Unmarshal ℕ := handleIn (pcrs :: nullHandle allowNull)
def tpmiRhNvIndexUnmarshal : Unmarshal ℕ := handleIn [nvIndices, externalNvs, permanentNvs]
def tpmiRhNvExpIndexUnmarshal : Unmarshal ℕ := handleIn [externalNvs]

/-- `TPMI_DH_SAVED_Unmarshal()`: sessions, and three handles that stand for objects. -/
def tpmiDhSavedUnmarshal : Unmarshal ℕ := handleIn [hmacSessions, policySessions, transients]

def tpmiRhHierarchyUnmarshal (allowNull : Bool) : Unmarshal ℕ :=
  handleIn ([(0x40000001, 0x40000001), (0x4000000C, 0x4000000C), (0x4000000B, 0x4000000B)] ++
    nullHandle allowNull)

def tpmiRhEnablesUnmarshal (allowNull : Bool) : Unmarshal ℕ :=
  handleIn ([(0x40000001, 0x40000001), (0x4000000C, 0x4000000C), (0x4000000B, 0x4000000B),
    (0x4000000D, 0x4000000D)] ++ nullHandle allowNull)

/-! ## Algorithms -/

def hashAlgs : List ℕ := [TPM_ALG_SHA1, TPM_ALG_SHA256, TPM_ALG_SHA384, TPM_ALG_SHA512]
def cipherModes : List ℕ := [TPM_ALG_CTR, TPM_ALG_OFB, TPM_ALG_CBC, TPM_ALG_CFB, TPM_ALG_ECB]

/-- An algorithm of a set, or the null algorithm. -/
def algorithm (admitted : List ℕ) (rc : TpmRc) (allowNull : Bool) : Unmarshal ℕ :=
  checked tpmAlgIdUnmarshal (orNull allowNull admitted) rc

def tpmiAlgHashUnmarshal : Bool → Unmarshal ℕ := algorithm hashAlgs TPM_RC_HASH

def tpmiAlgSymUnmarshal : Bool → Unmarshal ℕ :=
  algorithm [TPM_ALG_AES, TPM_ALG_CAMELLIA, TPM_ALG_XOR] TPM_RC_SYMMETRIC

def tpmiAlgSymObjectUnmarshal : Bool → Unmarshal ℕ :=
  algorithm [TPM_ALG_AES, TPM_ALG_CAMELLIA] TPM_RC_SYMMETRIC

def tpmiAlgSymModeUnmarshal : Bool → Unmarshal ℕ :=
  algorithm (TPM_ALG_CMAC :: cipherModes) TPM_RC_MODE

def tpmiAlgCipherModeUnmarshal : Bool → Unmarshal ℕ := algorithm cipherModes TPM_RC_MODE

def tpmiAlgMacSchemeUnmarshal : Bool → Unmarshal ℕ :=
  algorithm (TPM_ALG_CMAC :: hashAlgs) TPM_RC_SYMMETRIC

def tpmiAlgKdfUnmarshal : Bool → Unmarshal ℕ :=
  algorithm [TPM_ALG_MGF1, TPM_ALG_KDF1_SP800_56A, TPM_ALG_KDF2, TPM_ALG_KDF1_SP800_108]
    TPM_RC_KDF

def tpmiAlgSigSchemeUnmarshal : Bool → Unmarshal ℕ :=
  algorithm [TPM_ALG_HMAC, TPM_ALG_RSASSA, TPM_ALG_RSAPSS, TPM_ALG_ECDSA, TPM_ALG_ECDAA,
    TPM_ALG_SM2, TPM_ALG_ECSCHNORR] TPM_RC_SCHEME

def tpmiEccKeyExchangeUnmarshal : Bool → Unmarshal ℕ :=
  algorithm [TPM_ALG_ECDH, TPM_ALG_ECMQV, TPM_ALG_SM2] TPM_RC_SCHEME

def tpmiAlgKeyedhashSchemeUnmarshal : Bool → Unmarshal ℕ :=
  algorithm [TPM_ALG_HMAC, TPM_ALG_XOR] TPM_RC_VALUE

def tpmiAlgRsaSchemeUnmarshal : Bool → Unmarshal ℕ :=
  algorithm [TPM_ALG_RSASSA, TPM_ALG_RSAPSS, TPM_ALG_RSAES, TPM_ALG_OAEP] TPM_RC_VALUE

def tpmiAlgRsaDecryptUnmarshal : Bool → Unmarshal ℕ :=
  algorithm [TPM_ALG_RSAES, TPM_ALG_OAEP] TPM_RC_VALUE

def tpmiAlgEccSchemeUnmarshal : Bool → Unmarshal ℕ :=
  algorithm [TPM_ALG_ECDSA, TPM_ALG_SM2, TPM_ALG_ECDAA, TPM_ALG_ECSCHNORR, TPM_ALG_ECDH,
    TPM_ALG_ECMQV] TPM_RC_SCHEME

def tpmiAlgPublicUnmarshal : Unmarshal ℕ :=
  checked tpmAlgIdUnmarshal [TPM_ALG_KEYEDHASH, TPM_ALG_RSA, TPM_ALG_ECC, TPM_ALG_SYMCIPHER]
    TPM_RC_TYPE

/-- `TPM_ECC_CURVE_Unmarshal()`: `TPM_ECC_NONE` and the curves of this build. -/
def tpmEccCurveUnmarshal : Unmarshal ℕ :=
  checked uint16Unmarshal [0, 1, 2, 3, 4, 5, 0x10, 0x11, 0x20] TPM_RC_CURVE

def tpmiEccCurveUnmarshal (allowNull : Bool) : Unmarshal ℕ := do
  let target ← tpmEccCurveUnmarshal
  refuseIf (target = 0 ∧ !allowNull) TPM_RC_CURVE
  return target

def tpmiRsaKeyBitsUnmarshal : Unmarshal ℕ :=
  checked tpmKeyBitsUnmarshal [1024, 2048, 3072] TPM_RC_VALUE

def tpmaObjectUnmarshal : Unmarshal ℕ := attributes uint32Unmarshal 0xFFF0F009
def tpmaNvUnmarshal : Unmarshal ℕ := attributes uint32Unmarshal 0x01F00300
def tpmaNvExpUnmarshal : Unmarshal ℕ := attributes uint64Unmarshal 0xFFFFFFF800000000

/-! ## Buffers -/

variable (sizes : Sizes)

def tpm2bDigestUnmarshal : Unmarshal Bytes := tpm2b MAX_DIGEST_SIZE

/-- The bound is `sizeof(TPMT_HA)`, an algorithm and a digest. -/
def tpm2bDataUnmarshal : Unmarshal Bytes := tpm2b (2 + MAX_DIGEST_SIZE)
def tpm2bAuthUnmarshal : Unmarshal Bytes := tpm2bDigestUnmarshal
def tpm2bEventUnmarshal : Unmarshal Bytes := tpm2b 1024
def tpm2bMaxBufferUnmarshal : Unmarshal Bytes := tpm2b MAX_DIGEST_BUFFER
def tpm2bMaxNvBufferUnmarshal : Unmarshal Bytes := tpm2b MAX_NV_BUFFER_SIZE
def tpm2bTimeoutUnmarshal : Unmarshal Bytes := tpm2b 8
def tpm2bIvUnmarshal : Unmarshal Bytes := tpm2b MAX_SYM_BLOCK_SIZE

/-- The bound is `sizeof(TPMU_NAME)`. -/
def tpm2bNameUnmarshal : Unmarshal Bytes := tpm2b 68
def tpm2bSymKeyUnmarshal : Unmarshal Bytes := tpm2b MAX_SYM_KEY_BYTES

/-- The capacity is `sizeof(TPMU_SENSITIVE_CREATE)`, which is at least the bound. -/
def tpm2bSensitiveDataUnmarshal : Unmarshal Bytes := tpm2b MAX_SYM_DATA
def tpm2bPublicKeyRsaUnmarshal : Unmarshal Bytes := tpm2b MAX_RSA_KEY_BYTES
def tpm2bPrivateKeyRsaUnmarshal : Unmarshal Bytes := tpm2b RSA_PRIVATE_SIZE
def tpm2bEccParameterUnmarshal : Unmarshal Bytes := tpm2b MAX_ECC_KEY_BYTES
def tpm2bEncryptedSecretUnmarshal : Unmarshal Bytes := tpm2b sizes.tpmuEncryptedSecret
def tpm2bTemplateUnmarshal : Unmarshal Bytes := tpm2b sizes.tpmtPublic
def tpm2bPrivateUnmarshal : Unmarshal Bytes := tpm2b sizes.privateArea
def tpm2bIdObjectUnmarshal : Unmarshal Bytes := tpm2b sizes.tpmsIdObject
def tpm2bContextDataUnmarshal : Unmarshal Bytes := tpm2b sizes.tpmsContextData

/-! ## Digests, selections and tickets -/

/-- `TPMU_HA_Unmarshal()` -/
def tpmuHaUnmarshal (selector : ℕ) : Unmarshal Bytes :=
  if selector = TPM_ALG_SHA1 then arrayUnmarshal 20 20
  else if selector = TPM_ALG_SHA256 then arrayUnmarshal 32 32
  else if selector = TPM_ALG_SHA384 then arrayUnmarshal 48 48
  else if selector = TPM_ALG_SHA512 then arrayUnmarshal 64 64
  else if selector = TPM_ALG_NULL then return []
  else refuse TPM_RC_SELECTOR

/-- `TPMT_HA` -/
structure Ha where
  hashAlg : ℕ
  digest : Bytes

def tpmtHaUnmarshal (allowNull : Bool) : Unmarshal Ha := do
  let hashAlg ← tpmiAlgHashUnmarshal allowNull
  let digest ← tpmuHaUnmarshal hashAlg
  return ⟨hashAlg, digest⟩

/-- `TPMS_PCR_SELECTION`; `sizeofSelect` is the length of the bit map. -/
structure PcrSelection where
  hash : ℕ
  pcrSelect : Bytes

def tpmsPcrSelectionUnmarshal : Unmarshal PcrSelection := do
  let hash ← tpmiAlgHashUnmarshal false
  let sizeofSelect ← uint8Unmarshal
  refuseIf (sizeofSelect < PCR_SELECT_MIN ∨ sizeofSelect > PCR_SELECT_MAX) TPM_RC_VALUE
  let pcrSelect ← arrayUnmarshal PCR_SELECT_MAX sizeofSelect
  return ⟨hash, pcrSelect⟩

def tpmlCcUnmarshal : Unmarshal (List ℕ) := listUnmarshal MAX_CAP_CC 0 MAX_CAP_CC tpmCcUnmarshal

def tpmlAlgUnmarshal : Unmarshal (List ℕ) :=
  listUnmarshal MAX_ALG_LIST_SIZE 0 MAX_ALG_LIST_SIZE tpmAlgIdUnmarshal

/-- `TPML_DIGEST_Unmarshal()`: from two to eight digests. -/
def tpmlDigestUnmarshal : Unmarshal (List Bytes) := listUnmarshal 8 2 8 tpm2bDigestUnmarshal

def tpmlDigestValuesUnmarshal : Unmarshal (List Ha) :=
  listUnmarshal HASH_COUNT 0 HASH_COUNT (tpmtHaUnmarshal false)

def tpmlPcrSelectionUnmarshal : Unmarshal (List PcrSelection) :=
  listUnmarshal HASH_COUNT 0 HASH_COUNT tpmsPcrSelectionUnmarshal

/-- The four `TPMT_TK` structures. -/
structure Tk where
  tag : ℕ
  hierarchy : ℕ
  digest : Bytes

/-- A ticket with one of some tags. -/
def ticketUnmarshal (tags : List ℕ) : Unmarshal Tk := do
  let tag ← tpmStUnmarshal
  refuseIf (tag ∉ tags) TPM_RC_TAG
  let hierarchy ← tpmiRhHierarchyUnmarshal true
  let digest ← tpm2bDigestUnmarshal
  return ⟨tag, hierarchy, digest⟩

def tpmtTkCreationUnmarshal : Unmarshal Tk := ticketUnmarshal [0x8021]
def tpmtTkVerifiedUnmarshal : Unmarshal Tk := ticketUnmarshal [0x8022]
def tpmtTkAuthUnmarshal : Unmarshal Tk := ticketUnmarshal [0x8025, 0x8023]
def tpmtTkHashcheckUnmarshal : Unmarshal Tk := ticketUnmarshal [0x8024]

/-! ## Symmetric definitions and schemes -/

/-- `TPMT_SYM_DEF` and `TPMT_SYM_DEF_OBJECT`. -/
structure SymDef where
  algorithm : ℕ
  keyBits : ℕ
  mode : ℕ

/-- `TPMU_SYM_KEY_BITS_Unmarshal()`; for XOR the hash stands in the place of the key bits. -/
def tpmuSymKeyBitsUnmarshal (selector : ℕ) : Unmarshal ℕ :=
  if selector = TPM_ALG_AES then checked tpmKeyBitsUnmarshal [128, 256] TPM_RC_VALUE
  else if selector = TPM_ALG_CAMELLIA then checked tpmKeyBitsUnmarshal [128] TPM_RC_VALUE
  else if selector = TPM_ALG_XOR then tpmiAlgHashUnmarshal false
  else if selector = TPM_ALG_NULL then return 0
  else refuse TPM_RC_SELECTOR

def tpmuSymModeUnmarshal (selector : ℕ) : Unmarshal ℕ :=
  if selector = TPM_ALG_AES then tpmiAlgSymModeUnmarshal true
  else if selector = TPM_ALG_CAMELLIA then tpmiAlgSymModeUnmarshal true
  else if selector = TPM_ALG_XOR then return 0
  else if selector = TPM_ALG_NULL then return 0
  else refuse TPM_RC_SELECTOR

/-- A symmetric definition whose algorithm is read by `r`. -/
def symDefUnmarshal (r : Unmarshal ℕ) : Unmarshal SymDef := do
  let algorithm ← r
  let keyBits ← tpmuSymKeyBitsUnmarshal algorithm
  let mode ← tpmuSymModeUnmarshal algorithm
  return ⟨algorithm, keyBits, mode⟩

def tpmtSymDefUnmarshal (allowNull : Bool) : Unmarshal SymDef :=
  symDefUnmarshal (tpmiAlgSymUnmarshal allowNull)

def tpmtSymDefObjectUnmarshal (allowNull : Bool) : Unmarshal SymDef :=
  symDefUnmarshal (tpmiAlgSymObjectUnmarshal allowNull)

/-- The details of a scheme. -/
inductive SchemeDetails
  | empty
  | hash (hashAlg : ℕ)
  | ecdaa (hashAlg count : ℕ)
  | xor (hashAlg kdf : ℕ)

/-- A scheme of any kind. -/
structure Scheme where
  scheme : ℕ
  details : SchemeDetails

def tpmsSchemeHashUnmarshal : Unmarshal SchemeDetails := do
  let hashAlg ← tpmiAlgHashUnmarshal false
  return .hash hashAlg

def tpmsSchemeEcdaaUnmarshal : Unmarshal SchemeDetails := do
  let hashAlg ← tpmiAlgHashUnmarshal false
  let count ← uint16Unmarshal
  return .ecdaa hashAlg count

def tpmsSchemeXorUnmarshal : Unmarshal SchemeDetails := do
  let hashAlg ← tpmiAlgHashUnmarshal false
  let kdf ← tpmiAlgKdfUnmarshal true
  return .xor hashAlg kdf

def tpmuSchemeKeyedhashUnmarshal (selector : ℕ) : Unmarshal SchemeDetails :=
  if selector = TPM_ALG_HMAC then tpmsSchemeHashUnmarshal
  else if selector = TPM_ALG_XOR then tpmsSchemeXorUnmarshal
  else if selector = TPM_ALG_NULL then return .empty
  else refuse TPM_RC_SELECTOR

/-- `TPMU_SIG_SCHEME_Unmarshal()`: all details but those of ECDAA are a hash. -/
def tpmuSigSchemeUnmarshal (selector : ℕ) : Unmarshal SchemeDetails :=
  if selector = TPM_ALG_ECDAA then tpmsSchemeEcdaaUnmarshal
  else if selector ∈ [TPM_ALG_RSASSA, TPM_ALG_RSAPSS, TPM_ALG_ECDSA, TPM_ALG_SM2,
    TPM_ALG_ECSCHNORR, TPM_ALG_HMAC] then tpmsSchemeHashUnmarshal
  else if selector = TPM_ALG_NULL then return .empty
  else refuse TPM_RC_SELECTOR

def tpmuKdfSchemeUnmarshal (selector : ℕ) : Unmarshal SchemeDetails :=
  if selector ∈ [TPM_ALG_MGF1, TPM_ALG_KDF1_SP800_56A, TPM_ALG_KDF2, TPM_ALG_KDF1_SP800_108] then
    tpmsSchemeHashUnmarshal
  else if selector = TPM_ALG_NULL then return .empty
  else refuse TPM_RC_SELECTOR

/-- `TPMU_ASYM_SCHEME_Unmarshal()`: RSAES has no details. -/
def tpmuAsymSchemeUnmarshal (selector : ℕ) : Unmarshal SchemeDetails :=
  if selector = TPM_ALG_ECDAA then tpmsSchemeEcdaaUnmarshal
  else if selector ∈ [TPM_ALG_ECDH, TPM_ALG_ECMQV, TPM_ALG_RSASSA, TPM_ALG_RSAPSS, TPM_ALG_ECDSA,
    TPM_ALG_SM2, TPM_ALG_ECSCHNORR, TPM_ALG_OAEP] then tpmsSchemeHashUnmarshal
  else if selector = TPM_ALG_RSAES then return .empty
  else if selector = TPM_ALG_NULL then return .empty
  else refuse TPM_RC_SELECTOR

/-- A selector and the union it selects from. -/
def schemeUnmarshal (r : Unmarshal ℕ) (details : ℕ → Unmarshal SchemeDetails) :
    Unmarshal Scheme := do
  let scheme ← r
  let details ← details scheme
  return ⟨scheme, details⟩

def tpmtKeyedhashSchemeUnmarshal (allowNull : Bool) : Unmarshal Scheme :=
  schemeUnmarshal (tpmiAlgKeyedhashSchemeUnmarshal allowNull) tpmuSchemeKeyedhashUnmarshal

def tpmtSigSchemeUnmarshal (allowNull : Bool) : Unmarshal Scheme :=
  schemeUnmarshal (tpmiAlgSigSchemeUnmarshal allowNull) tpmuSigSchemeUnmarshal

def tpmtKdfSchemeUnmarshal (allowNull : Bool) : Unmarshal Scheme :=
  schemeUnmarshal (tpmiAlgKdfUnmarshal allowNull) tpmuKdfSchemeUnmarshal

def tpmtRsaSchemeUnmarshal (allowNull : Bool) : Unmarshal Scheme :=
  schemeUnmarshal (tpmiAlgRsaSchemeUnmarshal allowNull) tpmuAsymSchemeUnmarshal

def tpmtRsaDecryptUnmarshal (allowNull : Bool) : Unmarshal Scheme :=
  schemeUnmarshal (tpmiAlgRsaDecryptUnmarshal allowNull) tpmuAsymSchemeUnmarshal

def tpmtEccSchemeUnmarshal (allowNull : Bool) : Unmarshal Scheme :=
  schemeUnmarshal (tpmiAlgEccSchemeUnmarshal allowNull) tpmuAsymSchemeUnmarshal

/-! ## Points and signatures -/

/-- `TPMS_ECC_POINT` -/
structure EccPoint where
  x : Bytes
  y : Bytes

def tpmsEccPointUnmarshal : Unmarshal EccPoint := do
  let x ← tpm2bEccParameterUnmarshal
  let y ← tpm2bEccParameterUnmarshal
  return ⟨x, y⟩

def tpm2bEccPointUnmarshal : Unmarshal (Sized EccPoint) := sizedUnmarshal tpmsEccPointUnmarshal

/-- `TPMU_SIGNATURE` -/
inductive SignatureData
  | empty
  | rsa (hash : ℕ) (sig : Bytes)
  | ecc (hash : ℕ) (signatureR signatureS : Bytes)
  | hmac (ha : Ha)

def tpmsSignatureRsaUnmarshal : Unmarshal SignatureData := do
  let hash ← tpmiAlgHashUnmarshal false
  let sig ← tpm2bPublicKeyRsaUnmarshal
  return .rsa hash sig

def tpmsSignatureEccUnmarshal : Unmarshal SignatureData := do
  let hash ← tpmiAlgHashUnmarshal false
  let signatureR ← tpm2bEccParameterUnmarshal
  let signatureS ← tpm2bEccParameterUnmarshal
  return .ecc hash signatureR signatureS

def tpmuSignatureUnmarshal (selector : ℕ) : Unmarshal SignatureData :=
  if selector ∈ [TPM_ALG_RSASSA, TPM_ALG_RSAPSS] then tpmsSignatureRsaUnmarshal
  else if selector ∈ [TPM_ALG_ECDSA, TPM_ALG_ECDAA, TPM_ALG_SM2, TPM_ALG_ECSCHNORR] then
    tpmsSignatureEccUnmarshal
  else if selector = TPM_ALG_HMAC then do
    let ha ← tpmtHaUnmarshal false
    return .hmac ha
  else if selector = TPM_ALG_NULL then return .empty
  else refuse TPM_RC_SELECTOR

/-- `TPMT_SIGNATURE` -/
structure Signature where
  sigAlg : ℕ
  signature : SignatureData

def tpmtSignatureUnmarshal (allowNull : Bool) : Unmarshal Signature := do
  let sigAlg ← tpmiAlgSigSchemeUnmarshal allowNull
  let signature ← tpmuSignatureUnmarshal sigAlg
  return ⟨sigAlg, signature⟩

/-! ## Public areas -/

/-- `TPMU_PUBLIC_PARMS` -/
inductive PublicParms
  | keyedHash (scheme : Scheme)
  | symCipher (sym : SymDef)
  | rsa (symmetric : SymDef) (scheme : Scheme) (keyBits exponent : ℕ)
  | ecc (symmetric : SymDef) (scheme : Scheme) (curveID : ℕ) (kdf : Scheme)

def tpmsKeyedhashParmsUnmarshal : Unmarshal PublicParms := do
  let scheme ← tpmtKeyedhashSchemeUnmarshal true
  return .keyedHash scheme

def tpmsSymcipherParmsUnmarshal : Unmarshal PublicParms := do
  let sym ← tpmtSymDefObjectUnmarshal false
  return .symCipher sym

def tpmsRsaParmsUnmarshal : Unmarshal PublicParms := do
  let symmetric ← tpmtSymDefObjectUnmarshal true
  let scheme ← tpmtRsaSchemeUnmarshal true
  let keyBits ← tpmiRsaKeyBitsUnmarshal
  let exponent ← uint32Unmarshal
  return .rsa symmetric scheme keyBits exponent

def tpmsEccParmsUnmarshal : Unmarshal PublicParms := do
  let symmetric ← tpmtSymDefObjectUnmarshal true
  let scheme ← tpmtEccSchemeUnmarshal true
  let curveID ← tpmiEccCurveUnmarshal false
  let kdf ← tpmtKdfSchemeUnmarshal true
  return .ecc symmetric scheme curveID kdf

def tpmuPublicParmsUnmarshal (selector : ℕ) : Unmarshal PublicParms :=
  if selector = TPM_ALG_KEYEDHASH then tpmsKeyedhashParmsUnmarshal
  else if selector = TPM_ALG_SYMCIPHER then tpmsSymcipherParmsUnmarshal
  else if selector = TPM_ALG_RSA then tpmsRsaParmsUnmarshal
  else if selector = TPM_ALG_ECC then tpmsEccParmsUnmarshal
  else refuse TPM_RC_SELECTOR

/-- `TPMT_PUBLIC_PARMS` -/
structure TypedParms where
  type : ℕ
  parameters : PublicParms

def tpmtPublicParmsUnmarshal : Unmarshal TypedParms := do
  let type ← tpmiAlgPublicUnmarshal
  let parameters ← tpmuPublicParmsUnmarshal type
  return ⟨type, parameters⟩

/-- `TPMU_PUBLIC_ID` -/
inductive PublicId
  | keyedHash (digest : Bytes)
  | sym (digest : Bytes)
  | rsa (modulus : Bytes)
  | ecc (point : EccPoint)

def tpmuPublicIdUnmarshal (selector : ℕ) : Unmarshal PublicId :=
  if selector = TPM_ALG_KEYEDHASH then PublicId.keyedHash <$> tpm2bDigestUnmarshal
  else if selector = TPM_ALG_SYMCIPHER then PublicId.sym <$> tpm2bDigestUnmarshal
  else if selector = TPM_ALG_RSA then PublicId.rsa <$> tpm2bPublicKeyRsaUnmarshal
  else if selector = TPM_ALG_ECC then PublicId.ecc <$> tpmsEccPointUnmarshal
  else refuse TPM_RC_SELECTOR

/-- `TPMT_PUBLIC` -/
structure Public where
  type : ℕ
  nameAlg : ℕ
  objectAttributes : ℕ
  authPolicy : Bytes
  parameters : PublicParms
  unique : PublicId

def tpmtPublicUnmarshal (allowNull : Bool) : Unmarshal Public := do
  let type ← tpmiAlgPublicUnmarshal
  let nameAlg ← tpmiAlgHashUnmarshal allowNull
  let objectAttributes ← tpmaObjectUnmarshal
  let authPolicy ← tpm2bDigestUnmarshal
  let parameters ← tpmuPublicParmsUnmarshal type
  let unique ← tpmuPublicIdUnmarshal type
  return ⟨type, nameAlg, objectAttributes, authPolicy, parameters, unique⟩

def tpm2bPublicUnmarshal (allowNull : Bool) : Unmarshal (Sized Public) :=
  sizedUnmarshal (tpmtPublicUnmarshal allowNull)

/-! ## Sensitive areas -/

/-- `TPMU_SENSITIVE_COMPOSITE_Unmarshal()`: every member is a buffer. -/
def tpmuSensitiveCompositeUnmarshal (selector : ℕ) : Unmarshal Bytes :=
  if selector = TPM_ALG_RSA then tpm2bPrivateKeyRsaUnmarshal
  else if selector = TPM_ALG_ECC then tpm2bEccParameterUnmarshal
  else if selector = TPM_ALG_KEYEDHASH then tpm2bSensitiveDataUnmarshal
  else if selector = TPM_ALG_SYMCIPHER then tpm2bSymKeyUnmarshal
  else refuse TPM_RC_SELECTOR

/-- `TPMT_SENSITIVE` -/
structure Sensitive where
  sensitiveType : ℕ
  authValue : Bytes
  seedValue : Bytes
  sensitive : Bytes
  deriving DecidableEq

def tpmtSensitiveUnmarshal : Unmarshal Sensitive := do
  let sensitiveType ← tpmiAlgPublicUnmarshal
  let authValue ← tpm2bAuthUnmarshal
  let seedValue ← tpm2bDigestUnmarshal
  let sensitive ← tpmuSensitiveCompositeUnmarshal sensitiveType
  return ⟨sensitiveType, authValue, seedValue, sensitive⟩

/-- `TPM2B_SENSITIVE_Unmarshal()`: an area of size zero is left out. -/
def tpm2bSensitiveUnmarshal : Unmarshal (Sized (Option Sensitive)) := do
  let size ← uint16Unmarshal
  if size ≠ 0 then
    let value ← sized size tpmtSensitiveUnmarshal TPM_RC_SIZE
    return ⟨size, some value⟩
  else return ⟨size, none⟩

/-- `TPMS_SENSITIVE_CREATE` -/
structure SensitiveCreate where
  userAuth : Bytes
  data : Bytes

def tpmsSensitiveCreateUnmarshal : Unmarshal SensitiveCreate := do
  let userAuth ← tpm2bAuthUnmarshal
  let data ← tpm2bSensitiveDataUnmarshal
  return ⟨userAuth, data⟩

def tpm2bSensitiveCreateUnmarshal : Unmarshal (Sized SensitiveCreate) :=
  sizedUnmarshal tpmsSensitiveCreateUnmarshal

/-! ## NV public areas -/

/-- `TPMS_NV_PUBLIC` and `TPMS_NV_PUBLIC_EXP_ATTR` -/
structure NvPublic where
  nvIndex : ℕ
  nameAlg : ℕ
  attributes : ℕ
  authPolicy : Bytes
  dataSize : ℕ

/-- An NV public area with its own index and attributes. -/
def nvPublicUnmarshal (index attributes : Unmarshal ℕ) : Unmarshal NvPublic := do
  let nvIndex ← index
  let nameAlg ← tpmiAlgHashUnmarshal false
  let attributes ← attributes
  let authPolicy ← tpm2bDigestUnmarshal
  let dataSize ← uint16Unmarshal
  refuseIf (dataSize > MAX_NV_INDEX_SIZE) TPM_RC_SIZE
  return ⟨nvIndex, nameAlg, attributes, authPolicy, dataSize⟩

def tpmsNvPublicUnmarshal : Unmarshal NvPublic :=
  nvPublicUnmarshal tpmiRhNvIndexUnmarshal tpmaNvUnmarshal

def tpmsNvPublicExpAttrUnmarshal : Unmarshal NvPublic :=
  nvPublicUnmarshal tpmiRhNvExpIndexUnmarshal tpmaNvExpUnmarshal

def tpm2bNvPublicUnmarshal : Unmarshal (Sized NvPublic) := sizedUnmarshal tpmsNvPublicUnmarshal

def tpmuNvPublic2Unmarshal (selector : ℕ) : Unmarshal NvPublic :=
  if selector = 0x01 then tpmsNvPublicUnmarshal
  else if selector = 0x11 then tpmsNvPublicExpAttrUnmarshal
  else if selector = 0x12 then tpmsNvPublicUnmarshal
  else refuse TPM_RC_SELECTOR

/-- `TPMT_NV_PUBLIC_2` -/
structure NvPublic2 where
  handleType : ℕ
  nvPublic2 : NvPublic

def tpmtNvPublic2Unmarshal : Unmarshal NvPublic2 := do
  let handleType ← uint8Unmarshal
  let nvPublic2 ← tpmuNvPublic2Unmarshal handleType
  return ⟨handleType, nvPublic2⟩

def tpm2bNvPublic2Unmarshal : Unmarshal (Sized NvPublic2) := sizedUnmarshal tpmtNvPublic2Unmarshal

/-! ## Contexts and capabilities -/

/-- `TPMS_CONTEXT` -/
structure Context where
  sequence : ℕ
  savedHandle : ℕ
  hierarchy : ℕ
  contextBlob : Bytes

def tpmsContextUnmarshal : Unmarshal Context := do
  let sequence ← uint64Unmarshal
  let savedHandle ← tpmiDhSavedUnmarshal
  let hierarchy ← tpmiRhHierarchyUnmarshal true
  let contextBlob ← tpm2bContextDataUnmarshal sizes
  return ⟨sequence, savedHandle, hierarchy, contextBlob⟩

/-- `TPMS_SET_CAPABILITY_DATA_Unmarshal()`: the union has no member. -/
def tpmsSetCapabilityDataUnmarshal : Unmarshal ℕ := do
  let _ ← tpmCapUnmarshal
  refuse TPM_RC_SELECTOR

def tpm2bSetCapabilityDataUnmarshal : Unmarshal (Sized ℕ) :=
  sizedUnmarshal tpmsSetCapabilityDataUnmarshal

/-! ## The parameters of commands -/

/-- The types of parameters, in the order of the table of the command dispatcher. -/
inductive Parameter
  | TPM2B_DATA | TPM2B_DIGEST | TPM2B_ECC_PARAMETER | TPM2B_ECC_POINT | TPM2B_ENCRYPTED_SECRET
  | TPM2B_EVENT | TPM2B_ID_OBJECT | TPM2B_IV | TPM2B_MAX_BUFFER | TPM2B_MAX_NV_BUFFER
  | TPM2B_NAME | TPM2B_NV_PUBLIC | TPM2B_NV_PUBLIC_2 | TPM2B_PRIVATE | TPM2B_PUBLIC_KEY_RSA
  | TPM2B_SENSITIVE | TPM2B_SENSITIVE_CREATE | TPM2B_SENSITIVE_DATA | TPM2B_SET_CAPABILITY_DATA
  | TPM2B_TEMPLATE | TPM2B_TIMEOUT | TPMI_DH_CONTEXT | TPMI_DH_PERSISTENT | TPMI_YES_NO
  | TPML_ALG | TPML_CC | TPML_DIGEST | TPML_DIGEST_VALUES | TPML_PCR_SELECTION | TPMS_CONTEXT
  | TPMT_PUBLIC_PARMS | TPMT_TK_AUTH | TPMT_TK_CREATION | TPMT_TK_HASHCHECK | TPMT_TK_VERIFIED
  | TPM_AT | TPM_CAP | TPM_CLOCK_ADJUST | TPM_EO | TPM_SE | TPM_SU | UINT16 | UINT32 | UINT64
  | UINT8 | TPM2B_PUBLIC | TPMI_ALG_CIPHER_MODE | TPMI_ALG_HASH | TPMI_ALG_MAC_SCHEME
  | TPMI_DH_PCR | TPMI_ECC_CURVE | TPMI_ECC_KEY_EXCHANGE | TPMI_RH_ENABLES | TPMI_RH_HIERARCHY
  | TPMT_KDF_SCHEME | TPMT_RSA_DECRYPT | TPMT_SIGNATURE | TPMT_SIG_SCHEME | TPMT_SYM_DEF
  | TPMT_SYM_DEF_OBJECT

/-- The values of the types of parameters. -/
def Parameter.Value : Parameter → Type
  | TPM2B_ECC_POINT => Sized EccPoint
  | TPM2B_NV_PUBLIC => Sized NvPublic
  | TPM2B_NV_PUBLIC_2 => Sized NvPublic2
  | TPM2B_SENSITIVE => Sized (Option Sensitive)
  | TPM2B_SENSITIVE_CREATE => Sized SensitiveCreate
  | TPM2B_SET_CAPABILITY_DATA => Sized ℕ
  | TPM2B_PUBLIC => Sized Public
  | TPM2B_DATA | TPM2B_DIGEST | TPM2B_ECC_PARAMETER | TPM2B_ENCRYPTED_SECRET | TPM2B_EVENT
  | TPM2B_ID_OBJECT | TPM2B_IV | TPM2B_MAX_BUFFER | TPM2B_MAX_NV_BUFFER | TPM2B_NAME
  | TPM2B_PRIVATE | TPM2B_PUBLIC_KEY_RSA | TPM2B_SENSITIVE_DATA | TPM2B_TEMPLATE
  | TPM2B_TIMEOUT => Bytes
  | TPML_ALG | TPML_CC => List ℕ
  | TPML_DIGEST => List Bytes
  | TPML_DIGEST_VALUES => List Ha
  | TPML_PCR_SELECTION => List PcrSelection
  | TPMS_CONTEXT => Context
  | TPMT_PUBLIC_PARMS => TypedParms
  | TPMT_TK_AUTH | TPMT_TK_CREATION | TPMT_TK_HASHCHECK | TPMT_TK_VERIFIED => Tk
  | TPMT_KDF_SCHEME | TPMT_RSA_DECRYPT | TPMT_SIG_SCHEME => Scheme
  | TPMT_SIGNATURE => Signature
  | TPMT_SYM_DEF | TPMT_SYM_DEF_OBJECT => SymDef
  | TPMI_DH_CONTEXT | TPMI_DH_PERSISTENT | TPMI_YES_NO | TPM_AT | TPM_CAP | TPM_CLOCK_ADJUST
  | TPM_EO | TPM_SE | TPM_SU | UINT16 | UINT32 | UINT64 | UINT8 | TPMI_ALG_CIPHER_MODE
  | TPMI_ALG_HASH | TPMI_ALG_MAC_SCHEME | TPMI_DH_PCR | TPMI_ECC_CURVE | TPMI_ECC_KEY_EXCHANGE
  | TPMI_RH_ENABLES | TPMI_RH_HIERARCHY => ℕ

/-- `UnmarshalArray`: the function of each type; only the last ones look at the flag. -/
def unmarshalArray (allowNull : Bool) : (p : Parameter) → Unmarshal p.Value
  | .TPM2B_DATA => tpm2bDataUnmarshal
  | .TPM2B_DIGEST => tpm2bDigestUnmarshal
  | .TPM2B_ECC_PARAMETER => tpm2bEccParameterUnmarshal
  | .TPM2B_ECC_POINT => tpm2bEccPointUnmarshal
  | .TPM2B_ENCRYPTED_SECRET => tpm2bEncryptedSecretUnmarshal sizes
  | .TPM2B_EVENT => tpm2bEventUnmarshal
  | .TPM2B_ID_OBJECT => tpm2bIdObjectUnmarshal sizes
  | .TPM2B_IV => tpm2bIvUnmarshal
  | .TPM2B_MAX_BUFFER => tpm2bMaxBufferUnmarshal
  | .TPM2B_MAX_NV_BUFFER => tpm2bMaxNvBufferUnmarshal
  | .TPM2B_NAME => tpm2bNameUnmarshal
  | .TPM2B_NV_PUBLIC => tpm2bNvPublicUnmarshal
  | .TPM2B_NV_PUBLIC_2 => tpm2bNvPublic2Unmarshal
  | .TPM2B_PRIVATE => tpm2bPrivateUnmarshal sizes
  | .TPM2B_PUBLIC_KEY_RSA => tpm2bPublicKeyRsaUnmarshal
  | .TPM2B_SENSITIVE => tpm2bSensitiveUnmarshal
  | .TPM2B_SENSITIVE_CREATE => tpm2bSensitiveCreateUnmarshal
  | .TPM2B_SENSITIVE_DATA => tpm2bSensitiveDataUnmarshal
  | .TPM2B_SET_CAPABILITY_DATA => tpm2bSetCapabilityDataUnmarshal
  | .TPM2B_TEMPLATE => tpm2bTemplateUnmarshal sizes
  | .TPM2B_TIMEOUT => tpm2bTimeoutUnmarshal
  | .TPMI_DH_CONTEXT => tpmiDhContextUnmarshal
  | .TPMI_DH_PERSISTENT => tpmiDhPersistentUnmarshal
  | .TPMI_YES_NO => tpmiYesNoUnmarshal
  | .TPML_ALG => tpmlAlgUnmarshal
  | .TPML_CC => tpmlCcUnmarshal
  | .TPML_DIGEST => tpmlDigestUnmarshal
  | .TPML_DIGEST_VALUES => tpmlDigestValuesUnmarshal
  | .TPML_PCR_SELECTION => tpmlPcrSelectionUnmarshal
  | .TPMS_CONTEXT => tpmsContextUnmarshal sizes
  | .TPMT_PUBLIC_PARMS => tpmtPublicParmsUnmarshal
  | .TPMT_TK_AUTH => tpmtTkAuthUnmarshal
  | .TPMT_TK_CREATION => tpmtTkCreationUnmarshal
  | .TPMT_TK_HASHCHECK => tpmtTkHashcheckUnmarshal
  | .TPMT_TK_VERIFIED => tpmtTkVerifiedUnmarshal
  | .TPM_AT => tpmAtUnmarshal
  | .TPM_CAP => tpmCapUnmarshal
  | .TPM_CLOCK_ADJUST => tpmClockAdjustUnmarshal
  | .TPM_EO => tpmEoUnmarshal
  | .TPM_SE => tpmSeUnmarshal
  | .TPM_SU => tpmSuUnmarshal
  | .UINT16 => uint16Unmarshal
  | .UINT32 => uint32Unmarshal
  | .UINT64 => uint64Unmarshal
  | .UINT8 => uint8Unmarshal
  | .TPM2B_PUBLIC => tpm2bPublicUnmarshal allowNull
  | .TPMI_ALG_CIPHER_MODE => tpmiAlgCipherModeUnmarshal allowNull
  | .TPMI_ALG_HASH => tpmiAlgHashUnmarshal allowNull
  | .TPMI_ALG_MAC_SCHEME => tpmiAlgMacSchemeUnmarshal allowNull
  | .TPMI_DH_PCR => tpmiDhPcrUnmarshal allowNull
  | .TPMI_ECC_CURVE => tpmiEccCurveUnmarshal allowNull
  | .TPMI_ECC_KEY_EXCHANGE => tpmiEccKeyExchangeUnmarshal allowNull
  | .TPMI_RH_ENABLES => tpmiRhEnablesUnmarshal allowNull
  | .TPMI_RH_HIERARCHY => tpmiRhHierarchyUnmarshal allowNull
  | .TPMT_KDF_SCHEME => tpmtKdfSchemeUnmarshal allowNull
  | .TPMT_RSA_DECRYPT => tpmtRsaDecryptUnmarshal allowNull
  | .TPMT_SIGNATURE => tpmtSignatureUnmarshal allowNull
  | .TPMT_SIG_SCHEME => tpmtSigSchemeUnmarshal allowNull
  | .TPMT_SYM_DEF => tpmtSymDefUnmarshal allowNull
  | .TPMT_SYM_DEF_OBJECT => tpmtSymDefObjectUnmarshal allowNull

end RfTpm.Marshal
