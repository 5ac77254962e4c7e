import RfTpm.Nv.State
import RfTpm.Crypt.InRange

/-!
# ECC signatures

Signing and validation with ECDSA, EC-Schnorr and SM2 (TpmEcc_Signature_ECDSA.c,
TpmEcc_Signature_Schnorr.c, TpmEcc_Signature_SM2.c, TpmEcc_Signature_Util.c), the dispatch to them
(CryptEccSignature.c) and the generation of nonces (CryptEccMain.c, TpmMath_Util.c).

The curve is an abelian group with a base point of prime order and a coordinate function on its
points; zero is the point at infinity, and every other element is a point on the curve.  The numbers
of the code are large enough for every intermediate result, so they are natural numbers here.

The loops that start over after an unusable nonce have no bound in the code. They take fuel here,
and `none` is a run that does not come back: a loop that is still running, or one that has gone
astray in memory. The latter is what `BnAddWord` does with a number that is zero, see `bnAddWord`.
-/

namespace RfTpm.Ecc

open Bytes Math

def TPM_RC_SIGNATURE : TpmRc := 0x9B

/-! ## Numbers -/

/-- `BITS_TO_BYTES(ExtMath_SizeInBits(v))`. -/
def sizeInBytes (v : ℕ) : ℕ := (sizeInBits v + 7) / 8

/-- `ExtMath_ModInverse`; `none` where it returns FALSE. -/
def modInverse (number modulus : ℕ) : Option ℕ :=
  (List.range modulus).find? fun i => number * i % modulus = 1 % modulus

/-- `MAX_ECC_KEY_BITS`. -/
def maxEccKeyBits : ℕ := 638

/-- `ECC_BITS`. -/
def eccBits : ℕ := (maxEccKeyBits + 7) / 8 * 8

/-- `BnAddWord` with the word one. The words of the number behind the first are `size - 1`, and
`CarryProp` counts them down to zero: for a number that is zero, which has size zero, it counts
from -1 and writes over all that follows in memory. -/
def bnAddWord (op : ℕ) : Option ℕ := if op = 0 then none else some (op + 1)

/-- `TpmMath_IntTo2B` for a number that fits. `BnToBytes` gives one byte for zero, whatever size it
is asked for. -/
def intTo2B (size value : ℕ) : Bytes := if value = 0 then [0] else beBytes size value

/-! ## The curve -/

/-- A curve: a group with a base point of prime order.  A coordinate fits into as many bytes as
the order has, as it does on each of the curves of the TPM. -/
structure Curve (P : Type*) [AddCommGroup P] where
  base : P
  order : ℕ
  pointX : P → ℕ
  prime : order.Prime
  order_base : addOrderOf base = order
  pointX_lt : ∀ p, pointX p < 256 ^ sizeInBytes order

/-- The hash algorithms: `CryptHashGetDigestSize` and the hash of a string. -/
structure Hashes (A : Type*) where
  digestSize : A → ℕ
  hash : A → Bytes → Bytes
  length_hash : ∀ a l, (hash a l).length = digestSize a

section Model

variable {P : Type*} [AddCommGroup P] [DecidableEq P] (E : Curve P)

/-- `ExtEcc_PointMultiply` with the base point; `none` for the point at infinity. -/
def pointMultiply (d : ℕ) : Option P :=
  if d • E.base = 0 then none else some (d • E.base)

/-- `ExtEcc_PointMultiplyAndAdd` with the base point, to which `TpmEcc_PointMult` comes down for
two scalars and points on the curve. -/
def pointMultiplyAndAdd (d : ℕ) (Q : P) (u : ℕ) : Option P :=
  if d • E.base + u • Q = 0 then none else some (d • E.base + u • Q)

/-! ## Nonces -/

/-- `TpmEcc_GenPrivateScalar` with the `i`-th call of the random engine; the inner `none` where it
returns FALSE. -/
def genPrivateScalar (g : Engine) (i : ℕ) : Option (Option ℕ) :=
  let orderBytes := sizeInBytes E.order
  match tpmMathGetRandomInteger (cryptIntVar (maxEccKeyBits + 64)) (orderBytes * 8 + 64)
      (g.rand i) with
  | some bnExtraBits => do
    let nMinus1 := E.order - 1
    let dOut ← bnAddWord (bnExtraBits.value % nMinus1)
    pure (if g.failed i then none else some dOut)
  | none => some none

/-- `TpmEcc_GenerateKeyPair`. -/
def generateKeyPair (g : Engine) (i : ℕ) : Option (Option (ℕ × P)) :=
  (genPrivateScalar E g i).map fun ok =>
    ok.bind fun bnD => (pointMultiply E bnD).map fun ecQ => (bnD, ecQ)

/-! ## Signing -/

/-- What a signing function leaves: its return value and the numbers `bnR` and `bnS`. -/
structure Signed where
  retVal : TpmRc
  r : ℕ
  s : ℕ
deriving DecidableEq

/-- `TpmEcc_AdjustEcdsaDigest`. -/
def adjustEcdsaDigest (digest : Bytes) (max : ℕ) : ℕ :=
  let bitsInMax := sizeInBits max
  let bnD := beVal (digest.take (min digest.length ((bitsInMax + 7) / 8)))
  let shift := sizeInBits bnD - bitsInMax
  if shift > 0 then bnD >>> shift else bnD

/-- The variables of `TpmEcc_SignEcdsa` that outlive a round; `i` is the next call of the random
engine. -/
structure EcdsaState where
  tries : ℕ
  ok : Bool
  ik : ℕ
  r : ℕ
  s : ℕ
  i : ℕ

/-- `for(; tries > 0; tries--)`. -/
def ecdsaTries (g : Engine) : ℕ → EcdsaState → Option EcdsaState
  | 0, v => some { v with tries := 0 }
  | tries + 1, v =>
    match generateKeyPair E g v.i with
    | none => none
    | some none => ecdsaTries g tries { v with i := v.i + 1 }
    | some (some (bnK, ecR)) =>
      let bnX := E.pointX ecR % E.order
      if bnX = 0 then ecdsaTries g tries { v with i := v.i + 1 }
      else
        match modInverse bnK E.order with
        | some bnIk =>
          some { tries := tries + 1, ok := true, ik := bnIk, r := bnX, s := v.s, i := v.i + 1 }
        | none => ecdsaTries g tries { v with ok := false, r := bnX, i := v.i + 1 }

/-- `do ... while(ExtMath_IsZero(bnS))`. Nothing on the way sets the return value. -/
def ecdsaLoop (bnD bnE : ℕ) (g : Engine) : ℕ → EcdsaState → Option Signed
  | 0, _ => none
  | fuel + 1, v => do
    let v₁ ← ecdsaTries E g v.tries v
    if !v₁.ok then pure ⟨TPM_RC_SUCCESS, v₁.r, v₁.s⟩
    else
      let bnS := v₁.r * bnD % E.order
      let bnS := bnE + bnS
      let bnS := v₁.ik * bnS % E.order
      if bnS = 0 then ecdsaLoop bnD bnE g fuel { v₁ with s := bnS }
      else pure ⟨TPM_RC_SUCCESS, v₁.r, bnS⟩

/-- `TpmEcc_SignEcdsa`. -/
def signEcdsa (bnD : ℕ) (digest : Bytes) (g : Engine) (fuel : ℕ) : Option Signed :=
  ecdsaLoop E bnD (adjustEcdsaDigest digest E.order) g fuel ⟨10, false, 0, 0, 0, 0⟩

variable {A : Type*} (H : Hashes A)

/-- `SchnorrReduce`. -/
def schnorrReduce (number : Bytes) (reference : ℕ) : Bytes :=
  number.take (sizeInBytes reference)

/-- The number that stands for the point and the digest: their hash, cut to the bytes of the
order. -/
def schnorrHash (hashAlg : A) (R : P) (digest : Bytes) : ℕ :=
  let e := intTo2B (sizeInBytes E.order) (E.pointX R)
  beVal (schnorrReduce (H.hash hashAlg (e ++ digest)) E.order)

/-- `TpmEcc_SchnorrCalculateS`; `none` stands for `TPM_RC_NO_RESULT`. -/
def schnorrCalculateS (bnK bnR bnD bnN : ℕ) : Option ℕ :=
  let bnT1 := bnR % bnN
  if bnT1 = 0 then none
  else
    let bnS := (bnT1 * bnD + bnK) % bnN
    if bnS = 0 then none else some bnS

/-- The loop of `TpmEcc_SignEcSchnorr`, at the `i`-th call of the random engine. -/
def schnorrLoop (bnD : ℕ) (digest : Bytes) (hashAlg : A) (g : Engine) :
    ℕ → ℕ → Option Signed
  | 0, _ => none
  | fuel + 1, i =>
    match generateKeyPair E g i with
    | none => none
    | some none => some ⟨TPM_RC_NO_RESULT, 0, 0⟩
    | some (some (bnK, ecR)) =>
      let bnR := schnorrHash E H hashAlg ecR digest
      match schnorrCalculateS bnK bnR bnD E.order with
      | some bnS => some ⟨TPM_RC_SUCCESS, bnR, bnS⟩
      | none => schnorrLoop bnD digest hashAlg g fuel (i + 1)

/-- `TpmEcc_SignEcSchnorr`. -/
def signEcSchnorr (bnD : ℕ) (digest : Bytes) (hashAlg : A) (g : Engine) (fuel : ℕ) :
    Option Signed :=
  if H.digestSize hashAlg = 0 then some ⟨TPM_RC_SCHEME, 0, 0⟩
  else schnorrLoop E H bnD digest hashAlg g fuel 0

/-- The body of the loop of `TpmEcc_SignEcSm2` once the nonce is drawn: `r` and `s`, or the inner
`none` for `goto loop`. The number `bnN` that `k + r` is compared with is never set, and is
zero. -/
def sm2Attempt (bnD bnE bnK : ℕ) : Option (Option (ℕ × ℕ)) :=
  let bnN := 0
  match pointMultiply E bnK with
  | none => some none
  | some Q1 =>
    let bnR := (bnE + E.pointX Q1) % E.order
    if bnR = 0 then some none
    else if bnK + bnR = bnN then some none
    else do
      let bnT ← bnAddWord bnD
      -- where there is no inverse, the number keeps its value
      let bnT := (modInverse bnT E.order).getD bnT
      let bnS := bnR * bnD % E.order
      let bnS := E.order - bnS
      let bnS := bnK + bnS
      let bnS := bnS * bnT % E.order
      pure (if bnS = 0 then none else some (bnR, bnS))

/-- The loop of `TpmEcc_SignEcSm2`, at the `i`-th call of the random engine. What
`TpmMath_GetRandomInRange` returns is not looked at. -/
def sm2Loop (bnD bnE : ℕ) (g : Engine) : ℕ → BigNum → ℕ → Option Signed
  | 0, _, _ => none
  | fuel + 1, bnK, i => do
    let drawn ← tpmMathGetRandomInRange bnK E.order g fuel i
    match ← sm2Attempt E bnD bnE drawn.dest.value with
    | some (r, s) => pure ⟨TPM_RC_SUCCESS, r, s⟩
    | none => sm2Loop bnD bnE g fuel drawn.dest drawn.next

/-- `TpmEcc_SignEcSm2`. -/
def signEcSm2 (bnD : ℕ) (digest : Bytes) (g : Engine) (fuel : ℕ) : Option Signed :=
  sm2Loop E bnD (beVal digest) g fuel (cryptIntVar eccBits) 0

/-- The scheme of a signature. -/
inductive SigAlg (A : Type*)
  | ecdsa
  | ecschnorr (hash : A)
  | sm2
deriving DecidableEq

/-- The numbers of a signature, as the strings of a `TPMT_SIGNATURE`. -/
structure Signature where
  signatureR : Bytes
  signatureS : Bytes
deriving DecidableEq

/-- The signing function that `CryptEccSign` dispatches to. -/
def dispatchSign (sigAlg : SigAlg A) (bnD : ℕ) (digest : Bytes) (g : Engine)
    (fuel : ℕ) : Option Signed :=
  match sigAlg with
  | .ecdsa => signEcdsa E bnD digest g fuel
  | .ecschnorr hash => signEcSchnorr E H bnD digest hash g fuel
  | .sm2 => signEcSm2 E bnD digest g fuel

/-- `CryptEccSign`: the signature where the return value is `TPM_RC_SUCCESS`. -/
def cryptEccSign (sigAlg : SigAlg A) (bnD : ℕ) (digest : Bytes) (g : Engine)
    (fuel : ℕ) : Option (TpmRc × Option Signature) :=
  (dispatchSign E H sigAlg bnD digest g fuel).map fun v =>
    if v.retVal = TPM_RC_SUCCESS then
      let orderBytes := sizeInBytes E.order
      (v.retVal, some ⟨intTo2B orderBytes v.r, intTo2B orderBytes v.s⟩)
    else (v.retVal, none)

/-! ## Validation -/

/-- `TpmEcc_ValidateSignatureEcdsa`. -/
def validateSignatureEcdsa (bnR bnS : ℕ) (ecQ : P) (digest : Bytes) : TpmRc :=
  let bnE := adjustEcdsaDigest digest E.order
  match modInverse bnS E.order with
  | none => TPM_RC_SIGNATURE
  | some bnW =>
    let bnU1 := bnE * bnW % E.order
    let bnU2 := bnR * bnW % E.order
    match pointMultiplyAndAdd E bnU1 ecQ bnU2 with
    | none => TPM_RC_SIGNATURE
    | some ecR =>
      let bnV := E.pointX ecR % E.order
      if bnV ≠ bnR then TPM_RC_SIGNATURE else TPM_RC_SUCCESS

/-- `TpmEcc_ValidateSignatureEcSchnorr`. -/
def validateSignatureEcSchnorr (bnR bnS : ℕ) (hashAlg : A) (ecQ : P) (digest : Bytes) :
    TpmRc :=
  let bnR := bnR % E.order
  let bnRn := E.order - bnR
  match pointMultiplyAndAdd E bnS ecQ bnRn with
  | none => TPM_RC_SIGNATURE
  | some ecE =>
    let bnEx := schnorrHash E H hashAlg ecE digest
    if bnEx = bnR then TPM_RC_SUCCESS else TPM_RC_SIGNATURE

/-- `TpmEcc_ValidateSignatureEcSm2`.  The test of `t` against zero has no effect on the result:
`OK` is set again before it is read. -/
def validateSignatureEcSm2 (bnR bnS : ℕ) (ecQ : P) (digest : Bytes) : TpmRc :=
  let bnE := beVal digest
  let bnT := (bnR + bnS) % E.order
  let bnT := if bnT = 0 then bnS else bnT
  match pointMultiplyAndAdd E bnS ecQ bnT with
  | none => TPM_RC_SIGNATURE
  | some p =>
    let bnRp := (bnE + E.pointX p) % E.order
    if bnR = bnRp then TPM_RC_SUCCESS else TPM_RC_SIGNATURE

/-- The validation function that `CryptEccValidateSignature` dispatches to. -/
def dispatchValidate (sigAlg : SigAlg A) (bnR bnS : ℕ) (ecQ : P) (digest : Bytes) : TpmRc :=
  match sigAlg with
  | .ecdsa => validateSignatureEcdsa E bnR bnS ecQ digest
  | .ecschnorr hash => validateSignatureEcSchnorr E H bnR bnS hash ecQ digest
  | .sm2 => validateSignatureEcSm2 E bnR bnS ecQ digest

/-- `CryptEccValidateSignature`. -/
def cryptEccValidateSignature (sigAlg : SigAlg A) (signature : Signature) (ecQ : P)
    (digest : Bytes) : TpmRc :=
  let bnR := beVal signature.signatureR
  let bnS := beVal signature.signatureS
  if bnR = 0 ∨ bnS = 0 then TPM_RC_SIGNATURE
  else if bnS ≥ E.order ∨ bnR ≥ E.order then TPM_RC_SIGNATURE
  else dispatchValidate E H sigAlg bnR bnS ecQ digest

end Model

end RfTpm.Ecc
