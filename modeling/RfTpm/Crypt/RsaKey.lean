import RfTpm.Crypt.RsaPss
import RfTpm.Crypt.EccSpec
import RfTpm.Auth.Condition
import RfTpm.Lib.Crt

/-!
# RSA keys

The private key of RSA and the two operations with a key: `CryptRsaLoadPrivateExponent`, `RSAEP` and
`RSADP` of CryptRsa.c, with the functions below them.

A private key is a prime.  The private exponent is made from it when the key is loaded, in the form
for the Chinese remainder theorem, and is packed behind the prime into the same buffer.  In memory
the exponent is an array of five numbers with pointers into it.

The number library computes with natural numbers.  A result that does not fit into its number, a
difference below zero and a failed assertion are faults.
-/

namespace RfTpm.Rsa

open Faults Bytes Buffer Math Ecc

def TPM_RC_BINDING : TpmRc := 0xA5
def RSA_DEFAULT_PUBLIC_EXPONENT : ℕ := 65537
def RSA_prime_flag : ℕ := 0x8000
def MAX_RSA_KEY_BITS : ℕ := 8 * MAX_RSA_KEY_BYTES

/-! ## Numbers -/

/-- `ExtMath_IntFromBytes`, into a number with room for `bits`. -/
def intFromBytes (bits : ℕ) (bytes : Bytes) : Run TpmRc ℕ :=
  if 8 * bytes.length ≤ bits then pure (beVal bytes) else .error .fault

/-- `ExtMath_IntToBytes`: the octets that are written, and the size. -/
def intToBytes (value size : ℕ) : Run TpmRc (Bytes × ℕ) :=
  if value = 0 then pure ([0], 1)
  else
    let size := if size = 0 then sizeInBytes value else size
    if sizeInBytes value ≤ size then pure (beBytes size value, size) else .error .fault

/-- A result that is put into a number with room for `bits`. -/
def result (bits value : ℕ) : Run TpmRc ℕ :=
  if value < 2 ^ bits then pure value else .error .fault

/-- `ExtMath_MostSigBitNum`. -/
def mostSigBitNum (value : ℕ) : ℤ := sizeInBits value - 1

/-- `ExtMath_Divide`. -/
def divide (quotientBits remainderBits dividend divisor : ℕ) : Run TpmRc (ℕ × ℕ) :=
  if divisor = 0 then .error .fault
  else do
    let quotient ← result quotientBits (dividend / divisor)
    let remainder ← result remainderBits (dividend % divisor)
    pure (quotient, remainder)

/-- `ExtMath_Subtract` and `ExtMath_SubtractWord`. -/
def subtract (bits op1 op2 : ℕ) : Run TpmRc ℕ :=
  if op2 ≤ op1 then result bits (op1 - op2) else .error .fault

/-- `ExtMath_ModExp`. -/
def modExp (bits number power modulus : ℕ) : Run TpmRc ℕ :=
  if modulus = 0 then .error .fault else result bits (number ^ power % modulus)

/-- `ExtMath_ModMult`. -/
def modMult (bits op1 op2 modulus : ℕ) : Run TpmRc ℕ :=
  if modulus = 0 then .error .fault else result bits (op1 * op2 % modulus)

/-! ## The private exponent -/

/-- `privateExponent` -/
structure PrivateExponent where
  P : Fin 5
  Q : Fin 5
  dP : Fin 5
  dQ : Fin 5
  qInv : Fin 5
  entries : Fin 5 → ℕ

/-- `RsaInitializeExponent()` -/
def rsaInitializeExponent : PrivateExponent := ⟨0, 1, 2, 3, 4, fun _ => 0⟩

/-- The room in an entry. -/
def primeBits : ℕ := MAX_RSA_KEY_BITS / 2

namespace PrivateExponent

variable (Z : PrivateExponent)

def p : ℕ := Z.entries Z.P
def q : ℕ := Z.entries Z.Q

/-- An assignment to the number behind a pointer. -/
def set (i : Fin 5) (value : ℕ) : PrivateExponent :=
  { Z with entries := Function.update Z.entries i value }

/-- `MakePgreaterThanQ()` -/
def makePgreaterThanQ : PrivateExponent :=
  if Z.p < Z.q then { Z with P := Z.Q, Q := Z.P } else Z

end PrivateExponent

/-- The loop of `PackExponent()`; the size goes through it. -/
def packLoop (Z : PrivateExponent) (primeSize : ℕ) :
    List (Fin 5) → ℕ → Bytes → Run TpmRc (ℕ × Bytes)
  | [], pS, buffer => pure (pS, buffer)
  | i :: rest, pS, buffer => do
    let (bytes, pS) ← intToBytes (Z.entries i) pS
    let buffer ← put buffer (primeSize * i) bytes
    packLoop Z primeSize rest pS buffer

/-- `PackExponent()`; `none` is FALSE. -/
def packExponent (packed : Tpm2b) (Z : PrivateExponent) : Run TpmRc (Option Tpm2b) := do
  let primeSize := ((mostSigBitNum Z.p + 7) / 8).toNat
  if primeSize * 5 ≤ packed.buffer.length then do
    let (pS, buffer) ← packLoop Z primeSize [0, 1, 2, 3, 4] primeSize packed.buffer
    pure (if pS ≠ primeSize then none else some ⟨primeSize * 5 + RSA_prime_flag, buffer⟩)
  else .error .fault

/-- The loop of `UnpackExponent()`. -/
def unpackLoop (b : Tpm2b) (primeSize : ℕ) :
    List (Fin 5) → PrivateExponent → Run TpmRc PrivateExponent
  | [], Z => pure Z
  | i :: rest, Z => do
    let bytes ← slice b.buffer (primeSize * i) primeSize
    let value ← intFromBytes primeBits bytes
    unpackLoop b primeSize rest (Z.set i value)

/-- `UnpackExponent()`; `none` is FALSE. -/
def unpackExponent (b : Tpm2b) : Run TpmRc (Option PrivateExponent) := do
  let primeSize := b.size &&& (RSA_prime_flag - 1)
  if b.size &&& RSA_prime_flag = 0 then pure none
  else if primeSize % 5 ≠ 0 then pure none
  else do
    let Z ← unpackLoop b (primeSize / 5) [0, 1, 2, 3, 4] rsaInitializeExponent
    pure (some Z.makePgreaterThanQ)

/-- `ComputePrivateExponent()`: the exponent, or `none` for FALSE.  The primes are cleared then, but
nobody looks at them. -/
def computePrivateExponent (pubExp : ℕ) (Z : PrivateExponent) :
    Run TpmRc (Option PrivateExponent) := do
  let Z := Z.makePgreaterThanQ
  let pT ← subtract primeBits Z.p 1
  let dP := modInverse pubExp pT
  let qT ← subtract primeBits Z.q 1
  let dQ := modInverse pubExp qT
  match dP, dQ with
  | some dP, some dQ =>
    let Z := (Z.set Z.dP dP).set Z.dQ dQ
    pure ((modInverse Z.q Z.p).map fun qInv => Z.set Z.qInv qInv)
  | _, _ => pure none

/-- `RsaPrivateKeyOp()` -/
def rsaPrivateKeyOp (inOut : ℕ) (Z : PrivateExponent) : Run TpmRc ℕ := do
  let Z := Z.makePgreaterThanQ
  let m1 ← modExp MAX_RSA_KEY_BITS inOut (Z.entries Z.dP) Z.p
  let m2 ← modExp MAX_RSA_KEY_BITS inOut (Z.entries Z.dQ) Z.q
  let h ← subtract MAX_RSA_KEY_BITS Z.p m2
  let h ← result MAX_RSA_KEY_BITS (h + m1)
  let h ← modMult MAX_RSA_KEY_BITS h (Z.entries Z.qInv) Z.p
  let m ← result MAX_RSA_KEY_BITS (h * Z.q)
  result MAX_RSA_KEY_BITS (m2 + m)

/-! ## Keys -/

/-- The parts of an RSA `OBJECT` that the operations use. -/
structure Key where
  exponent : UInt32
  unique : Tpm2b
  sensitive : Tpm2b

/-- The public exponent; zero stands for the default. -/
def Key.publicExponent (key : Key) : ℕ :=
  if key.exponent = 0 then RSA_DEFAULT_PUBLIC_EXPONENT else key.exponent.toNat

/-- `CryptRsaLoadPrivateExponent()`: the private part. -/
def cryptRsaLoadPrivateExponent (key : Key) : Run TpmRc Tpm2b :=
  if key.sensitive.size &&& RSA_prime_flag = 0 then
    if key.sensitive.size * 2 = key.unique.size then do
      let bytes ← slice key.unique.buffer 0 key.unique.size
      let bnN ← intFromBytes MAX_RSA_KEY_BITS bytes
      let bytes ← slice key.sensitive.buffer 0 key.sensitive.size
      let p ← intFromBytes primeBits bytes
      let Z := rsaInitializeExponent.set 0 p
      let (q, bnQr) ← divide primeBits MAX_RSA_KEY_BITS bnN p
      if bnQr ≠ 0 then .error (.reply TPM_RC_BINDING)
      else do
        match ← computePrivateExponent key.publicExponent (Z.set 1 q) with
        | none => .error (.reply TPM_RC_BINDING)
        | some Z =>
          match ← packExponent key.sensitive Z with
          | none => .error (.reply TPM_RC_BINDING)
          | some packed => pure { packed with size := packed.size ||| RSA_prime_flag }
    else if key.sensitive.size / 5 * 2 = key.unique.size then
      pure { key.sensitive with size := key.sensitive.size ||| RSA_prime_flag }
    else .error (.reply TPM_RC_BINDING)
  else pure key.sensitive

/-- `ModExpB()`, into the buffer `c` of `cSize` octets. -/
def modExpB (cSize : ℕ) (c : Bytes) (m : Bytes) (e n : ℕ) (nSize : ℕ) :
    Run TpmRc Bytes := do
  let bnM ← intFromBytes MAX_RSA_KEY_BITS m
  if cSize < nSize then .error (.reply TPM_RC_NO_RESULT)
  else if bnM ≥ n then .error (.reply TPM_RC_SIZE)
  else do
    let bnC ← modExp MAX_RSA_KEY_BITS bnM e n
    let (bytes, _) ← intToBytes bnC nSize
    put c 0 bytes

/-- `RSAEP()` -/
def rsaep (dInOut : Tpm2b) (key : Key) : Run TpmRc Tpm2b := do
  let m ← slice dInOut.buffer 0 dInOut.size
  let bytes ← slice key.unique.buffer 0 key.unique.size
  let n ← intFromBytes MAX_RSA_KEY_BITS bytes
  let buffer ← modExpB dInOut.size dInOut.buffer m key.publicExponent n key.unique.size
  pure { dInOut with buffer := buffer }

/-- The private part with the exponent, which `RSADP()` loads if that was not done before. -/
def exponentLoaded (key : Key) : Run TpmRc Tpm2b :=
  if key.sensitive.size &&& RSA_prime_flag = 0 then cryptRsaLoadPrivateExponent key
  else pure key.sensitive

/-- `RSADP()`: the value, and the private part, to which the exponent may have been added. -/
def rsadp (inOut : Tpm2b) (key : Key) : Run TpmRc (Tpm2b × Tpm2b) := do
  let bytes ← slice inOut.buffer 0 inOut.size
  let bnM ← intFromBytes MAX_RSA_KEY_BITS bytes
  let order ← Auth.unsignedCompareB inOut.size inOut.buffer key.unique.size key.unique.buffer
  if order ≥ 0 then .error (.reply TPM_RC_SIZE)
  else do
    let sensitive ← exponentLoaded key
    match ← unpackExponent sensitive with
    | none => .error (.reply TPM_RC_FAILURE)
    | some Z =>
      let bnM ← rsaPrivateKeyOp bnM Z
      let (bytes, size) ← intToBytes bnM inOut.size
      let buffer ← put inOut.buffer 0 bytes
      pure (⟨size, buffer⟩, sensitive)

end RfTpm.Rsa
