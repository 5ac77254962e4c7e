import RfTpm.Lib.Cbc
import RfTpm.Nv.State

/-!
# Symmetric encryption

`CryptSymmetricEncrypt()` and `CryptSymmetricDecrypt()` of `CryptSym.c`.  The data is in memory, at
two addresses that may be the same; the IV, the temporary block and the pointers into them are the
local state of the functions.  The loops over bytes are modelled as such, since it is their order of
reads and writes that makes the functions work in place.

The block ciphers are a parameter: of each only its block size is known, and that its decryption
undoes its encryption.
-/

namespace RfTpm.Sym

open Bytes Mem


/-- The symmetric algorithms that are implemented, and any other `TPM_ALG_ID`. -/
inductive SymAlgorithm where
  | aes
  | camellia
  | other
  deriving DecidableEq

/-- The modes that are implemented, and any other `TPM_ALG_ID`. -/
inductive SymMode where
  | ctr
  | ofb
  | cbc
  | cfb
  | ecb
  | other
  deriving DecidableEq

/-- `aesKeyBlockSizes`, `camelliaKeyBlockSizes`: the key sizes in bits, `-1`, the block sizes.
There is a zero for a key size that is not implemented. -/
def keyBlockSizes : SymAlgorithm → Option (List ℤ)
  | .aes => some [128, 0, 256, -1, 16, 0, 16]
  | .camellia => some [128, 0, 256, -1, 16, 0, 16]
  | .other => none

/-- `CryptGetSymmetricBlockSize()` -/
def cryptGetSymmetricBlockSize (symmetricAlg : SymAlgorithm) (keySizeInBits : ℕ) : ℕ :=
  match keyBlockSizes symmetricAlg with
  | none => 0
  | some sizes =>
    let i := sizes.findIdx fun size : ℤ => size < 0 ∨ size = keySizeInBits
    if sizes.getD i (-1) < 0 then 0
    else
      let blockSizes := (sizes.drop (i + 1)).drop
        ((sizes.drop (i + 1)).findIdx (fun size : ℤ => size < 0) + 1)
      (blockSizes.getD i 0).toNat

/-- The block ciphers, by algorithm, key size and key. -/
structure Ciphers where
  cipher : SymAlgorithm → ℕ → Bytes → Cbc.BlockCipher
  size_cipher : ∀ algorithm keySizeInBits key,
    (cipher algorithm keySizeInBits key).size = cryptGetSymmetricBlockSize algorithm keySizeInBits

/-- `TPM2B_IV` -/
structure Iv where
  size : ℕ
  buffer : Mem

/-- The variables of the functions: the memory with the data, the buffers `iv` and `tmp`, the
pointers `dIn` and `dOut` to the data, and the pointers `pIv` and `pT` into the buffers. -/
structure Regs where
  mem : Mem
  iv : Mem
  tmp : Mem
  dIn : ℕ
  dOut : ℕ
  pIv : ℕ
  pT : ℕ

/-- `for(; dSize > 0; dSize -= blockSize)`, with `min(dSize, blockSize)` for the loop body. -/
def blockLoop (blockSize : ℕ) (body : ℕ → Regs → Regs) : (fuel : ℕ) → ℤ → Regs → ℤ × Regs
  | 0, dSize, s => (dSize, s)
  | fuel + 1, dSize, s =>
    if 0 < dSize then
      blockLoop blockSize body fuel (dSize - blockSize) (body (min dSize blockSize).toNat s)
    else (dSize, s)

/-- The loop takes at most `dSize` turns. -/
def forBlocks (blockSize : ℕ) (body : ℕ → Regs → Regs) (dSize : ℤ) (s : Regs) : ℤ × Regs :=
  blockLoop blockSize body dSize.toNat dSize s

/-! ## The bytes of a block -/

/-- Increment the counter: it is big-endian, so start at the end. -/
def increment : ℕ → (Mem) → Mem
  | 0, iv => iv
  | i + 1, iv =>
    let iv := Function.update iv i (iv i + 1)
    if iv i ≠ 0 then iv else increment i iv

/-- `*dOut++ = *dIn++ ^ *pT++` -/
def xorTmp (s : Regs) : Regs :=
  { s with
    mem := Function.update s.mem s.dOut (s.mem s.dIn ^^^ s.tmp s.pT)
    dIn := s.dIn + 1, dOut := s.dOut + 1, pT := s.pT + 1 }

/-- `*dOut++ = (*pIv++ ^ *dIn++)` -/
def xorIv (s : Regs) : Regs :=
  { s with
    mem := Function.update s.mem s.dOut (s.iv s.pIv ^^^ s.mem s.dIn)
    dIn := s.dIn + 1, dOut := s.dOut + 1, pIv := s.pIv + 1 }

/-- `*pIv++ ^= *dIn++` -/
def xorIntoIv (s : Regs) : Regs :=
  { s with
    iv := Function.update s.iv s.pIv (s.iv s.pIv ^^^ s.mem s.dIn)
    dIn := s.dIn + 1, pIv := s.pIv + 1 }

/-- `*dOut++ = *pIv++` -/
def copyIv (s : Regs) : Regs :=
  { s with
    mem := Function.update s.mem s.dOut (s.iv s.pIv)
    dOut := s.dOut + 1, pIv := s.pIv + 1 }

/-- `*dOut++ = *pIv++ ^= *dIn++` -/
def xorThroughIv (s : Regs) : Regs :=
  { s with
    iv := Function.update s.iv s.pIv (s.iv s.pIv ^^^ s.mem s.dIn)
    mem := Function.update s.mem s.dOut (s.iv s.pIv ^^^ s.mem s.dIn)
    dIn := s.dIn + 1, dOut := s.dOut + 1, pIv := s.pIv + 1 }

/-- `*pT++ = *dIn++` -/
def copyToTmp (s : Regs) : Regs :=
  { s with
    tmp := Function.update s.tmp s.pT (s.mem s.dIn)
    dIn := s.dIn + 1, pT := s.pT + 1 }

/-- `*dOut++ ^= *pIv; *pIv++ = *pT++` -/
def xorIvAndShift (s : Regs) : Regs :=
  { s with
    mem := Function.update s.mem s.dOut (s.mem s.dOut ^^^ s.iv s.pIv)
    iv := Function.update s.iv s.pIv (s.tmp s.pT)
    dOut := s.dOut + 1, pIv := s.pIv + 1, pT := s.pT + 1 }

/-- `*dOut++ = *pT++ ^ (*pIv++ = *dIn++)` -/
def xorTmpAndKeep (s : Regs) : Regs :=
  { s with
    iv := Function.update s.iv s.pIv (s.mem s.dIn)
    mem := Function.update s.mem s.dOut (s.tmp s.pT ^^^ s.mem s.dIn)
    dIn := s.dIn + 1, dOut := s.dOut + 1, pIv := s.pIv + 1, pT := s.pT + 1 }

/-- `*pIv++ = 0` -/
def zeroIv (s : Regs) : Regs :=
  { s with iv := Function.update s.iv s.pIv 0, pIv := s.pIv + 1 }

/-! ## The blocks of a mode -/

section Blocks

variable (E : Cbc.BlockCipher)

/-- `ENCRYPT(&keySchedule, iv, tmp)` -/
def encryptIvToTmp (s : Regs) : Regs :=
  { s with tmp := write s.tmp 0 (E.encryptBlock (read s.iv 0 E.size)) }

/-- `ENCRYPT(&keySchedule, iv, iv)` -/
def encryptIv (s : Regs) : Regs :=
  { s with iv := write s.iv 0 (E.encryptBlock (read s.iv 0 E.size)) }

/-- The turn of the loop for `TPM_ALG_CTR`, in both directions; it handles `i` bytes. -/
def ctrBlock (i : ℕ) (s : Regs) : Regs :=
  let s := encryptIvToTmp E s
  let s := { s with iv := increment E.size s.iv }
  xorTmp^[i] { s with pT := 0 }

/-- The turn of the loop for `TPM_ALG_OFB`, in both directions. -/
def ofbBlock (i : ℕ) (s : Regs) : Regs :=
  let s := encryptIv E s
  xorIv^[i] { s with pIv := 0 }

/-- The turn of the encryption loop for `TPM_ALG_CBC`. -/
def cbcEncryptBlock (_ : ℕ) (s : Regs) : Regs :=
  let s := xorIntoIv^[E.size] { s with pIv := 0 }
  let s := encryptIv E s
  copyIv^[E.size] { s with pIv := 0 }

/-- The turn of the decryption loop for `TPM_ALG_CBC`. -/
def cbcDecryptBlock (_ : ℕ) (s : Regs) : Regs :=
  let s := copyToTmp^[E.size] { s with pT := 0 }
  let s := { s with mem := write s.mem s.dOut (E.decryptBlock (read s.tmp 0 E.size)) }
  xorIvAndShift^[E.size] { s with pIv := 0, pT := 0 }

/-- The turn of the encryption loop for `TPM_ALG_CFB`. -/
def cfbEncryptBlock (i : ℕ) (s : Regs) : Regs :=
  let s := encryptIv E s
  xorThroughIv^[i] { s with pIv := 0 }

/-- The turn of the decryption loop for `TPM_ALG_CFB`. -/
def cfbDecryptBlock (i : ℕ) (s : Regs) : Regs :=
  let s := encryptIvToTmp E s
  xorTmpAndKeep^[i] { s with pT := 0, pIv := 0 }

/-- The turn of the encryption loop for `TPM_ALG_ECB`. -/
def ecbEncryptBlock (_ : ℕ) (s : Regs) : Regs :=
  { s with
    mem := write s.mem s.dOut (E.encryptBlock (read s.mem s.dIn E.size))
    dIn := s.dIn + E.size, dOut := s.dOut + E.size }

/-- The turn of the decryption loop for `TPM_ALG_ECB`. -/
def ecbDecryptBlock (_ : ℕ) (s : Regs) : Regs :=
  { s with
    mem := write s.mem s.dOut (E.decryptBlock (read s.mem s.dIn E.size))
    dIn := s.dIn + E.size, dOut := s.dOut + E.size }

/-- `for(; dSize < 0; dSize++) *pIv++ = 0`: the IV is padded out for the next round. -/
def padIv (r : ℤ × Regs) : Regs := zeroIv^[(-r.1).toNat] r.2

end Blocks

/-! ## The functions -/

/-- The response code, the memory, and the IV if there is one. -/
structure SymResult where
  rc : TpmRc
  mem : Mem
  iv : Option Iv

/-- The variables before the loops. -/
def initialRegs (mem : Mem) (iv : Mem) (dIn dOut : ℕ) : Regs :=
  ⟨mem, iv, fun _ => 0, dIn, dOut, 0, 0⟩

/-- The IV that is used: the one that is provided, or else zeros.  ECB does not look at it. -/
def ivBuffer (mode : SymMode) (ivInOut : Option Iv) : Mem :=
  match mode, ivInOut with
  | .ecb, _ => fun _ => 0
  | _, some iv => iv.buffer
  | _, none => fun _ => 0

/-- The IV that is handed back.  Its size is set. -/
def ivResult (mode : SymMode) (blockSize : ℕ) (ivInOut : Option Iv) (iv : Mem) : Option Iv :=
  match mode, ivInOut with
  | .ecb, ivInOut => ivInOut
  | _, some _ => some ⟨blockSize, iv⟩
  | _, none => none

/-- The loop of a mode, or the response code with which the function stops instead. -/
def encryptMode (E : Cbc.BlockCipher) (mode : SymMode) (dSize : ℤ) (s : Regs) :
    Except TpmRc Regs :=
  match mode with
  | .ctr => .ok (forBlocks E.size (ctrBlock E) dSize s).2
  | .ofb => .ok (forBlocks E.size (ofbBlock E) dSize s).2
  | .cbc =>
    if dSize % E.size ≠ 0 then .error TPM_RC_SIZE
    else .ok (forBlocks E.size (cbcEncryptBlock E) dSize s).2
  | .cfb => .ok (padIv (forBlocks E.size (cfbEncryptBlock E) dSize s))
  | .ecb =>
    if dSize % E.size ≠ 0 then .error TPM_RC_SIZE
    else .ok (forBlocks E.size (ecbEncryptBlock E) dSize s).2
  | .other => .error TPM_RC_FAILURE

/-- The same for decryption. -/
def decryptMode (E : Cbc.BlockCipher) (mode : SymMode) (dSize : ℤ) (s : Regs) :
    Except TpmRc Regs :=
  match mode with
  | .cbc =>
    if dSize % E.size ≠ 0 then .error TPM_RC_SIZE
    else .ok (forBlocks E.size (cbcDecryptBlock E) dSize s).2
  | .cfb => .ok (padIv (forBlocks E.size (cfbDecryptBlock E) dSize s))
  | .ctr => .ok (forBlocks E.size (ctrBlock E) dSize s).2
  | .ecb =>
    if dSize % E.size ≠ 0 then .error TPM_RC_SIZE
    else .ok (forBlocks E.size (ecbDecryptBlock E) dSize s).2
  | .ofb => .ok (forBlocks E.size (ofbBlock E) dSize s).2
  | .other => .error TPM_RC_FAILURE

/-- What the two functions have in common. -/
def cryptSymmetric
    (run : Cbc.BlockCipher → SymMode → ℤ → Regs → Except TpmRc Regs) (C : Ciphers)
    (mem : Mem) (dOut : ℕ) (algorithm : SymAlgorithm) (keySizeInBits : ℕ)
    (key : Bytes) (ivInOut : Option Iv) (mode : SymMode) (dSize : ℤ) (dIn : ℕ) : SymResult :=
  if dSize = 0 then ⟨TPM_RC_SUCCESS, mem, ivInOut⟩
  else
    let blockSize := cryptGetSymmetricBlockSize algorithm keySizeInBits
    if blockSize = 0 then ⟨TPM_RC_FAILURE, mem, ivInOut⟩
    else
      let iv := ivBuffer mode ivInOut
      if algorithm = .other then ⟨TPM_RC_SYMMETRIC, mem, ivResult mode blockSize ivInOut iv⟩
      else
        match run (C.cipher algorithm keySizeInBits key) mode dSize
            (initialRegs mem iv dIn dOut) with
        | .ok s => ⟨TPM_RC_SUCCESS, s.mem, ivResult mode blockSize ivInOut s.iv⟩
        | .error rc => ⟨rc, mem, ivResult mode blockSize ivInOut iv⟩

/-- `CryptSymmetricEncrypt()` -/
def cryptSymmetricEncrypt (C : Ciphers) (mem : Mem) (dOut : ℕ) (algorithm : SymAlgorithm)
    (keySizeInBits : ℕ) (key : Bytes) (ivInOut : Option Iv) (mode : SymMode) (dSize : ℤ)
    (dIn : ℕ) : SymResult :=
  cryptSymmetric encryptMode C mem dOut algorithm keySizeInBits key ivInOut mode dSize dIn

/-- `CryptSymmetricDecrypt()` -/
def cryptSymmetricDecrypt (C : Ciphers) (mem : Mem) (dOut : ℕ) (algorithm : SymAlgorithm)
    (keySizeInBits : ℕ) (key : Bytes) (ivInOut : Option Iv) (mode : SymMode) (dSize : ℤ)
    (dIn : ℕ) : SymResult :=
  cryptSymmetric decryptMode C mem dOut algorithm keySizeInBits key ivInOut mode dSize dIn

end RfTpm.Sym
