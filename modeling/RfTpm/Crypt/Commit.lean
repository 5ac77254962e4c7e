import RfTpm.Exec.Orderly

/-!
# Commit values

`TPM2_Commit()` and `TPM2_EC_Ephemeral()` hand out a point for a secret `r` and a 16-bit counter
for it; an anonymous signature or `TPM2_ZGen_2Phase()` uses `r` later.  The secret is not stored.
It is derived again from `gr.commitNonce`, the 64-bit value that `gr.commitCounter` had at the
commit, and the name of the key.  `gr.commitArray` has a bit for each of the last 128 counts, set as
long as the commit is not used, and `CryptGenerateR()` rebuilds the count from the 16 bits.

All of this is in `gr`, which is part of a state save.  The machine is that of `RfTpm.Exec.Orderly`,
and the log of the part has the nonces that were drawn, the counts that were committed and the uses.
-/

namespace RfTpm.Commit

open Fallible Runs Orderly
open Pcr (Effect Env)

def TPM_RC_ECC_POINT : TpmRc := 0xA7

def RC_Commit_signHandle : TpmRc := 0x100
def RC_Commit_P1 : TpmRc := 0x140
def RC_Commit_s2 : TpmRc := 0x240
def RC_Commit_y2 : TpmRc := 0x340
def RC_ZGen_2Phase_keyA : TpmRc := 0x100
def RC_ZGen_2Phase_inQsB : TpmRc := 0x140
def RC_ZGen_2Phase_inQeB : TpmRc := 0x240
def RC_ZGen_2Phase_inScheme : TpmRc := 0x340
def RC_ZGen_2Phase_counter : TpmRc := 0x440

/-! ## The commit data -/

/-- The number of bits of `gr.commitArray`. -/
def COMMIT_BITS : ℕ := 128

def COMMIT_INDEX_MASK : UInt16 := 127

/-- The bit of the array for a count. -/
def commitIndex (c : UInt16) : Fin COMMIT_BITS :=
  ⟨(c &&& COMMIT_INDEX_MASK).toNat, by
    rw [UInt16.toNat_and]
    exact lt_of_le_of_lt Nat.and_le_right (by decide)⟩

/-- The fields of `STATE_RESET_DATA` for commits. -/
structure CommitData where
  commitCounter : UInt64
  commitNonce : Bytes
  commitArray : Fin COMMIT_BITS → Bool

/-- What is derived, computed and checked outside of this file. -/
structure Crypto where
  /-- The loop over `CryptKDFa()`, from the nonce, the name, the count and the curve; `none` if the
  curve is not known or no value is found. -/
  deriveR : Bytes → Bytes → UInt64 → UInt16 → Option Bytes
  curvePrime : UInt16 → Option Bytes
  /-- `CryptHashBlock()`, empty for a hash that is not implemented. -/
  hashBlock : UInt16 → Bytes → Bytes
  divideB : Bytes → Bytes → Option Bytes
  isPointOnCurve : UInt16 → Bytes × Bytes → Bool
  commitCompute : UInt16 → Option (Bytes × Bytes) → Option (Bytes × Bytes) →
    Bytes → Bytes → Except TpmRc Bytes
  pointMultiply : UInt16 → Bytes → Except TpmRc Bytes
  /-- The loop of `TpmEcc_SignEcdaa()` over the values of `nonceK`, from the key, `r`, the digest
  and the random numbers. -/
  signLoop : Bytes → Bytes → Bytes → Bytes → Except TpmRc Bytes
  keyExchange : UInt16 → UInt16 → Bytes → Bytes → Bytes × Bytes →
    Bytes × Bytes → Except TpmRc Bytes

/-- The part of `CryptGenerateR()` that finds what the count was at the commit that returned `c`. -/
def countOf (gr : CommitData) (c : UInt16) : Option UInt64 :=
  if gr.commitArray (commitIndex c) = false then none
  else
    let t1 := gr.commitCounter.toUInt16
    -- the counter is behind
    let currentCount :=
      if c &&& COMMIT_INDEX_MASK ≥ t1 &&& COMMIT_INDEX_MASK then
        gr.commitCounter - (COMMIT_INDEX_MASK + 1).toUInt64
      else gr.commitCounter
    let t1 := currentCount.toUInt16
    if t1 &&& ~~~COMMIT_INDEX_MASK ≠ c &&& ~~~COMMIT_INDEX_MASK then none
    else some ((currentCount &&& 0xffffffffffff0000) ||| c.toUInt64)

/-- `CryptGenerateR()`.  Without a name, `name` is empty. -/
def cryptGenerateR (E : Crypto) (gr : CommitData) (c : Option UInt16) (curveID : UInt16)
    (name : Bytes) : Option Bytes := do
  let currentCount ← match c with
    | none => some gr.commitCounter
    | some c => countOf gr c
  E.deriveR gr.commitNonce name currentCount curveID

/-- `CryptCommit()` on the data; the value returned is `gr.commitCounter.toUInt16`. -/
def CommitData.commit (gr : CommitData) : CommitData :=
  { gr with
    commitCounter := gr.commitCounter + 1
    commitArray := Function.update gr.commitArray (commitIndex gr.commitCounter.toUInt16) true }

/-- `CryptEndCommit()` -/
def CommitData.endCommit (gr : CommitData) (c : UInt16) : CommitData :=
  { gr with commitArray := Function.update gr.commitArray (commitIndex c) false }

/-! ## Commands -/

/-- A use of a commit value: what its secret is derived from. -/
structure Use where
  nonce : Bytes
  count : UInt64
  name : Bytes
  deriving DecidableEq

/-- The nonces that were drawn, the counts that were committed and the uses, the last one first. -/
structure Log where
  nonces : List Bytes
  commits : List (Bytes × UInt64)
  uses : List Use
  deriving DecidableEq

abbrev Tpm := Machine CommitData CommitData Log

abbrev CommitM := Fallible TpmRc Tpm

/-- `CryptCommit()` -/
def cryptCommit : CommitM UInt16 := do
  let oldCount ← gets (·.ram.commitCounter)
  .modify fun s =>
    { s with
      ram := s.ram.commit
      log := { s.log with commits := (s.ram.commitNonce, oldCount) :: s.log.commits } }
  pure oldCount.toUInt16

/-- The use that the counter `c` stands for. -/
def useOf (gr : CommitData) (c : UInt16) (name : Bytes) : Option Use :=
  (countOf gr c).map fun count => ⟨gr.commitNonce, count, name⟩

/-- `CryptEndCommit()`, after a use of the commit for a key. -/
def cryptEndCommit (c : UInt16) (name : Bytes) : CommitM Unit :=
  .modify fun s =>
    { s with
      ram := s.ram.endCommit c
      log := { s.log with uses := (useOf s.ram c name).toList ++ s.log.uses } }

/-- The result of an optional computation, or an error. -/
def ofOption {α : Type} (x : Option α) (rc : TpmRc) : CommitM α := ofExcept (x.elim (.error rc) .ok)

/-- The fields of an `OBJECT` that the commands read. -/
structure Key where
  isEcc : Bool
  restricted : Bool
  decrypt : Bool
  publicOnly : Bool
  anonymous : Bool
  /-- The scheme, `none` for `TPM_ALG_NULL`. -/
  scheme : Option UInt16
  curveID : UInt16
  nameAlg : UInt16
  name : Bytes
  sensitive : Bytes
  deriving DecidableEq

/-- The point from `s2` and `y2` in `TPM2_Commit()`. -/
def commitP2 (E : Crypto) (key : Key) (p s2 y2 : Bytes) :
    CommitM (Option (Bytes × Bytes)) :=
  if s2 = [] then pure none
  else do
    let x2 := E.hashBlock key.nameAlg s2
    stopIf (x2 = []) (TPM_RC_HASH + RC_Commit_signHandle)
    let x ← ofOption (E.divideB x2 p) TPM_RC_NO_RESULT
    stopIf (!E.isPointOnCurve key.curveID (x, y2)) (TPM_RC_ECC_POINT + RC_Commit_s2)
    stopIf (key.publicOnly = true) (TPM_RC_KEY + RC_Commit_signHandle)
    pure (some (x, y2))

/-- `TPM2_Commit()`, with the points it computes and the counter. -/
def tpm2Commit (E : Crypto) (key : Key) (p1 : Option (Bytes × Bytes))
    (s2 y2 : Bytes) : CommitM (Bytes × UInt16) := do
  stopIf (!key.isEcc) (TPM_RC_KEY + RC_Commit_signHandle)
  stopIf (!key.anonymous) (TPM_RC_SCHEME + RC_Commit_signHandle)
  stopIf (s2.isEmpty ≠ y2.isEmpty) (TPM_RC_SIZE + RC_Commit_y2)
  let p ← ofOption (E.curvePrime key.curveID) (TPM_RC_KEY + RC_Commit_signHandle)
  let gr ← gets (·.ram)
  let r ← ofOption (cryptGenerateR E gr none key.curveID key.name) TPM_RC_NO_RESULT
  let p2 ← commitP2 E key p s2 y2
  stopIf (p1.any fun point => !E.isPointOnCurve key.curveID point) (TPM_RC_ECC_POINT + RC_Commit_P1)
  let points ← ofExcept (E.commitCompute key.curveID p1 p2 key.sensitive r)
  let counter ← cryptCommit
  pure (points, counter)

/-- The loop of `TPM2_EC_Ephemeral()`, with the last counter.  A value of `r` that gives the point
at infinity is committed as well, so as to skip it.  The loop has no bound of its own: `turns` is
how many turns it is followed for, and a loop that goes on is taken to end there. -/
def ecEphemeralLoop (E : Crypto) (curveID : UInt16) :
    ℕ → UInt16 → CommitM (Bytes × UInt16)
  | 0, _ => stop TPM_RC_NO_RESULT
  | turns + 1, counter => do
      let gr ← gets (·.ram)
      let r ← ofOption (cryptGenerateR E gr none curveID []) TPM_RC_NO_RESULT
      match E.pointMultiply curveID r with
      | .ok point => do
          let counter ← cryptCommit
          pure (point, counter)
      | .error rc =>
        if rc = TPM_RC_NO_RESULT then do
          let counter ← cryptCommit
          ecEphemeralLoop E curveID turns counter
        else pure ([], counter)

/-- `TPM2_EC_Ephemeral()`; its output buffer is zero before. -/
def tpm2EcEphemeral (E : Crypto) (curveID : UInt16) (turns : ℕ) :
    CommitM (Bytes × UInt16) := ecEphemeralLoop E curveID turns 0

/-- `TpmEcc_SignEcdaa()` -/
def tpmEccSignEcdaa (E : Crypto) (key : Key) (count : UInt16) (digest rand : Bytes) :
    CommitM Bytes := do
  let gr ← gets (·.ram)
  let r ← ofOption (cryptGenerateR E gr (some count) key.curveID key.name) TPM_RC_VALUE
  let signature ← ofExcept (E.signLoop key.sensitive r digest rand)
  -- only a command that succeeds ends the commit
  cryptEndCommit count key.name
  pure signature

/-- The inputs of `TPM2_ZGen_2Phase()`. -/
structure ZGenIn where
  inQsB : Bytes × Bytes
  inQeB : Bytes × Bytes
  inScheme : Option UInt16
  counter : UInt16
  deriving DecidableEq

/-- `TPM2_ZGen_2Phase()` -/
def tpm2ZGen2Phase (E : Crypto) (keyA : Key) (i : ZGenIn) : CommitM Bytes := do
  stopIf (!keyA.isEcc) (TPM_RC_KEY + RC_ZGen_2Phase_keyA)
  stopIf (keyA.restricted ∨ !keyA.decrypt) (TPM_RC_ATTRIBUTES + RC_ZGen_2Phase_keyA)
  stopIf (keyA.scheme.isSome ∧ keyA.scheme ≠ i.inScheme) (TPM_RC_SCHEME + RC_ZGen_2Phase_inScheme)
  let scheme ← ofOption (keyA.scheme <|> i.inScheme) (TPM_RC_SCHEME + RC_ZGen_2Phase_inScheme)
  stopIf (!E.isPointOnCurve keyA.curveID i.inQsB) (TPM_RC_ECC_POINT + RC_ZGen_2Phase_inQsB)
  stopIf (!E.isPointOnCurve keyA.curveID i.inQeB) (TPM_RC_ECC_POINT + RC_ZGen_2Phase_inQeB)
  let gr ← gets (·.ram)
  let r ← ofOption (cryptGenerateR E gr (some i.counter) keyA.curveID [])
    (TPM_RC_VALUE + RC_ZGen_2Phase_counter)
  let z ← mapError (fun rc => if rc = TPM_RC_SCHEME then rc + RC_ZGen_2Phase_inScheme else rc)
    (ofExcept (E.keyExchange keyA.curveID scheme keyA.sensitive r i.inQsB i.inQeB))
  cryptEndCommit i.counter []
  pure z

/-- The commands.  `sign` is any command that makes a signature with an anonymous scheme. -/
inductive Command
  | commit (key : Key) (p1 : Option (Bytes × Bytes)) (s2 y2 : Bytes)
  | ecEphemeral (curveID : UInt16) (turns : ℕ)
  | sign (key : Key) (count : UInt16) (digest rand : Bytes)
  | zGen2Phase (keyA : Key) (i : ZGenIn)
  | other (effect : Effect) (result : Except TpmRc Unit)

def Command.action (E : Crypto) : Command → CommitM Unit
  | commit key p1 s2 y2 => do
      let _ ← tpm2Commit E key p1 s2 y2
  | ecEphemeral curveID turns => do
      let _ ← tpm2EcEphemeral E curveID turns
  | sign key count digest rand => do
      let _ ← tpmEccSignEcdaa E key count digest rand
  | zGen2Phase keyA i => do
      let _ ← tpm2ZGen2Phase E keyA i
  | other effect result => otherAction effect result

/-! ## The runs -/

/-- The end of `CryptStartup()`: a reset draws a new nonce. -/
def cryptStartup (type : StartupType) (nonce : Bytes)
    (d : Cell CommitData CommitData Log) : Cell CommitData CommitData Log :=
  if type ≠ .restart ∧ type ≠ .resume then
    { d with
      ram := ⟨0, nonce, fun _ => false⟩
      log := { d.log with nonces := nonce :: d.log.nonces } }
  else d

/-- The commit data as a part of the TPM.  `gr` is read unless the startup is a reset. -/
def part (E : Crypto) : Part CommitData CommitData Log Command Bytes where
  action := Command.action E
  save ram _ := ram
  load ram _ := ram
  readBack type ram nv := if type = .reset then ram else nv
  start := cryptStartup
  respond _ d := d
  lose _ log := log

/-- The TPM from manufacture on.  A nonce that is drawn is a new one. -/
def system (E : Crypto) : System Tpm (Event CommitData Command Bytes) :=
  (part E).system (fun _ => True) ⟨[], [], []⟩ fun log nonce => nonce ∉ log.nonces

end RfTpm.Commit
