import RfTpm.Exec.Globals
import RfTpm.Lib.PackedList

/-!
# The state of the NV subsystem

The data the NV code works on: the NV image `s_NV` and its committed copy, the
RAM buffer of the orderly indices, the one-entry index cache and the flags that
carry a command's NV request to `ExecuteCommand`.

Records that live in NV (`NV_INDEX`, `OBJECT`) are modelled field by field with the byte layout the
code stores them in: `toBytes` lays a record out, `ofBytes` reads it back, and `ofBytes_toBytes` is
the round trip.

`FAIL` and `pAssert` do not leave the function they are called in: the port is built with
`NO_LONGJMP`, so they record failure mode and execution goes on.
-/

namespace RfTpm

open Bytes

/-! ## Sizes and offsets of the build -/

/-- `NV_MEMORY_SIZE`. -/
def NV_MEMORY_SIZE : ℕ := 32768

/-- `RAM_INDEX_SPACE`, the size of `s_indexOrderlyRam`. -/
def RAM_INDEX_SPACE : ℕ := 512

/-- Offset of `orderlyState` in `PERSISTENT_DATA`, which starts the NV image. -/
def NV_ORDERLY_STATE : ℕ := 1036

/-- Offset in NV of the backing store of `s_indexOrderlyRam`. -/
def NV_INDEX_RAM_DATA : ℕ := 4508

/-- Offset in NV of the dynamic area. -/
def NV_USER_DYNAMIC : ℕ := 5020

/-- `sizeof(NV_INDEX)`. -/
def NV_INDEX_SIZE : ℕ := 148

/-- `sizeof(OBJECT)`. -/
def OBJECT_SIZE : ℕ := 2184

/-- `sizeof(NV_RAM_HEADER)`: size, handle and attributes. -/
def NV_RAM_HEADER_SIZE : ℕ := 12

/-- `sizeof(NV_LIST_TERMINATOR)`: a zero size word and the maximum counter. -/
def NV_LIST_TERMINATOR_SIZE : ℕ := 12

/-- `NV_EVICT_OBJECT_SIZE`: size word, handle and `OBJECT`. -/
def NV_EVICT_OBJECT_SIZE : ℕ := 4 + 4 + OBJECT_SIZE

/-- `NV_INDEX_COUNTER_SIZE`: size word, `NV_INDEX` and the eight bytes of data. -/
def NV_INDEX_COUNTER_SIZE : ℕ := 4 + NV_INDEX_SIZE + 8

/-- `MIN_EVICT_OBJECTS`. -/
def MIN_EVICT_OBJECTS : ℕ := 7

/-- `MIN_COUNTER_INDICES`. -/
def MIN_COUNTER_INDICES : ℕ := 8

/-- `MAX_NV_INDEX_SIZE`, the largest `dataSize` that unmarshals. -/
def MAX_NV_INDEX_SIZE : ℕ := 2048

/-- `MAX_NV_BUFFER_SIZE`. -/
def MAX_NV_BUFFER_SIZE : ℕ := 1024

/-- `sizeof(TPMU_HA)`, the size of the largest digest. -/
def MAX_DIGEST_SIZE : ℕ := 64

/-- `HASH_COUNT`: SHA-1 and the three members of SHA-2. -/
def HASH_COUNT : ℕ := 4

/-- `PCR_SELECT_MAX`, and `PCR_SELECT_MIN` as well. -/
def PCR_SELECT_MAX : ℕ := 3

/-- `MAX_RSA_KEY_BYTES`. -/
def MAX_RSA_KEY_BYTES : ℕ := 512

/-- `RSA_PRIVATE_SIZE`. -/
def RSA_PRIVATE_SIZE : ℕ := 1280

/-- `MAX_ORDERLY_COUNT`: the low-order bits of an orderly counter kept in RAM only. -/
def MAX_ORDERLY_COUNT : UInt64 := 255

/-! ## Response codes -/

def TPM_RC_NV_SPACE : TpmRc := 0x14B
def TPM_RC_NO_RESULT : TpmRc := 0x154
def TPM_RC_ATTRIBUTES : TpmRc := 0x82
def TPM_RC_HASH : TpmRc := 0x83
def TPM_RC_VALUE : TpmRc := 0x84
def TPM_RC_HIERARCHY : TpmRc := 0x85
def TPM_RC_MODE : TpmRc := 0x89
def TPM_RC_TYPE : TpmRc := 0x8A
def TPM_RC_HANDLE : TpmRc := 0x8B
def TPM_RC_RANGE : TpmRc := 0x8D
def TPM_RC_SCHEME : TpmRc := 0x92
def TPM_RC_SIZE : TpmRc := 0x95
def TPM_RC_SYMMETRIC : TpmRc := 0x96
def TPM_RC_INSUFFICIENT : TpmRc := 0x9A
def TPM_RC_KEY : TpmRc := 0x9C
def TPM_RC_RESERVED_BITS : TpmRc := 0xA1
def TPM_RC_NV_UNAVAILABLE : TpmRc := 0x923

/-! ## Handles -/

/-- A `TPM_HANDLE`. -/
abbrev TpmHandle := UInt32

/-- `HandleGetType()`: the top byte of a handle. -/
def handleGetType (handle : TpmHandle) : ℕ := handle.toNat / 2 ^ 24

def TPM_HT_NV_INDEX : ℕ := 0x01
def TPM_HT_EXTERNAL_NV : ℕ := 0x11
def TPM_HT_PERMANENT_NV : ℕ := 0x12
def TPM_HT_PERSISTENT : ℕ := 0x81

def TPM_RH_OWNER : TpmHandle := 0x40000001
def TPM_RH_ENDORSEMENT : TpmHandle := 0x4000000B
def TPM_RH_PLATFORM : TpmHandle := 0x4000000C
def TPM_RH_UNASSIGNED : TpmHandle := 0x40000008

/-! ## Index attributes -/

/-- A `TPMA_NV`.  The build does not use bit fields, so it is a 32-bit word. -/
abbrev TpmaNv := BitVec 32

namespace TpmaNv

def AUTHWRITE : ℕ := 2
def POLICYWRITE : ℕ := 3
def WRITELOCKED : ℕ := 11
def WRITEDEFINE : ℕ := 13
def AUTHREAD : ℕ := 18
def POLICYREAD : ℕ := 19
def NO_DA : ℕ := 25
def ORDERLY : ℕ := 26
def CLEAR_STCLEAR : ℕ := 27
def READLOCKED : ℕ := 28
def WRITTEN : ℕ := 29
def PLATFORMCREATE : ℕ := 30
/-- `IS_ATTRIBUTE(a, TPMA_NV, bit)`. -/
def isSet (a : TpmaNv) (bit : ℕ) : Bool := a.getLsbD bit

/-- `SET_ATTRIBUTE(a, TPMA_NV, bit)`. -/
def set (a : TpmaNv) (bit : ℕ) : TpmaNv := a ||| BitVec.twoPow 32 bit

/-- `CLEAR_ATTRIBUTE(a, TPMA_NV, bit)`. -/
def clear (a : TpmaNv) (bit : ℕ) : TpmaNv := a &&& ~~~ BitVec.twoPow 32 bit

/-- `GET_TPM_NT(a)`: the index type, bits 4 to 7. -/
def getTpmNt (a : TpmaNv) : BitVec 4 := a.extractLsb' 4 4

end TpmaNv

def isNvCounterIndex (a : TpmaNv) : Bool := a.getTpmNt == 1
def isNvPinFailIndex (a : TpmaNv) : Bool := a.getTpmNt == 8
def isNvPinPassIndex (a : TpmaNv) : Bool := a.getTpmNt == 9

/-! ## Records stored in NV -/

/-- A `TPM2B` with a 64-byte buffer (`TPM2B_DIGEST`, `TPM2B_AUTH`).  The whole
buffer is stored, whatever `size` says. -/
structure Tpm2b where
  size : UInt16
  buffer : Bytes
  length_buffer : buffer.length = 64

/-- A `TPMS_NV_PUBLIC`. -/
structure TpmsNvPublic where
  nvIndex : TpmHandle
  nameAlg : UInt16
  attributes : TpmaNv
  authPolicy : Tpm2b
  dataSize : UInt16

/-- An `NV_INDEX`. -/
structure NvIndex where
  publicArea : TpmsNvPublic
  authValue : Tpm2b

/-- An `OBJECT`.  The NV code reads its attributes and writes its evict handle;
everything else is carried as bytes. -/
structure Object where
  attributes : BitVec 32
  body : Bytes
  evictHandle : TpmHandle
  tail : Bytes
  length_body : body.length = 2100
  length_tail : tail.length = 76

/-- `OBJECT_ATTRIBUTES` bit `epsHierarchy`. -/
def EPS_HIERARCHY : ℕ := 1

/-- `OBJECT_ATTRIBUTES` bit `ppsHierarchy`. -/
def PPS_HIERARCHY : ℕ := 2

/-- `OBJECT_ATTRIBUTES` bit `spsHierarchy`. -/
def SPS_HIERARCHY : ℕ := 3

/-- `OBJECT_ATTRIBUTES` bit `evict`. -/
def EVICT : ℕ := 4

namespace Tpm2b

/-- The bytes of a `TPM2B` as the structure is stored. -/
def toBytes (b : Tpm2b) : Bytes := leBytes 2 b.size.toNat ++ b.buffer

/-- The `TPM2B` stored at an address. -/
def load (m : Mem) (a : ℕ) : Tpm2b where
  size := UInt16.ofNat (m.le a 2)
  buffer := m.read (a + 2) 64
  length_buffer := by simp

@[simp]
lemma length_toBytes (b : Tpm2b) : b.toBytes.length = 66 := by
  simp [toBytes, b.length_buffer]

lemma load_of_hasAt {m : Mem} {a : ℕ} {b : Tpm2b} (h : m.HasAt a b.toBytes) :
    load m a = b := by
  simp only [toBytes, Mem.hasAt_append, length_leBytes] at h
  obtain ⟨hsize, hbuf⟩ := h
  have hs : UInt16.ofNat (m.le a 2) = b.size := by
    rw [hsize.le b.size.toNat_lt, UInt16.ofNat_toNat]
  have hb : m.read (a + 2) 64 = b.buffer := hbuf.read' b.length_buffer.symm
  simp only [load, hs, hb]

end Tpm2b

namespace NvIndex

/-- The bytes before the attributes of an `NV_INDEX`. -/
def headBytes (x : NvIndex) : Bytes :=
  leBytes 4 x.publicArea.nvIndex.toNat ++ leBytes 2 x.publicArea.nameAlg.toNat ++ [0, 0]

/-- The bytes after the attributes and before the authorization value. -/
def midBytes (x : NvIndex) : Bytes :=
  x.publicArea.authPolicy.toBytes ++ leBytes 2 x.publicArea.dataSize.toNat

/-- The bytes of an `NV_INDEX` as the structure is stored. -/
def toBytes (x : NvIndex) : Bytes :=
  x.headBytes ++ leBytes 4 x.publicArea.attributes.toNat ++ x.midBytes ++
    x.authValue.toBytes ++ [0, 0]

/-- The `NV_INDEX` stored at an address. -/
def load (m : Mem) (a : ℕ) : NvIndex where
  publicArea :=
    { nvIndex := UInt32.ofNat (m.le a 4)
      nameAlg := UInt16.ofNat (m.le (a + 4) 2)
      attributes := BitVec.ofNat 32 (m.le (a + 8) 4)
      authPolicy := Tpm2b.load m (a + 12)
      dataSize := UInt16.ofNat (m.le (a + 78) 2) }
  authValue := Tpm2b.load m (a + 80)

@[simp]
lemma length_headBytes (x : NvIndex) : x.headBytes.length = 8 := by
  simp [headBytes]

@[simp]
lemma length_midBytes (x : NvIndex) : x.midBytes.length = 68 := by
  simp [midBytes]

@[simp]
lemma length_toBytes (x : NvIndex) : x.toBytes.length = NV_INDEX_SIZE := by
  simp [toBytes, NV_INDEX_SIZE]

lemma load_of_hasAt {m : Mem} {a : ℕ} {x : NvIndex} (h : m.HasAt a x.toBytes) :
    load m a = x := by
  simp only [toBytes, headBytes, midBytes, Mem.hasAt_append, length_leBytes,
    List.length_append, List.length_cons, List.length_nil, Tpm2b.length_toBytes,
    Nat.reduceAdd] at h
  obtain ⟨⟨⟨⟨⟨⟨hidx, halg⟩, -⟩, hattr⟩, hpol, hsize⟩, hauth⟩, -⟩ := h
  have h1 : UInt32.ofNat (m.le a 4) = x.publicArea.nvIndex := by
    rw [hidx.le x.publicArea.nvIndex.toNat_lt, UInt32.ofNat_toNat]
  have h2 : UInt16.ofNat (m.le (a + 4) 2) = x.publicArea.nameAlg := by
    rw [halg.le x.publicArea.nameAlg.toNat_lt, UInt16.ofNat_toNat]
  have h3 : BitVec.ofNat 32 (m.le (a + 8) 4) = x.publicArea.attributes := by
    rw [hattr.le x.publicArea.attributes.isLt, BitVec.ofNat_toNat, BitVec.setWidth_eq]
  have h4 : UInt16.ofNat (m.le (a + 78) 2) = x.publicArea.dataSize := by
    rw [hsize.le x.publicArea.dataSize.toNat_lt, UInt16.ofNat_toNat]
  simp only [load, h1, h2, h3, h4, Tpm2b.load_of_hasAt hpol, Tpm2b.load_of_hasAt hauth]

/-- The description with other attributes. -/
def withAttributes (x : NvIndex) (attributes : TpmaNv) : NvIndex :=
  { x with publicArea := { x.publicArea with attributes } }

end NvIndex

namespace Object

/-- The bytes of an `OBJECT` as the structure is stored. -/
def toBytes (o : Object) : Bytes :=
  leBytes 4 o.attributes.toNat ++ o.body ++ leBytes 4 o.evictHandle.toNat ++ o.tail

@[simp]
lemma length_toBytes (o : Object) : o.toBytes.length = OBJECT_SIZE := by
  simp [toBytes, o.length_body, o.length_tail, OBJECT_SIZE]

end Object

/-! ## The state -/

/-- `UPDATE_TYPE`, the kind of NV update a command has asked for: `UT_NONE` is 0,
`UT_NV` is 1 and `UT_ORDERLY` is 3, so the bitwise or of two of them is the later
one in this order. -/
inductive UpdateType where
  | none
  | nv
  | orderly
  deriving DecidableEq

/-- The bitwise or of two update types. -/
def UpdateType.lor : UpdateType → UpdateType → UpdateType
  | .orderly, _ => .orderly
  | _, .orderly => .orderly
  | .nv, _ => .nv
  | _, .nv => .nv
  | .none, .none => .none

/-- The variables of the NV subsystem, and those of the others that its functions and
their callers look at. -/
structure Nv extends Globals Mem UpdateType where
  /-- `s_indexOrderlyRam`. -/
  indexOrderlyRam : Mem
  /-- `s_maxCounter`. -/
  maxCounter : UInt64
  /-- `s_evictNvEnd`. -/
  evictNvEnd : ℕ
  /-- `s_cachedNvIndex`. -/
  cachedNvIndex : NvIndex
  /-- `s_cachedNvRef`. -/
  cachedNvRef : ℕ
  /-- `s_cachedNvRamRef`, an offset into `s_indexOrderlyRam`; `none` is `NULL`. -/
  cachedNvRamRef : Option ℕ
  /-- `gp.orderlyState`. -/
  orderlyState : UInt16
  /-- `g_prevOrderlyState`. -/
  prevOrderlyState : UInt16
  /-- `gc.shEnable`. -/
  shEnable : Bool
  /-- `gc.phEnableNV`. -/
  phEnableNv : Bool

namespace Nv

/-- Replace the NV image. -/
def setNv (s : Nv) (nv : Mem) : Nv := { s with nv }

/-- Replace the orderly RAM. -/
def setRam (s : Nv) (ram : Mem) : Nv := { s with indexOrderlyRam := ram }

/-- Enter failure mode. -/
def failed (s : Nv) : Nv := { s with toGlobals := s.toGlobals.fail }

/-- Add to the NV update requested. -/
def requestUpdate (s : Nv) (type : UpdateType) : Nv :=
  { s with updateNv := s.updateNv.lor type }

/-- A device before manufacture: NV is erased and every variable has the value static
storage starts with. -/
def erased : Nv where
  toGlobals := Globals.powerOn .none false true fun _ => 0xFF
  indexOrderlyRam := fun _ => 0
  maxCounter := 0
  evictNvEnd := 0
  cachedNvIndex := NvIndex.load (fun _ => 0) 0
  cachedNvRef := 0
  cachedNvRamRef := none
  orderlyState := 0
  prevOrderlyState := 0
  shEnable := false
  phEnableNv := false

end Nv

/-- A procedure of the NV subsystem. -/
def NvM (α : Type) := Nv → α × Nv

instance : Monad NvM where
  pure a := fun s => (a, s)
  bind x f := fun s => f (x s).1 (x s).2

namespace NvM

/-- Run `x` only if `c`. -/
def when (c : Bool) (x : NvM Unit) : NvM Unit := if c then x else pure ()

/-- Change the state. -/
def modify (f : Nv → Nv) : NvM Unit := fun s => ((), f s)

/-- Change the variables that every part has. -/
def modifyGlobals (f : Globals Mem UpdateType → Globals Mem UpdateType) : NvM Unit :=
  modify fun s => { s with toGlobals := f s.toGlobals }

/-- Read a value off the state. -/
def gets {α : Type} (f : Nv → α) : NvM α := fun s => (f s, s)

variable {α β : Type}

@[simp]
lemma pure_apply (a : α) (s : Nv) : (pure a : NvM α) s = (a, s) := rfl

@[simp]
lemma bind_apply (x : NvM α) (f : α → NvM β) (s : Nv) :
    (x >>= f) s = f (x s).1 (x s).2 := rfl

@[simp]
lemma modify_apply (f : Nv → Nv) (s : Nv) : modify f s = ((), f s) := rfl

@[simp]
lemma modifyGlobals_apply (f : Globals Mem UpdateType → Globals Mem UpdateType) (s : Nv) :
    modifyGlobals f s = ((), { s with toGlobals := f s.toGlobals }) := rfl

@[simp]
lemma gets_apply (f : Nv → α) (s : Nv) : gets f s = (f s, s) := rfl

@[simp]
lemma when_true (x : NvM Unit) : when true x = x := rfl

@[simp]
lemma when_false (x : NvM Unit) : when false x = pure () := rfl

end NvM

/-- `FAIL(...)`: record failure mode and go on. -/
def fail : NvM Unit := NvM.modify Nv.failed

/-- `pAssert(cond)`. -/
def pAssert (cond : Bool) : NvM Unit := NvM.when (!cond) fail

@[simp]
lemma pAssert_true : pAssert true = pure () := rfl

@[simp]
lemma pAssert_false : pAssert false = fail := rfl

/-- `SET_NV_UPDATE(type)`. -/
def setNvUpdate (type : UpdateType) : NvM Unit :=
  NvM.modify fun s => s.requestUpdate type

end RfTpm
