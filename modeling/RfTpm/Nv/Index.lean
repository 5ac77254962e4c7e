import RfTpm.Nv.Dynamic

/-!
# NV indices and persistent objects

The functions of the NV code that commands call: defining and deleting indices and
persistent objects, flushing a hierarchy, reading and writing the data and
attributes of an index, and what is done to the indices at startup.

An index is looked up once per command, into the cache `s_cachedNvIndex`, and
commands hold a pointer to that cache.  A function that changes the description
through such a pointer therefore changes `cachedNvIndex` here.  For an orderly
index the cached attributes come from RAM: those in NV are the ones the index was
defined with.
-/

namespace RfTpm

open Bytes TpmaNv

/-! ## Reading an index -/

/-- `NvConditionallyWrite()`: write only what differs, and only if NV is available. -/
def nvConditionallyWrite (entryAddr : ℕ) (data : Bytes) : NvM TpmRc := do
  let nv ← NvM.gets (·.nv)
  if entryAddr + data.length ≤ NV_MEMORY_SIZE then
    if nv.read entryAddr data.length ≠ data then do
      let nvStatus ← NvM.gets (·.nvStatus)
      if nvStatus = TPM_RC_SUCCESS then do
        let _ ← nvWrite entryAddr data
        pure nvStatus
      else
        pure nvStatus
    else
      pure TPM_RC_SUCCESS
  else
    pure TPM_RC_FAILURE

/-- `NvReadNvIndexInfo()`. -/
def nvReadNvIndexInfo (ref : ℕ) : NvM NvIndex := do
  let bytes ← nvRead ref NV_INDEX_SIZE
  pure (NvIndex.load (Mem.ofList bytes) 0)

/-- `NvWriteNvIndexAttributes()`. -/
def nvWriteNvIndexAttributes (locator : ℕ) (attributes : TpmaNv) : NvM TpmRc :=
  nvConditionallyWrite (locator + 8) (leBytes 4 attributes.toNat)

/-- Set the cached description. -/
def setCachedNvIndex (nvIndex : NvIndex) : NvM Unit :=
  NvM.modify fun s => { s with cachedNvIndex := nvIndex }

/-- The cached description with its handle set to `TPM_RH_UNASSIGNED`. -/
def NvIndex.unassigned (x : NvIndex) : NvIndex :=
  { x with publicArea := { x.publicArea with nvIndex := TPM_RH_UNASSIGNED } }

/-- `NvIndexCacheInit()`. -/
def nvIndexCacheInit : NvM Unit :=
  NvM.modify fun s =>
    { s with
      cachedNvRef := 0xFFFFFFFF
      cachedNvRamRef := none
      cachedNvIndex := s.cachedNvIndex.unassigned }

/-- `NvGetIndexInfo()`: the cached description and its location, `none` if the
handle is not that of an entry. -/
def nvGetIndexInfo (nvHandle : TpmHandle) : NvM (Option (NvIndex × ℕ)) := do
  let cached ← NvM.gets (·.cachedNvIndex)
  if cached.publicArea.nvIndex ≠ nvHandle then do
    let ref ← nvFindHandle nvHandle
    NvM.modify fun s =>
      { s with
        cachedNvIndex := s.cachedNvIndex.unassigned
        cachedNvRamRef := none
        cachedNvRef := ref }
    if ref = 0 then
      pure none
    else do
      let nvIndex ← nvReadNvIndexInfo ref
      setCachedNvIndex nvIndex
      if nvIndex.publicArea.attributes.isSet ORDERLY then do
        let ramRef ← nvRamGetIndex nvHandle
        let attributes ← nvReadRamIndexAttributes ramRef
        NvM.modify fun s => { s with cachedNvRamRef := ramRef }
        setCachedNvIndex (nvIndex.withAttributes attributes)
        pure (some (nvIndex.withAttributes attributes, ref))
      else
        pure (some (nvIndex, ref))
  else do
    let ref ← NvM.gets (·.cachedNvRef)
    pure (some (cached, ref))

/-- `NvGetIndexData()`. -/
def nvGetIndexData (nvIndex : NvIndex) (locator offset size : ℕ) : NvM Bytes := do
  pAssert (nvIndex.publicArea.attributes.isSet WRITTEN)
  if nvIndex.publicArea.attributes.isSet ORDERLY then do
    let found ← nvRamGetIndex nvIndex.publicArea.nvIndex
    match found with
    | some ramAddr => do
        let ram ← NvM.gets (·.indexOrderlyRam)
        pAssert (size ≤ ram.le ramAddr 4 - NV_RAM_HEADER_SIZE - offset)
        pure (ram.read (ramAddr + NV_RAM_HEADER_SIZE + offset) size)
    | none => do
        fail
        pure (List.replicate size 0)
  else do
    let dataSize := nvIndex.publicArea.dataSize.toNat
    pAssert (offset ≤ dataSize && size ≤ dataSize - offset)
    nvRead (locator + NV_INDEX_SIZE + offset) size

/-- `NvGetUINT64Data()`: the value is kept big-endian. -/
def nvGetUint64Data (nvIndex : NvIndex) (locator : ℕ) : NvM UInt64 := do
  let bytes ← nvGetIndexData nvIndex locator 0 8
  pure (UInt64.ofNat (beVal bytes))

/-! ## Adding and deleting -/

/-- The `UINT16 entrySize` of `NvDefineIndex()`. -/
def defineEntrySize (publicArea : TpmsNvPublic) : ℕ :=
  if publicArea.attributes.isSet ORDERLY then NV_INDEX_SIZE
  else (NV_INDEX_SIZE + publicArea.dataSize.toNat) % 2 ^ 16

/-- The RAM space check of `NvDefineIndex()`, made for an orderly index only. -/
def defineRamFits (publicArea : TpmsNvPublic) : NvM Bool :=
  if publicArea.attributes.isSet ORDERLY then nvRamTestSpaceIndex publicArea.dataSize.toNat
  else pure true

/-- `NvDefineIndex()`. -/
def nvDefineIndex (publicArea : TpmsNvPublic) (authValue : Tpm2b) : NvM TpmRc := do
  let entrySize := defineEntrySize publicArea
  let fits ← nvTestSpace entrySize true (isNvCounterIndex publicArea.attributes)
  if !fits then
    pure TPM_RC_NV_SPACE
  else do
    let ramFits ← defineRamFits publicArea
    if !ramFits then
      pure TPM_RC_NV_SPACE
    else do
      let result ← nvAdd entrySize TPM_RH_UNASSIGNED (NvIndex.toBytes ⟨publicArea, authValue⟩)
      NvM.when (result == TPM_RC_SUCCESS && publicArea.attributes.isSet ORDERLY)
        (nvAddRam publicArea)
      pure result

/-- The object as `NvAddEvictObject()` stores it. -/
def Object.evicted (object : Object) (evictHandle : TpmHandle) : Object :=
  { object with
    attributes := object.attributes ||| BitVec.twoPow 32 EVICT
    evictHandle }

/-- `NvAddEvictObject()`. -/
def nvAddEvictObject (evictHandle : TpmHandle) (object : Object) : NvM TpmRc := do
  let fits ← nvTestSpace (OBJECT_SIZE + 4) false false
  if !fits then
    pure TPM_RC_NV_SPACE
  else
    nvAdd OBJECT_SIZE evictHandle (object.evicted evictHandle).toBytes

/-- `NvDeleteIndex()`. -/
def nvDeleteIndex (nvIndex : NvIndex) (entityAddr : ℕ) : NvM TpmRc := do
  let attributes := nvIndex.publicArea.attributes
  -- a deleted counter raises the maximum counter
  NvM.when (isNvCounterIndex attributes && attributes.isSet WRITTEN) do
    let count ← nvGetUint64Data nvIndex entityAddr
    nvUpdateMaxCount count
  let result ← nvDelete entityAddr
  if result ≠ TPM_RC_SUCCESS then
    pure result
  else do
    NvM.when (attributes.isSet ORDERLY) (nvDeleteRam nvIndex.publicArea.nvIndex)
    nvIndexCacheInit
    pure TPM_RC_SUCCESS

/-- `NvDeleteEvict()`. -/
def nvDeleteEvict (handle : TpmHandle) : NvM TpmRc := do
  let entityAddr ← nvFindHandle handle
  if entityAddr ≠ 0 then nvDelete entityAddr else pure TPM_RC_SUCCESS

/-- What one turn of the loop of `NvFlushHierarchy()` does with an entry. -/
inductive FlushStep where
  | skip
  | deleted
  | stop (result : TpmRc)
  deriving DecidableEq

/-- The outcome of a turn that deletes an entry with the given result. -/
def FlushStep.ofResult (result : TpmRc) : FlushStep :=
  if result ≠ TPM_RC_SUCCESS then .stop result else .deleted

/-- The hierarchy bit of a persistent object that `NvFlushHierarchy()` tests. -/
def flushBit (hierarchy : TpmHandle) (attributes : BitVec 32) : Bool :=
  (hierarchy == TPM_RH_PLATFORM && attributes.getLsbD PPS_HIERARCHY) ||
    (hierarchy == TPM_RH_OWNER && attributes.getLsbD SPS_HIERARCHY) ||
    (hierarchy == TPM_RH_ENDORSEMENT && attributes.getLsbD EPS_HIERARCHY)

/-- The body of the loop of `NvFlushHierarchy()`.  The description of an index is
read straight from NV here, not through the cache. -/
def flushEntry (hierarchy : TpmHandle) (node : NvNode) : NvM FlushStep := do
  if handleGetType node.handle = TPM_HT_NV_INDEX then
    if hierarchy = TPM_RH_ENDORSEMENT ∨ hierarchy = TPM_RH_PLATFORM then
      pure .skip
    else do
      let nvIndex ← nvReadNvIndexInfo node.addr
      if !nvIndex.publicArea.attributes.isSet PLATFORMCREATE then do
        let result ← nvDeleteIndex nvIndex node.addr
        pure (FlushStep.ofResult result)
      else
        pure .skip
  else if handleGetType node.handle = TPM_HT_PERSISTENT then do
    let bytes ← nvRead (node.addr + 4) 4
    if flushBit hierarchy (BitVec.ofNat 32 (leVal bytes)) then do
      let result ← nvDelete node.addr
      pure (FlushStep.ofResult result)
    else
      pure .skip
  else do
    fail
    pure .skip

/-- The loop of `NvFlushHierarchy()`: after a deletion the list is walked again
from its beginning. -/
def flushLoop (hierarchy : TpmHandle) : ℕ → ℕ → NvM TpmRc
  | 0, _ => pure TPM_RC_SUCCESS
  | fuel + 1, iter => do
      let found ← nvNext iter
      match found with
      | none => pure TPM_RC_SUCCESS
      | some (node, iter) => do
          let step ← flushEntry hierarchy node
          match step with
          | .skip => flushLoop hierarchy fuel iter
          | .deleted => flushLoop hierarchy fuel NV_USER_DYNAMIC
          | .stop result => pure result

/-- `NvFlushHierarchy()`. -/
def nvFlushHierarchy (hierarchy : TpmHandle) : NvM TpmRc :=
  flushLoop hierarchy (NV_MEMORY_SIZE * NV_MEMORY_SIZE) NV_USER_DYNAMIC

/-! ## Locking and startup -/

/-- `STARTUP_TYPE`. -/
inductive StartupType where
  | reset
  | restart
  | resume
  deriving DecidableEq

/-- `NvSetStartupAttributes()`. -/
def nvSetStartupAttributes (attributes : TpmaNv) (type : StartupType) : TpmaNv :=
  let attributes := attributes.clear READLOCKED
  let attributes :=
    if !isNvCounterIndex attributes &&
        (attributes.isSet CLEAR_STCLEAR || attributes.isSet ORDERLY && type == .reset) then
      attributes.clear WRITTEN
    else
      attributes
  if !attributes.isSet WRITTEN || !attributes.isSet WRITEDEFINE then
    attributes.clear WRITELOCKED
  else
    attributes

/-- The first loop body of `NvEntityStartup()`. -/
def startupIndex (type : StartupType) (node : NvNode) (_ : Unit) : NvM (Unit × Bool) := do
  let attributes ← nvReadNvIndexAttributes node.addr
  -- orderly indices are left to the second loop
  if attributes.isSet ORDERLY then
    pure ((), true)
  else do
    let _ ← nvWriteNvIndexAttributes node.addr (nvSetStartupAttributes attributes type)
    pure ((), true)

/-- The second loop body of `NvEntityStartup()`. -/
def startupRam (type : StartupType) (node : NvNode) (_ : Unit) : NvM (Unit × Bool) := do
  let attributes ← nvReadRamIndexAttributes (some node.addr)
  let attributes := nvSetStartupAttributes attributes type
  nvWriteRamIndexAttributes (some node.addr) attributes
  let prevOrderlyState ← NvM.gets (·.prevOrderlyState)
  if isNvCounterIndex attributes && prevOrderlyState == SU_NONE_VALUE then do
    let ram ← NvM.gets (·.indexOrderlyRam)
    let counter := UInt64.ofNat (beVal (ram.read (node.addr + NV_RAM_HEADER_SIZE) 8))
    -- the counter may have advanced past the last value saved
    ramWrite (node.addr + NV_RAM_HEADER_SIZE) (beBytes 8 (counter ||| MAX_ORDERLY_COUNT).toNat)
    pure ((), true)
  else
    pure ((), true)

/-- `NvEntityStartup()`. -/
def nvEntityStartup (type : StartupType) : NvM Bool := do
  let backup ← nvRead NV_INDEX_RAM_DATA RAM_INDEX_SPACE
  ramWrite 0 backup
  let maxCount ← nvGetMaxCount
  nvSetMaxCount maxCount
  if type = .resume then
    pure true
  else do
    nvForEach nvNextIndex (startupIndex type) ()
    nvRamForEach (startupRam type)
    pure true

/-- `NvManufacture()`.  NV is erased first only in a simulation, which this build is
not, so the image keeps whatever it held elsewhere. -/
def nvManufacture : NvM Unit := do
  NvM.modify fun s => { s with evictNvEnd := NV_MEMORY_SIZE }
  ramClear 0 RAM_INDEX_SPACE
  nvUpdateIndexOrderlyData
  nvSetMaxCount 0
  let _ ← nvWriteNvListEnd NV_USER_DYNAMIC

end RfTpm
