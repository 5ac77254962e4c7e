import RfTpm.Nv.State

/-!
# The two lists of the NV code

The NV image holds, from `NV_USER_DYNAMIC` on, a packed list of the defined
indices and persistent objects.  Every entry starts with its size; an index entry
goes on with its `NV_INDEX` and, unless the index is orderly, its data; a
persistent object's entry goes on with its handle and its `OBJECT`.  The list ends
with a zero size word followed by the maximum counter value.

The data and attributes of the orderly indices are in a second packed list, in the
RAM buffer `s_indexOrderlyRam`.  That list ends with a zero size word or where no
header fits any more.
-/

namespace RfTpm

open Bytes Packed

/-! ## NV memory -/

/-- `_plat__NvMemoryRead()`.  Out of range nothing is copied; the caller's buffer
is then modelled as zeros. -/
def platNvMemoryRead (startOffset size : ℕ) : NvM Bytes :=
  NvM.gets fun s =>
    if startOffset + size ≤ NV_MEMORY_SIZE then s.nv.read startOffset size
    else List.replicate size 0

/-- `_plat__NvMemoryWrite()`. -/
def platNvMemoryWrite (startOffset : ℕ) (data : Bytes) : NvM Bool := do
  if startOffset + data.length ≤ NV_MEMORY_SIZE then
    NvM.modify fun s => s.setNv (s.nv.write startOffset data)
    pure true
  else
    pure false

/-- `_plat__NvMemoryClear()`: the erased state of NV is all ones. -/
def platNvMemoryClear (startOffset size : ℕ) : NvM Bool := do
  if startOffset + size ≤ NV_MEMORY_SIZE then
    NvM.modify fun s => s.setNv (s.nv.fill startOffset size 0xFF)
    pure true
  else
    pure false

/-- `_plat__NvMemoryMove()`. -/
def platNvMemoryMove (sourceOffset destOffset size : ℕ) : NvM Bool := do
  if sourceOffset + size ≤ NV_MEMORY_SIZE ∧ destOffset + size ≤ NV_MEMORY_SIZE then
    NvM.modify fun s => s.setNv (s.nv.move sourceOffset destOffset size)
    pure true
  else
    pure false

/-- `NvRead()`.  The asserted bound is strict. -/
def nvRead (nvOffset size : ℕ) : NvM Bytes := do
  pAssert (nvOffset + size < NV_MEMORY_SIZE)
  platNvMemoryRead nvOffset size

/-- `NvWrite()`. -/
def nvWrite (nvOffset : ℕ) (inBuffer : Bytes) : NvM Bool := do
  if nvOffset + inBuffer.length ≤ NV_MEMORY_SIZE then
    setNvUpdate .nv
    platNvMemoryWrite nvOffset inBuffer
  else
    pure false

/-! ## The dynamic area -/

/-- What `NvNext()` returns: the address of an entry's handle, and the handle. -/
structure NvNode where
  addr : ℕ
  handle : TpmHandle
  deriving DecidableEq

/-- `NvNext()`: the entry at the iterator and the advanced iterator, or `none` at
the end of the list. -/
def nvNext (iter : ℕ) : NvM (Option (NvNode × ℕ)) := do
  let header ← nvRead iter 8
  let size := leVal (header.take 4)
  if size = 0 then
    pure none
  else
    pure (some (⟨iter + 4, UInt32.ofNat (leVal (header.drop 4))⟩, iter + size))

/-- `NvNextByType()`. -/
def nvNextByType (type : ℕ) (iter : ℕ) : NvM (Option (NvNode × ℕ)) :=
  Iter.filter nvNext (fun node => handleGetType node.handle == type) NV_MEMORY_SIZE iter

/-- `NvNextIndex()`. -/
def nvNextIndex (iter : ℕ) : NvM (Option (NvNode × ℕ)) := nvNextByType TPM_HT_NV_INDEX iter

/-- `NvNextEvict()`. -/
def nvNextEvict (iter : ℕ) : NvM (Option (NvNode × ℕ)) := nvNextByType TPM_HT_PERSISTENT iter

/-- `while((addr = NvNext(&iter, &handle)) != 0) if(p) break;` from the beginning of
the list: the entry found, and the iterator. -/
def nvSearch (p : NvNode → Bool) : NvM (Option NvNode × ℕ) :=
  walk nvNext p NV_MEMORY_SIZE NV_USER_DYNAMIC

/-- `while((addr = next(&handle, &iter)) != 0) body;` from the beginning of the list. -/
def nvForEach {α : Type} (next : ℕ → NvM (Option (NvNode × ℕ)))
    (body : NvNode → α → NvM (α × Bool)) (x : α) : NvM α :=
  loop next body NV_MEMORY_SIZE NV_USER_DYNAMIC x

/-- `NvGetEnd()`. -/
def nvGetEnd : NvM ℕ := do
  let r ← nvSearch fun _ => false
  pure r.2

/-- `NvGetFreeBytes()`. -/
def nvGetFreeBytes : NvM ℕ := do
  let listEnd ← nvGetEnd
  let evictNvEnd ← NvM.gets (·.evictNvEnd)
  pure (evictNvEnd - listEnd)

/-- `NvFindHandle()`: the address of the entity's handle, 0 if there is none. -/
def nvFindHandle (handle : TpmHandle) : NvM ℕ := do
  let r ← nvSearch fun node => node.handle == handle
  match r.1 with
  | some node => pure node.addr
  | none => pure 0

/-- `NvReadNvIndexAttributes()`. -/
def nvReadNvIndexAttributes (locator : ℕ) : NvM TpmaNv := do
  let bytes ← nvRead (locator + 8) 4
  pure (BitVec.ofNat 32 (leVal bytes))

/-- `NvCapGetPersistentNumber()`. -/
def nvCapGetPersistentNumber : NvM ℕ :=
  nvForEach nvNextEvict (fun _ num => pure (num + 1, true)) 0

/-- The loop body of `NvCapGetCounterNumber()`. -/
def countCounter (node : NvNode) (num : ℕ) : NvM (ℕ × Bool) := do
  let attributes ← nvReadNvIndexAttributes node.addr
  pure (if isNvCounterIndex attributes then num + 1 else num, true)

/-- `NvCapGetCounterNumber()`. -/
def nvCapGetCounterNumber : NvM ℕ :=
  nvForEach nvNextIndex countCounter 0

/-- One of the two reservations of `NvTestSpace()`: room for the entities missing to
the required number. -/
def reserveFor (needed : Bool) (count : NvM ℕ) (required size reserved : ℕ) : NvM ℕ := do
  if needed then do
    let num ← count
    pure (if num < required then reserved + (required - num) * size else reserved)
  else
    pure reserved

/-- `NvTestSpace()`. -/
def nvTestSpace (size : ℕ) (isIndex isCounter : Bool) : NvM Bool := do
  let remainBytes ← nvGetFreeBytes
  let reserved := 4 + NV_LIST_TERMINATOR_SIZE
  let reserved ← reserveFor isIndex nvCapGetPersistentNumber MIN_EVICT_OBJECTS
    NV_EVICT_OBJECT_SIZE reserved
  let reserved ← reserveFor (!isIndex || !isCounter) nvCapGetCounterNumber MIN_COUNTER_INDICES
    NV_INDEX_COUNTER_SIZE reserved
  pure (reserved < remainBytes && size ≤ remainBytes && size + reserved ≤ remainBytes)

/-- `NvWriteNvListEnd()`. -/
def nvWriteNvListEnd (listEnd : ℕ) : NvM ℕ := do
  let maxCount ← NvM.gets (·.maxCounter)
  let evictNvEnd ← NvM.gets (·.evictNvEnd)
  pAssert (listEnd + NV_LIST_TERMINATOR_SIZE ≤ evictNvEnd)
  let _ ← nvWrite listEnd (leBytes 4 0 ++ leBytes 8 maxCount.toNat)
  pure (listEnd + NV_LIST_TERMINATOR_SIZE)

/-- The part of `NvAdd()` that writes the handle of an entity that has one of its
own, and steps over it. -/
def nvAddHandle (nextAddr : ℕ) (handle : TpmHandle) : NvM ℕ := do
  if handle ≠ TPM_RH_UNASSIGNED then do
    let _ ← nvWrite nextAddr (leBytes 4 handle.toNat)
    pure (nextAddr + 4)
  else
    pure nextAddr

/-- `NvAdd()`.  `entity` is the initial buffer, of `bufferSize` bytes. -/
def nvAdd (totalSize : ℕ) (handle : TpmHandle) (entity : Bytes) : NvM TpmRc := do
  let nvStatus ← NvM.gets (·.nvStatus)
  if nvStatus ≠ TPM_RC_SUCCESS then
    pure nvStatus
  else do
    let newAddr ← nvGetEnd
    -- step over the forward pointer
    let nextAddr ← nvAddHandle (newAddr + 4) handle
    let _ ← nvWrite nextAddr entity
    let nextAddr := nextAddr + totalSize
    let _ ← nvWrite newAddr (leBytes 4 (nextAddr - newAddr))
    let _ ← nvWriteNvListEnd nextAddr
    pure TPM_RC_SUCCESS

/-- The part of `NvDelete()` that moves the entries after the deleted one down. -/
def nvCloseGap (nextAddr entryRef endRef : ℕ) : NvM Unit :=
  NvM.when (nextAddr < endRef) do
    pAssert (entryRef < nextAddr)
    let _ ← platNvMemoryMove nextAddr entryRef (endRef - nextAddr)
    pure ()

/-- `NvDelete()`. -/
def nvDelete (entityRef : ℕ) : NvM TpmRc := do
  let entryRef := entityRef - 4
  let endRef ← nvGetEnd
  let nvStatus ← NvM.gets (·.nvStatus)
  if nvStatus ≠ TPM_RC_SUCCESS then
    pure nvStatus
  else do
    let bytes ← nvRead entryRef 4
    let entrySize := leVal bytes
    nvCloseGap (entryRef + entrySize) entryRef endRef
    let endRef ← nvWriteNvListEnd (endRef - entrySize)
    let _ ← platNvMemoryClear endRef entrySize
    pure TPM_RC_SUCCESS

/-! ## The orderly RAM -/

/-- `NvRamNext()`: an entry is returned by its address, where its header is. -/
def nvRamNext (iter : ℕ) : NvM (Option (NvNode × ℕ)) := do
  let ram ← NvM.gets (·.indexOrderlyRam)
  if iter + NV_RAM_HEADER_SIZE > RAM_INDEX_SPACE then
    pure none
  else if ram.le iter 4 = 0 then
    pure none
  else
    pure (some (⟨iter, UInt32.ofNat (ram.le (iter + 4) 4)⟩, iter + ram.le iter 4))

/-- `while((addr = NvRamNext(&iter, &handle)) != 0) if(p) break;` -/
def nvRamSearch (p : NvNode → Bool) : NvM (Option NvNode × ℕ) :=
  walk nvRamNext p RAM_INDEX_SPACE 0

/-- `while((addr = NvRamNext(&iter, NULL)) != 0) body;` -/
def nvRamForEach (body : NvNode → Unit → NvM (Unit × Bool)) : NvM Unit :=
  loop nvRamNext body RAM_INDEX_SPACE 0 ()

/-- `NvRamGetEnd()`. -/
def nvRamGetEnd : NvM ℕ := do
  let r ← nvRamSearch fun _ => false
  pure r.2

/-- `NvRamTestSpaceIndex()`. -/
def nvRamTestSpaceIndex (size : ℕ) : NvM Bool := do
  let listEnd ← nvRamGetEnd
  pure (NV_RAM_HEADER_SIZE + size ≤ RAM_INDEX_SPACE - listEnd)

/-- `NvRamGetIndex()`. -/
def nvRamGetIndex (handle : TpmHandle) : NvM (Option ℕ) := do
  let r ← nvRamSearch fun node => node.handle == handle
  pure (r.1.map (·.addr))

/-- `NvUpdateIndexOrderlyData()`. -/
def nvUpdateIndexOrderlyData : NvM Unit := do
  let ram ← NvM.gets (·.indexOrderlyRam)
  let _ ← nvWrite NV_INDEX_RAM_DATA (ram.read 0 RAM_INDEX_SPACE)

/-- `MemoryCopy()` into `s_indexOrderlyRam`. -/
def ramWrite (addr : ℕ) (bytes : Bytes) : NvM Unit :=
  NvM.modify fun s => s.setRam (s.indexOrderlyRam.write addr bytes)

/-- `MemorySet()` to zero in `s_indexOrderlyRam`. -/
def ramClear (addr size : ℕ) : NvM Unit :=
  NvM.modify fun s => s.setRam (s.indexOrderlyRam.fill addr size 0)

/-- `NvAddRAM()`. -/
def nvAddRam (index : TpmsNvPublic) : NvM Unit := do
  let listEnd ← nvRamGetEnd
  let size := NV_RAM_HEADER_SIZE + index.dataSize.toNat
  -- ORDERLY_RAM_ADDRESS_OK
  pAssert (listEnd + size - 1 < RAM_INDEX_SPACE)
  ramWrite listEnd (leBytes 4 size ++ leBytes 4 index.nvIndex.toNat ++
    leBytes 4 index.attributes.toNat)
  ramClear (listEnd + NV_RAM_HEADER_SIZE) index.dataSize.toNat
  let listEnd := listEnd + size
  NvM.when (listEnd + 4 < RAM_INDEX_SPACE) (ramClear listEnd 4)
  setNvUpdate .orderly

/-- `NvDeleteRAM()`.  With no entry for the handle the C code goes on with a null
pointer; the model stops after the assertion. -/
def nvDeleteRam (handle : TpmHandle) : NvM Unit := do
  let lastUsed ← nvRamGetEnd
  let found ← nvRamGetIndex handle
  match found with
  | none => fail
  | some nodeAddress => do
      let ram ← NvM.gets (·.indexOrderlyRam)
      let size := ram.le nodeAddress 4
      let nextNode := nodeAddress + size
      NvM.modify fun s =>
        s.setRam (s.indexOrderlyRam.move nextNode nodeAddress (lastUsed - nextNode))
      ramClear (lastUsed - size) size
      setNvUpdate .orderly

/-- `MemoryCopy()` to an offset from an entry of `s_indexOrderlyRam`.  Writing through
a null reference is modelled as writing nothing. -/
def ramRefWrite (ref : Option ℕ) (offset : ℕ) (bytes : Bytes) : NvM Unit :=
  match ref with
  | some addr => ramWrite (addr + offset) bytes
  | none => pure ()

/-- `NvReadRamIndexAttributes()`.  Reading through a null reference is modelled as
reading zero. -/
def nvReadRamIndexAttributes (ref : Option ℕ) : NvM TpmaNv :=
  match ref with
  | some addr => NvM.gets fun s => BitVec.ofNat 32 (s.indexOrderlyRam.le (addr + 8) 4)
  | none => pure 0

/-- `NvWriteRamIndexAttributes()`. -/
def nvWriteRamIndexAttributes (ref : Option ℕ) (attributes : TpmaNv) : NvM Unit :=
  ramRefWrite ref 8 (leBytes 4 attributes.toNat)

/-! ## The maximum counter -/

/-- `NvUpdateMaxCount()`. -/
def nvUpdateMaxCount (count : UInt64) : NvM Unit :=
  NvM.modify fun s => if count > s.maxCounter then { s with maxCounter := count } else s

/-- `NvSetMaxCount()`. -/
def nvSetMaxCount (value : UInt64) : NvM Unit :=
  NvM.modify fun s => { s with maxCounter := value }

/-- `NvGetMaxCount()`. -/
def nvGetMaxCount : NvM UInt64 := do
  let r ← nvSearch fun _ => false
  let bytes ← nvRead (r.2 + 4) 8
  pure (UInt64.ofNat (leVal bytes))

end RfTpm
