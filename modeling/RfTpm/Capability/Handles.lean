import RfTpm.Auth.Condition
import RfTpm.Pcr.State
import RfTpm.Sequence.Commands
import RfTpm.Session.Table

/-!
# The handles a TPM reports

`TPM2_GetCapability()` lists the handles in use, from a given one on, and `TPM2_PolicyCapability()`
asks whether a single one is.

The lists of objects, of sessions and of PCR come from a loop over the slots of a table
(`capScan`), which is given the handle it reports for each slot.  The lists of persistent objects
and of NV indices come from a walk over the dynamic area of NV, and are sorted on the way.

The handles of the NV entities are in the NV image, and a failed assertion is remembered there, so
all functions run in `NvM`; the tables of objects and of sessions are arguments.
-/

namespace RfTpm.Capability

open Bytes Packed Faults

def TPM_HT_LOADED_SESSION : ℕ := 0x02
def TPM_HT_SAVED_SESSION : ℕ := 0x03

def MAX_CAP_HANDLES : ℕ := 254

def PCR_FIRST : TpmHandle := 0
def PCR_LAST : ℕ := Pcr.IMPLEMENTATION_PCR - 1

def RC_GetCapability_property : TpmRc := 0x240
def RC_PolicyCapability_operandB : TpmRc := 0x140
def RC_PolicyCapability_offset : TpmRc := 0x240
def RC_PolicyCapability_property : TpmRc := 0x540

/-- What a list function returns: `TPML_HANDLE`, and whether there are more handles. -/
structure HandleList where
  handles : List TpmHandle
  more : Bool
  deriving DecidableEq

/-- The tables that the functions look at. -/
structure Tables where
  /-- The attributes of `s_objects`. -/
  objects : ℕ → Sequence.ObjectAttributes
  sessions : Sessions.Table Auth.Session

/-- The list has at most `MAX_CAP_HANDLES` entries. -/
def capCount (count : ℕ) : ℕ := if count > MAX_CAP_HANDLES then MAX_CAP_HANDLES else count

/-- The loop over `n` slots from `i` on: the handles in `name` are listed until the list has
`count` of them.  `check` is asserted of every slot that is listed. -/
def capScan (name : ℕ → Option TpmHandle) (check : ℕ → Bool) (count : ℕ) :
    ℕ → ℕ → List TpmHandle → NvM HandleList
  | 0, _, handles => pure ⟨handles, false⟩
  | n + 1, i, handles =>
    match name i with
    | none => capScan name check count n (i + 1) handles
    | some handle => do
        pAssert (check i)
        if handles.length < count then capScan name check count n (i + 1) (handles ++ [handle])
        else pure ⟨handles, true⟩

variable (t : Tables)

/-! ## `Object.c` -/

/-- The slot that a transient handle stands for. -/
def slotOf (handle : TpmHandle) : ℕ := (handle - Auth.TRANSIENT_FIRST).toNat

/-- The handle that is listed for a slot. -/
def objectName (i : ℕ) : Option TpmHandle :=
  if (t.objects i).occupied then some (UInt32.ofNat i + Auth.TRANSIENT_FIRST) else none

/-- `ObjectCapGetLoaded()` -/
def objectCapGetLoaded (handle : TpmHandle) (count : ℕ) : NvM HandleList := do
  pAssert (handleGetType handle == Auth.TPM_HT_TRANSIENT)
  capScan (objectName t) (fun i => !(t.objects i).evict) (capCount count)
    (Auth.MAX_LOADED_OBJECTS - slotOf handle) (slotOf handle) []

/-- The loop of `ObjectCapGetOneLoaded()`, which stops at the first object it comes to. -/
def objectOneLoop : ℕ → ℕ → NvM Bool
  | 0, _ => pure false
  | n + 1, i =>
    if (t.objects i).occupied then do
      pAssert (!(t.objects i).evict)
      pure true
    else objectOneLoop n (i + 1)

/-- `ObjectCapGetOneLoaded()` -/
def objectCapGetOneLoaded (handle : TpmHandle) : NvM Bool := do
  pAssert (handleGetType handle == Auth.TPM_HT_TRANSIENT)
  objectOneLoop t (Auth.MAX_LOADED_OBJECTS - slotOf handle) (slotOf handle)

/-! ## `Session.c` -/

/-- The handle that is listed for a loaded session. -/
def loadedName (i : ℕ) : Option TpmHandle :=
  let entry := t.sessions.gr.contextArray i
  if entry ≠ 0 ∧ entry ≤ Sessions.MAX_LOADED_SESSIONS then
    let session := t.sessions.sessionGet (UInt32.ofNat i + HMAC_SESSION_FIRST)
    if session.attributes.isPolicy then some (UInt32.ofNat i + POLICY_SESSION_FIRST)
    else some (UInt32.ofNat i + HMAC_SESSION_FIRST)
  else none

/-- The handle that is listed for a saved session. -/
def savedName (i : ℕ) : Option TpmHandle :=
  let entry := t.sessions.gr.contextArray i
  if entry ≠ 0 ∧ entry > Sessions.MAX_LOADED_SESSIONS then
    some (UInt32.ofNat i + HMAC_SESSION_FIRST)
  else none

/-- The list functions for sessions. -/
def sessionCapGet (type : ℕ) (name : ℕ → Option TpmHandle) (handle : TpmHandle) (count : ℕ) :
    NvM HandleList := do
  pAssert (handleGetType handle == type)
  capScan name (fun _ => true) (capCount count)
    (MAX_ACTIVE_SESSIONS.toNat - Sessions.contextIndex handle) (Sessions.contextIndex handle) []

/-- `SessionCapGetLoaded()` -/
def sessionCapGetLoaded : TpmHandle → ℕ → NvM HandleList :=
  sessionCapGet TPM_HT_LOADED_SESSION (loadedName t)

/-- `SessionCapGetSaved()` -/
def sessionCapGetSaved : TpmHandle → ℕ → NvM HandleList :=
  sessionCapGet TPM_HT_SAVED_SESSION (savedName t)

/-- The functions that answer for one session. -/
def sessionCapGetOne (type : ℕ) (handle : TpmHandle) : NvM Bool := do
  pAssert (handleGetType handle == type)
  pure (decide (Sessions.contextIndex handle < MAX_ACTIVE_SESSIONS.toNat) &&
    t.sessions.gr.contextArray (Sessions.contextIndex handle) != 0)

/-- `SessionCapGetOneLoaded()` -/
def sessionCapGetOneLoaded : TpmHandle → NvM Bool := sessionCapGetOne t TPM_HT_LOADED_SESSION

/-- `SessionCapGetOneSaved()` -/
def sessionCapGetOneSaved : TpmHandle → NvM Bool := sessionCapGetOne t TPM_HT_SAVED_SESSION

/-! ## `PCR.c` -/

/-- `PCRCapGetHandles()` -/
def pcrCapGetHandles (handle : TpmHandle) (count : ℕ) : NvM HandleList := do
  pAssert (handleGetType handle == Auth.TPM_HT_PCR)
  capScan (fun i => some (UInt32.ofNat i + PCR_FIRST)) (fun _ => true) (capCount count)
    (PCR_LAST + 1 - Sessions.contextIndex handle) (Sessions.contextIndex handle) []

/-- `PCRCapGetOneHandle()` -/
def pcrCapGetOneHandle (handle : TpmHandle) : NvM Bool := do
  pAssert (handleGetType handle == Auth.TPM_HT_PCR)
  pure (decide (Sessions.contextIndex handle ≤ PCR_LAST))

/-! ## `NVDynamic.c` -/

/-- `InsertSort()`.  If the list is full, the handles behind the place of the new one move up and
the last of them is lost. -/
def insertSort (count : ℕ) (entityHandle : TpmHandle) (handles : List TpmHandle) :
    List TpmHandle :=
  if count = 0 then handles
  else if handles.length = 0 then [entityHandle]
  else
    let newCount := if handles.length < count then handles.length + 1 else handles.length
    let i := handles.findIdx (· > entityHandle)
    (handles.take i ++ entityHandle :: handles.drop i).take newCount

/-- The body of the loops of the list functions. -/
def capInsert (handle : TpmHandle) (count : ℕ) (list : HandleList) (entityHandle : TpmHandle) :
    HandleList :=
  if entityHandle < handle then list
  else ⟨insertSort count entityHandle list.handles, list.more || list.handles.length == count⟩

/-- The list functions for the entities of NV. -/
def nvCapGet (type : ℕ) (handle : TpmHandle) (count : ℕ) : NvM HandleList := do
  pAssert (handleGetType handle == type)
  nvForEach (nvNextByType type)
    (fun node list => pure (capInsert handle (capCount count) list node.handle, true)) ⟨[], false⟩

/-- `NvCapGetPersistent()` -/
def nvCapGetPersistent : TpmHandle → ℕ → NvM HandleList := nvCapGet TPM_HT_PERSISTENT

/-- `NvCapGetIndex()` -/
def nvCapGetIndex : TpmHandle → ℕ → NvM HandleList := nvCapGet TPM_HT_NV_INDEX

/-- The loop of the functions that answer for one entity of NV. -/
def nvFindByType (type : ℕ) (handle : TpmHandle) : NvM (Option NvNode × ℕ) :=
  walk (nvNextByType type) (fun node => node.handle == handle) NV_MEMORY_SIZE NV_USER_DYNAMIC

/-- The functions that answer for one entity of NV. -/
def nvCapGetOne (type : ℕ) (handle : TpmHandle) : NvM Bool := do
  pAssert (handleGetType handle == type)
  let found ← nvFindByType type handle
  pure found.1.isSome

/-- `NvCapGetOnePersistent()` -/
def nvCapGetOnePersistent : TpmHandle → NvM Bool := nvCapGetOne TPM_HT_PERSISTENT

/-- `NvCapGetOneIndex()` -/
def nvCapGetOneIndex : TpmHandle → NvM Bool := nvCapGetOne TPM_HT_NV_INDEX

/-! ## The commands -/

/-- The functions for permanent handles. -/
structure Permanent where
  capGetHandles : TpmHandle → ℕ → NvM HandleList
  capGetOneHandle : TpmHandle → NvM Bool

variable (permanent : Permanent)

/-- `TPM2_GetCapability()` for `TPM_CAP_HANDLES`. -/
def getCapability (property : TpmHandle) (propertyCount : ℕ) : NvM (Run TpmRc HandleList) :=
  let type := handleGetType property
  if type = Auth.TPM_HT_TRANSIENT then pure <$> objectCapGetLoaded t property propertyCount
  else if type = TPM_HT_PERSISTENT then pure <$> nvCapGetPersistent property propertyCount
  else if type = TPM_HT_NV_INDEX then pure <$> nvCapGetIndex property propertyCount
  else if type = TPM_HT_LOADED_SESSION then pure <$> sessionCapGetLoaded t property propertyCount
  else if type = TPM_HT_SAVED_SESSION then pure <$> sessionCapGetSaved t property propertyCount
  else if type = Auth.TPM_HT_PCR then pure <$> pcrCapGetHandles property propertyCount
  else if type = Auth.TPM_HT_PERMANENT then pure <$> permanent.capGetHandles property propertyCount
  else pure (.error (.reply (TPM_RC_HANDLE + RC_GetCapability_property)))

/-- `foundHandle` of `TPM2_PolicyCapability()`. -/
def foundHandle (property : TpmHandle) : NvM (Run TpmRc Bool) :=
  let type := handleGetType property
  if type = Auth.TPM_HT_TRANSIENT then pure <$> objectCapGetOneLoaded t property
  else if type = TPM_HT_PERSISTENT then pure <$> nvCapGetOnePersistent property
  else if type = TPM_HT_NV_INDEX then pure <$> nvCapGetOneIndex property
  else if type = TPM_HT_LOADED_SESSION then pure <$> sessionCapGetOneLoaded t property
  else if type = TPM_HT_SAVED_SESSION then pure <$> sessionCapGetOneSaved t property
  else if type = Auth.TPM_HT_PCR then pure <$> pcrCapGetOneHandle property
  else if type = Auth.TPM_HT_PERMANENT then pure <$> permanent.capGetOneHandle property
  else pure (.error (.reply (TPM_RC_HANDLE + RC_PolicyCapability_property)))

/-- What `TPM2_PolicyCapability()` does with the property it has found. -/
def compareProperty (operation : Auth.Operation) (propertyData : Bytes) (offset : ℕ)
    (operandB : Bytes) : Run TpmRc Unit :=
  if propertyData.length = 0 then
    if operation ≠ .neq then .error (.reply Auth.TPM_RC_POLICY) else pure ()
  else if offset > propertyData.length then
    .error (.reply (TPM_RC_VALUE + RC_PolicyCapability_offset))
  else if propertyData.length - offset < operandB.length then
    .error (.reply (TPM_RC_SIZE + RC_PolicyCapability_operandB))
  else do
    let holds ← Auth.policySptCheckCondition operation (propertyData.drop offset) operandB
      operandB.length
    if holds then pure () else .error (.reply Auth.TPM_RC_POLICY)

/-- The checks of `TPM2_PolicyCapability()` for `TPM_CAP_HANDLES`, in a session that is not a
trial. -/
def policyCapability (property : TpmHandle) (operation : Auth.Operation) (offset : ℕ)
    (operandB : Bytes) : NvM (Run TpmRc Unit) := do
  let found ← foundHandle t permanent property
  pure do
    if ← found then compareProperty operation (beBytes 4 property.toNat) offset operandB
    else compareProperty operation [] offset operandB

end RfTpm.Capability
