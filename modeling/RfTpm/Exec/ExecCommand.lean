import RfTpm.Lib.Fallible
import RfTpm.Lib.Parser
import RfTpm.Nv.Index

/-!
# `ExecuteCommand()`

The control flow of a command: parse the header, run the routines that parse handles
and sessions, dispatch, build the response sessions, and then the clean-up that every
path ends in.  `goto Cleanup` is an exception here; the routines are parameters
(`Routines`), because the flow is the same whatever they do: each takes the command,
may change any variable, and returns a result that is not `TPM_RC_SUCCESS` if it failed.
-/

namespace RfTpm

open Bytes Parsing

def INT32_MAX : ℕ := 2147483647
def MAX_COMMAND_SIZE : ℕ := 4096 - 0x80
def STD_RESPONSE_HEADER : ℕ := 10
def TPM_ST_NO_SESSIONS : ℕ := 0x8001
def TPM_ST_SESSIONS : ℕ := 0x8002
def TPM_CC_Startup : ℕ := 0x144
def TPM_RC_BAD_TAG : TpmRc := 0x1E
def TPM_RC_INITIALIZE : TpmRc := 0x100
def TPM_RC_COMMAND_SIZE : TpmRc := 0x142
def TPM_RC_COMMAND_CODE : TpmRc := 0x143

/-! ## The command and its routines -/

/-- One session of the authorization area, as it is unmarshaled. -/
structure AuthCommand where
  sessionHandle : TpmHandle
  nonce : Bytes
  sessionAttributes : UInt8
  hmac : Bytes
  deriving DecidableEq

/-- The fields of `COMMAND` that the flow reads.  `parameterBuffer` is what is left of
the request; `parameterSize` is set by the dispatcher to the size of the response
parameters.  `sessions` are the static arrays that the session area is unmarshaled into. -/
structure Command where
  tag : ℕ
  code : ℕ
  parameterBuffer : Bytes
  parameterSize : ℕ
  authSize : ℕ
  handleNum : ℕ
  handles : List TpmHandle
  sessions : List AuthCommand

/-- The command with its header parsed; the other fields are as they were on the stack. -/
def Command.withHeader (stale : Command) (tag code : ℕ) (buffer : Bytes) : Command :=
  { stale with tag, code, parameterBuffer := buffer, parameterSize := buffer.length }

/-- A response: its header. -/
structure Response where
  tag : ℕ
  size : ℕ
  responseCode : TpmRc
  deriving DecidableEq

/-- The routines `ExecuteCommand()` calls. -/
structure Routines where
  tpmFailureMode : Bytes → Response
  timeUpdateToCurrent : NvM Unit
  isImplemented : ℕ → Bool
  parseHandleBuffer : Command → NvM (TpmRc × Command)
  entityGetLoadStatus : Command → NvM (TpmRc × Command)
  parseSessionBuffer : Command → NvM (TpmRc × Command)
  checkAuthNoSession : Command → NvM (TpmRc × Command)
  commandDispatcher : Command → NvM (TpmRc × Command)
  buildResponseSession : Command → NvM (TpmRc × Command)

/-- What the platform does during one call: the state of NV that `NvCheckState()` finds,
whether `_plat__NvCommit()` will succeed, and the size of the response buffer.  `stale`
is the `COMMAND` on the stack before anything is stored in it. -/
structure Platform where
  nvStatus : TpmRc
  commitOk : Bool
  maxResponse : ℕ
  stale : Command

/-! ## Parsing -/

/-- `UINT8_Unmarshal()`, `UINT16_Unmarshal()` and `UINT32_Unmarshal()`: a big-endian number
of `n` bytes. -/
def uintUnmarshal (n : ℕ) : Parser UInt8 TpmRc ℕ :=
  (Parser.symbols n TPM_RC_INSUFFICIENT).map beVal

/-- `TPMI_ST_COMMAND_TAG_Unmarshal()`. -/
def tpmiStCommandTagUnmarshal : Parser UInt8 TpmRc ℕ :=
  (uintUnmarshal 2).check (fun tag => tag == TPM_ST_NO_SESSIONS || tag == TPM_ST_SESSIONS)
    TPM_RC_BAD_TAG

/-- Parse the header: tag, size and code, and what is left of the request. -/
def parseHeader (r : Routines) (request : Bytes) : Except TpmRc (ℕ × ℕ × Bytes) := do
  let (tag, buffer) ← tpmiStCommandTagUnmarshal.run request
  let (commandSize, buffer) ← (uintUnmarshal 4).run buffer
  if commandSize ≠ request.length ∨ commandSize > MAX_COMMAND_SIZE then
    throw TPM_RC_COMMAND_SIZE
  let (code, buffer) ← (uintUnmarshal 4).run buffer
  if !r.isImplemented code then
    throw TPM_RC_COMMAND_CODE
  pure (tag, code, buffer)

/-- A part of the flow that may leave for the clean-up with an error. -/
abbrev NvE := Fallible TpmRc Nv

/-- `result = f(&command); if(result != TPM_RC_SUCCESS) goto Cleanup;` -/
def call (f : Command → NvM (TpmRc × Command)) (command : Command) : NvE Command := do
  let (result, command) ← .run (f command)
  .stopIf (result ≠ TPM_RC_SUCCESS) result
  pure command

/-- The size field of the session area. -/
def parseAuthSize (command : Command) : Except TpmRc Command := do
  let (authSize, buffer) ← (uintUnmarshal 4).run command.parameterBuffer
  if authSize < 9 ∨ authSize > buffer.length then throw TPM_RC_SIZE
  pure { command with
    parameterBuffer := buffer, parameterSize := buffer.length - authSize, authSize }

/-- The authorization area, or the check that none is needed. -/
def authorize (r : Routines) (command : Command) : NvE Command :=
  if command.tag = TPM_ST_SESSIONS then do
    let command ← .ofExcept (parseAuthSize command)
    call r.parseSessionBuffer command
  else
    call r.checkAuthNoSession { command with authSize := 0 }

/-- The flow from the parsed header to the response. -/
def processCommand (r : Routines) (stale : Command) (request : Bytes) : NvE Command := do
  let (tag, code, buffer) ← .ofExcept (parseHeader r request)
  let initialized ← .gets (·.power.initialized)
  -- only TPM2_Startup() is accepted after _TPM_Init, and only once
  .stopIf (initialized = (code == TPM_CC_Startup)) TPM_RC_INITIALIZE
  .run nvIndexCacheInit
  let command ← call r.parseHandleBuffer (stale.withHeader tag code buffer)
  let command ← call r.entityGetLoadStatus command
  let command ← authorize r command
  let command ← call r.commandDispatcher command
  call r.buildResponseSession command

/-! ## The clean-up -/

/-- `NV_SYNC_PERSISTENT(orderlyState)`. -/
def nvSyncOrderlyState : NvM Bool := do
  let orderlyState ← NvM.gets (·.orderlyState)
  nvWrite NV_ORDERLY_STATE (leBytes 2 orderlyState.toNat)

/-- The part of the clean-up that clears the orderly state. -/
def clearOrderlyState : NvM Unit := do
  let clears ← NvM.gets fun s => s.toGlobals.clearsOrderly s.orderlyState
  NvM.when clears do
    NvM.modify fun s => { s with orderlyState := SU_NONE_VALUE }
    let _ ← nvSyncOrderlyState

/-- `BuildResponseHeader()`. -/
def buildResponseHeader (command : Command) (result : TpmRc) : Response :=
  if result ≠ TPM_RC_SUCCESS then ⟨TPM_ST_NO_SESSIONS, 10, result⟩
  else
    ⟨command.tag,
      STD_RESPONSE_HEADER + command.handleNum * 4 + command.parameterSize +
        (if command.tag = TPM_ST_SESSIONS then command.authSize + 4 else 0),
      result⟩

/-- The part of the clean-up that commits the NV writes of the command. -/
def commitUpdate (commitOk : Bool) : NvM Unit := do
  let updateNv ← NvM.gets (·.updateNv)
  let commits ← NvM.gets (·.toGlobals.commits .none)
  NvM.when commits do
    NvM.when (updateNv == .orderly) nvUpdateIndexOrderlyData
    NvM.modifyGlobals (·.nvCommit .none commitOk)

/-- The label `Cleanup`.  `ObjectCleanupEvict()` only touches object slots in RAM. -/
def cleanup (p : Platform) (command : Command) (result : TpmRc) : NvM Response := do
  clearOrderlyState
  let response := buildResponseHeader command result
  commitUpdate p.commitOk
  pAssert (response.size ≤ p.maxResponse)
  pure response

/-- The flags reset at the start of a command. -/
def resetFlags : NvM Unit := NvM.modifyGlobals (·.resetFlags .none)

/-- `NvCheckState()`: the platform reports `nvStatus`. -/
def nvCheckState (nvStatus : TpmRc) : NvM Unit := NvM.modifyGlobals (·.nvCheckState nvStatus)

/-- From the clock update to the last routine: what is there to clean up after. -/
def commandBody (r : Routines) (stale : Command) (request : Bytes) :
    NvM (Except TpmRc Command) := do
  r.timeUpdateToCurrent
  processCommand r stale request

/-- The result a command arrives at the clean-up with. -/
def resultOf : Except TpmRc Command → TpmRc
  | .ok _ => TPM_RC_SUCCESS
  | .error result => result

/-- The `COMMAND` at the clean-up.  After an error nothing of it is read. -/
def commandOf (stale : Command) : Except TpmRc Command → Command
  | .ok command => command
  | .error _ => stale

/-- `ExecuteCommand()`.  In failure mode `TpmFailureMode()` answers, which changes nothing
of the state modelled here. -/
def executeCommand (r : Routines) (p : Platform) (request : Bytes) : NvM Response := do
  -- an unreasonably large command goes straight to the clean-up
  if request.length > INT32_MAX then
    cleanup p p.stale TPM_RC_SUCCESS
  else do
    resetFlags
    let inFailureMode ← NvM.gets (·.inFailureMode)
    if inFailureMode then
      pure (r.tpmFailureMode request)
    else do
      nvCheckState p.nvStatus
      let outcome ← commandBody r p.stale request
      cleanup p (commandOf p.stale outcome) (resultOf outcome)

/-- `ExecuteCommand()` as far as NV is concerned, for a command whose routines amount to
`body`. -/
def runCommand (nvStatus : TpmRc) (commitOk : Bool) (body : NvM TpmRc) : NvM TpmRc := do
  resetFlags
  let inFailureMode ← NvM.gets (·.inFailureMode)
  if inFailureMode then
    pure TPM_RC_FAILURE
  else do
    nvCheckState nvStatus
    let result ← body
    clearOrderlyState
    commitUpdate commitOk
    pure result

end RfTpm
