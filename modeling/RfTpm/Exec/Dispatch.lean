import RfTpm.Exec.FailureResponse

/-!
# From the request to the action of a command

`ExecuteCommand()` with the routines that parse the areas of a command and dispatch it.
The command table, the action routines and what is checked of handles and sessions are
parameters (`Dispatcher`): the results hold whatever they are.  `TpmFailureMode()`, which
answers instead of all this in failure mode, is modelled as it stands.

`success_dispatched_iff` says exactly when a success response means what it should: the request was
parsed to its last byte and the action routine returned success.  A request of more than `INT32_MAX`
bytes is where it does not: the clean-up is entered with `TPM_RC_SUCCESS` and a `COMMAND` that
nothing has been stored in.
-/

namespace RfTpm

open Bytes Parsing Fallible List

def TPM_RC_AUTH_MISSING : TpmRc := 0x125

/-! ## The command table -/

/-- What an action routine returns besides its result: the handle and the parameters of the
response, the latter marshaled. -/
structure Output where
  handle : TpmHandle
  parameters : List Bytes

/-- The entry of a command in `s_CommandDataArray`, without its action: the types in its
handle and parameter areas, whether its response has a handle, and the size of the output
structure. -/
structure CommandDescriptor (V : Type) where
  handles : List (Unmarshaler TpmHandle)
  parameters : List (Unmarshaler V)
  responseHandle : Bool
  outSize : ℕ

/-- The command table, the action routines, and the checks between the areas: `V` is the
type of unmarshaled parameters.  `checkSessions` is `ParseSessionBuffer()` after its
sessions are retrieved; it may decrypt the parameters in place. -/
structure Dispatcher (V : Type) where
  failureRecord : FailureRecord
  vendorInfo : VendorInfo
  isImplemented : ℕ → Bool
  descriptor : ℕ → CommandDescriptor V
  action : ℕ → List TpmHandle → List V → NvM (TpmRc × Output)
  timeUpdateToCurrent : NvM Unit
  entityGetLoadStatus : List TpmHandle → NvM (TpmRc × List TpmHandle)
  testSession : Nv → Command → List AuthCommand → AuthCommand → TpmRc
  checkSessions : (command : Command) →
    NvM (TpmRc × { buffer : Bytes // buffer.length = command.parameterBuffer.length })
  checkAuthNoSession : Command → NvM TpmRc
  buildResponseSession : Command → NvM (TpmRc × ℕ)

variable {V : Type}

namespace Dispatcher

variable (d : Dispatcher V)

/-- `ParseHandleBuffer()`. -/
def parseHandleBuffer (command : Command) : NvM (TpmRc × Command) :=
  match parseHandles (d.descriptor command.code).handles command.parameterBuffer with
  | .error rc => pure (rc, command)
  | .ok (handles, buffer) =>
    pure (TPM_RC_SUCCESS,
      { command with
        handles, handleNum := handles.length
        parameterBuffer := buffer, parameterSize := buffer.length })

/-- `ParseSessionBuffer()`.  The session area is the first `authSize` bytes of what is left,
and what follows it are the parameters. -/
def parseSessionBuffer (command : Command) : NvM (TpmRc × Command) := do
  let command := { command with sessions := [] }
  let s ← NvM.gets id
  match retrieveSessionData (d.testSession s command)
      (command.parameterBuffer.take command.authSize) with
  | .error rc => pure (rc, command)
  | .ok sessions => do
    let command :=
      { command with
        sessions, authSize := 0
        parameterBuffer := command.parameterBuffer.drop command.authSize }
    let (rc, buffer) ← d.checkSessions command
    pure (rc, { command with parameterBuffer := buffer.1 })

/-- The end of `CommandDispatcher()`: the handle and the parameters of the response.  The
parameters are not marshaled in failure mode. -/
def marshalResponse (command : Command) (out : Output) : NvM (TpmRc × Command) := do
  let inFailureMode ← NvM.gets (·.inFailureMode)
  let descriptor := d.descriptor command.code
  let handles := if descriptor.responseHandle then [out.handle] else []
  let size := if inFailureMode then 0 else (out.parameters.map length).sum
  pure
    (if handles.length * 4 + size > descriptor.outSize then TPM_RC_FAILURE else TPM_RC_SUCCESS,
      { command with handles, handleNum := handles.length, parameterSize := size })

/-- `CommandDispatcher()` from the call of the action routine on. -/
def act (command : Command) (values : List V) : NvM (TpmRc × Command) := do
  let (rc, out) ← d.action command.code command.handles values
  if rc ≠ TPM_RC_SUCCESS then pure (rc, command) else d.marshalResponse command out

/-- `CommandDispatcher()`. -/
def commandDispatcher (command : Command) : NvM (TpmRc × Command) :=
  match parseParameters (d.descriptor command.code).parameters command.parameterBuffer with
  | .error rc => pure (rc, command)
  | .ok values => d.act command values

/-- The routines of `ExecuteCommand()`. -/
def routines : Routines where
  tpmFailureMode request := (tpmFailureMode d.failureRecord d.vendorInfo request).1
  timeUpdateToCurrent := d.timeUpdateToCurrent
  isImplemented := d.isImplemented
  parseHandleBuffer := d.parseHandleBuffer
  entityGetLoadStatus command := do
    let (rc, handles) ← d.entityGetLoadStatus command.handles
    pure (rc, { command with handles })
  parseSessionBuffer := d.parseSessionBuffer
  checkAuthNoSession command := do
    let command := { command with sessions := [] }
    let rc ← d.checkAuthNoSession command
    pure (rc, command)
  commandDispatcher := d.commandDispatcher
  buildResponseSession command := do
    let (rc, authSize) ← d.buildResponseSession command
    pure (rc, { command with authSize })

/-- The flow up to the call of the action routine: the command, and its unmarshaled
parameters. -/
def parseCommand (stale : Command) (request : Bytes) : NvE (Command × List V) := do
  let (tag, code, buffer) ← .ofExcept (parseHeader d.routines request)
  let initialized ← .gets (·.power.initialized)
  .stopIf (initialized = (code == TPM_CC_Startup)) TPM_RC_INITIALIZE
  .run nvIndexCacheInit
  let command ← call d.routines.parseHandleBuffer (stale.withHeader tag code buffer)
  let command ← call d.routines.entityGetLoadStatus command
  let command ← authorize d.routines command
  let values ← .ofExcept
    (parseParameters (d.descriptor command.code).parameters command.parameterBuffer)
  pure (command, values)

end Dispatcher

/-! ## The flow, split at the action -/

namespace Dispatcher

variable (d : Dispatcher V)

lemma call_eq_ofExcept {α : Type} {f : Command → NvM (TpmRc × Command)} {command : Command}
    {area : Except TpmRc α} {g : α → NvM (TpmRc × Command)}
    (herror : ∀ rc, area = .error rc → f command = pure (rc, command) ∧ rc ≠ TPM_RC_SUCCESS)
    (hok : ∀ a, area = .ok a → f command = g a) :
    call f command = (do
      let a ← .ofExcept area
      call (fun _ => g a) command : NvE Command) := by
  unfold call
  cases area with
  | error rc =>
    rw [(herror rc rfl).1]
    funext s
    exact stopIf_bind_of (herror rc rfl).2 _ _ _
  | ok a =>
    rw [hok a rfl]
    rfl

lemma call_commandDispatcher (command : Command) :
    call d.commandDispatcher command = (do
      let values ← .ofExcept
        (parseParameters (d.descriptor command.code).parameters command.parameterBuffer)
      call (fun command => d.act command values) command : NvE Command) :=
  call_eq_ofExcept
    (fun rc h => ⟨by unfold commandDispatcher; rw [h], parseParameters_error h⟩)
    fun values h => by unfold commandDispatcher; rw [h]

@[simp]
lemma routines_commandDispatcher : d.routines.commandDispatcher = d.commandDispatcher := rfl

lemma processCommand_routines (stale : Command) (request : Bytes) :
    processCommand d.routines stale request = (do
      let (command, values) ← d.parseCommand stale request
      let command ← call (fun command => d.act command values) command
      call d.routines.buildResponseSession command : NvE Command) := by
  unfold processCommand parseCommand
  simp only [bind_assoc, pure_bind, routines_commandDispatcher, call_commandDispatcher]

/-! Nothing that was on the stack is left in a command that has been parsed. -/

lemma authorize_stale (command : Command) (authSize : ℕ) (sessions : List AuthCommand) :
    authorize d.routines { command with authSize, sessions } = authorize d.routines command := by
  unfold authorize
  split
  · unfold parseAuthSize
    cases (uintUnmarshal 4).run command.parameterBuffer with
    | error rc => rfl
    | ok r =>
      simp only [bind, Except.bind]
      split <;> rfl
  · rfl

lemma parseCommand_stale (stale stale' : Command) (request : Bytes) :
    d.parseCommand stale request = d.parseCommand stale' request := by
  have hhandles (c : Command) : call d.routines.parseHandleBuffer c = (do
      let (handles, buffer) ← .ofExcept
        (parseHandles (d.descriptor c.code).handles c.parameterBuffer)
      pure { c with
        handles, handleNum := handles.length
        parameterBuffer := buffer, parameterSize := buffer.length } : NvE Command) := by
    refine call_eq_ofExcept (f := d.parseHandleBuffer)
      (g := fun r => pure (TPM_RC_SUCCESS, _)) (fun rc h => ⟨?_, parseHandles_error h⟩)
      fun r h => ?_
    · unfold parseHandleBuffer
      rw [h]
    · unfold parseHandleBuffer
      rw [h]
  have hload (c : Command) : call d.routines.entityGetLoadStatus c = (do
      let (rc, handles) ← .run (d.entityGetLoadStatus c.handles)
      .stopIf (rc ≠ TPM_RC_SUCCESS) rc
      pure { c with handles } : NvE Command) := rfl
  unfold parseCommand
  simp only [hhandles, hload, bind_assoc, pure_bind]
  refine bind_congr fun (tag, code, buffer) => bind_congr fun _ => bind_congr fun _ =>
    bind_congr fun _ => bind_congr fun area => bind_congr fun r => bind_congr fun _ => ?_
  exact congrArg (· >>= _) (d.authorize_stale
    ⟨tag, code, area.2, area.2.length, stale'.authSize, area.1.length, r.2, stale'.sessions⟩
    stale.authSize stale.sessions)

end Dispatcher

/-! ## What each part of the flow has done when it succeeds -/

variable {n v tag : ℕ} {buffer rest request : Bytes} {command : Command} {rc : TpmRc}
  {response : Response}

lemma parseHeader_ok {r : Routines} {code : ℕ}
    (h : parseHeader r request = .ok (tag, code, buffer)) :
    request = beBytes 2 tag ++ beBytes 4 request.length ++ beBytes 4 code ++ buffer ∧
      (tag = TPM_ST_NO_SESSIONS ∨ tag = TPM_ST_SESSIONS) ∧
      request.length ≤ MAX_COMMAND_SIZE ∧ r.isImplemented code = true := by
  unfold parseHeader at h
  obtain ⟨⟨tag', buffer₁⟩, htag, h⟩ := bind_eq_ok h
  obtain ⟨⟨size, buffer₂⟩, hsize, h⟩ := bind_eq_ok h
  obtain ⟨hsizes, h⟩ := throw_eq_ok h
  obtain ⟨⟨code', buffer₃⟩, hcode, h⟩ := bind_eq_ok h
  obtain ⟨himplemented, h⟩ := throw_eq_ok h
  obtain ⟨rfl, rfl, rfl⟩ : tag' = tag ∧ code' = code ∧ buffer₃ = buffer := by
    simpa [pure, Except.pure] using h
  obtain ⟨htagBytes, htagValue⟩ := Parser.check_ok_iff.mp htag
  push Not at hsizes
  refine ⟨?_, by simpa using htagValue, hsizes.1 ▸ hsizes.2, by simpa using himplemented⟩
  rw [← hsizes.1]
  simp only [append_assoc]
  rw [← uintUnmarshal_ok hcode, ← uintUnmarshal_ok hsize, ← uintUnmarshal_ok htagBytes]

lemma parseAuthSize_ok {command' : Command} (h : parseAuthSize command = .ok command') :
    command.parameterBuffer = beBytes 4 command'.authSize ++ command'.parameterBuffer ∧
      9 ≤ command'.authSize ∧ command'.authSize ≤ command'.parameterBuffer.length ∧
      command'.tag = command.tag ∧ command'.code = command.code := by
  unfold parseAuthSize at h
  obtain ⟨⟨authSize, buffer⟩, hrun, h⟩ := bind_eq_ok h
  obtain ⟨hsizes, h⟩ := throw_eq_ok h
  obtain rfl := Except.ok.inj h
  push Not at hsizes
  exact ⟨uintUnmarshal_ok hrun, hsizes.1, hsizes.2, rfl, rfl⟩

namespace Dispatcher

variable {d : Dispatcher V} {command command' : Command} {s s' : Nv}

lemma parseHandleBuffer_ok
    (h : d.parseHandleBuffer command s = ((TPM_RC_SUCCESS, command'), s')) :
    parseHandles (d.descriptor command.code).handles command.parameterBuffer =
        .ok (command'.handles, command'.parameterBuffer) ∧
      command'.tag = command.tag ∧ command'.code = command.code := by
  unfold parseHandleBuffer at h
  cases hparse : parseHandles (d.descriptor command.code).handles command.parameterBuffer with
  | error rc =>
    rw [hparse] at h
    have hrc : rc = TPM_RC_SUCCESS := congrArg (fun r => r.1.1) h
    exact absurd hrc (parseHandles_error hparse)
  | ok r =>
    rw [hparse] at h
    obtain rfl : _ = command' := congrArg (fun r => r.1.2) h
    exact ⟨rfl, rfl, rfl⟩

/-- A session area that was parsed: its sessions used it up, and the parameters after it
have been decrypted in place. -/
lemma parseSessionBuffer_ok
    (h : d.parseSessionBuffer command s = ((TPM_RC_SUCCESS, command'), s')) :
    (∃ test, retrieveSessionData test (command.parameterBuffer.take command.authSize) =
        .ok command'.sessions) ∧
      command'.parameterBuffer.length =
        (command.parameterBuffer.drop command.authSize).length ∧
      command'.tag = command.tag ∧ command'.code = command.code := by
  unfold parseSessionBuffer at h
  rw [NvM.bind_apply, NvM.gets_apply] at h
  cases hparse : retrieveSessionData (d.testSession s { command with sessions := [] })
      (command.parameterBuffer.take command.authSize) with
  | error rc =>
    simp only [id_eq, hparse] at h
    have hrc : rc = TPM_RC_SUCCESS := congrArg (fun r => r.1.1) h
    exact absurd hrc (retrieveSessionData_error hparse)
  | ok sessions =>
    simp only [id_eq, hparse] at h
    obtain rfl : _ = command' := congrArg (fun r => r.1.2) h
    exact ⟨⟨_, hparse⟩, (d.checkSessions _ s).1.2.property, rfl, rfl⟩

end Dispatcher

/-! ## A request that was parsed -/

/-- The areas of a request. -/
structure Areas where
  header : Bytes
  handles : Bytes
  authSize : Bytes
  sessions : Bytes
  parameters : Bytes

/-- The request consists of the areas, and they were unmarshaled to the command and its
parameters with no byte left over: the header has the tag, the length of the request and the
code of an implemented command; the handles are followed, if the tag says so, by a session
area of the size announced; and the parameters, as they are after decryption, are used up. -/
structure Decodes (d : Dispatcher V) (request : Bytes) (areas : Areas) (command : Command)
    (values : List V) : Prop where
  request_eq : request =
    areas.header ++ areas.handles ++ areas.authSize ++ areas.sessions ++ areas.parameters
  header_eq : areas.header =
    beBytes 2 command.tag ++ beBytes 4 request.length ++ beBytes 4 command.code
  tag : command.tag = TPM_ST_NO_SESSIONS ∨ command.tag = TPM_ST_SESSIONS
  implemented : d.isImplemented command.code = true
  handles : ∃ handles, parseHandles (d.descriptor command.code).handles
      (areas.handles ++ (areas.authSize ++ areas.sessions ++ areas.parameters)) =
    .ok (handles, areas.authSize ++ areas.sessions ++ areas.parameters)
  sessions : command.tag = TPM_ST_SESSIONS →
    areas.authSize = beBytes 4 areas.sessions.length ∧ 9 ≤ areas.sessions.length ∧
      ∃ test, retrieveSessionData test areas.sessions = .ok command.sessions
  noSessions : command.tag ≠ TPM_ST_SESSIONS →
    areas.authSize = [] ∧ areas.sessions = [] ∧ command.sessions = [] ∧
      command.parameterBuffer = areas.parameters
  decrypted : command.parameterBuffer.length = areas.parameters.length
  parameters : Parser.sequence parameterError 0
      ((d.descriptor command.code).parameters.map Unmarshaler.toParser) command.parameterBuffer =
    .ok (values, [])

namespace Dispatcher

variable {d : Dispatcher V} {s s' : Nv}

/-- What authorization leaves of the request: with sessions, the parameters after an
announced session area; without, all of it. -/
lemma authorize_ok {command command' : Command}
    (h : authorize d.routines command s = (.ok command', s')) :
    command'.tag = command.tag ∧ command'.code = command.code ∧
      ∃ authSize sessions parameters,
        command.parameterBuffer = authSize ++ sessions ++ parameters ∧
        command'.parameterBuffer.length = parameters.length ∧
        (command.tag = TPM_ST_SESSIONS →
          authSize = beBytes 4 sessions.length ∧ 9 ≤ sessions.length ∧
            ∃ test, retrieveSessionData test sessions = .ok command'.sessions) ∧
        (command.tag ≠ TPM_ST_SESSIONS →
          authSize = [] ∧ sessions = [] ∧ command'.sessions = [] ∧
            command'.parameterBuffer = parameters) := by
  unfold authorize at h
  split at h
  · rename_i htag
    obtain ⟨command₁, s₁, hsize, h⟩ := bind_ok h
    obtain ⟨hbuffer, hmin, hmax, htag₁, hcode₁⟩ := parseAuthSize_ok (ofExcept_ok hsize).1
    obtain ⟨hretrieve, hlength, htag₂, hcode₂⟩ := parseSessionBuffer_ok (call_ok h)
    have hsessions : (command₁.parameterBuffer.take command₁.authSize).length =
        command₁.authSize := by
      rw [length_take]
      exact min_eq_left hmax
    refine ⟨htag₂.trans htag₁, hcode₂.trans hcode₁, beBytes 4 command₁.authSize,
      command₁.parameterBuffer.take command₁.authSize,
      command₁.parameterBuffer.drop command₁.authSize, ?_, hlength, ?_, ?_⟩
    · rw [append_assoc, take_append_drop]
      exact hbuffer
    · intro _
      rw [hsessions]
      exact ⟨rfl, hmin, hretrieve⟩
    · exact fun hne => absurd htag hne
  · rename_i htag
    obtain rfl : _ = command' := congrArg (fun r => r.1.2) (call_ok h)
    exact ⟨rfl, rfl, [], [], command.parameterBuffer, rfl, rfl, fun heq => absurd heq htag,
      fun _ => ⟨rfl, rfl, rfl, rfl⟩⟩

lemma parseCommand_decodes {stale : Command} {request : Bytes} {command : Command}
    {values : List V} (h : d.parseCommand stale request s = (.ok (command, values), s')) :
    request.length ≤ MAX_COMMAND_SIZE ∧ ∃ areas, Decodes d request areas command values := by
  unfold parseCommand at h
  obtain ⟨⟨tag, code, buffer⟩, s₁, hheader, h⟩ := bind_ok h
  obtain ⟨initialized, s₂, -, h⟩ := bind_ok h
  obtain ⟨_, s₂, -, h⟩ := bind_ok h
  obtain ⟨_, s₃, -, h⟩ := bind_ok h
  obtain ⟨command₂, s₄, hhandles, h⟩ := bind_ok h
  obtain ⟨command₃, s₅, hload, h⟩ := bind_ok h
  obtain ⟨command₄, s₆, hauthorize, h⟩ := bind_ok h
  obtain ⟨values', s₇, hparameters, h⟩ := bind_ok h
  obtain ⟨rfl, rfl⟩ : command₄ = command ∧ values' = values :=
    Prod.mk.inj (Except.ok.inj (congrArg Prod.fst h))
  obtain ⟨hrequest, htag, hmax, himplemented⟩ := parseHeader_ok (ofExcept_ok hheader).1
  obtain ⟨hparse, htag₂, hcode₂⟩ := parseHandleBuffer_ok (call_ok hhandles)
  obtain rfl : _ = command₃ := congrArg (fun r => r.1.2) (call_ok hload)
  obtain ⟨-, handleArea, hhandleArea⟩ := parseHandles_consumed hparse
  have hvalues := parseParameters_ok (ofExcept_ok hparameters).1
  obtain ⟨htag₄, hcode₄, authSize, sessions, parameters, hbuffer, hlength, hwith, hwithout⟩ :=
    authorize_ok hauthorize
  have htags : command₄.tag = tag := htag₄.trans htag₂
  have hcodes : command₄.code = code := hcode₄.trans hcode₂
  change command₂.parameterBuffer = _ at hbuffer
  refine ⟨hmax, ⟨beBytes 2 tag ++ beBytes 4 request.length ++ beBytes 4 code,
    handleArea, authSize, sessions, parameters⟩, ?_⟩
  constructor
  case request_eq =>
    simp only [append_assoc] at hbuffer hrequest ⊢
    rw [← hbuffer, ← hhandleArea]
    exact hrequest
  case header_eq => simp only [htags, hcodes]
  case tag => exact htags ▸ htag
  case implemented => exact hcodes ▸ himplemented
  case handles =>
    refine ⟨command₂.handles, ?_⟩
    rw [hcodes, ← hbuffer, ← hhandleArea]
    exact hparse
  case sessions => exact fun heq => hwith (htag₄ ▸ heq)
  case noSessions => exact fun hne => hwithout (htag₄ ▸ hne)
  case decrypted => exact hlength
  case parameters => exact hvalues

end Dispatcher

/-! ## Failure mode -/

/-- A request that consists, to its last byte, of one of the two commands that failure mode
answers. -/
def FailureDecodes (request : Bytes) : Prop :=
  request = testResultCommand ∨ ∃ pt count, request = propertiesCommand pt count

/-- A request that failure mode answers was used up exactly when its header announces its
length. -/
lemma failureDecodes_iff {query : FailureQuery} (h : failureQuery request = .ok query) :
    FailureDecodes request ↔ announcedSize request = request.length := by
  constructor
  · rintro (rfl | ⟨pt, count, rfl⟩)
    · exact announcedSize_testResult (prefix_refl _)
    · exact announcedSize_properties (prefix_refl _)
  · intro hlength
    obtain ⟨-, ⟨-, hcommand⟩ | ⟨pt, count, -, hcommand⟩⟩ := failureQuery_ok h
    · have hsize := announcedSize_testResult hcommand
      exact .inl (hcommand.eq_of_length (hsize.symm.trans hlength)).symm
    · have hsize := announcedSize_properties hcommand
      exact .inr ⟨pt, count, (hcommand.eq_of_length (hsize.symm.trans hlength)).symm⟩

lemma FailureDecodes.length_le (h : FailureDecodes request) : request.length ≤ 22 := by
  obtain rfl | ⟨pt, count, rfl⟩ := h
  · decide
  · simp [propertiesCommand]

/-! ## Success and dispatch -/

/-- A command up to the call of its action routine, from the state in which
`ExecuteCommand()` was called. -/
def Dispatcher.prepared (d : Dispatcher V) (p : Platform) (request : Bytes) (s : Nv) :
    Except TpmRc (Command × List V) × Nv :=
  d.parseCommand p.stale request (d.timeUpdateToCurrent (s.started p.nvStatus)).2

/-- A success response means a command that was parsed to its last byte and carried out; a
request that is not parsed runs no action routine; and what was on the stack before the
call has no influence.  In failure mode the command is carried out by
`TpmFailureMode()`. -/
structure SuccessIsDispatched (d : Dispatcher V) (p : Platform) (request : Bytes)
    (s : Nv) : Prop where
  success : (executeCommand d.routines p request s).1.responseCode = TPM_RC_SUCCESS →
    if s.inFailureMode then FailureDecodes request
    else ∃ areas command values s₁, d.prepared p request s = (.ok (command, values), s₁) ∧
      Decodes d request areas command values ∧
      (d.action command.code command.handles values s₁).1.1 = TPM_RC_SUCCESS
  noAction : (s.inFailureMode = true ∨ ∃ rc, (d.prepared p request s).1 = .error rc) →
    ∀ action, executeCommand { d with action }.routines p request s =
      executeCommand d.routines p request s
  initialised : ∀ stale, executeCommand d.routines { p with stale } request s =
    executeCommand d.routines p request s

section Flow

variable {d : Dispatcher V} {p : Platform} {request : Bytes} {s : Nv}

lemma executeCommand_failureMode {r : Routines} (hsmall : request.length ≤ INT32_MAX)
    (hfailed : s.inFailureMode = true) :
    executeCommand r p request s = (r.tpmFailureMode request, (resetFlags s).2) := by
  have hnot : ¬ request.length > INT32_MAX := Nat.not_lt.2 hsmall
  simp [executeCommand, hnot, resetFlags, hfailed]

lemma executeCommand_large {r : Routines} (hlarge : request.length > INT32_MAX) :
    executeCommand r p request s = cleanup p p.stale TPM_RC_SUCCESS s := by
  simp [executeCommand, hlarge]

lemma atCleanup_small {r : Routines} (hsmall : request.length ≤ INT32_MAX) :
    atCleanup r p request s =
      processCommand r p.stale request (r.timeUpdateToCurrent (s.started p.nvStatus)).2 :=
  if_neg (Nat.not_lt.2 hsmall)

variable {rc : TpmRc}

lemma atCleanup_error (hsmall : request.length ≤ INT32_MAX) {s₁ : Nv}
    (h : d.prepared p request s = (.error rc, s₁)) :
    atCleanup d.routines p request s = (.error rc, s₁) := by
  rw [atCleanup_small hsmall, Dispatcher.processCommand_routines]
  exact bind_of_error h

lemma atCleanup_ok (hsmall : request.length ≤ INT32_MAX) {command : Command}
    {values : List V} {s₁ : Nv} (h : d.prepared p request s = (.ok (command, values), s₁)) :
    atCleanup d.routines p request s =
      (call (fun command => d.act command values) command >>=
        call d.routines.buildResponseSession : NvE Command) s₁ := by
  rw [atCleanup_small hsmall, Dispatcher.processCommand_routines]
  exact bind_of_ok h

lemma atCleanup_rejects (hsmall : request.length ≤ INT32_MAX)
    (h : (atCleanup d.routines p request s).1 = .error rc) : rc ≠ TPM_RC_SUCCESS := by
  rw [atCleanup_small hsmall] at h
  exact stops_processCommand d.routines _ request _ rc _ (Prod.ext h rfl)

lemma Dispatcher.act_ok {command command' : Command} {values : List V} {s₁ s₂ : Nv}
    (h : d.act command values s₁ = ((TPM_RC_SUCCESS, command'), s₂)) :
    (d.action command.code command.handles values s₁).1.1 = TPM_RC_SUCCESS := by
  by_contra hne
  unfold Dispatcher.act at h
  simp only [NvM.bind_apply, ne_eq, hne, not_false_eq_true, if_true] at h
  exact hne (congrArg (fun r => r.1.1) h)

lemma cleanup_error (h : rc ≠ TPM_RC_SUCCESS) (command command' : Command) (s : Nv) :
    cleanup p command rc s = cleanup p command' rc s := by
  have hheader : buildResponseHeader command rc = buildResponseHeader command' rc := by
    simp [buildResponseHeader, h]
  unfold cleanup
  rw [hheader]

lemma success_running (hsmall : request.length ≤ INT32_MAX) (hrunning : s.inFailureMode = false)
    (h : (executeCommand d.routines p request s).1.responseCode = TPM_RC_SUCCESS) :
    ∃ areas command values s₁, d.prepared p request s = (.ok (command, values), s₁) ∧
      Decodes d request areas command values ∧
      (d.action command.code command.handles values s₁).1.1 = TPM_RC_SUCCESS := by
  rw [executeCommand_eq hrunning, cleanup_responseCode, responseCode_buildResponseHeader] at h
  cases hcleanup : (atCleanup d.routines p request s).1 with
  | error rc =>
    rw [hcleanup] at h
    exact absurd h (atCleanup_rejects hsmall hcleanup)
  | ok final =>
    cases hprepared : d.prepared p request s with
    | mk outcome s₁ =>
      cases outcome with
      | error rc =>
        rw [atCleanup_error hsmall hprepared] at hcleanup
        cases hcleanup
      | ok parsed =>
        obtain ⟨command, values⟩ := parsed
        rw [atCleanup_ok hsmall hprepared] at hcleanup
        obtain ⟨command', s₂, hact, -⟩ := bind_ok (Prod.ext hcleanup rfl)
        obtain ⟨-, areas, hdecodes⟩ := Dispatcher.parseCommand_decodes hprepared
        exact ⟨areas, command, values, s₁, rfl, hdecodes,
          Dispatcher.act_ok (call_ok hact)⟩

lemma tpmFailureMode_success_iff {f : FailureRecord} {v : VendorInfo} :
    (tpmFailureMode f v request).1.responseCode = TPM_RC_SUCCESS ↔
      ∃ query, failureQuery request = .ok query := by
  unfold tpmFailureMode
  cases failureQuery request with
  | error rc => exact iff_of_false (show ¬ TPM_RC_FAILURE = TPM_RC_SUCCESS by decide) nofun
  | ok query => exact iff_of_true rfl ⟨query, rfl⟩

lemma SuccessIsDispatched.length_le (h : SuccessIsDispatched d p request s) :
    request.length ≤ INT32_MAX := by
  by_contra hlarge
  have hcode : (executeCommand d.routines p request s).1.responseCode = TPM_RC_SUCCESS := by
    rw [executeCommand_large (Nat.not_le.1 hlarge)]
    rfl
  have hsuccess := h.success hcode
  apply hlarge
  cases hmode : s.inFailureMode with
  | true =>
    rw [hmode, if_pos rfl] at hsuccess
    exact hsuccess.length_le.trans (by decide)
  | false =>
    rw [hmode, if_neg (by simp)] at hsuccess
    obtain ⟨_, _, _, _, hprepared, -⟩ := hsuccess
    exact (Dispatcher.parseCommand_decodes hprepared).1.trans (by decide)

/-! ## The theorem -/

/-- Success means dispatch exactly when the request has at most `INT32_MAX` bytes and, in
failure mode, is not one of the two commands with surplus bytes. -/
theorem success_dispatched_iff (d : Dispatcher V) (p : Platform) (request : Bytes)
    (s : Nv) :
    SuccessIsDispatched d p request s ↔
      request.length ≤ INT32_MAX ∧
        (s.inFailureMode = true → (∃ query, failureQuery request = .ok query) →
          announcedSize request = request.length) := by
  constructor
  · intro h
    have hsmall := h.length_le
    refine ⟨hsmall, fun hfailed hanswered => ?_⟩
    have hcode : (executeCommand d.routines p request s).1.responseCode = TPM_RC_SUCCESS := by
      rw [executeCommand_failureMode hsmall hfailed]
      exact tpmFailureMode_success_iff.mpr hanswered
    have hsuccess := h.success hcode
    rw [hfailed, if_pos rfl] at hsuccess
    obtain ⟨query, hquery⟩ := hanswered
    exact (failureDecodes_iff hquery).1 hsuccess
  · rintro ⟨hsmall, hfailure⟩
    constructor
    case success =>
      intro hcode
      cases hmode : s.inFailureMode with
      | true =>
        rw [if_pos rfl]
        rw [executeCommand_failureMode hsmall hmode] at hcode
        obtain ⟨query, hquery⟩ := tpmFailureMode_success_iff.mp hcode
        exact (failureDecodes_iff hquery).2 (hfailure hmode ⟨query, hquery⟩)
      | false =>
        rw [if_neg (by simp)]
        exact success_running hsmall hmode hcode
    case noAction =>
      intro hidle action
      cases hmode : s.inFailureMode with
      | true =>
        rw [executeCommand_failureMode hsmall hmode, executeCommand_failureMode hsmall hmode]
        rfl
      | false =>
        obtain hfailed | ⟨rc, hrc⟩ := hidle
        · exact nomatch hmode.symm.trans hfailed
        -- the request is parsed the same way, whatever the action routines are
        have hprepared : d.prepared p request s = (.error rc, (d.prepared p request s).2) :=
          Prod.ext hrc rfl
        have hprepared' : { d with action }.prepared p request s =
            (.error rc, (d.prepared p request s).2) := hprepared
        rw [executeCommand_eq hmode, executeCommand_eq hmode, atCleanup_error hsmall hprepared,
          atCleanup_error hsmall hprepared']
    case initialised =>
      intro stale
      cases hmode : s.inFailureMode with
      | true =>
        rw [executeCommand_failureMode hsmall hmode, executeCommand_failureMode hsmall hmode]
      | false =>
        have hsame : atCleanup d.routines { p with stale } request s =
            atCleanup d.routines p request s := by
          rw [atCleanup_small hsmall, atCleanup_small hsmall, d.processCommand_routines,
            d.processCommand_routines, d.parseCommand_stale stale p.stale]
        rw [executeCommand_eq hmode, executeCommand_eq hmode, hsame]
        cases hcleanup : (atCleanup d.routines p request s).1 with
        | ok command => rfl
        | error rc => exact cleanup_error (atCleanup_rejects hsmall hcleanup) _ _ _

end Flow

/-! ## A request that is too large -/

/-- The parameter of `TPM2_Shutdown()`. -/
def tpmSuUnmarshal : Unmarshaler ℕ where
  toParser := uintUnmarshal 2
  rejects := uintUnmarshal_error

/-- The table with the entry of `TPM2_Shutdown()`, which has no handles and is sent without
sessions. -/
def shutdownDispatcher : Dispatcher ℕ where
  failureRecord := ⟨0, 0, 0⟩
  vendorInfo := ⟨0, fun _ => 0, 0, 0, 0⟩
  isImplemented code := code == 0x145
  descriptor _ := ⟨[], [tpmSuUnmarshal], false, 0⟩
  action _ _ values := do
    let rc ← tpm2Shutdown ⟨false, none⟩ (UInt16.ofNat (values.headD 0))
    pure (rc, ⟨0, []⟩)
  timeUpdateToCurrent := pure ()
  entityGetLoadStatus handles := pure (TPM_RC_SUCCESS, handles)
  testSession _ _ _ _ := TPM_RC_SUCCESS
  checkSessions command := pure (TPM_RC_AUTH_MISSING, ⟨command.parameterBuffer, rfl⟩)
  checkAuthNoSession _ := pure TPM_RC_SUCCESS
  buildResponseSession _ := pure (TPM_RC_SUCCESS, 0)

/-- A request of `2 ^ 31` zero bytes, which has not even a tag, is answered with success. -/
theorem success_not_dispatched_large :
    ¬ SuccessIsDispatched shutdownDispatcher (shutdownPlatform true)
      (replicate (INT32_MAX + 1) 0) Nv.running := by
  intro h
  have hsmall := h.length_le
  rw [length_replicate] at hsmall
  exact absurd hsmall (by decide)

end RfTpm
