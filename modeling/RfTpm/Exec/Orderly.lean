import RfTpm.Pcr.Resume

/-!
# Data that a state save carries over a power cycle

Several parts of the TPM keep data in RAM that `TPM2_Shutdown(TPM_SU_STATE)` saves and a startup
reads back, as the commit counter and the audit digest.  They share what happens to them: commands,
shutdowns, startups and power losses.  A `Part` says what is special to one of them, and
`Part.system` is the TPM as that part sees it.

A part may record in a `log`, which is not in the TPM, what it has done.  `Part.Upholds` are the
obligations of an invariant between the data in RAM, the data in NV and that log.
`Part.Upholds.inv_step` is the rule that they are enough, in runs in which the part's commands and
the startups are allowed ones.
-/

namespace RfTpm.Orderly

open Fallible Runs
open Pcr (Effect Env Resumable)

/-! ## The machine -/

/-- The NV image: `gp.orderlyState` and the data of the part. -/
structure Image (Nv : Type) where
  orderlyState : UInt16
  data : Nv
  deriving DecidableEq

/-- The TPM, as a part with the data `Ram` and `Nv` sees it. -/
structure Machine (Ram Nv Log : Type) extends Globals (Image Nv) Bool where
  /-- `gp.orderlyState` -/
  orderlyState : UInt16
  ram : Ram
  /-- What the part has done. -/
  log : Log

/-- The data of a part and its log. -/
structure Cell (Ram Nv Log : Type) where
  ram : Ram
  nv : Nv
  log : Log
  deriving DecidableEq

section Machine

variable {Ram Nv Log : Type}

namespace Machine

/-- `NvWrite()` -/
def write (s : Machine Ram Nv Log) (f : Image Nv → Image Nv) : Machine Ram Nv Log :=
  { s with nv := f s.nv, updateNv := true }

/-- Set `gp.orderlyState` and write it to NV. -/
def setOrderlyState (s : Machine Ram Nv Log) (value : UInt16) : Machine Ram Nv Log :=
  { s with orderlyState := value }.write fun m => { m with orderlyState := value }

def cell (s : Machine Ram Nv Log) : Cell Ram Nv Log := ⟨s.ram, s.nv.data, s.log⟩

/-- Replace the data and the log. -/
def setCell (s : Machine Ram Nv Log) (d : Cell Ram Nv Log) : Machine Ram Nv Log :=
  { s with ram := d.ram, nv := { s.nv with data := d.nv }, log := d.log }

/-- What the rest of the TPM does. -/
def apply (e : Effect) (s : Machine Ram Nv Log) : Machine Ram Nv Log :=
  { s with toGlobals := e.raise s.toGlobals }

end Machine

/-- `RETURN_IF_NV_IS_NOT_AVAILABLE` -/
def returnIfNvIsNotAvailable : Fallible TpmRc (Machine Ram Nv Log) Unit := do
  let nvStatus ← gets (·.nvStatus)
  stopIf (nvStatus ≠ TPM_RC_SUCCESS) nvStatus

/-- The action of a command that does not touch the part. -/
def otherAction (effect : Effect) (result : Except TpmRc Unit) :
    Fallible TpmRc (Machine Ram Nv Log) Unit := do
  .modify (Machine.apply effect)
  ofExcept result

/-- The orderly state is cleared when the command asked for it. -/
def clearOrderlyState (s : Machine Ram Nv Log) : Machine Ram Nv Log :=
  if s.toGlobals.clearsOrderly s.orderlyState then s.setOrderlyState SU_NONE_VALUE else s

/-- The commit at the end of `ExecuteCommand()`. -/
def commit (commitOk : Bool) (s : Machine Ram Nv Log) : Machine Ram Nv Log :=
  { s with toGlobals := s.toGlobals.commit false commitOk }

/-- The flags are reset and the state of NV is looked up. -/
def beginCommand (env : Env) (s : Machine Ram Nv Log) : Machine Ram Nv Log :=
  { s with toGlobals := env.begin s.toGlobals }

/-- The clean-up of `ExecuteCommand()`. -/
def endCommand (env : Env) (s : Machine Ram Nv Log) : Machine Ram Nv Log :=
  commit env.commitOk (clearOrderlyState (s.apply env.after))

/-- `ExecuteCommand()`; a TPM in failure mode does not get to the command. -/
def execute (env : Env) (body : Fallible TpmRc (Machine Ram Nv Log) Unit)
    (s : Machine Ram Nv Log) : Except TpmRc Unit × Machine Ram Nv Log :=
  if s.inFailureMode then
    (.error TPM_RC_FAILURE, { s with toGlobals := s.toGlobals.resetFlags false })
  else ((body (beginCommand env s)).1, endCommand env (body (beginCommand env s)).2)

/-- The routines of a command: before the action there are its checks. -/
def commandBody (initialized : Bool) (env : Env)
    (action : Fallible TpmRc (Machine Ram Nv Log) Unit) :
    Fallible TpmRc (Machine Ram Nv Log) Unit := do
  let now ← gets (·.power.initialized)
  stopIf (now ≠ initialized) TPM_RC_INITIALIZE
  match env.refused with
  | some rc => stop rc
  | none => action

/-- The locality of a startup; an H-CRTM event counts as locality 3 by itself. -/
def startupLocality (i : Pcr.StartupInput) (s : Machine Ram Nv Log) : UInt8 :=
  if s.power.drtmPreStartup then 0 else i.locality

end Machine

/-- A part of the TPM: its commands, the data a state save writes, the data `_TPM_Init` and
`TPM2_Startup()` read, its own startup, and what the response to a startup does to it.  `lose` is
what is noted in the log when the power is lost in failure mode. -/
structure Part (Ram Nv Log Command Draw : Type) where
  action : Command → Fallible TpmRc (Machine Ram Nv Log) Unit
  save : Ram → Nv → Nv
  load : Ram → Nv → Ram
  readBack : StartupType → Ram → Nv → Ram
  start : StartupType → Draw → Cell Ram Nv Log → Cell Ram Nv Log
  respond : Draw → Cell Ram Nv Log → Cell Ram Nv Log
  lose : Nv → Log → Log

/-- What happens to the TPM.  A startup comes with what the part draws in it, and a power loss with
what is in RAM after it. -/
inductive Event (Ram Command Draw : Type)
  | command (env : Env) (c : Command)
  | shutdown (env : Env) (pcrReConfig : Bool) (shutdownType : Da.ShutdownType)
  | startup (env : Env) (i : Pcr.StartupInput) (startupType : Da.ShutdownType) (draw : Draw)
  | hashEnd
  | powerLoss (ram : Ram) (initOk : Bool)

namespace Part

variable {Ram Nv Log Command Draw : Type} (P : Part Ram Nv Log Command Draw)

/-- `TPM2_Shutdown()` -/
def tpm2Shutdown (pcrReConfig : Bool) (shutdownType : Da.ShutdownType) :
    Fallible TpmRc (Machine Ram Nv Log) Unit := do
  returnIfNvIsNotAvailable
  stopIf (pcrReConfig ∧ shutdownType = .state) (TPM_RC_TYPE + RC_FIRST_PARAMETER)
  .modify fun s =>
    if shutdownType = .state then s.write fun m => { m with data := P.save s.ram m.data } else s
  .modify fun s => s.setOrderlyState (shutdownState s.power shutdownType.value)

/-- What a startup reads, before the subsystems are started. -/
def starting (type : StartupType) (s : Machine Ram Nv Log) : Machine Ram Nv Log :=
  { s with
    orderlyState := prevOrderlyStateOf s.orderlyState
    ram := P.readBack type s.ram s.nv.data }

/-- The start of the subsystems. -/
def started (type : StartupType) (draw : Draw) (s : Machine Ram Nv Log) : Machine Ram Nv Log :=
  ({ s with power := { s.power with initialized := true } }.setCell
    (P.respond draw (P.start type draw s.cell))).setOrderlyState SU_NONE_VALUE

/-- `TPM2_Startup()` and its response.  If `CryptStartup()` fails, nothing else is started. -/
def tpm2Startup (i : Pcr.StartupInput) (startupType : Da.ShutdownType) (draw : Draw) :
    Fallible TpmRc (Machine Ram Nv Log) Unit := do
  returnIfNvIsNotAvailable
  stopIf (i.locality ≠ 0 ∧ i.locality ≠ 3) TPM_RC_LOCALITY
  let s ← gets id
  .modify fun s => { s with
    power := { s.power with startupLocality3 := startupLocality i s == 3 } }
  let check := startupCheck s.power.drtmPreStartup (startupLocality i s == 3) s.orderlyState
    startupType.value
  stopIf (check ≠ TPM_RC_SUCCESS) check
  let type := startupTypeOf (prevOrderlyStateOf s.orderlyState) startupType.value
  .modify fun s => P.starting type s
  if i.cryptOk then
    .modify fun s => P.started type draw s
  else do
    .modify fun s => { s with orderlyState := SU_NONE_VALUE }
    stop TPM_RC_FAILURE

/-- `_TPM_Init` with the image `file`. -/
def powerOn (ram : Ram) (initOk : Bool) (orderlyState : UInt16) (file : Image Nv) (log : Log) :
    Machine Ram Nv Log where
  toGlobals := Globals.powerOn false false initOk file
  orderlyState := if initOk then file.orderlyState else orderlyState
  ram := if initOk then P.load ram file.data else ram
  log := log

/-- `_TPM_Hash_End`: before the startup it is the H-CRTM event. -/
def hashEnd (s : Machine Ram Nv Log) : Machine Ram Nv Log :=
  if s.power.initialized then s
  else { s with power := { s.power with drtmPreStartup := true } }

/-- The response of an event, if it has one, and the state after it. -/
def exec : Event Ram Command Draw → Machine Ram Nv Log → Except TpmRc Unit × Machine Ram Nv Log
  | .command env c, s => execute env (commandBody true env (P.action c)) s
  | .shutdown env pcrReConfig shutdownType, s =>
    execute env (commandBody true env (P.tpm2Shutdown pcrReConfig shutdownType)) s
  | .startup env i startupType draw, s =>
    execute env (commandBody false env (P.tpm2Startup i startupType draw)) s
  | .hashEnd, s => (.ok (), hashEnd s)
  | .powerLoss ram initOk, s =>
    (.ok (), P.powerOn ram initOk s.orderlyState s.file
      (if s.inFailureMode then P.lose s.file.data s.log else s.log))

/-- The TPM from its first power-on after manufacture.  `data` is what manufacture may leave in NV,
`log` the empty log, and `fresh` what is assumed of the values that are drawn. -/
def system (data : Nv → Prop) (log : Log) (fresh : Log → Draw → Prop) :
    System (Machine Ram Nv Log) (Event Ram Command Draw) where
  init s := ∃ ram initOk orderlyState nv, data nv ∧
    s = P.powerOn ram initOk orderlyState ⟨TPM_SU_CLEAR, nv⟩ log
  enabled s
    | .startup _ _ _ draw => fresh s.log draw
    | _ => True
  step s e := (P.exec e s).2

instance decidableEnabled (data : Nv → Prop) (log : Log) (fresh : Log → Draw → Prop)
    [∀ log draw, Decidable (fresh log draw)] (s : Machine Ram Nv Log)
    (e : Event Ram Command Draw) : Decidable ((P.system data log fresh).enabled s e) :=
  match e with
  | .startup _ _ _ draw => inferInstanceAs (Decidable (fresh s.log draw))
  | .command _ _ | .shutdown _ _ _ | .hashEnd | .powerLoss _ _ => .isTrue trivial

end Part

/-! ## Invariants of a part -/

/-- What is to hold of the log (`Logged`), of the data of a started TPM (`Live`), of the data in NV
that a resume would read (`Saved`), and of the data before the startup (`Waits`). -/
structure Invariants (Ram Nv Log : Type) where
  Logged : Log → Prop
  Live : Cell Ram Nv Log → Prop
  Saved : Nv → Log → Prop
  Waits : Cell Ram Nv Log → Prop

section Rule

variable {Ram Nv Log Command Draw : Type}

/-- The action of a part leaves the orderly state alone, and says when it writes. -/
structure Acts (s s' : Machine Ram Nv Log) : Prop where
  orderlyState : s'.orderlyState = s.orderlyState
  nvOrderlyState : s'.nv.orderlyState = s.nv.orderlyState
  file : s'.file = s.file
  power : s'.power = s.power
  working : s'.inFailureMode = false → s.inFailureMode = false
  written : s'.updateNv = false → s.updateNv = false ∧ s'.nv = s.nv

instance : IsPreorder (Machine Ram Nv Log) Acts where
  refl _ := ⟨rfl, rfl, rfl, rfl, id, fun h => ⟨h, rfl⟩⟩
  trans _ _ _ h h' := {
    orderlyState := h'.orderlyState.trans h.orderlyState
    nvOrderlyState := h'.nvOrderlyState.trans h.nvOrderlyState
    file := h'.file.trans h.file
    power := h'.power.trans h.power
    working := fun hw => h.working (h'.working hw)
    written := fun hw =>
      ⟨(h.written (h'.written hw).1).1, (h'.written hw).2.trans (h.written (h'.written hw).1).2⟩ }

lemma acts_apply (e : Effect) (s : Machine Ram Nv Log) : Acts s (s.apply e) where
  orderlyState := rfl
  nvOrderlyState := rfl
  file := rfl
  power := rfl
  working h := (Bool.or_eq_false_iff.mp h).1
  written h := ⟨(Bool.or_eq_false_iff.mp h).1, rfl⟩

/-- The data after the startup of a part that finds `d`. -/
def Part.restart (P : Part Ram Nv Log Command Draw) (type : StartupType) (draw : Draw)
    (d : Cell Ram Nv Log) : Cell Ram Nv Log :=
  P.respond draw (P.start type draw { d with ram := P.readBack type d.ram d.nv })

/-- The obligations of an invariant.  `allowed` says which commands may be given, by what happens
around them, the orderly state and the data in RAM, and `startable` which startups.  A command that
would spoil the saved data may be given if it clears the orderly state and nothing fails. -/
structure Part.Upholds (P : Part Ram Nv Log Command Draw) (I : Invariants Ram Nv Log)
    (fresh : Log → Draw → Prop) (allowed : Env → UInt16 → Ram → Command → Prop)
    (startable : Env → Ram → Draw → Prop) : Prop where
  load_live : ∀ d, I.Live d → ∀ ram, I.Waits { d with ram := P.load ram d.nv }
  load_waits : ∀ d, I.Waits d → ∀ ram, I.Waits { d with ram := P.load ram d.nv }
  lose : ∀ nv log, I.Logged log →
    I.Logged (P.lose nv log) ∧ ∀ ram, I.Waits ⟨P.load ram nv, nv, P.lose nv log⟩
  lose_saved : ∀ nv log, I.Saved nv log → I.Saved nv (P.lose nv log)
  readBack : ∀ type d, I.Waits d → I.Waits { d with ram := P.readBack type d.ram d.nv }
  save : ∀ d, I.Live d →
    I.Live { d with nv := P.save d.ram d.nv } ∧ I.Saved (P.save d.ram d.nv) d.log
  acts : ∀ c, Keeps Acts (P.action c)
  action_live : ∀ env c s, allowed env s.orderlyState s.ram c → I.Logged s.log → I.Live s.cell →
    I.Logged (P.action c s).2.log ∧
      ((P.action c s).2.inFailureMode = false → I.Live (P.action c s).2.cell)
  action_saved : ∀ env c s, allowed env s.orderlyState s.ram c → I.Live s.cell →
    Resumable s.orderlyState → I.Saved s.nv.data s.log →
    (I.Saved s.nv.data (P.action c s).2.log ∧
        I.Saved (P.action c s).2.nv.data (P.action c s).2.log) ∨
      (env.Sound ∧ (P.action c s).2.clearOrderly = true ∧
        (s.inFailureMode = false → (P.action c s).2.inFailureMode = false))
  start : ∀ type draw d, fresh d.log draw → I.Logged d.log → I.Waits d →
    (type ≠ .reset → I.Saved d.nv d.log) →
    I.Logged (P.restart type draw d).log ∧ I.Live (P.restart type draw d)
  start_saved : ∀ env type draw d, startable env d.ram draw →
    env.Sound ∨ ∀ nv, I.Saved nv d.log → I.Saved nv (P.restart type draw d).log

variable (I : Invariants Ram Nv Log)

/-- The data and the orderly state of a TPM that works. -/
structure Settled (s : Machine Ram Nv Log) : Prop where
  resumable : Resumable s.orderlyState → Resumable s.nv.orderlyState
  live : s.power.initialized = true → I.Live s.cell
  orderly : s.power.initialized = true → s.nv.orderlyState = s.orderlyState
  waits : s.power.initialized = false → I.Waits s.cell

/-- The invariant of the machine.  What a resume would read is in the file. -/
structure Inv (s : Machine Ram Nv Log) : Prop where
  logged : I.Logged s.log
  saved : Resumable s.file.orderlyState → I.Saved s.file.data s.log
  settled : s.inFailureMode = false → Settled I s
  committed : s.inFailureMode = false → s.file = s.nv

/-- The end of the command commits NV. -/
structure Commits (env : Env) (s : Machine Ram Nv Log) : Prop where
  sound : env.Sound
  working : s.inFailureMode = false
  updates : s.updateNv = true ∨ s.clearOrderly = true ∧ isOrderly s.orderlyState = true

/-- The invariant in the course of a command.  The data in NV need not be fit for a resume if the
orderly state is going to be cleared. -/
structure Amid (env : Env) (s : Machine Ram Nv Log) : Prop where
  logged : I.Logged s.log
  kept : Commits env s ∨ (Resumable s.file.orderlyState → I.Saved s.file.data s.log)
  settled : s.inFailureMode = false → Settled I s
  saved : s.inFailureMode = false → (s.power.initialized = true → s.clearOrderly = false) →
    Resumable s.nv.orderlyState → I.Saved s.nv.data s.log
  written : s.inFailureMode = false → s.updateNv = false → s.file = s.nv

/-- The invariant before the commit. -/
structure Closing (env : Env) (s : Machine Ram Nv Log) : Prop where
  logged : I.Logged s.log
  kept : (env.Sound ∧ s.inFailureMode = false ∧ s.updateNv = true) ∨
    (Resumable s.file.orderlyState → I.Saved s.file.data s.log)
  settled : s.inFailureMode = false → Settled I s
  saved : s.inFailureMode = false → Resumable s.nv.orderlyState → I.Saved s.nv.data s.log
  written : s.inFailureMode = false → s.updateNv = false → s.file = s.nv

variable {I} {s : Machine Ram Nv Log} {env : Env}

lemma Settled.clear (hs : Settled I s) : Settled I (s.setOrderlyState SU_NONE_VALUE) where
  resumable h := absurd h Pcr.not_resumable_none
  live := hs.live
  orderly _ := rfl
  waits := hs.waits

lemma Amid.after (hs : Amid I env s) : Amid I env (s.apply env.after) := by
  refine ⟨hs.logged, hs.kept.imp (fun hc => ⟨hc.sound, ?_, ?_⟩) id, fun hw => ?_,
    fun hw hclear => hs.saved (Bool.or_eq_false_iff.mp hw).1 fun hi =>
      (Bool.or_eq_false_iff.mp (hclear hi)).1,
    fun hw hu => hs.written (Bool.or_eq_false_iff.mp hw).1 (Bool.or_eq_false_iff.mp hu).1⟩
  · show (s.inFailureMode || env.after.fails) = false
    rw [hc.working, hc.sound.after]
    rfl
  · show (s.updateNv || env.after.updateNv) = true ∨
      (s.clearOrderly || env.after.clearOrderly) = true ∧ _
    refine hc.updates.imp (fun h => ?_) fun h => ⟨?_, h.2⟩
    · rw [h]
      rfl
    · rw [h.1]
      rfl
  · have h := hs.settled (Bool.or_eq_false_iff.mp hw).1
    exact { h with }

lemma Amid.clear (hs : Amid I env s) : Closing I env (clearOrderlyState s) := by
  unfold clearOrderlyState
  by_cases hclear : s.toGlobals.clearsOrderly s.orderlyState = true
  · rw [if_pos hclear]
    exact ⟨hs.logged, hs.kept.imp (fun hc => ⟨hc.sound, hc.working, rfl⟩) id,
      fun hw => (hs.settled hw).clear, fun _ h => absurd h Pcr.not_resumable_none, nofun⟩
  · rw [if_neg hclear]
    refine ⟨hs.logged, hs.kept.imp (fun hc => ⟨hc.sound, hc.working, ?_⟩) id, hs.settled,
      fun hw hresume => hs.saved hw (fun hi => ?_) hresume, hs.written⟩
    · refine hc.updates.resolve_right fun h => hclear ?_
      rw [Globals.clearsOrderly, h.1, h.2]
      rfl
    · -- a started TPM from which a resume is possible is orderly
      cases horderly : isOrderly s.orderlyState with
      | false =>
        rw [(hs.settled hw).orderly hi] at hresume
        exact absurd hresume (Pcr.not_resumable_of_not_orderly horderly)
      | true => simpa [Globals.clearsOrderly, horderly] using hclear

lemma Closing.commit (hs : Closing I env s) : Inv I (commit env.commitOk s) := by
  simp only [Orderly.commit, Globals.commit, Globals.commits, Globals.nvCommit]
  cases hmode : s.inFailureMode with
  | true =>
    rw [if_neg (by simp)]
    have hkept := hs.kept.resolve_left fun h => by simp [hmode] at h
    exact ⟨hs.logged, hkept, fun h => by simp [hmode] at h, fun h => by simp [hmode] at h⟩
  | false =>
    cases hupdate : s.updateNv with
    | false =>
      rw [if_neg (by simp)]
      have hkept := hs.kept.resolve_left fun h => by simp [hupdate] at h
      exact ⟨hs.logged, hkept, hs.settled, fun h => hs.written h hupdate⟩
    | true =>
      rw [if_pos (by rfl)]
      split
      case isTrue =>
        have h := hs.settled hmode
        exact ⟨hs.logged, hs.saved hmode, fun _ => ⟨h.resumable, h.live, h.orderly, h.waits⟩,
          fun _ => rfl⟩
      case isFalse hnot =>
        have hkept := hs.kept.resolve_left fun h => hnot h.1.commitOk
        exact ⟨hs.logged, hkept, fun h => Bool.noConfusion h, fun h => Bool.noConfusion h⟩

lemma Amid.end (hs : Amid I env s) : Inv I (endCommand env s) := hs.after.clear.commit

/-- The state in which the routines of a command start. -/
structure Begun (I : Invariants Ram Nv Log) (env : Env) (s t : Machine Ram Nv Log) : Prop where
  orderlyState : t.orderlyState = s.orderlyState
  ram : t.ram = s.ram
  log : t.log = s.log
  file : t.file = t.nv
  logged : I.Logged t.log
  settled : Settled I t
  saved : Resumable t.nv.orderlyState → I.Saved t.nv.data t.log
  working : env.Sound → t.inFailureMode = false

lemma Inv.begin (hs : Inv I s) (hmode : s.inFailureMode = false) (env : Env) :
    Begun I env s (beginCommand env s) := by
  have hfile := hs.committed hmode
  have h := hs.settled hmode
  refine ⟨rfl, rfl, rfl, hfile, hs.logged, ⟨h.resumable, h.live, h.orderly, h.waits⟩, ?_,
    fun henv => ?_⟩
  · show Resumable s.nv.orderlyState → I.Saved s.nv.data s.log
    rw [← hfile]
    exact hs.saved
  · show (s.inFailureMode || env.before.fails) = false
    rw [hmode, henv.before]
    rfl

lemma Begun.amid {t t' : Machine Ram Nv Log} (h : Begun I env s t) (hnv : t'.nv = t.nv)
    (hfile : t'.file = t.file) (hlog : t'.log = t.log) (hsettled : Settled I t') :
    Amid I env t' := by
  refine ⟨hlog ▸ h.logged, .inr ?_, fun _ => hsettled, fun _ _ => ?_, fun _ _ => ?_⟩
  · rw [hfile, hlog, h.file]
    exact h.saved
  · rw [hnv, hlog]
    exact h.saved
  · rw [hfile, hnv, h.file]

lemma commandBody_cases (initialized : Bool) (env : Env)
    (action : Fallible TpmRc (Machine Ram Nv Log) Unit) (s : Machine Ram Nv Log) :
    (∃ rc, commandBody initialized env action s = (.error rc, s)) ∨
      (s.power.initialized = initialized ∧ commandBody initialized env action s = action s) := by
  unfold commandBody
  rw [gets_bind]
  by_cases h : s.power.initialized = initialized
  · rw [stopIf_bind_of_not (not_not.mpr h)]
    cases env.refused with
    | some rc => exact .inl ⟨rc, rfl⟩
    | none => exact .inr ⟨h, rfl⟩
  · rw [stopIf_bind_of h]
    exact .inl ⟨_, rfl⟩

lemma Inv.execute (hs : Inv I s) {initialized : Bool}
    {action : Fallible TpmRc (Machine Ram Nv Log) Unit}
    (haction : ∀ t, t.power.initialized = initialized → Begun I env s t → Amid I env (action t).2) :
    Inv I (execute env (commandBody initialized env action) s).2 := by
  unfold Orderly.execute
  cases hmode : s.inFailureMode with
  | true =>
    rw [if_pos rfl]
    have hnot : s.inFailureMode ≠ false := by simp [hmode]
    exact ⟨hs.logged, hs.saved, fun h => absurd h hnot, fun h => absurd h hnot⟩
  | false =>
    rw [if_neg nofun]
    have hbegun := hs.begin hmode env
    refine Amid.end ?_
    obtain ⟨rc, h⟩ | ⟨hinitialized, h⟩ :=
      commandBody_cases initialized env action (beginCommand env s)
    · rw [h]
      exact hbegun.amid rfl rfl rfl hbegun.settled
    · rw [h]
      exact haction _ hinitialized hbegun

/-! ## The rule -/

variable {P : Part Ram Nv Log Command Draw} {fresh : Log → Draw → Prop}
  {allowed : Env → UInt16 → Ram → Command → Prop} {startable : Env → Ram → Draw → Prop}

/-- The condition on the steps of a run. -/
def Part.Condition (allowed : Env → UInt16 → Ram → Command → Prop)
    (startable : Env → Ram → Draw → Prop) (s : Machine Ram Nv Log) :
    Event Ram Command Draw → Prop
  | .command env c => allowed env s.orderlyState s.ram c
  | .startup env _ _ draw => startable env s.ram draw
  | _ => True

instance (allowed : Env → UInt16 → Ram → Command → Prop) (startable : Env → Ram → Draw → Prop)
    [∀ env o r c, Decidable (allowed env o r c)] [∀ env r draw, Decidable (startable env r draw)]
    (s : Machine Ram Nv Log) (e : Event Ram Command Draw) :
    Decidable (Part.Condition allowed startable s e) :=
  match e with
  | .command env c => inferInstanceAs (Decidable (allowed env s.orderlyState s.ram c))
  | .startup env _ _ draw => inferInstanceAs (Decidable (startable env s.ram draw))
  | .shutdown _ _ _ | .hashEnd | .powerLoss _ _ => .isTrue trivial

namespace Part.Upholds

variable {t : Machine Ram Nv Log}

lemma amid_action (hP : P.Upholds I fresh allowed startable) {c : Command}
    (hallowed : allowed env s.orderlyState s.ram c) (hinitialized : t.power.initialized = true)
    (ht : Begun I env s t) : Amid I env (P.action c t).2 := by
  rw [← ht.orderlyState, ← ht.ram] at hallowed
  have hacts := hP.acts c t
  have hlive := ht.settled.live hinitialized
  have horderly := ht.settled.orderly hinitialized
  obtain ⟨hlogged', hlive'⟩ := hP.action_live env c t hallowed ht.logged hlive
  -- what is left of the saved data, if there is any
  have hcases : Resumable t.nv.orderlyState → _ := fun h =>
    hP.action_saved env c t hallowed hlive (horderly ▸ h) (ht.saved h)
  refine ⟨hlogged', ?_, fun hw => ⟨fun h => ?_, fun _ => hlive' hw, fun _ => ?_, fun h => ?_⟩,
    fun _ hclear h => ?_, fun _ hu => ?_⟩
  · rw [hacts.file, ht.file]
    by_cases h : Resumable t.nv.orderlyState
    · obtain hsaved | ⟨hsound, hclear, hworking⟩ := hcases h
      · exact .inr fun _ => hsaved.1
      · refine .inl ⟨hsound, hworking (ht.working hsound), .inr ⟨hclear, ?_⟩⟩
        rw [hacts.orderlyState, ← horderly]
        by_contra hnot
        exact Pcr.not_resumable_of_not_orderly (Bool.not_eq_true _ ▸ hnot) h
    · exact .inr fun h' => absurd h' h
  · rwa [hacts.orderlyState, ← horderly, ← hacts.nvOrderlyState] at h
  · rw [hacts.orderlyState, hacts.nvOrderlyState, horderly]
  · rw [hacts.power, hinitialized] at h
    cases h
  · rw [hacts.nvOrderlyState] at h
    obtain hsaved | ⟨-, hset, -⟩ := hcases h
    · exact hsaved.2
    · rw [hclear (by rw [hacts.power, hinitialized])] at hset
      cases hset
  · rw [hacts.file, (hacts.written hu).2, ht.file]

lemma not_resumable_clear : ¬Resumable TPM_SU_CLEAR := by decide

lemma amid_shutdown (hP : P.Upholds I fresh allowed startable) (pcrReConfig : Bool)
    (shutdownType : Da.ShutdownType) (hinitialized : t.power.initialized = true)
    (ht : Begun I env s t) : Amid I env (P.tpm2Shutdown pcrReConfig shutdownType t).2 := by
  have hlive := ht.settled.live hinitialized
  have hsaved : Resumable t.file.orderlyState → I.Saved t.file.data t.log := by
    rw [ht.file]
    exact ht.saved
  have hrefused : Amid I env t := ht.amid rfl rfl rfl ht.settled
  unfold tpm2Shutdown returnIfNvIsNotAvailable
  rw [bind_assoc, gets_bind]
  by_cases hnv : t.nvStatus ≠ TPM_RC_SUCCESS
  · rw [stopIf_bind_of hnv]
    exact hrefused
  rw [stopIf_bind_of_not hnv]
  by_cases htype : (pcrReConfig : Prop) ∧ shutdownType = .state
  · rw [stopIf_bind_of htype]
    exact hrefused
  rw [stopIf_bind_of_not htype, modify_bind]
  have hnot : t.power.initialized ≠ false := hinitialized ▸ nofun
  cases shutdownType with
  | clear =>
    exact ⟨ht.logged, .inr hsaved, fun _ => ⟨fun h => absurd h not_resumable_clear,
      fun _ => hlive, fun _ => rfl, fun h => absurd h hnot⟩,
      fun _ _ h => absurd h not_resumable_clear, nofun⟩
  | state =>
    obtain ⟨hlive', hsaved'⟩ := hP.save t.cell hlive
    exact ⟨ht.logged, .inr hsaved, fun _ => ⟨id, fun _ => hlive', fun _ => rfl,
      fun h => absurd h hnot⟩, fun _ _ _ => hsaved', nofun⟩

lemma resumable_of_startupTypeOf {orderlyState startupType : UInt16}
    (h : startupTypeOf (prevOrderlyStateOf orderlyState) startupType ≠ .reset) :
    Resumable orderlyState := by
  unfold startupTypeOf at h
  by_contra hnot
  rw [if_neg (by exact hnot)] at h
  exact h rfl

lemma tpm2Startup_cases (P : Part Ram Nv Log Command Draw) (i : Pcr.StartupInput)
    (startupType : Da.ShutdownType) (draw : Draw) (s : Machine Ram Nv Log) :
    ∃ power : PowerState, power.initialized = s.power.initialized ∧
      ∃ type, type = startupTypeOf (prevOrderlyStateOf s.orderlyState) startupType.value ∧
      ((∃ rc, P.tpm2Startup i startupType draw s = (.error rc, s)) ∨
        (∃ rc, P.tpm2Startup i startupType draw s = (.error rc, { s with power := power })) ∨
        (∃ rc, P.tpm2Startup i startupType draw s =
          (.error rc, { P.starting type { s with power := power } with
            orderlyState := SU_NONE_VALUE })) ∨
        P.tpm2Startup i startupType draw s =
          (.ok (), P.started type draw (P.starting type { s with power := power }))) := by
  refine ⟨{ s.power with startupLocality3 := startupLocality i s == 3 }, rfl, _, rfl, ?_⟩
  unfold tpm2Startup returnIfNvIsNotAvailable
  rw [bind_assoc, gets_bind]
  by_cases hnv : s.nvStatus ≠ TPM_RC_SUCCESS
  · rw [stopIf_bind_of hnv]
    exact .inl ⟨_, rfl⟩
  rw [stopIf_bind_of_not hnv]
  by_cases hlocality : i.locality ≠ 0 ∧ i.locality ≠ 3
  · rw [stopIf_bind_of hlocality]
    exact .inl ⟨_, rfl⟩
  rw [stopIf_bind_of_not hlocality, gets_bind, modify_bind]
  by_cases hcheck : startupCheck s.power.drtmPreStartup (startupLocality i s == 3)
      s.orderlyState startupType.value ≠ TPM_RC_SUCCESS
  · rw [id, stopIf_bind_of hcheck]
    exact .inr (.inl ⟨_, rfl⟩)
  rw [id, stopIf_bind_of_not hcheck, modify_bind]
  split
  case isTrue => exact .inr (.inr (.inr rfl))
  case isFalse => exact .inr (.inr (.inl ⟨_, rfl⟩))

lemma amid_startup (hP : P.Upholds I fresh allowed startable) (i : Pcr.StartupInput)
    (startupType : Da.ShutdownType) {draw : Draw} (hfresh : fresh s.log draw)
    (hstartable : startable env s.ram draw) (hinitialized : t.power.initialized = false)
    (ht : Begun I env s t) : Amid I env (P.tpm2Startup i startupType draw t).2 := by
  rw [← ht.log] at hfresh
  rw [← ht.ram] at hstartable
  have hwaits := ht.settled.waits hinitialized
  obtain ⟨power, hpower, type, htype, hcases⟩ := tpm2Startup_cases P i startupType draw t
  rw [hinitialized] at hpower
  have hnot : power.initialized ≠ true := hpower ▸ nofun
  rcases hcases with ⟨rc, h⟩ | ⟨rc, h⟩ | ⟨rc, h⟩ | h
  · rw [h]
    exact ht.amid rfl rfl rfl ht.settled
  · rw [h]
    exact ht.amid rfl rfl rfl ⟨ht.settled.resumable, fun h => absurd h hnot,
      fun h => absurd h hnot, fun _ => hwaits⟩
  · rw [h]
    exact ht.amid rfl rfl rfl ⟨fun h => absurd h Pcr.not_resumable_none, fun h => absurd h hnot,
      fun h => absurd h hnot, fun _ => hP.readBack type t.cell hwaits⟩
  · rw [h]
    have hsaved : type ≠ .reset → I.Saved t.nv.data t.log := fun hreset => by
      rw [htype] at hreset
      exact ht.saved (ht.settled.resumable (resumable_of_startupTypeOf hreset))
    obtain ⟨hlogged', hlive'⟩ := hP.start type draw t.cell hfresh ht.logged hwaits hsaved
    refine ⟨hlogged', ?_, fun _ => ⟨fun h => absurd h Pcr.not_resumable_none, fun _ => hlive',
      fun _ => rfl, nofun⟩, fun _ _ h => absurd h Pcr.not_resumable_none, nofun⟩
    obtain hsound | hkept := hP.start_saved env type draw t.cell hstartable
    · exact .inl ⟨hsound, ht.working hsound, .inl rfl⟩
    · refine .inr fun hresume => hkept _ ?_
      have hresume' : Resumable t.file.orderlyState := hresume
      show I.Saved t.file.data t.log
      rw [ht.file] at hresume' ⊢
      exact ht.saved hresume'

lemma inv_powerLoss (hP : P.Upholds I fresh allowed startable) (hs : Inv I s) (ram : Ram) :
    Inv I (P.exec (.powerLoss ram true) s).2 := by
  show Inv I (P.powerOn ram true s.orderlyState s.file
    (if s.inFailureMode then P.lose s.file.data s.log else s.log))
  cases hmode : s.inFailureMode with
  | true =>
    obtain ⟨hlogged, hwaits⟩ := hP.lose s.file.data s.log hs.logged
    exact ⟨hlogged, fun h => hP.lose_saved _ _ (hs.saved h), fun _ => ⟨id,
      nofun, nofun, fun _ => hwaits ram⟩, fun _ => rfl⟩
  | false =>
    refine ⟨hs.logged, hs.saved, fun _ => ⟨id, nofun,
      nofun, fun _ => ?_⟩, fun _ => rfl⟩
    have h := hs.settled hmode
    show I.Waits ⟨P.load ram s.file.data, s.file.data, s.log⟩
    rw [hs.committed hmode]
    cases hinitialized : s.power.initialized with
    | true => exact hP.load_live _ (h.live hinitialized) ram
    | false => exact hP.load_waits _ (h.waits hinitialized) ram

lemma inv_step (hP : P.Upholds I fresh allowed startable) (data : Nv → Prop) (log : Log)
    (e : Event Ram Command Draw) (hs : Inv I s)
    (he : ((P.system data log fresh).restrict (Part.Condition allowed startable)).enabled s e) :
    Inv I (P.exec e s).2 := by
  obtain ⟨hfresh, hcond⟩ := he
  cases e with
  | command env c => exact hs.execute fun t hi ht => hP.amid_action hcond hi ht
  | shutdown env pcrReConfig shutdownType =>
    exact hs.execute fun t hi ht => hP.amid_shutdown pcrReConfig shutdownType hi ht
  | startup env i startupType draw =>
    exact hs.execute fun t hi ht => hP.amid_startup i startupType hfresh hcond hi ht
  | hashEnd =>
    show Inv I (hashEnd s)
    unfold hashEnd
    split
    · exact hs
    · refine ⟨hs.logged, hs.saved, fun hw => ?_, hs.committed⟩
      exact { hs.settled hw with }
  | powerLoss ram initOk =>
    cases initOk with
    | true => exact hP.inv_powerLoss hs ram
    | false =>
      -- the log of a power loss does not depend on what `_TPM_Init` does
      have h := hP.inv_powerLoss hs ram
      exact ⟨h.logged, h.saved, nofun, nofun⟩

lemma inv_reach (hP : P.Upholds I fresh allowed startable) {data : Nv → Prop} {log : Log}
    (hlog : I.Logged log) (hdata : ∀ nv, data nv → ∀ ram, I.Waits ⟨P.load ram nv, nv, log⟩)
    (h : ((P.system data log fresh).restrict (Part.Condition allowed startable)).Reach s) :
    Inv I s := by
  refine h.invariant ?_ fun t e ht he => hP.inv_step data log e ht he
  rintro t ⟨ram, initOk, orderlyState, nv, hnv, rfl⟩
  have hnot : Resumable TPM_SU_CLEAR → I.Saved nv log := fun h => absurd h not_resumable_clear
  cases initOk with
  | true =>
    exact ⟨hlog, hnot, fun _ => ⟨id, nofun, nofun,
      fun _ => hdata nv hnv ram⟩, fun _ => rfl⟩
  | false => exact ⟨hlog, hnot, nofun, nofun⟩

end Part.Upholds

end Rule

end RfTpm.Orderly
