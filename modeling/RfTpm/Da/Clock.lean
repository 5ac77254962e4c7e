import RfTpm.Da.Frame
import RfTpm.Lib.Runs

/-!
# The clock and its safe flag

`TPM2_ReadClock()` reports the clock with a flag.  A clock that is reported as safe should not
be behind any clock reported before, in this power cycle or in an earlier one.

The clock runs in RAM and goes to NV once in every interval of `2 ^ 22` milliseconds, and at a
shutdown.  After a cycle that did not end with a shutdown the flag is cleared until the clock enters
a new interval, and then it is ahead of everything reported before (`Live.timeClockUpdate`).  After
a shutdown the flag is kept, because the image has the clock as it was.  But the TPM goes on after a
shutdown: a clock that is read then is ahead of the image, and nothing records it.
-/

namespace RfTpm.Da

open Runs List

/-! ## Intervals of the clock -/

lemma toNat_or_mask (a : UInt64) :
    (a ||| CLOCK_UPDATE_MASK).toNat = 2 ^ 22 * (a.toNat / 2 ^ 22) + (2 ^ 22 - 1) := by
  rw [UInt64.toNat_or]
  exact Bytes.or_two_pow_sub_one a.toNat 22

lemma le_or_mask (a : UInt64) : a ≤ a ||| CLOCK_UPDATE_MASK := by
  rw [UInt64.le_iff_toNat_le, toNat_or_mask]
  omega

lemma or_mask_lt {a b : UInt64} (h : a ||| CLOCK_UPDATE_MASK < b ||| CLOCK_UPDATE_MASK) :
    a ||| CLOCK_UPDATE_MASK < b := by
  rw [UInt64.lt_iff_toNat_lt] at h ⊢
  rw [toNat_or_mask, toNat_or_mask] at h
  rw [toNat_or_mask]
  omega

lemma or_mask_eq {a b : UInt64} (h : a ≤ b)
    (h' : ¬ a ||| CLOCK_UPDATE_MASK < b ||| CLOCK_UPDATE_MASK) :
    b ||| CLOCK_UPDATE_MASK = a ||| CLOCK_UPDATE_MASK := by
  rw [UInt64.lt_iff_toNat_lt] at h'
  rw [UInt64.le_iff_toNat_le] at h
  rw [toNat_or_mask, toNat_or_mask] at h'
  apply UInt64.toNat_inj.mp
  rw [toNat_or_mask, toNat_or_mask]
  omega

/-! ## Images and running TPMs that account for what was reported -/

/-- The image accounts for the reported clocks: none is ahead of the image's interval, and
none is ahead of its clock if a restart would call that clock safe. -/
structure Accounts (image : Image) (reported : List UInt64) : Prop where
  interval : ∀ r ∈ reported, r ≤ image.go.clock ||| CLOCK_UPDATE_MASK
  orderly : isOrderly image.gp.orderlyState = true → image.go.clockSafe = true →
    ∀ r ∈ reported, r ≤ image.go.clock

/-- A running TPM accounts for the reported clocks: so does its image, its clock is in the
image's interval, and if the clock is safe then none is ahead of it. -/
structure Live (s : Tpm) (reported : List UInt64) : Prop where
  image : Accounts s.nv reported
  interval : s.go.clock ||| CLOCK_UPDATE_MASK = s.nv.go.clock ||| CLOCK_UPDATE_MASK
  safe : s.go.clockSafe = true → ∀ r ∈ reported, r ≤ s.go.clock
  staged : s.updateNv = false → s.nv = s.file

variable {s s' : Tpm} {reported : List UInt64}

namespace Live

lemma frame (h : Live s reported) (hf : Frame s s') : Live s' reported where
  image := by
    refine ⟨?_, ?_⟩
    · rw [hf.nvGo]
      exact h.image.interval
    · rw [hf.nvGo, hf.nvOrderlyState]
      exact h.image.orderly
  interval := by rw [hf.clock, hf.nvGo, h.interval]
  safe := by
    rw [hf.clock, hf.clockSafe]
    exact h.safe
  staged hu := by
    obtain ⟨hu', hnv⟩ := hf.staged hu
    rw [hnv, hf.file, h.staged hu']

/-- Moving the clock forward keeps the account.  A clock that enters a new interval is ahead
of everything that was reported in the old one. -/
lemma timeClockUpdate (h : Live s reported) {newTime : UInt64} (hle : s.go.clock ≤ newTime) :
    Live (Da.timeClockUpdate newTime s) reported := by
  unfold Da.timeClockUpdate
  split
  · case isTrue hnew =>
    have hahead : ∀ r ∈ reported, r ≤ newTime := fun r hr => by
      have hr' := h.image.interval r hr
      rw [← h.interval] at hr'
      exact UInt64.le_trans hr' (UInt64.le_of_lt (or_mask_lt hnew))
    have hgo : ∀ t : Tpm, (t.pAssert s.nvIsAvailable).go = t.go := fun t => by
      unfold Tpm.pAssert
      split <;> rfl
    refine ⟨⟨?_, ?_⟩, ?_, ?_, ?_⟩
    all_goals simp only [Tpm.writeOrderlyData, hgo]
    · exact fun r hr => UInt64.le_trans (hahead r hr) (le_or_mask newTime)
    · exact fun _ _ => hahead
    · exact fun _ => hahead
    · intro hno
      cases hno
  · case isFalse hsame =>
    refine ⟨h.image, (or_mask_eq hle hsame).trans h.interval, fun hsafe r hr => ?_, h.staged⟩
    exact UInt64.le_trans (h.safe hsafe r hr) hle

lemma of_eq (h : Live s reported) (hgo : s'.go = s.go) (hnv : s'.nv = s.nv)
    (hfile : s'.file = s.file) (hu : s'.updateNv = s.updateNv) : Live s' reported := by
  obtain ⟨himage, hinterval, hsafe, hstaged⟩ := h
  refine ⟨?_, ?_, ?_, ?_⟩
  · rwa [hnv]
  · rwa [hgo, hnv]
  · rwa [hgo]
  · rwa [hu, hnv, hfile]

lemma report (h : Live s reported) (horderly : isOrderly s.nv.gp.orderlyState = false) :
    Live s (reported ++ [s.go.clock]) := by
  have hself : s.go.clock ≤ s.nv.go.clock ||| CLOCK_UPDATE_MASK := by
    rw [← h.interval]
    exact le_or_mask _
  refine ⟨⟨fun r hr => ?_, fun ho => ?_⟩, h.interval, fun hsafe r hr => ?_, h.staged⟩
  · rcases mem_append.mp hr with hold | hnew
    · exact h.image.interval r hold
    · rwa [mem_singleton.mp hnew]
  · rw [horderly] at ho
    cases ho
  · rcases mem_append.mp hr with hold | hnew
    · exact h.safe hsafe r hold
    · rw [mem_singleton.mp hnew]
      exact UInt64.le_refl _

end Live

/-! ## The functions of a command -/

/-- The clock does not wrap when it is next updated. -/
def NoWrap (s : Tpm) : Prop := s.go.clock.toNat + (elapsed s).toNat < 2 ^ 64

instance (s : Tpm) : Decidable (NoWrap s) := inferInstanceAs (Decidable (_ < _))

lemma Frame.noWrap (hf : Frame s s') (h : NoWrap s) : NoWrap s' := by
  unfold NoWrap elapsed at h ⊢
  rwa [hf.clock, hf.timer, hf.time]

lemma Live.timeAdvance (h : Live s reported) (hwrap : NoWrap s) :
    Live (Da.timeAdvance s) reported := by
  have hle : s.go.clock ≤ s.go.clock + elapsed s := by
    rw [UInt64.le_iff_toNat_le, UInt64.toNat_add, Nat.mod_eq_of_lt hwrap]
    exact Nat.le_add_right _ _
  have hlive : Live { s with time := s.time + elapsed s } reported := h.of_eq rfl rfl rfl rfl
  exact hlive.timeClockUpdate hle

lemma Live.timeUpdate (h : Live s reported) (hwrap : NoWrap s) :
    Live (Da.timeUpdate s) reported := by
  have hepoch := (steady_consumeStopped s).toFrame
  exact ((h.frame hepoch).timeAdvance (hepoch.noWrap hwrap)).frame (frame_daSelfHeal _)

lemma Live.clockSet (h : Live s reported) (newTime : UInt64) :
    Live (tpm2ClockSet newTime s) reported := by
  unfold tpm2ClockSet
  split_ifs with hrange
  · exact h
  · exact h
  · push Not at hrange
    exact h.timeClockUpdate (UInt64.not_lt.mp hrange.2)

lemma Live.shutdown (h : Live s reported) (shutdownType : ShutdownType) (pcrReConfig : Bool) :
    Live (tpm2Shutdown shutdownType pcrReConfig s) reported := by
  unfold tpm2Shutdown
  split_ifs
  · exact h
  · exact h
  · refine ⟨⟨?_, fun _ => h.safe⟩, rfl, h.safe, nofun⟩
    intro r hr
    have hr' := h.image.interval r hr
    rwa [← h.interval] at hr'

/-- The commands that the account survives. -/
def Command.isClear : Command → Bool
  | .clear _ => true
  | _ => false

lemma Live.action (h : Live s reported) (c : Command) (hclear : c.isClear = false) :
    Live (c.action s) reported := by
  cases c with
  | readClock => exact h
  | clockSet newTime => exact h.clockSet newTime
  | shutdown shutdownType pcrReConfig => exact h.shutdown shutdownType pcrReConfig
  | dictionaryAttackLockReset =>
    unfold Command.action tpm2DictionaryAttackLockReset
    dsimp only
    split_ifs
    · exact h
    · exact h.frame ((steady_counters s 0 _ _ _).trans (steady_syncFailedTries _)).toFrame
  | dictionaryAttackParameters m r l =>
    unfold Command.action tpm2DictionaryAttackParameters
    dsimp only
    split_ifs
    · exact h
    · exact ⟨⟨h.image.interval, h.image.orderly⟩, h.interval, h.safe, nofun⟩
  | clear disableClear => cases hclear
  | other clearOrderly => exact h.of_eq rfl rfl rfl rfl

/-- The image and the working copy agree about the orderly state. -/
def Synced (s : Tpm) : Prop := s.nv.gp.orderlyState = s.gp.orderlyState

lemma Quiet.synced (hq : Quiet s s') (h : Synced s) : Synced s' := by
  unfold Synced at h ⊢
  rw [hq.nvOrderlyState, hq.orderlyState, h]

lemma synced_action (h : Synced s) (c : Command) : Synced (c.action s) := by
  cases c with
  | readClock => exact h
  | clockSet newTime =>
    unfold Command.action tpm2ClockSet
    dsimp only
    split_ifs
    · exact h
    · exact h
    · exact (quiet_timeClockUpdate newTime s).synced h
  | shutdown | dictionaryAttackParameters | clear =>
    -- what writes the orderly state writes both copies
    simp only [Command.action, tpm2Shutdown, tpm2DictionaryAttackParameters, tpm2Clear]
    split_ifs <;> first
      | exact h
      | rfl
  | dictionaryAttackLockReset =>
    unfold Command.action tpm2DictionaryAttackLockReset
    dsimp only
    split_ifs
    · exact h
    · exact ((steady_counters s 0 _ _ _).trans (steady_syncFailedTries _)).toQuiet.synced h
  | other clearOrderly => exact h

/-! ## Between commands -/

/-- A TPM that waits for its startup: it has the clock of the image. -/
structure Waiting (s : Tpm) (reported : List UInt64) : Prop where
  file : Accounts s.file reported
  nv : s.nv = s.file
  go : s.go = s.file.go
  orderly : s.nvIsOrderly = true → isOrderly s.file.gp.orderlyState = true

/-- What holds between commands: the committed image accounts for the reported clocks, and so
does a TPM that runs or waits for its startup. -/
def Between (s : Tpm) (reported : List UInt64) : Prop :=
  Rests (Accounts · reported) (Waiting · reported) (fun s => Live s reported ∧ Synced s) s

lemma Live.cleared (h : Live s reported) : Live (endStartup s).syncOrderlyState reported :=
  ⟨⟨h.image.interval, fun ho => (not_isOrderly_none ho).elim⟩, h.interval, h.safe, nofun⟩

lemma cleans_live (reported : List UInt64) :
    Cleans (Accounts · reported) (fun s => Live s reported ∧ Synced s) where
  cleared _ h := ⟨h.1.cleared, rfl⟩
  committed _ h := ⟨{ h.1 with staged := fun _ => rfl }, h.2⟩
  image _ h := h.1.image
  staged _ h := h.1.staged

variable {p : Platform}

/-- NV is there for the command, and its commit succeeds. -/
def Platform.Available (p : Platform) : Prop := p.nvStatus = TPM_RC_SUCCESS ∧ p.commitOk = true

instance (p : Platform) : Decidable p.Available := inferInstanceAs (Decidable (_ ∧ _))

/-- The state in which a running TPM gets to the sessions of a command. -/
structure Begun (s₀ s : Tpm) (reported : List UInt64) : Prop where
  quiet : Quiet s₀ s
  live : Live s reported
  mode : s.inFailureMode = false

lemma Between.begun (h : Between s reported) (hp : p.Available) (hwrap : NoWrap s)
    (hmode : s.inFailureMode = false) (hinit : s.power.initialized = true) :
    Begun (resetFlags p s) (beginCommand p s) reported := by
  obtain ⟨⟨hlive, -⟩, hnv⟩ := h.running hmode hinit
  have havailable : (resetFlags p s).nvIsAvailable = true := by
    simp [resetFlags, Tpm.nvIsAvailable, hp.1]
  have hlive₀ : Live (resetFlags p s) reported :=
    { hlive with staged := fun _ => hnv }
  rw [(beginCommand_running hinit hp.1).1]
  exact ⟨quiet_timeUpdate _, hlive₀.timeUpdate hwrap,
    (inFailureMode_timeUpdate havailable).trans hmode⟩

/-- The clocks an output reports. -/
def Output.reports (o : Output) : List UInt64 :=
  match o.clock with
  | .none => []
  | .some info => [info.clock]

lemma Waiting.relabel (h : Waiting s reported) {o : UInt16} {power : PowerState} {n : TpmRc}
    (ho : isOrderly o = true → s.nvIsOrderly = true) : Waiting (s.relabel o power n) reported :=
  { h with orderly := fun ho' => h.orderly (ho ho') }

lemma Between.idle (h : Between s reported) (hidle : Idle s s') : Between s' reported :=
  Rests.idle h (fun ho hw => hw.relabel ho) hidle

lemma Between.safe_report (h : Between s reported) (hp : p.Available) (hwrap : NoWrap s)
    {us : List SessionUse} {c : Command} {info : ClockInfo}
    (hinfo : (execute p (commandBody us c) s).1.clock = .some info) (hsafe : info.safe = true) :
    ∀ r ∈ reported, r ≤ info.clock := by
  obtain ⟨hnone, -⟩ | ⟨hmode, hinit⟩ := execute_command_cases p us c s
  · rw [hnone] at hinfo
    cases hinfo
  have hbegun := h.begun hp hwrap hmode hinit
  have hlive := hbegun.live.frame (frame_checkSessions us (beginCommand p s))
  rw [execute_eq hmode] at hinfo
  unfold commandBody at hinfo
  dsimp only at hinfo
  split_ifs at hinfo
  all_goals cases hinfo
  exact hlive.safe (Bool.and_eq_true _ _ ▸ hsafe : _ ∧ _).2

lemma Between.command (h : Between s reported) (hp : p.Available) (hwrap : NoWrap s)
    (us : List SessionUse) {c : Command} (hclear : c.isClear = false)
    (hread : c = .readClock → s.nvIsOrderly = false) :
    Between (execute p (commandBody us c) s).2
      (reported ++ (execute p (commandBody us c) s).1.reports) := by
  obtain ⟨hnone, hidle⟩ | ⟨hmode, hinit⟩ := execute_command_cases p us c s
  · rw [hnone]
    simpa [Output.none, Output.reports] using h.idle hidle
  obtain ⟨⟨-, hsynced⟩, -⟩ := h.running hmode hinit
  have hbegun := h.begun hp hwrap hmode hinit
  have hframe := frame_checkSessions us (beginCommand p s)
  have hquiet := hbegun.quiet.trans hframe.toQuiet
  have hlive := hbegun.live.frame hframe
  set s₁ := (checkSessions us (beginCommand p s)).2 with hs₁
  have hsynced₁ : Synced s₁ := hquiet.synced hsynced
  have hfile₁ : s₁.file = s.file := hquiet.file
  have hinit₁ : s₁.power.initialized = true := by rw [hquiet.power]; exact hinit
  have hbegin := (initialized_beginCommand p s).trans hinit
  rw [execute_eq hmode]
  unfold commandBody
  simp only [hbegin, Bool.not_true, Bool.false_eq_true, if_false, ← hs₁]
  split_ifs with hpass hclock
  · -- the one case in which a clock is reported
    have hmode₁ : s₁.inFailureMode = false :=
      (inFailureMode_checkSessions us _ hpass).trans hbegun.mode
    have horderly : isOrderly s₁.nv.gp.orderlyState = false := by
      rw [hsynced₁, hquiet.orderlyState]
      exact hread hclock
    subst hclock
    exact (cleans_live _).endCommand ⟨hlive.report horderly, hsynced₁⟩ hinit₁
      fun hlost => by simp [Command.action, hmode₁, hp.2] at hlost
  · obtain ⟨hpower, hfile⟩ := action_power_file c s₁
    simp only [Output.reports, append_nil]
    refine (cleans_live _).endCommand ⟨hlive.action c hclear, synced_action hsynced₁ c⟩
      (by rw [hpower]; exact hinit₁) fun _ => ?_
    rw [hfile, hfile₁]
    exact h.file
  · simp only [Output.reports, append_nil]
    exact (cleans_live _).endCommand ⟨hlive, hsynced₁⟩ hinit₁ fun _ => hfile₁ ▸ h.file

/-! ## Startup -/

lemma Waiting.timeStartup (h : Waiting s reported) : Live (Da.timeStartup s) reported := by
  have himage : Accounts s.nv reported := h.nv ▸ h.file
  have hgo : s.go = s.nv.go := by rw [h.go, h.nv]
  unfold Da.timeStartup
  split_ifs with horderly
  · refine ⟨himage, by rw [hgo], fun hsafe => ?_, fun _ => h.nv⟩
    rw [hgo] at hsafe ⊢
    exact himage.orderly (by rw [h.nv]; exact h.orderly horderly) hsafe
  · have hinterval : s.go.clock ||| CLOCK_UPDATE_MASK = s.nv.go.clock ||| CLOCK_UPDATE_MASK := by
      rw [hgo]
    exact ⟨himage, hinterval, nofun,
      fun _ => h.nv⟩

lemma Live.daStartup (h : Live s reported) (hwrap : NoWrap s) :
    Live (Da.daStartup s) reported := by
  have hframe := frame_daStartupTimers s
  exact (h.frame hframe).timeUpdate (hframe.noWrap hwrap)

lemma Between.startup (h : Between s reported) (hwrap : NoWrap s) (hp : p.Available)
    (i : StartupInput) (startupType : ShutdownType) :
    Between (execute p (startupBody i startupType) s).2 reported := by
  obtain ⟨-, hidle⟩ | ⟨hmode, hinit, heq⟩ | ⟨hmode, hinit, -, o, power, t, ho, hon, ht, heq⟩ :=
    execute_startup_cases p i startupType s
  · exact h.idle hidle
  · obtain ⟨⟨-, hsynced⟩, -⟩ := h.running hmode hinit
    have hbegun := h.begun hp hwrap hmode hinit
    rw [heq]
    exact (cleans_live _).endCommand ⟨hbegun.live, hbegun.quiet.synced hsynced⟩
      ((initialized_beginCommand p s).trans hinit) fun _ => hbegun.quiet.file ▸ h.file
  · have hquiet := (quiet_timeStartup (s.relabel o power p.nvStatus)).trans (quiet_daStartup _)
    have hwrap₁ : NoWrap (Da.timeStartup (s.relabel o power p.nvStatus)) := by
      unfold NoWrap elapsed Da.timeStartup at *
      split_ifs <;> exact hwrap
    have hwaiting : Waiting (s.relabel o power p.nvStatus) reported :=
      (h.waiting hmode hinit).relabel ho
    have hlive := hwaiting.timeStartup.daStartup hwrap₁
    rw [← ht] at hquiet hlive
    have hfile : Accounts (Da.daStartup t).file reported := by
      rw [hquiet.file]
      exact h.file
    rw [heq]
    dsimp only
    split_ifs
    · refine (cleans_live _).endCommand ⟨hlive.cleared, rfl⟩ ?_ fun _ => hfile
      show (Da.daStartup t).power.initialized = true
      rw [hquiet.power]
      exact hon
    · exact ⟨hfile, nofun, nofun⟩

/-! ## The runs -/

/-- What is assumed of the runs: NV is available, the clock does not wrap, and there is no
`TPM2_Clear()`. -/
def ClockAssumed (s : Tpm) : Event → Prop
  | .command p _ c => p.Available ∧ NoWrap s ∧ c.isClear = false
  | .startup p _ _ => p.Available ∧ NoWrap s
  | .tick _ => True
  | .powerLoss _ _ => True

instance (s : Tpm) : (e : Event) → Decidable (ClockAssumed s e)
  | .command _ _ _ => inferInstanceAs (Decidable (_ ∧ _))
  | .startup _ _ _ => inferInstanceAs (Decidable (_ ∧ _))
  | .tick _ => .isTrue trivial
  | .powerLoss _ _ => .isTrue trivial

/-- The TPM with the clocks reported so far. -/
def clockSystem : System (Tpm × List UInt64) Event where
  init x := ∃ image, x = (poweredOn image, [])
  enabled x e := ClockAssumed x.1 e
  step x e := ((e.exec x.1).2, x.2 ++ (e.exec x.1).1.reports)

instance (x : Tpm × List UInt64) (e : Event) : Decidable (clockSystem.enabled x e) :=
  inferInstanceAs (Decidable (ClockAssumed x.1 e))

/-- The clock is not read while a shutdown is in force. -/
def NotReadAfterShutdown (x : Tpm × List UInt64) : Event → Prop
  | .command _ _ c => c = .readClock → x.1.nvIsOrderly = false
  | _ => True

instance (x : Tpm × List UInt64) : (e : Event) → Decidable (NotReadAfterShutdown x e)
  | .command _ _ c => inferInstanceAs (Decidable (c = .readClock → x.1.nvIsOrderly = false))
  | .startup _ _ _ => .isTrue trivial
  | .tick _ => .isTrue trivial
  | .powerLoss _ _ => .isTrue trivial

instance (x : Tpm × List UInt64) (e : Event) :
    Decidable ((clockSystem.restrict NotReadAfterShutdown).enabled x e) :=
  inferInstanceAs (Decidable (_ ∧ _))

lemma startup_clock (p : Platform) (i : StartupInput) (startupType : ShutdownType) (s : Tpm) :
    ((Event.startup p i startupType).exec s).1.clock = .none := by
  simp only [Event.exec, execute, startupBody]
  split_ifs <;> rfl

lemma between_poweredOn (image : Image) : Between (poweredOn image) [] := by
  have hfile : Accounts image [] := ⟨nofun, fun _ _ => nofun⟩
  exact ⟨hfile, fun _ _ => ⟨hfile, rfl, rfl, id⟩, nofun⟩

lemma Between.powerCycle (h : Between s reported) (drtm initOk : Bool) :
    Between (Da.powerCycle drtm initOk s) reported :=
  ⟨h.file, fun _ _ => ⟨h.file, rfl, rfl, id⟩, nofun⟩

/-- In every run in which the clock is not read while a shutdown is in force, what was reported
is accounted for. -/
lemma Between.of_reach {x : Tpm × List UInt64}
    (h : (clockSystem.restrict NotReadAfterShutdown).Reach x) : Between x.1 x.2 := by
  refine h.invariant (I := fun x => Between x.1 x.2) ?_ ?_
  · rintro _ ⟨image, rfl⟩
    exact between_poweredOn image
  · rintro ⟨s, reported⟩ e hbetween ⟨hassumed, hread⟩
    cases e with
    | command p us c =>
      obtain ⟨hp, hwrap, hclear⟩ := hassumed
      exact hbetween.command hp hwrap us hclear hread
    | startup p i startupType =>
      obtain ⟨hp, hwrap⟩ := hassumed
      show Between _ (reported ++ ((Event.startup p i startupType).exec s).1.reports)
      rw [Output.reports, startup_clock, append_nil]
      exact hbetween.startup hwrap hp i startupType
    | tick ms =>
      show Between _ (reported ++ [])
      rw [append_nil]
      obtain ⟨hfile, hwaiting, hrunning⟩ := hbetween
      refine ⟨hfile, fun hm hi => ?_, fun hm hi => ?_⟩
      · obtain ⟨hf, hnv, hgo, ho⟩ := hwaiting hm hi
        exact ⟨hf, hnv, hgo, ho⟩
      · obtain ⟨⟨hlive, hsynced⟩, hnv⟩ := hrunning hm hi
        exact ⟨⟨hlive.of_eq rfl rfl rfl rfl, hsynced⟩, hnv⟩
    | powerLoss drtm initOk =>
      show Between _ (reported ++ [])
      rw [append_nil]
      exact hbetween.powerCycle drtm initOk

/-- A clock that is reported as safe is not behind any clock reported before, in every run in
which the clock is not read while a shutdown is in force. -/
theorem safe_clock_ge_reported {x : Tpm × List UInt64}
    (h : (clockSystem.restrict NotReadAfterShutdown).Reach x) {e : Event}
    (he : clockSystem.enabled x e) {info : ClockInfo}
    (hinfo : (e.exec x.1).1.clock = .some info) (hsafe : info.safe = true) :
    ∀ r ∈ x.2, r ≤ info.clock := by
  cases e with
  | command p us c =>
    obtain ⟨hp, hwrap, -⟩ := he
    exact (Between.of_reach h).safe_report hp hwrap hinfo hsafe
  | startup p i startupType =>
    rw [startup_clock] at hinfo
    cases hinfo
  | tick ms => cases hinfo
  | powerLoss drtm initOk => cases hinfo

/-- NV is available and nothing else goes wrong. -/
def smooth : Platform := ⟨TPM_RC_SUCCESS, true⟩

/-- The first startup of a manufactured TPM, and a first reading of its clock. -/
def firstReading : List Event :=
  [.startup smooth ⟨0, true, true⟩ .clear, .tick 5, .command smooth [] .readClock, .tick 7]

theorem safe_clock_ge_reported_firstReading :
    (firstReading.foldl clockSystem.step (factory, [])).2 = [5] ∧
      ∀ r ∈ (firstReading.foldl clockSystem.step (factory, [])).2, r ≤ 12 := by
  have hstart : (clockSystem.restrict NotReadAfterShutdown).Reach (factory, []) :=
    .start ⟨manufactured 0, rfl⟩
  have hreach := hstart.path firstReading (by decide +kernel)
  have hinfo : ((Event.command smooth [] .readClock).exec
      (firstReading.foldl clockSystem.step (factory, [])).1).1.clock =
        .some ⟨12, true⟩ := by decide +kernel
  exact ⟨by decide +kernel, safe_clock_ge_reported hreach (by decide +kernel) hinfo rfl⟩

/-- A shutdown, then a reading of the clock, and then the power is lost. -/
def readingAfterShutdown : List Event :=
  [.startup smooth ⟨0, true, true⟩ .clear, .command smooth [] (.shutdown .clear false), .tick 5,
    .command smooth [] .readClock, .powerLoss false true, .startup smooth ⟨0, true, true⟩ .clear]

/-- A clock that is read after a shutdown is forgotten when power is lost: the next clock is
behind it and reported as safe. -/
theorem exists_safe_clock_lt_reported :
    ∃ x e info, clockSystem.Reach x ∧ clockSystem.enabled x e ∧
      (e.exec x.1).1.clock = .some info ∧ info.safe = true ∧ ∃ r ∈ x.2, info.clock < r := by
  have hstart : clockSystem.Reach (factory, []) := .start ⟨manufactured 0, rfl⟩
  have hreach := hstart.path readingAfterShutdown (by decide +kernel)
  exact ⟨_, .command smooth [] .readClock, ⟨0, true⟩, hreach, by decide +kernel,
    by decide +kernel, rfl, 5, by decide +kernel, by decide +kernel⟩

end RfTpm.Da
