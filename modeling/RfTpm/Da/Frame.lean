import RfTpm.Da.State

/-!
# What the functions leave alone

Each function of a command changes a few fields and leaves the others.  Three relations say
how much it leaves: `Quiet` leaves the orderly state and the parameters, `Frame` also the clock
and the saved orderly data, and `Steady` also the self-heal timer.  All three carry the
discipline of the NV image: an image that has changed is one that will be committed.
-/

namespace RfTpm.Da

/-- From `s` to `s'` the orderly state and the dictionary-attack parameters have not changed,
and a change of the image is due to be committed. -/
structure Quiet (s s' : Tpm) : Prop where
  orderlyState : s'.gp.orderlyState = s.gp.orderlyState
  nvOrderlyState : s'.nv.gp.orderlyState = s.nv.gp.orderlyState
  recoveryTime : s'.gp.recoveryTime = s.gp.recoveryTime
  nvRecoveryTime : s'.nv.gp.recoveryTime = s.nv.gp.recoveryTime
  maxTries : s'.gp.maxTries = s.gp.maxTries
  nvMaxTries : s'.nv.gp.maxTries = s.nv.gp.maxTries
  power : s'.power = s.power
  timer : s'.timer = s.timer
  nvStatus : s'.nvStatus = s.nvStatus
  clearOrderly : s'.clearOrderly = s.clearOrderly
  file : s'.file = s.file
  staged : s'.updateNv = false → s.updateNv = false ∧ s'.nv = s.nv

/-- Nor have the clock, the time and the saved orderly data. -/
structure Frame (s s' : Tpm) : Prop extends Quiet s s' where
  clock : s'.go.clock = s.go.clock
  clockSafe : s'.go.clockSafe = s.go.clockSafe
  savedTime : s'.go.time = s.go.time
  time : s'.time = s.time
  nvGo : s'.nv.go = s.nv.go

/-- Nor has the self-heal timer. -/
structure Steady (s s' : Tpm) : Prop extends Frame s s' where
  selfHealTimer : s'.go.selfHealTimer = s.go.selfHealTimer

variable {s s' s'' : Tpm}

namespace Quiet

@[refl]
lemma refl (s : Tpm) : Quiet s s := by
  constructor <;> simp

lemma trans (h : Quiet s s') (h' : Quiet s' s'') : Quiet s s'' where
  orderlyState := h'.orderlyState.trans h.orderlyState
  nvOrderlyState := h'.nvOrderlyState.trans h.nvOrderlyState
  recoveryTime := h'.recoveryTime.trans h.recoveryTime
  nvRecoveryTime := h'.nvRecoveryTime.trans h.nvRecoveryTime
  maxTries := h'.maxTries.trans h.maxTries
  nvMaxTries := h'.nvMaxTries.trans h.nvMaxTries
  power := h'.power.trans h.power
  timer := h'.timer.trans h.timer
  nvStatus := h'.nvStatus.trans h.nvStatus
  clearOrderly := h'.clearOrderly.trans h.clearOrderly
  file := h'.file.trans h.file
  staged hu :=
    have hmid := h'.staged hu
    have hstart := h.staged hmid.1
    ⟨hstart.1, hmid.2.trans hstart.2⟩

lemma nvIsAvailable (h : Quiet s s') : s'.nvIsAvailable = s.nvIsAvailable := by
  simp only [Tpm.nvIsAvailable, h.nvStatus]

lemma nvIsOrderly (h : Quiet s s') : s'.nvIsOrderly = s.nvIsOrderly := by
  simp only [Tpm.nvIsOrderly, h.orderlyState]

end Quiet

namespace Frame

@[refl]
lemma refl (s : Tpm) : Frame s s := by
  constructor <;> simp [Quiet.refl]

lemma trans (h : Frame s s') (h' : Frame s' s'') : Frame s s'' where
  toQuiet := h.toQuiet.trans h'.toQuiet
  clock := h'.clock.trans h.clock
  clockSafe := h'.clockSafe.trans h.clockSafe
  savedTime := h'.savedTime.trans h.savedTime
  time := h'.time.trans h.time
  nvGo := h'.nvGo.trans h.nvGo

end Frame

namespace Steady

@[refl]
lemma refl (s : Tpm) : Steady s s := ⟨.refl s, rfl⟩

lemma trans (h : Steady s s') (h' : Steady s' s'') : Steady s s'' where
  toFrame := h.toFrame.trans h'.toFrame
  selfHealTimer := h'.selfHealTimer.trans h.selfHealTimer

end Steady

/-! ## Counters and flags -/

lemma steady_syncFailedTries (s : Tpm) : Steady s s.syncFailedTries :=
  { Steady.refl s with staged := nofun }

lemma steady_syncLockOutAuthEnabled (s : Tpm) : Steady s s.syncLockOutAuthEnabled :=
  { Steady.refl s with staged := nofun }

lemma steady_pAssert (cond : Bool) (s : Tpm) : Steady s (s.pAssert cond) := by
  cases cond with
  | true => exact .refl s
  | false => exact { Steady.refl s with }

lemma steady_counters (s : Tpm) (failedTries : UInt32)
    (lockOutAuthEnabled daPendingOnNv : Bool) (lockoutTimer : UInt64) :
    Steady s { s with
      gp := { s.gp with failedTries, lockOutAuthEnabled }
      go := { s.go with lockoutTimer }
      daPendingOnNv } :=
  { Steady.refl s with }

lemma frame_selfHealTimer (s : Tpm) (failedTries : UInt32) (selfHealTimer : UInt64) :
    Frame s { s with
      gp := { s.gp with failedTries }
      go := { s.go with selfHealTimer } } :=
  { Frame.refl s with }

/-! ## Self-healing -/

lemma frame_healFailedTries (s : Tpm) : Frame s (healFailedTries s) := by
  unfold healFailedTries
  dsimp only
  split_ifs
  · exact .refl s
  · exact (frame_selfHealTimer s _ _).trans (steady_syncFailedTries _).toFrame
  · exact (frame_selfHealTimer s _ _).trans (steady_syncFailedTries _).toFrame
  · exact frame_selfHealTimer s _ _

lemma steady_healLockoutAuth (s : Tpm) : Steady s (healLockoutAuth s) := by
  unfold healLockoutAuth
  split_ifs
  · exact (steady_counters s _ _ _ _).trans (steady_syncLockOutAuthEnabled _)
  · exact .refl s

lemma frame_daSelfHeal (s : Tpm) : Frame s (daSelfHeal s) :=
  (frame_healFailedTries s).trans (steady_healLockoutAuth _).toFrame

/-! ## Time -/

lemma quiet_timeClockUpdate (newTime : UInt64) (s : Tpm) :
    Quiet s (timeClockUpdate newTime s) := by
  unfold timeClockUpdate
  split
  · have hassert := (steady_pAssert s.nvIsAvailable
      { s with go := { s.go with clockSafe := true, clock := newTime } }).toQuiet
    have hstart : Quiet s { s with go := { s.go with clockSafe := true, clock := newTime } } :=
      { Quiet.refl s with }
    exact (hstart.trans hassert).trans { Quiet.refl _ with staged := nofun }
  · exact { Quiet.refl s with }

lemma steady_consumeStopped (s : Tpm) : Steady s (consumeStopped s) := by
  unfold consumeStopped
  split
  · exact { Steady.refl s with staged := nofun }
  · exact .refl s

lemma quiet_timeAdvance (s : Tpm) : Quiet s (timeAdvance s) := by
  have htime : Quiet s { s with time := s.time + elapsed s } := { Quiet.refl s with }
  exact htime.trans (quiet_timeClockUpdate _ _)

lemma quiet_timeUpdate (s : Tpm) : Quiet s (timeUpdate s) :=
  ((steady_consumeStopped s).toQuiet.trans (quiet_timeAdvance _)).trans
    (frame_daSelfHeal _).toQuiet

lemma quiet_timeUpdateToCurrent (s : Tpm) : Quiet s (timeUpdateToCurrent s) := by
  unfold timeUpdateToCurrent
  split
  · exact .refl s
  · exact quiet_timeUpdate s

/-! ## Sessions -/

lemma steady_countFailure (entity : Entity) (s : Tpm) : Steady s (countFailure entity s) := by
  unfold countFailure
  dsimp only
  split_ifs
  · exact (steady_pAssert _ s).trans (steady_counters _ _ _ _ _)
  · exact ((steady_pAssert _ s).trans (steady_counters _ _ _ _ _)).trans
      (steady_syncLockOutAuthEnabled _)
  · exact (steady_pAssert _ s).trans (steady_counters _ _ _ _ _)
  · exact .refl s
  · exact (steady_counters s _ _ _ _).trans (steady_syncFailedTries _)
  · exact steady_counters s _ _ _ _

lemma frame_daRegisterFailure (entity : Entity) (s : Tpm) :
    Frame s (daRegisterFailure entity s) := by
  unfold daRegisterFailure
  split_ifs
  · exact (steady_counters s _ _ _ _).toFrame
  · exact frame_selfHealTimer s _ _

lemma frame_incrementLockout (entity : Entity) (session : Option SessionAttributes) (s : Tpm) :
    Frame s (incrementLockout entity session s).2 := by
  unfold incrementLockout
  split
  · exact .refl s
  · exact (steady_countFailure _ s).toFrame.trans (frame_daRegisterFailure _ _)

lemma steady_writePending (s : Tpm) : Steady s (writePending s) := by
  unfold writePending
  split_ifs
  · exact ((steady_syncLockOutAuthEnabled s).trans (steady_syncFailedTries _)).trans
      (steady_counters _ _ _ _ _)
  · exact .refl s

lemma steady_checkLockedOut (lockoutAuthCheck : Bool) (s : Tpm) :
    Steady s (checkLockedOut lockoutAuthCheck s).2 := by
  unfold checkLockedOut
  dsimp only
  split_ifs
  · exact .refl s
  all_goals exact steady_writePending s

variable {first second : Check} {p : Platform}

section Checks

variable {R : Tpm → Tpm → Prop} (hrefl : ∀ s, R s s)
  (htrans : ∀ s s' s'', R s s' → R s' s'' → R s s'') (hlock : ∀ b s, R s (checkLockedOut b s).2)

include hrefl hlock in
lemma Check.when_keeps (cond b : Bool) (s : Tpm) :
    R s (Check.when cond (checkLockedOut b) s).2 := by
  unfold Check.when
  split_ifs
  · exact hlock b s
  · exact hrefl s

include htrans in
lemma Check.andThen_keeps (h : ∀ s, R s (first s).2) (h' : ∀ s, R s (second s).2) (s : Tpm) :
    R s (first.andThen second s).2 := by
  unfold Check.andThen
  split_ifs
  · exact h s
  · exact htrans _ _ _ (h s) (h' _)

include hrefl htrans hlock in
lemma checksBefore_keeps (u : SessionUse) : ∀ s, R s (checksBefore u s).2 :=
  Check.andThen_keeps htrans hrefl <|
    Check.andThen_keeps htrans (Check.when_keeps hrefl hlock _ _) <|
      Check.andThen_keeps htrans hrefl <|
        Check.andThen_keeps htrans (Check.when_keeps hrefl hlock _ _) hrefl

lemma result_incrementLockout (entity : Entity) (session : Option SessionAttributes) (s : Tpm) :
    (incrementLockout entity session s).1 ≠ TPM_RC_SUCCESS := by
  unfold incrementLockout
  split
  · show TPM_RC_BAD_AUTH ≠ TPM_RC_SUCCESS
    decide
  · show TPM_RC_AUTH_FAIL ≠ TPM_RC_SUCCESS
    decide

lemma checkSession_of_success {u : SessionUse}
    (h : (checkSession u s).1.result = TPM_RC_SUCCESS) :
    (checkSession u s).2 = (checksBefore u s).2 := by
  unfold checkSession compareAuth at h ⊢
  dsimp only at h ⊢
  split_ifs at h ⊢
  · rfl
  · rfl
  · exact absurd h (result_incrementLockout _ _ _)

lemma session_checkSession (u : SessionUse) (s : Tpm) : (checkSession u s).1.session = u := by
  unfold checkSession compareAuth
  dsimp only
  split_ifs <;> rfl

lemma wrong_of_verdict (us : List SessionUse) (s : Tpm) :
    ∀ v ∈ (checkSessions us s).1, v.compared = true → v.result ≠ TPM_RC_SUCCESS →
      v.session ∈ us ∧ v.session.correct = false := by
  have hhead : ∀ u s, (checkSession u s).1.compared = true →
      (checkSession u s).1.result ≠ TPM_RC_SUCCESS → u.correct = false := fun u s hc hr => by
    unfold checkSession compareAuth at hc hr
    dsimp only at hc hr
    split_ifs at hc hr with hrefused hcorrect
    · exact absurd rfl hr
    · simpa using hcorrect
  induction us generalizing s with
  | nil => exact nofun
  | cons u us ih =>
    intro v hv hc hr
    unfold checkSessions at hv
    dsimp only at hv
    split_ifs at hv with hrefused
    · obtain rfl := List.mem_singleton.mp hv
      rw [session_checkSession]
      exact ⟨List.mem_cons_self, hhead u s hc hr⟩
    · rcases List.mem_cons.mp hv with rfl | hrest
      · exact absurd (not_not.mp hrefused) hr
      · exact (ih _ v hrest hc hr).imp_left (List.mem_cons_of_mem u)

include hrefl htrans hlock in
lemma checkSessions_keeps (us : List SessionUse) (s : Tpm)
    (h : allPass (checkSessions us s).1 = true) : R s (checkSessions us s).2 := by
  induction us generalizing s with
  | nil => exact hrefl s
  | cons u us ih =>
    unfold checkSessions at h ⊢
    dsimp only at h ⊢
    split_ifs at h ⊢ with hrefused
    · simp [allPass, hrefused] at h
    · simp only [allPass, List.all_cons, Bool.and_eq_true] at h
      have hone := checksBefore_keeps hrefl htrans hlock u s
      rw [← checkSession_of_success (not_not.mp hrefused)] at hone
      exact htrans _ _ _ hone (ih _ h.2)

end Checks

lemma steady_checksBefore : ∀ (u : SessionUse) s, Steady s (checksBefore u s).2 :=
  checksBefore_keeps .refl (fun _ _ _ => .trans) steady_checkLockedOut

lemma frame_compareAuth (u : SessionUse) (s : Tpm) : Frame s (compareAuth u s).2 := by
  unfold compareAuth
  split_ifs
  · exact .refl s
  · exact frame_incrementLockout _ _ s

lemma frame_checkSession (u : SessionUse) (s : Tpm) : Frame s (checkSession u s).2 := by
  unfold checkSession
  dsimp only
  split_ifs
  · exact (steady_checksBefore u s).toFrame
  · exact (steady_checksBefore u s).toFrame.trans (frame_compareAuth u _)

lemma frame_checkSessions (us : List SessionUse) (s : Tpm) :
    Frame s (checkSessions us s).2 := by
  induction us generalizing s with
  | nil => exact .refl s
  | cons u us ih =>
    unfold checkSessions
    dsimp only
    split_ifs
    · exact frame_checkSession u s
    · exact (frame_checkSession u s).trans (ih _)

/-! ## Startup -/

lemma frame_rebaseTimers (s : Tpm) : Frame s (rebaseTimers s) := by
  unfold rebaseTimers
  dsimp only
  split_ifs
  all_goals exact { Frame.refl s with }

lemma steady_countStartup (s : Tpm) : Steady s (countStartup s) := by
  have hlockout : Steady s (if s.gp.lockoutRecovery = 0 then
      { s with gp := { s.gp with lockOutAuthEnabled := true } }.syncLockOutAuthEnabled else s) := by
    split_ifs
    · exact (steady_counters s _ _ _ _).trans (steady_syncLockOutAuthEnabled _)
    · exact .refl s
  refine hlockout.trans ?_
  unfold countStartup
  dsimp only
  split_ifs
  · exact (steady_counters _ _ _ _ _).trans (steady_syncFailedTries _)
  · exact .refl _
  · exact (steady_counters _ _ _ _ _).trans (steady_syncFailedTries _)
  · exact .refl _

lemma frame_daStartupTimers (s : Tpm) : Frame s (daStartupTimers s) :=
  (frame_rebaseTimers s).trans (steady_countStartup _).toFrame

lemma quiet_timeStartup (s : Tpm) : Quiet s (timeStartup s) := by
  unfold timeStartup
  split_ifs
  · exact .refl s
  · exact { Quiet.refl s with }

lemma quiet_daStartup (s : Tpm) : Quiet s (daStartup s) :=
  (frame_daStartupTimers s).toQuiet.trans (quiet_timeUpdate _)

/-! ## Actions -/

lemma action_power_file (c : Command) (s : Tpm) :
    (c.action s).power = s.power ∧ (c.action s).file = s.file := by
  cases c with
  | readClock => exact ⟨rfl, rfl⟩
  | clockSet newTime =>
    unfold Command.action tpm2ClockSet
    dsimp only
    split_ifs
    · exact ⟨rfl, rfl⟩
    · exact ⟨rfl, rfl⟩
    · exact ⟨(quiet_timeClockUpdate newTime s).power, (quiet_timeClockUpdate newTime s).file⟩
  | shutdown | dictionaryAttackLockReset | dictionaryAttackParameters | clear =>
    simp only [Command.action, tpm2Shutdown, tpm2DictionaryAttackLockReset,
      tpm2DictionaryAttackParameters, tpm2Clear]
    split_ifs <;> exact ⟨rfl, rfl⟩
  | other clearOrderly => exact ⟨rfl, rfl⟩

lemma execute_failed (h : s.inFailureMode = true) (p : Platform)
    (body : Tpm → Output × Tpm) :
    execute p body s = (.none, { s with updateNv := false, clearOrderly := false }) :=
  if_pos h

lemma execute_eq (h : s.inFailureMode = false) (p : Platform) (body : Tpm → Output × Tpm) :
    execute p body s =
      ({ (body (beginCommand p s)).1 with
          healed := timeUpdateToCurrentHealed (resetFlags p s) +
            (body (beginCommand p s)).1.healed },
        endCommand p (body (beginCommand p s)).2) := by
  simp [execute, h]

lemma beginCommand_notStarted (h : s.power.initialized = false) (p : Platform) :
    beginCommand p s = resetFlags p s ∧ timeUpdateToCurrentHealed (resetFlags p s) = 0 := by
  have h' : (resetFlags p s).power.initialized = false := h
  simp [beginCommand, timeUpdateToCurrent, timeUpdateToCurrentHealed, h']

lemma beginCommand_running (h : s.power.initialized = true) (hp : p.nvStatus = TPM_RC_SUCCESS) :
    beginCommand p s = timeUpdate (resetFlags p s) ∧
      timeUpdateToCurrentHealed (resetFlags p s) = timeUpdateHealed (resetFlags p s) := by
  have h' : (resetFlags p s).power.initialized = true := h
  have hp' : (resetFlags p s).nvIsAvailable = true := by
    simp [resetFlags, Tpm.nvIsAvailable, hp]
  simp [beginCommand, timeUpdateToCurrent, timeUpdateToCurrentHealed, h', hp']

lemma endCommand_idle (hu : s.updateNv = false) (hc : s.clearOrderly = false) (p : Platform) :
    endCommand p s = s := by
  simp [endCommand, clearOrderlyState, Globals.clearsOrderly, commit, Globals.commit,
    Globals.commits, hu, hc]

lemma endCommand_failedStartup (hc : s.clearOrderly = false) (p : Platform) :
    endCommand p (endStartup s.fail) = endStartup s.fail := by
  simp [endCommand, clearOrderlyState, Globals.clearsOrderly, commit, Globals.commit,
    Globals.commits, endStartup, Tpm.fail, hc]

lemma clearOrderlyState_same (s : Tpm) :
    (clearOrderlyState s).inFailureMode = s.inFailureMode ∧
      (clearOrderlyState s).file = s.file ∧ (clearOrderlyState s).power = s.power ∧
      (clearOrderlyState s).gp.maxTries = s.gp.maxTries := by
  unfold clearOrderlyState
  split_ifs <;> exact ⟨rfl, rfl, rfl, rfl⟩

lemma maxTries_endCommand (p : Platform) (s : Tpm) :
    (endCommand p s).gp.maxTries = s.gp.maxTries :=
  (clearOrderlyState_same s).2.2.2

/-- What holds between commands: `Q` of the committed image, `W` of a TPM that waits for its
startup, and `P` of one that runs. -/
structure Rests (Q : Image → Prop) (W P : Tpm → Prop) (s : Tpm) : Prop where
  file : Q s.file
  waiting : s.inFailureMode = false → s.power.initialized = false → W s
  running : s.inFailureMode = false → s.power.initialized = true → P s ∧ s.nv = s.file

/-- What the clean-up of a command does keeps `P`, and the image of a TPM with `P` has `Q`. -/
structure Cleans (Q : Image → Prop) (P : Tpm → Prop) : Prop where
  cleared : ∀ s, P s → P (endStartup s).syncOrderlyState
  committed : ∀ s, P s → P { s with file := s.nv, updateNv := false }
  image : ∀ s, P s → Q s.nv
  staged : ∀ s, P s → s.updateNv = false → s.nv = s.file

variable {Q : Image → Prop} {W P : Tpm → Prop}

/-- The rule for the clean-up of a running TPM.  Where nothing is committed, the old image has to
do. -/
lemma Cleans.endCommand (hP : Cleans Q P) (h : P s) (hinit : s.power.initialized = true)
    (hold : s.inFailureMode = true ∨ p.commitOk = false → Q s.file) :
    Rests Q W P (Da.endCommand p s) := by
  have hcleared : P (clearOrderlyState s) := by
    unfold clearOrderlyState
    split_ifs
    · exact hP.cleared s h
    · exact h
  obtain ⟨hmode, hfile, hpower, -⟩ := clearOrderlyState_same s
  have hon : (clearOrderlyState s).power.initialized ≠ false := by rw [hpower, hinit]; nofun
  simp only [Da.endCommand, commit, Globals.commit, Globals.nvCommit]
  split_ifs with hdue hok
  · exact ⟨hP.image _ hcleared, fun _ hoff => absurd hoff hon,
      fun _ _ => ⟨hP.committed _ hcleared, rfl⟩⟩
  · refine ⟨?_, fun hno => Bool.noConfusion hno, fun hno => Bool.noConfusion hno⟩
    show Q (clearOrderlyState s).file
    rw [hfile]
    exact hold (.inr (by simpa using hok))
  · rw [Globals.commits, Bool.and_eq_true, not_and_or] at hdue
    rcases hdue with hidle | hfailed
    · have hnv := hP.staged _ hcleared (by simpa using hidle)
      exact ⟨hnv ▸ hP.image _ hcleared, fun _ hoff => absurd hoff hon, fun _ _ => ⟨hcleared, hnv⟩⟩
    · have hfailed' : (clearOrderlyState s).inFailureMode = true := by simpa using hfailed
      refine ⟨?_, fun hno => ?_, fun hno => ?_⟩
      · rw [hfile]
        exact hold (.inl (hmode ▸ hfailed'))
      all_goals exact absurd (hfailed'.symm.trans hno) (by decide)

/-- The TPM at the start of a command, with another orderly state and another power state. -/
def Tpm.relabel (s : Tpm) (orderlyState : UInt16) (power : PowerState) (nvStatus : TpmRc) : Tpm :=
  { s with
    gp := { s.gp with orderlyState }
    power, nvStatus, updateNv := false, clearOrderly := false }

/-- A TPM that does not run changes no more than its labels. -/
structure Idle (s s' : Tpm) : Prop where
  relabelled : ∃ o power n, (isOrderly o = true → s.nvIsOrderly = true) ∧ s' = s.relabel o power n
  waits : s.inFailureMode = false → s.power.initialized = false ∧ s'.power.initialized = false

lemma Rests.idle (h : Rests Q W P s)
    (hW : ∀ {o power n}, (isOrderly o = true → s.nvIsOrderly = true) → W s →
      W (s.relabel o power n))
    (hidle : Idle s s') : Rests Q W P s' := by
  obtain ⟨⟨o, power, n, ho, rfl⟩, hwaits⟩ := hidle
  exact ⟨h.file, fun hm _ => hW ho (h.waiting hm (hwaits hm).1),
    fun hm hon => nomatch (hwaits hm).2.symm.trans hon⟩

lemma idle_failed (h : s.inFailureMode = true) :
    Idle s { s with updateNv := false, clearOrderly := false } :=
  ⟨⟨s.gp.orderlyState, s.power, s.nvStatus, id, rfl⟩, fun hno => nomatch h.symm.trans hno⟩

lemma execute_command_cases (p : Platform) (us : List SessionUse) (c : Command) (s : Tpm) :
    (execute p (commandBody us c) s).1 = .none ∧ Idle s (execute p (commandBody us c) s).2 ∨
      s.inFailureMode = false ∧ s.power.initialized = true := by
  cases hmode : s.inFailureMode with
  | true =>
    rw [execute_failed hmode]
    exact .inl ⟨rfl, idle_failed hmode⟩
  | false =>
    cases hinit : s.power.initialized with
    | true => exact .inr ⟨rfl, rfl⟩
    | false =>
      obtain ⟨hbegin, hhealed⟩ := beginCommand_notStarted hinit p
      have hbody : commandBody us c (resetFlags p s) = (.none, resetFlags p s) := by
        have hinit' : (resetFlags p s).power.initialized = false := hinit
        simp [commandBody, hinit']
      rw [execute_eq hmode, hbegin, hhealed, hbody, endCommand_idle rfl rfl]
      exact .inl ⟨rfl, ⟨s.gp.orderlyState, s.power, p.nvStatus, id, rfl⟩, fun _ => ⟨hinit, hinit⟩⟩

lemma initialized_beginCommand (p : Platform) (s : Tpm) :
    (beginCommand p s).power.initialized = s.power.initialized := by
  have hquiet : Quiet (resetFlags p s) (beginCommand p s) := quiet_timeUpdateToCurrent _
  rw [hquiet.power]
  rfl

/-- What a running TPM does for a command: it updates the time, checks the sessions and runs the
action if they all pass. -/
lemma execute_running (hmode : s.inFailureMode = false) (hinit : s.power.initialized = true)
    (p : Platform) (us : List SessionUse) (c : Command) :
    (execute p (commandBody us c) s).1.verdicts = (checkSessions us (beginCommand p s)).1 ∧
    (execute p (commandBody us c) s).1.healed = timeUpdateToCurrentHealed (resetFlags p s) ∧
    (execute p (commandBody us c) s).2 =
      endCommand p
        (if allPass (checkSessions us (beginCommand p s)).1
          then c.action (checkSessions us (beginCommand p s)).2
          else (checkSessions us (beginCommand p s)).2) := by
  have hbegin := (initialized_beginCommand p s).trans hinit
  rw [execute_eq hmode]
  unfold commandBody
  simp only [hbegin, Bool.not_true, Bool.false_eq_true, if_false]
  split_ifs <;> exact ⟨rfl, rfl, rfl⟩

/-! ## Startup -/

lemma isOrderly_prevOrderlyStateOf (orderlyState : UInt16) :
    isOrderly (prevOrderlyStateOf orderlyState) = true → isOrderly orderlyState = true := by
  unfold prevOrderlyStateOf
  split_ifs with h
  · exact fun _ => h
  · exact id

lemma not_isOrderly_none : isOrderly SU_NONE_VALUE = true → False := by decide

/-- The outcomes of `TPM2_Startup()`: it is refused or breaks off with nothing but the labels
changed, or the subsystems are started, and then it enters failure mode or the TPM runs. -/
lemma tpm2Startup_cases (p : Platform) (i : StartupInput) (startupType : ShutdownType) (s : Tpm) :
    ∃ o power, (isOrderly o = true → s.nvIsOrderly = true) ∧
      (power.initialized = s.power.initialized ∧
          tpm2Startup i startupType (resetFlags p s) = (0, s.relabel o power p.nvStatus) ∨
        power.initialized = true ∧ p.nvStatus = TPM_RC_SUCCESS ∧
          ∃ t, t = timeStartup (s.relabel o power p.nvStatus) ∧
            tpm2Startup i startupType (resetFlags p s) = (timeUpdateHealed (daStartupTimers t),
              if !i.pcrOk then endStartup (daStartup t).fail
              else (endStartup (daStartup t)).syncOrderlyState)) := by
  unfold tpm2Startup startSubsystems
  dsimp only
  by_cases havailable : (!(resetFlags p s).nvIsAvailable) = true
  · rw [if_pos havailable]
    exact ⟨s.gp.orderlyState, s.power, id, .inl ⟨rfl, rfl⟩⟩
  by_cases hlocality : i.locality ≠ 0 ∧ i.locality ≠ 3
  · rw [if_neg havailable, if_pos hlocality]
    exact ⟨s.gp.orderlyState, s.power, id, .inl ⟨rfl, rfl⟩⟩
  rw [if_neg havailable, if_neg hlocality]
  split
  · exact ⟨s.gp.orderlyState, { s.power with
      startupLocality3 := !s.power.drtmPreStartup && i.locality == 3 }, id, .inl ⟨rfl, rfl⟩⟩
  by_cases hcrypt : (!i.cryptOk) = true
  · rw [if_pos hcrypt]
    exact ⟨SU_NONE_VALUE, { s.power with
      startupLocality3 := !s.power.drtmPreStartup && i.locality == 3 },
      fun ho => (not_isOrderly_none ho).elim, .inl ⟨rfl, rfl⟩⟩
  · rw [if_neg hcrypt]
    exact ⟨_, ⟨true, s.power.drtmPreStartup, !s.power.drtmPreStartup && i.locality == 3⟩,
      isOrderly_prevOrderlyStateOf _,
      .inr ⟨rfl, by simpa [Tpm.nvIsAvailable, resetFlags] using havailable, _, rfl, rfl⟩⟩

/-- A startup is refused, or it is given to a running TPM, or the TPM that waits for it starts its
subsystems.  Nothing is committed if that enters failure mode. -/
lemma execute_startup_cases (p : Platform) (i : StartupInput) (startupType : ShutdownType)
    (s : Tpm) :
    (execute p (startupBody i startupType) s).1 = .none ∧
        Idle s (execute p (startupBody i startupType) s).2 ∨
      (s.inFailureMode = false ∧ s.power.initialized = true ∧
        execute p (startupBody i startupType) s =
          ({ Output.none with healed := timeUpdateToCurrentHealed (resetFlags p s) },
            endCommand p (beginCommand p s))) ∨
      (s.inFailureMode = false ∧ s.power.initialized = false ∧ p.nvStatus = TPM_RC_SUCCESS ∧
        ∃ o power t, (isOrderly o = true → s.nvIsOrderly = true) ∧ power.initialized = true ∧
          t = timeStartup (s.relabel o power p.nvStatus) ∧
          execute p (startupBody i startupType) s =
            ({ Output.none with healed := timeUpdateHealed (daStartupTimers t) },
              if i.pcrOk then endCommand p (endStartup (daStartup t)).syncOrderlyState
              else endStartup (daStartup t).fail)) := by
  cases hmode : s.inFailureMode with
  | true =>
    rw [execute_failed hmode]
    exact .inl ⟨rfl, idle_failed hmode⟩
  | false =>
    rw [execute_eq hmode]
    unfold startupBody
    cases hinit : s.power.initialized with
    | true =>
      rw [if_pos ((initialized_beginCommand p s).trans hinit)]
      exact .inr (.inl ⟨rfl, rfl, rfl⟩)
    | false =>
      obtain ⟨hbegin, hhealed⟩ := beginCommand_notStarted hinit p
      have hinit' : ¬(resetFlags p s).power.initialized = true := by
        show ¬s.power.initialized = true
        rw [hinit]
        nofun
      rw [hbegin, hhealed, if_neg hinit']
      obtain ⟨o, power, ho, ⟨hoff, heq⟩ | ⟨hon, hp, t, ht, heq⟩⟩ :=
        tpm2Startup_cases p i startupType s
      · rw [heq, endCommand_idle rfl rfl]
        exact .inl ⟨rfl, ⟨o, power, p.nvStatus, ho, rfl⟩, fun _ => ⟨hinit, hoff.trans hinit⟩⟩
      · refine .inr (.inr ⟨rfl, rfl, hp, o, power, t, ho, hon, ht, ?_⟩)
        have hclear : (daStartup t).clearOrderly = false := by
          rw [(quiet_daStartup t).clearOrderly, ht, (quiet_timeStartup _).clearOrderly]
          rfl
        rw [heq, Nat.zero_add]
        cases i.pcrOk with
        | true => rfl
        | false => exact congrArg _ (endCommand_failedStartup hclear p)

/-! ## Resets

Three commands give the counter or its parameters new values. -/

/-- The commands that do, if they are carried out. -/
def Command.isReset : Command → Bool
  | .dictionaryAttackLockReset => true
  | .dictionaryAttackParameters _ _ _ => true
  | .clear disableClear => !disableClear
  | _ => false

/-- A command of these is carried out. -/
def Event.resets (s : Tpm) : Event → Bool
  | .command p us c =>
    c.isReset && p.nvStatus == TPM_RC_SUCCESS && s.power.initialized && !s.inFailureMode &&
      allPass (execute p (commandBody us c) s).1.verdicts
  | _ => false

lemma Event.resets_eq_false (hmode : s.inFailureMode = false) (hinit : s.power.initialized = true)
    {us : List SessionUse} {c : Command} (h : (Event.command p us c).resets s = false)
    (hpass : allPass (checkSessions us (beginCommand p s)).1 = true) (hc : c.isReset = true) :
    (checkSessions us (beginCommand p s)).2.nvIsAvailable = false := by
  have hquiet : Quiet (resetFlags p s) (checkSessions us (beginCommand p s)).2 :=
    (quiet_timeUpdateToCurrent _).trans (frame_checkSessions us _).toQuiet
  rw [hquiet.nvIsAvailable]
  unfold Event.resets at h
  dsimp only at h
  rw [(execute_running hmode hinit p us c).1, hpass, hc, hinit, hmode] at h
  simpa [Tpm.nvIsAvailable, resetFlags] using h

lemma action_isReset {c : Command} (hc : c.isReset = true) (h : s.nvIsAvailable = false) :
    c.action s = s := by
  cases c with
  | dictionaryAttackLockReset =>
    simp [Command.action, tpm2DictionaryAttackLockReset, h]
  | dictionaryAttackParameters m r l =>
    simp [Command.action, tpm2DictionaryAttackParameters, h]
  | clear disableClear => simp [Command.action, tpm2Clear, h]
  | readClock => cases hc
  | clockSet newTime => cases hc
  | shutdown shutdownType pcrReConfig => cases hc
  | other clearOrderly => cases hc

lemma action_clear_disabled {disableClear : Bool}
    (h : (Command.clear disableClear).isReset = false) :
    (Command.clear disableClear).action s = s := by
  have hdisabled : disableClear = true := by simpa [Command.isReset] using h
  simp [Command.action, tpm2Clear, hdisabled]

/-! ## Failure mode

Only a failed comparison can enter failure mode, and then the session is refused. -/

lemma inFailureMode_healFailedTries (s : Tpm) :
    (healFailedTries s).inFailureMode = s.inFailureMode := by
  unfold healFailedTries
  dsimp only
  split_ifs <;> rfl

lemma inFailureMode_daSelfHeal (s : Tpm) : (daSelfHeal s).inFailureMode = s.inFailureMode := by
  rw [daSelfHeal, ← inFailureMode_healFailedTries s]
  unfold healLockoutAuth
  split_ifs <;> rfl

lemma inFailureMode_timeAdvance (h : s.nvIsAvailable = true) :
    (timeAdvance s).inFailureMode = s.inFailureMode := by
  have h' : ({ s with time := s.time + elapsed s } : Tpm).nvIsAvailable = true := h
  unfold timeAdvance timeClockUpdate
  split
  · simp only [Tpm.writeOrderlyData, Tpm.pAssert, h', if_true]
  · rfl

lemma inFailureMode_timeUpdate (h : s.nvIsAvailable = true) :
    (timeUpdate s).inFailureMode = s.inFailureMode := by
  have hepoch := (steady_consumeStopped s).toQuiet.nvIsAvailable.trans h
  rw [timeUpdate, inFailureMode_daSelfHeal, inFailureMode_timeAdvance hepoch]
  unfold consumeStopped
  split <;> rfl

lemma inFailureMode_daStartup (h : s.nvIsAvailable = true) :
    (daStartup s).inFailureMode = s.inFailureMode := by
  have htimers : (daStartupTimers s).inFailureMode = s.inFailureMode := by
    unfold daStartupTimers countStartup rebaseTimers
    dsimp only
    split_ifs <;> rfl
  have havailable := (frame_daStartupTimers s).nvIsAvailable.trans h
  rw [daStartup, inFailureMode_timeUpdate havailable, htimers]

lemma inFailureMode_checkLockedOut (lockoutAuthCheck : Bool) (s : Tpm) :
    (checkLockedOut lockoutAuthCheck s).2.inFailureMode = s.inFailureMode := by
  unfold checkLockedOut writePending
  dsimp only
  split_ifs <;> rfl

lemma inFailureMode_checksBefore (u : SessionUse) (s : Tpm) :
    (checksBefore u s).2.inFailureMode = s.inFailureMode :=
  checksBefore_keeps (R := fun s s' => s'.inFailureMode = s.inFailureMode) (fun _ => rfl)
    (fun _ _ _ h h' => h'.trans h) inFailureMode_checkLockedOut u s

lemma inFailureMode_checkSessions (us : List SessionUse) (s : Tpm)
    (h : allPass (checkSessions us s).1 = true) :
    (checkSessions us s).2.inFailureMode = s.inFailureMode :=
  checkSessions_keeps (R := fun s s' => s'.inFailureMode = s.inFailureMode) (fun _ => rfl)
    (fun _ _ _ h h' => h'.trans h) inFailureMode_checkLockedOut us s h

end RfTpm.Da
