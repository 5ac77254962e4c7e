import RfTpm.Da.SelfHeal

/-!
# Failed authorizations are not forgotten

`failedTries` counts the failed comparisons of protected authValues, and at `maxTries` no more
comparisons are made.  It is kept in RAM and in NV.  When NV is not available at a failure the
count is raised in RAM only, and `s_DAPendingOnNV` notes that NV is behind; `CheckLockedOut()`
catches up before the next comparison.  If power is lost meanwhile, the penalty of a startup
that is not orderly stands in for the one failure that NV does not know of.

`TPM2_Shutdown()` does not look at `s_DAPendingOnNV`, so that a pending failure is lost in a restart
that is orderly (`exists_failures_gt_maxTries`).  And a session that mixes
`lockoutAuth` with another authValue holds its failure against `lockoutAuth` alone.  In every run
without these the number of failures is at most `maxTries` (`failures_le_maxTries`).
-/

namespace RfTpm.Da

open Runs List

/-- The session's comparison depends on the authValue of a protected entity other than
`TPM_RH_LOCKOUT`: that of the entity it authorizes, or that of the entity it is bound to. -/
def SessionUse.usesProtected (u : SessionUse) : Bool :=
  (u.authUsed && u.entity == .daProtected) || (u.isDaBound && !u.isLockoutBound)

/-- And yet its failure is held against `lockoutAuth`. -/
def SessionUse.mixed (u : SessionUse) : Bool :=
  u.usesProtected && lockoutEntity u.entity u.session == .some .lockout

/-- The verdict is on a failed comparison of a protected authValue. -/
def Verdict.failsProtected (v : Verdict) : Bool :=
  v.compared && v.result != TPM_RC_SUCCESS && v.session.usesProtected

/-- The number of such comparisons in a command. -/
def Output.failures (o : Output) : ℕ := o.verdicts.countP Verdict.failsProtected

/-- The command is `TPM2_Shutdown()`. -/
def Command.isShutdown : Command → Bool
  | .shutdown _ _ => true
  | _ => false

variable {u : SessionUse} {first second : Check} {image : Image} {us : List SessionUse}

lemma lockoutEntity_isSome (h : u.usesProtected = true) :
    ∃ entity, lockoutEntity u.entity u.session = .some entity := by
  unfold SessionUse.usesProtected SessionUse.authUsed SessionUse.isDaBound at h
  unfold lockoutEntity
  cases hsession : u.session with
  | none =>
    have hentity : u.entity = .daProtected := by simpa [hsession] using h
    exact ⟨.daProtected, by simp [hentity]⟩
  | some a =>
    rw [hsession] at h
    dsimp only at h ⊢
    rw [if_neg]
    · exact ⟨_, rfl⟩
    rintro ⟨hbound, hexempt | hauth⟩
    · split_ifs at hexempt
      simp_all
    · simp_all

lemma lockoutEntity_of_not_usesProtected (h : u.usesProtected = false) {entity : Entity}
    (hentity : lockoutEntity u.entity u.session = .some entity) : entity = .lockout := by
  unfold SessionUse.usesProtected SessionUse.authUsed SessionUse.isDaBound
    SessionUse.isLockoutBound at h
  unfold lockoutEntity at hentity
  cases hsession : u.session with
  | none =>
    rw [hsession] at h hentity
    cases hu : u.entity <;> simp_all
  | some a =>
    rw [hsession] at h hentity
    cases hu : u.entity <;> cases hb : a.isDaBound <;> cases hl : a.isLockoutBound <;>
      cases hi : a.includeAuth <;> simp_all

/-! ## What leaves the counter alone -/

variable {s s' s'' : Tpm}

/-- The counter is the same, and the one in NV is as it was or has caught up.  Only when it has
caught up is nothing pending any more. -/
structure Keeps (s s' : Tpm) : Prop extends Quiet s s' where
  failedTries : s'.gp.failedTries = s.gp.failedTries
  nvFailedTries : s'.nv.gp.failedTries = s.nv.gp.failedTries ∨
    s'.nv.gp.failedTries = s.gp.failedTries
  settled : s'.daPendingOnNv = false →
    s.daPendingOnNv = false ∨ s'.nv.gp.failedTries = s.gp.failedTries

namespace Keeps

lemma of_eq (hq : Quiet s s') (hgp : s'.gp.failedTries = s.gp.failedTries)
    (hnv : s'.nv.gp.failedTries = s.nv.gp.failedTries)
    (hp : s'.daPendingOnNv = false → s.daPendingOnNv = false) : Keeps s s' :=
  ⟨hq, hgp, .inl hnv, fun h => .inl (hp h)⟩

@[refl]
lemma refl (s : Tpm) : Keeps s s := of_eq (.refl s) rfl rfl id

lemma trans (h : Keeps s s') (h' : Keeps s' s'') : Keeps s s'' where
  toQuiet := h.toQuiet.trans h'.toQuiet
  failedTries := h'.failedTries.trans h.failedTries
  nvFailedTries := by
    rcases h'.nvFailedTries with hold | hnew
    · rw [hold]
      exact h.nvFailedTries
    · exact .inr (hnew.trans h.failedTries)
  settled hp := by
    rcases h'.settled hp with hmid | hnew
    · rcases h.settled hmid with hstart | hcaught
      · exact .inl hstart
      · refine .inr ?_
        rcases h'.nvFailedTries with hold | hnew
        · exact hold.trans hcaught
        · exact hnew.trans h.failedTries
    · exact .inr (hnew.trans h.failedTries)

end Keeps

lemma keeps_healLockoutAuth (s : Tpm) : Keeps s (healLockoutAuth s) := by
  have hq := (steady_healLockoutAuth s).toQuiet
  unfold healLockoutAuth at hq ⊢
  split_ifs at hq ⊢
  · exact .of_eq hq rfl rfl id
  · exact .refl s

lemma keeps_daSelfHeal (h : selfHealed s = 0) : Keeps s (daSelfHeal s) := by
  have hle := SelfHeal.failedTries_daSelfHeal_le s
  have hsame : (daSelfHeal s).gp.failedTries = s.gp.failedTries := by
    rw [UInt32.le_iff_toNat_le] at hle
    unfold selfHealed at h
    exact UInt32.toNat_inj.mp (by omega)
  rw [SelfHeal.failedTries_daSelfHeal] at hsame
  refine Keeps.trans ?_ (keeps_healLockoutAuth _)
  have hq := (frame_healFailedTries s).toQuiet
  unfold healFailedTries at hq hsame ⊢
  dsimp only at hq hsame ⊢
  split_ifs at hq hsame ⊢
  · exact .refl s
  · exact ⟨hq, hsame, .inr hsame, fun _ => .inr hsame⟩
  · exact ⟨hq, hsame, .inr hsame, fun _ => .inr hsame⟩
  · exact .of_eq hq hsame rfl id

lemma keeps_timeClockUpdate (newTime : UInt64) (s : Tpm) :
    Keeps s (timeClockUpdate newTime s) := by
  have hq := quiet_timeClockUpdate newTime s
  unfold timeClockUpdate Tpm.pAssert at hq ⊢
  split_ifs at hq ⊢
  all_goals exact .of_eq hq rfl rfl id

lemma keeps_timeUpdate (h : timeUpdateHealed s = 0) : Keeps s (timeUpdate s) := by
  have hepoch : Keeps s (consumeStopped s) := by
    have hq := (steady_consumeStopped s).toQuiet
    unfold consumeStopped at hq ⊢
    split_ifs at hq ⊢
    · exact .of_eq hq rfl rfl id
    · exact .refl s
  have htime : Keeps (consumeStopped s) { consumeStopped s with
      time := (consumeStopped s).time + elapsed (consumeStopped s) } :=
    .of_eq (by constructor <;> simp) rfl rfl id
  exact ((hepoch.trans htime).trans (keeps_timeClockUpdate _ _)).trans (keeps_daSelfHeal h)

lemma keeps_timeUpdateToCurrent (h : timeUpdateToCurrentHealed s = 0) :
    Keeps s (timeUpdateToCurrent s) := by
  unfold timeUpdateToCurrentHealed at h
  unfold timeUpdateToCurrent
  split_ifs at h ⊢
  · exact .refl s
  · exact keeps_timeUpdate h

lemma keeps_writePending (s : Tpm) : Keeps s (writePending s) := by
  have hq := (steady_writePending s).toQuiet
  unfold writePending at hq ⊢
  split_ifs at hq ⊢
  · exact ⟨hq, rfl, .inr rfl, fun _ => .inr rfl⟩
  · exact .refl s

lemma keeps_checkLockedOut (lockoutAuthCheck : Bool) (s : Tpm) :
    Keeps s (checkLockedOut lockoutAuthCheck s).2 := by
  unfold checkLockedOut
  split_ifs
  · exact .refl s
  all_goals exact keeps_writePending s

lemma keeps_checksBefore : ∀ (u : SessionUse) s, Keeps s (checksBefore u s).2 :=
  checksBefore_keeps .refl (fun _ _ _ => .trans) keeps_checkLockedOut

lemma keeps_daRegisterFailure (entity : Entity) (s : Tpm) :
    Keeps s (daRegisterFailure entity s) := by
  have hq := (frame_daRegisterFailure entity s).toQuiet
  unfold daRegisterFailure at hq ⊢
  split_ifs at hq ⊢ <;> exact .of_eq hq rfl rfl id

lemma keeps_countFailure_lockout (s : Tpm) : Keeps s (countFailure .lockout s) := by
  have hq := (steady_countFailure .lockout s).toQuiet
  unfold countFailure Tpm.pAssert at hq ⊢
  simp only [if_true] at hq ⊢
  split_ifs at hq ⊢
  all_goals first
    | exact .of_eq hq rfl rfl id
    | exact .of_eq hq rfl rfl nofun

/-! ## Passing the checks -/

/-- A comparison may be made, and its failure can be recorded. -/
structure Unlocked (s : Tpm) : Prop where
  lt : s.gp.failedTries < s.gp.maxTries
  settled : s.daPendingOnNv = false
  recordable : s.nvIsAvailable = true ∨ s.nvIsOrderly = false

lemma checkLockedOut_settled (h : s.daPendingOnNv = false) (lockoutAuthCheck : Bool) :
    (checkLockedOut lockoutAuthCheck s).2 = s := by
  have hpending : writePending s = s := by simp [writePending, h]
  unfold checkLockedOut
  rw [hpending]
  split_ifs <;> rfl

lemma checkLockedOut_unlocked (h : (checkLockedOut false s).1 = TPM_RC_SUCCESS) :
    Unlocked (checkLockedOut false s).2 := by
  have hfields : (writePending s).daPendingOnNv = false ∧
      (writePending s).nvIsAvailable = s.nvIsAvailable ∧
      (writePending s).nvIsOrderly = s.nvIsOrderly :=
    ⟨by unfold writePending; split_ifs <;> simp_all, (steady_writePending s).nvIsAvailable,
      (steady_writePending s).nvIsOrderly⟩
  unfold checkLockedOut at h ⊢
  simp only [Bool.false_eq_true, if_false] at h ⊢
  split_ifs at h ⊢ with hrefused hlocked
  · -- the status of NV is not `TPM_RC_SUCCESS` here
    simp [Tpm.nvIsAvailable, show s.nvStatus = TPM_RC_SUCCESS from h] at hrefused
  · exact absurd (show TPM_RC_LOCKOUT = TPM_RC_SUCCESS from h) (by decide)
  · refine ⟨UInt32.not_le.mp hlocked, hfields.1, ?_⟩
    rw [hfields.2.1, hfields.2.2]
    by_contra hneither
    simp_all

lemma Check.andThen_success (h : (first.andThen second s).1 = TPM_RC_SUCCESS) :
    (first s).1 = TPM_RC_SUCCESS ∧ (second (first s).2).1 = TPM_RC_SUCCESS ∧
      (first.andThen second s).2 = (second (first s).2).2 := by
  unfold Check.andThen at h ⊢
  split_ifs at h ⊢ with hfirst
  · exact absurd h hfirst
  · exact ⟨not_not.mp hfirst, h, rfl⟩

lemma Unlocked.when (h : Unlocked s) (cond lockoutAuthCheck : Bool) :
    Unlocked (Check.when cond (checkLockedOut lockoutAuthCheck) s).2 := by
  unfold Check.when
  split_ifs
  · rw [checkLockedOut_settled h.settled]
    exact h
  · exact h

/-- A session that depends on a protected authValue only gets to its comparison in a TPM that
is not locked out. -/
lemma unlocked_checksBefore (hu : u.usesProtected = true)
    (h : (checksBefore u s).1 = TPM_RC_SUCCESS) : Unlocked (checksBefore u s).2 := by
  unfold checksBefore at h ⊢
  obtain ⟨-, hbound, heq⟩ := Check.andThen_success h
  rw [heq]
  obtain ⟨hfirst, hrest, heq⟩ := Check.andThen_success hbound
  rw [heq]
  obtain ⟨-, hrest, heq⟩ := Check.andThen_success hrest
  rw [heq]
  obtain ⟨hsecond, hrest, heq⟩ := Check.andThen_success hrest
  rw [heq]
  -- one of the two checks is the one for `failedTries`
  unfold SessionUse.usesProtected at hu
  rw [Bool.or_eq_true] at hu
  rcases hu with hentity | hbinding
  · rw [Bool.and_eq_true, beq_iff_eq] at hentity
    have hcond : (u.authUsed && u.entity != .exempt) = true := by simp [hentity]
    have hcheck : (u.entity == .lockout) = false := by simp [hentity.2]
    rw [hcond, hcheck] at hsecond ⊢
    exact checkLockedOut_unlocked hsecond
  · rw [Bool.and_eq_true, Bool.not_eq_true'] at hbinding
    rw [hbinding.1, hbinding.2] at hfirst ⊢
    exact (checkLockedOut_unlocked hfirst).when _ _

lemma checkSession_refused (h : (checksBefore u s).1 ≠ TPM_RC_SUCCESS) :
    checkSession u s = (⟨u, (checksBefore u s).1, false⟩, (checksBefore u s).2) := by
  simp [checkSession, h]

lemma checkSession_passed (h : (checksBefore u s).1 = TPM_RC_SUCCESS) :
    checkSession u s = compareAuth u (checksBefore u s).2 := by
  simp [checkSession, h]

/-! ## What a restart would count -/

/-- `failedTries` after a restart from the image. -/
def afterStartup (image : Image) : ℕ :=
  image.gp.failedTries.toNat +
    if isOrderly image.gp.orderlyState then 0
    else if image.gp.failedTries < image.gp.maxTries then 1 else 0

/-- A restart from the image would not forget any of `count` failures. -/
structure Recorded (m : UInt32) (count : ℕ) (image : Image) : Prop where
  maxTries : image.gp.maxTries = m
  recoveryTime : image.gp.recoveryTime ≠ 0
  count_le : count ≤ afterStartup image

/-- Nor has a running TPM forgotten any. -/
structure Counted (m : UInt32) (count : ℕ) (s : Tpm) : Prop where
  maxTries : s.gp.maxTries = m
  recoveryTime : s.gp.recoveryTime ≠ 0
  bounded : count ≤ m.toNat
  ram : count ≤ s.gp.failedTries.toNat
  image : Recorded m count s.nv
  settled : s.daPendingOnNv = false → s.nv.gp.failedTries = s.gp.failedTries
  synced : Synced s
  staged : s.updateNv = false → s.nv = s.file

variable {m : UInt32} {count count' : ℕ}

lemma Recorded.of_le (hm : image.gp.maxTries = m) (hr : image.gp.recoveryTime ≠ 0)
    (hle : count ≤ image.gp.failedTries.toNat) : Recorded m count image :=
  ⟨hm, hr, hle.trans (Nat.le_add_right _ _)⟩

lemma Recorded.mono (h : Recorded m count image) (hle : count' ≤ count) :
    Recorded m count' image :=
  ⟨h.maxTries, h.recoveryTime, hle.trans h.count_le⟩

namespace Counted

lemma mono (h : Counted m count s) (hle : count' ≤ count) : Counted m count' s :=
  { h with bounded := hle.trans h.bounded, ram := hle.trans h.ram, image := h.image.mono hle }

lemma keeps (h : Counted m count s) (hk : Keeps s s') : Counted m count s' where
  maxTries := hk.maxTries.trans h.maxTries
  recoveryTime := hk.recoveryTime ▸ h.recoveryTime
  bounded := h.bounded
  ram := hk.failedTries ▸ h.ram
  image := by
    have hm := hk.nvMaxTries.trans h.image.maxTries
    have hr : s'.nv.gp.recoveryTime ≠ 0 := hk.nvRecoveryTime ▸ h.image.recoveryTime
    rcases hk.nvFailedTries with hold | hnew
    · have hsame : afterStartup s'.nv = afterStartup s.nv := by
        simp only [afterStartup, hold, hk.nvOrderlyState, hk.nvMaxTries]
      exact ⟨hm, hr, hsame ▸ h.image.count_le⟩
    · exact .of_le hm hr (hnew ▸ h.ram)
  settled hp := by
    rw [hk.failedTries]
    rcases hk.settled hp with hstart | hcaught
    · rcases hk.nvFailedTries with hold | hnew
      · exact hold.trans (h.settled hstart)
      · exact hnew
    · exact hcaught
  synced := hk.toQuiet.synced h.synced
  staged hu := by
    obtain ⟨hu', hnv⟩ := hk.staged hu
    rw [hnv, hk.file, h.staged hu']

lemma countFailure (h : Counted m count s) (hunlocked : Unlocked s) {entity : Entity}
    (hentity : entity ≠ .lockout) : Counted m (count + 1) (Da.countFailure entity s) := by
  obtain ⟨hlt, hsettled, hrecordable⟩ := hunlocked
  have hlt' : s.gp.failedTries.toNat < m.toNat := by
    rwa [h.maxTries, UInt32.lt_iff_toNat_lt] at hlt
  have hm : m.toNat < 2 ^ 32 := UInt32.toNat_lt m
  have hsucc : (s.gp.failedTries + 1).toNat = s.gp.failedTries.toNat + 1 := by
    rw [UInt32.toNat_add]
    exact Nat.mod_eq_of_lt (by simp; omega)
  have hbounded : count + 1 ≤ m.toNat := by have := h.ram; omega
  have hram : count + 1 ≤ (s.gp.failedTries + 1).toNat := by have := h.ram; omega
  unfold Da.countFailure
  rw [if_neg hentity, if_neg h.recoveryTime]
  dsimp only
  split_ifs with havailable
  · exact { h with
      bounded := hbounded
      ram := hram
      image := .of_le h.image.maxTries h.image.recoveryTime hram
      settled := fun _ => rfl
      staged := nofun }
  · have horderly : s.nvIsOrderly = false := hrecordable.resolve_left havailable
    have himage : count + 1 ≤ afterStartup s.nv := by
      have hsame := h.settled hsettled
      have hno : isOrderly s.nv.gp.orderlyState = false := by rw [h.synced]; exact horderly
      have hpenalty : s.nv.gp.failedTries < s.nv.gp.maxTries := by
        rw [hsame, h.image.maxTries, ← h.maxTries]
        exact hlt
      rw [afterStartup, hno, if_neg (by decide), if_pos hpenalty, hsame]
      have := h.ram
      omega
    exact { h with
      bounded := hbounded
      ram := hram
      image := { h.image with count_le := himage }
      settled := nofun }

/-- A session: a failed comparison of a protected authValue is counted, unless the session mixes
it with `lockoutAuth`. -/
lemma compareAuth (h : Counted m count s) {u : SessionUse} (hmixed : u.mixed = false)
    (hunlocked : u.usesProtected = true → Unlocked s) :
    Counted m (count + if (Da.compareAuth u s).1.failsProtected then 1 else 0)
      (Da.compareAuth u s).2 := by
  have hresult := result_incrementLockout u.entity u.session s
  cases hcorrect : u.correct with
  | true => simpa [Da.compareAuth, hcorrect, Verdict.failsProtected] using h
  | false =>
    cases huses : u.usesProtected with
    | true =>
      obtain ⟨entity, hentity⟩ := lockoutEntity_isSome huses
      have hne : entity ≠ .lockout := fun heq => by
        simp [SessionUse.mixed, huses, hentity, heq] at hmixed
      have hcounted := (h.countFailure (hunlocked huses) hne).keeps
        (keeps_daRegisterFailure entity _)
      simp only [incrementLockout, hentity] at hresult
      simpa [Da.compareAuth, hcorrect, Verdict.failsProtected, huses, incrementLockout, hentity,
        hresult] using hcounted
    | false =>
      have hkept : Counted m count (incrementLockout u.entity u.session s).2 := by
        cases hentity : lockoutEntity u.entity u.session with
        | none => simpa [incrementLockout, hentity] using h
        | some entity =>
          have hlockout := lockoutEntity_of_not_usesProtected huses hentity
          have hkept := (h.keeps (keeps_countFailure_lockout s)).keeps
            (keeps_daRegisterFailure .lockout _)
          simpa [incrementLockout, hentity, hlockout] using hkept
      simpa [Da.compareAuth, hcorrect, Verdict.failsProtected, huses] using hkept

lemma checkSession (h : Counted m count s) {u : SessionUse} (hmixed : u.mixed = false) :
    Counted m (count + if (Da.checkSession u s).1.failsProtected then 1 else 0)
      (Da.checkSession u s).2 := by
  have hkept := h.keeps (keeps_checksBefore u s)
  by_cases hpass : (checksBefore u s).1 = TPM_RC_SUCCESS
  · rw [checkSession_passed hpass]
    exact hkept.compareAuth hmixed fun huses => unlocked_checksBefore huses hpass
  · rw [checkSession_refused hpass]
    simpa [Verdict.failsProtected] using hkept

lemma checkSessions {us : List SessionUse} (hmixed : ∀ u ∈ us, u.mixed = false)
    (h : Counted m count s) :
    Counted m (count + (Da.checkSessions us s).1.countP Verdict.failsProtected)
      (Da.checkSessions us s).2 := by
  induction us generalizing s count with
  | nil => exact h
  | cons u us ih =>
    have hone := h.checkSession (hmixed u mem_cons_self)
    unfold Da.checkSessions
    dsimp only
    split
    · simpa [countP_cons] using hone
    · have hrest := ih (fun v hv => hmixed v (mem_cons_of_mem _ hv)) hone
      rw [countP_cons]
      convert hrest using 1
      omega

lemma shutdown (h : Counted m count s) (hsettled : s.daPendingOnNv = false)
    (shutdownType : ShutdownType) (pcrReConfig : Bool) :
    Counted m count (tpm2Shutdown shutdownType pcrReConfig s) := by
  have hnv : count ≤ s.nv.gp.failedTries.toNat := by
    rw [h.settled hsettled]
    exact h.ram
  unfold tpm2Shutdown
  split_ifs
  · exact h
  · exact h
  · exact { h with
      image := .of_le h.image.maxTries h.image.recoveryTime hnv
      synced := rfl
      staged := nofun }

lemma action (h : Counted m count s) {c : Command}
    (hreset : c.isReset = true → s.nvIsAvailable = false)
    (hshutdown : c.isShutdown = true → s.daPendingOnNv = false) :
    Counted m count (c.action s) := by
  cases hc : c.isReset with
  | true =>
    rw [action_isReset hc (hreset hc)]
    exact h
  | false =>
    cases c with
    | readClock => exact h
    | clockSet newTime =>
      unfold Command.action tpm2ClockSet
      dsimp only
      split_ifs
      · exact h
      · exact h
      · exact h.keeps (keeps_timeClockUpdate newTime s)
    | shutdown shutdownType pcrReConfig =>
      exact h.shutdown (hshutdown rfl) shutdownType pcrReConfig
    | dictionaryAttackLockReset => cases hc
    | dictionaryAttackParameters m r l => cases hc
    | clear disableClear =>
      rw [action_clear_disabled hc]
      exact h
    | other clearOrderly => exact { h with }

end Counted

/-! ## Between commands -/

/-- A TPM that waits for its startup has the counter of the image. -/
structure Standby (m : UInt32) (s : Tpm) : Prop where
  nv : s.nv = s.file
  failedTries : s.gp.failedTries = s.file.gp.failedTries
  maxTries : s.gp.maxTries = m
  recoveryTime : s.gp.recoveryTime ≠ 0
  settled : s.daPendingOnNv = false
  orderly : s.nvIsOrderly = true → isOrderly s.file.gp.orderlyState = true

/-- What holds between commands. -/
structure Remembered (m : UInt32) (count : ℕ) (s : Tpm) : Prop
    extends Rests (Recorded m count) (Standby m) (Counted m count) s where
  bounded : count ≤ m.toNat
  maxTries : s.gp.maxTries = m

lemma Remembered.mono (h : Remembered m count s) (hle : count' ≤ count) :
    Remembered m count' s :=
  ⟨⟨h.file.mono hle, h.waiting, fun hm hi => ⟨(h.running hm hi).1.mono hle, (h.running hm hi).2⟩⟩,
    hle.trans h.bounded, h.maxTries⟩

lemma Counted.cleared (h : Counted m count s) :
    Counted m count (endStartup s).syncOrderlyState := by
  have himage : count ≤ afterStartup
      { s.nv with gp := { s.nv.gp with orderlyState := SU_NONE_VALUE } } := by
    refine h.image.count_le.trans ?_
    have hno : isOrderly SU_NONE_VALUE = false := by decide
    simp only [afterStartup, hno, Bool.false_eq_true, if_false]
    split_ifs <;> omega
  exact { h with image := { h.image with count_le := himage }, synced := rfl, staged := nofun }

lemma cleans_counted (m : UInt32) (count : ℕ) : Cleans (Recorded m count) (Counted m count) where
  cleared _ := Counted.cleared
  committed _ h := { h with staged := fun _ => rfl }
  image _ h := h.image
  staged _ h := h.staged

lemma Counted.endCommand (h : Counted m count s) (hinit : s.power.initialized = true)
    {p : Platform}
    (hold : s.inFailureMode = true ∨ p.commitOk = false → Recorded m count s.file) :
    Remembered m count (Da.endCommand p s) :=
  ⟨(cleans_counted m count).endCommand h hinit hold, h.bounded,
    (maxTries_endCommand p s).trans h.maxTries⟩

lemma inFailureMode_checkSession_counted (hmixed : u.mixed = false)
    (h : (checkSession u s).1.failsProtected = true) :
    (checkSession u s).2.inFailureMode = s.inFailureMode := by
  by_cases hpass : (checksBefore u s).1 = TPM_RC_SUCCESS
  · rw [checkSession_passed hpass] at h ⊢
    have hbefore := inFailureMode_checksBefore u s
    cases hcorrect : u.correct with
    | true => simp [compareAuth, hcorrect, Verdict.failsProtected] at h
    | false =>
      have huses : u.usesProtected = true := by
        simp only [compareAuth, hcorrect, Verdict.failsProtected, Bool.and_eq_true] at h
        exact h.2
      obtain ⟨entity, hentity⟩ := lockoutEntity_isSome huses
      have hne : entity ≠ .lockout := fun heq => by
        simp [SessionUse.mixed, huses, hentity, heq] at hmixed
      simp only [compareAuth, hcorrect, incrementLockout, hentity, daRegisterFailure, if_neg hne,
        countFailure, Bool.false_eq_true, if_false]
      split_ifs <;> exact hbefore
  · rw [checkSession_refused hpass] at h
    simp [Verdict.failsProtected] at h

lemma inFailureMode_checkSessions_counted (hmixed : ∀ u ∈ us, u.mixed = false)
    (h : (checkSessions us s).1.countP Verdict.failsProtected ≠ 0) :
    (checkSessions us s).2.inFailureMode = s.inFailureMode := by
  induction us generalizing s with
  | nil => rfl
  | cons u us ih =>
    unfold checkSessions at h ⊢
    dsimp only at h ⊢
    split_ifs at h ⊢ with hrefused
    · refine inFailureMode_checkSession_counted (hmixed u mem_cons_self) ?_
      by_contra hno
      simp [hno] at h
    · have hpass := not_not.mp hrefused
      have hno : (checkSession u s).1.failsProtected = false := by
        simp [Verdict.failsProtected, hpass]
      rw [← inFailureMode_checksBefore u s, ← checkSession_of_success hpass]
      refine ih (fun v hv => hmixed v (mem_cons_of_mem _ hv)) ?_
      simpa [countP_cons, hno] using h

/-! ## What is pending -/

lemma daPendingOnNv_timeUpdateToCurrent (s : Tpm) :
    (timeUpdateToCurrent s).daPendingOnNv = s.daPendingOnNv := by
  have hheal : ∀ s, (daSelfHeal s).daPendingOnNv = s.daPendingOnNv := fun s => by
    unfold daSelfHeal healLockoutAuth healFailedTries
    dsimp only
    split_ifs <;> rfl
  have hadvance : ∀ s, (timeAdvance s).daPendingOnNv = s.daPendingOnNv := fun s => by
    unfold timeAdvance timeClockUpdate Tpm.pAssert
    split_ifs <;> rfl
  unfold timeUpdateToCurrent timeUpdate
  split_ifs
  · rfl
  · rw [hheal, hadvance]
    unfold consumeStopped
    split_ifs <;> rfl

lemma daPendingOnNv_checkLockedOut (b : Bool) (s : Tpm) (h : s.daPendingOnNv = false) :
    (checkLockedOut b s).2.daPendingOnNv = false := by
  rwa [checkLockedOut_settled h]

lemma checkSession_success (h : (checkSession u s).1.result = TPM_RC_SUCCESS) :
    Keeps s (checkSession u s).2 ∧
      (s.daPendingOnNv = false → (checkSession u s).2.daPendingOnNv = false) := by
  rw [checkSession_of_success h]
  refine ⟨keeps_checksBefore u s, ?_⟩
  exact checksBefore_keeps (R := fun s s' => s.daPendingOnNv = false → s'.daPendingOnNv = false)
    (fun _ => id) (fun _ _ _ h h' => h' ∘ h) daPendingOnNv_checkLockedOut u s

lemma daPendingOnNv_checkSessions (us : List SessionUse) (s : Tpm)
    (hpass : allPass (checkSessions us s).1 = true) :
    s.daPendingOnNv = false → (checkSessions us s).2.daPendingOnNv = false :=
  checkSessions_keeps (R := fun s s' => s.daPendingOnNv = false → s'.daPendingOnNv = false)
    (fun _ => id) (fun _ _ _ h h' => h' ∘ h) daPendingOnNv_checkLockedOut us s hpass

/-! ## Commands -/

/-- What the count needs of an event.  A command that comes with a wrong protected authValue is
committed.  No session mixes `lockoutAuth` with the authValue of another protected entity.  And
there is no shutdown while a failure is pending. -/
def Undropped (s : Tpm) : Event → Prop
  | .command p us c =>
    ((∃ u ∈ us, u.correct = false ∧ u.usesProtected = true) → p.commitOk = true) ∧
    (∀ u ∈ us, u.mixed = false) ∧
    (c.isShutdown = true → s.daPendingOnNv = false)
  | _ => True

instance (s : Tpm) : (e : Event) → Decidable (Undropped s e)
  | .command _ _ _ => inferInstanceAs (Decidable (_ ∧ _))
  | .startup _ _ _ => .isTrue trivial
  | .tick _ => .isTrue trivial
  | .powerLoss _ _ => .isTrue trivial

lemma Standby.relabel (h : Standby m s) {o : UInt16} {power : PowerState} {n : TpmRc}
    (ho : isOrderly o = true → s.nvIsOrderly = true) : Standby m (s.relabel o power n) :=
  { h with orderly := fun ho' => h.orderly (ho ho') }

namespace Remembered

lemma idle (h : Remembered m count s) (hidle : Idle s s') : Remembered m count s' := by
  refine ⟨h.toRests.idle (fun ho hw => hw.relabel ho) hidle, h.bounded, ?_⟩
  obtain ⟨o, power, n, -, rfl⟩ := hidle.relabelled
  exact h.maxTries

lemma beginCommand (h : Remembered m count s) (hmode : s.inFailureMode = false)
    (hinit : s.power.initialized = true) {p : Platform}
    (hhealed : timeUpdateToCurrentHealed (resetFlags p s) = 0) :
    Counted m count (Da.beginCommand p s) := by
  obtain ⟨hcounted, hnv⟩ := h.running hmode hinit
  have hreset : Counted m count (resetFlags p s) :=
    { hcounted with staged := fun _ => hnv }
  exact hreset.keeps (keeps_timeUpdateToCurrent hhealed)

lemma command (h : Remembered m count s) {p : Platform} {us : List SessionUse} {c : Command}
    (hreset : (Event.command p us c).resets s = false)
    (hhealed : (execute p (commandBody us c) s).1.healed = 0)
    (hcond : Undropped s (.command p us c)) :
    Remembered m (count + (execute p (commandBody us c) s).1.failures)
      (execute p (commandBody us c) s).2 := by
  obtain ⟨hcommit, hmixed, hshutdown⟩ := hcond
  obtain ⟨hnone, hidle⟩ | ⟨hmode, hinit⟩ := execute_command_cases p us c s
  · rw [hnone]
    exact h.idle hidle
  obtain ⟨hverdicts, hhealed', hafter⟩ := execute_running hmode hinit p us c
  have hquiet : Quiet (resetFlags p s) (checkSessions us (Da.beginCommand p s)).2 :=
    (quiet_timeUpdateToCurrent _).trans (frame_checkSessions us _).toQuiet
  have hsessions := (h.beginCommand hmode hinit (hhealed'.symm.trans hhealed)).checkSessions
    hmixed
  have hmode₀ : (Da.beginCommand p s).inFailureMode = false := by
    unfold Da.beginCommand timeUpdateToCurrent
    split_ifs with hskip
    · exact hmode
    · have havailable : (resetFlags p s).nvIsAvailable = true := by
        by_contra hno
        simp [hno] at hskip
      exact (inFailureMode_timeUpdate havailable).trans hmode
  rw [Output.failures, hverdicts, hafter]
  set s₁ := (checkSessions us (Da.beginCommand p s)).2 with hs₁
  set n := (checkSessions us (Da.beginCommand p s)).1.countP Verdict.failsProtected with hn
  -- without a failure the old image will do, and with one the new one is committed
  have hold : s₁.inFailureMode = true ∨ p.commitOk = false →
      Recorded m (count + n) s.file := by
    intro hlost
    by_cases hzero : n = 0
    · rw [hzero]
      exact h.file
    · have hmode₁ := (inFailureMode_checkSessions_counted hmixed hzero).trans hmode₀
      rcases hlost with hfailed | huncommitted
      · exact nomatch hmode₁.symm.trans hfailed
      · obtain ⟨v, hv, hfails⟩ := countP_pos_iff.mp (Nat.pos_of_ne_zero hzero)
        simp only [Verdict.failsProtected, Bool.and_eq_true, bne_iff_ne] at hfails
        obtain ⟨hmem, hcorrect⟩ := wrong_of_verdict us _ v hv hfails.1.1 hfails.1.2
        exact nomatch (hcommit ⟨v.session, hmem, hcorrect, hfails.2⟩).symm.trans huncommitted
  have hinit₁ : s₁.power.initialized = true := by rw [hquiet.power]; exact hinit
  split_ifs with hpass
  · obtain ⟨hpower, hfile⟩ := action_power_file c s₁
    have hsettled : c.isShutdown = true → s₁.daPendingOnNv = false := fun hc =>
      daPendingOnNv_checkSessions us _ hpass
        ((daPendingOnNv_timeUpdateToCurrent _).trans (hshutdown hc))
    have hzero : n = 0 := by
      rw [hn, countP_eq_zero]
      intro v hv
      have := all_eq_true.mp hpass v hv
      simp [Verdict.failsProtected, beq_iff_eq.mp this]
    refine (hsessions.action (Event.resets_eq_false hmode hinit hreset hpass)
      hsettled).endCommand (by rw [hpower]; exact hinit₁) fun _ => ?_
    rw [hfile, hquiet.file, hzero]
    exact h.file
  · refine hsessions.endCommand hinit₁ fun hlost => ?_
    rw [hquiet.file]
    exact hold hlost

end Remembered

/-! ## Startup -/

lemma Standby.countStartup (h : Standby m s) (hfile : Recorded m count s.file) :
    count ≤ (Da.countStartup s).gp.failedTries.toNat ∧
      (Da.countStartup s).nv.gp.failedTries = (Da.countStartup s).gp.failedTries ∧
      (Da.countStartup s).daPendingOnNv = false := by
  have hnv : s.nv.gp.failedTries = s.gp.failedTries := by rw [h.nv, h.failedTries]
  have hrecorded := hfile.count_le
  rw [afterStartup, ← h.failedTries, hfile.maxTries] at hrecorded
  -- enabling `lockoutAuth` leaves the counter alone
  set s₁ : Tpm := if s.gp.lockoutRecovery = 0 then
    { s with gp := { s.gp with lockOutAuthEnabled := true } }.syncLockOutAuthEnabled else s with hs₁
  have hsame : s₁.gp.failedTries = s.gp.failedTries ∧ s₁.gp.maxTries = s.gp.maxTries ∧
      s₁.gp.recoveryTime = s.gp.recoveryTime ∧ s₁.nvIsOrderly = s.nvIsOrderly ∧
      s₁.nv.gp.failedTries = s.gp.failedTries ∧ s₁.daPendingOnNv = false := by
    rw [hs₁]
    split_ifs <;> exact ⟨rfl, rfl, rfl, rfl, hnv, h.settled⟩
  obtain ⟨hfailed, hmax, hrec, horderly, hnv₁, hsettled⟩ := hsame
  have hstep : Da.countStartup s =
      if s₁.gp.recoveryTime ≠ 0 ∧ s₁.gp.failedTries < s₁.gp.maxTries ∧ !s₁.nvIsOrderly then
        { s₁ with gp := { s₁.gp with failedTries := s₁.gp.failedTries + 1 } }.syncFailedTries
      else s₁ := rfl
  rw [hstep]
  split_ifs with hpenalty
  · refine ⟨?_, rfl, hsettled⟩
    show count ≤ (s₁.gp.failedTries + 1).toNat
    have hlt : s.gp.failedTries.toNat < m.toNat := by
      have := hpenalty.2.1
      rwa [hfailed, hmax, h.maxTries, UInt32.lt_iff_toNat_lt] at this
    have hm : m.toNat < 2 ^ 32 := UInt32.toNat_lt m
    rw [hfailed, UInt32.toNat_add, Nat.mod_eq_of_lt (by simp; omega)]
    split_ifs at hrecorded <;> simp <;> omega
  · refine ⟨?_, hnv₁.trans hfailed.symm, hsettled⟩
    rw [hfailed]
    rw [hrec, hfailed, hmax, horderly, h.maxTries] at hpenalty
    split_ifs at hrecorded with ho hlt
    · exact hrecorded
    · refine absurd ⟨h.recoveryTime, hlt, ?_⟩ hpenalty
      simpa using fun hyes => ho (h.orderly hyes)
    · exact hrecorded

lemma Standby.daStartup (h : Standby m s) (hfile : Recorded m count s.file)
    (hhealed : timeUpdateHealed (daStartupTimers s) = 0) :
    count ≤ (Da.daStartup s).gp.failedTries.toNat ∧
      (Da.daStartup s).nv.gp.failedTries = (Da.daStartup s).gp.failedTries := by
  have hrebase : Standby m (rebaseTimers s) ∧ (rebaseTimers s).file = s.file := by
    unfold rebaseTimers
    split_ifs
    all_goals exact ⟨{ h with }, rfl⟩
  obtain ⟨hcount, hnv, -⟩ := hrebase.1.countStartup (hrebase.2 ▸ hfile)
  have hkeeps := keeps_timeUpdate hhealed
  constructor
  · rw [Da.daStartup, hkeeps.failedTries]
    exact hcount
  · rw [Da.daStartup, hkeeps.failedTries]
    rcases hkeeps.nvFailedTries with hold | hnew
    · exact hold.trans hnv
    · exact hnew

lemma Standby.timeStartup (h : Standby m s) : Standby m (Da.timeStartup s) := by
  unfold Da.timeStartup
  split_ifs
  all_goals exact { h with }

lemma Remembered.startup (h : Remembered m count s) {p : Platform} {i : StartupInput}
    {startupType : ShutdownType}
    (hhealed : (execute p (startupBody i startupType) s).1.healed = 0) :
    Remembered m count (execute p (startupBody i startupType) s).2 := by
  obtain ⟨-, hidle⟩ | ⟨hmode, hinit, heq⟩ | ⟨hmode, hinit, -, o, power, t, ho, hon, ht, heq⟩ :=
    execute_startup_cases p i startupType s
  · exact h.idle hidle
  · rw [heq] at hhealed ⊢
    have hquiet : Quiet (resetFlags p s) (Da.beginCommand p s) := quiet_timeUpdateToCurrent _
    exact (h.beginCommand hmode hinit hhealed).endCommand
      ((initialized_beginCommand p s).trans hinit) fun _ => hquiet.file ▸ h.file
  · rw [heq] at hhealed ⊢
    have hw := h.waiting hmode hinit
    have hstandby : Standby m (s.relabel o power p.nvStatus) := hw.relabel ho
    have hstart := quiet_timeStartup (s.relabel o power p.nvStatus)
    have hready := hstandby.timeStartup
    rw [← ht] at hstart hready
    obtain ⟨hcount, hsettled⟩ := hready.daStartup (hstart.file ▸ h.file) hhealed
    have hquiet := hstart.trans (quiet_daStartup t)
    generalize Da.daStartup t = s₂ at hquiet hcount hsettled ⊢
    have hmax : s₂.gp.maxTries = m := hquiet.maxTries.trans h.maxTries
    have hfile₂ : Recorded m count s₂.file := by
      rw [hquiet.file]
      exact h.file
    dsimp only
    split_ifs
    · have hnvMax : s₂.nv.gp.maxTries = m := hquiet.nvMaxTries.trans (hw.nv ▸ h.file.maxTries)
      have hnvRec : s₂.nv.gp.recoveryTime ≠ 0 := by
        rw [hquiet.nvRecoveryTime]
        exact hw.nv ▸ h.file.recoveryTime
      have hcounted : Counted m count (endStartup s₂).syncOrderlyState :=
        ⟨hmax, hquiet.recoveryTime ▸ hw.recoveryTime, h.bounded, hcount,
          .of_le hnvMax hnvRec (hsettled ▸ hcount), fun _ => hsettled, rfl, nofun⟩
      refine hcounted.endCommand ?_ fun _ => hfile₂
      show s₂.power.initialized = true
      rw [hquiet.power]
      exact hon
    · exact ⟨⟨hfile₂, nofun, nofun⟩, h.bounded, hmax⟩

/-! ## The runs -/

lemma Remembered.powerCycle (h : Remembered m count s) (drtm initOk : Bool) :
    Remembered m count (Da.powerCycle drtm initOk s) :=
  ⟨⟨h.file, fun _ _ => ⟨rfl, rfl, h.file.maxTries, h.file.recoveryTime, rfl, id⟩, nofun⟩,
    h.bounded, h.file.maxTries⟩

lemma Remembered.tick (h : Remembered m count s) (ms : UInt64) :
    Remembered m count { s with timer := s.timer + ms } := by
  refine { h with waiting := fun hm hi => { h.waiting hm hi with }, running := fun hm hi => ?_ }
  obtain ⟨hc, hnv⟩ := h.running hm hi
  exact ⟨{ hc with }, hnv⟩

lemma remembered_poweredOn (hrec : image.gp.recoveryTime ≠ 0)
    (hcount : count ≤ image.gp.failedTries.toNat) (hmax : count ≤ image.gp.maxTries.toNat) :
    Remembered image.gp.maxTries count (poweredOn image) :=
  ⟨⟨.of_le rfl hrec hcount, fun _ _ => ⟨rfl, rfl, rfl, hrec, rfl, id⟩, nofun⟩, hmax, rfl⟩

/-- The failures since `failedTries` was last zero. -/
def sinceZero (count : ℕ) (o : Output) (s : Tpm) : ℕ :=
  if s.gp.failedTries = 0 then 0 else count + o.failures

/-- The TPM with the number of failed comparisons of protected authValues since `failedTries`
was last zero.  There is a recovery time, nothing is reset, and nothing is healed. -/
def lockoutSystem : System (Tpm × ℕ) Event where
  init x := ∃ image : Image, image.gp.recoveryTime ≠ 0 ∧ x.1 = poweredOn image ∧
    x.2 ≤ image.gp.failedTries.toNat ∧ x.2 ≤ image.gp.maxTries.toNat
  enabled x e := e.resets x.1 = false ∧ (e.exec x.1).1.healed = 0
  step x e := ((e.exec x.1).2, sinceZero x.2 (e.exec x.1).1 (e.exec x.1).2)

lemma Remembered.of_reach {x : Tpm × ℕ}
    (h : (lockoutSystem.restrict fun x => Undropped x.1).Reach x) :
    ∃ m, Remembered m x.2 x.1 := by
  refine h.invariant (I := fun x => ∃ m, Remembered m x.2 x.1) ?_ ?_
  · rintro ⟨_, count⟩ ⟨image, hrec, rfl, hcount, hmax⟩
    exact ⟨_, remembered_poweredOn hrec hcount hmax⟩
  · rintro ⟨s, count⟩ e ⟨m, hs⟩ ⟨⟨hreset, hhealed⟩, hcond⟩
    have hnext : Remembered m (count + (e.exec s).1.failures) (e.exec s).2 := by
      cases e with
      | command p us c => exact hs.command hreset hhealed hcond
      | startup p i startupType =>
        have hnone : ((Event.startup p i startupType).exec s).1.failures = 0 := by
          simp only [Event.exec, execute, startupBody]
          split_ifs <;> rfl
        rw [hnone]
        exact hs.startup hhealed
      | tick ms => exact hs.tick ms
      | powerLoss drtm initOk => exact hs.powerCycle drtm initOk
    refine ⟨m, hnext.mono ?_⟩
    show sinceZero count (e.exec s).1 (e.exec s).2 ≤ _
    unfold sinceZero
    split_ifs <;> omega

/-! ## Lockout -/

/-- The TPM is in lockout, and NV does not keep it from saying so. -/
structure Locked (s : Tpm) : Prop where
  ge : s.gp.maxTries ≤ s.gp.failedTries
  recordable : s.nvIsAvailable = true ∨ s.nvIsOrderly = false ∧ s.daPendingOnNv = false

lemma Locked.keeps (h : Locked s) (hk : Keeps s s')
    (hp : s.daPendingOnNv = false → s'.daPendingOnNv = false) : Locked s' := by
  refine ⟨by rw [hk.maxTries, hk.failedTries]; exact h.ge, ?_⟩
  rw [hk.nvIsAvailable, hk.nvIsOrderly]
  exact h.recordable.imp id fun hno => ⟨hno.1, hp hno.2⟩

lemma Locked.checkLockedOut (h : Locked s) (lockoutAuthCheck : Bool) :
    ((Da.checkLockedOut lockoutAuthCheck s).1 = TPM_RC_SUCCESS ∧ lockoutAuthCheck = true) ∨
      (Da.checkLockedOut lockoutAuthCheck s).1 = TPM_RC_LOCKOUT := by
  have hk := keeps_writePending s
  have hge : (writePending s).gp.failedTries ≥ (writePending s).gp.maxTries := by
    rw [hk.failedTries, hk.maxTries]
    exact h.ge
  have hask : ¬ (!s.nvIsAvailable && (s.nvIsOrderly || s.daPendingOnNv)) = true := by
    rcases h.recordable with hyes | ⟨hno, hsettled⟩
    · simp [hyes]
    · simp [hno, hsettled]
  unfold Da.checkLockedOut
  rw [if_neg hask]
  cases lockoutAuthCheck with
  | true =>
    cases henabled : (writePending s).gp.lockOutAuthEnabled with
    | true => exact .inl ⟨by simp [henabled], rfl⟩
    | false => exact .inr (by simp [henabled])
  | false => exact .inr (if_pos hge)

/-- The check of a session that is bound or uses an authValue refuses it, or it is for
`lockoutAuth`, which leaves the lockout in force. -/
lemma Locked.when (h : Locked s) (cond b : Bool) :
    ((Check.when cond (Da.checkLockedOut b) s).1 = TPM_RC_SUCCESS ∧ (cond = true → b = true) ∧
        Locked (Check.when cond (Da.checkLockedOut b) s).2) ∨
      (Check.when cond (Da.checkLockedOut b) s).1 = TPM_RC_LOCKOUT := by
  unfold Check.when
  split_ifs with hcond
  · refine (h.checkLockedOut b).imp_left fun hpass => ⟨hpass.1, fun _ => hpass.2, ?_⟩
    exact h.keeps (keeps_checkLockedOut b s) (daPendingOnNv_checkLockedOut b s)
  · exact .inl ⟨rfl, fun hyes => absurd hyes hcond, h⟩

lemma Check.andThen_lockout (h : (first s).1 = TPM_RC_LOCKOUT ∨
      (first s).1 = TPM_RC_SUCCESS ∧ (second (first s).2).1 = TPM_RC_LOCKOUT) :
    (first.andThen second s).1 = TPM_RC_LOCKOUT := by
  unfold Check.andThen
  rcases h with hfirst | ⟨hfirst, hsecond⟩
  · rwa [if_pos (by rw [hfirst]; decide)]
  · rwa [if_neg (not_not.mpr hfirst)]

/-- In lockout a session that depends on a protected authValue is refused with
`TPM_RC_LOCKOUT`. -/
lemma Locked.checksBefore (h : Locked s) (hu : u.usesProtected = true)
    (hconsistency : u.consistency = TPM_RC_SUCCESS) (hpresence : u.presence = TPM_RC_SUCCESS) :
    (Da.checksBefore u s).1 = TPM_RC_LOCKOUT := by
  refine Check.andThen_lockout (.inr ⟨hconsistency, ?_⟩)
  rcases h.when u.isDaBound u.isLockoutBound with ⟨hpass, hkind, hlocked⟩ | hlockout
  · -- a session that passes the first check uses the authValue of its entity
    have huses : u.authUsed = true ∧ u.entity = .daProtected := by
      unfold SessionUse.usesProtected at hu
      cases hda : u.isDaBound <;> simp_all
    refine Check.andThen_lockout (.inr ⟨hpass, Check.andThen_lockout (.inr ⟨hpresence, ?_⟩)⟩)
    refine Check.andThen_lockout (.inl ((hlocked.when _ _).resolve_left fun hno => ?_))
    simpa [huses] using hno.2.1
  · exact Check.andThen_lockout (.inl hlockout)

lemma compared_eq_false (hu : u.usesProtected = true) (h : s.gp.maxTries ≤ s.gp.failedTries) :
    (checkSession u s).1.compared = false := by
  have hk := keeps_checksBefore u s
  rw [checkSession_refused]
  intro hpass
  have hlt := (unlocked_checksBefore hu hpass).lt
  rw [hk.failedTries, hk.maxTries] at hlt
  exact absurd h (UInt32.not_le.mpr hlt)

lemma verdict_of_lockout (us : List SessionUse) (h : s.gp.maxTries ≤ s.gp.failedTries) :
    ∀ v ∈ (checkSessions us s).1, v.session.usesProtected = true →
      v.compared = false ∧
      (Locked s → v.session.consistency = TPM_RC_SUCCESS → v.session.presence = TPM_RC_SUCCESS →
        v.result = TPM_RC_LOCKOUT) := by
  have hhead : ∀ u s, s.gp.maxTries ≤ s.gp.failedTries → u.usesProtected = true →
      (checkSession u s).1.compared = false ∧
      (Locked s → u.consistency = TPM_RC_SUCCESS → u.presence = TPM_RC_SUCCESS →
        (checkSession u s).1.result = TPM_RC_LOCKOUT) := by
    intro u s hs hu
    refine ⟨compared_eq_false hu hs, fun hlocked hc hp => ?_⟩
    have hrefused := hlocked.checksBefore hu hc hp
    rw [checkSession_refused (by rw [hrefused]; decide)]
    exact hrefused
  induction us generalizing s with
  | nil => exact nofun
  | cons u us ih =>
    intro v hv
    unfold checkSessions at hv
    dsimp only at hv
    split_ifs at hv with hrefused
    · rw [mem_singleton.mp hv, session_checkSession]
      exact hhead u s h
    · obtain ⟨hkeeps, hpending⟩ := checkSession_success (not_not.mp hrefused)
      rcases mem_cons.mp hv with rfl | hrest
      · rw [session_checkSession]
        exact hhead u s h
      · intro huses
        have hnext := ih (by rw [hkeeps.maxTries, hkeeps.failedTries]; exact h) v hrest huses
        exact ⟨hnext.1, fun hlocked => hnext.2 (hlocked.keeps hkeeps hpending)⟩

/-- In every run in which nothing is dropped, the number of failed comparisons of protected
authValues since `failedTries` was last zero is at most `maxTries`.  And once `failedTries` has
reached `maxTries`, no such authValue is compared; a session that is in order and would use one
gets `TPM_RC_LOCKOUT`, unless NV is not available to a TPM that has to write to it. -/
theorem failures_le_maxTries {x : Tpm × ℕ}
    (h : (lockoutSystem.restrict fun x => Undropped x.1).Reach x) :
    x.2 ≤ x.1.gp.maxTries.toNat ∧
      ∀ p us c, lockoutSystem.enabled x (.command p us c) →
        x.1.gp.maxTries ≤ x.1.gp.failedTries →
        ∀ v ∈ (execute p (commandBody us c) x.1).1.verdicts, v.session.usesProtected = true →
          v.compared = false ∧
          (p.nvStatus = TPM_RC_SUCCESS ∨
              x.1.nvIsOrderly = false ∧ x.1.daPendingOnNv = false →
            v.session.consistency = TPM_RC_SUCCESS → v.session.presence = TPM_RC_SUCCESS →
              v.result = TPM_RC_LOCKOUT) := by
  obtain ⟨m, hs⟩ := Remembered.of_reach h
  refine ⟨hs.maxTries ▸ hs.bounded, fun p us c henabled hlocked v hv => ?_⟩
  obtain ⟨hnone, -⟩ | ⟨hmode, hinit⟩ := execute_command_cases p us c x.1
  · rw [hnone] at hv
    cases hv
  obtain ⟨hverdicts, hhealed, -⟩ := execute_running hmode hinit p us c
  have hkeeps := keeps_timeUpdateToCurrent (hhealed.symm.trans henabled.2)
  have hge : (beginCommand p x.1).gp.maxTries ≤ (beginCommand p x.1).gp.failedTries := by
    rw [beginCommand, hkeeps.maxTries, hkeeps.failedTries]
    exact hlocked
  rw [hverdicts] at hv
  intro huses
  obtain ⟨hcompared, hresult⟩ := verdict_of_lockout us hge v hv huses
  refine ⟨hcompared, fun hnv => hresult ⟨hge, ?_⟩⟩
  rw [beginCommand, hkeeps.nvIsAvailable, hkeeps.nvIsOrderly,
    daPendingOnNv_timeUpdateToCurrent]
  refine hnv.imp (fun hp => ?_) id
  simp [Tpm.nvIsAvailable, resetFlags, hp]

instance (x : Tpm × ℕ) (e : Event) : Decidable (lockoutSystem.enabled x e) :=
  inferInstanceAs (Decidable (_ ∧ _))

instance (x : Tpm × ℕ) (e : Event) :
    Decidable ((lockoutSystem.restrict fun x => Undropped x.1).enabled x e) :=
  inferInstanceAs (Decidable (_ ∧ _))

/-- NV cannot be written during the command. -/
def withoutNv : Platform := ⟨TPM_RC_NV_UNAVAILABLE, true⟩

/-- Three failures: the second while NV is not available. -/
def threeFailures : List Event :=
  [.startup smooth ⟨0, true, true⟩ .clear,
    .command smooth [SelfHeal.wrongPassword] (.other false),
    .command withoutNv [SelfHeal.wrongPassword] (.other false),
    .command smooth [SelfHeal.wrongPassword] (.other false)]

theorem failures_le_maxTries_threeFailures :
    (threeFailures.foldl lockoutSystem.step (factory, 0)).2 = 3 ∧
      (threeFailures.foldl lockoutSystem.step (factory, 0)).2 ≤
        (threeFailures.foldl lockoutSystem.step
          (factory, 0)).1.gp.maxTries.toNat := by
  have hstart : (lockoutSystem.restrict fun x => Undropped x.1).Reach (factory, 0) :=
    .start ⟨manufactured 0, by decide, rfl, Nat.zero_le _, Nat.zero_le _⟩
  have hreach := hstart.path threeFailures (by decide +kernel)
  exact ⟨by decide +kernel, (failures_le_maxTries hreach).1⟩

/-- A failure while NV is not available, a shutdown when it is again, and a loss of power. -/
def droppedFailure : List Event :=
  [.command withoutNv [SelfHeal.wrongPassword] (.other false),
    .command smooth [] (.shutdown .clear false), .powerLoss false true,
    .startup smooth ⟨0, true, true⟩ .clear]

/-- One failure that is recorded, and three that are not. -/
def droppedFailures : List Event :=
  [.startup smooth ⟨0, true, true⟩ .clear,
    .command smooth [SelfHeal.wrongPassword] (.other false)] ++
    droppedFailure ++ droppedFailure ++ droppedFailure

/-- A failure that is pending at a shutdown is forgotten by the restart: there can be more
failures than `maxTries`, with `failedTries` still at one. -/
theorem exists_failures_gt_maxTries :
    ∃ x, lockoutSystem.Reach x ∧ x.1.gp.maxTries.toNat < x.2 ∧ x.1.gp.failedTries = 1 := by
  have hstart : lockoutSystem.Reach (factory, 0) :=
    .start ⟨manufactured 0, by decide, rfl, Nat.zero_le _, Nat.zero_le _⟩
  have hreach := hstart.path droppedFailures (by decide +kernel)
  exact ⟨_, hreach, by decide +kernel, by decide +kernel⟩

end RfTpm.Da
