import RfTpm.Da.Clock

/-!
# Self-healing and powered time

`DASelfHeal()` takes one off `failedTries` for every `recoveryTime` seconds.  It should not do
so faster than time passes: since the last failed authorization, the total it has taken off is
at most the powered time since then, divided by `recoveryTime`.

The argument is an account of time.  Time that has been counted towards the next decrease
(`waited`), time the timer is ahead of `g_time`, and the time already spent on decreases together
are powered time since the failure (`Within`).

The account fails in three ways.  What happens to the timer after a shutdown is not saved with
it: a failure is then forgotten by the timer but not by the counter, and a decrease is made a
second time after the restart.  And while NV is not available `g_time` stands still, so a
failure is recorded as if it had been earlier.  `Undisturbed` excludes these.
-/

namespace RfTpm.Da

/-- A failure of the session is one that `DARegisterFailure()` is told of, for an entity other than
`TPM_RH_LOCKOUT`. -/
def SessionUse.registrable (u : SessionUse) : Bool :=
  match lockoutEntity u.entity u.session with
  | .none => false
  | .some entity => entity != .lockout

/-- The verdict is on such a failure. -/
def Verdict.registers (v : Verdict) : Bool :=
  v.compared && v.result != TPM_RC_SUCCESS && v.session.registrable

/-- One of the verdicts is. -/
def Output.registers (o : Output) : Bool := o.verdicts.any Verdict.registers

namespace SelfHeal

open Runs

/-! ## The account -/

/-- What has happened since the last failed authorization: how long there was power, and how
much was taken off `failedTries`. -/
structure Healing where
  powered : ℕ
  healed : ℕ
  deriving DecidableEq

/-- The account of the time since the last failure; there is none before the first one. -/
abbrev Period := Option Healing

namespace Period

def tick (period : Period) (ms : UInt64) : Period :=
  period.map fun h => { h with powered := h.powered + ms.toNat }

def heal (period : Period) (n : ℕ) : Period :=
  period.map fun h => { h with healed := h.healed + n }

/-- A failure starts a new account. -/
def started : Period := some ⟨0, 0⟩

@[simp]
lemma heal_zero (period : Period) : period.heal 0 = period := by
  cases period <;> rfl

end Period

/-- The time `t`, together with the time spent on decreases, is powered time. -/
def Within (period : Period) (r : UInt32) (t : ℕ) : Prop :=
  ∀ h, period = some h → t + h.healed * (1000 * r.toNat) ≤ h.powered

namespace Within

variable {period : Period} {r : UInt32} {t t' n : ℕ}

lemma none (r : UInt32) (t : ℕ) : Within .none r t := nofun

lemma started (r : UInt32) : Within Period.started r 0 := by
  rintro _ ⟨⟩
  simp

lemma mono (h : Within period r t) (hle : t' ≤ t) : Within period r t' :=
  fun x hx => (Nat.add_le_add_right hle _).trans (h x hx)

lemma tick (h : Within period r t) (ms : UInt64) :
    Within (period.tick ms) r (t + ms.toNat) := by
  rintro x hx
  obtain ⟨y, hy, rfl⟩ := Option.map_eq_some_iff.mp hx
  have := h y hy
  show t + ms.toNat + y.healed * _ ≤ y.powered + ms.toNat
  omega

lemma heal (h : Within period r (t + n * (1000 * r.toNat))) : Within (period.heal n) r t := by
  rintro x hx
  obtain ⟨y, hy, rfl⟩ := Option.map_eq_some_iff.mp hx
  have := h y hy
  show t + (y.healed + n) * _ ≤ y.powered
  rw [Nat.add_mul]
  omega

end Within

/-- The time counted towards the next decrease. -/
def waited (s : Tpm) : ℕ := (s.time - s.go.selfHealTimer).toNat

/-- The time by which the timer is ahead of `g_time`. -/
def ahead (s : Tpm) : ℕ := (elapsed s).toNat

/-- The time counted towards the next decrease when a shutdown was made. -/
def saved (go : OrderlyData) : ℕ := (go.time - go.selfHealTimer).toNat

/-! ## Decreases -/

variable {s s' : Tpm} {period : Period}

lemma decreaseCount_mul_le (h : s.gp.recoveryTime ≠ 0) :
    (decreaseCount s).toNat * s.gp.recoveryTime.toNat * 1000 ≤ waited s := by
  have hr : 0 < s.gp.recoveryTime.toNat := by
    rw [Nat.pos_iff_ne_zero]
    exact fun h0 => h (UInt32.toNat_inj.mp h0)
  have hcount : (decreaseCount s).toNat = waited s / 1000 / s.gp.recoveryTime.toNat := by
    simp [decreaseCount, waited, UInt64.toNat_div]
  rw [hcount]
  calc waited s / 1000 / s.gp.recoveryTime.toNat * s.gp.recoveryTime.toNat * 1000
      ≤ waited s / 1000 * 1000 := Nat.mul_le_mul_right _ (Nat.div_mul_le_self _ _)
    _ ≤ waited s := Nat.div_mul_le_self _ _

lemma toNat_healStep (h : s.gp.recoveryTime ≠ 0) :
    (decreaseCount s * s.gp.recoveryTime.toUInt64 * 1000).toNat =
      (decreaseCount s).toNat * s.gp.recoveryTime.toNat * 1000 := by
  have hle := decreaseCount_mul_le h
  have hlt : waited s < 2 ^ 64 := UInt64.toNat_lt _
  have hprod : (decreaseCount s * s.gp.recoveryTime.toUInt64).toNat =
      (decreaseCount s).toNat * s.gp.recoveryTime.toNat := by
    rw [UInt64.toNat_mul, UInt32.toNat_toUInt64, Nat.mod_eq_of_lt]
    have := Nat.le_mul_of_pos_right ((decreaseCount s).toNat * s.gp.recoveryTime.toNat)
      (show 0 < 1000 by decide)
    omega
  rw [UInt64.toNat_mul, hprod]
  exact Nat.mod_eq_of_lt (by simpa using hle.trans_lt hlt)

lemma decreased_le (failedTries : UInt32) (count : UInt64) :
    failedTries.toNat - (decreased failedTries count).toNat ≤ count.toNat := by
  have hlow : count.toUInt32.toNat ≤ count.toNat := by
    rw [UInt64.toNat_toUInt32]
    exact Nat.mod_le _ _
  unfold decreased
  split_ifs with hle
  · rw [UInt32.le_iff_toNat_le] at hle
    simp only [UInt32.toNat_zero]
    omega
  · rw [UInt32.not_le] at hle
    rw [UInt32.toNat_sub_of_le _ _ (UInt32.le_of_lt hle)]
    omega

/-! ## What leaves the timer alone -/

lemma waited_eq (h : Steady s s') : waited s' = waited s := by
  simp only [waited, h.time, h.selfHealTimer]

lemma ahead_eq (h : Frame s s') : ahead s' = ahead s := by
  simp only [ahead, elapsed, h.timer, h.time]

/-! ## Healing -/

lemma failedTries_daSelfHeal (s : Tpm) :
    (daSelfHeal s).gp.failedTries = (healFailedTries s).gp.failedTries := by
  unfold daSelfHeal healLockoutAuth
  split_ifs <;> rfl

lemma failedTries_daSelfHeal_le (s : Tpm) :
    (daSelfHeal s).gp.failedTries ≤ s.gp.failedTries := by
  have hdecreased : ∀ (n : UInt32) (count : UInt64), decreased n count ≤ n := fun n count => by
    unfold decreased
    split_ifs with h
    · exact UInt32.zero_le
    · rw [UInt32.not_le] at h
      exact UInt32.sub_le (UInt32.le_of_lt h)
  rw [failedTries_daSelfHeal]
  unfold healFailedTries
  dsimp only
  split_ifs
  · exact UInt32.le_refl _
  · exact UInt32.zero_le
  · exact hdecreased _ _
  · exact hdecreased _ _

lemma selfHealTimer_daSelfHeal (h : s.gp.recoveryTime ≠ 0) (hf : s.gp.failedTries ≠ 0) :
    (daSelfHeal s).go.selfHealTimer =
      s.go.selfHealTimer + decreaseCount s * s.gp.recoveryTime.toUInt64 * 1000 := by
  rw [daSelfHeal, (steady_healLockoutAuth _).selfHealTimer]
  unfold healFailedTries
  rw [if_neg hf, if_neg h]
  dsimp only
  split_ifs <;> rfl

lemma daSelfHeal_idle (hf : s.gp.failedTries = 0) :
    (daSelfHeal s).go.selfHealTimer = s.go.selfHealTimer ∧ selfHealed s = 0 := by
  have hidle : healFailedTries s = s := by
    unfold healFailedTries
    rw [if_pos hf]
  constructor
  · rw [daSelfHeal, (steady_healLockoutAuth _).selfHealTimer, hidle]
  · rw [selfHealed, failedTries_daSelfHeal, hidle, Nat.sub_self]

lemma selfHealed_le (h : s.gp.recoveryTime ≠ 0) : selfHealed s ≤ (decreaseCount s).toNat := by
  rw [selfHealed, failedTries_daSelfHeal]
  unfold healFailedTries
  rw [if_neg h]
  dsimp only
  split_ifs
  · simp
  · exact decreased_le _ _
  · exact decreased_le _ _

lemma waited_daSelfHeal (h : s.gp.recoveryTime ≠ 0) :
    waited (daSelfHeal s) + selfHealed s * (1000 * s.gp.recoveryTime.toNat) ≤ waited s := by
  by_cases hf : s.gp.failedTries = 0
  · obtain ⟨htimer, hhealed⟩ := daSelfHeal_idle hf
    simp only [waited, (frame_daSelfHeal s).time, htimer, hhealed]
    omega
  · set spent := (decreaseCount s).toNat * s.gp.recoveryTime.toNat * 1000 with hspent
    have hle : spent ≤ waited s := decreaseCount_mul_le h
    have hstep := toNat_healStep h
    -- the timer moves towards `g_time`, and not past it
    have hwaited : waited (daSelfHeal s) = waited s - spent := by
      have hsub : s.time - (s.go.selfHealTimer +
          decreaseCount s * s.gp.recoveryTime.toUInt64 * 1000) =
          (s.time - s.go.selfHealTimer) -
            decreaseCount s * s.gp.recoveryTime.toUInt64 * 1000 := by grind
      rw [waited, (frame_daSelfHeal s).time, selfHealTimer_daSelfHeal h hf, hsub,
        UInt64.toNat_sub_of_le, hstep, waited]
      rw [UInt64.le_iff_toNat_le, hstep]
      exact hle
    have hhealed : selfHealed s * (1000 * s.gp.recoveryTime.toNat) ≤ spent := by
      rw [hspent, Nat.mul_assoc, Nat.mul_comm s.gp.recoveryTime.toNat]
      exact Nat.mul_le_mul_right _ (selfHealed_le h)
    omega

lemma selfHealed_eq_zero (h : s.gp.recoveryTime ≠ 0)
    (htimer : (daSelfHeal s).go.selfHealTimer = s.go.selfHealTimer) : selfHealed s = 0 := by
  by_cases hf : s.gp.failedTries = 0
  · exact (daSelfHeal_idle hf).2
  · have hzero : decreaseCount s * s.gp.recoveryTime.toUInt64 * 1000 = 0 := by
      rw [selfHealTimer_daSelfHeal h hf] at htimer
      grind
    have hprod := toNat_healStep h
    rw [hzero] at hprod
    have hr : s.gp.recoveryTime.toNat ≠ 0 := fun h0 => h (UInt32.toNat_inj.mp h0)
    have hcount : (decreaseCount s).toNat = 0 := by
      simpa [hr] using hprod.symm
    have := selfHealed_le h
    omega

/-! ## The pace of a running TPM -/

variable {r : UInt32}

/-- The time that is waited for, and the time that will be once the timer is read, are
accounted for. -/
structure Pace (r : UInt32) (period : Period) (s : Tpm) : Prop where
  recoveryTime : s.gp.recoveryTime = r
  within : Within period r (waited s + ahead s)

namespace Pace

lemma steady (h : Pace r period s) (hs : Steady s s') : Pace r period s' where
  recoveryTime := hs.recoveryTime.trans h.recoveryTime
  within := by
    rw [waited_eq hs, ahead_eq hs.toFrame]
    exact h.within

end Pace

lemma go_timeClockUpdate (newTime : UInt64) (s : Tpm) :
    (timeClockUpdate newTime s).time = s.time ∧
      (timeClockUpdate newTime s).go.selfHealTimer = s.go.selfHealTimer ∧
      (timeClockUpdate newTime s).go.time = s.go.time := by
  unfold timeClockUpdate Tpm.pAssert
  dsimp only
  split_ifs <;> exact ⟨rfl, rfl, rfl⟩

lemma selfHealTimer_timeAdvance (s : Tpm) :
    (timeAdvance s).go.selfHealTimer = s.go.selfHealTimer :=
  (go_timeClockUpdate _ { s with time := s.time + elapsed s }).2.1

lemma timeAdvance_spec (s : Tpm) :
    waited (timeAdvance s) ≤ waited s + ahead s ∧ ahead (timeAdvance s) = 0 := by
  have htime : (timeAdvance s).time = s.time + elapsed s :=
    (go_timeClockUpdate _ { s with time := s.time + elapsed s }).1
  constructor
  · have hsum : s.time + elapsed s - s.go.selfHealTimer =
        (s.time - s.go.selfHealTimer) + elapsed s := by grind
    rw [waited, htime, selfHealTimer_timeAdvance, hsum, UInt64.toNat_add]
    exact Nat.mod_le _ _
  · have hzero : s.timer - (s.time + elapsed s) = 0 := by
      unfold elapsed
      grind
    rw [ahead, elapsed, (quiet_timeAdvance s).timer, htime, hzero]
    rfl

lemma Pace.timeUpdate (h : Pace r period s) (hr : r ≠ 0) :
    Pace r (period.heal (timeUpdateHealed s)) (Da.timeUpdate s) ∧ ahead (Da.timeUpdate s) = 0 := by
  have hepoch := h.steady (steady_consumeStopped s)
  set s₁ := consumeStopped s
  obtain ⟨hwaited, hahead⟩ := timeAdvance_spec s₁
  have hrec : (timeAdvance s₁).gp.recoveryTime = r :=
    (quiet_timeAdvance s₁).recoveryTime.trans hepoch.recoveryTime
  have hheal := frame_daSelfHeal (timeAdvance s₁)
  have hahead' : ahead (Da.timeUpdate s) = 0 := (ahead_eq hheal).trans hahead
  refine ⟨⟨hheal.recoveryTime.trans hrec, ?_⟩, hahead'⟩
  rw [hahead', Nat.add_zero]
  apply Within.heal
  apply hepoch.within.mono
  have := waited_daSelfHeal (s := timeAdvance s₁) (hrec ▸ hr)
  rw [hrec] at this
  exact this.trans hwaited

lemma timeUpdateHealed_eq_zero (h : s.gp.recoveryTime ≠ 0)
    (htimer : (timeUpdate s).go.selfHealTimer = s.go.selfHealTimer) : timeUpdateHealed s = 0 := by
  have hepoch := steady_consumeStopped s
  have hquiet := hepoch.toQuiet.trans (quiet_timeAdvance _)
  have hadvance : (timeAdvance (consumeStopped s)).go.selfHealTimer = s.go.selfHealTimer :=
    (selfHealTimer_timeAdvance _).trans hepoch.selfHealTimer
  exact selfHealed_eq_zero (hquiet.recoveryTime ▸ h) (htimer.trans hadvance.symm)

/-! ## The image -/

/-- A restart from the image would keep the pace. -/
structure Restartable (r : UInt32) (period : Period) (image : Image) : Prop where
  recoveryTime : image.gp.recoveryTime = r
  within : isOrderly image.gp.orderlyState = true → Within period r (saved image.go)

/-- So would one from the image of a running TPM.  While a shutdown is in force, the image has
the timer of the working copy. -/
structure Kept (r : UInt32) (period : Period) (s : Tpm) : Prop where
  image : Restartable r period s.nv
  synced : Synced s
  timers : s.nvIsOrderly = true →
    s.nv.go.selfHealTimer = s.go.selfHealTimer ∧ s.nv.go.time = s.go.time
  staged : s.updateNv = false → s.nv = s.file

namespace Kept

lemma quiet_staged (h : Kept r period s) (hq : Quiet s s') :
    s'.updateNv = false → s'.nv = s'.file := fun hu => by
  obtain ⟨hu', hnv⟩ := hq.staged hu
  rw [hnv, hq.file, h.staged hu']

/-- What leaves the orderly data alone keeps the image, as long as the timer stays while a
shutdown is in force. -/
lemma frame (h : Kept r period s) (hf : Frame s s')
    (htimer : s.nvIsOrderly = true → s'.go.selfHealTimer = s.go.selfHealTimer) :
    Kept r period s' where
  image := by
    refine ⟨hf.nvRecoveryTime.trans h.image.recoveryTime, ?_⟩
    rw [hf.nvOrderlyState, hf.nvGo]
    exact h.image.within
  synced := hf.toQuiet.synced h.synced
  timers ho := by
    rw [hf.nvIsOrderly] at ho
    rw [hf.nvGo, hf.savedTime, htimer ho]
    exact h.timers ho
  staged := h.quiet_staged hf.toQuiet

lemma timeClockUpdate (h : Kept r period s) (newTime : UInt64) :
    Kept r period (Da.timeClockUpdate newTime s) := by
  have hq := quiet_timeClockUpdate newTime s
  obtain ⟨-, hheal, htime⟩ := go_timeClockUpdate newTime s
  have hnv : (Da.timeClockUpdate newTime s).nv.go = (Da.timeClockUpdate newTime s).go ∨
      (Da.timeClockUpdate newTime s).nv.go = s.nv.go := by
    unfold Da.timeClockUpdate
    split_ifs
    · exact .inl rfl
    · exact .inr rfl
  have htimers : s.nvIsOrderly = true →
      (Da.timeClockUpdate newTime s).nv.go.selfHealTimer = s.go.selfHealTimer ∧
        (Da.timeClockUpdate newTime s).nv.go.time = s.go.time := fun ho => by
    rcases hnv with hnew | hold
    · rw [hnew]
      exact ⟨hheal, htime⟩
    · rw [hold]
      exact h.timers ho
  refine ⟨⟨hq.nvRecoveryTime.trans h.image.recoveryTime, ?_⟩, hq.synced h.synced, ?_,
    h.quiet_staged hq⟩
  · rw [hq.nvOrderlyState]
    intro ho
    have ho' : s.nvIsOrderly = true := by rwa [Tpm.nvIsOrderly, ← h.synced]
    obtain ⟨hheal', htime'⟩ := htimers ho'
    obtain ⟨hheal₀, htime₀⟩ := h.timers ho'
    have hwithin := h.image.within ho
    unfold saved at hwithin ⊢
    rwa [hheal', htime', ← hheal₀, ← htime₀]
  · rw [hq.nvIsOrderly, hheal, htime]
    exact htimers

lemma timeAdvance (h : Kept r period s) : Kept r period (Da.timeAdvance s) := by
  have htime : Kept r period { s with time := s.time + elapsed s } :=
    { h with }
  exact htime.timeClockUpdate _

lemma timeUpdate (h : Kept r period s)
    (htimer : s.nvIsOrderly = true → (Da.timeUpdate s).go.selfHealTimer = s.go.selfHealTimer) :
    Kept r period (Da.timeUpdate s) := by
  have hepoch := steady_consumeStopped s
  have hquiet := hepoch.toQuiet.trans (quiet_timeAdvance _)
  refine (h.frame hepoch.toFrame fun _ => hepoch.selfHealTimer).timeAdvance.frame
    (frame_daSelfHeal _) fun ho => ?_
  rw [hquiet.nvIsOrderly] at ho
  rw [selfHealTimer_timeAdvance, hepoch.selfHealTimer]
  exact htimer ho

lemma change {period' : Period} (h : Kept r period s)
    (hsame : s.nvIsOrderly = true → period' = period) : Kept r period' s := by
  refine ⟨⟨h.image.recoveryTime, fun ho => ?_⟩, h.synced, h.timers, h.staged⟩
  rw [hsame (by rwa [Tpm.nvIsOrderly, ← h.synced])]
  exact h.image.within ho

end Kept

/-! ## A command -/

variable {p : Platform}

/-- A decrease is due once the timer has been read. -/
def healDue (s : Tpm) : Bool :=
  s.gp.failedTries != 0 &&
    (s.timer - s.go.selfHealTimer) / 1000 / s.gp.recoveryTime.toUInt64 != 0

lemma selfHealTimer_beginCommand (h : s.gp.recoveryTime ≠ 0)
    (hdue : p.nvStatus = TPM_RC_SUCCESS → healDue s = false) :
    (beginCommand p s).go.selfHealTimer = s.go.selfHealTimer := by
  unfold beginCommand timeUpdateToCurrent
  split_ifs with hskip
  · rfl
  have havailable : (resetFlags p s).nvIsAvailable = true := by
    by_contra hno
    simp [hno] at hskip
  have hdue := hdue (beq_iff_eq.mp havailable)
  have hepoch := steady_consumeStopped (resetFlags p s)
  set t := timeAdvance (consumeStopped (resetFlags p s)) with ht
  have htimer : t.go.selfHealTimer = s.go.selfHealTimer :=
    (selfHealTimer_timeAdvance _).trans hepoch.selfHealTimer
  have hsame : t.gp.failedTries = s.gp.failedTries := by
    unfold t timeAdvance timeClockUpdate consumeStopped Tpm.pAssert
    split_ifs <;> rfl
  have htime : t.time = s.timer := by
    have hread : ∀ x : Tpm, x.time + elapsed x = x.timer := fun x => by
      unfold elapsed
      grind
    rw [ht, timeAdvance, (go_timeClockUpdate _ _).1]
    exact (hread _).trans hepoch.timer
  have hrec : t.gp.recoveryTime = s.gp.recoveryTime :=
    (quiet_timeAdvance _).recoveryTime.trans hepoch.recoveryTime
  by_cases hf : t.gp.failedTries = 0
  · exact (daSelfHeal_idle hf).1.trans htimer
  · have hcount : decreaseCount t = 0 := by
      rw [decreaseCount, htime, htimer, hrec]
      rw [hsame] at hf
      simpa [healDue, hf] using hdue
    rw [timeUpdate, ← ht, selfHealTimer_daSelfHeal (hrec ▸ h) hf, hcount, htimer]
    simp

lemma beginCommand_healed (h : s.gp.recoveryTime ≠ 0)
    (htimer : (beginCommand p s).go.selfHealTimer = s.go.selfHealTimer) :
    timeUpdateToCurrentHealed (resetFlags p s) = 0 := by
  unfold beginCommand timeUpdateToCurrent at htimer
  unfold timeUpdateToCurrentHealed
  split_ifs with hskip
  · rfl
  · rw [if_neg hskip] at htimer
    exact timeUpdateHealed_eq_zero h htimer

/-- A running TPM keeps the pace, and so would a restart. -/
structure Running (r : UInt32) (period : Period) (s : Tpm) : Prop
    extends Pace r period s, Kept r period s

namespace Running

lemma steady (h : Running r period s) (hs : Steady s s') : Running r period s' :=
  ⟨h.toPace.steady hs, h.toKept.frame hs.toFrame fun _ => hs.selfHealTimer⟩

lemma timeClockUpdate (h : Running r period s) (newTime : UInt64) :
    Running r period (Da.timeClockUpdate newTime s) := by
  have hq := quiet_timeClockUpdate newTime s
  obtain ⟨htime, hheal, -⟩ := go_timeClockUpdate newTime s
  refine ⟨⟨hq.recoveryTime.trans h.recoveryTime, ?_⟩, h.toKept.timeClockUpdate newTime⟩
  have hwithin := h.within
  unfold waited ahead elapsed at hwithin ⊢
  rwa [htime, hheal, hq.timer]

lemma beginCommand (h : Running r period s) (hnv : s.nv = s.file) (hr : r ≠ 0) (p : Platform)
    (htimer : s.nvIsOrderly = true →
      (Da.beginCommand p s).go.selfHealTimer = s.go.selfHealTimer) :
    Running r (period.heal (timeUpdateToCurrentHealed (resetFlags p s))) (Da.beginCommand p s) := by
  have hreset : Running r period (resetFlags p s) :=
    { h with staged := fun _ => hnv }
  have hzero := fun ho => beginCommand_healed (h.recoveryTime ▸ hr) (htimer ho)
  unfold Da.beginCommand timeUpdateToCurrent at htimer ⊢
  unfold timeUpdateToCurrentHealed at hzero ⊢
  split_ifs with hskip
  · rw [Period.heal_zero]
    exact hreset
  · rw [if_neg hskip] at htimer hzero
    refine ⟨(hreset.toPace.timeUpdate hr).1, (hreset.toKept.timeUpdate htimer).change fun ho => ?_⟩
    rw [(quiet_timeUpdate _).nvIsOrderly] at ho
    rw [hzero ho, Period.heal_zero]

end Running

lemma ahead_beginCommand (hinit : s.power.initialized = true) (hp : p.nvStatus = TPM_RC_SUCCESS) :
    ahead (beginCommand p s) = 0 := by
  rw [(beginCommand_running hinit hp).1, timeUpdate, ahead_eq (frame_daSelfHeal _)]
  exact (timeAdvance_spec _).2

lemma selfHealTimer_compareAuth (u : SessionUse) (s : Tpm) :
    (compareAuth u s).2.go.selfHealTimer =
      if (compareAuth u s).1.registers then s.time else s.go.selfHealTimer := by
  cases hcorrect : u.correct with
  | true => simp [compareAuth, hcorrect, Verdict.registers]
  | false =>
    cases hentity : lockoutEntity u.entity u.session with
    | none => simp [compareAuth, hcorrect, incrementLockout, hentity, Verdict.registers,
        SessionUse.registrable]
    | some entity =>
      have hresult := result_incrementLockout u.entity u.session s
      have hcount := steady_countFailure entity s
      simp only [incrementLockout, hentity] at hresult
      by_cases hlockout : entity = .lockout
      · subst hlockout
        simp [compareAuth, hcorrect, incrementLockout, hentity, Verdict.registers,
          SessionUse.registrable, daRegisterFailure, hcount.selfHealTimer]
      · simp [compareAuth, hcorrect, incrementLockout, hentity, Verdict.registers,
          SessionUse.registrable, daRegisterFailure, hlockout, hresult, hcount.time]

lemma selfHealTimer_checkSession (u : SessionUse) (s : Tpm) :
    (checkSession u s).2.go.selfHealTimer =
      if (checkSession u s).1.registers then s.time else s.go.selfHealTimer := by
  have hbefore := steady_checksBefore u s
  unfold checkSession
  dsimp only
  split
  · simpa [Verdict.registers] using hbefore.selfHealTimer
  · rw [selfHealTimer_compareAuth, hbefore.time, hbefore.selfHealTimer]

lemma registers_eq_false {v : Verdict} (h : v.result = TPM_RC_SUCCESS) : v.registers = false := by
  simp [Verdict.registers, h]

lemma selfHealTimer_checkSessions (us : List SessionUse) (s : Tpm) :
    (checkSessions us s).2.go.selfHealTimer =
      if (checkSessions us s).1.any Verdict.registers then s.time else s.go.selfHealTimer := by
  induction us generalizing s with
  | nil => rfl
  | cons u us ih =>
    have hone := selfHealTimer_checkSession u s
    unfold checkSessions
    dsimp only
    split
    · simpa using hone
    · case isFalse hpass =>
      have hnone := registers_eq_false (not_not.mp hpass)
      rw [hnone, if_neg (by decide)] at hone
      rw [ih, (frame_checkSession u s).time, hone]
      simp [hnone]

namespace Running

/-- The sessions of a command: a failure that is registered starts a new account, if no time is
ahead and no shutdown in force. -/
lemma checkSessions (h : Running r period s) (us : List SessionUse)
    (hregisters : (Da.checkSessions us s).1.any Verdict.registers = true →
      ahead s = 0 ∧ s.nvIsOrderly = false) :
    Running r (if (Da.checkSessions us s).1.any Verdict.registers then .started else period)
      (Da.checkSessions us s).2 := by
  have hframe := frame_checkSessions us s
  have htimer := selfHealTimer_checkSessions us s
  split_ifs with hany
  · obtain ⟨hahead, horderly⟩ := hregisters hany
    rw [if_pos hany] at htimer
    have hzero : waited (Da.checkSessions us s).2 + ahead (Da.checkSessions us s).2 = 0 := by
      rw [ahead_eq hframe, hahead, waited, hframe.time, htimer, UInt64.sub_self]
      rfl
    refine ⟨⟨hframe.recoveryTime.trans h.recoveryTime, hzero ▸ .started r⟩, ?_⟩
    refine (h.toKept.frame hframe fun ho => ?_).change fun ho => ?_
    · rw [horderly] at ho
      cases ho
    · rw [hframe.nvIsOrderly, horderly] at ho
      cases ho
  · rw [if_neg hany] at htimer
    exact h.steady ⟨hframe, htimer⟩

lemma shutdown (h : Running r period s) (shutdownType : ShutdownType) (pcrReConfig : Bool) :
    Running r period (tpm2Shutdown shutdownType pcrReConfig s) := by
  unfold tpm2Shutdown
  split_ifs
  · exact h
  · exact h
  · have hsaved : Within period r (waited s) := h.within.mono (Nat.le_add_right _ _)
    exact ⟨⟨h.recoveryTime, h.within⟩, ⟨⟨h.image.recoveryTime, fun _ => hsaved⟩, rfl,
      fun _ => ⟨rfl, rfl⟩, nofun⟩⟩

lemma action (h : Running r period s) {c : Command}
    (hc : c.isReset = true → s.nvIsAvailable = false) : Running r period (c.action s) := by
  cases hreset : c.isReset with
  | true =>
    rw [action_isReset hreset (hc hreset)]
    exact h
  | false =>
    cases c with
    | readClock => exact h
    | clockSet newTime =>
      unfold Command.action tpm2ClockSet
      dsimp only
      split_ifs
      · exact h
      · exact h
      · exact h.timeClockUpdate newTime
    | shutdown shutdownType pcrReConfig => exact h.shutdown shutdownType pcrReConfig
    | dictionaryAttackLockReset => cases hreset
    | dictionaryAttackParameters m r l => cases hreset
    | clear disableClear =>
      rw [action_clear_disabled hreset]
      exact h
    | other clearOrderly =>
      exact { h with }

end Running

/-! ## Between commands -/

/-- A TPM that waits for its startup has the orderly data of the image. -/
structure Waiting (r : UInt32) (period : Period) (s : Tpm) : Prop where
  nv : s.nv = s.file
  recoveryTime : s.gp.recoveryTime = r
  time : s.time = 0
  timerReset : s.timerReset = true
  within : Within period r (ahead s)
  orderly : s.nvIsOrderly = true → Within period r (saved s.go + ahead s)

/-- What holds between commands. -/
structure Between (r : UInt32) (period : Period) (s : Tpm) : Prop
    extends Rests (Restartable r period) (Waiting r period) (Running r period) s where
  spent : Within period r 0

lemma cleans_running (r : UInt32) (period : Period) :
    Cleans (Restartable r period) (Running r period) where
  cleared _ h := ⟨⟨h.recoveryTime, h.within⟩, ⟨⟨h.image.recoveryTime,
    fun ho => (not_isOrderly_none ho).elim⟩, rfl, fun ho => (not_isOrderly_none ho).elim, nofun⟩⟩
  committed _ h := { h with staged := fun _ => rfl }
  image _ h := h.image
  staged _ h := h.staged

lemma Running.endCommand (h : Running r period s)
    (hfail : s.inFailureMode = true → Restartable r period s.file)
    (hinit : s.power.initialized = true) (hp : p.commitOk = true) :
    Between r period (Da.endCommand p s) :=
  ⟨(cleans_running r period).endCommand h hinit fun hold =>
    hfail (hold.resolve_right (by simp [hp])), h.within.mono (Nat.zero_le _)⟩

/-- The account after an event. -/
def account (e : Event) (o : Output) (period : Period) : Period :=
  match e with
  | .tick ms => period.tick ms
  | _ => if o.registers then .started else period.heal o.healed

/-- What the account needs of an event.  The commit of a command succeeds, and so does the
startup of the PCR.  NV is available to a command that comes with a wrong value, and while a
shutdown is in force there is no such command and no decrease is due. -/
def Undisturbed (s : Tpm) : Event → Prop
  | .command p us _ =>
    p.commitOk = true ∧
    ((∃ u ∈ us, u.correct = false ∧ u.registrable = true) →
      p.nvStatus = TPM_RC_SUCCESS ∧ s.nvIsOrderly = false) ∧
    (s.nvIsOrderly = true → p.nvStatus = TPM_RC_SUCCESS → healDue s = false)
  | .startup p i _ =>
    p.commitOk = true ∧ i.pcrOk = true ∧
    (s.nvIsOrderly = true → p.nvStatus = TPM_RC_SUCCESS → healDue s = false)
  | .tick _ => True
  | .powerLoss _ _ => True

instance (s : Tpm) : (e : Event) → Decidable (Undisturbed s e)
  | .command _ _ _ => inferInstanceAs (Decidable (_ ∧ _))
  | .startup _ _ _ => inferInstanceAs (Decidable (_ ∧ _))
  | .tick _ => .isTrue trivial
  | .powerLoss _ _ => .isTrue trivial

lemma Waiting.relabel (h : Waiting r period s) {o : UInt16} {power : PowerState} {n : TpmRc}
    (ho : isOrderly o = true → s.nvIsOrderly = true) : Waiting r period (s.relabel o power n) :=
  { h with orderly := fun ho' => h.orderly (ho ho') }

namespace Between

lemma idle (h : Between r period s) (hidle : Idle s s') : Between r period s' :=
  ⟨h.toRests.idle (fun ho hw => hw.relabel ho) hidle, h.spent⟩

lemma command (h : Between r period s) (hr : r ≠ 0) {p : Platform} {us : List SessionUse}
    {c : Command} (hreset : (Event.command p us c).resets s = false)
    (hcond : Undisturbed s (.command p us c)) :
    Between r (account (.command p us c) (execute p (commandBody us c) s).1 period)
      (execute p (commandBody us c) s).2 := by
  obtain ⟨hcommit, hwrong, hdue⟩ := hcond
  obtain ⟨hnone, hidle⟩ | ⟨hmode, hinit⟩ := execute_command_cases p us c s
  · rw [hnone]
    simpa [account, Output.none, Output.registers] using h.idle hidle
  have hregisters : (execute p (commandBody us c) s).1.registers = true →
      p.nvStatus = TPM_RC_SUCCESS ∧ s.nvIsOrderly = false := fun hany => by
    rw [Output.registers, (execute_running hmode hinit p us c).1, List.any_eq_true] at hany
    obtain ⟨v, hv, hregisters⟩ := hany
    simp only [Verdict.registers, Bool.and_eq_true, bne_iff_ne] at hregisters
    obtain ⟨hmem, hcorrect⟩ := wrong_of_verdict us _ v hv hregisters.1.1 hregisters.1.2
    exact hwrong ⟨v.session, hmem, hcorrect, hregisters.2⟩
  obtain ⟨hrun, hnv⟩ := h.running hmode hinit
  have htimer := fun ho =>
    selfHealTimer_beginCommand (p := p) (hrun.recoveryTime ▸ hr) (hdue ho)
  obtain ⟨hverdicts, hhealed, hafter⟩ := execute_running hmode hinit p us c
  have hquiet : Quiet (resetFlags p s) (beginCommand p s) := quiet_timeUpdateToCurrent _
  have hbegun := hrun.beginCommand hnv hr p htimer
  have hsessions := hbegun.checkSessions us fun hany => by
    obtain ⟨hp, ho⟩ := hregisters (by rw [Output.registers, hverdicts, hany])
    exact ⟨ahead_beginCommand hinit hp, hquiet.nvIsOrderly.trans ho⟩
  have hquiet' := hquiet.trans (frame_checkSessions us _).toQuiet
  -- while a shutdown is in force the account stays as it is, and so does the file
  have hfile : Restartable r
      (account (.command p us c) (execute p (commandBody us c) s).1 period) s.file := by
    refine ⟨h.file.recoveryTime, fun ho => ?_⟩
    have ho' : s.nvIsOrderly = true := by rwa [Tpm.nvIsOrderly, ← hrun.synced, hnv]
    have hnone : (execute p (commandBody us c) s).1.registers ≠ true := fun hany =>
      absurd ((hregisters hany).2.symm.trans ho') (by decide)
    have hzero := beginCommand_healed (hrun.recoveryTime ▸ hr) (htimer ho')
    simp only [account, if_neg hnone, hhealed, hzero, Period.heal_zero]
    exact h.file.within ho
  have haccount : account (.command p us c) (execute p (commandBody us c) s).1 period =
      if (checkSessions us (beginCommand p s)).1.any Verdict.registers then .started
      else period.heal (timeUpdateToCurrentHealed (resetFlags p s)) := by
    simp only [account, Output.registers, hverdicts, hhealed]
  rw [← haccount] at hsessions
  rw [hafter]
  set s₁ := (checkSessions us (beginCommand p s)).2 with hs₁
  have hfile₁ : s₁.file = s.file := hquiet'.file
  have hinit₁ : s₁.power.initialized = true := by rw [hquiet'.power]; exact hinit
  split_ifs with hpass
  · obtain ⟨hpower, hfile'⟩ := action_power_file c s₁
    refine (hsessions.action (Event.resets_eq_false hmode hinit hreset hpass)).endCommand
      (fun _ => ?_) (by rw [hpower]; exact hinit₁) hcommit
    rw [hfile', hfile₁]
    exact hfile
  · refine hsessions.endCommand (fun _ => ?_) hinit₁ hcommit
    rw [hfile₁]
    exact hfile

end Between

/-! ## Startup -/

lemma Waiting.daStartupTimers (h : Waiting r period s) :
    Pace r period (Da.daStartupTimers s) := by
  have hcount := steady_countStartup (rebaseTimers s)
  have hrebase := frame_rebaseTimers s
  refine Pace.steady ⟨hrebase.recoveryTime.trans h.recoveryTime, ?_⟩ hcount
  have hwaited : waited (rebaseTimers s) = if s.nvIsOrderly then saved s.go else 0 := by
    cases ho : s.nvIsOrderly with
    | true =>
      have hsub : 0 - (s.go.selfHealTimer - s.go.time) =
          s.go.time - s.go.selfHealTimer := by grind
      simp [waited, rebaseTimers, saved, h.timerReset, h.time, ho, hsub]
    | false => simp [waited, rebaseTimers, h.timerReset, h.time, ho]
  rw [hwaited, ahead_eq hrebase]
  split_ifs with ho
  · exact h.orderly ho
  · rw [Nat.zero_add]
    exact h.within

lemma Waiting.timeStartup (h : Waiting r period s) : Waiting r period (Da.timeStartup s) := by
  unfold Da.timeStartup
  split_ifs
  all_goals exact { h with }

lemma Between.startup (h : Between r period s) (hr : r ≠ 0) {i : StartupInput}
    {startupType : ShutdownType} (hcond : Undisturbed s (.startup p i startupType)) :
    Between r
      (account (.startup p i startupType) (execute p (startupBody i startupType) s).1 period)
      (execute p (startupBody i startupType) s).2 := by
  obtain ⟨hcommit, hpcr, hdue⟩ := hcond
  obtain ⟨hnone, hidle⟩ | ⟨hmode, hinit, heq⟩ | ⟨hmode, hinit, hp, o, power, t, ho, hon, ht, heq⟩ :=
    execute_startup_cases p i startupType s
  · rw [hnone]
    simpa [account, Output.none, Output.registers] using h.idle hidle
  · obtain ⟨hrun, hnv⟩ := h.running hmode hinit
    have htimer := fun ho =>
      selfHealTimer_beginCommand (p := p) (hrun.recoveryTime ▸ hr) (hdue ho)
    have hbegun := hrun.beginCommand hnv hr p htimer
    have hquiet : Quiet (resetFlags p s) (beginCommand p s) := quiet_timeUpdateToCurrent _
    have hdone := hbegun.endCommand (p := p) (fun _ => ?_)
      ((initialized_beginCommand p s).trans hinit) hcommit
    · simpa [heq, account, Output.none, Output.registers] using hdone
    · rw [hquiet.file]
      refine ⟨h.file.recoveryTime, fun ho => ?_⟩
      have ho' : s.nvIsOrderly = true := by rwa [Tpm.nvIsOrderly, ← hrun.synced, hnv]
      rw [beginCommand_healed (hrun.recoveryTime ▸ hr) (htimer ho'), Period.heal_zero]
      exact h.file.within ho
  · have hw := h.waiting hmode hinit
    have hwaiting : Waiting r period (s.relabel o power p.nvStatus) := hw.relabel ho
    have hstart := quiet_timeStartup (s.relabel o power p.nvStatus)
    have hpace := (hwaiting.timeStartup.daStartupTimers.timeUpdate hr).1
    have hmode₁ : t.inFailureMode = false := by
      rw [ht, Da.timeStartup]
      split_ifs <;> exact hmode
    rw [← ht] at hstart hpace
    have hquiet := hstart.trans (quiet_daStartup t)
    have havailable : t.nvIsAvailable = true := by
      rw [hstart.nvIsAvailable]
      exact beq_iff_eq.mpr hp
    have hmode₂ := (inFailureMode_daStartup havailable).trans hmode₁
    have hrun : Running r (period.heal (timeUpdateHealed (Da.daStartupTimers t)))
        (endStartup (daStartup t)).syncOrderlyState := by
      refine ⟨⟨hpace.recoveryTime, hpace.within⟩, ⟨⟨?_, fun ho => ?_⟩, rfl, fun ho => ?_,
        fun hno => Bool.noConfusion hno⟩⟩
      · exact hquiet.nvRecoveryTime.trans (hw.nv ▸ h.file.recoveryTime)
      all_goals exact (not_isOrderly_none ho).elim
    have hdone := hrun.endCommand (fun hfailed => absurd (hmode₂.symm.trans hfailed) (by decide))
      (by show (daStartup t).power.initialized = true; rw [hquiet.power]; exact hon) hcommit
    simpa [heq, hpcr, account, Output.none, Output.registers] using hdone

/-! ## The runs -/

lemma Between.tick (h : Between r period s) (ms : UInt64) :
    Between r (period.tick ms) { s with timer := s.timer + ms } := by
  have hmore : ∀ t, Within period r t → Within (period.tick ms) r t :=
    fun t ht => (ht.tick ms).mono (Nat.le_add_right _ _)
  have hahead : ahead { s with timer := s.timer + ms } ≤ ahead s + ms.toNat := by
    have hsum : s.timer + ms - s.time = (s.timer - s.time) + ms := by grind
    simp only [ahead, elapsed, hsum, UInt64.toNat_add]
    exact Nat.mod_le _ _
  refine ⟨⟨⟨h.file.recoveryTime, fun ho => hmore _ (h.file.within ho)⟩,
    fun hm hi => ?_, fun hm hi => ?_⟩, hmore _ h.spent⟩
  · have hw := h.waiting hm hi
    refine { hw with
      within := (hw.within.tick ms).mono hahead
      orderly := fun ho => ((hw.orderly ho).tick ms).mono ?_ }
    show saved s.go + _ ≤ _
    omega
  · obtain ⟨hrun, hnv⟩ := h.running hm hi
    refine ⟨⟨⟨hrun.recoveryTime, (hrun.within.tick ms).mono ?_⟩, ⟨⟨hrun.image.recoveryTime,
      fun ho => hmore _ (hrun.image.within ho)⟩, hrun.synced, hrun.timers, hrun.staged⟩⟩, hnv⟩
    show waited s + _ ≤ _
    omega

lemma Between.powerCycle (h : Between r period s) (drtm initOk : Bool) :
    Between r period (Da.powerCycle drtm initOk s) := by
  have hzero : ahead (Da.powerCycle drtm initOk s) = 0 := by
    simp [ahead, elapsed, Da.powerCycle, powerOn]
  exact ⟨⟨h.file, fun _ _ => ⟨rfl, h.file.recoveryTime, rfl, rfl, hzero ▸ h.spent,
    fun ho => by rw [hzero]; exact h.file.within ho⟩, nofun⟩, h.spent⟩

lemma between_poweredOn {image : Image} (h : image.gp.recoveryTime = r) :
    Between r .none (poweredOn image) :=
  ⟨⟨⟨h, fun _ => .none r _⟩, fun _ _ => ⟨rfl, h, rfl, rfl, .none r _, fun _ => .none r _⟩, nofun⟩,
    .none r 0⟩

/-- The TPM with its account, while the recovery time stays `r` and nothing is reset. -/
def healSystem (r : UInt32) : System (Tpm × Period) Event where
  init x := ∃ image : Image, image.gp.recoveryTime = r ∧ x = (poweredOn image, .none)
  enabled x e := e.resets x.1 = false
  step x e := ((e.exec x.1).2, account e (e.exec x.1).1 x.2)

lemma Between.of_reach (hr : r ≠ 0) {x : Tpm × Period}
    (h : ((healSystem r).restrict fun x => Undisturbed x.1).Reach x) : Between r x.2 x.1 := by
  refine h.invariant (I := fun x => Between r x.2 x.1) ?_ ?_
  · rintro _ ⟨image, himage, rfl⟩
    exact between_poweredOn himage
  · rintro ⟨s, period⟩ e hbetween ⟨hreset, hcond⟩
    cases e with
    | command p us c => exact hbetween.command hr hreset hcond
    | startup p i startupType => exact hbetween.startup hr hcond
    | tick ms => exact hbetween.tick ms
    | powerLoss drtm initOk =>
      have hsame : account (.powerLoss drtm initOk) .none period = period := by
        simp [account, Output.none, Output.registers]
      show Between r (account (.powerLoss drtm initOk) .none period) _
      rw [hsame]
      exact hbetween.powerCycle drtm initOk

instance (r : UInt32) (x : Tpm × Period) (e : Event) : Decidable ((healSystem r).enabled x e) :=
  inferInstanceAs (Decidable (_ = _))

instance (r : UInt32) (x : Tpm × Period) (e : Event) :
    Decidable (((healSystem r).restrict fun x => Undisturbed x.1).enabled x e) :=
  inferInstanceAs (Decidable (_ ∧ _))

/-- A password for a protected entity that is wrong. -/
def wrongPassword : SessionUse :=
  ⟨.daProtected, .none, TPM_RC_SUCCESS, TPM_RC_SUCCESS, TPM_RC_SUCCESS, false⟩

/-- A failure, and enough time to heal it. -/
def failureHealed : List Event :=
  [.startup smooth ⟨0, true, true⟩ .clear, .tick 5,
    .command smooth [wrongPassword] (.other false), .tick 1000001, .command smooth [] .readClock]

/-- A failure after a shutdown that was made just before a decrease was due. -/
def failureAfterShutdown : List Event :=
  [.startup smooth ⟨0, true, true⟩ .clear, .tick 999000,
    .command smooth [] (.shutdown .clear false), .command smooth [wrongPassword] (.other false),
    .powerLoss false true, .startup smooth ⟨0, true, true⟩ .clear, .tick 1000,
    .command smooth [] .readClock]

end SelfHeal

end RfTpm.Da
