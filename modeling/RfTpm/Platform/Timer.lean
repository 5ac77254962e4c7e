import RfTpm.Lib.Runs

/-!
# The clock of the platform

`Clock.c` keeps two time stamps beside the TPM time: the system time at the last read and the
time it has reported since the timer was started.  `_plat__TimerRead()` first adds what the system
clock has moved to the reported time (`track`), then moves the TPM time towards it at the adjusted
rate (`advance`).  A system clock that went back is to be met by moving the time stamp of the last
read, but the test compares the new system time with the *reported* time.  A step back that stays
above the reported time is subtracted from it, below zero if need be, and the next read takes the
wrapped difference for time that has passed.

The system time itself comes from the cycle counter, whose two halves stand for seconds and
nanoseconds.
-/

namespace RfTpm.Platform

open Runs List

/-! ## The timer -/

def CLOCK_NOMINAL : UInt32 := 30000
def CLOCK_ADJUST_COARSE : UInt32 := 300
def CLOCK_ADJUST_MEDIUM : UInt32 := 30
def CLOCK_ADJUST_FINE : UInt32 := 1
def CLOCK_ADJUST_LIMIT : UInt32 := 5000

/-- The static variables of `Clock.c` that a read of the timer uses. -/
structure Timer where
  lastSystemTime : UInt64
  lastReportedTime : UInt64
  realTimePrevious : UInt64
  tpmTime : UInt64
  adjustRate : UInt32
  deriving DecidableEq

/-- `_plat__TimerReset()`: the other two time stamps are set by the first read. -/
def platTimerReset (t : Timer) : Timer :=
  { t with lastSystemTime := 0, tpmTime := 0, adjustRate := CLOCK_NOMINAL }

/-- `_plat__ClockAdjustStep`. -/
inductive ClockAdjustStep where
  | coarseSlower | mediumSlower | fineSlower | fineFaster | mediumFaster | coarseFaster
  deriving DecidableEq

/-- The divisor before it is limited: slower increases it. -/
def ClockAdjustStep.move (rate : UInt32) : ClockAdjustStep → UInt32
  | .coarseSlower => rate + CLOCK_ADJUST_COARSE
  | .mediumSlower => rate + CLOCK_ADJUST_MEDIUM
  | .fineSlower => rate + CLOCK_ADJUST_FINE
  | .fineFaster => rate - CLOCK_ADJUST_FINE
  | .mediumFaster => rate - CLOCK_ADJUST_MEDIUM
  | .coarseFaster => rate - CLOCK_ADJUST_COARSE

/-- `_plat__ClockRateAdjust()`. -/
def platClockRateAdjust (adjust : ClockAdjustStep) (t : Timer) : Timer :=
  let moved := adjust.move t.adjustRate
  let capped := if CLOCK_NOMINAL + CLOCK_ADJUST_LIMIT < moved
    then CLOCK_NOMINAL + CLOCK_ADJUST_LIMIT else moved
  { t with adjustRate := if capped < CLOCK_NOMINAL - CLOCK_ADJUST_LIMIT
      then CLOCK_NOMINAL - CLOCK_ADJUST_LIMIT else capped }

/-- The first half of `_plat__TimerRead()`, up to the reported time. -/
def track (timeNow : UInt64) (t : Timer) : Timer :=
  let t := if t.lastSystemTime = 0 then
    { t with lastSystemTime := timeNow, lastReportedTime := 0, realTimePrevious := 0 } else t
  -- the source compares with the reported time where the last system time is meant
  let t := if timeNow < t.lastReportedTime then { t with lastSystemTime := timeNow } else t
  { t with
    lastReportedTime := t.lastReportedTime + timeNow - t.lastSystemTime
    lastSystemTime := timeNow }

/-- The second half, which moves the TPM time at the adjusted rate. -/
def advance (t : Timer) : Timer :=
  let timeNow := t.lastReportedTime
  if t.realTimePrevious ≥ timeNow then t
  else
    let timeDiff := timeNow - t.realTimePrevious
    let adjustedTimeDiff := timeDiff * CLOCK_NOMINAL.toUInt64 / t.adjustRate.toUInt64
    let readjustedTimeDiff :=
      adjustedTimeDiff * t.adjustRate.toUInt64 / CLOCK_NOMINAL.toUInt64
    { t with
      tpmTime := t.tpmTime + adjustedTimeDiff
      realTimePrevious := t.realTimePrevious + readjustedTimeDiff }

/-- `_plat__TimerRead()` when `_plat__RealTime()` returns `timeNow`. -/
def platTimerRead (timeNow : UInt64) (t : Timer) : UInt64 × Timer :=
  let t := advance (track timeNow t)
  (t.tpmTime, t)

/-- The calls that use the timer after it was reset. -/
inductive TimerCall where
  | read (timeNow : UInt64)
  | adjust (step : ClockAdjustStep)
  deriving DecidableEq

/-- The state after a call. -/
def TimerCall.run (t : Timer) : TimerCall → Timer
  | .read timeNow => (platTimerRead timeNow t).2
  | .adjust step => platClockRateAdjust step t

/-- The timer from its reset on, under calls of every kind. -/
def timer : System Timer TimerCall where
  init t := ∃ before, t = platTimerReset before
  enabled _ _ := True
  step := TimerCall.run

/-! ## What a call may do -/

/-- The forward system time a call sees: what the system clock shows beyond the last read. -/
def TimerCall.forward (t : Timer) : TimerCall → ℕ
  | .read timeNow => timeNow.toNat - t.lastSystemTime.toNat
  | .adjust _ => 0

/-- The forward system time of a sequence of calls. -/
def forward : Timer → List TimerCall → ℕ
  | _, [] => 0
  | t, call :: calls => call.forward t + forward (call.run t) calls

/-- The reads among the calls. -/
def readsIn : List TimerCall → ℕ
  | [] => 0
  | .read _ :: calls => readsIn calls + 1
  | .adjust _ :: calls => readsIn calls

/-- The time reported but not yet passed on. -/
def Timer.lag (t : Timer) : ℕ :=
  if t.lastSystemTime = 0 then 0 else t.lastReportedTime.toNat - t.realTimePrevious.toNat

/-- A read whose system time is either below the reported time or not behind the last system time
by more than the reported time, with all results within 64 bits. -/
def Traceable (t : Timer) : TimerCall → Prop
  | .adjust _ => True
  | .read timeNow =>
    let reported := t.lastReportedTime.toNat + (timeNow.toNat - t.lastSystemTime.toNat)
    let ahead := reported - t.realTimePrevious.toNat
    t.lastSystemTime = 0 ∨
      (timeNow < t.lastReportedTime ∨
        t.lastSystemTime.toNat ≤ t.lastReportedTime.toNat + timeNow.toNat) ∧
      reported < 2 ^ 64 ∧ 30000 * ahead < 2 ^ 64 ∧ t.tpmTime.toNat + 2 * ahead < 2 ^ 64

instance (t : Timer) (call : TimerCall) : Decidable (Traceable t call) := by
  cases call <;> unfold Traceable <;> infer_instance

/-- The divisor stays within the limit, and a read leaves at most two milliseconds behind. -/
structure Timer.Sound (t : Timer) : Prop where
  fast : 25000 ≤ t.adjustRate.toNat
  slow : t.adjustRate.toNat ≤ 35000
  lag : t.lag ≤ 2

variable {t : Timer}

lemma track_started (h : t.lastSystemTime = 0) (timeNow : UInt64) :
    track timeNow t = { t with
      lastSystemTime := timeNow, lastReportedTime := 0, realTimePrevious := 0 } := by
  have hzero : ¬ timeNow < 0 := UInt64.not_lt_zero
  simp [track, h, hzero]

lemma track_reported_le {timeNow : UInt64} (hstart : t.lastSystemTime ≠ 0)
    (h : Traceable t (.read timeNow)) :
    (track timeNow t).lastReportedTime.toNat ≤
      t.lastReportedTime.toNat + (timeNow.toNat - t.lastSystemTime.toNat) := by
  obtain h0 | ⟨hback, hreported, -, -⟩ := h
  · exact absurd h0 hstart
  · unfold track
    rw [if_neg hstart]
    dsimp only
    split
    · rename_i hlt
      simp only [UInt64.toNat_sub, UInt64.toNat_add]
      have := timeNow.toNat_lt
      omega
    · rename_i hlt
      have hle := hback.resolve_left hlt
      simp only [UInt64.toNat_sub, UInt64.toNat_add]
      have := timeNow.toNat_lt
      have := t.lastSystemTime.toNat_lt
      omega

@[simp]
lemma track_tpmTime (timeNow : UInt64) (t : Timer) : (track timeNow t).tpmTime = t.tpmTime := by
  unfold track
  dsimp only
  split <;> split <;> rfl

@[simp]
lemma track_adjustRate (timeNow : UInt64) (t : Timer) :
    (track timeNow t).adjustRate = t.adjustRate := by
  unfold track
  dsimp only
  split <;> split <;> rfl

lemma track_realTimePrevious (h : t.lastSystemTime ≠ 0) (timeNow : UInt64) :
    (track timeNow t).realTimePrevious = t.realTimePrevious := by
  unfold track
  rw [if_neg h]
  dsimp only
  split <;> rfl

/-- The two divisions of `advance`, on numbers: what is added is at most six fifths of what is
taken off the lag and one more, and at most what is taken off when the divisor is not below the
nominal one. -/
lemma adjusted_bounds (diff : ℕ) {rate : ℕ} (hfast : 25000 ≤ rate) (hslow : rate ≤ 35000) :
    let adjusted := diff * 30000 / rate
    let readjusted := adjusted * rate / 30000
    readjusted ≤ diff ∧ diff ≤ readjusted + 2 ∧ 5 * adjusted ≤ 6 * (readjusted + 1) ∧
      5 * adjusted ≤ 6 * diff ∧ (30000 ≤ rate → adjusted ≤ readjusted) := by
  intro adjusted readjusted
  have hdiv : adjusted * rate + diff * 30000 % rate = diff * 30000 := Nat.div_add_mod' _ _
  have hmod : diff * 30000 % rate < rate := Nat.mod_lt _ (by omega)
  have hlow : adjusted * 25000 ≤ adjusted * rate := Nat.mul_le_mul_left _ hfast
  have hback : readjusted = adjusted * rate / 30000 := rfl
  refine ⟨by omega, by omega, by omega, by omega, fun hnominal => ?_⟩
  have := Nat.mul_le_mul_left adjusted hnominal
  omega

/-- The state after `advance`: the reported time is the same, and the TPM time pays for what it
gains with the lag. -/
lemma advance_spec (hfast : 25000 ≤ t.adjustRate.toNat) (hslow : t.adjustRate.toNat ≤ 35000)
    (hproduct : 30000 * (t.lastReportedTime.toNat - t.realTimePrevious.toNat) < 2 ^ 64)
    (htotal : t.tpmTime.toNat +
      2 * (t.lastReportedTime.toNat - t.realTimePrevious.toNat) < 2 ^ 64) :
    ∃ added left : ℕ,
      (advance t).tpmTime.toNat = t.tpmTime.toNat + added ∧
      (advance t).lastReportedTime.toNat - (advance t).realTimePrevious.toNat = left ∧
      left ≤ 2 ∧
      5 * added + 6 * left ≤
        6 * (t.lastReportedTime.toNat - t.realTimePrevious.toNat + 1) ∧
      (30000 ≤ t.adjustRate.toNat →
        added + left ≤ t.lastReportedTime.toNat - t.realTimePrevious.toNat) := by
  unfold advance
  dsimp only
  split
  · rename_i hle
    rw [ge_iff_le, UInt64.le_iff_toNat_le] at hle
    exact ⟨0, 0, rfl, by omega, by omega, by omega, by omega⟩
  · rename_i hlt
    rw [ge_iff_le, UInt64.not_le, UInt64.lt_iff_toNat_lt] at hlt
    have hreported := t.lastReportedTime.toNat_lt
    obtain ⟨hover, hlag, hrounded, hsum, hnominal⟩ :=
      adjusted_bounds (t.lastReportedTime.toNat - t.realTimePrevious.toNat) hfast hslow
    have hdiff : (t.lastReportedTime - t.realTimePrevious).toNat =
        t.lastReportedTime.toNat - t.realTimePrevious.toNat :=
      UInt64.toNat_sub_of_le _ _ (UInt64.le_iff_toNat_le.2 hlt.le)
    generalize hd : t.lastReportedTime.toNat - t.realTimePrevious.toNat = d at *
    have hadjusted : ((t.lastReportedTime - t.realTimePrevious) * CLOCK_NOMINAL.toUInt64 /
        t.adjustRate.toUInt64).toNat = d * 30000 / t.adjustRate.toNat := by
      simp only [UInt64.toNat_div, UInt64.toNat_mul, hdiff, UInt32.toNat_toUInt64]
      rw [show CLOCK_NOMINAL.toNat = 30000 from rfl, Nat.mod_eq_of_lt (by omega)]
    have hproduct' : d * 30000 / t.adjustRate.toNat * t.adjustRate.toNat < 2 ^ 64 :=
      lt_of_le_of_lt (Nat.div_mul_le_self _ _) (by omega)
    have hreadjusted : ((t.lastReportedTime - t.realTimePrevious) * CLOCK_NOMINAL.toUInt64 /
        t.adjustRate.toUInt64 * t.adjustRate.toUInt64 / CLOCK_NOMINAL.toUInt64).toNat =
        d * 30000 / t.adjustRate.toNat * t.adjustRate.toNat / 30000 := by
      rw [UInt64.toNat_div, UInt64.toNat_mul, hadjusted]
      simp only [UInt32.toNat_toUInt64]
      rw [show CLOCK_NOMINAL.toNat = 30000 from rfl, Nat.mod_eq_of_lt hproduct']
    refine ⟨d * 30000 / t.adjustRate.toNat,
      d - d * 30000 / t.adjustRate.toNat * t.adjustRate.toNat / 30000, ?_, ?_, by omega,
      by omega, fun h => by have := hnominal h; omega⟩
    · rw [UInt64.toNat_add, hadjusted]
      exact Nat.mod_eq_of_lt (by omega)
    · dsimp only
      rw [UInt64.toNat_add, hreadjusted, Nat.mod_eq_of_lt (by omega)]
      omega

/-! ## Runs -/

lemma platTimerReset_sound (t : Timer) : (platTimerReset t).Sound :=
  ⟨show 25000 ≤ 30000 by decide, show 30000 ≤ 35000 by decide, by simp [Timer.lag, platTimerReset]⟩

lemma platClockRateAdjust_rate (step : ClockAdjustStep) :
    25000 ≤ (platClockRateAdjust step t).adjustRate.toNat ∧
      (platClockRateAdjust step t).adjustRate.toNat ≤ 35000 := by
  unfold platClockRateAdjust
  dsimp only
  generalize step.move t.adjustRate = moved
  have hhigh : (CLOCK_NOMINAL + CLOCK_ADJUST_LIMIT).toNat = 35000 := rfl
  have hlow : (CLOCK_NOMINAL - CLOCK_ADJUST_LIMIT).toNat = 25000 := rfl
  have hcapped : (if CLOCK_NOMINAL + CLOCK_ADJUST_LIMIT < moved
      then CLOCK_NOMINAL + CLOCK_ADJUST_LIMIT else moved).toNat ≤ 35000 := by
    split
    · exact hhigh.le
    · rename_i hle
      rwa [UInt32.not_lt, UInt32.le_iff_toNat_le, hhigh] at hle
  generalize (if CLOCK_NOMINAL + CLOCK_ADJUST_LIMIT < moved
      then CLOCK_NOMINAL + CLOCK_ADJUST_LIMIT else moved) = capped at hcapped ⊢
  split
  · exact ⟨hlow.ge, by rw [hlow]; decide⟩
  · rename_i hle
    rw [UInt32.not_lt, UInt32.le_iff_toNat_le, hlow] at hle
    exact ⟨hle, hcapped⟩

@[simp]
lemma advance_adjustRate (t : Timer) : (advance t).adjustRate = t.adjustRate := by
  unfold advance
  dsimp only
  split <;> rfl

lemma platTimerRead_adjustRate (timeNow : UInt64) (t : Timer) :
    (platTimerRead timeNow t).2.adjustRate = t.adjustRate := by
  simp [platTimerRead]

lemma Timer.lag_le (t : Timer) :
    t.lag ≤ t.lastReportedTime.toNat - t.realTimePrevious.toNat := by
  unfold Timer.lag
  split
  · exact Nat.zero_le _
  · exact le_rfl

/-- A read keeps the timer sound and pays for what it adds with the forward time, the lag it
finds, and the rounding of one division. -/
lemma platTimerRead_spec (hs : t.Sound) {timeNow : UInt64} (h : Traceable t (.read timeNow)) :
    let t' := (platTimerRead timeNow t).2
    t'.Sound ∧ ∃ added, t'.tpmTime.toNat = t.tpmTime.toNat + added ∧
      5 * added + 6 * t'.lag ≤ 6 * (TimerCall.forward t (.read timeNow) + t.lag + 1) ∧
      (CLOCK_NOMINAL ≤ t.adjustRate →
        added + t'.lag ≤ TimerCall.forward t (.read timeNow) + t.lag) := by
  intro t'
  have ht' : t' = advance (track timeNow t) := rfl
  have hrate : t'.adjustRate = t.adjustRate := platTimerRead_adjustRate timeNow t
  by_cases hstart : t.lastSystemTime = 0
  · -- the first read after a reset, or after a read at time 0, starts the time stamps again
    have hsame : t' = track timeNow t := by
      rw [ht', track_started hstart]
      simp [advance]
    have hlag : t'.lag = 0 := by
      have := t'.lag_le
      rw [hsame, track_started hstart] at this ⊢
      simpa using this
    refine ⟨⟨hrate ▸ hs.fast, hrate ▸ hs.slow, by omega⟩, 0, ?_, by omega, by omega⟩
    rw [hsame, track_tpmTime, Nat.add_zero]
  · have hreported := track_reported_le hstart h
    have hprevious := track_realTimePrevious hstart timeNow
    obtain h0 | ⟨-, -, hproduct, htotal⟩ := h
    · exact absurd h0 hstart
    have hbefore : t.lag = t.lastReportedTime.toNat - t.realTimePrevious.toNat := if_neg hstart
    obtain ⟨added, left, hadded, hleft, htwo, hpaid, hnominal⟩ :=
      advance_spec (t := track timeNow t) (by simpa using hs.fast) (by simpa using hs.slow)
        (by rw [hprevious]; omega) (by rw [hprevious, track_tpmTime]; omega)
    rw [hprevious] at hpaid hnominal
    rw [track_tpmTime] at hadded
    rw [track_adjustRate] at hnominal
    have hafter : t'.lag ≤ left := hleft ▸ t'.lag_le
    refine ⟨⟨hrate ▸ hs.fast, hrate ▸ hs.slow, hafter.trans htwo⟩, added, hadded, ?_,
      fun hnot => ?_⟩
    · dsimp only [TimerCall.forward]
      omega
    · have := hnominal (UInt32.le_iff_toNat_le.1 hnot)
      dsimp only [TimerCall.forward]
      omega

/-- Every read of the sequence finds a divisor that is not below the nominal one. -/
def Unhurried : Timer → List TimerCall → Prop
  | _, [] => True
  | t, .read timeNow :: calls =>
    CLOCK_NOMINAL ≤ t.adjustRate ∧ Unhurried (TimerCall.run t (.read timeNow)) calls
  | t, .adjust step :: calls => Unhurried (TimerCall.run t (.adjust step)) calls

lemma TimerCall.run_sound (hs : t.Sound) {call : TimerCall} (h : Traceable t call) :
    (call.run t).Sound := by
  cases call with
  | read timeNow => exact (platTimerRead_spec hs h).1
  | adjust step =>
    exact ⟨(platClockRateAdjust_rate step).1, (platClockRateAdjust_rate step).2, hs.lag⟩

lemma timer_run_spec (calls : List TimerCall) (hs : t.Sound)
    (hpath : (timer.restrict Traceable).Path t calls) :
    let t' := calls.foldl TimerCall.run t
    ∃ added, t'.tpmTime.toNat = t.tpmTime.toNat + added ∧
      5 * added + 6 * t'.lag ≤ 6 * (forward t calls + t.lag + readsIn calls) ∧
      (Unhurried t calls → added + t'.lag ≤ forward t calls + t.lag) := by
  induction calls generalizing t with
  | nil => exact ⟨0, rfl, by simp [forward, readsIn], by simp [forward]⟩
  | cons call calls ih =>
    obtain ⟨⟨-, hcall⟩, hrest⟩ := hpath
    obtain ⟨more, hmore, hpaid, hslow⟩ := ih (TimerCall.run_sound hs hcall) hrest
    cases call with
    | read timeNow =>
      obtain ⟨-, added, hadded, hread, hnominal⟩ := platTimerRead_spec hs hcall
      refine ⟨added + more, ?_, ?_, fun hrate => ?_⟩
      · exact hmore.trans (by rw [← Nat.add_assoc, ← hadded]; rfl)
      · simp only [forward, readsIn, foldl_cons, TimerCall.run] at hpaid ⊢
        omega
      · have h₁ := hnominal hrate.1
        have h₂ := hslow hrate.2
        simp only [forward, foldl_cons, TimerCall.run] at h₂ ⊢
        omega
    | adjust step =>
      have hsame : (TimerCall.run t (.adjust step)).lag = t.lag := rfl
      refine ⟨more, hmore, ?_, fun hrate => ?_⟩
      · simp only [forward, readsIn, foldl_cons, TimerCall.forward, hsame] at hpaid ⊢
        omega
      · have h₂ := hslow hrate
        simp only [forward, foldl_cons, TimerCall.forward, hsame] at h₂ ⊢
        omega

lemma timer_run_sound (calls : List TimerCall) (hs : t.Sound)
    (hpath : (timer.restrict Traceable).Path t calls) : (calls.foldl TimerCall.run t).Sound := by
  induction calls generalizing t with
  | nil => exact hs
  | cons call calls ih => exact ih (TimerCall.run_sound hs hpath.1.2) hpath.2

lemma forward_append (t : Timer) (calls calls' : List TimerCall) :
    forward t (calls ++ calls') =
      forward t calls + forward (calls.foldl TimerCall.run t) calls' := by
  induction calls generalizing t with
  | nil => simp [forward]
  | cons call calls ih => simp [forward, ih, Nat.add_assoc]

lemma readsIn_concat (calls : List TimerCall) (last : UInt64) :
    readsIn (calls ++ [TimerCall.read last]) = readsIn calls + 1 := by
  induction calls with
  | nil => rfl
  | cons call calls ih => cases call <;> simp [readsIn, ih]

/-- From the reset on, while every read is traceable: of two reads the later one does not return
less, and it returns more by at most six fifths of the forward time and of a rounding term for
each read.  Where no read in between finds the divisor below the nominal one, and so for successive
reads, that term is the constant 18/5.  Where the later one does not find it so either, the forward
time and two milliseconds are the bound. -/
theorem timer_monotone_rate_bounded {t : Timer} (hreach : (timer.restrict Traceable).Reach t)
    (first last : UInt64) (calls : List TimerCall)
    (hpath : (timer.restrict Traceable).Path t (.read first :: (calls ++ [.read last]))) :
    let t₁ := TimerCall.run t (.read first)
    let a := (platTimerRead first t).1
    let b := (platTimerRead last (calls.foldl TimerCall.run t₁)).1
    let passed := forward t₁ (calls ++ [.read last])
    a ≤ b ∧ 5 * (b.toNat - a.toNat) ≤ 6 * (passed + readsIn calls + 3) ∧
      (Unhurried t₁ calls → 5 * (b.toNat - a.toNat) ≤ 6 * (passed + 3)) ∧
      (Unhurried t₁ (calls ++ [.read last]) → b.toNat - a.toNat ≤ passed + 2) := by
  intro t₁ a b passed
  have hs : t.Sound := by
    refine hreach.invariant (I := Timer.Sound) ?_ ?_
    · rintro _ ⟨before, rfl⟩
      exact platTimerReset_sound before
    · intro _ _ hs h
      exact TimerCall.run_sound hs h.2
  have hs₁ : t₁.Sound := TimerCall.run_sound hs hpath.1.2
  obtain ⟨added, hadded, hpaid, hslow⟩ := timer_run_spec _ hs₁ hpath.2
  have hb : b.toNat = a.toNat + added := by
    rw [foldl_append] at hadded
    exact hadded
  have hlag := hs₁.lag
  refine ⟨UInt64.le_iff_toNat_le.2 (by omega), ?_, fun hbetween => ?_, fun hrate => ?_⟩
  · rw [readsIn_concat] at hpaid
    omega
  · -- up to the last read as below, and that read pays for itself
    obtain ⟨hcalls, hlast⟩ := System.path_append.1 hpath.2
    obtain ⟨before, hbefore, -, hpaidBefore⟩ := timer_run_spec calls hs₁ hcalls
    obtain ⟨more, hmore, hpaidLast, -⟩ := timer_run_spec _ (timer_run_sound calls hs₁ hcalls) hlast
    have hpassed : passed = forward t₁ calls +
        forward (calls.foldl TimerCall.run t₁) [.read last] := forward_append ..
    have hb' : b.toNat = a.toNat + before + more := by
      rw [hbefore] at hmore
      exact hmore
    have := hpaidBefore hbetween
    simp only [readsIn] at hpaidLast
    omega
  · have := hslow hrate
    omega

/-- The timer of a device that was just switched on. -/
def resetTimer : Timer := platTimerReset ⟨0, 0, 0, 0, 0⟩

theorem timer_monotone_rate_bounded_at_reset :
    (timer.restrict Traceable).Path resetTimer
        [.read 1000, .adjust .coarseFaster, .read 1600] ∧
      (platTimerRead 1000 resetTimer).1 ≤ (platTimerRead 1600 (TimerCall.run
        (TimerCall.run resetTimer (.read 1000)) (.adjust .coarseFaster))).1 := by
  have hpath : (timer.restrict Traceable).Path resetTimer
      [.read 1000, .adjust .coarseFaster, .read 1600] :=
    ⟨⟨trivial, by decide⟩, ⟨trivial, by decide⟩, ⟨trivial, by decide⟩, trivial⟩
  exact ⟨hpath, (timer_monotone_rate_bounded (.start ⟨_, rfl⟩) 1000 1600
    [.adjust .coarseFaster] hpath).1⟩

/-- A system clock that goes from 1000 back to 900 moves the TPM time by thousands of years, and
at the fastest rate reads within one millisecond add a millisecond each. -/
theorem timer_runs_ahead :
    ((platTimerRead 1000 resetTimer).1 = 0 ∧
      (platTimerRead 900 (TimerCall.run resetTimer (.read 1000))).1.toNat = 614891469123551) ∧
    (let fastest := (replicate 17 (TimerCall.adjust .coarseFaster)).foldl TimerCall.run
        (TimerCall.run resetTimer (.read 1000))
      let reads := fun n => (replicate n (TimerCall.read 1001)).foldl TimerCall.run fastest
      (reads 1).tpmTime = 1 ∧ (reads 2).tpmTime = 2 ∧ (reads 3).tpmTime = 3) := by
  decide +kernel

/-! ## The system time -/

/-- `intercept_clock_gettime()`: seconds and nanoseconds are the two halves of the counter. -/
def interceptClockGettime (cycles : UInt64) : UInt32 × UInt32 :=
  ((cycles >>> 32).toUInt32, cycles.toUInt32)

/-- `_plat__RealTime()` when the cycle counter shows `cycles`. -/
def platRealTime (cycles : UInt64) : UInt64 :=
  let systime := interceptClockGettime cycles
  systime.1.toUInt64 * 1000 + systime.2.toUInt64 / 1000000

/-- The result is at most a millisecond from the time the counter stands for, at so many cycles a
second. -/
def WithinMillisecond (frequency : ℕ) (cycles : UInt64) : Prop :=
  |((platRealTime cycles).toNat : ℤ) * frequency - 1000 * cycles.toNat| ≤ frequency

/-- One cycle a nanosecond, as the source takes the low half of the counter. -/
def NS_PER_S : ℕ := 1000000000

lemma platRealTime_toNat (cycles : UInt64) :
    (platRealTime cycles).toNat =
      cycles.toNat / 2 ^ 32 * 1000 + cycles.toNat % 2 ^ 32 / 1000000 := by
  have hcycles := cycles.toNat_lt
  have hhigh : cycles.toNat / 2 ^ 32 < 2 ^ 32 := by omega
  simp only [platRealTime, interceptClockGettime, UInt64.toNat_add, UInt64.toNat_mul,
    UInt64.toNat_div, UInt32.toNat_toUInt64, UInt64.toNat_toUInt32, UInt64.toNat_shiftRight,
    Nat.shiftRight_eq_div_pow, show UInt64.toNat 32 % 64 = 32 from rfl,
    show UInt64.toNat 1000 = 1000 from rfl, show UInt64.toNat 1000000 = 1000000 from rfl,
    Nat.mod_eq_of_lt hhigh]
  omega

/-- The time is right and monotone as long as the counter has not left its low half: with the
first carry the seconds grow by one while more than four have passed, and the nanoseconds start
again.  At no frequency is it right up to a later value of the counter. -/
theorem platRealTime_faithful_iff {x y : UInt64} (hxy : x ≤ y) :
    ((platRealTime x ≤ platRealTime y ∧ WithinMillisecond NS_PER_S x ∧
      WithinMillisecond NS_PER_S y) ↔ y.toNat < 2 ^ 32) ∧
    ∀ frequency, (∀ cycles ≤ y, WithinMillisecond frequency cycles) → y.toNat < 2 ^ 32 := by
  rw [UInt64.le_iff_toNat_le] at hxy
  refine ⟨?_, fun frequency hright => ?_⟩
  · simp only [WithinMillisecond, NS_PER_S, UInt64.le_iff_toNat_le, platRealTime_toNat, abs_le]
    refine ⟨?_, fun hy => by omega⟩
    rintro ⟨-, -, hy⟩
    by_contra hhigh
    omega
  · -- on both sides of the first carry the time would have to be right
    by_contra hhigh
    have hle (cycles : UInt64) (h : cycles.toNat ≤ 2 ^ 32) : cycles ≤ y :=
      UInt64.le_iff_toNat_le.2 (by omega)
    have hbefore : |(4294 : ℤ) * frequency - 1000 * 4294967295| ≤ frequency :=
      hright 4294967295 (hle _ (by decide))
    have hcarry : |(1000 : ℤ) * frequency - 1000 * 4294967296| ≤ frequency :=
      hright 4294967296 (hle _ (by decide))
    rw [abs_le] at hbefore hcarry
    omega

theorem platRealTime_faithful_first_second :
    platRealTime 7 ≤ platRealTime 1000000000 ∧ WithinMillisecond NS_PER_S 7 ∧
      WithinMillisecond NS_PER_S 1000000000 :=
  (platRealTime_faithful_iff (by decide)).1.2 (by decide)

/-- The first carry of the counter sets the time back by more than three seconds. -/
theorem platRealTime_falls_at_carry :
    (4294967295 : UInt64) ≤ 4294967296 ∧
      platRealTime 4294967295 = 4294 ∧ platRealTime 4294967296 = 1000 := by
  decide

end RfTpm.Platform
