import OtEfr32.Alarm.RunningFlag
import OtEfr32.Alarm.Segments
import Mathlib.Data.Nat.Cast.Order.Ring
import Mathlib.Tactic.Linarith

/-!
# Alarm deadlines across a clock wrap

The clocks behind the alarms are 32 bits wide, and so are the reference time and the delay that
`StartAlarmAt` is given.  Here the true time is an unbounded number and the code sees it modulo
`2 ^ 32`.  `StartAlarmAt` forms `aT0 + aDt` in 64 bits and subtracts the wrapped current time: the
difference is the true remaining time as long as no wrap of the clock lies between the reference
time and the current time, and is `2 ^ 32` too large otherwise.
-/

namespace OtEfr32.Alarm

open Transition

/-- `started` has fired `alarm` in the call itself, without programming its timer. -/
structure FiresAtOnce (alarm started : AlarmHandle) : Prop where
  fired : started.mFiredCount = alarm.mFiredCount + 1
  not_started : started.timer.starts = alarm.timer.starts

/-- Left to its timer, `started` fires once, at some later expiry, and the durations programmed
since `alarm` up to that expiry add up to `total`. -/
def FiresAfter (platform : Platform) (alarm started : AlarmHandle) (total : ℕ) : Prop :=
  ∃ segments final durations,
    exec (alarmStep platform) started (expiries (segments + 1)) = some final ∧
    (∀ earlier ≤ segments, ∀ mid,
      exec (alarmStep platform) started (expiries earlier) = some mid →
        mid.mFiredCount = alarm.mFiredCount) ∧
    final.mFiredCount = alarm.mFiredCount + 1 ∧
    final.timer.starts = alarm.timer.starts ++ durations ∧ durations.sum = total

/-- The call of `StartAlarmAt` at the true time `now`, for the true reference time `aT0`. -/
def startAlarmAtTrueTime (platform : Platform) (alarm : AlarmHandle) (aT0 aDt now : ℕ) :
    AlarmHandle :=
  alarm.startAlarmAt platform (UInt32.ofNat aT0) (UInt32.ofNat aDt) (UInt32.ofNat now)

/-- The alarm fires immediately when its deadline is not in the future, and otherwise after
exactly the time that is left.  The law is about the durations that are programmed: a start that a
running timer refuses is among them, and `RunningFlag` says when one is made. -/
def DeadlineLaw (platform : Platform) (alarm : AlarmHandle) (aT0 aDt now : ℕ) : Prop :=
  let started := startAlarmAtTrueTime platform alarm aT0 aDt now
  (aT0 + aDt ≤ now → FiresAtOnce alarm started) ∧
    (now < aT0 + aDt → FiresAfter platform alarm started (aT0 + aDt - now))

variable {platform : Platform}

/-! ## The segments that a call programs -/

theorem stopActiveAlarm_frame (platform : Platform) (alarm : AlarmHandle) :
    (alarm.stopActiveAlarm platform).clock = alarm.clock ∧
      (alarm.stopActiveAlarm platform).mFiredCount = alarm.mFiredCount ∧
      (alarm.stopActiveAlarm platform).timer.starts = alarm.timer.starts := by
  unfold AlarmHandle.stopActiveAlarm
  split <;> exact ⟨rfl, rfl, rfl⟩

/-- The remaining time that `StartAlarmAt` computes. -/
def remainingTime (aT0 aDt now : UInt32) : ℤ :=
  ((aT0.toNat + aDt.toNat : ℕ) : ℤ) - now.toNat

theorem startAlarmAt_due (haccess : platform.canAccessPal = true) (alarm : AlarmHandle)
    {aT0 aDt now : UInt32} (hdue : remainingTime aT0 aDt now ≤ 0) :
    FiresAtOnce alarm (alarm.startAlarmAt platform aT0 aDt now) := by
  obtain ⟨-, hfired, hstarts⟩ := stopActiveAlarm_frame platform alarm
  unfold remainingTime at hdue
  simp only [AlarmHandle.startAlarmAt, haccess, if_true, if_pos hdue, AlarmHandle.fireAlarm]
  obtain ⟨-, hfired', hstarts'⟩ := stopActiveAlarm_frame platform
    { alarm.stopActiveAlarm platform with
      mFiredCount := (alarm.stopActiveAlarm platform).mFiredCount + 1 }
  exact ⟨by rw [hfired', hfired], by rw [hstarts', hstarts]⟩

/-- The number of full segments that follow the first one, as the 16-bit counter holds it. -/
def fullSegments (timerMax remaining : ℕ) : ℕ :=
  if timerMax < remaining then remaining / timerMax % 2 ^ 16 else 0

/-- The duration of the first segment. -/
def firstSegment (timerMax remaining : ℕ) : ℕ :=
  if timerMax < remaining then remaining % timerMax % 2 ^ 32 else remaining % 2 ^ 32

/-- What a call with time left leaves: an armed timer, the first segment programmed and the other
segments counted. -/
structure Started (platform : Platform) (alarm started : AlarmHandle) (remaining : ℕ) : Prop where
  clock : started.clock = alarm.clock
  armed : started.timer.armed.isSome = true
  unfired : started.mFiredCount = alarm.mFiredCount
  starts : started.timer.starts = alarm.timer.starts ++
    [firstSegment (platform.timerGetMax alarm.clock).toNat remaining]
  counter : started.mWrapData.overflowCounter = 0
  segments : started.mWrapData.overflowMax =
    fullSegments (platform.timerGetMax alarm.clock).toNat remaining

theorem setAlarmWrappedDuration_eq (alarm : AlarmHandle) (remaining : ℕ) :
    alarm.setAlarmWrappedDuration platform remaining =
      ({ alarm with mWrapData :=
          { overflowCounter := 0
            overflowMax := fullSegments (platform.timerGetMax alarm.clock).toNat remaining } },
        firstSegment (platform.timerGetMax alarm.clock).toNat remaining) := by
  unfold AlarmHandle.setAlarmWrappedDuration fullSegments firstSegment
  by_cases hlong : (platform.timerGetMax alarm.clock).toNat < remaining
  · simp only [if_pos hlong]
  · simp only [if_neg hlong]

theorem mTimerStart_armed (alarm : AlarmHandle) (duration : ℕ) :
    (alarm.mTimerStart duration).timer.armed.isSome = true := by
  simp only [AlarmHandle.mTimerStart, Timer.start]
  split <;> rfl

theorem startAlarmAt_started (haccess : platform.canAccessPal = true) (alarm : AlarmHandle)
    {aT0 aDt now : UInt32} {remaining : ℕ} (hpositive : 0 < remaining)
    (hremaining : remainingTime aT0 aDt now = remaining) :
    Started platform alarm (alarm.startAlarmAt platform aT0 aDt now) remaining := by
  obtain ⟨hclock, hfired, hstarts⟩ := stopActiveAlarm_frame platform alarm
  have hnotdue : ¬ (remaining : ℤ) ≤ 0 := by omega
  unfold remainingTime at hremaining
  simp only [AlarmHandle.startAlarmAt, haccess, if_true, hremaining, if_neg hnotdue,
    Int.toNat_natCast, setAlarmWrappedDuration_eq, hclock]
  constructor
  case clock => rfl
  case armed => exact mTimerStart_armed _ _
  case unfired => exact hfired
  case starts => simp only [AlarmHandle.mTimerStart, Timer.start, hstarts]
  case counter => rfl
  case segments => rfl

/-- A call with time left sets the running flag. -/
theorem startAlarmAt_running (haccess : platform.canAccessPal = true)
    (alarm : AlarmHandle) {aT0 aDt now : UInt32} (hlater : 0 < remainingTime aT0 aDt now) :
    (alarm.startAlarmAt platform aT0 aDt now).mIsRunning = true := by
  have hnotdue : ¬ ((aT0.toNat + aDt.toNat : ℕ) : ℤ) - now.toNat ≤ 0 := Int.not_le.mpr hlater
  simp only [AlarmHandle.startAlarmAt, haccess, if_true, if_neg hnotdue]

/-- The durations programmed until the alarm fires. -/
def programmedTime (timerMax remaining : ℕ) : ℕ :=
  firstSegment timerMax remaining + fullSegments timerMax remaining * timerMax

theorem fullSegments_lt (timerMax remaining : ℕ) : fullSegments timerMax remaining < 2 ^ 16 := by
  unfold fullSegments
  split
  · exact Nat.mod_lt _ (by decide)
  · decide

/-- The time after which a started alarm fires is the sum of its segments, and no other. -/
theorem Started.firesAfter_iff {alarm started : AlarmHandle} {remaining total : ℕ}
    (h : Started platform alarm started remaining) :
    FiresAfter platform alarm started total ↔
      programmedTime (platform.timerGetMax alarm.clock).toNat remaining = total := by
  set timerMax := (platform.timerGetMax alarm.clock).toNat with htimerMax
  have hmax : started.mWrapData.overflowMax < 2 ^ 16 := by
    rw [h.segments]
    exact fullSegments_lt _ _
  have hleft : started.mWrapData.overflowCounter + fullSegments timerMax remaining =
      started.mWrapData.overflowMax := by rw [h.counter, h.segments, Nat.zero_add]
  obtain ⟨final, hfinal, -, hfired, hstarts⟩ :=
    exec_expiries_fire platform h.armed hmax hleft
  have hdurations : final.timer.starts = alarm.timer.starts ++
      ([firstSegment timerMax remaining] ++
        List.replicate (fullSegments timerMax remaining) timerMax) := by
    rw [hstarts, h.starts, h.clock, List.append_assoc]
  have hsum : ([firstSegment timerMax remaining] ++
      List.replicate (fullSegments timerMax remaining) timerMax).sum =
        programmedTime timerMax remaining := by
    simp [programmedTime]
  have hunfired : ∀ earlier ≤ fullSegments timerMax remaining, ∀ mid,
      exec (alarmStep platform) started (expiries earlier) = some mid →
        mid.mFiredCount = alarm.mFiredCount := by
    intro earlier hearlier mid hmid
    obtain ⟨other, hother, hsegment⟩ := exec_expiries platform h.armed hmax earlier
      (by omega)
    obtain rfl := Option.some.inj (hmid.symm.trans hother)
    exact hsegment.unfired.trans h.unfired
  rw [h.unfired] at hfired
  constructor
  · rintro ⟨segments, last, durations, hlast, hearlier, hcount, hprogrammed, rfl⟩
    -- The expiry that fires the alarm is the one after the last full segment.
    obtain hlt | rfl | hgt := Nat.lt_trichotomy segments (fullSegments timerMax remaining)
    · have := hunfired (segments + 1) hlt last hlast
      omega
    · obtain rfl := Option.some.inj (hlast.symm.trans hfinal)
      rw [hdurations] at hprogrammed
      rw [← List.append_cancel_left hprogrammed, hsum]
    · have := hearlier _ hgt final hfinal
      omega
  · rintro rfl
    exact ⟨_, final, _, hfinal, hunfired, hfired, hdurations, hsum⟩

/-- A started alarm has not fired. -/
theorem Started.not_firesAtOnce {alarm started : AlarmHandle} {remaining : ℕ}
    (h : Started platform alarm started remaining) : ¬ FiresAtOnce alarm started := by
  intro hfires
  have := hfires.fired
  rw [h.unfired] at this
  omega

/-- The segments add up to the remaining time if the 16-bit counter holds their number. -/
theorem programmedTime_of_segments {timerMax remaining : ℕ} (hpositive : 1 ≤ timerMax)
    (hmax : timerMax < 2 ^ 32) (hsegments : remaining / timerMax < 2 ^ 16) :
    programmedTime timerMax remaining = remaining := by
  unfold programmedTime firstSegment fullSegments
  split
  · have hfirst : remaining % timerMax < 2 ^ 32 :=
      (Nat.mod_lt _ hpositive).trans hmax
    rw [Nat.mod_eq_of_lt hsegments, Nat.mod_eq_of_lt hfirst, Nat.mul_comm]
    exact Nat.mod_add_div remaining timerMax
  · rw [Nat.mod_eq_of_lt (by omega)]
    omega

/-- Below `2 ^ 33` the 16-bit counter holds the number of segments of a timer whose maximum is
at least `2 ^ 17`. -/
theorem programmedTime_eq {timerMax remaining : ℕ} (hmin : 2 ^ 17 ≤ timerMax)
    (hmax : timerMax < 2 ^ 32) (hremaining : remaining < 2 ^ 33) :
    programmedTime timerMax remaining = remaining := by
  apply programmedTime_of_segments (by omega) hmax
  rw [Nat.div_lt_iff_lt_mul (by omega)]
  omega

/-! ## The deadline -/

/-- With no wrap between reference time and current time the computed remaining time is true; with
one it is too large by the period of the clock. -/
theorem remainingTime_eq {aT0 aDt now : ℕ} (hpast : aT0 ≤ now) (hrecent : now < aT0 + 2 ^ 31)
    (hdelay : aDt < 2 ^ 31) :
    remainingTime (UInt32.ofNat aT0) (UInt32.ofNat aDt) (UInt32.ofNat now) =
      (aT0 : ℤ) + aDt - now + if aT0 / 2 ^ 32 = now / 2 ^ 32 then 0 else 2 ^ 32 := by
  simp only [remainingTime, UInt32.toNat_ofNat']
  split <;> omega

theorem timerGetMax_bounds (hmin : 2 ^ 17 ≤ platform.sleeptimerMaxMs.toNat) (clock : AlarmClock) :
    2 ^ 17 ≤ (platform.timerGetMax clock).toNat ∧ (platform.timerGetMax clock).toNat < 2 ^ 32 := by
  refine ⟨?_, UInt32.toNat_lt _⟩
  cases clock with
  | milli => exact hmin
  | micro =>
    have hmicro : (platform.timerGetMax .micro).toNat = 2 ^ 32 - 1 := rfl
    omega

/-- Alarms meet their deadlines exactly when the clock does not wrap between the reference time
and the current time. -/
theorem deadlineLaw_iff (haccess : platform.canAccessPal = true)
    (hmin : 2 ^ 17 ≤ platform.sleeptimerMaxMs.toNat) (alarm : AlarmHandle) {aT0 aDt now : ℕ}
    (hpast : aT0 ≤ now) (hrecent : now < aT0 + 2 ^ 31) (hdelay : aDt < 2 ^ 31) :
    DeadlineLaw platform alarm aT0 aDt now ↔ aT0 / 2 ^ 32 = now / 2 ^ 32 := by
  obtain ⟨hlower, hupper⟩ := timerGetMax_bounds hmin alarm.clock
  have hremaining := remainingTime_eq hpast hrecent hdelay
  constructor
  · intro hlaw
    by_contra hwrap
    rw [if_neg hwrap] at hremaining
    have hstarted : Started platform alarm (startAlarmAtTrueTime platform alarm aT0 aDt now)
        (aT0 + aDt + 2 ^ 32 - now) :=
      startAlarmAt_started haccess alarm (by omega) (by rw [hremaining]; omega)
    obtain hdue | hfuture := Nat.lt_or_ge now (aT0 + aDt) |>.symm
    · exact hstarted.not_firesAtOnce (hlaw.1 hdue)
    · have htime := hstarted.firesAfter_iff.mp (hlaw.2 hfuture)
      rw [programmedTime_eq hlower hupper (by omega)] at htime
      omega
  · intro hsame
    rw [if_pos hsame, add_zero] at hremaining
    refine ⟨fun hdue ↦ ?_, fun hfuture ↦ ?_⟩
    · exact startAlarmAt_due haccess alarm (by rw [hremaining]; omega)
    · have hstarted : Started platform alarm (startAlarmAtTrueTime platform alarm aT0 aDt now)
          (aT0 + aDt - now) :=
        startAlarmAt_started haccess alarm (by omega) (by rw [hremaining]; omega)
      rw [hstarted.firesAfter_iff]
      exact programmedTime_eq hlower hupper (by omega)

/-- A millisecond alarm 40 ms in the future, well after the clock's first wrap. -/
theorem deadlineLaw_iff_near_deadline :
    DeadlineLaw platform32768 { clock := .milli } (2 ^ 32 + 1000) 100 (2 ^ 32 + 1060) :=
  (deadlineLaw_iff rfl (by decide) _ (by decide) (by decide) (by decide)).mpr (by decide)

/-- The clock wraps between the reference time and the call: the deadline is 85 ms away, and the
alarm is programmed for `2 ^ 32 + 85` ms. -/
theorem not_deadlineLaw_across_wrap :
    ¬ DeadlineLaw platform32768 { clock := .milli } (2 ^ 32 - 10) 100 (2 ^ 32 + 5) := by
  intro hlaw
  have hstarted : Started platform32768 { clock := .milli }
      (startAlarmAtTrueTime platform32768 { clock := .milli } (2 ^ 32 - 10) 100 (2 ^ 32 + 5))
      (2 ^ 32 + 85) :=
    startAlarmAt_started rfl _ (by decide) (by decide)
  have htime := hstarted.firesAfter_iff.mp (hlaw.2 (by decide))
  rw [programmedTime_eq (by decide) (by decide) (by decide)] at htime
  exact absurd htime (by decide)

end OtEfr32.Alarm
