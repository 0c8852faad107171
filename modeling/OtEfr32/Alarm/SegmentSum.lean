import OtEfr32.Alarm.Deadline

/-!
# The sum of the wrap segments

`SetAlarmWrappedDuration` divides a remaining time by the maximum of the timer: the remainder is the
first segment, and each expiry but the last programs one of the full segments of the quotient.  The
quotient goes into a 16-bit counter, so that the segments add up as long as it fits there.
-/

namespace OtEfr32.Alarm

open Transition

/-- The part of `StartAlarmAt` that starts the timer for a remaining time. -/
def AlarmHandle.startWrapped (platform : Platform) (alarm : AlarmHandle) (aRemainingTime : ℕ) :
    AlarmHandle :=
  let (wrapped, duration) := alarm.setAlarmWrappedDuration platform aRemainingTime
  { wrapped.mTimerStart duration with mIsRunning := true }

/-- From `alarm` to `started` the timer is started with the segment `first`, and from there on with
`further` full segments, one at each expiry but the last one, which fires the alarm.  All these
durations add up to `remaining`. -/
structure SegmentLaw (platform : Platform) (alarm started : AlarmHandle)
    (first further remaining : ℕ) : Prop where
  /-- An expiry with segments left starts the next one and does not fire. -/
  unfired : ∀ passed ≤ further, ∃ mid,
    exec (alarmStep platform) started (expiries passed) = some mid ∧
      mid.mFiredCount = alarm.mFiredCount ∧
      mid.timer.starts = alarm.timer.starts ++
        first :: List.replicate passed (platform.timerGetMax alarm.clock).toNat
  /-- The last expiry fires and starts nothing. -/
  fired : ∃ final, exec (alarmStep platform) started (expiries (further + 1)) = some final ∧
    final.mFiredCount = alarm.mFiredCount + 1 ∧
    final.timer.starts = alarm.timer.starts ++
      first :: List.replicate further (platform.timerGetMax alarm.clock).toNat
  /-- There is no expiry behind it. -/
  last : ∀ more, exec (alarmStep platform) started (expiries (further + 1 + (more + 1))) = none
  sum : (first :: List.replicate further (platform.timerGetMax alarm.clock).toNat).sum = remaining

variable {platform : Platform}

theorem startWrapped_started (platform : Platform) (alarm : AlarmHandle) (remaining : ℕ) :
    Started platform alarm (alarm.startWrapped platform remaining) remaining := by
  unfold AlarmHandle.startWrapped
  rw [setAlarmWrappedDuration_eq]
  constructor
  case clock => rfl
  case armed => exact mTimerStart_armed _ _
  case unfired => rfl
  case starts => rfl
  case counter => rfl
  case segments => rfl

/-- `StartAlarmAt` starts a stopped handle for the time that is left. -/
theorem startAlarmAt_eq_startWrapped (haccess : platform.canAccessPal = true)
    (alarm : AlarmHandle) {aT0 aDt now : UInt32} (hlater : 0 < remainingTime aT0 aDt now) :
    alarm.startAlarmAt platform aT0 aDt now =
      (alarm.stopActiveAlarm platform).startWrapped platform
        (remainingTime aT0 aDt now).toNat := by
  have hnotdue : ¬ ((aT0.toNat + aDt.toNat : ℕ) : ℤ) - now.toNat ≤ 0 := Int.not_le.mpr hlater
  simp only [AlarmHandle.startAlarmAt, haccess, if_true, if_neg hnotdue]
  rfl

theorem alarmStep_expiry_disarmed {alarm : AlarmHandle} (hdisarmed : alarm.timer.armed = none) :
    alarmStep platform alarm .expiry = none := by
  simp [alarmStep, AlarmHandle.expiry, hdisarmed]

/-- Full segments follow the first one. -/
theorem Started.starts_append {alarm started : AlarmHandle} {remaining : ℕ}
    (h : Started platform alarm started remaining) (passed : ℕ) :
    started.timer.starts ++ List.replicate passed (platform.timerGetMax started.clock).toNat =
      alarm.timer.starts ++ firstSegment (platform.timerGetMax alarm.clock).toNat remaining ::
        List.replicate passed (platform.timerGetMax alarm.clock).toNat := by
  rw [h.starts, h.clock, List.append_assoc, List.singleton_append]

/-- An alarm that is started runs through its segments and fires. -/
theorem Started.segmentLaw {alarm started : AlarmHandle} {remaining : ℕ}
    (h : Started platform alarm started remaining) :
    SegmentLaw platform alarm started
      (firstSegment (platform.timerGetMax alarm.clock).toNat remaining)
      (fullSegments (platform.timerGetMax alarm.clock).toNat remaining)
      (programmedTime (platform.timerGetMax alarm.clock).toNat remaining) := by
  set timerMax := (platform.timerGetMax alarm.clock).toNat with htimerMax
  have hmax : started.mWrapData.overflowMax < 2 ^ 16 := by
    rw [h.segments]
    exact fullSegments_lt _ _
  have hleft : started.mWrapData.overflowCounter + fullSegments timerMax remaining =
      started.mWrapData.overflowMax := by rw [h.counter, h.segments, Nat.zero_add]
  obtain ⟨final, hfinal, hdisarmed, hfired, hstarts⟩ :=
    exec_expiries_fire platform h.armed hmax hleft
  constructor
  case unfired =>
    intro passed hpassed
    obtain ⟨mid, hmid, hsegment⟩ := exec_expiries platform h.armed hmax passed (by omega)
    have hstarts := hsegment.starts.trans (h.starts_append passed)
    exact ⟨mid, hmid, hsegment.unfired.trans h.unfired, hstarts⟩
  case fired =>
    have hcount : final.mFiredCount = alarm.mFiredCount + 1 := by rw [hfired, h.unfired]
    exact ⟨final, hfinal, hcount, hstarts.trans (h.starts_append _)⟩
  case last =>
    intro more
    calc
      exec (alarmStep platform) started
          (expiries (fullSegments timerMax remaining + 1 + (more + 1)))
      _ = exec (alarmStep platform) final (expiries (more + 1)) := by
        rw [expiries, List.replicate_add, exec_append, hfinal, Option.bind_some]
      _ = (alarmStep platform final .expiry).bind fun next ↦
          exec (alarmStep platform) next (expiries more) := exec_cons _ _ _ _
      _ = none := by rw [alarmStep_expiry_disarmed hdisarmed, Option.bind_none]
  case sum => simp [programmedTime, htimerMax]

/-- A wrapped duration is programmed as a first segment and as many full segments as the maximum of
the timer goes into it, or none if it is not above the maximum.  They add up to it, and the alarm
fires exactly once, when the last of them expires. -/
theorem segmentLaw_startWrapped (platform : Platform) (alarm : AlarmHandle) {remaining : ℕ}
    (hpositive : 1 ≤ (platform.timerGetMax alarm.clock).toNat)
    (hsegments : remaining / (platform.timerGetMax alarm.clock).toNat ≤ 65535) :
    ∃ first, SegmentLaw platform alarm (alarm.startWrapped platform remaining) first
      (if remaining ≤ (platform.timerGetMax alarm.clock).toNat then 0
        else remaining / (platform.timerGetMax alarm.clock).toNat) remaining := by
  have hlaw := (startWrapped_started platform alarm remaining).segmentLaw
  have hupper : (platform.timerGetMax alarm.clock).toNat < 2 ^ 32 := UInt32.toNat_lt _
  have hfurther : fullSegments (platform.timerGetMax alarm.clock).toNat remaining =
      if remaining ≤ (platform.timerGetMax alarm.clock).toNat then 0
        else remaining / (platform.timerGetMax alarm.clock).toNat := by
    unfold fullSegments
    split
    case isTrue hlong => rw [if_neg (Nat.not_le.mpr hlong), Nat.mod_eq_of_lt (by omega)]
    case isFalse hshort => rw [if_pos (Nat.not_lt.mp hshort)]
  rw [programmedTime_of_segments hpositive hupper (by omega), hfurther] at hlaw
  exact ⟨_, hlaw⟩

/-- A duration just above `2 ^ 32` that is a multiple of the maximum: the first segment has length
zero, and 35791395 ms go into it 120 times. -/
theorem segmentLaw_startWrapped_multiple :
    ∃ first, SegmentLaw { canAccessPal := true, sleeptimerMaxMs := 35791395 } { clock := .milli }
      (AlarmHandle.startWrapped { canAccessPal := true, sleeptimerMaxMs := 35791395 }
        { clock := .milli } (2 ^ 32 + 104)) first 120 (2 ^ 32 + 104) :=
  segmentLaw_startWrapped { canAccessPal := true, sleeptimerMaxMs := 35791395 } { clock := .milli }
    (by decide) (by decide)

end OtEfr32.Alarm
