import OtEfr32.Alarm.Deadline

/-!
# The main loop of the alarms

`efr32AlarmProcess` looks for handles that have fired, takes over their callbacks in a critical
section and calls the stack.  It is divided at every access to a handle, since an interrupt may fire
an alarm between two of them.  `FireAlarm` signals a pending event; `fires` tells when it is called.
-/

namespace OtEfr32.Alarm

/-- Where the main loop stands in `efr32AlarmProcess`. -/
inductive AlarmLocation where
  /-- Before `HasAnyAlarmFired`. -/
  | check
  /-- `GetNextFiredAlarm` looks at a handle. -/
  | getNextFiredAlarm (clock : AlarmClock) (index : ℕ)
  /-- `ProcessAlarm` is called for a handle. -/
  | processAlarm (clock : AlarmClock) (index : ℕ)
  /-- `ProcessAlarm` is at the head of its loop. -/
  | callbacks (clock : AlarmClock) (index numCallbacks : ℕ)
  /-- `ProcessAlarm` is in a callback, with `numCallbacks` more to come. -/
  | inCallback (clock : AlarmClock) (index numCallbacks : ℕ)
  deriving DecidableEq, Repr

/-- `HasAnyAlarmFired`, for `num` instances. -/
def hasAnyAlarmFired (num : ℕ) (table : AlarmTable) : Bool :=
  (List.range num).any fun index ↦
    (table (.milli, index)).mFiredCount != 0 || (table (.micro, index)).mFiredCount != 0

/-- The next step of `efr32AlarmProcess`, with `none` when it returns; `usecTimer` is
`OPENTHREAD_CONFIG_PLATFORM_USEC_TIMER_ENABLE`. -/
def efr32AlarmProcess (num : ℕ) (usecTimer : Bool) (table : AlarmTable) :
    AlarmLocation → AlarmTable × Option AlarmLocation
  | .check =>
    (table, if hasAnyAlarmFired num table then some (.getNextFiredAlarm .milli 0) else none)
  | .getNextFiredAlarm clock index =>
    (table,
      if index < num then
        some (if (table (clock, index)).mFiredCount = 0 then .getNextFiredAlarm clock (index + 1)
          else .processAlarm clock index)
      else if clock = .milli ∧ usecTimer = true then some (.getNextFiredAlarm .micro 0)
      else none)
  | .processAlarm clock index =>
    (Function.update table (clock, index) (table (clock, index)).processAlarm,
      some (.callbacks clock index (table (clock, index)).mFiredCount))
  | .callbacks clock index 0 => (table, some (.getNextFiredAlarm clock index))
  | .callbacks clock index (numCallbacks + 1) =>
    (table, some (.inCallback clock index numCallbacks))
  | .inCallback clock index numCallbacks =>
    (table, some (.callbacks clock index numCallbacks))

/-- `efr32AlarmProcess` takes over callbacks, and changes nothing else of the alarms. -/
theorem efr32AlarmProcess_alarms (num : ℕ) (usecTimer : Bool) (table : AlarmTable)
    (location : AlarmLocation) (index : AlarmClock × ℕ) :
    (efr32AlarmProcess num usecTimer table location).1 index = table index ∨
      (efr32AlarmProcess num usecTimer table location).1 index = (table index).processAlarm := by
  cases location with
  | processAlarm clock other =>
    by_cases hindex : index = (clock, other)
    · subst hindex
      exact .inr (Function.update_self _ _ _)
    · exact .inl (Function.update_of_ne hindex _ _)
  | callbacks clock other numCallbacks => cases numCallbacks <;> exact .inl rfl
  | check | getNextFiredAlarm | inCallback => exact .inl rfl

namespace AlarmHandle

/-- The event calls `FireAlarm`. -/
def fires (platform : Platform) (alarm : AlarmHandle) : AlarmEvent → Bool
  | .startAt aT0 aDt now => platform.canAccessPal && decide (remainingTime aT0 aDt now ≤ 0)
  | .expiry => !alarm.isAlarmOverflowInProgress
  | .stop | .process => false

variable {platform : Platform} {alarm next : AlarmHandle}

theorem startAlarmAt_mFiredCount {aT0 aDt now : UInt32}
    (hfires : alarm.fires platform (.startAt aT0 aDt now) = false) :
    (alarm.startAlarmAt platform aT0 aDt now).mFiredCount = alarm.mFiredCount := by
  by_cases haccess : platform.canAccessPal = true
  · have hlater : 0 < remainingTime aT0 aDt now := by simpa [fires, haccess] using hfires
    obtain ⟨remaining, hremaining⟩ := Int.eq_ofNat_of_zero_le hlater.le
    have hpositive : 0 < remaining := by omega
    exact (startAlarmAt_started haccess alarm hpositive hremaining).unfired
  · simp [startAlarmAt, haccess]

/-- Only `FireAlarm` counts up. -/
theorem mFiredCount_of_not_fires {event : AlarmEvent}
    (hstep : alarmStep platform alarm event = some next) (hprocess : event ≠ .process)
    (hfires : alarm.fires platform event = false) : next.mFiredCount = alarm.mFiredCount := by
  cases event with
  | startAt aT0 aDt now =>
    obtain rfl := Option.some.inj hstep
    exact startAlarmAt_mFiredCount hfires
  | stop =>
    obtain rfl := Option.some.inj hstep
    exact (stopActiveAlarm_frame platform alarm).2.1
  | expiry =>
    obtain ⟨_, hexpiry⟩ := Option.ite_none_right_eq_some.mp hstep
    obtain rfl := Option.some.inj hexpiry
    -- A timer with another segment to come is started again.
    have hsegment : alarm.isAlarmOverflowInProgress = true := by simpa [fires] using hfires
    change (alarm.mTimerStop.alarmCallback platform).mFiredCount = alarm.mTimerStop.mFiredCount
    unfold alarmCallback
    exact (congrArg mFiredCount (if_pos hsegment)).trans rfl
  | process => exact absurd rfl hprocess

end AlarmHandle

end OtEfr32.Alarm
