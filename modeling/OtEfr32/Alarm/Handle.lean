import OtEfr32.Transition.Indexed
import Mathlib.Algebra.Group.Nat.Defs
import Mathlib.Data.Int.Notation

/-!
# Alarm handles

Model of the timer core of `alarm.c`.  An `AlarmHandle` sits over one hardware timer, a sleeptimer
for the millisecond alarm and a RAIL multitimer for the microsecond alarm; the source selects the
timer through four function pointers, the model through the field `clock`.  An alarm longer than
the timer's maximum is split into a first segment and `overflowMax` further segments of full
length, which `alarmCallback` arms one after the other.

The functions run in critical sections or in interrupt context, so that each of them is one step.
Times read from a clock are 32-bit values that the environment supplies with the call.
-/

namespace OtEfr32.Alarm

/-- The clock behind a handle: the sleeptimer in milliseconds or the RAIL timer in microseconds. -/
inductive AlarmClock where
  | milli
  | micro
  deriving DecidableEq, Repr

/-- What the alarm code asks of the platform. -/
structure Platform where
  /-- `sl_ot_rtos_task_can_access_pal()`. -/
  canAccessPal : Bool
  /-- `sl_sleeptimer_get_max_ms32_conversion()`. -/
  sleeptimerMaxMs : UInt32

/-- `msTimerGetMaxTime` and `usTimerGetMaxTime`. -/
def Platform.timerGetMax (platform : Platform) : AlarmClock → UInt32
  | .milli => platform.sleeptimerMaxMs
  | .micro => 0xFFFFFFFF

/-- `wrap_timer_data_t`; both fields are 16-bit counters. -/
structure WrapTimerData where
  overflowCounter : ℕ := 0
  overflowMax : ℕ := 0
  deriving DecidableEq, Repr

/-- The hardware timer under a handle.  `starts` lists the durations of all calls of
`mTimerStart`, the oldest first, and `startedWhileArmed` records whether one of them met a timer
that was still armed. -/
structure Timer where
  armed : Option ℕ := none
  starts : List ℕ := []
  startedWhileArmed : Bool := false
  deriving DecidableEq, Repr

/-- Start a timer.  A sleeptimer that is running refuses to be started and keeps its timeout; a
RAIL multitimer takes the new one. -/
def Timer.start (timer : Timer) (clock : AlarmClock) (duration : ℕ) : Timer where
  armed := match clock, timer.armed with
    | .milli, some current => some current
    | _, _ => some duration
  starts := timer.starts ++ [duration]
  startedWhileArmed := timer.startedWhileArmed || timer.armed.isSome

/-- `AlarmHandle`.  `assertFailed` records a failed `OT_ASSERT(mIsRunning == false)`. -/
structure AlarmHandle where
  clock : AlarmClock
  timer : Timer := {}
  mWrapData : WrapTimerData := {}
  mIsRunning : Bool := false
  mFiredCount : ℕ := 0
  assertFailed : Bool := false
  deriving DecidableEq, Repr

namespace AlarmHandle

/-- `msTimerStart` and `usTimerStart`. -/
def mTimerStart (alarm : AlarmHandle) (duration : ℕ) : AlarmHandle :=
  { alarm with
    timer := alarm.timer.start alarm.clock duration
    assertFailed := alarm.assertFailed || alarm.mIsRunning }

/-- `msTimerStop` and `usTimerStop`. -/
def mTimerStop (alarm : AlarmHandle) : AlarmHandle :=
  { alarm with timer := { alarm.timer with armed := none } }

/-- `isAlarmOverflowInProgress`. -/
def isAlarmOverflowInProgress (alarm : AlarmHandle) : Bool :=
  alarm.mWrapData.overflowCounter < alarm.mWrapData.overflowMax

/-- `StopActiveAlarm`. -/
def stopActiveAlarm (platform : Platform) (alarm : AlarmHandle) : AlarmHandle :=
  if alarm.mIsRunning && platform.canAccessPal then
    { alarm.mTimerStop with mIsRunning := false }
  else alarm

/-- `FireAlarm`. -/
def fireAlarm (platform : Platform) (alarm : AlarmHandle) : AlarmHandle :=
  stopActiveAlarm platform { alarm with mFiredCount := alarm.mFiredCount + 1 }

/-- `SetAlarmWrappedDuration`: the handle with its wrap counters set, and the duration of the
first segment.  The quotient is cut to 16 bits, as in the source. -/
def setAlarmWrappedDuration (platform : Platform) (alarm : AlarmHandle) (aRemainingTime : ℕ) :
    AlarmHandle × ℕ :=
  let timerMax := (platform.timerGetMax alarm.clock).toNat
  if timerMax < aRemainingTime then
    ({ alarm with mWrapData :=
        { overflowCounter := 0, overflowMax := aRemainingTime / timerMax % 2 ^ 16 } },
      aRemainingTime % timerMax % 2 ^ 32)
  else
    ({ alarm with mWrapData := {} }, aRemainingTime % 2 ^ 32)

/-- `StartAlarmAt`, with the value that `mTimerGetNow` returns. -/
def startAlarmAt (platform : Platform) (alarm : AlarmHandle) (aT0 aDt now : UInt32) :
    AlarmHandle :=
  if platform.canAccessPal then
    let stopped := alarm.stopActiveAlarm platform
    let requestedTime := aT0.toNat + aDt.toNat
    let remaining : ℤ := requestedTime - now.toNat
    if remaining ≤ 0 then
      stopped.fireAlarm platform
    else
      let (wrapped, duration) := stopped.setAlarmWrappedDuration platform remaining.toNat
      { wrapped.mTimerStart duration with mIsRunning := true }
  else alarm

/-- `AlarmCallback`, run when the timer of the handle has expired. -/
def alarmCallback (platform : Platform) (alarm : AlarmHandle) : AlarmHandle :=
  if alarm.isAlarmOverflowInProgress then
    let counted := { alarm with
      mIsRunning := false
      mWrapData := { alarm.mWrapData with
        overflowCounter := (alarm.mWrapData.overflowCounter + 1) % 2 ^ 16 } }
    counted.mTimerStart (platform.timerGetMax alarm.clock).toNat
  else
    alarm.fireAlarm platform

/-- An expiry of the timer: it is no longer armed when the callback runs.  There is none unless
the timer is armed. -/
def expiry (platform : Platform) (alarm : AlarmHandle) : Option AlarmHandle :=
  if alarm.timer.armed.isSome then some (alarm.mTimerStop.alarmCallback platform) else none

/-- The part of `ProcessAlarm` that takes over the pending callbacks. -/
def processAlarm (alarm : AlarmHandle) : AlarmHandle := { alarm with mFiredCount := 0 }

end AlarmHandle

/-- What can happen to one handle: the calls of `otPlatAlarmMilliStartAt`/`Stop` or
`otPlatAlarmMicroStartAt`/`Stop` for its instance, an expiry, and `efr32AlarmProcess`. -/
inductive AlarmEvent where
  | startAt (aT0 aDt now : UInt32)
  | stop
  | expiry
  | process
  deriving DecidableEq, Repr

/-- One step of a handle. -/
def alarmStep (platform : Platform) (alarm : AlarmHandle) : AlarmEvent → Option AlarmHandle
  | .startAt aT0 aDt now => some (alarm.startAlarmAt platform aT0 aDt now)
  | .stop => some (alarm.stopActiveAlarm platform)
  | .expiry => alarm.expiry platform
  | .process => some alarm.processAlarm

/-- The handles of all instances: `sMsAlarmHandles` and `sUsAlarmHandles`. -/
abbrev AlarmTable := AlarmClock × ℕ → AlarmHandle

/-- The handles after `efr32AlarmInit`. -/
def efr32AlarmInit : AlarmTable := fun index ↦ { clock := index.1 }

/-- One step of the table: an event of one instance's millisecond or microsecond alarm. -/
abbrev alarmTableStep (platform : Platform) :
    AlarmTable → (AlarmClock × ℕ) × AlarmEvent → Option AlarmTable :=
  Transition.indexed (alarmStep platform)

end OtEfr32.Alarm
