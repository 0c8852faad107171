import OtEfr32.Alarm.Handle
import Mathlib.Algebra.BigOperators.Group.List.Basic

/-!
# Wrap segments

How a started alarm runs down when nothing but its own timer acts on it.  `Segment` describes the
handle between two expiries: the segments already armed, and how many are still to come.  Every
expiry arms the next segment until the last one, which fires the alarm, so that the durations
programmed until the alarm fires are those of the first segment and of all further ones.
-/

namespace OtEfr32.Alarm

open Transition

/-- A list of expiries. -/
abbrev expiries (count : ℕ) : List AlarmEvent := List.replicate count .expiry

/-- The handle `mid` is `alarm` after the expiry of `passed` segments, none of which was the last
one: its timer is armed again, it has not fired, and each expiry armed one full segment. -/
structure Segment (platform : Platform) (alarm : AlarmHandle) (passed : ℕ) (mid : AlarmHandle) :
    Prop where
  clock : mid.clock = alarm.clock
  armed : mid.timer.armed.isSome = true
  unfired : mid.mFiredCount = alarm.mFiredCount
  starts : mid.timer.starts = alarm.timer.starts ++
    List.replicate passed (platform.timerGetMax alarm.clock).toNat
  counter : mid.mWrapData.overflowCounter = alarm.mWrapData.overflowCounter + passed
  segments : mid.mWrapData.overflowMax = alarm.mWrapData.overflowMax

/-- The handle `final` is `alarm` after an expiry that fired it. -/
structure Fired (alarm final : AlarmHandle) : Prop where
  disarmed : final.timer.armed = none
  fired : final.mFiredCount = alarm.mFiredCount + 1
  starts : final.timer.starts = alarm.timer.starts

variable {platform : Platform}

/-- The expiry of a segment that is not the last one. -/
theorem alarmStep_expiry_segment (platform : Platform) {alarm : AlarmHandle}
    (harmed : alarm.timer.armed.isSome = true)
    (hmore : alarm.mWrapData.overflowCounter < alarm.mWrapData.overflowMax)
    (hmax : alarm.mWrapData.overflowMax < 2 ^ 16) :
    ∃ mid, alarmStep platform alarm .expiry = some mid ∧ Segment platform alarm 1 mid := by
  have hprogress : alarm.mTimerStop.isAlarmOverflowInProgress = true := decide_eq_true hmore
  have hcounter : (alarm.mWrapData.overflowCounter + 1) % 2 ^ 16 =
      alarm.mWrapData.overflowCounter + 1 := by omega
  refine ⟨alarm.mTimerStop.alarmCallback platform, ?_, ?_⟩
  · simp [alarmStep, AlarmHandle.expiry, harmed]
  · simp only [AlarmHandle.alarmCallback, hprogress, if_true]
    constructor
    case clock => rfl
    case armed => cases hclock : alarm.clock <;>
      simp [AlarmHandle.mTimerStart, AlarmHandle.mTimerStop, Timer.start, hclock]
    case unfired => rfl
    case starts => simp [AlarmHandle.mTimerStart, AlarmHandle.mTimerStop, Timer.start]
    case counter => exact hcounter
    case segments => rfl

/-- The expiry of the last segment. -/
theorem alarmStep_expiry_last (platform : Platform) {alarm : AlarmHandle}
    (harmed : alarm.timer.armed.isSome = true)
    (hlast : alarm.mWrapData.overflowMax ≤ alarm.mWrapData.overflowCounter) :
    ∃ final, alarmStep platform alarm .expiry = some final ∧ Fired alarm final := by
  have hprogress : alarm.mTimerStop.isAlarmOverflowInProgress = false :=
    decide_eq_false (Nat.not_lt.mpr hlast)
  refine ⟨alarm.mTimerStop.fireAlarm platform, ?_, ?_⟩
  · simp [alarmStep, AlarmHandle.expiry, harmed, AlarmHandle.alarmCallback, hprogress]
  · unfold AlarmHandle.fireAlarm AlarmHandle.stopActiveAlarm
    split <;> exact ⟨rfl, rfl, rfl⟩

theorem Segment.trans {alarm mid next : AlarmHandle} {passed more : ℕ}
    (h : Segment platform alarm passed mid) (h' : Segment platform mid more next) :
    Segment platform alarm (passed + more) next where
  clock := h'.clock.trans h.clock
  armed := h'.armed
  unfired := h'.unfired.trans h.unfired
  starts := by
    rw [h'.starts, h.starts, h.clock, List.append_assoc, List.replicate_append_replicate]
  counter := by rw [h'.counter, h.counter, Nat.add_assoc]
  segments := h'.segments.trans h.segments

/-- As long as segments are left, every expiry arms one more. -/
theorem exec_expiries (platform : Platform) {alarm : AlarmHandle}
    (harmed : alarm.timer.armed.isSome = true)
    (hmax : alarm.mWrapData.overflowMax < 2 ^ 16) (passed : ℕ)
    (hpassed : alarm.mWrapData.overflowCounter + passed ≤ alarm.mWrapData.overflowMax) :
    ∃ mid, exec (alarmStep platform) alarm (expiries passed) = some mid ∧
      Segment platform alarm passed mid := by
  induction passed generalizing alarm with
  | zero => exact ⟨alarm, rfl, ⟨rfl, harmed, rfl, by simp, rfl, rfl⟩⟩
  | succ passed ih =>
    obtain ⟨next, hnext, hsegment⟩ :=
      alarmStep_expiry_segment platform harmed (by omega) hmax
    have hcounter := hsegment.counter
    have hsegments := hsegment.segments
    obtain ⟨mid, hmid, hrest⟩ := ih hsegment.armed (by omega) (by omega)
    refine ⟨mid, (exec_cons_eq_some _).mpr ⟨next, hnext, hmid⟩, ?_⟩
    rw [Nat.add_comm passed 1]
    exact hsegment.trans hrest

/-- The alarm fires at the expiry after its last wrap segment, and not earlier. -/
theorem exec_expiries_fire (platform : Platform) {alarm : AlarmHandle}
    (harmed : alarm.timer.armed.isSome = true)
    (hmax : alarm.mWrapData.overflowMax < 2 ^ 16) {left : ℕ}
    (hleft : alarm.mWrapData.overflowCounter + left = alarm.mWrapData.overflowMax) :
    ∃ final, exec (alarmStep platform) alarm (expiries (left + 1)) = some final ∧
      final.timer.armed = none ∧ final.mFiredCount = alarm.mFiredCount + 1 ∧
      final.timer.starts = alarm.timer.starts ++
        List.replicate left (platform.timerGetMax alarm.clock).toNat := by
  obtain ⟨mid, hmid, hsegment⟩ := exec_expiries platform harmed hmax left (Nat.le_of_eq hleft)
  have hcounter := hsegment.counter
  have hsegments := hsegment.segments
  obtain ⟨final, hfinal, hfired⟩ :=
    alarmStep_expiry_last platform hsegment.armed (by omega)
  refine ⟨final, ?_, hfired.disarmed, ?_, ?_⟩
  · rw [expiries, List.replicate_succ', exec_append_eq_some]
    exact ⟨mid, hmid, (exec_cons_eq_some _).mpr ⟨final, hfinal, rfl⟩⟩
  · rw [hfired.fired, hsegment.unfired]
  · rw [hfired.starts, hsegment.starts]

end OtEfr32.Alarm
