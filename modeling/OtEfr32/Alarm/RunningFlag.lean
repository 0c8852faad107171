import OtEfr32.Alarm.Handle
import Mathlib.Tactic.Tauto

/-!
# The running flag of an alarm

`mIsRunning` is meant to say whether the timer under a handle is armed: `StopActiveAlarm` trusts it
when it decides whether to stop the timer, and the timer start functions assert it to be false.
`AlarmCallback` clears the flag before it arms the next segment of a long alarm and does not set it
again, so that the flag is wrong from the first wrap on.

`Consistent` is the intended invariant.  Every event keeps it but the expiry of a segment that is
not the last one, and that expiry always breaks it; `runningFlagLaw_iff` is the resulting exact
condition for whole runs of all alarms.
-/

namespace OtEfr32.Alarm

open Transition

/-- The flag tells whether the timer is armed. -/
def AlarmHandle.FlagMatchesTimer (alarm : AlarmHandle) : Prop :=
  alarm.mIsRunning = alarm.timer.armed.isSome

/-- The intended invariant of a handle. -/
structure AlarmHandle.Consistent (alarm : AlarmHandle) : Prop where
  flag : alarm.FlagMatchesTimer
  starts_disarmed : alarm.timer.startedWhileArmed = false
  asserts_hold : alarm.assertFailed = false

/-- The event is not the expiry of a segment that has another one after it. -/
def NoWrap (alarm : AlarmHandle) (event : AlarmEvent) : Prop :=
  event = .expiry → alarm.isAlarmOverflowInProgress = false

namespace AlarmHandle

variable {platform : Platform}

/-! ## What each operation leaves of a handle -/

theorem stopActiveAlarm_armed (haccess : platform.canAccessPal = true) {alarm : AlarmHandle}
    (hflag : alarm.FlagMatchesTimer) :
    (alarm.stopActiveAlarm platform).mIsRunning = false ∧
      (alarm.stopActiveAlarm platform).timer.armed = none := by
  unfold stopActiveAlarm
  cases hrunning : alarm.mIsRunning with
  | true => simp [haccess, mTimerStop]
  | false =>
    have harmed : alarm.timer.armed.isSome = false := by rw [← hflag, hrunning]
    simpa [hrunning] using harmed

theorem Consistent.stopActiveAlarm {alarm : AlarmHandle} (h : alarm.Consistent) :
    (alarm.stopActiveAlarm platform).Consistent := by
  unfold AlarmHandle.stopActiveAlarm
  split
  · exact ⟨by simp [FlagMatchesTimer, mTimerStop], h.starts_disarmed, h.asserts_hold⟩
  · exact h

theorem Consistent.fireAlarm {alarm : AlarmHandle} (h : alarm.Consistent) :
    (alarm.fireAlarm platform).Consistent :=
  Consistent.stopActiveAlarm ⟨h.flag, h.starts_disarmed, h.asserts_hold⟩

/-- Starting a stopped handle arms its timer, and no check of the start function fails. -/
theorem Consistent.mTimerStart {alarm : AlarmHandle} (h : alarm.Consistent)
    (hstopped : alarm.mIsRunning = false) (duration : ℕ) :
    { alarm.mTimerStart duration with mIsRunning := true }.Consistent := by
  have harmed : alarm.timer.armed.isSome = false := by rw [← h.flag, hstopped]
  have hnone : alarm.timer.armed = none := by simpa using harmed
  refine ⟨?_, ?_, ?_⟩
  · cases hclock : alarm.clock <;>
      simp [FlagMatchesTimer, AlarmHandle.mTimerStart, Timer.start, hnone]
  · simp [AlarmHandle.mTimerStart, Timer.start, harmed, h.starts_disarmed]
  · simp [AlarmHandle.mTimerStart, hstopped, h.asserts_hold]

/-- `SetAlarmWrappedDuration` touches the wrap counters only. -/
theorem setAlarmWrappedDuration_fst (platform : Platform) (alarm : AlarmHandle)
    (remaining : ℕ) :
    ∃ wrapData, (alarm.setAlarmWrappedDuration platform remaining).1 =
      { alarm with mWrapData := wrapData } := by
  unfold setAlarmWrappedDuration
  dsimp only
  split <;> exact ⟨_, rfl⟩

theorem Consistent.startAlarmAt (haccess : platform.canAccessPal = true) {alarm : AlarmHandle}
    (h : alarm.Consistent) (aT0 aDt now : UInt32) :
    (alarm.startAlarmAt platform aT0 aDt now).Consistent := by
  have hstopped : (alarm.stopActiveAlarm platform).Consistent := h.stopActiveAlarm
  have hrunning := (stopActiveAlarm_armed haccess h.flag).1
  unfold AlarmHandle.startAlarmAt
  simp only [haccess, if_true]
  split
  · exact hstopped.fireAlarm
  · obtain ⟨wrapData, hwrapped⟩ :=
      setAlarmWrappedDuration_fst platform (alarm.stopActiveAlarm platform)
        (((aT0.toNat + aDt.toNat : ℕ) : ℤ) - now.toNat).toNat
    rw [hwrapped]
    let ready : AlarmHandle := { alarm.stopActiveAlarm platform with mWrapData := wrapData }
    have hready : ready.Consistent :=
      ⟨hstopped.flag, hstopped.starts_disarmed, hstopped.asserts_hold⟩
    exact hready.mTimerStart hrunning _

/-- The last expiry of an alarm fires it and leaves it stopped. -/
theorem Consistent.lastExpiry (haccess : platform.canAccessPal = true)
    {alarm next : AlarmHandle} (h : alarm.Consistent)
    (hlast : alarm.isAlarmOverflowInProgress = false) (hstep : alarm.expiry platform = some next) :
    next.Consistent := by
  unfold AlarmHandle.expiry at hstep
  split at hstep
  case isFalse => exact absurd hstep (by simp)
  case isTrue harmed =>
    have hrunning : alarm.mIsRunning = true := by rw [h.flag, harmed]
    obtain rfl := Option.some.inj hstep
    have hfire : alarm.mTimerStop.alarmCallback platform = alarm.mTimerStop.fireAlarm platform := by
      have hcallback : alarm.mTimerStop.isAlarmOverflowInProgress = false := hlast
      simp only [alarmCallback, hcallback, Bool.false_eq_true, if_false]
    rw [hfire]
    simp only [AlarmHandle.fireAlarm, AlarmHandle.stopActiveAlarm, mTimerStop, hrunning, haccess,
      Bool.and_self, if_true]
    exact ⟨rfl, h.starts_disarmed, h.asserts_hold⟩

/-- An expiry with another segment to come leaves the timer armed and the flag cleared. -/
theorem wrapExpiry_flag {alarm next : AlarmHandle}
    (hwrap : alarm.isAlarmOverflowInProgress = true) (hstep : alarm.expiry platform = some next) :
    next.mIsRunning = false ∧ next.timer.armed.isSome = true := by
  unfold AlarmHandle.expiry at hstep
  split at hstep
  case isFalse => exact absurd hstep (by simp)
  case isTrue harmed =>
    obtain rfl := Option.some.inj hstep
    have hcallback : alarm.mTimerStop.isAlarmOverflowInProgress = true := hwrap
    simp only [alarmCallback, hcallback, if_true]
    cases hclock : alarm.clock <;> simp [AlarmHandle.mTimerStart, Timer.start, mTimerStop, hclock]

end AlarmHandle

/-! ## Steps and runs -/

variable {platform : Platform}

theorem alarmStep_consistent (haccess : platform.canAccessPal = true) {alarm next : AlarmHandle}
    {event : AlarmEvent} (h : alarm.Consistent) (hevent : NoWrap alarm event)
    (hstep : alarmStep platform alarm event = some next) : next.Consistent := by
  cases event with
  | startAt aT0 aDt now =>
    obtain rfl := Option.some.inj hstep
    exact h.startAlarmAt haccess aT0 aDt now
  | stop =>
    obtain rfl := Option.some.inj hstep
    exact h.stopActiveAlarm
  | expiry => exact h.lastExpiry haccess (hevent rfl) hstep
  | process =>
    obtain rfl := Option.some.inj hstep
    exact ⟨h.flag, h.starts_disarmed, h.asserts_hold⟩

theorem alarmStep_wrap_breaks {alarm next : AlarmHandle} {event : AlarmEvent}
    (hevent : ¬ NoWrap alarm event) (hstep : alarmStep platform alarm event = some next) :
    ¬ next.FlagMatchesTimer := by
  obtain ⟨rfl, hwrap⟩ : event = .expiry ∧ alarm.isAlarmOverflowInProgress = true := by
    simpa [NoWrap] using hevent
  obtain ⟨hrunning, harmed⟩ := AlarmHandle.wrapExpiry_flag hwrap hstep
  simp [AlarmHandle.FlagMatchesTimer, hrunning, harmed]

theorem alarmTableStep_consistent (haccess : platform.canAccessPal = true)
    {table next : AlarmTable} {label : (AlarmClock × ℕ) × AlarmEvent}
    (h : Everywhere AlarmHandle.Consistent table) (hevent : OnEntry NoWrap table label)
    (hstep : alarmTableStep platform table label = some next) :
    Everywhere AlarmHandle.Consistent next := by
  obtain ⟨entry, hentry, rfl⟩ := indexed_eq_some.mp hstep
  exact h.update (alarmStep_consistent haccess (h label.1) hevent hentry)

/-- A disarmed timer stays disarmed, and does not expire, until the next start. -/
theorem exec_disarmed {alarm final : AlarmHandle} {events : List AlarmEvent}
    (hdisarmed : alarm.timer.armed = none)
    (hnostart : ∀ aT0 aDt now, AlarmEvent.startAt aT0 aDt now ∉ events)
    (hrun : exec (alarmStep platform) alarm events = some final) : .expiry ∉ events := by
  induction events generalizing alarm with
  | nil => simp
  | cons event events ih =>
    obtain ⟨next, hstep, hrest⟩ := (exec_cons_eq_some _).mp hrun
    have htail : ∀ aT0 aDt now, AlarmEvent.startAt aT0 aDt now ∉ events :=
      fun aT0 aDt now hmem ↦ hnostart aT0 aDt now (List.mem_cons_of_mem _ hmem)
    cases event with
    | startAt aT0 aDt now => exact absurd List.mem_cons_self (hnostart aT0 aDt now)
    | stop =>
      obtain rfl := Option.some.inj hstep
      have hstopped : (alarm.stopActiveAlarm platform).timer.armed = none := by
        unfold AlarmHandle.stopActiveAlarm
        split
        · rfl
        · exact hdisarmed
      simpa using ih hstopped htail hrest
    | expiry =>
      simp [alarmStep, AlarmHandle.expiry, hdisarmed] at hstep
    | process =>
      obtain rfl := Option.some.inj hstep
      have hprocessed : alarm.processAlarm.timer.armed = none := hdisarmed
      simpa using ih hprocessed htail hrest

/-- What is said of the running flags of all alarms over a run from `table`. -/
structure RunningFlagLaw (platform : Platform) (table : AlarmTable)
    (labels : List ((AlarmClock × ℕ) × AlarmEvent)) : Prop where
  /-- In every state, the flag of every handle tells whether its timer is armed. -/
  flag : Throughout (alarmTableStep platform) (Everywhere AlarmHandle.FlagMatchesTimer)
    table labels
  /-- No timer start function meets an armed timer. -/
  starts_disarmed : Throughout (alarmTableStep platform)
    (Everywhere fun alarm ↦ alarm.timer.startedWhileArmed = false) table labels
  /-- After a stop, an alarm does not expire again before its next start. -/
  stop_final : ∀ index front back, labels = front ++ (index, .stop) :: back →
    (∀ aT0 aDt now, (index, AlarmEvent.startAt aT0 aDt now) ∉ back) →
      (index, .expiry) ∉ back

theorem efr32AlarmInit_consistent : Everywhere AlarmHandle.Consistent efr32AlarmInit :=
  fun _ ↦ ⟨rfl, rfl, rfl⟩

/-- The handle that a run without wraps reaches just after a stop is disarmed. -/
theorem stop_disarmed (haccess : platform.canAccessPal = true)
    {middle stopped : AlarmTable} {index : AlarmClock × ℕ}
    (hconsistent : Everywhere AlarmHandle.Consistent middle)
    (hstop : alarmTableStep platform middle (index, .stop) = some stopped) :
    (stopped index).timer.armed = none := by
  obtain ⟨entry, hentry, rfl⟩ := indexed_eq_some.mp hstop
  obtain rfl := Option.some.inj hentry
  simpa using (AlarmHandle.stopActiveAlarm_armed haccess (hconsistent index).flag).2

/-- The running flags of all alarms are right in a run exactly when no timer expires in it while
its alarm has another wrap segment to come. -/
theorem runningFlagLaw_iff (haccess : platform.canAccessPal = true)
    {labels : List ((AlarmClock × ℕ) × AlarmEvent)} {final : AlarmTable}
    (hrun : exec (alarmTableStep platform) efr32AlarmInit labels = some final) :
    RunningFlagLaw platform efr32AlarmInit labels ↔
      Along (alarmTableStep platform) (OnEntry NoWrap) efr32AlarmInit labels := by
  have hexact : Throughout (alarmTableStep platform) (Everywhere AlarmHandle.FlagMatchesTimer)
      efr32AlarmInit labels ↔
        Along (alarmTableStep platform) (OnEntry NoWrap) efr32AlarmInit labels :=
    indexed_throughout_iff_along (fun _ (h : AlarmHandle.Consistent _) ↦ h.flag)
    (fun _ _ _ h hevent hstep ↦ alarmStep_consistent haccess h hevent hstep)
    (fun _ _ _ _ hevent hstep ↦ alarmStep_wrap_breaks hevent hstep)
    efr32AlarmInit_consistent hrun
  refine ⟨fun h ↦ hexact.mp h.flag, fun halong ↦ ⟨hexact.mpr halong, ?_, ?_⟩⟩
  · have hkeep := halong.throughout
      (fun _ _ _ h hevent hstep ↦ alarmTableStep_consistent haccess h hevent hstep)
      efr32AlarmInit_consistent
    exact hkeep.mono fun _ h index ↦ (h index).starts_disarmed
  · rintro index front back rfl hnostart hexpiry
    obtain ⟨middle, hfront, hback⟩ := (exec_append_eq_some _).mp hrun
    obtain ⟨stopped, hstop, hrest⟩ := (exec_cons_eq_some _).mp hback
    have hmiddle : Everywhere AlarmHandle.Consistent middle :=
      ((halong.append hfront).1.throughout
        (fun _ _ _ h hevent hstep ↦ alarmTableStep_consistent haccess h hevent hstep)
        efr32AlarmInit_consistent).last hfront
    refine exec_disarmed (stop_disarmed haccess hmiddle hstop) ?_ (exec_indexed hrest index)
      (mem_labelsOf.mpr hexpiry)
    exact fun aT0 aDt now hmem ↦ hnostart aT0 aDt now (mem_labelsOf.mp hmem)

/-- A 32768 Hz sleeptimer, whose maximum is 131071999 ms. -/
def platform32768 : Platform := { canAccessPal := true, sleeptimerMaxMs := 131071999 }

/-- A short alarm that expires, and a second one that is stopped. -/
theorem runningFlagLaw_iff_short_alarm :
    RunningFlagLaw platform32768 efr32AlarmInit
      [((.milli, 0), .startAt 10 5 12), ((.milli, 0), .expiry),
        ((.milli, 0), .startAt 20 100 20), ((.milli, 0), .stop)] := by
  apply (runningFlagLaw_iff rfl rfl).mpr
  rw [along_cons_of_step rfl, along_cons_of_step rfl, along_cons_of_step rfl,
    along_cons_of_step rfl]
  exact ⟨nofun, fun _ ↦ rfl, nofun, nofun, trivial⟩

/-- A millisecond alarm of 200000000 ms: once its first segment has expired, its timer is armed
for the second one while the flag says that the alarm is not running. -/
theorem not_runningFlagLaw_long_alarm :
    ¬ RunningFlagLaw platform32768 efr32AlarmInit
      [((.milli, 0), .startAt 0 200000000 0), ((.milli, 0), .expiry)] := by
  intro h
  have hlast := (h.flag.last rfl) (.milli, 0)
  exact absurd hlast (by unfold AlarmHandle.FlagMatchesTimer; decide)

end OtEfr32.Alarm
