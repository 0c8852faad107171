import OtEfr32.System.WakeUp

/-!
# The remaining time of an alarm

`otPlatAlarmMilliStartAt` stores the deadline beside the alarm handle, in `sPendingTimeMs`, and
`efr32AlarmPendingTime` compares it with the millisecond clock.  Once the deadline has passed the
result is the deadline itself, and once a wrap segment has expired `mIsRunning` is cleared and the
result is zero.  `pendingTimeLaw_iff` is the exact condition for the result to be the time that
remains.  The true time and the reference time are unbounded here, and the code sees them modulo
`2 ^ 32`.
-/

namespace OtEfr32.System

open Alarm Transition

/-- The answers of the stack in a view, at a true time. -/
def StackView.at (view : StackView) (time : ℕ) : StackView := { view with now := time % 2 ^ 32 }

namespace SystemState

variable (config : SystemConfig) (system : SystemState)

/-- `efr32AlarmPendingTime` for an instance. -/
def pendingTime (view : StackView) (index : ℕ) : ℕ :=
  efr32AlarmPendingTime (system.alarms (.milli, handleIndex config index))
    (system.sPendingTimeMs (handleIndex config index)) view.now

/-- The wrap segments of an instance's alarm that have expired. -/
def expiredSegments (index : ℕ) : ℕ :=
  (system.alarms (.milli, handleIndex config index)).mWrapData.overflowCounter

/-- An instance interrupts the sleep whatever its alarm does. -/
def interruptsAnyway (view : StackView) (index : ℕ) : Bool :=
  !system.hasInstance config index || view.otTaskletsArePending index

/-- At the true time `time`, the instance's alarm has `deadline - time` left, and it keeps the
device awake if that is less than the minimum sleep. -/
structure RemainingTime (view : StackView) (index deadline time : ℕ) : Prop where
  value : system.pendingTime config (view.at time) index = deadline - time
  awake : deadline - time < config.minSleepDurationMs →
    system.instanceShouldInterruptSleep config (view.at time) index = true

/-- Up to the deadline no segment of the alarm has expired, the clock has not to wrap before the
deadline, and the instance is initialized if the device has to be kept awake; behind the deadline a
segment has expired, and something else keeps the device awake. -/
structure RemainingTimeCondition (view : StackView) (index deadline time : ℕ) : Prop where
  early : time < deadline →
    system.expiredSegments config index = 0 ∧ time / 2 ^ 32 = deadline / 2 ^ 32 ∧
      (deadline - time < config.minSleepDurationMs →
        (system.interruptsAnyway config view index || view.otInstanceIsInitialized index) = true)
  late : deadline ≤ time →
    system.expiredSegments config index ≠ 0 ∧
      (0 < config.minSleepDurationMs → system.interruptsAnyway config view index = true)

/-- The event neither starts nor stops the millisecond alarm of a handle, and does not fire it. -/
def LeavesWaiting (index : ℕ) : SystemEvent → Prop
  | .alarm .milli other event => other = index →
    event = .expiry ∧ (system.alarms (.milli, index)).isAlarmOverflowInProgress = true
  | _ => True

/-- The millisecond alarm of a handle has been started and has not fired: the flag is cleared with
the first wrap segment. -/
structure Waiting (index pending : ℕ) : Prop where
  flag : (system.alarms (.milli, index)).mIsRunning =
    decide ((system.alarms (.milli, index)).mWrapData.overflowCounter = 0)
  counter_bits : (system.alarms (.milli, index)).mWrapData.overflowMax < 2 ^ 16
  pending_time : system.sPendingTimeMs index = pending

variable {config : SystemConfig} {system next : SystemState} {event : SystemEvent}

/-! ## What a step does to the alarms -/

/-- A step is an event of one alarm, or it changes no alarm but for the callbacks that
`efr32AlarmProcess` takes over. -/
inductive AlarmsStep (config : SystemConfig) (system : SystemState) :
    SystemEvent → SystemState → Prop
  | event {clock : AlarmClock} {index : ℕ} {event : AlarmEvent} {alarm : AlarmHandle}
      {next : SystemState} (hstep : alarmStep config.alarm (system.alarms (clock, index)) event =
        some alarm)
      (halarms : next.alarms = Function.update system.alarms (clock, index) alarm)
      (hpending : next.sPendingTimeMs = system.setPendingTime clock index event) :
      AlarmsStep config system (.alarm clock index event) next
  | keep {event : SystemEvent} {next : SystemState}
      (halarms : ∀ index, next.alarms index = system.alarms index ∨
        next.alarms index = (system.alarms index).processAlarm)
      (hpending : next.sPendingTimeMs = system.sPendingTimeMs) :
      AlarmsStep config system event next

@[simp]
theorem signalIf_alarms (signals : Bool) :
    (system.signalIf config signals).alarms = system.alarms := by
  cases signals <;> rfl

@[simp]
theorem signalIf_sPendingTimeMs (signals : Bool) :
    (system.signalIf config signals).sPendingTimeMs = system.sPendingTimeMs := by
  cases signals <;> rfl

/-- An event of one alarm. -/
theorem alarm_step {clock : AlarmClock} {index : ℕ} {alarmEvent : AlarmEvent}
    (hstep : systemStep config system (.alarm clock index alarmEvent) = some next) :
    ∃ alarm, alarmStep config.alarm (system.alarms (clock, index)) alarmEvent = some alarm ∧
      next.alarms = Function.update system.alarms (clock, index) alarm ∧
      next.sPendingTimeMs = system.setPendingTime clock index alarmEvent := by
  obtain ⟨_, hstep⟩ := Option.ite_none_left_eq_some.mp hstep
  obtain ⟨alarm, halarm, rfl⟩ := Option.map_eq_some_iff.mp hstep
  exact ⟨alarm, halarm, signalIf_alarms _, signalIf_sPendingTimeMs _⟩

namespace AlarmsStep

/-- A step of another driver. -/
theorem same (halarms : next.alarms = system.alarms)
    (hpending : next.sPendingTimeMs = system.sPendingTimeMs) :
    AlarmsStep config system event next :=
  .keep (fun index ↦ .inl (congrFun halarms index)) hpending

theorem signalIf {changed : SystemState} {signals : Bool} (halarms : changed.alarms = system.alarms)
    (hpending : changed.sPendingTimeMs = system.sPendingTimeMs) :
    AlarmsStep config system event (changed.signalIf config signals) :=
  .same ((signalIf_alarms signals).trans halarms) ((signalIf_sPendingTimeMs signals).trans hpending)

theorem otSysProcessDrivers {rail : Radio.RailResults} {mTimestamp : ℕ} {readOk : Bool}
    (hstep : system.otSysProcessDrivers config rail mTimestamp readOk = some next) :
    AlarmsStep config system event next := by
  obtain ⟨changed, signals, rfl, hchanged⟩ := otSysProcessDrivers_step hstep
  refine .keep (fun index ↦ ?_) ((signalIf_sPendingTimeMs signals).trans hchanged.sPendingTimeMs)
  rw [signalIf_alarms]
  exact hchanged.alarms index

end AlarmsStep

theorem alarmsStep (hstep : systemStep config system event = some next) :
    AlarmsStep config system event next := by
  cases event with
  | alarm =>
    obtain ⟨alarm, halarm, halarms, hpending⟩ := alarm_step hstep
    exact .event halarm halarms hpending
  | radio =>
    obtain ⟨_, hnext⟩ := Option.ite_none_left_eq_some.mp hstep
    obtain ⟨drivers, _, rfl⟩ := Option.map_eq_some_iff.mp hnext
    exact .signalIf rfl rfl
  | gpioSerialWakeupCallback | otSysEventSignalPending | setAllowSleep =>
    obtain rfl := Option.some.inj hstep
    exact .same rfl rfl
  | otPlatUartSend | otPlatUartFlush | slOtIsOkToSleep =>
    obtain ⟨_, hnext⟩ := Option.ite_none_right_eq_some.mp hstep
    obtain rfl := Option.some.inj hnext
    exact .same rfl rfl
  | continueUartCall =>
    obtain ⟨_, hnext⟩ := Option.ite_none_left_eq_some.mp hstep
    obtain ⟨uart, _, rfl⟩ := Option.map_eq_some_iff.mp hnext
    exact .signalIf rfl rfl
  | elapse =>
    simp only [systemStep] at hstep
    obtain ⟨drivers, _, rfl⟩ := Option.map_eq_some_iff.mp hstep
    exact .same rfl rfl
  | otSysProcessDrivers =>
    obtain ⟨_, hnext⟩ := Option.ite_none_right_eq_some.mp hstep
    exact .otSysProcessDrivers hnext

/-! ## Waiting for the deadline -/

/-- The call that starts the alarm. -/
theorem waiting_startAt (haccess : config.alarm.canAccessPal = true) {index : ℕ}
    {aT0 aDt now : UInt32} (hlater : 0 < remainingTime aT0 aDt now)
    (hstep : systemStep config system (.alarm .milli index (.startAt aT0 aDt now)) = some next) :
    next.Waiting index (aT0.toNat + aDt.toNat) := by
  obtain ⟨alarm, hstart, halarms, hpending⟩ := alarm_step hstep
  obtain rfl := Option.some.inj hstart
  obtain ⟨remaining, hremaining⟩ := Int.eq_ofNat_of_zero_le hlater.le
  have hpositive : 0 < remaining := by omega
  have hstarted := startAlarmAt_started haccess (system.alarms (.milli, index)) hpositive hremaining
  have halarm : next.alarms (.milli, index) =
      (system.alarms (.milli, index)).startAlarmAt config.alarm aT0 aDt now := by
    rw [halarms, Function.update_self]
  constructor
  case flag =>
    rw [halarm, startAlarmAt_running haccess _ hlater, hstarted.counter]
    rfl
  case counter_bits =>
    rw [halarm, hstarted.segments]
    exact fullSegments_lt _ _
  case pending_time => rw [hpending, setPendingTime, Function.update_self]

/-- A handle that keeps its flag and its counters waits on. -/
theorem Waiting.same {index pending : ℕ} (h : system.Waiting index pending)
    (hrunning : (next.alarms (.milli, index)).mIsRunning =
      (system.alarms (.milli, index)).mIsRunning)
    (hwrap : (next.alarms (.milli, index)).mWrapData =
      (system.alarms (.milli, index)).mWrapData)
    (hpending : next.sPendingTimeMs index = system.sPendingTimeMs index) :
    next.Waiting index pending where
  flag := by rw [hrunning, hwrap, h.flag]
  counter_bits := by rw [hwrap]; exact h.counter_bits
  pending_time := hpending.trans h.pending_time

theorem Waiting.step {index pending : ℕ} (h : system.Waiting index pending)
    (hevent : system.LeavesWaiting index event)
    (hstep : systemStep config system event = some next) : next.Waiting index pending := by
  cases alarmsStep hstep with
  | @event clock other alarmEvent alarm _ hevents halarms hpending =>
    by_cases hindex : (AlarmClock.milli, index) = (clock, other)
    · obtain ⟨rfl, rfl⟩ := Prod.mk.inj hindex
      obtain ⟨rfl, hwrap⟩ := hevent rfl
      obtain ⟨harmed, _⟩ := Option.ite_none_right_eq_some.mp hevents
      have hflag := (AlarmHandle.wrapExpiry_flag hwrap hevents).1
      obtain ⟨mid, hmid, hsegment⟩ := alarmStep_expiry_segment config.alarm harmed
        (of_decide_eq_true hwrap) h.counter_bits
      obtain rfl := Option.some.inj (hevents.symm.trans hmid)
      have halarm := congrFun halarms (.milli, index)
      rw [Function.update_self] at halarm
      constructor
      case flag =>
        rw [halarm, hflag, hsegment.counter]
        rfl
      case counter_bits =>
        rw [halarm, hsegment.segments]
        exact h.counter_bits
      case pending_time =>
        rw [hpending]
        exact h.pending_time
    · have halarm : next.alarms (.milli, index) = system.alarms (.milli, index) := by
        rw [halarms, Function.update_of_ne hindex]
      apply h.same (by rw [halarm]) (by rw [halarm])
      rw [hpending]
      unfold setPendingTime
      split
      case h_1 => exact Function.update_of_ne (fun heq ↦ hindex (by rw [heq])) _ _
      case h_2 => rfl
  | keep halarms hpending =>
    obtain hsame | htaken := halarms (.milli, index)
    · exact h.same (by rw [hsame]) (by rw [hsame]) (by rw [hpending])
    · exact h.same (by rw [htaken]; rfl) (by rw [htaken]; rfl) (by rw [hpending])

theorem Waiting.exec {index pending : ℕ} {labels : List SystemEvent}
    (h : system.Waiting index pending)
    (hleaves : Along (systemStep config) (fun system event ↦ system.LeavesWaiting index event)
      system labels)
    (hrun : exec (systemStep config) system labels = some next) : next.Waiting index pending :=
  (hleaves.throughout (fun _ _ _ h hevent hstep ↦ Waiting.step h hevent hstep) h).last hrun

/-! ## The remaining time -/

/-- The flag of a waiting alarm says that no segment of it has expired. -/
theorem Waiting.running {index pending : ℕ}
    (h : system.Waiting (handleIndex config index) pending) :
    (system.alarms (.milli, handleIndex config index)).mIsRunning =
      decide (system.expiredSegments config index = 0) := h.flag

/-- A waiting alarm has the remaining time exactly if no segment has expired before the deadline,
or one has behind it. -/
theorem Waiting.pendingTime_iff {index aT0 aDt : ℕ} (view : StackView) (time : ℕ)
    (hsame : aT0 / 2 ^ 32 = (aT0 + aDt) / 2 ^ 32) (hpositive : 0 < aT0 % 2 ^ 32 + aDt)
    (h : system.Waiting (handleIndex config index) (aT0 % 2 ^ 32 + aDt)) :
    system.pendingTime config (view.at time) index = aT0 + aDt - time ↔
      (time < aT0 + aDt → system.expiredSegments config index = 0 ∧
        time / 2 ^ 32 = (aT0 + aDt) / 2 ^ 32) ∧
      (aT0 + aDt ≤ time → system.expiredSegments config index ≠ 0) := by
  unfold pendingTime efr32AlarmPendingTime StackView.at
  rw [h.running, h.pending_time]
  by_cases hsegment : system.expiredSegments config index = 0
  · simp only [hsegment, decide_true, Bool.true_eq_false, if_false, true_and, ne_eq, not_true,
      imp_false]
    split <;> omega
  · simp only [hsegment, decide_false, if_true, false_and, ne_eq, not_false_eq_true, imp_false,
      implies_true, and_true]
    omega

/-- While an alarm runs with the right remaining time, the instance keeps the device awake for it
if it is initialized. -/
theorem instanceShouldInterruptSleep_eq {view : StackView} {index : ℕ} :
    system.instanceShouldInterruptSleep config view index =
      (system.interruptsAnyway config view index ||
        (view.otInstanceIsInitialized index &&
          (system.alarms (.milli, handleIndex config index)).mIsRunning &&
            decide (system.pendingTime config view index < config.minSleepDurationMs))) := rfl

/-- What is said of the remaining time holds of a waiting alarm under the exact condition. -/
theorem Waiting.remainingTime_iff {index aT0 aDt : ℕ} (view : StackView) (time : ℕ)
    (hsame : aT0 / 2 ^ 32 = (aT0 + aDt) / 2 ^ 32) (hpositive : 0 < aT0 % 2 ^ 32 + aDt)
    (h : system.Waiting (handleIndex config index) (aT0 % 2 ^ 32 + aDt)) :
    system.RemainingTime config view index (aT0 + aDt) time ↔
      system.RemainingTimeCondition config view index (aT0 + aDt) time := by
  have hvalue := h.pendingTime_iff view time hsame hpositive
  constructor
  case mp =>
    rintro ⟨hleft, hawake⟩
    rw [instanceShouldInterruptSleep_eq, hleft, h.running] at hawake
    obtain ⟨hearly, hlate⟩ := hvalue.mp hleft
    constructor
    case early =>
      intro hbefore
      obtain ⟨hsegment, hclock⟩ := hearly hbefore
      refine ⟨hsegment, hclock, fun hshort ↦ ?_⟩
      have hkept := hawake hshort
      simp only [hsegment, hshort, decide_true, Bool.and_true] at hkept
      exact hkept
    case late =>
      intro hbehind
      refine ⟨hlate hbehind, fun hshort ↦ ?_⟩
      have hkept := hawake (by omega)
      simp only [hlate hbehind, decide_false, Bool.and_false, Bool.false_and, Bool.or_false]
        at hkept
      exact hkept
  case mpr =>
    rintro ⟨hearly, hlate⟩
    have hleft := hvalue.mpr ⟨fun hbefore ↦ ⟨(hearly hbefore).1, (hearly hbefore).2.1⟩,
      fun hbehind ↦ (hlate hbehind).1⟩
    refine ⟨hleft, fun hshort ↦ ?_⟩
    rw [instanceShouldInterruptSleep_eq, hleft, h.running]
    obtain hbefore | hbehind := Nat.lt_or_ge time (aT0 + aDt)
    · obtain ⟨hsegment, -, hkept⟩ := hearly hbefore
      simp only [hsegment, hshort, decide_true, Bool.and_true]
      exact hkept hshort
    · have hanyway : system.interruptsAnyway config view index = true :=
        (hlate hbehind).2 (by omega)
      exact Bool.or_eq_true_iff.mpr (.inl hanyway)

end SystemState

/-! ## The exact condition -/

open SystemState

/-- A moment at which the remaining time is read: the drivers, the answers of the stack and the true
time. -/
structure Reading where
  system : SystemState
  view : StackView
  time : ℕ

/-- What is said of the remaining time at two moments of a run. -/
structure PendingTimeLaw (config : SystemConfig) (index deadline : ℕ) (earlier later : Reading) :
    Prop where
  at_earlier : earlier.system.RemainingTime config earlier.view index deadline earlier.time
  at_later : later.system.RemainingTime config later.view index deadline later.time
  never_increases : later.system.pendingTime config (later.view.at later.time) index ≤
    earlier.system.pendingTime config (earlier.view.at earlier.time) index

/-- From the call that starts a millisecond alarm until it fires, the remaining time is right, never
increases and keeps the device awake, exactly under the condition at every moment it is read. -/
theorem pendingTimeLaw_iff {config : SystemConfig} (haccess : config.alarm.canAccessPal = true)
    (index aT0 aDt : ℕ) {called : UInt32} {before started : SystemState}
    (hsame : aT0 / 2 ^ 32 = (aT0 + aDt) / 2 ^ 32)
    (hlater : 0 < remainingTime (UInt32.ofNat aT0) (UInt32.ofNat aDt) called)
    (hcall : systemStep config before (.alarm .milli (handleIndex config index)
      (.startAt (UInt32.ofNat aT0) (UInt32.ofNat aDt) called)) = some started)
    (earlier later : Reading) {front back : List SystemEvent}
    (hleaves : Along (systemStep config)
      (fun system event ↦ system.LeavesWaiting (handleIndex config index) event)
      started (front ++ back))
    (hfront : exec (systemStep config) started front = some earlier.system)
    (hback : exec (systemStep config) earlier.system back = some later.system)
    (htime : earlier.time ≤ later.time) :
    PendingTimeLaw config index (aT0 + aDt) earlier later ↔
      earlier.system.RemainingTimeCondition config earlier.view index (aT0 + aDt) earlier.time ∧
        later.system.RemainingTimeCondition config later.view index (aT0 + aDt) later.time := by
  have hstarted := waiting_startAt haccess hlater hcall
  have hpending : (UInt32.ofNat aT0).toNat + (UInt32.ofNat aDt).toNat = aT0 % 2 ^ 32 + aDt := by
    rw [UInt32.toNat_ofNat', UInt32.toNat_ofNat']
    omega
  have hpositive : 0 < aT0 % 2 ^ 32 + aDt := by
    unfold remainingTime at hlater
    omega
  rw [hpending] at hstarted
  obtain ⟨hleavesFront, hleavesBack⟩ := hleaves.append hfront
  have hearlier := hstarted.exec hleavesFront hfront
  have hlast := hearlier.exec hleavesBack hback
  have hearlierIff := hearlier.remainingTime_iff earlier.view earlier.time hsame hpositive
  have hlastIff := hlast.remainingTime_iff later.view later.time hsame hpositive
  constructor
  case mp => exact fun h ↦ ⟨hearlierIff.mp h.at_earlier, hlastIff.mp h.at_later⟩
  case mpr =>
    rintro ⟨hconditionEarlier, hconditionLater⟩
    have hleft := hearlierIff.mpr hconditionEarlier
    have hleftLater := hlastIff.mpr hconditionLater
    refine ⟨hleft, hleftLater, ?_⟩
    rw [hleft.value, hleftLater.value]
    exact Nat.sub_le_sub_left htime _

/-- An alarm of the first instance, 100 ms from its reference time, is started by the stack. -/
def shortAlarm : Option SystemState :=
  exec (systemStep singlePanSystem) (systemInit singlePanSystem true)
    [.otSysProcessDrivers {} 0 true, .alarm .milli 0 (.startAt 1000 100 1000)]

/-- A minute later than a full segment of the timer, and the segment expires. -/
def longAlarm : Option SystemState :=
  exec (systemStep singlePanSystem) (systemInit singlePanSystem true)
    [.otSysProcessDrivers {} 0 true, .alarm .milli 0 (.startAt 1000 268495455 1000),
      .alarm .milli 0 .expiry]

/-- Half of the time and 3 ms are left. -/
theorem pendingTimeLaw_iff_shortAlarm :
    ∃ started ∈ shortAlarm, PendingTimeLaw singlePanSystem 0 1100 ⟨started, {}, 1050⟩
      ⟨started, {}, 1097⟩ := by
  have hstarted : shortAlarm.get (by decide) ∈ shortAlarm := Option.get_mem _
  refine ⟨_, hstarted, ?_⟩
  obtain ⟨before, _, hrest⟩ := (exec_cons_eq_some _).mp hstarted
  obtain ⟨_, hcall, hnext⟩ := (exec_cons_eq_some _).mp hrest
  obtain rfl := Option.some.inj hnext
  have hstay := exec_nil (systemStep singlePanSystem) (shortAlarm.get (by decide))
  have hleaves : Along (systemStep singlePanSystem)
      (fun system event ↦ system.LeavesWaiting (handleIndex singlePanSystem 0) event)
      (shortAlarm.get (by decide)) ([] ++ []) := trivial
  exact (pendingTimeLaw_iff rfl 0 1000 100 (by decide) (by decide) hcall ⟨_, {}, 1050⟩
    ⟨_, {}, 1097⟩ hleaves hstay hstay (by decide)).mpr
      ⟨⟨by decide, by decide⟩, ⟨by decide, by decide⟩⟩

/-- Neither the reading of an alarm at its deadline nor that of a long alarm behind its first
segment is the remaining time. -/
theorem not_pendingTimeLaw_due :
    ¬ (∀ started ∈ shortAlarm, PendingTimeLaw singlePanSystem 0 1100 ⟨started, {}, 1050⟩
        ⟨started, {}, 1100⟩) ∧
      ¬ ∀ started ∈ longAlarm, PendingTimeLaw singlePanSystem 0 268496455 ⟨started, {}, 61000⟩
        ⟨started, {}, 61001⟩ := by
  constructor
  · intro h
    exact absurd (h _ (Option.get_mem (by decide))).at_later.value (by decide)
  · intro h
    exact absurd (h _ (Option.get_mem (by decide))).at_later.value (by decide)

end OtEfr32.System
