import OtEfr32.GreenPower.Conservation
import OtEfr32.System.Drivers

/-!
# Lost wake-ups

Whenever `sl_ot_is_ok_to_sleep` allows the sleep, nothing should be waiting for
`otSysProcessDrivers`.  `sWakeRequirementSet` is a copy of what `sl_ot_sleep_update` saw last;
outside `otSysProcessDrivers` it is up to date as far as the alarms and the UART go.  The radio has
no part in it, although the radio driver signals its events.  `wakeUpLaw_iff` is the exact condition
for whole runs.
-/

namespace OtEfr32.System

open Alarm GreenPower Radio Transition Uart

namespace SystemState

variable (config : SystemConfig) (system : SystemState)

/-- Nothing was waiting when the sleep was allowed. -/
def WakeUpLaw : Prop := ∀ check ∈ system.sleepChecks, check.okToSleep = true → check.work = {}

/-- Work of the radio driver is waiting. -/
def radioWork : Bool :=
  (system.work config).rxPacket || (system.work config).txEvent ||
    (system.work config).completedScan

/-- While work of the radio driver is waiting at a call of `sl_ot_is_ok_to_sleep`, something else
keeps the system awake: the application did not allow the sleep when a pending event was last
signalled, an alarm or the UART has an event, or an instance interrupts the sleep. -/
def WakeUpCondition : SystemEvent → Prop
  | .slOtIsOkToSleep view =>
    system.radioWork config = true → system.allowedAtUpdate = false ∨
      system.isPlatformEventPending config = true ∨ system.shouldInterruptSleep config view = true
  | _ => True

instance : DecidablePred WakeUpLaw := fun system ↦
  inferInstanceAs (Decidable (∀ check ∈ system.sleepChecks, _))

instance (config : SystemConfig) : DecidableRel (WakeUpCondition config) := fun _ event ↦
  match event with
  | .slOtIsOkToSleep _ => inferInstanceAs (Decidable (_ → _))
  | .radio .. | .alarm .. | .gpioSerialWakeupCallback | .otPlatUartSend _ | .otPlatUartFlush
    | .continueUartCall _ | .otSysEventSignalPending | .setAllowSleep _ | .elapse _
    | .otSysProcessDrivers .. => .isTrue trivial

/-! ## The wake requirement -/

/-- Outside `otSysProcessDrivers` and the calls of the UART API, the wake requirement follows the
alarms and the UART. -/
def UpToDate : Prop :=
  system.location = .outside → system.uart.calls = [] →
    system.sWakeRequirementSet =
      (!system.allowedAtUpdate || system.isPlatformEventPending config)

variable {config : SystemConfig} {system next : SystemState} {event : SystemEvent}

/-- A step that does not signal an event has none to signal. -/
theorem signalIf_upToDate {signals : Bool} (h : signals = false → system.UpToDate config) :
    (system.signalIf config signals).UpToDate config := by
  cases signals with
  | true => exact fun _ _ ↦ rfl
  | false => exact h rfl

theorem signalIf_sleepChecks (signals : Bool) :
    (system.signalIf config signals).sleepChecks = system.sleepChecks := by
  cases signals <;> rfl

/-- Within `otSysProcessDrivers` nothing is asked of the wake requirement. -/
theorem upToDate_of_inside (hinside : system.location ≠ .outside) : system.UpToDate config :=
  fun houtside ↦ absurd houtside hinside

theorem hasAnyAlarmFired_update (num : ℕ) (table : AlarmTable) (index : AlarmClock × ℕ)
    {alarm : AlarmHandle} (hfired : alarm.mFiredCount = (table index).mFiredCount) :
    hasAnyAlarmFired num (Function.update table index alarm) = hasAnyAlarmFired num table := by
  have hsame : ∀ other, (Function.update table index alarm other).mFiredCount =
      (table other).mFiredCount := by
    intro other
    by_cases hother : other = index
    · rw [hother, Function.update_self, hfired]
    · rw [Function.update_of_ne hother]
  simp only [hasAnyAlarmFired, hsame]

/-! ## Steps -/

/-- What a step does to the wake requirement: it changes the drivers and signals an event, or it has
none to signal, or it is a call of `sl_ot_is_ok_to_sleep`. -/
inductive WakeStep (config : SystemConfig) (system : SystemState) :
    SystemEvent → SystemState → Prop
  | change {event : SystemEvent} {changed : SystemState} {signals : Bool}
      (hchecks : changed.sleepChecks = system.sleepChecks)
      (hsilent : signals = false → system.UpToDate config → changed.UpToDate config) :
      WakeStep config system event (changed.signalIf config signals)
  | check {view : StackView} (houtside : system.location = .outside)
      (hfree : system.isFree = true) :
      WakeStep config system (.slOtIsOkToSleep view) (system.checkSleep config view)

namespace WakeStep

/-- A step that leaves what the wake requirement depends on. -/
theorem silent {changed : SystemState} (hchecks : changed.sleepChecks = system.sleepChecks)
    (hkeep : system.UpToDate config → changed.UpToDate config) :
    WakeStep config system event changed :=
  @change config system event changed false hchecks fun _ ↦ hkeep

theorem signal {changed : SystemState} (hchecks : changed.sleepChecks = system.sleepChecks) :
    WakeStep config system event (changed.slOtSleepUpdate config) :=
  @change config system event changed true hchecks nofun

theorem radioEvent {radioEvent : RadioEvent} {configEvent : Bool}
    (hstep : system.radioEvent config radioEvent configEvent = some next) :
    WakeStep config system event next := by
  obtain ⟨_, hstep⟩ := Option.ite_none_left_eq_some.mp hstep
  obtain ⟨drivers, _, rfl⟩ := Option.map_eq_some_iff.mp hstep
  exact .change rfl fun _ h ↦ h

theorem alarmEvent {clock : AlarmClock} {index : ℕ} {alarmEvent : AlarmEvent}
    (hstep : system.alarmEvent config clock index alarmEvent = some next) :
    WakeStep config system event next := by
  obtain ⟨hguard, hstep⟩ := Option.ite_none_left_eq_some.mp hstep
  obtain ⟨alarm, halarm, rfl⟩ := Option.map_eq_some_iff.mp hstep
  refine .change rfl fun hfires h houtside hcalls ↦ ?_
  have hfired := AlarmHandle.mFiredCount_of_not_fires halarm (fun heq ↦ hguard (.inl heq)) hfires
  have hready := hasAnyAlarmFired_update config.radio.multipleInstanceNum system.alarms
    (clock, index) hfired
  simp only [isPlatformEventPending, efr32AlarmIsReady, hready]
  exact h houtside hcalls

/-- A call of the UART API begins, or it does nothing. -/
theorem uartCall {uart : IostreamUart} (hsame : uart.calls = [] → uart = system.uart) :
    WakeStep config system event { system with uart } := by
  refine .silent rfl fun h houtside hcalls ↦ ?_
  obtain rfl := hsame hcalls
  exact h houtside hcalls

theorem continueUartCall {uart : IostreamUart} {written : Bool}
    (huart : system.uart.continueCall written = some uart) :
    WakeStep config system event
      ({ system with uart }.signalIf config system.uart.callSignals) := by
  refine .change rfl fun hsilent _ _ hcalls ↦ ?_
  -- A call that does not signal is not the last one.
  have hsignals := IostreamUart.callSignals_of_continueCall huart hcalls
  exact absurd (hsignals.symm.trans hsilent) (by decide)

theorem otSysProcessDrivers {rail : RailResults} {mTimestamp : ℕ} {readOk : Bool}
    (hstep : system.otSysProcessDrivers config rail mTimestamp readOk = some next) :
    WakeStep config system event next := by
  obtain ⟨changed, signals, rfl, hchanged⟩ := otSysProcessDrivers_step hstep
  exact .change hchanged.sleepChecks fun hsilent _ ↦ upToDate_of_inside (hchanged.inside hsilent)

end WakeStep

theorem wakeStep (hstep : systemStep config system event = some next) :
    WakeStep config system event next := by
  cases event with
  | radio => exact .radioEvent hstep
  | alarm => exact .alarmEvent hstep
  | gpioSerialWakeupCallback =>
    obtain rfl := Option.some.inj hstep
    exact .signal rfl
  | otPlatUartSend valid =>
    obtain ⟨_, hnext⟩ := Option.ite_none_right_eq_some.mp hstep
    obtain rfl := Option.some.inj hnext
    exact .uartCall IostreamUart.otPlatUartSend_eq
  | otPlatUartFlush =>
    obtain ⟨_, hnext⟩ := Option.ite_none_right_eq_some.mp hstep
    obtain rfl := Option.some.inj hnext
    exact .uartCall IostreamUart.otPlatUartFlush_eq
  | continueUartCall written =>
    obtain ⟨_, hnext⟩ := Option.ite_none_left_eq_some.mp hstep
    obtain ⟨uart, huart, rfl⟩ := Option.map_eq_some_iff.mp hnext
    exact .continueUartCall huart
  | otSysEventSignalPending =>
    obtain rfl := Option.some.inj hstep
    exact .signal rfl
  | setAllowSleep allowSleep =>
    obtain rfl := Option.some.inj hstep
    exact .silent rfl fun h ↦ h
  | elapse duration =>
    simp only [systemStep] at hstep
    obtain ⟨drivers, _, rfl⟩ := Option.map_eq_some_iff.mp hstep
    exact .silent rfl fun h ↦ h
  | otSysProcessDrivers =>
    obtain ⟨_, hnext⟩ := Option.ite_none_right_eq_some.mp hstep
    exact .otSysProcessDrivers hnext
  | slOtIsOkToSleep view =>
    obtain ⟨⟨houtside, hfree⟩, hnext⟩ := Option.ite_none_right_eq_some.mp hstep
    obtain rfl := Option.some.inj hnext
    exact .check houtside hfree

/-! ## Calls of `sl_ot_is_ok_to_sleep` -/

theorem enabledAlarmFired_of_not_ready (hready : system.efr32AlarmIsReady config = false) :
    system.enabledAlarmFired config = false := by
  refine List.any_eq_false.mpr fun index hindex ↦ ?_
  have hhandle := List.any_eq_false.mp hready index hindex
  simp only [Bool.or_eq_true, not_or] at hhandle
  simp [hhandle.1, hhandle.2]

/-- Nothing is waiting, by its source. -/
theorem work_eq_nothing : system.work config = {} ↔
    system.enabledAlarmFired config = false ∧ system.uart.efr32UartIsDataReady = false ∧
      system.radioWork config = false := by
  simp only [work, radioWork, IostreamUart.efr32UartIsDataReady, DriverWork.mk.injEq,
    Bool.or_eq_false_iff, and_assoc]

/-- The sleep is allowed when nothing keeps the system awake, as of the last update. -/
theorem UpToDate.slOtIsOkToSleep_iff (h : system.UpToDate config)
    (houtside : system.location = .outside) (hfree : system.isFree = true) (view : StackView) :
    system.slOtIsOkToSleep config view = true ↔ ¬ (system.allowedAtUpdate = false ∨
      system.isPlatformEventPending config = true ∨
        system.shouldInterruptSleep config view = true) := by
  have hcalls : system.uart.calls = [] := by
    simp only [isFree, Bool.and_eq_true, List.isEmpty_iff] at hfree
    exact hfree.1
  have hwake := h houtside hcalls
  unfold SystemState.slOtIsOkToSleep
  rw [hwake]
  simp [and_assoc]

/-- The alarms and the UART have nothing waiting when the sleep is allowed; the radio has nothing
exactly under the condition. -/
theorem UpToDate.granted_iff (h : system.UpToDate config) (houtside : system.location = .outside)
    (hfree : system.isFree = true) (view : StackView) :
    (system.slOtIsOkToSleep config view = true → system.work config = {}) ↔
      WakeUpCondition config system (.slOtIsOkToSleep view) := by
  rw [h.slOtIsOkToSleep_iff houtside hfree view, work_eq_nothing]
  constructor
  case mp =>
    intro hgranted hradio
    by_contra hasleep
    exact absurd hradio (by rw [(hgranted hasleep).2.2]; decide)
  case mpr =>
    intro hcondition hasleep
    have hpending : system.isPlatformEventPending config = false :=
      Bool.of_not_eq_true fun hpending ↦ hasleep (.inr (.inl hpending))
    obtain ⟨hready, huart⟩ := Bool.or_eq_false_iff.mp hpending
    exact ⟨enabledAlarmFired_of_not_ready hready, huart,
      Bool.of_not_eq_true fun hradio ↦ hasleep (hcondition hradio)⟩

/-! ## Runs -/

/-- The invariant behind `WakeUpLaw`. -/
structure AwakeForWork (config : SystemConfig) (system : SystemState) : Prop where
  law : system.WakeUpLaw
  upToDate : system.UpToDate config

/-- The law holds behind a call exactly if it holds at the call. -/
theorem wakeUpLaw_checkSleep (hlaw : system.WakeUpLaw) (view : StackView) :
    (system.checkSleep config view).WakeUpLaw ↔
      (system.slOtIsOkToSleep config view = true → system.work config = {}) := by
  unfold WakeUpLaw checkSleep
  simp only [List.forall_mem_append, List.forall_mem_singleton]
  exact and_iff_right hlaw

theorem AwakeForWork.step (h : system.AwakeForWork config)
    (hcondition : WakeUpCondition config system event)
    (hstep : systemStep config system event = some next) : next.AwakeForWork config := by
  cases wakeStep hstep with
  | @change _ changed signals hchecks hsilent =>
    refine ⟨?_, signalIf_upToDate fun hsignals ↦ hsilent hsignals h.upToDate⟩
    unfold WakeUpLaw
    rw [signalIf_sleepChecks, hchecks]
    exact h.law
  | @check view houtside hfree =>
    have hgranted := (h.upToDate.granted_iff houtside hfree view).mpr hcondition
    exact ⟨(wakeUpLaw_checkSleep h.law view).mpr hgranted, h.upToDate⟩

/-- A call at which only the radio has work waiting allows the sleep. -/
theorem AwakeForWork.condition_of_law (h : system.AwakeForWork config)
    (hstep : systemStep config system event = some next) (hlaw : next.WakeUpLaw) :
    WakeUpCondition config system event := by
  cases event with
  | slOtIsOkToSleep view =>
    obtain ⟨⟨houtside, hfree⟩, hnext⟩ := Option.ite_none_right_eq_some.mp hstep
    obtain rfl := Option.some.inj hnext
    exact (h.upToDate.granted_iff houtside hfree view).mp
      ((wakeUpLaw_checkSleep h.law view).mp hlaw)
  | _ => trivial

theorem systemInit_awakeForWork (config : SystemConfig) (allowSleep : Bool) :
    (systemInit config allowSleep).AwakeForWork config :=
  ⟨fun _ hmem ↦ absurd hmem List.not_mem_nil, fun _ _ ↦ rfl⟩

end SystemState

open SystemState

/-- In every run nothing is waiting whenever `sl_ot_is_ok_to_sleep` allows the sleep, exactly when
something else keeps the system awake at every call with radio work waiting. -/
theorem wakeUpLaw_iff (config : SystemConfig) (allowSleep : Bool) (labels : List SystemEvent)
    (final : SystemState)
    (hrun : exec (systemStep config) (systemInit config allowSleep) labels = some final) :
    Throughout (systemStep config) WakeUpLaw (systemInit config allowSleep) labels ↔
      Along (systemStep config) (WakeUpCondition config) (systemInit config allowSleep) labels :=
  throughout_iff_along (fun _ h ↦ AwakeForWork.law h)
    (fun _ _ _ h hcondition hstep ↦ h.step hcondition hstep)
    (fun _ _ _ h hnot hstep hlaw ↦ hnot (h.condition_of_law hstep hlaw))
    (systemInit_awakeForWork config allowSleep) hrun

/-- A single-PAN build. -/
def singlePanSystem : SystemConfig where
  radio := .singlePan
  gp := shortAddressPlatform
  alarm := { canAccessPal := true, sleeptimerMaxMs := 0xFFFFFFF }

/-- Some steps of `otSysProcessDrivers`. -/
def processDrivers (steps : ℕ) : List SystemEvent :=
  List.replicate steps (.otSysProcessDrivers {} 0 true)

/-- A packet is received. -/
def packetReceived : SystemEvent :=
  .radio (.railEvents { rxPacketReceived := some { psdu := [0x41, 0x88, 1, 0, 0] } }) false

/-- A packet and a byte are received and processed, and the sleep is allowed. -/
def wakeUpRun : List SystemEvent :=
  [packetReceived, .gpioSerialWakeupCallback] ++ processDrivers 19 ++ [.slOtIsOkToSleep {}]

theorem wakeUpLaw_iff_wakeUpRun :
    ((exec (systemStep singlePanSystem) (systemInit singlePanSystem true) wakeUpRun).map
      fun system ↦ (system.drivers.radio.rx.receiveDones.length, system.sleepChecks)) =
        some (2, [⟨true, {}⟩]) ∧
    Throughout (systemStep singlePanSystem) WakeUpLaw (systemInit singlePanSystem true) wakeUpRun :=
  ⟨by decide, (wakeUpLaw_iff singlePanSystem true wakeUpRun _
    (Option.some_get (by decide)).symm).mpr (by decide)⟩

/-- A packet is received after `otSysProcessDrivers`, and the sleep is allowed. -/
theorem not_wakeUpLaw_latePacket :
    ¬ ∀ config allowSleep labels,
      Throughout (systemStep config) WakeUpLaw (systemInit config allowSleep) labels := by
  intro h
  have hlaw := h singlePanSystem true
    (processDrivers 13 ++ [packetReceived, .slOtIsOkToSleep {}])
  revert hlaw
  decide

end OtEfr32.System
