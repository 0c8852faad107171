import OtEfr32.Alarm.Process
import OtEfr32.System.SignalPending
import OtEfr32.Uart.Iostream

/-!
# The drivers of a bare-metal build

The alarms, the iostream UART, the radio and the Green Power interface of a build without a kernel,
with `otSysProcessDrivers` and the power manager's part of `sleep.c`.  The main loop is divided at
its accesses to what an interrupt may change and at its calls into the stack, inside which, and
outside `otSysProcessDrivers`, the stack may call the platform API.  An interrupt is one step, and
so is a critical section.
-/

namespace OtEfr32.System

open Alarm GreenPower Radio Uart

/-- The configuration of a build. -/
structure SystemConfig where
  radio : Radio.Config
  gp : GpPlatform
  alarm : Alarm.Platform
  /-- `OPENTHREAD_CONFIG_PLATFORM_USEC_TIMER_ENABLE`. -/
  usecTimer : Bool := true
  /-- `WAIT_FOR_UART_RX_READY`. -/
  waitForUartRxReady : Bool := true
  /-- `OPENTHREAD_CONFIG_MIN_SLEEP_DURATION_MS`. -/
  minSleepDurationMs : ℕ := 5

/-- Where the main loop stands in `otSysProcessDrivers`. -/
inductive SystemLocation where
  | outside
  /-- In `sl_main_process_action`. -/
  | mainProcessAction
  | efr32GpProcess
  /-- `efr32GpProcess` is in `otPlatRadioTxDone`. -/
  | gpTxDone
  | efr32SerialProcess (location : UartLocation)
  | efr32RadioProcess
  | efr32AlarmProcess (location : AlarmLocation)
  /-- Before its `otSysEventSignalPending`. -/
  | signalPending
  deriving DecidableEq, Repr

/-- What the stack answers to `shouldInterruptSleep`, for the instance with a given index, and the
time of the millisecond clock. -/
structure StackView where
  otTaskletsArePending : ℕ → Bool := fun _ ↦ false
  otInstanceIsInitialized : ℕ → Bool := fun _ ↦ true
  now : ℕ := 0

/-- What is waiting for `otSysProcessDrivers`. -/
structure DriverWork where
  /-- An enabled alarm handle has fired. -/
  firedAlarm : Bool := false
  sRxDataReady : Bool := false
  sTransmitDone : Bool := false
  /-- `sRxPacketQueue` is not empty. -/
  rxPacket : Bool := false
  /-- A bit of `RADIO_TX_EVENTS` is set. -/
  txEvent : Bool := false
  /-- An asynchronous energy scan is completed and not reported. -/
  completedScan : Bool := false
  deriving DecidableEq, Repr

/-- A call of `sl_ot_is_ok_to_sleep`. -/
structure SleepCheck where
  okToSleep : Bool
  work : DriverWork
  deriving DecidableEq, Repr

/-- The state of the drivers. -/
structure SystemState where
  drivers : GpDriver
  alarms : AlarmTable := efr32AlarmInit
  sPendingTimeMs : ℕ → ℕ := fun _ ↦ 0
  uart : IostreamUart := {}
  /-- `sInstance` is not `NULL`. -/
  sInstance : Bool := false
  /-- As `sl_ot_sleep_init` leaves it. -/
  sWakeRequirementSet : Bool := true
  /-- The answer of `efr32AllowSleepCallback`. -/
  allowSleep : Bool
  location : SystemLocation := .outside
  /-- History: `efr32AllowSleepCallback` allowed the sleep when `sl_ot_sleep_update` last ran. -/
  allowedAtUpdate : Bool := false
  /-- History. -/
  sleepChecks : List SleepCheck := []

namespace SystemState

variable (config : SystemConfig) (system : SystemState)

/-! ## sleep.c -/

/-- `efr32AlarmIsReady`. -/
def efr32AlarmIsReady : Bool := hasAnyAlarmFired config.radio.multipleInstanceNum system.alarms

/-- `isPlatformEventPending`. -/
def isPlatformEventPending : Bool :=
  system.efr32AlarmIsReady config || system.uart.efr32UartIsDataReady

/-- `shouldStayAwake`. -/
def shouldStayAwake : Bool := !system.allowSleep || system.isPlatformEventPending config

/-- `sl_ot_sleep_update`, which is all that `otSysEventSignalPending` does. -/
def slOtSleepUpdate : SystemState :=
  { system with
    sWakeRequirementSet := system.shouldStayAwake config
    allowedAtUpdate := system.allowSleep }

/-- `otSysEventSignalPending` is called, or not. -/
def signalIf (signals : Bool) : SystemState :=
  if signals then system.slOtSleepUpdate config else system

/-- `efr32GetInstanceFromIid` gives an instance other than `NULL`, for the iid behind `index`. -/
def hasInstance (index : ℕ) : Bool :=
  if config.radio.multipan then config.radio.iidHasInstance (index + 1) else system.sInstance

/-- The index that `GetAlarmHandle` takes for an instance. -/
def handleIndex (index : ℕ) : ℕ := if config.radio.multipan then index else 0

/-- `efr32AlarmPendingTime`, for a handle with its pending time. -/
def efr32AlarmPendingTime (alarm : AlarmHandle) (remaining now : ℕ) : ℕ :=
  if alarm.mIsRunning = false then 0
  else if now < remaining then remaining - now
  else remaining

/-- `instanceShouldInterruptSleep`. -/
def instanceShouldInterruptSleep (view : StackView) (index : ℕ) : Bool :=
  let alarm := system.alarms (.milli, handleIndex config index)
  let remaining := system.sPendingTimeMs (handleIndex config index)
  !system.hasInstance config index || view.otTaskletsArePending index ||
    view.otInstanceIsInitialized index && alarm.mIsRunning &&
      decide (efr32AlarmPendingTime alarm remaining view.now < config.minSleepDurationMs)

/-- `shouldInterruptSleep`. -/
def shouldInterruptSleep (view : StackView) : Bool :=
  (List.range config.radio.multipleInstanceNum).any fun index ↦
    system.instanceShouldInterruptSleep config view index

/-- `sl_ot_is_ok_to_sleep`. -/
def slOtIsOkToSleep (view : StackView) : Bool :=
  !(system.sWakeRequirementSet || system.shouldInterruptSleep config view)

/-! ## Work -/

/-- An enabled alarm handle has fired. -/
def enabledAlarmFired : Bool :=
  (List.range config.radio.multipleInstanceNum).any fun index ↦
    (system.alarms (.milli, index)).mFiredCount != 0 ||
      config.usecTimer && (system.alarms (.micro, index)).mFiredCount != 0

/-- What is waiting. -/
def work : DriverWork where
  firedAlarm := system.enabledAlarmFired config
  sRxDataReady := system.uart.sRxDataReady
  sTransmitDone := system.uart.sTransmitDone
  rxPacket := !system.drivers.radio.rx.sRxPacketQueue.isEmpty
  txEvent := getInternalFlag system.drivers.radio.tx.flags radioTxEvents
  completedScan := system.drivers.radio.scan.isReportable

/-- A call of `sl_ot_is_ok_to_sleep` is put on record. -/
def checkSleep (view : StackView) : SystemState :=
  { system with
    sleepChecks := system.sleepChecks ++
      [⟨system.slOtIsOkToSleep config view, system.work config⟩] }

/-! ## Calls of the stack -/

/-- The main loop is in the stack, or outside `otSysProcessDrivers`. -/
def inStack : Bool :=
  match system.location with
  | .outside | .mainProcessAction | .gpTxDone | .efr32SerialProcess .received => true
  | .efr32RadioProcess => system.drivers.radio.location != .outside
  | .efr32AlarmProcess (.inCallback ..) => true
  | _ => false

/-- No call of the platform API is under way. -/
def isFree : Bool := system.uart.calls.isEmpty && !system.drivers.radio.isInCall

/-- The stack may call the platform API. -/
def canCall : Bool :=
  !system.drivers.radio.isInCall &&
    match system.uart.calls with
    | [] => system.inStack
    | call :: _ => call == .sendDone

/-- The event is a call of the radio API by the stack. -/
def isRadioCall : RadioEvent → Bool
  | .railEvents _ | .scanTimer .. | .endRssiWait _ | .setMacKeyStep | .process .. => false
  | _ => true

/-- A step of the radio driver other than a part of `efr32RadioProcess`. -/
def radioEvent (event : RadioEvent) (configEvent : Bool) : Option SystemState :=
  if isProcess event || isRadioCall event && !system.canCall then none
  else
    let gpBuffers := (system.drivers.divertedFrame config.radio config.gp event).isSome
    let signals := radioSignals config.radio gpBuffers configEvent system.drivers.radio event
    (gpStep config.radio config.gp system.drivers (.radio event 0)).map fun drivers ↦
      { system with drivers }.signalIf config signals

/-- `sPendingTimeMs`, which `otPlatAlarmMilliStartAt` sets. -/
def setPendingTime (clock : AlarmClock) (index : ℕ) (event : AlarmEvent) : ℕ → ℕ :=
  match clock, event with
  | .milli, .startAt aT0 aDt _ =>
    Function.update system.sPendingTimeMs index (aT0.toNat + aDt.toNat)
  | _, _ => system.sPendingTimeMs

/-- A call for an alarm handle, or the expiry of its timer. -/
def alarmEvent (clock : AlarmClock) (index : ℕ) (event : AlarmEvent) : Option SystemState :=
  if event = .process ∨ config.radio.multipleInstanceNum ≤ index ∨
      (event ≠ .expiry ∧ system.canCall = false) then none
  else
    let alarm := system.alarms (clock, index)
    (alarmStep config.alarm alarm event).map fun next ↦
      { system with
        alarms := Function.update system.alarms (clock, index) next
        sPendingTimeMs := system.setPendingTime clock index event }.signalIf config
          (alarm.fires config.alarm event)

/-! ## otSysProcessDrivers -/

/-- The next step of `otSysProcessDrivers`.  `rail` holds the answers of RAIL, `mTimestamp` is that
of the frame that `processNextRxPacket` hands up, and `readOk` the success of `sl_iostream_read`. -/
def otSysProcessDrivers (rail : RailResults) (mTimestamp : ℕ) (readOk : Bool) :
    Option SystemState :=
  match system.location with
  | .outside => some { system with sInstance := true, location := .mainProcessAction }
  | .mainProcessAction => some { system with location := .efr32GpProcess }
  | .efr32GpProcess =>
    if config.radio.multipan then
      (gpStep config.radio config.gp system.drivers (.gpProcess rail)).map fun drivers ↦
        { system with
          drivers
          location := if drivers.inTxDone then .gpTxDone
            else .efr32SerialProcess .processReceive }.signalIf config
              (gpSignals config.radio rail system.drivers)
    else some { system with location := .efr32SerialProcess .processReceive }
  | .gpTxDone =>
    (gpStep config.radio config.gp system.drivers .txDoneReturns).map fun drivers ↦
      { system with drivers, location := .efr32SerialProcess .processReceive }
  | .efr32SerialProcess location =>
    let result := system.uart.efr32UartProcess config.waitForUartRxReady readOk location
    some ({ system with
      uart := result.1
      location := result.2.elim .efr32RadioProcess .efr32SerialProcess }.signalIf config
        (location == UartLocation.receiveEnd))
  | .efr32RadioProcess =>
    let event := .process rail false
    let gpBuffers := (system.drivers.divertedFrame config.radio config.gp event).isSome
    (gpStep config.radio config.gp system.drivers (.radio event mTimestamp)).map fun drivers ↦
      { system with
        drivers
        location :=
          if drivers.radio.location = ProcessLocation.outside then .efr32AlarmProcess .check
          else .efr32RadioProcess }.signalIf config
            (radioSignals config.radio gpBuffers false system.drivers.radio event)
  | .efr32AlarmProcess location =>
    let result := efr32AlarmProcess config.radio.multipleInstanceNum config.usecTimer
      system.alarms location
    some { system with
      alarms := result.1
      location := result.2.elim .signalPending .efr32AlarmProcess }
  | .signalPending => some { system.slOtSleepUpdate config with location := .outside }

end SystemState

/-! ## Steps -/

/-- What can happen next. -/
inductive SystemEvent where
  /-- An interrupt of the radio or a call of its API; `configEvent` says that RAIL reports
  `SL_RAIL_EVENT_CONFIG_SCHEDULED` or `SL_RAIL_EVENT_CONFIG_UNSCHEDULED`. -/
  | radio (event : RadioEvent) (configEvent : Bool)
  | alarm (clock : AlarmClock) (index : ℕ) (event : AlarmEvent)
  | gpioSerialWakeupCallback
  | otPlatUartSend (valid : Bool)
  | otPlatUartFlush
  /-- The innermost call of the UART API goes on. -/
  | continueUartCall (written : Bool)
  /-- The application calls `otSysEventSignalPending`. -/
  | otSysEventSignalPending
  /-- The application changes the answer of `efr32AllowSleepCallback`. -/
  | setAllowSleep (allowSleep : Bool)
  | elapse (duration : ℕ)
  /-- The next step of `otSysProcessDrivers`. -/
  | otSysProcessDrivers (rail : RailResults) (mTimestamp : ℕ) (readOk : Bool)
  /-- The power manager calls `sl_ot_is_ok_to_sleep`. -/
  | slOtIsOkToSleep (view : StackView)

/-- One step. -/
def systemStep (config : SystemConfig) (system : SystemState) : SystemEvent → Option SystemState
  | .radio event configEvent => system.radioEvent config event configEvent
  | .alarm clock index event => system.alarmEvent config clock index event
  | .gpioSerialWakeupCallback =>
    some ({ system with uart := system.uart.gpioSerialWakeupCallback }.slOtSleepUpdate config)
  | .otPlatUartSend valid =>
    if system.canCall then some { system with uart := system.uart.otPlatUartSend valid } else none
  | .otPlatUartFlush =>
    if system.canCall then some { system with uart := system.uart.otPlatUartFlush } else none
  | .continueUartCall written =>
    if system.drivers.radio.isInCall then none
    else
      (system.uart.continueCall written).map fun uart ↦
        { system with uart }.signalIf config system.uart.callSignals
  | .otSysEventSignalPending => some (system.slOtSleepUpdate config)
  | .setAllowSleep allowSleep => some { system with allowSleep }
  | .elapse duration =>
    (gpStep config.radio config.gp system.drivers (.elapse duration)).map fun drivers ↦
      { system with drivers }
  | .otSysProcessDrivers rail mTimestamp readOk =>
    if system.isFree then system.otSysProcessDrivers config rail mTimestamp readOk else none
  | .slOtIsOkToSleep view =>
    if system.location = .outside ∧ system.isFree = true then some (system.checkSleep config view)
    else none

/-- The start, behind `sl_ot_sleep_init` and `sl_ot_sys_init`. -/
def systemInit (config : SystemConfig) (allowSleep : Bool) : SystemState where
  drivers := gpInit config.radio
  allowSleep

/-! ## The steps of `otSysProcessDrivers` -/

namespace SystemState

variable {config : SystemConfig} {system next : SystemState}

/-- What a step of `otSysProcessDrivers` changes before it signals an event, or has none to
signal. -/
structure ProcessStep (system changed : SystemState) (signals : Bool) : Prop where
  sleepChecks : changed.sleepChecks = system.sleepChecks
  sPendingTimeMs : changed.sPendingTimeMs = system.sPendingTimeMs
  /-- `efr32AlarmProcess` takes over callbacks, and no other driver changes the alarms. -/
  alarms : ∀ index, changed.alarms index = system.alarms index ∨
    changed.alarms index = (system.alarms index).processAlarm
  /-- The main loop leaves with a signal. -/
  inside : signals = false → changed.location ≠ .outside

namespace ProcessStep

variable {changed : SystemState} {signals : Bool}

/-- A driver other than that of the alarms. -/
theorem other (hchecks : changed.sleepChecks = system.sleepChecks)
    (hpending : changed.sPendingTimeMs = system.sPendingTimeMs)
    (halarms : changed.alarms = system.alarms) (hinside : changed.location ≠ .outside) :
    ProcessStep system changed signals where
  sleepChecks := hchecks
  sPendingTimeMs := hpending
  alarms index := .inl (congrFun halarms index)
  inside _ := hinside

/-- A driver goes on, or the next one follows. -/
theorem elim_ne_outside {Location : Type*} {leave : SystemLocation}
    {stay : Location → SystemLocation} (hleave : leave ≠ .outside)
    (hstay : ∀ location, stay location ≠ .outside) (location : Option Location) :
    location.elim leave stay ≠ .outside := by
  cases location with
  | none => exact hleave
  | some location => exact hstay location

theorem ite_ne_outside {condition : Prop} [Decidable condition] {left right : SystemLocation}
    (hleft : left ≠ .outside) (hright : right ≠ .outside) :
    (if condition then left else right) ≠ .outside := by
  split
  · exact hleft
  · exact hright

end ProcessStep

/-- Every step of `otSysProcessDrivers` is such a change with its signal. -/
theorem otSysProcessDrivers_step {rail : RailResults} {mTimestamp : ℕ} {readOk : Bool}
    (hstep : system.otSysProcessDrivers config rail mTimestamp readOk = some next) :
    ∃ changed signals, changed.signalIf config signals = next ∧
      ProcessStep system changed signals := by
  unfold SystemState.otSysProcessDrivers at hstep
  split at hstep
  case h_1 | h_2 =>
    obtain rfl := Option.some.inj hstep
    exact ⟨_, false, rfl, .other rfl rfl rfl nofun⟩
  case h_3 =>
    split at hstep
    case isTrue =>
      obtain ⟨drivers, _, rfl⟩ := Option.map_eq_some_iff.mp hstep
      refine ⟨_, _, rfl, .other rfl rfl rfl ?_⟩
      apply ProcessStep.ite_ne_outside <;> exact nofun
    case isFalse =>
      obtain rfl := Option.some.inj hstep
      exact ⟨_, false, rfl, .other rfl rfl rfl nofun⟩
  case h_4 =>
    obtain ⟨drivers, _, rfl⟩ := Option.map_eq_some_iff.mp hstep
    exact ⟨_, false, rfl, .other rfl rfl rfl nofun⟩
  case h_5 =>
    obtain rfl := Option.some.inj hstep
    refine ⟨_, _, rfl, .other rfl rfl rfl ?_⟩
    apply ProcessStep.elim_ne_outside <;> exact nofun
  case h_6 =>
    obtain ⟨drivers, _, rfl⟩ := Option.map_eq_some_iff.mp hstep
    refine ⟨_, _, rfl, .other rfl rfl rfl ?_⟩
    apply ProcessStep.ite_ne_outside <;> exact nofun
  case h_7 location _ =>
    obtain rfl := Option.some.inj hstep
    refine ⟨_, false, rfl, rfl, rfl, ?_, fun _ ↦ ?_⟩
    · exact efr32AlarmProcess_alarms _ _ _ location
    · apply ProcessStep.elim_ne_outside <;> exact nofun
  case h_8 =>
    obtain rfl := Option.some.inj hstep
    exact ⟨{ system with location := .outside }, true, rfl, rfl, rfl, fun _ ↦ .inl rfl, nofun⟩

end SystemState

end OtEfr32.System
