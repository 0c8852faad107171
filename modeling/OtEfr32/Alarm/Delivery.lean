import OtEfr32.Alarm.Process

/-!
# Delivery of the alarm callbacks

`efr32AlarmProcess` at a finer grain: every round of a scan is a step, in `HasAnyAlarmFired` too,
and each call of the stack is put on record with its callback and its instance.  An alarm may fire
between any two steps, and the stack may start and stop alarms in its callbacks and outside
`efr32AlarmProcess`.

`GetNextFiredAlarm` reads a handle before it compares its address with the end of the array.  No
callback is lost or made twice by that, but a scan that finds nothing reads behind the array;
`deliveryLaw_iff` is the exact condition for whole runs.
-/

namespace OtEfr32.Alarm

open Transition

/-- The callbacks that `efr32AlarmProcess` hands to `ProcessAlarm`. -/
inductive StackAlarmCallback where
  | otPlatAlarmMilliFired
  | otPlatDiagAlarmFired
  | otPlatAlarmMicroFired
  deriving DecidableEq, Repr

/-- The clock of the alarms that a callback is for. -/
def StackAlarmCallback.clock : StackAlarmCallback → AlarmClock
  | .otPlatAlarmMilliFired | .otPlatDiagAlarmFired => .milli
  | .otPlatAlarmMicroFired => .micro

/-- A call of the stack.  An instance is named by the index of its handles, and `diagMode` is what
`otPlatDiagModeGet` returned when the callback was chosen. -/
structure AlarmCall where
  callback : StackAlarmCallback
  otInstance : Option ℕ
  diagMode : Bool
  deriving DecidableEq, Repr

/-- The call is made for the alarm behind a handle, with the instance of the handle's index. -/
def AlarmCall.IsFor (call : AlarmCall) (handle : AlarmClock × ℕ) : Prop :=
  call.callback.clock = handle.1 ∧ call.otInstance = some handle.2

instance (call : AlarmCall) : DecidablePred call.IsFor := fun _ ↦
  inferInstanceAs (Decidable (_ ∧ _))

theorem AlarmCall.IsFor.handle_unique {call : AlarmCall} {handle other : AlarmClock × ℕ}
    (h : call.IsFor handle) (hother : call.IsFor other) : other = handle :=
  Prod.ext (hother.1.symm.trans h.1) (Option.some.inj (hother.2.symm.trans h.2))

/-- The choice of `alarmCb`. -/
def alarmCb (diagMode : Bool) : AlarmClock → StackAlarmCallback
  | .milli => if diagMode then .otPlatDiagAlarmFired else .otPlatAlarmMilliFired
  | .micro => .otPlatAlarmMicroFired

/-- Where the main loop stands. -/
inductive DeliveryLocation where
  | outside
  /-- `HasAnyAlarmFired` looks at a handle. -/
  | hasAnyAlarmFired (handle : AlarmClock × ℕ)
  /-- `efr32AlarmProcess` looks at a handle. -/
  | getNextFiredAlarm (handle : AlarmClock × ℕ)
  | processAlarm (handle : AlarmClock × ℕ)
  /-- `ProcessAlarm` is at the head of its loop. -/
  | callbacks (handle : AlarmClock × ℕ) (call : AlarmCall) (numCallbacks : ℕ)
  /-- `ProcessAlarm` is in a callback, with `numCallbacks` more to come. -/
  | inCallback (handle : AlarmClock × ℕ) (call : AlarmCall) (numCallbacks : ℕ)
  deriving DecidableEq, Repr

/-- The configuration of the alarms. -/
structure DeliveryConfig where
  platform : Platform
  /-- `OPENTHREAD_CONFIG_MULTIPLE_INSTANCE_NUM`. -/
  multipleInstanceNum : ℕ
  /-- `OPENTHREAD_CONFIG_PLATFORM_USEC_TIMER_ENABLE`. -/
  usecTimer : Bool

/-- The alarms and the main loop. -/
structure Delivery where
  handles : AlarmTable := efr32AlarmInit
  mThreadInstance : AlarmClock × ℕ → Option ℕ := fun _ ↦ none
  location : DeliveryLocation := .outside
  /-- History: how often the `mFiredCount` of each handle was incremented. -/
  increments : AlarmClock × ℕ → ℕ := fun _ ↦ 0
  /-- History: the calls of the stack, the oldest first. -/
  calls : List AlarmCall := []

/-- The handle that a scan reads next. -/
def DeliveryLocation.inspected : DeliveryLocation → Option (AlarmClock × ℕ)
  | .hasAnyAlarmFired handle | .getNextFiredAlarm handle => some handle
  | _ => none

/-- The callbacks that `ProcessAlarm` has taken over from a handle and not made yet. -/
def DeliveryLocation.takenOver (location : DeliveryLocation) (handle : AlarmClock × ℕ) : ℕ :=
  match location with
  | .callbacks other _ numCallbacks | .inCallback other _ numCallbacks =>
    if handle = other then numCallbacks else 0
  | _ => 0

/-- One round of the loop of `GetNextFiredAlarm`: `none` if it goes on to the next handle, otherwise
what the function returns.  The handle is read before its index is compared. -/
def getNextFiredAlarm (num : ℕ) (handles : AlarmTable) (handle : AlarmClock × ℕ) :
    Option (Option (AlarmClock × ℕ)) :=
  if (handles handle).mFiredCount = 0 ∧ handle.2 < num then none
  else if num ≤ handle.2 then some none
  else some (some handle)

namespace Delivery

variable (config : DeliveryConfig) (state : Delivery)

/-- The stack runs. -/
def canCall : Bool :=
  match state.location with
  | .outside | .inCallback .. => true
  | _ => false

/-- `mThreadInstance`, which a start sets if it is `NULL`. -/
def setThreadInstance (handle : AlarmClock × ℕ) : AlarmEvent → AlarmClock × ℕ → Option ℕ
  | .startAt .. => Function.update state.mThreadInstance handle
      ((state.mThreadInstance handle).or (some handle.2))
  | _ => state.mThreadInstance

/-- A call for an alarm handle, or the expiry of its timer. -/
def alarmEvent (handle : AlarmClock × ℕ) (event : AlarmEvent) : Option Delivery :=
  if event = .process ∨ config.multipleInstanceNum ≤ handle.2 ∨
      (event ≠ .expiry ∧ state.canCall = false) then none
  else
    let alarm := state.handles handle
    (alarmStep config.platform alarm event).map fun next ↦
      { state with
        handles := Function.update state.handles handle next
        mThreadInstance := state.setThreadInstance handle event
        increments := Function.update state.increments handle
          (state.increments handle + if alarm.fires config.platform event then 1 else 0) }

/-- The next step of `efr32AlarmProcess`. -/
def efr32AlarmProcess (diagMode : Bool) : Delivery :=
  match state.location with
  | .outside => { state with location := .hasAnyAlarmFired (.milli, 0) }
  | .hasAnyAlarmFired handle =>
    match getNextFiredAlarm config.multipleInstanceNum state.handles handle with
    | none => { state with location := .hasAnyAlarmFired (handle.1, handle.2 + 1) }
    | some none =>
      { state with
        location := if handle.1 = .milli then .hasAnyAlarmFired (.micro, 0) else .outside }
    | some (some _) => { state with location := .getNextFiredAlarm (.milli, 0) }
  | .getNextFiredAlarm handle =>
    match getNextFiredAlarm config.multipleInstanceNum state.handles handle with
    | none => { state with location := .getNextFiredAlarm (handle.1, handle.2 + 1) }
    | some none =>
      { state with
        location := if handle.1 = .milli ∧ config.usecTimer = true then
          .getNextFiredAlarm (.micro, 0) else .outside }
    | some (some fired) => { state with location := .processAlarm fired }
  | .processAlarm handle =>
    let call :=
      { callback := alarmCb diagMode handle.1
        otInstance := state.mThreadInstance handle
        diagMode }
    { state with
      handles := Function.update state.handles handle (state.handles handle).processAlarm
      location := .callbacks handle call (state.handles handle).mFiredCount }
  | .callbacks handle _ 0 => { state with location := .getNextFiredAlarm handle }
  | .callbacks handle call (numCallbacks + 1) =>
    { state with
      calls := state.calls ++ [call]
      location := .inCallback handle call numCallbacks }
  | .inCallback handle call numCallbacks =>
    { state with location := .callbacks handle call numCallbacks }

/-- The calls for the alarm behind a handle. -/
def delivered (handle : AlarmClock × ℕ) : ℕ := state.calls.countP fun call ↦ call.IsFor handle

/-- The callbacks of a handle that have not been made yet. -/
def pending (handle : AlarmClock × ℕ) : ℕ :=
  (state.handles handle).mFiredCount + state.location.takenOver handle

end Delivery

/-- What can happen next: a call of the alarm API or an expiry, or a step of the main loop. -/
inductive DeliveryEvent where
  | alarm (handle : AlarmClock × ℕ) (event : AlarmEvent)
  | efr32AlarmProcess (diagMode : Bool)
  deriving DecidableEq, Repr

/-- One step. -/
def deliveryStep (config : DeliveryConfig) (state : Delivery) : DeliveryEvent → Option Delivery
  | .alarm handle event => state.alarmEvent config handle event
  | .efr32AlarmProcess diagMode => some (state.efr32AlarmProcess config diagMode)

namespace Delivery

/-- What is said of every state: each increment is delivered once or pending, every call is made
with the instance of an enabled handle, with the diagnostic callback in diagnostic mode only, and
the scans look at enabled handles only. -/
structure DeliveryLaw (num : ℕ) (state : Delivery) : Prop where
  delivered : ∀ handle, state.delivered handle + state.pending handle = state.increments handle
  instances : ∀ call ∈ state.calls, ∃ index < num, call.otInstance = some index
  callbacks : ∀ call ∈ state.calls,
    call.callback = .otPlatDiagAlarmFired → call.diagMode = true
  inspected : ∀ handle ∈ state.location.inspected, handle.2 < num

/-- A scan does not find the last handle of its array unfired. -/
def ScanFindsFired (config : DeliveryConfig) (state : Delivery) : DeliveryEvent → Prop
  | .alarm .. => True
  | .efr32AlarmProcess _ => ∀ handle ∈ state.location.inspected,
    handle.2 + 1 = config.multipleInstanceNum → (state.handles handle).mFiredCount ≠ 0

instance (config : DeliveryConfig) : ∀ state event, Decidable (ScanFindsFired config state event)
  | _, .alarm .. => .isTrue trivial
  | state, .efr32AlarmProcess _ =>
    inferInstanceAs (Decidable (∀ handle ∈ state.location.inspected, _))

/-! ## Counting -/

/-- An event of a handle other than `ProcessAlarm` counts up exactly if it fires. -/
theorem alarmStep_mFiredCount {platform : Platform} {alarm next : AlarmHandle} {event : AlarmEvent}
    (hstep : alarmStep platform alarm event = some next) (hprocess : event ≠ .process) :
    next.mFiredCount = alarm.mFiredCount + if alarm.fires platform event then 1 else 0 := by
  cases hfires : alarm.fires platform event with
  | false => exact AlarmHandle.mFiredCount_of_not_fires hstep hprocess hfires
  | true =>
    cases event with
    | startAt aT0 aDt now =>
      obtain rfl := Option.some.inj hstep
      obtain ⟨haccess, hdue⟩ : platform.canAccessPal = true ∧ remainingTime aT0 aDt now ≤ 0 := by
        simpa [AlarmHandle.fires] using hfires
      exact (startAlarmAt_due haccess alarm hdue).fired
    | stop => exact absurd hfires Bool.false_ne_true
    | expiry =>
      obtain ⟨harmed, _⟩ := Option.ite_none_right_eq_some.mp hstep
      have hlast : alarm.mWrapData.overflowMax ≤ alarm.mWrapData.overflowCounter := by
        simpa [AlarmHandle.fires, AlarmHandle.isAlarmOverflowInProgress] using hfires
      obtain ⟨final, hfinal, hfired⟩ := alarmStep_expiry_last platform harmed hlast
      obtain rfl := Option.some.inj (hstep.symm.trans hfinal)
      exact hfired.fired
    | process => exact absurd rfl hprocess

/-- A handle that was never started stays as it is until its first start. -/
theorem alarmStep_unset {platform : Platform} {alarm next : AlarmHandle} {event : AlarmEvent}
    (hstep : alarmStep platform alarm event = some next)
    (hstart : ∀ aT0 aDt now, event ≠ .startAt aT0 aDt now)
    (hunset : alarm.timer.armed = none ∧ alarm.mFiredCount = 0) :
    next.timer.armed = none ∧ next.mFiredCount = 0 := by
  cases event with
  | startAt aT0 aDt now => exact absurd rfl (hstart aT0 aDt now)
  | stop =>
    obtain rfl := Option.some.inj hstep
    refine ⟨?_, (stopActiveAlarm_frame platform alarm).2.1.trans hunset.2⟩
    unfold AlarmHandle.stopActiveAlarm
    split
    · rfl
    · exact hunset.1
  | expiry => simp [alarmStep, AlarmHandle.expiry, hunset.1] at hstep
  | process =>
    obtain rfl := Option.some.inj hstep
    exact ⟨hunset.1, rfl⟩

/-! ## The invariant -/

/-- What the main loop has at its place: a handle that it takes up belongs to an instance, and the
call that it makes for a handle is one for that instance. -/
def LocationSound (num : ℕ) (mThreadInstance : AlarmClock × ℕ → Option ℕ) :
    DeliveryLocation → Prop
  | .processAlarm handle => handle.2 < num ∧ mThreadInstance handle ≠ none
  | .callbacks handle call _ | .inCallback handle call _ =>
    handle.2 < num ∧ call.IsFor handle ∧
      (call.callback = .otPlatDiagAlarmFired → call.diagMode = true)
  | _ => True

theorem LocationSound.mono {num : ℕ} {threads threads' : AlarmClock × ℕ → Option ℕ}
    {location : DeliveryLocation} (h : LocationSound num threads location)
    (hthreads : ∀ handle, threads handle ≠ none → threads' handle ≠ none) :
    LocationSound num threads' location := by
  cases location with
  | processAlarm handle => exact ⟨h.1, hthreads handle h.2⟩
  | outside | hasAnyAlarmFired | getNextFiredAlarm | callbacks | inCallback => exact h

/-- The invariant of every run. -/
structure Accounted (num : ℕ) (state : Delivery) : Prop where
  delivered : ∀ handle, state.delivered handle + state.pending handle = state.increments handle
  instances : ∀ call ∈ state.calls, ∃ index < num, call.otInstance = some index
  callbacks : ∀ call ∈ state.calls,
    call.callback = .otPlatDiagAlarmFired → call.diagMode = true
  /-- A handle belongs to no other instance than that of its index. -/
  owner : ∀ handle owner, state.mThreadInstance handle = some owner → owner = handle.2
  unset : ∀ handle, state.mThreadInstance handle = none →
    (state.handles handle).timer.armed = none ∧ (state.handles handle).mFiredCount = 0
  location : LocationSound num state.mThreadInstance state.location

variable {config : DeliveryConfig} {state next : Delivery} {handle : AlarmClock × ℕ}

theorem delivery_accounted (num : ℕ) : Accounted num {} where
  delivered _ := rfl
  instances _ hmem := absurd hmem List.not_mem_nil
  callbacks _ hmem := absurd hmem List.not_mem_nil
  owner _ _ hset := absurd hset nofun
  unset _ _ := ⟨rfl, rfl⟩
  location := trivial

/-- A thread instance is not cleared, and a start sets it. -/
theorem setThreadInstance_cases (state : Delivery) (handle other : AlarmClock × ℕ)
    (event : AlarmEvent) :
    state.setThreadInstance handle event other = state.mThreadInstance other ∨
      (other = handle ∧ state.setThreadInstance handle event other = some handle.2) := by
  unfold setThreadInstance
  split
  case h_1 =>
    by_cases hother : other = handle
    · subst hother
      rw [Function.update_self]
      cases howner : state.mThreadInstance other with
      | none => exact .inr ⟨rfl, rfl⟩
      | some owner => exact .inl rfl
    · exact .inl (Function.update_of_ne hother _ _)
  case h_2 => exact .inl rfl

/-- The handle of a start belongs to an instance afterwards. -/
theorem setThreadInstance_startAt_ne_none (state : Delivery) (handle : AlarmClock × ℕ)
    (aT0 aDt now : UInt32) :
    state.setThreadInstance handle (.startAt aT0 aDt now) handle ≠ none := by
  simp only [setThreadInstance, Function.update_self]
  cases state.mThreadInstance handle <;> simp

theorem Accounted.alarmEvent {num : ℕ} {event : AlarmEvent} (h : state.Accounted num)
    (hstep : state.alarmEvent config handle event = some next) : next.Accounted num := by
  obtain ⟨hguard, hstep⟩ := Option.ite_none_left_eq_some.mp hstep
  obtain ⟨alarm, halarm, rfl⟩ := Option.map_eq_some_iff.mp hstep
  have hcount := alarmStep_mFiredCount halarm fun heq ↦ hguard (.inl heq)
  have howner := state.setThreadInstance_cases handle
  constructor
  case delivered =>
    intro other
    have hbefore := h.delivered other
    change state.delivered other + ((Function.update state.handles handle alarm other).mFiredCount +
      state.location.takenOver other) = Function.update state.increments handle _ other
    by_cases hother : other = handle
    · subst hother
      rw [Function.update_self, Function.update_self, hcount, ← hbefore, pending]
      omega
    · rw [Function.update_of_ne hother, Function.update_of_ne hother, ← hbefore, pending]
  case instances => exact h.instances
  case callbacks => exact h.callbacks
  case owner =>
    intro other owner hset
    obtain hsame | ⟨rfl, hnew⟩ := howner other event
    · exact h.owner other owner (hsame.symm.trans hset)
    · exact (Option.some.inj (hnew.symm.trans hset)).symm
  case unset =>
    intro other hnone
    have hbefore : state.mThreadInstance other = none := by
      obtain hsame | ⟨_, hnew⟩ := howner other event
      · exact hsame.symm.trans hnone
      · exact absurd (hnew.symm.trans hnone) nofun
    change (Function.update state.handles handle alarm other).timer.armed = none ∧
      (Function.update state.handles handle alarm other).mFiredCount = 0
    by_cases hother : other = handle
    · subst hother
      rw [Function.update_self]
      refine alarmStep_unset halarm ?_ (h.unset other hbefore)
      rintro aT0 aDt now rfl
      exact state.setThreadInstance_startAt_ne_none other aT0 aDt now hnone
    · rw [Function.update_of_ne hother]
      exact h.unset other hbefore
  case location =>
    refine h.location.mono fun other hset hnone ↦ hset ?_
    obtain hsame | ⟨_, hnew⟩ := howner other event
    · exact hsame.symm.trans hnone
    · exact absurd (hnew.symm.trans hnone) nofun

/-- The main loop goes on, without taking over or making callbacks. -/
theorem Accounted.move {num : ℕ} {location : DeliveryLocation} (h : state.Accounted num)
    (hsound : LocationSound num state.mThreadInstance location)
    (htaken : ∀ handle, location.takenOver handle = state.location.takenOver handle) :
    { state with location }.Accounted num where
  delivered handle := by
    rw [← h.delivered handle, pending, pending, ← htaken handle]
    rfl
  instances := h.instances
  callbacks := h.callbacks
  owner := h.owner
  unset := h.unset
  location := hsound

/-- What a scan returns is an enabled handle that has fired. -/
theorem getNextFiredAlarm_eq_some {num : ℕ} {handles : AlarmTable} {fired : AlarmClock × ℕ}
    (hscan : getNextFiredAlarm num handles handle = some (some fired)) :
    fired = handle ∧ handle.2 < num ∧ (handles handle).mFiredCount ≠ 0 := by
  unfold getNextFiredAlarm at hscan
  split at hscan
  case isTrue => exact absurd hscan nofun
  case isFalse hround =>
    split at hscan
    case isTrue => exact absurd (Option.some.inj hscan) nofun
    case isFalse hbound =>
      have hlt : handle.2 < num := Nat.not_le.mp hbound
      exact ⟨(Option.some.inj (Option.some.inj hscan)).symm, hlt, fun hzero ↦ hround ⟨hzero, hlt⟩⟩

theorem Accounted.processAlarm {num : ℕ} {call : AlarmCall} (h : state.Accounted num)
    (hlocation : state.location = .processAlarm handle) (hbound : handle.2 < num)
    (hcall : call.IsFor handle)
    (hdiag : call.callback = .otPlatDiagAlarmFired → call.diagMode = true) :
    { state with
      handles := Function.update state.handles handle (state.handles handle).processAlarm
      location := .callbacks handle call (state.handles handle).mFiredCount }.Accounted num where
  delivered other := by
    have hbefore := h.delivered other
    rw [pending, hlocation] at hbefore
    have hmoved : (Function.update state.handles handle
          (state.handles handle).processAlarm other).mFiredCount +
        (if other = handle then (state.handles handle).mFiredCount else 0) =
        (state.handles other).mFiredCount + 0 := by
      by_cases hother : other = handle
      · subst hother
        rw [Function.update_self, if_pos rfl, AlarmHandle.processAlarm, Nat.zero_add, Nat.add_zero]
      · rw [Function.update_of_ne hother, if_neg hother]
    calc
      _ = state.delivered other + ((state.handles other).mFiredCount + 0) :=
        congrArg (state.delivered other + ·) hmoved
      _ = state.increments other := hbefore
  instances := h.instances
  callbacks := h.callbacks
  owner := h.owner
  unset other hnone := by
    change (Function.update state.handles handle _ other).timer.armed = none ∧
      (Function.update state.handles handle _ other).mFiredCount = 0
    by_cases hother : other = handle
    · subst hother
      rw [Function.update_self]
      exact ⟨(h.unset other hnone).1, rfl⟩
    · rw [Function.update_of_ne hother]
      exact h.unset other hnone
  location := ⟨hbound, hcall, hdiag⟩

/-- A callback is made. -/
theorem Accounted.callback {num : ℕ} {call : AlarmCall} {numCallbacks : ℕ}
    (h : state.Accounted num)
    (hlocation : state.location = .callbacks handle call (numCallbacks + 1)) :
    { state with
      calls := state.calls ++ [call]
      location := .inCallback handle call numCallbacks }.Accounted num := by
  have hsound := h.location
  rw [hlocation] at hsound
  obtain ⟨hbound, hcall, hdiag⟩ := hsound
  constructor
  case delivered =>
    intro other
    have hbefore := h.delivered other
    rw [pending, hlocation] at hbefore
    calc
      _ = (state.calls ++ [call]).countP (fun call ↦ call.IsFor other) +
          ((state.handles other).mFiredCount + if other = handle then numCallbacks else 0) := rfl
      _ = state.delivered other + ((state.handles other).mFiredCount +
          if other = handle then numCallbacks + 1 else 0) := by
        rw [List.countP_append, List.countP_singleton, Delivery.delivered]
        by_cases hother : other = handle
        · subst hother
          rw [if_pos rfl, if_pos rfl, if_pos (decide_eq_true hcall)]
          omega
        · have hnot : ¬ call.IsFor other := fun hfor ↦ hother (hcall.handle_unique hfor)
          rw [if_neg hother, if_neg hother, if_neg (by simpa using hnot)]
          omega
      _ = state.increments other := hbefore
  case instances =>
    rw [List.forall_mem_append, List.forall_mem_singleton]
    exact ⟨h.instances, handle.2, hbound, hcall.2⟩
  case callbacks =>
    rw [List.forall_mem_append, List.forall_mem_singleton]
    exact ⟨h.callbacks, hdiag⟩
  case owner => exact h.owner
  case unset => exact h.unset
  case location => exact ⟨hbound, hcall, hdiag⟩

theorem alarmCb_clock (diagMode : Bool) (clock : AlarmClock) :
    (alarmCb diagMode clock).clock = clock := by
  cases clock <;> cases diagMode <;> rfl

theorem alarmCb_diag {diagMode : Bool} {clock : AlarmClock}
    (hdiag : alarmCb diagMode clock = .otPlatDiagAlarmFired) : diagMode = true := by
  cases clock <;> cases diagMode <;> first | rfl | exact absurd hdiag (by decide)

theorem Accounted.efr32AlarmProcess (h : state.Accounted config.multipleInstanceNum)
    (diagMode : Bool) :
    (state.efr32AlarmProcess config diagMode).Accounted config.multipleInstanceNum := by
  have hsound := h.location
  have hidle : ∀ {location}, state.location = location →
      (∀ handle, location.takenOver handle = 0) →
        ∀ handle, 0 = state.location.takenOver handle := by
    rintro _ rfl hnothing handle
    exact (hnothing handle).symm
  unfold Delivery.efr32AlarmProcess
  split
  case h_1 hlocation => exact h.move trivial (hidle hlocation fun _ ↦ rfl)
  case h_2 hlocation =>
    split
    · exact h.move trivial (hidle hlocation fun _ ↦ rfl)
    · split
      · exact h.move trivial (hidle hlocation fun _ ↦ rfl)
      · exact h.move trivial (hidle hlocation fun _ ↦ rfl)
    · exact h.move trivial (hidle hlocation fun _ ↦ rfl)
  case h_3 handle hlocation =>
    split
    case h_1 => exact h.move trivial (hidle hlocation fun _ ↦ rfl)
    case h_2 =>
      split
      · exact h.move trivial (hidle hlocation fun _ ↦ rfl)
      · exact h.move trivial (hidle hlocation fun _ ↦ rfl)
    case h_3 fired hscan =>
      obtain ⟨rfl, hbound, hfired⟩ := getNextFiredAlarm_eq_some hscan
      have howned : state.mThreadInstance fired ≠ none := fun hnone ↦
        hfired (h.unset fired hnone).2
      exact h.move ⟨hbound, howned⟩ (hidle hlocation fun _ ↦ rfl)
  case h_4 handle hlocation =>
    rw [hlocation] at hsound
    obtain ⟨owner, howner⟩ := Option.ne_none_iff_exists'.mp hsound.2
    obtain rfl := h.owner handle owner howner
    exact h.processAlarm hlocation hsound.1 ⟨alarmCb_clock diagMode _, howner⟩ alarmCb_diag
  case h_5 hlocation =>
    refine h.move trivial fun other ↦ ?_
    rw [hlocation]
    exact (ite_self 0).symm
  case h_6 hlocation => exact h.callback hlocation
  case h_7 handle call numCallbacks hlocation =>
    rw [hlocation] at hsound
    exact h.move hsound fun other ↦ by rw [hlocation]; rfl

theorem Accounted.step {event : DeliveryEvent} (h : state.Accounted config.multipleInstanceNum)
    (hstep : deliveryStep config state event = some next) :
    next.Accounted config.multipleInstanceNum := by
  cases event with
  | alarm handle event => exact h.alarmEvent hstep
  | efr32AlarmProcess diagMode =>
    obtain rfl := Option.some.inj hstep
    exact h.efr32AlarmProcess diagMode

/-! ## The scans -/

/-- A round at an enabled handle goes on if the handle has not fired, and returns it otherwise. -/
theorem getNextFiredAlarm_enabled {num : ℕ} (handles : AlarmTable) (hbound : handle.2 < num) :
    getNextFiredAlarm num handles handle =
      if (handles handle).mFiredCount = 0 then none else some (some handle) := by
  unfold getNextFiredAlarm
  rw [if_neg (Nat.not_le.mpr hbound)]
  simp only [hbound, and_true]

/-- A step of the main loop keeps the scans within the array exactly under the condition. -/
theorem inspected_iff (hnum : 0 < config.multipleInstanceNum)
    (haccounted : state.Accounted config.multipleInstanceNum)
    (hinspected : ∀ handle ∈ state.location.inspected, handle.2 < config.multipleInstanceNum)
    (diagMode : Bool) :
    (∀ handle ∈ (state.efr32AlarmProcess config diagMode).location.inspected,
        handle.2 < config.multipleInstanceNum) ↔
      ScanFindsFired config state (.efr32AlarmProcess diagMode) := by
  have hsound := haccounted.location
  unfold Delivery.efr32AlarmProcess ScanFindsFired
  split
  case h_1 hlocation =>
    rw [hlocation]
    simp [DeliveryLocation.inspected, hnum]
  case h_2 handle hlocation =>
    rw [hlocation] at hinspected ⊢
    have hbound := hinspected handle rfl
    rw [getNextFiredAlarm_enabled _ hbound]
    by_cases hfired : (state.handles handle).mFiredCount = 0
    · simp [DeliveryLocation.inspected, hfired]
      omega
    · simp [DeliveryLocation.inspected, hfired, hnum]
  case h_3 handle hlocation =>
    rw [hlocation] at hinspected ⊢
    have hbound := hinspected handle rfl
    rw [getNextFiredAlarm_enabled _ hbound]
    by_cases hfired : (state.handles handle).mFiredCount = 0
    · simp [DeliveryLocation.inspected, hfired]
      omega
    · simp [DeliveryLocation.inspected, hfired]
  case h_5 handle call hlocation =>
    rw [hlocation] at hsound ⊢
    simp [DeliveryLocation.inspected, hsound.1]
  case h_4 | h_6 | h_7 =>
    rename_i hlocation
    rw [hlocation]
    simp [DeliveryLocation.inspected]

/-- An alarm event leaves the main loop where it is. -/
theorem alarmEvent_location {event : AlarmEvent}
    (hstep : state.alarmEvent config handle event = some next) :
    next.location = state.location := by
  obtain ⟨_, hstep⟩ := Option.ite_none_left_eq_some.mp hstep
  obtain ⟨_, _, rfl⟩ := Option.map_eq_some_iff.mp hstep
  rfl

/-- What the law asks for beyond the invariant is that the scans look at enabled handles only. -/
theorem Accounted.deliveryLaw {num : ℕ} (h : state.Accounted num)
    (hinspected : ∀ handle ∈ state.location.inspected, handle.2 < num) : DeliveryLaw num state where
  delivered := h.delivered
  instances := h.instances
  callbacks := h.callbacks
  inspected := hinspected

theorem inspected_step_iff {event : DeliveryEvent} (hnum : 0 < config.multipleInstanceNum)
    (haccounted : state.Accounted config.multipleInstanceNum)
    (hinspected : ∀ handle ∈ state.location.inspected, handle.2 < config.multipleInstanceNum)
    (hstep : deliveryStep config state event = some next) :
    (∀ handle ∈ next.location.inspected, handle.2 < config.multipleInstanceNum) ↔
      ScanFindsFired config state event := by
  cases event with
  | alarm handle event =>
    rw [alarmEvent_location hstep]
    exact iff_of_true hinspected trivial
  | efr32AlarmProcess diagMode =>
    obtain rfl := Option.some.inj hstep
    exact inspected_iff hnum haccounted hinspected diagMode

/-! ## The coarser main loop -/

/-- The place in the main loop of coarser grain, past `HasAnyAlarmFired`. -/
def coarse : DeliveryLocation → Option AlarmLocation
  | .outside | .hasAnyAlarmFired _ => none
  | .getNextFiredAlarm handle => some (.getNextFiredAlarm handle.1 handle.2)
  | .processAlarm handle => some (.processAlarm handle.1 handle.2)
  | .callbacks handle _ numCallbacks => some (.callbacks handle.1 handle.2 numCallbacks)
  | .inCallback handle _ numCallbacks => some (.inCallback handle.1 handle.2 numCallbacks)

/-- Past `HasAnyAlarmFired` the main loop is the one of coarser grain: what a scan reads behind the
array does not matter. -/
theorem efr32AlarmProcess_coarse {location : AlarmLocation}
    (hlocation : coarse state.location = some location) (diagMode : Bool) :
    Alarm.efr32AlarmProcess config.multipleInstanceNum config.usecTimer state.handles location =
      ((state.efr32AlarmProcess config diagMode).handles,
        coarse (state.efr32AlarmProcess config diagMode).location) := by
  cases hfine : state.location with
  | outside => exact absurd hlocation (by rw [hfine]; exact nofun)
  | hasAnyAlarmFired => exact absurd hlocation (by rw [hfine]; exact nofun)
  | getNextFiredAlarm handle =>
    rw [hfine] at hlocation
    obtain rfl := Option.some.inj hlocation
    simp only [Alarm.efr32AlarmProcess, Delivery.efr32AlarmProcess, hfine]
    by_cases hbound : handle.2 < config.multipleInstanceNum
    · rw [getNextFiredAlarm_enabled _ hbound, if_pos hbound]
      by_cases hfired : (state.handles handle).mFiredCount = 0
      · simp [hfired, coarse]
      · simp [hfired, coarse]
    · have hend :
          getNextFiredAlarm config.multipleInstanceNum state.handles handle = some none := by
        simp [getNextFiredAlarm, hbound]
      rw [hend, if_neg hbound]
      by_cases hnext : handle.1 = .milli ∧ config.usecTimer = true
      · simp [hnext, coarse]
      · simp [hnext, coarse]
  | processAlarm handle =>
    rw [hfine] at hlocation
    obtain rfl := Option.some.inj hlocation
    simp only [Alarm.efr32AlarmProcess, Delivery.efr32AlarmProcess, hfine, coarse]
  | callbacks handle call numCallbacks =>
    rw [hfine] at hlocation
    obtain rfl := Option.some.inj hlocation
    cases numCallbacks <;>
      simp only [Alarm.efr32AlarmProcess, Delivery.efr32AlarmProcess, hfine, coarse]
  | inCallback handle call numCallbacks =>
    rw [hfine] at hlocation
    obtain rfl := Option.some.inj hlocation
    simp only [Alarm.efr32AlarmProcess, Delivery.efr32AlarmProcess, hfine, coarse]

end Delivery

open Delivery

/-- In every run the callbacks are delivered exactly once and the scans stay within the arrays,
exactly when no scan finds the last handle of its array unfired. -/
theorem deliveryLaw_iff (config : DeliveryConfig) (hnum : 0 < config.multipleInstanceNum)
    (labels : List DeliveryEvent) (final : Delivery)
    (hrun : exec (deliveryStep config) {} labels = some final) :
    Throughout (deliveryStep config) (DeliveryLaw config.multipleInstanceNum) {} labels ↔
      Along (deliveryStep config) (ScanFindsFired config) {} labels := by
  let inv (state : Delivery) : Prop := state.Accounted config.multipleInstanceNum ∧
    ∀ handle ∈ state.location.inspected, handle.2 < config.multipleInstanceNum
  have hinit : inv {} := ⟨delivery_accounted _, fun _ hmem ↦ absurd hmem nofun⟩
  refine throughout_iff_along (fun state h ↦ h.1.deliveryLaw h.2) ?_ ?_ hinit hrun
  · rintro state event next ⟨haccounted, hinspected⟩ hcondition hstep
    exact ⟨haccounted.step hstep,
      (inspected_step_iff hnum haccounted hinspected hstep).mpr hcondition⟩
  · rintro state event next ⟨haccounted, hinspected⟩ hcondition hstep hlaw
    exact hcondition ((inspected_step_iff hnum haccounted hinspected hstep).mp hlaw.inspected)

/-- Two instances. -/
def twoInstances : DeliveryConfig where
  platform := platform32768
  multipleInstanceNum := 2
  usecTimer := true

/-- Some steps of the main loop. -/
def processSteps (steps : ℕ) : List DeliveryEvent :=
  List.replicate steps (.efr32AlarmProcess false)

/-- The second instance starts an alarm that is due, again in the callback, and the second callback
is made. -/
def deliveryRun : List DeliveryEvent :=
  .alarm (.milli, 1) (.startAt 100 5 105) :: processSteps 7 ++
    .alarm (.milli, 1) (.startAt 105 0 105) :: processSteps 5

theorem deliveryLaw_iff_deliveryRun :
    ((exec (deliveryStep twoInstances) {} deliveryRun).map fun state ↦ state.calls) =
        some [⟨.otPlatAlarmMilliFired, some 1, false⟩, ⟨.otPlatAlarmMilliFired, some 1, false⟩] ∧
      Throughout (deliveryStep twoInstances) (DeliveryLaw 2) {} deliveryRun :=
  ⟨by decide, (deliveryLaw_iff twoInstances (by decide) deliveryRun _
    (Option.some_get (by decide)).symm).mpr (by decide)⟩

/-- No alarm has fired, and the scan reads behind the last handle. -/
theorem not_deliveryLaw_idle :
    ¬ ∀ labels final, exec (deliveryStep twoInstances) {} labels = some final →
      Throughout (deliveryStep twoInstances) (DeliveryLaw 2) {} labels := by
  intro h
  have hlaw := (h (processSteps 3) _ rfl).last rfl
  exact absurd (hlaw.inspected (.milli, 2) rfl) (by decide)

end OtEfr32.Alarm
