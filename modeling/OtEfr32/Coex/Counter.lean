import Mathlib.Algebra.Group.Nat.Defs
import Mathlib.Data.Nat.Notation
import Mathlib.Logic.Function.Basic
import OtEfr32.Transition.Indexed

/-!
# Coexistence metrics

Model of `radio_coex.c`.  RAIL reports what becomes of the requests for the shared antenna, and
`sl_rail_util_coex_ot_events` counts it.  The function selects the metrics and the total of the
direction of the event; the timestamp of the latest request and the stop flag are those of both
directions.  What it selects is a `CoexView`.
-/

namespace OtEfr32.Coex

open Transition

/-- The direction of an event: `isTxEvent`. -/
inductive Direction where
  | tx
  | rx
  deriving DecidableEq, Repr

/-- `coexEvent`, with `other` for the values that the switch does not name. -/
inductive CoexEvent where
  | requested
  | grantedImmediate
  | granted
  | denied
  | grantAborted
  | other
  deriving DecidableEq, Repr

/-- The indices of the metrics of a direction: `SL_OT_COEX_EVENT_REQUEST_COUNT` and its
siblings. -/
inductive CoexMetric where
  | requestCount
  | grantImmediateCount
  | grantWaitCount
  | grantWaitActivatedCount
  | grantWaitTimeoutCount
  | grantDeactivatedDuringRequestCount
  | delayedGrantCount
  | avgRequestToGrantTime
  deriving DecidableEq, Repr

/-- An event of one direction, and what `otPlatAlarmMicroGetNow` returns meanwhile. -/
structure CoexCall where
  coexEvent : CoexEvent
  now : UInt32
  deriving DecidableEq, Repr

/-- What `sl_rail_util_coex_ot_events` reads and writes for an event. -/
structure CoexView where
  metrics : CoexMetric → UInt32 := fun _ ↦ 0
  totalReqToGrantDuration : UInt64 := 0
  timestamp : UInt32 := 0
  mStopped : Bool := false

namespace CoexView

variable (view : CoexView)

/-- `SL_INCREMENT_IF_NO_OVERFLOW`; an error is the jump to `exit`. -/
def incrementIfNoOverflow (var : CoexMetric) (val incr : UInt32) : Except CoexView CoexView :=
  if view.metrics var ≤ val + incr then
    .ok { view with metrics := Function.update view.metrics var (val + incr) }
  else .error { view with mStopped := true }

/-- `SL_INCREMENT_IF_NO_OVERFLOW` of a counter by one. -/
def countOne (var : CoexMetric) : Except CoexView CoexView :=
  view.incrementIfNoOverflow var (view.metrics var) 1

/-- The switch over `coexEvent`. -/
def switchEvent (call : CoexCall) : Except CoexView CoexView :=
  match call.coexEvent with
  | .grantedImmediate => view.countOne .grantImmediateCount
  | .requested => countOne { view with timestamp := call.now } .requestCount
  | .granted => do
    let reqToGrantDuration := call.now - view.timestamp
    let view ← view.countOne .grantWaitActivatedCount
    let view ← if reqToGrantDuration > 50 then view.countOne .delayedGrantCount else .ok view
    .ok { view with
      totalReqToGrantDuration :=
        view.totalReqToGrantDuration + reqToGrantDuration.toUInt64 }
  | .denied => view.countOne .grantWaitTimeoutCount
  | .grantAborted => view.countOne .grantDeactivatedDuringRequestCount
  | .other => .ok view

/-- The last increment of `sl_rail_util_coex_ot_events`. -/
def sumGrantWaits : Except CoexView CoexView :=
  view.incrementIfNoOverflow .grantWaitCount (view.metrics .grantWaitTimeoutCount)
    (view.metrics .grantWaitActivatedCount)

/-- The last statement of `sl_rail_util_coex_ot_events`; it is `none` for a division by zero. -/
def storeAverage : Option CoexView :=
  if view.metrics .requestCount = 0 then none
  else
    some { view with
      metrics := Function.update view.metrics .avgRequestToGrantTime
        (view.totalReqToGrantDuration / (view.metrics .requestCount).toUInt64).toUInt32 }

/-- The end of `sl_rail_util_coex_ot_events`: a jump to `exit` passes the last statement. -/
def finish : Except CoexView CoexView → Option CoexView
  | .error view => some view
  | .ok view => view.storeAverage

/-- `sl_rail_util_coex_ot_events` on what it selects. -/
def slRailUtilCoexOtEvents (call : CoexCall) : Option CoexView :=
  if view.mStopped then some view
  else finish ((view.switchEvent call).bind sumGrantWaits)

end CoexView

/-- `sl_ot_coex_counter_t`.

The last fields are the history: the time of the latest request of each direction, and the
direction of the event that has set `mStopped`. -/
structure CoexCounter where
  metrics : Direction → CoexMetric → UInt32 := fun _ _ ↦ 0
  totalReqToGrantDuration : Direction → UInt64 := fun _ ↦ 0
  timestamp : UInt32 := 0
  mStopped : Bool := false
  latestRequest : Direction → UInt32 := fun _ ↦ 0
  stoppedBy : Option Direction := none

/-- `sli_radio_coex_reset`. -/
def sliRadioCoexReset : CoexCounter := {}

namespace CoexCounter

variable (counter : CoexCounter)

/-- What an event of a direction selects. -/
def view (direction : Direction) : CoexView where
  metrics := counter.metrics direction
  totalReqToGrantDuration := counter.totalReqToGrantDuration direction
  timestamp := counter.timestamp
  mStopped := counter.mStopped

/-- Write back what an event of a direction has selected. -/
def setView (direction : Direction) (view : CoexView) : CoexCounter :=
  { counter with
    metrics := Function.update counter.metrics direction view.metrics
    totalReqToGrantDuration :=
      Function.update counter.totalReqToGrantDuration direction view.totalReqToGrantDuration
    timestamp := view.timestamp
    mStopped := view.mStopped }

/-- Put an event on record. -/
def record (direction : Direction) (call : CoexCall) (before : CoexCounter) : CoexCounter :=
  { counter with
    latestRequest :=
      if call.coexEvent = .requested ∧ before.mStopped = false then
        Function.update before.latestRequest direction call.now
      else before.latestRequest
    stoppedBy :=
      if before.mStopped = false ∧ counter.mStopped = true then some direction
      else before.stoppedBy }

end CoexCounter

/-- `sl_rail_util_coex_ot_events`. -/
def coexStep (counter : CoexCounter) (label : Direction × CoexCall) : Option CoexCounter :=
  ((counter.view label.1).slRailUtilCoexOtEvents label.2).map fun view ↦
    (counter.setView label.1 view).record label.1 label.2 counter

namespace CoexCounter

variable {counter : CoexCounter} {direction other : Direction}

@[simp]
theorem view_setView (view : CoexView) :
    (counter.setView direction view).view direction = view := by
  simp [CoexCounter.view, setView]

@[simp]
theorem metrics_setView_of_ne (view : CoexView) (hne : other ≠ direction) :
    (counter.setView direction view).metrics other = counter.metrics other :=
  Function.update_of_ne hne _ _

@[simp]
theorem total_setView_of_ne (view : CoexView) (hne : other ≠ direction) :
    (counter.setView direction view).totalReqToGrantDuration other =
      counter.totalReqToGrantDuration other :=
  Function.update_of_ne hne _ _

end CoexCounter

theorem coexStep_eq_some {counter next : CoexCounter} {direction : Direction} {call : CoexCall} :
    coexStep counter (direction, call) = some next ↔
      ∃ view, (counter.view direction).slRailUtilCoexOtEvents call = some view ∧
        (counter.setView direction view).record direction call counter = next := by
  rw [coexStep, Option.map_eq_some_iff]

end OtEfr32.Coex
