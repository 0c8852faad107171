import OtEfr32.Coex.Counter

/-!
# Accounting of the coexistence counters

Every counter of a direction has an exact value that an event asks for, computed without an
overflow.  An event that asks for more than 32 bits hold sets `mStopped` and leaves that counter
alone; otherwise all counters get their exact values.  The number of waits is the sum of those that
were granted and those that timed out, as long as `mStopped` is not set.
-/

namespace OtEfr32.Coex

open Transition

/-- By how much an event raises a counter of its direction directly; the waits are summed up
afterwards, and the average is no counter. -/
def CoexCall.increment (call : CoexCall) (timestamp : UInt32) : CoexMetric → ℕ
  | .requestCount => if call.coexEvent = .requested then 1 else 0
  | .grantImmediateCount => if call.coexEvent = .grantedImmediate then 1 else 0
  | .grantWaitActivatedCount => if call.coexEvent = .granted then 1 else 0
  | .grantWaitTimeoutCount => if call.coexEvent = .denied then 1 else 0
  | .grantDeactivatedDuringRequestCount => if call.coexEvent = .grantAborted then 1 else 0
  | .delayedGrantCount =>
    if call.coexEvent = .granted ∧ call.now - timestamp > 50 then 1 else 0
  | .grantWaitCount | .avgRequestToGrantTime => 0

/-- An event is at most one of a late grant and a timeout. -/
theorem CoexCall.grantWait_le_one (call : CoexCall) (timestamp : UInt32) :
    call.increment timestamp .grantWaitTimeoutCount +
      call.increment timestamp .grantWaitActivatedCount ≤ 1 := by
  obtain ⟨coexEvent, now⟩ := call
  cases coexEvent <;> simp [CoexCall.increment]

/-- The duration that an event adds to the total of its direction. -/
def CoexCall.duration (call : CoexCall) (timestamp : UInt32) : ℕ :=
  if call.coexEvent = .granted then (call.now - timestamp).toNat else 0

namespace CoexView

variable {view view' : CoexView} {call : CoexCall} {var : CoexMetric}

/-- The value of a counter that an event asks for. -/
def dueCount (view : CoexView) (call : CoexCall) (var : CoexMetric) : ℕ :=
  (view.metrics var).toNat + call.increment view.timestamp var

/-- The value of a metric that an event asks for: the waits are the sum of two counters. -/
def dueValue (view : CoexView) (call : CoexCall) (var : CoexMetric) : ℕ :=
  if var = .grantWaitCount then
    view.dueCount call .grantWaitTimeoutCount + view.dueCount call .grantWaitActivatedCount
  else view.dueCount call var

/-- The waits add up. -/
structure Accounted (view : CoexView) : Prop where
  grantWait : (view.metrics .grantWaitCount).toNat =
    (view.metrics .grantWaitActivatedCount).toNat + (view.metrics .grantWaitTimeoutCount).toNat
  delayedGrant : view.metrics .delayedGrantCount ≤ view.metrics .grantWaitActivatedCount

theorem Accounted.congr (h : view.Accounted) (hmetrics : view'.metrics = view.metrics) :
    view'.Accounted := by
  constructor
  · rw [hmetrics]
    exact h.grantWait
  · rw [hmetrics]
    exact h.delayedGrant

/-! ## The switch -/

theorem le_add_one_iff (count : UInt32) : count ≤ count + 1 ↔ count.toNat + 1 < 2 ^ 32 := by
  rw [UInt32.le_iff_toNat_le, UInt32.toNat_add, UInt32.toNat_one]
  have := count.toNat_lt
  omega

/-- A count by one, with its overflow. -/
theorem countOne_eq (view : CoexView) (var : CoexMetric) :
    view.countOne var =
      if (view.metrics var).toNat + 1 < 2 ^ 32 then
        .ok { view with metrics := Function.update view.metrics var (view.metrics var + 1) }
      else .error { view with mStopped := true } := by
  simp only [countOne, incrementIfNoOverflow, le_add_one_iff]

/-- A counter that is raised by one, among the others. -/
theorem toNat_update_add_one {metrics : CoexMetric → UInt32} {target : CoexMetric}
    (hroom : (metrics target).toNat + 1 < 2 ^ 32) (var : CoexMetric) :
    (Function.update metrics target (metrics target + 1) var).toNat =
      (metrics var).toNat + if var = target then 1 else 0 := by
  by_cases hvar : var = target
  · rw [hvar, Function.update_self, if_pos rfl, UInt32.toNat_add, UInt32.toNat_one]
    omega
  · rw [Function.update_of_ne hvar, if_neg hvar, Nat.add_zero]

/-- The switch has passed without a jump: every counter has the value that the event asks for. -/
structure Counted (view : CoexView) (call : CoexCall) (view' : CoexView) : Prop where
  metrics : ∀ var, (view'.metrics var).toNat = view.dueCount call var
  total : view'.totalReqToGrantDuration =
    view.totalReqToGrantDuration + UInt64.ofNat (call.duration view.timestamp)
  timestamp : view'.timestamp =
    if call.coexEvent = .requested then call.now else view.timestamp
  mStopped : view'.mStopped = view.mStopped

/-- A counter cannot be raised: the ones before it are, the ones behind it are not. -/
structure Halted (view : CoexView) (call : CoexCall) (view' : CoexView) : Prop where
  metrics : ∀ var, view'.metrics var = view.metrics var ∨
    (view'.metrics var).toNat = view.dueCount call var
  mStopped : view'.mStopped = true

theorem Halted.of_metrics (hstopped : view'.mStopped = true)
    (hmetrics : view'.metrics = view.metrics) : view.Halted call view' :=
  ⟨fun var ↦ .inl (congrFun hmetrics var), hstopped⟩

/-- An event that raises one counter. -/
theorem countOne_spec {target : CoexMetric}
    (hincrement : ∀ var, call.increment view.timestamp var = if var = target then 1 else 0)
    (hduration : call.duration view.timestamp = 0) {timestamp : UInt32}
    (htimestamp : timestamp = if call.coexEvent = .requested then call.now else view.timestamp) :
    match countOne { view with timestamp } target with
    | .ok view' => view.Counted call view'
    | .error view' => view.Halted call view' := by
  rw [countOne_eq]
  by_cases hroom : (view.metrics target).toNat + 1 < 2 ^ 32
  · rw [if_pos hroom]
    refine ⟨fun var ↦ ?_, ?_, htimestamp, rfl⟩
    · rw [dueCount, hincrement]
      exact toNat_update_add_one hroom var
    · rw [hduration]
      exact (UInt64.add_zero _).symm
  · rw [if_neg hroom]
    exact Halted.of_metrics rfl rfl

theorem switchEvent_spec (view : CoexView) (call : CoexCall) :
    match view.switchEvent call with
    | .ok view' => view.Counted call view'
    | .error view' => view.Halted call view' := by
  obtain ⟨coexEvent, now⟩ := call
  cases coexEvent with
  | requested =>
    exact countOne_spec (fun var ↦ by cases var <;> rfl) rfl rfl
  | grantedImmediate =>
    exact countOne_spec (fun var ↦ by cases var <;> rfl) rfl rfl
  | denied =>
    exact countOne_spec (fun var ↦ by cases var <;> rfl) rfl rfl
  | grantAborted =>
    exact countOne_spec (fun var ↦ by cases var <;> rfl) rfl rfl
  | other =>
    refine ⟨fun var ↦ ?_, (UInt64.add_zero _).symm, rfl, rfl⟩
    cases var <;> rfl
  | granted =>
    have hduration : (CoexCall.mk .granted now).duration view.timestamp =
        (now - view.timestamp).toNat := rfl
    simp only [switchEvent, countOne_eq]
    by_cases hactivated : (view.metrics .grantWaitActivatedCount).toNat + 1 < 2 ^ 32
    case neg =>
      simp only [if_neg hactivated, bind, Except.bind]
      exact Halted.of_metrics rfl rfl
    have hfirst := toNat_update_add_one hactivated
    simp only [if_pos hactivated, bind, Except.bind]
    by_cases hdelayed : now - view.timestamp > 50
    case neg =>
      simp only [if_neg hdelayed]
      refine ⟨fun var ↦ ?_, ?_, rfl, rfl⟩
      · rw [hfirst var]
        cases var <;> simp [dueCount, CoexCall.increment, hdelayed]
      · rw [hduration, UInt64.ofNat_uInt32ToNat]
    case pos =>
      simp only [if_pos hdelayed]
      by_cases hroom : (Function.update view.metrics .grantWaitActivatedCount
          (view.metrics .grantWaitActivatedCount + 1) .delayedGrantCount).toNat + 1 < 2 ^ 32
      case pos =>
        rw [if_pos hroom]
        have hsecond := toNat_update_add_one hroom
        refine ⟨fun var ↦ ?_, ?_, rfl, rfl⟩
        · rw [hsecond var, hfirst var]
          cases var <;> simp [dueCount, CoexCall.increment, hdelayed]
        · rw [hduration, UInt64.ofNat_uInt32ToNat]
      case neg =>
        rw [if_neg hroom]
        refine ⟨fun var ↦ ?_, rfl⟩
        by_cases hvar : var = .grantWaitActivatedCount
        · rw [hvar]
          exact .inr (hfirst _)
        · exact .inl (Function.update_of_ne hvar _ _)

/-! ## One event -/

/-- The event has got to its last statement. -/
structure Stored (view : CoexView) (call : CoexCall) (view' : CoexView) : Prop where
  metrics : ∀ var, var ≠ .avgRequestToGrantTime →
    (view'.metrics var).toNat = view.dueValue call var
  average : view'.metrics .avgRequestToGrantTime =
    (view'.totalReqToGrantDuration / (view'.metrics .requestCount).toUInt64).toUInt32
  total : view'.totalReqToGrantDuration =
    view.totalReqToGrantDuration + UInt64.ofNat (call.duration view.timestamp)
  timestamp : view'.timestamp =
    if call.coexEvent = .requested then call.now else view.timestamp
  mStopped : view'.mStopped = false

theorem Counted.dueValue_grantWait (h : view.Counted call view') :
    view.dueValue call .grantWaitCount =
      (view'.metrics .grantWaitTimeoutCount).toNat +
        (view'.metrics .grantWaitActivatedCount).toNat := by
  rw [h.metrics, h.metrics]
  rfl

/-- The sum of the waits behind the switch, which fits exactly if it is the one asked for. -/
theorem sumGrantWaits_eq (haccounted : view.Accounted) (h : view.Counted call view') :
    view'.sumGrantWaits =
      if view.dueValue call .grantWaitCount < 2 ^ 32 then
        .ok { view' with
          metrics := Function.update view'.metrics .grantWaitCount
            (view'.metrics .grantWaitTimeoutCount + view'.metrics .grantWaitActivatedCount) }
      else .error { view' with mStopped := true } := by
  have hdue := h.dueValue_grantWait
  have hold : (view'.metrics .grantWaitCount).toNat =
      (view.metrics .grantWaitActivatedCount).toNat +
        (view.metrics .grantWaitTimeoutCount).toNat := by
    rw [h.metrics, ← haccounted.grantWait]
    rfl
  have hnew : view.dueValue call .grantWaitCount =
      (view'.metrics .grantWaitCount).toNat +
        (call.increment view.timestamp .grantWaitTimeoutCount +
          call.increment view.timestamp .grantWaitActivatedCount) := by
    rw [hold]
    simp only [dueValue, dueCount, if_true]
    omega
  have hone := call.grantWait_le_one view.timestamp
  have hlt := (view'.metrics .grantWaitCount).toNat_lt
  have hcheck : view'.metrics .grantWaitCount ≤
      view'.metrics .grantWaitTimeoutCount + view'.metrics .grantWaitActivatedCount ↔
        view.dueValue call .grantWaitCount < 2 ^ 32 := by
    rw [UInt32.le_iff_toNat_le, UInt32.toNat_add, ← hdue]
    omega
  simp only [sumGrantWaits, incrementIfNoOverflow, hcheck]

/-- The last statement, for waits that are summed up. -/
theorem storeAverage_cases (h : view.Counted call view') (hrunning : view.mStopped = false)
    {metrics : CoexMetric → UInt32}
    (hgrantWait : (metrics .grantWaitCount).toNat = view.dueValue call .grantWaitCount)
    (hmetrics : ∀ var, var ≠ .grantWaitCount → metrics var = view'.metrics var) :
    (storeAverage { view' with metrics } = none ∧ view.dueCount call .requestCount = 0) ∨
      ∃ stored, storeAverage { view' with metrics } = some stored ∧ view.Stored call stored := by
  have hrequest := hmetrics .requestCount (by decide)
  have hne : CoexMetric.requestCount ≠ .avgRequestToGrantTime := by decide
  unfold storeAverage
  by_cases hzero : metrics .requestCount = 0
  · rw [if_pos hzero]
    refine .inl ⟨rfl, ?_⟩
    rw [← h.metrics, ← hrequest, hzero]
    rfl
  · rw [if_neg hzero]
    refine .inr ⟨_, rfl, fun var havg ↦ ?_, ?_, h.total, h.timestamp, h.mStopped.trans hrunning⟩
    · simp only [Function.update_of_ne havg]
      by_cases hvar : var = .grantWaitCount
      · rw [hvar]
        exact hgrantWait
      · rw [hmetrics var hvar, h.metrics, dueValue, if_neg hvar]
    · simp only [Function.update_self, Function.update_of_ne hne]

/-- What an event does while the counting is not stopped. -/
theorem slRailUtilCoexOtEvents_cases (haccounted : view.Accounted)
    (hrunning : view.mStopped = false) (call : CoexCall) :
    (view.slRailUtilCoexOtEvents call = none ∧ view.dueCount call .requestCount = 0) ∨
      ∃ view', view.slRailUtilCoexOtEvents call = some view' ∧
        (view.Stored call view' ∨ view.Halted call view') := by
  have hswitch := switchEvent_spec view call
  unfold slRailUtilCoexOtEvents
  rw [hrunning, if_neg Bool.false_ne_true]
  cases hcase : view.switchEvent call with
  | error halted =>
    rw [hcase] at hswitch
    exact .inr ⟨halted, rfl, .inr hswitch⟩
  | ok counted =>
    rw [hcase] at hswitch
    simp only [Except.bind, sumGrantWaits_eq haccounted hswitch]
    by_cases hfits : view.dueValue call .grantWaitCount < 2 ^ 32
    case neg =>
      rw [if_neg hfits]
      exact .inr ⟨_, rfl, .inr ⟨fun var ↦ .inr (hswitch.metrics var), rfl⟩⟩
    case pos =>
      rw [if_pos hfits]
      have hdue := hswitch.dueValue_grantWait
      have hsum : (Function.update counted.metrics .grantWaitCount
          (counted.metrics .grantWaitTimeoutCount + counted.metrics .grantWaitActivatedCount)
          .grantWaitCount).toNat = view.dueValue call .grantWaitCount := by
        rw [Function.update_self, UInt32.toNat_add]
        omega
      have hstored := storeAverage_cases hswitch hrunning hsum
        fun var hvar ↦ Function.update_of_ne hvar _ _
      rcases hstored with hnone | ⟨stored, hstored, hspec⟩
      · exact .inl hnone
      · exact .inr ⟨stored, hstored, .inl hspec⟩

/-- What an event may do to the counters: it raises them to the values that it asks for, or stops
the counting instead of an overflow. -/
structure CountsExactly (view : CoexView) (call : CoexCall) (view' : CoexView) : Prop where
  mono : ∀ var, var ≠ .avgRequestToGrantTime → view.metrics var ≤ view'.metrics var
  exact : view'.mStopped = false → ∀ var, var ≠ .avgRequestToGrantTime →
    (view'.metrics var).toNat = view.dueValue call var
  overflow : ∀ var, 2 ^ 32 ≤ view.dueValue call var →
    view'.mStopped = true ∧ view'.metrics var = view.metrics var

theorem metrics_le_dueValue (haccounted : view.Accounted) (call : CoexCall) (var : CoexMetric) :
    (view.metrics var).toNat ≤ view.dueValue call var := by
  have hgrantWait := haccounted.grantWait
  by_cases hvar : var = .grantWaitCount
  · simp only [dueValue, dueCount, hvar, if_true]
    omega
  · rw [dueValue, if_neg hvar, dueCount]
    exact Nat.le_add_right _ _

theorem Stored.countsExactly (haccounted : view.Accounted) (h : view.Stored call view') :
    view.CountsExactly call view' where
  mono var havg := by
    rw [UInt32.le_iff_toNat_le, h.metrics var havg]
    exact metrics_le_dueValue haccounted call var
  exact _ := h.metrics
  overflow var hover := by
    have hlt := (view'.metrics var).toNat_lt
    by_cases havg : var = .avgRequestToGrantTime
    · have hlt := (view.metrics var).toNat_lt
      rw [havg] at hover hlt
      exact absurd hlt (Nat.not_lt.mpr hover)
    · rw [h.metrics var havg] at hlt
      exact absurd hlt (Nat.not_lt.mpr hover)

theorem Halted.countsExactly (h : view.Halted call view') : view.CountsExactly call view' where
  mono var _ := by
    cases h.metrics var with
    | inl hsame => exact UInt32.le_of_eq hsame.symm
    | inr hdue =>
      rw [UInt32.le_iff_toNat_le, hdue]
      exact Nat.le_add_right _ _
  exact hrunning := absurd h.mStopped (by rw [hrunning]; exact Bool.false_ne_true)
  overflow var hover := by
    refine ⟨h.mStopped, ?_⟩
    cases h.metrics var with
    | inl hsame => exact hsame
    | inr hdue =>
      by_cases hvar : var = .grantWaitCount
      · rw [hvar] at hdue ⊢
        exact UInt32.toNat_inj.mp hdue
      · have hlt := (view'.metrics var).toNat_lt
        rw [dueValue, if_neg hvar, ← hdue] at hover
        exact absurd hlt (Nat.not_lt.mpr hover)

/-- While the counting is stopped, every event counts exactly. -/
theorem CountsExactly.of_stopped (hstopped : view'.mStopped = true)
    (hmetrics : view'.metrics = view.metrics) : view.CountsExactly call view' where
  mono var _ := UInt32.le_of_eq (congrFun hmetrics var).symm
  exact hrunning := absurd hstopped (by rw [hrunning]; exact Bool.false_ne_true)
  overflow var _ := ⟨hstopped, congrFun hmetrics var⟩

theorem Stored.accounted (haccounted : view.Accounted) (h : view.Stored call view') :
    view'.Accounted where
  grantWait := by
    rw [h.metrics _ (by decide), h.metrics _ (by decide), h.metrics _ (by decide)]
    exact Nat.add_comm _ _
  delayedGrant := by
    have hold := UInt32.le_iff_toNat_le.mp haccounted.delayedGrant
    rw [UInt32.le_iff_toNat_le, h.metrics _ (by decide), h.metrics _ (by decide)]
    have hincrement : call.increment view.timestamp .delayedGrantCount ≤
        call.increment view.timestamp .grantWaitActivatedCount := by
      simp only [CoexCall.increment]
      split
      case isTrue hdelayed => exact Nat.le_of_eq (if_pos hdelayed.1).symm
      case isFalse => exact Nat.zero_le _
    exact Nat.add_le_add hold hincrement

end CoexView

/-! ## Runs -/

namespace CoexCounter

/-- The waits of both directions add up, unless the counting is stopped. -/
def Accounted (counter : CoexCounter) : Prop :=
  counter.mStopped = false → ∀ direction, (counter.view direction).Accounted

/-- What a step may do to the counters. -/
structure StepsExactly (counter : CoexCounter) (label : Direction × CoexCall)
    (next : CoexCounter) : Prop where
  counts : (counter.view label.1).CountsExactly label.2 (next.view label.1)
  other : ∀ direction, direction ≠ label.1 → next.metrics direction = counter.metrics direction
  stopped : counter.mStopped = true → next.mStopped = true ∧ next.metrics = counter.metrics

variable {counter next : CoexCounter} {direction : Direction} {call : CoexCall}

/-- A step while the counting is stopped. -/
theorem coexStep_of_stopped (hstopped : counter.mStopped = true)
    (label : Direction × CoexCall) :
    ∃ next, coexStep counter label = some next ∧ next.mStopped = true ∧
      next.metrics = counter.metrics := by
  have hview : (counter.view label.1).slRailUtilCoexOtEvents label.2 =
      some (counter.view label.1) := if_pos hstopped
  refine ⟨_, coexStep_eq_some.mpr ⟨_, hview, rfl⟩, hstopped, ?_⟩
  exact Function.update_eq_self label.1 counter.metrics

/-- A step that leaves the counting running, or stops it. -/
theorem StepsExactly.of_view {view : CoexView} (hrunning : counter.mStopped = false)
    (hcounts : (counter.view direction).CountsExactly call view) :
    counter.StepsExactly (direction, call)
      ((counter.setView direction view).record direction call counter) where
  counts := by
    have hview : ((counter.setView direction view).record direction call counter).view direction =
        view := view_setView view
    rwa [hview]
  other _ hne := metrics_setView_of_ne view hne
  stopped hstopped := absurd hstopped (by rw [hrunning]; exact Bool.false_ne_true)

/-- An event that is a request, or follows one, asks for a request count other than zero. -/
theorem not_dueCount_zero (hrunning : counter.mStopped = false)
    (hrequest : counter.mStopped = true ∨ call.coexEvent = .requested ∨
      counter.metrics direction .requestCount ≠ 0) :
    (counter.view direction).dueCount call .requestCount ≠ 0 := by
  intro hzero
  rcases hrequest with hstopped | hrequested | hcount
  · exact absurd hstopped (by rw [hrunning]; exact Bool.false_ne_true)
  · simp [CoexView.dueCount, CoexCall.increment, hrequested] at hzero
  · apply hcount
    apply UInt32.toNat_inj.mp
    exact Nat.eq_zero_of_add_eq_zero_right hzero

theorem accounted_setView {view : CoexView}
    (haccounted : ∀ direction, (counter.view direction).Accounted) (hview : view.Accounted)
    (other : Direction) :
    (((counter.setView direction view).record direction call counter).view other).Accounted := by
  by_cases hother : other = direction
  · rw [hother]
    have hsame : ((counter.setView direction view).record direction call counter).view direction =
        view := view_setView view
    rwa [hsame]
  · exact (haccounted other).congr (metrics_setView_of_ne view hother)

/-- An event of a direction is counted exactly, if it is a request or follows one. -/
theorem exists_coexStep (haccounted : counter.Accounted)
    (hrequest : counter.mStopped = true ∨ call.coexEvent = .requested ∨
      counter.metrics direction .requestCount ≠ 0) :
    ∃ next, coexStep counter (direction, call) = some next ∧
      counter.StepsExactly (direction, call) next ∧ next.Accounted ∧
      (next.mStopped = true ∨ next.metrics direction .requestCount ≠ 0) := by
  cases hrunning : counter.mStopped with
  | true =>
    obtain ⟨next, hnext, hstopped, hsame⟩ := coexStep_of_stopped hrunning (direction, call)
    refine ⟨next, hnext, ⟨.of_stopped hstopped ?_, ?_, fun _ ↦ ⟨hstopped, hsame⟩⟩, ?_,
      .inl hstopped⟩
    · exact congrFun hsame direction
    · exact fun other _ ↦ congrFun hsame other
    · exact fun hrunning ↦ absurd hstopped (by rw [hrunning]; exact Bool.false_ne_true)
  | false =>
    have hcases := CoexView.slRailUtilCoexOtEvents_cases (haccounted hrunning direction) hrunning
      call
    rcases hcases with ⟨-, hzero⟩ | ⟨view, hview, hspec⟩
    · exact absurd hzero (not_dueCount_zero hrunning hrequest)
    · refine ⟨_, coexStep_eq_some.mpr ⟨view, hview, rfl⟩, ?_, ?_, ?_⟩
      · rcases hspec with hstored | hhalted
        · have hcounts := hstored.countsExactly (haccounted hrunning direction)
          exact StepsExactly.of_view hrunning hcounts
        · exact StepsExactly.of_view hrunning hhalted.countsExactly
      · rcases hspec with hstored | hhalted
        · exact fun _ ↦ accounted_setView (haccounted hrunning)
            (hstored.accounted (haccounted hrunning direction))
        · exact fun hnext ↦ Bool.noConfusion (hhalted.mStopped.symm.trans hnext)
      · rcases hspec with hstored | hhalted
        · right
          have hmetrics : ((counter.setView direction view).record direction call counter).metrics
              direction = view.metrics := congrArg CoexView.metrics (view_setView view)
          rw [hmetrics]
          intro hzero
          have hdue := hstored.metrics .requestCount (by decide)
          rw [hzero] at hdue
          exact not_dueCount_zero hrunning hrequest hdue.symm
        · exact .inl hhalted.mStopped

end CoexCounter

/-- The first of some events is a request. -/
def FirstIsRequest : List CoexCall → Prop
  | [] => True
  | call :: _ => call.coexEvent = .requested

/-- Every direction has seen a request, or its next event is one. -/
def RequestsFirst (counter : CoexCounter) (labels : List (Direction × CoexCall)) : Prop :=
  ∀ direction, counter.mStopped = true ∨ counter.metrics direction .requestCount ≠ 0 ∨
    FirstIsRequest (labelsOf direction labels)

/-- In a run from the reset state, the counters are accounted for in every state, and every event
counts exactly. -/
structure AccountingLaw (labels : List (Direction × CoexCall)) : Prop where
  runs : ∃ final, exec coexStep sliRadioCoexReset labels = some final
  accounted : Throughout coexStep CoexCounter.Accounted sliRadioCoexReset labels
  steps : Along coexStep
    (fun counter label ↦ ∀ next, coexStep counter label = some next →
      counter.StepsExactly label next) sliRadioCoexReset labels

theorem RequestsFirst.step {counter next : CoexCounter} {direction : Direction} {call : CoexCall}
    {labels : List (Direction × CoexCall)}
    (h : RequestsFirst counter ((direction, call) :: labels))
    (hsteps : counter.StepsExactly (direction, call) next)
    (hrequest : next.mStopped = true ∨ next.metrics direction .requestCount ≠ 0) :
    RequestsFirst next labels := by
  intro other
  by_cases hother : other = direction
  · rw [hother]
    exact hrequest.imp_right .inl
  · rw [hsteps.other other hother]
    have hsame := h other
    rw [labelsOf_cons_ne (Ne.symm hother)] at hsame
    exact hsame.imp_left fun hstopped ↦ (hsteps.stopped hstopped).1

theorem RequestsFirst.head {counter : CoexCounter} {direction : Direction} {call : CoexCall}
    {labels : List (Direction × CoexCall)}
    (h : RequestsFirst counter ((direction, call) :: labels)) :
    counter.mStopped = true ∨ call.coexEvent = .requested ∨
      counter.metrics direction .requestCount ≠ 0 := by
  have hhead := h direction
  rw [labelsOf_cons_self] at hhead
  exact hhead.imp_right Or.symm

theorem accounting_of_requestsFirst {counter : CoexCounter}
    {labels : List (Direction × CoexCall)} (haccounted : counter.Accounted)
    (hrequests : RequestsFirst counter labels) :
    (∃ final, exec coexStep counter labels = some final) ∧
      Throughout coexStep CoexCounter.Accounted counter labels ∧
      Along coexStep
        (fun counter label ↦ ∀ next, coexStep counter label = some next →
          counter.StepsExactly label next) counter labels := by
  induction labels generalizing counter with
  | nil => exact ⟨⟨counter, rfl⟩, haccounted, trivial⟩
  | cons label labels ih =>
    obtain ⟨direction, call⟩ := label
    obtain ⟨next, hnext, hsteps, hnextAccounted, hrequest⟩ :=
      CoexCounter.exists_coexStep haccounted hrequests.head
    obtain ⟨⟨final, hrun⟩, hthroughout, halong⟩ :=
      ih hnextAccounted (hrequests.step hsteps hrequest)
    refine ⟨⟨final, (exec_cons_eq_some _).mpr ⟨next, hnext, hrun⟩⟩, ?_, ?_⟩
    · exact (throughout_cons_of_step hnext).mpr ⟨haccounted, hthroughout⟩
    · refine (along_cons_of_step hnext).mpr ⟨fun other hother ↦ ?_, halong⟩
      obtain rfl := Option.some.inj (hnext.symm.trans hother)
      exact hsteps

/-- Every run in which the first event of each direction is a request is accounted for. -/
theorem accountingLaw {labels : List (Direction × CoexCall)}
    (hfirst : ∀ direction, FirstIsRequest (labelsOf direction labels)) :
    AccountingLaw labels := by
  have haccounted : sliRadioCoexReset.Accounted := fun _ _ ↦ ⟨rfl, UInt32.le_refl _⟩
  obtain ⟨hruns, hthroughout, halong⟩ :=
    accounting_of_requestsFirst haccounted fun direction ↦ .inr (.inr (hfirst direction))
  exact ⟨hruns, hthroughout, halong⟩

theorem accountingLaw_grantedLate :
    AccountingLaw [(.tx, ⟨.requested, 100⟩), (.rx, ⟨.requested, 120⟩), (.tx, ⟨.granted, 180⟩)] :=
  accountingLaw fun direction ↦ by cases direction <;> rfl

end OtEfr32.Coex
