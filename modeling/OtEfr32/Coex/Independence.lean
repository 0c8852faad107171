import OtEfr32.Coex.RequestToGrant

/-!
# Independence of the directions

The counters of both directions share the time of the latest request and the stop flag.  As long as
a grant finds the request of its own direction, and the other direction has not stopped the
counting, each direction counts as the table of two separate views does: its average is that of its
own requests and grants, and its metrics are those of a run of its own events.
-/

namespace OtEfr32.Coex

open Transition

namespace CoexView

variable {view view' : CoexView} {call : CoexCall}

/-! ## The timestamp -/

/-- The view with another timestamp. -/
def setTime (timestamp : UInt32) (view : CoexView) : CoexView := { view with timestamp }

/-- `setTime` for the outcome of an increment. -/
def setTimes (timestamp : UInt32) : Except CoexView CoexView → Except CoexView CoexView
  | .error view => .error (view.setTime timestamp)
  | .ok view => .ok (view.setTime timestamp)

theorem incrementIfNoOverflow_setTime (view : CoexView) (timestamp : UInt32) (var : CoexMetric)
    (val incr : UInt32) :
    (view.setTime timestamp).incrementIfNoOverflow var val incr =
      setTimes timestamp (view.incrementIfNoOverflow var val incr) := by
  by_cases hroom : view.metrics var ≤ val + incr
  · simp [incrementIfNoOverflow, setTime, setTimes, hroom]
  · simp [incrementIfNoOverflow, setTime, setTimes, hroom]

theorem finish_setTimes (timestamp : UInt32) (outcome : Except CoexView CoexView) :
    finish ((setTimes timestamp outcome).bind sumGrantWaits) =
      (finish (outcome.bind sumGrantWaits)).map (setTime timestamp) := by
  cases outcome with
  | error view => rfl
  | ok view =>
    have hsum : (view.setTime timestamp).sumGrantWaits = setTimes timestamp view.sumGrantWaits :=
      incrementIfNoOverflow_setTime view timestamp _ _ _
    change finish (view.setTime timestamp).sumGrantWaits = (finish view.sumGrantWaits).map _
    rw [hsum]
    cases view.sumGrantWaits with
    | error view => rfl
    | ok view =>
      by_cases hzero : view.metrics .requestCount = 0
      · simp [finish, setTimes, storeAverage, setTime, hzero]
      · simp [finish, setTimes, storeAverage, setTime, hzero]

/-- Only a grant reads the timestamp: everything else does the same with another one. -/
theorem slRailUtilCoexOtEvents_setTime (hrunning : view.mStopped = false) {timestamp : UInt32}
    (hown : call.coexEvent = .granted → timestamp = view.timestamp) :
    ((view.setTime timestamp).slRailUtilCoexOtEvents call).map (setTime 0) =
      (view.slRailUtilCoexOtEvents call).map (setTime 0) := by
  obtain ⟨coexEvent, now⟩ := call
  have hrunning' : (view.setTime timestamp).mStopped = false := hrunning
  have hother (hswitch : (view.setTime timestamp).switchEvent ⟨coexEvent, now⟩ =
      setTimes timestamp (view.switchEvent ⟨coexEvent, now⟩)) :
      ((view.setTime timestamp).slRailUtilCoexOtEvents ⟨coexEvent, now⟩).map (setTime 0) =
        (view.slRailUtilCoexOtEvents ⟨coexEvent, now⟩).map (setTime 0) := by
    simp only [slRailUtilCoexOtEvents, hswitch, hrunning, hrunning', Bool.false_eq_true, if_false,
      finish_setTimes, Option.map_map]
    rfl
  cases coexEvent with
  | requested =>
    have hswitch : (view.setTime timestamp).switchEvent ⟨.requested, now⟩ =
        view.switchEvent ⟨.requested, now⟩ := rfl
    simp only [slRailUtilCoexOtEvents, hswitch, hrunning, hrunning', Bool.false_eq_true, if_false]
  | granted =>
    rw [hown rfl]
    rfl
  | grantedImmediate => exact hother (incrementIfNoOverflow_setTime view timestamp _ _ _)
  | denied => exact hother (incrementIfNoOverflow_setTime view timestamp _ _ _)
  | grantAborted => exact hother (incrementIfNoOverflow_setTime view timestamp _ _ _)
  | other => exact hother rfl

/-! ## The average in 32 bits -/

/-- The total is counted right, and its average fits into its metric. -/
structure Fits (view : CoexView) : Prop extends view.Totaled where
  fits : view.totalReqToGrantDuration.toNat ≤
    2 ^ 32 * (view.metrics .requestCount).toNat - 1

theorem Stored.fits (hfits : view.Fits) (h : view.Stored call view')
    (hgrant : call.coexEvent = .granted →
      view.totalReqToGrantDuration.toNat + call.duration view.timestamp <
        2 ^ 32 * (view.metrics .requestCount).toNat) : view'.Fits where
  toTotaled := h.totaled hfits.toTotaled
  fits := by
    have hold := hfits.fits
    have hcount := h.metrics .requestCount (by decide)
    rw [dueValue, if_neg (by decide), dueCount] at hcount
    rw [h.total_toNat hfits.toTotaled]
    by_cases hgranted : call.coexEvent = .granted
    · have hroom := hgrant hgranted
      omega
    · have hduration : call.duration view.timestamp = 0 := if_neg hgranted
      omega

/-- The average of a direction, without the truncation. -/
theorem Fits.average (hfits : view.Fits) (haveraged : view.Averaged) :
    (view.metrics .avgRequestToGrantTime).toNat =
      view.totalReqToGrantDuration.toNat / (view.metrics .requestCount).toNat := by
  have hlt : view.totalReqToGrantDuration.toNat / (view.metrics .requestCount).toNat < 2 ^ 32 := by
    have hle := hfits.fits
    rcases Nat.eq_zero_or_pos (view.metrics .requestCount).toNat with hzero | hpos
    · rw [hzero, Nat.div_zero]
      exact Nat.two_pow_pos 32
    · rw [Nat.div_lt_iff_lt_mul hpos]
      omega
  rw [haveraged, UInt64.toNat_toUInt32, UInt64.toNat_div, UInt32.toNat_toUInt64]
  exact Nat.mod_eq_of_lt hlt

/-- The view of one direction that an event finds, if it finds it running. -/
theorem exists_stored_setTime (hfits : view.Fits) (hrunning : view.mStopped = false)
    {timestamp : UInt32} (hown : call.coexEvent = .granted → timestamp = view.timestamp)
    (hrequest : call.coexEvent = .requested ∨ view.metrics .requestCount ≠ 0) :
    ∃ shared alone, (view.setTime timestamp).slRailUtilCoexOtEvents call = some shared ∧
      viewStep view call = some alone ∧ shared.setTime 0 = alone.setTime 0 ∧
      (view.Stored call alone ∨ view.Halted call alone) := by
  have hsame := slRailUtilCoexOtEvents_setTime hrunning hown
  rcases slRailUtilCoexOtEvents_cases hfits.toAccounted hrunning call with
    ⟨-, hzero⟩ | ⟨alone, halone, hspec⟩
  · rw [dueCount, CoexCall.increment] at hzero
    rcases hrequest with hrequested | hcount
    · rw [if_pos hrequested] at hzero
      exact absurd hzero (Nat.succ_ne_zero _)
    · exact absurd (UInt32.toNat_inj.mp (Nat.eq_zero_of_add_eq_zero_right hzero)) hcount
  · rw [halone] at hsame
    obtain ⟨shared, hshared, htimes⟩ := Option.map_eq_some_iff.mp hsame
    exact ⟨shared, alone, hshared, halone, htimes, hspec⟩

end CoexView

/-! ## Both directions -/

/-- The event is one that the other direction does not get in the way of. -/
structure Untroubled (counter : CoexCounter) (label : Direction × CoexCall) : Prop where
  stop : counter.stoppedBy = none ∨ counter.stoppedBy = some label.1
  requested : counter.mStopped = false → label.2.coexEvent = .requested ∨
    counter.metrics label.1 .requestCount ≠ 0
  own : counter.mStopped = false → label.2.coexEvent = .granted →
    counter.timestamp = counter.latestRequest label.1
  average : counter.mStopped = false → label.2.coexEvent = .granted →
    (counter.totalReqToGrantDuration label.1).toNat + label.2.duration counter.timestamp <
      2 ^ 32 * (counter.metrics label.1 .requestCount).toNat

theorem untroubled_iff_and (counter : CoexCounter) (label : Direction × CoexCall) :
    Untroubled counter label ↔
      (counter.stoppedBy = none ∨ counter.stoppedBy = some label.1) ∧
      (counter.mStopped = false → label.2.coexEvent = .requested ∨
        counter.metrics label.1 .requestCount ≠ 0) ∧
      (counter.mStopped = false → label.2.coexEvent = .granted →
        counter.timestamp = counter.latestRequest label.1) ∧
      (counter.mStopped = false → label.2.coexEvent = .granted →
        (counter.totalReqToGrantDuration label.1).toNat + label.2.duration counter.timestamp <
          2 ^ 32 * (counter.metrics label.1 .requestCount).toNat) :=
  ⟨fun h ↦ ⟨h.stop, h.requested, h.own, h.average⟩, fun h ↦ ⟨h.1, h.2.1, h.2.2.1, h.2.2.2⟩⟩

instance (counter : CoexCounter) (label : Direction × CoexCall) :
    Decidable (Untroubled counter label) :=
  decidable_of_iff' _ (untroubled_iff_and counter label)

/-- A direction of the counters counts as a view of its own. -/
structure Mirrors (counter : CoexCounter) (direction : Direction) (view : CoexView) : Prop where
  metrics : counter.metrics direction = view.metrics
  total : counter.totalReqToGrantDuration direction = view.totalReqToGrantDuration
  mStopped : view.mStopped = true ↔ counter.stoppedBy = some direction
  timestamp : counter.mStopped = false → view.timestamp = counter.latestRequest direction
  fits : counter.mStopped = false → view.Fits

/-- The counters count as a table of one view a direction. -/
structure Separate (counter : CoexCounter) (table : Direction → CoexView) : Prop where
  mirrors : ∀ direction, Mirrors counter direction (table direction)
  stopped : counter.mStopped = true ↔ counter.stoppedBy ≠ none

variable {counter : CoexCounter} {table : Direction → CoexView} {direction : Direction}
  {call : CoexCall}

/-- While the counting is stopped, no event changes anything. -/
theorem coexStep_of_mStopped (hstopped : counter.mStopped = true)
    (label : Direction × CoexCall) : coexStep counter label = some counter := by
  have hview : (counter.view label.1).slRailUtilCoexOtEvents label.2 =
      some (counter.view label.1) := if_pos hstopped
  rw [coexStep, hview, Option.map_some]
  congr 1
  simp [CoexCounter.setView, CoexCounter.record, CoexCounter.view, hstopped]
  rw [← hstopped]

theorem Mirrors.view_eq {view : CoexView} (h : Mirrors counter direction view)
    (hmStopped : view.mStopped = counter.mStopped) :
    counter.view direction = view.setTime counter.timestamp := by
  rw [CoexCounter.view, h.metrics, h.total, ← hmStopped]
  rfl

/-- While the counting is running, so is every view. -/
theorem Separate.running (h : Separate counter table) (hrunning : counter.mStopped = false)
    (direction : Direction) :
    counter.stoppedBy = none ∧ (table direction).mStopped = false := by
  have hnone : counter.stoppedBy = none := by
    by_contra hsome
    exact Bool.noConfusion ((h.stopped.mpr hsome).symm.trans hrunning)
  refine ⟨hnone, ?_⟩
  rw [← Bool.not_eq_true, (h.mirrors direction).mStopped, hnone]
  exact Option.some_ne_none direction ∘ Eq.symm

/-- The direction of an event afterwards. -/
theorem Mirrors.step {view shared alone : CoexView} (h : Mirrors counter direction view)
    (hrunning : counter.mStopped = false) (hnone : counter.stoppedBy = none)
    (htimes : shared.setTime 0 = alone.setTime 0)
    (hspec : view.Stored call alone ∨ view.Halted call alone)
    (hgrant : call.coexEvent = .granted →
      view.totalReqToGrantDuration.toNat + call.duration view.timestamp <
        2 ^ 32 * (view.metrics .requestCount).toNat) :
    Mirrors ((counter.setView direction shared).record direction call counter) direction alone := by
  have hstopped : shared.mStopped = alone.mStopped := (congrArg CoexView.mStopped htimes :)
  have hstored (hnext : shared.mStopped = false) : view.Stored call alone := by
    apply hspec.resolve_right
    exact fun hhalted ↦ Bool.noConfusion (hhalted.mStopped.symm.trans (hstopped ▸ hnext))
  constructor
  case metrics =>
    have hmetrics : shared.metrics = alone.metrics := (congrArg CoexView.metrics htimes :)
    rw [← hmetrics]
    exact Function.update_self direction shared.metrics counter.metrics
  case total =>
    have htotal : shared.totalReqToGrantDuration = alone.totalReqToGrantDuration :=
      (congrArg CoexView.totalReqToGrantDuration htimes :)
    rw [← htotal]
    exact Function.update_self direction _ counter.totalReqToGrantDuration
  case mStopped =>
    rw [← hstopped]
    simp [CoexCounter.record, CoexCounter.setView, hrunning, hnone]
  case timestamp =>
    intro hnext
    rw [(hstored hnext).timestamp, h.timestamp hrunning]
    by_cases hrequested : call.coexEvent = .requested
    · simp [CoexCounter.record, hrequested, hrunning]
    · simp [CoexCounter.record, hrequested]
  case fits =>
    intro hnext
    exact (hstored hnext).fits (h.fits hrunning) hgrant

/-- The other direction afterwards. -/
theorem Mirrors.other {view shared : CoexView} {other : Direction}
    (h : Mirrors counter other view) (hne : other ≠ direction)
    (hrunning : counter.mStopped = false) (hnone : counter.stoppedBy = none) :
    Mirrors ((counter.setView direction shared).record direction call counter) other view where
  metrics := (CoexCounter.metrics_setView_of_ne shared hne).trans h.metrics
  total := (CoexCounter.total_setView_of_ne shared hne).trans h.total
  mStopped := by
    rw [h.mStopped, hnone]
    simp [CoexCounter.record, hnone, Ne.symm hne]
  timestamp _ := by
    rw [h.timestamp hrunning]
    by_cases hrequested : call.coexEvent = .requested
    · simp [CoexCounter.record, hrequested, hrunning, hne]
    · simp [CoexCounter.record, hrequested]
  fits _ := h.fits hrunning

/-- An untroubled event counts as in the table. -/
theorem Separate.step (h : Separate counter table) {label : Direction × CoexCall}
    (huntroubled : Untroubled counter label) :
    ∃ next views, coexStep counter label = some next ∧
      indexed viewStep table label = some views ∧ Separate next views := by
  obtain ⟨direction, call⟩ := label
  have hmirrors := h.mirrors direction
  cases hrunning : counter.mStopped with
  | true =>
    have hstop := huntroubled.stop.resolve_left (h.stopped.mp hrunning)
    have hview := CoexView.viewStep_of_stopped (hmirrors.mStopped.mpr hstop) call
    refine ⟨counter, table, coexStep_of_mStopped hrunning _, ?_, h⟩
    exact indexed_eq_some.mpr ⟨_, hview, Function.update_eq_self direction table⟩
  | false =>
    obtain ⟨hnone, hviewRunning⟩ := h.running hrunning direction
    have hrequest : call.coexEvent = .requested ∨
        (table direction).metrics .requestCount ≠ 0 := by
      rw [← hmirrors.metrics]
      exact huntroubled.requested hrunning
    have hown (hgranted : call.coexEvent = .granted) :
        counter.timestamp = (table direction).timestamp :=
      (huntroubled.own hrunning hgranted).trans (hmirrors.timestamp hrunning).symm
    obtain ⟨shared, alone, hshared, halone, htimes, hspec⟩ :=
      CoexView.exists_stored_setTime (hmirrors.fits hrunning) hviewRunning hown hrequest
    rw [← hmirrors.view_eq (hviewRunning.trans hrunning.symm)] at hshared
    refine ⟨_, _, coexStep_eq_some.mpr ⟨shared, hshared, rfl⟩,
      indexed_eq_some.mpr ⟨alone, halone, rfl⟩, fun other ↦ ?_, ?_⟩
    · by_cases hother : other = direction
      · rw [hother, Function.update_self]
        refine hmirrors.step hrunning hnone htimes hspec fun hgranted ↦ ?_
        rw [← hown hgranted, ← hmirrors.total, ← hmirrors.metrics]
        exact huntroubled.average hrunning hgranted
      · rw [Function.update_of_ne hother]
        exact (h.mirrors other).other hother hrunning hnone
    · simp [CoexCounter.record, CoexCounter.setView, hrunning, hnone]

/-! ## Runs -/

theorem separate_reset : Separate sliRadioCoexReset fun _ ↦ {} where
  mirrors _ := by
    constructor
    case metrics => rfl
    case total => rfl
    case mStopped => simp [sliRadioCoexReset]
    case timestamp => exact fun _ ↦ rfl
    case fits => exact fun _ ↦ ⟨⟨⟨rfl, UInt32.le_refl _⟩, Nat.zero_le _⟩, Nat.zero_le _⟩
  stopped := by simp [sliRadioCoexReset]

/-- The counters after a run from the reset state: every direction has the average of its own
requests and grants, and the metrics of a run of its own events. -/
structure RequestToGrantLaw (labels : List (Direction × CoexCall)) (final : CoexCounter) :
    Prop where
  average : final.mStopped = false → ∀ direction, labelsOf direction labels ≠ [] →
    (final.metrics direction .avgRequestToGrantTime).toNat =
      grantDurations 0 (labelsOf direction labels) / requests (labelsOf direction labels)
  alone : ∀ direction, ∃ alone,
    exec coexStep sliRadioCoexReset ((labelsOf direction labels).map (direction, ·)) = some alone ∧
      final.metrics direction = alone.metrics direction

/-- An untroubled run, and the runs of the two views. -/
theorem exists_separate {labels : List (Direction × CoexCall)}
    (huntroubled : Along coexStep Untroubled sliRadioCoexReset labels) :
    ∃ final views, exec coexStep sliRadioCoexReset labels = some final ∧
      Separate final views ∧
      ∀ direction, exec viewStep {} (labelsOf direction labels) = some (views direction) := by
  obtain ⟨final, views, hrun, hviews, hseparate⟩ :=
    exec_related (fun _ _ _ hseparate ↦ hseparate.step) separate_reset huntroubled
  exact ⟨final, views, hrun, hseparate, exec_indexed hviews⟩

/-- A run of the events of one direction. -/
theorem exec_alone (direction : Direction) (calls : List CoexCall) :
    (exec coexStep sliRadioCoexReset (calls.map (direction, ·))).map
        (CoexCounter.view · direction) =
      exec viewStep {} calls := by
  have hstep (counter : CoexCounter) (call : CoexCall) :
      (coexStep counter (direction, call)).map (CoexCounter.view · direction) =
        viewStep (counter.view direction) call := by
    rw [coexStep, Option.map_map, viewStep]
    convert Option.map_id' (x := (counter.view direction).slRailUtilCoexOtEvents call) with view
    exact CoexCounter.view_setView view
  exact exec_view hstep sliRadioCoexReset calls

theorem Separate.requestToGrantLaw {labels : List (Direction × CoexCall)} {final : CoexCounter}
    {views : Direction → CoexView} (hseparate : Separate final views)
    (hviews : ∀ direction, exec viewStep {} (labelsOf direction labels) = some (views direction)) :
    RequestToGrantLaw labels final where
  average hrunning direction hne := by
    have hmirrors := hseparate.mirrors direction
    have hinit : ({} : CoexView).Totaled := ⟨⟨rfl, UInt32.le_refl _⟩, Nat.zero_le _⟩
    have htallies := CoexView.tallies_of_run hinit (hviews direction)
      (hseparate.running hrunning direction).2
    rw [hmirrors.metrics, (hmirrors.fits hrunning).average (htallies.average (.inl hne)),
      htallies.duration, htallies.requestCount]
    simp
  alone direction := by
    have halone := exec_alone direction (labelsOf direction labels)
    rw [hviews direction] at halone
    obtain ⟨alone, hrun, hview⟩ := Option.map_eq_some_iff.mp halone
    refine ⟨alone, hrun, ?_⟩
    rw [(hseparate.mirrors direction).metrics, ← hview]
    rfl

/-- In an untroubled run no average is computed without a request, and every direction has its own
averages and metrics. -/
theorem requestToGrantLaw_of_untroubled {labels : List (Direction × CoexCall)}
    (huntroubled : Along coexStep Untroubled sliRadioCoexReset labels)
    {front : List (Direction × CoexCall)} (hfront : front <+: labels) :
    ∃ final, exec coexStep sliRadioCoexReset front = some final ∧
      RequestToGrantLaw front final := by
  obtain ⟨back, rfl⟩ := hfront
  obtain ⟨_, _, hwhole, _, _⟩ := exists_separate huntroubled
  obtain ⟨middle, hmiddle, -⟩ := (exec_append_eq_some _).mp hwhole
  obtain ⟨final, views, hrun, hseparate, hviews⟩ :=
    exists_separate (huntroubled.append hmiddle).1
  exact ⟨final, hrun, hseparate.requestToGrantLaw hviews⟩

theorem requestToGrantLaw_taking_turns :
    ∃ final, exec coexStep sliRadioCoexReset
        [(.tx, ⟨.requested, 0⟩), (.tx, ⟨.granted, 60⟩), (.rx, ⟨.requested, 70⟩),
          (.rx, ⟨.granted, 75⟩)] = some final ∧
      RequestToGrantLaw
        [(.tx, ⟨.requested, 0⟩), (.tx, ⟨.granted, 60⟩), (.rx, ⟨.requested, 70⟩),
          (.rx, ⟨.granted, 75⟩)] final :=
  requestToGrantLaw_of_untroubled (by decide) (List.prefix_refl _)

/-- A request to receive between a request to transmit and its grant: the average of the grants to
transmit is 10 instead of 20. -/
theorem not_requestToGrantLaw_interleaved :
    ¬ ∃ final, exec coexStep sliRadioCoexReset
        [(.tx, ⟨.requested, 0⟩), (.rx, ⟨.requested, 10⟩), (.tx, ⟨.granted, 20⟩)] = some final ∧
      RequestToGrantLaw
        [(.tx, ⟨.requested, 0⟩), (.rx, ⟨.requested, 10⟩), (.tx, ⟨.granted, 20⟩)] final := by
  rintro ⟨final, hrun, hlaw⟩
  obtain rfl := Option.some.inj hrun
  have haverage := hlaw.average (by decide) .tx (by decide)
  exact absurd haverage (by decide)

end OtEfr32.Coex
