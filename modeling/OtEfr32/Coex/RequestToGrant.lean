import OtEfr32.Coex.Accounting
import OtEfr32.Transition.Simulation

/-!
# The time from request to grant

The average of a direction should be that of its own requests and grants.  The counters of both
directions share the time of the latest request and the stop flag, so a direction counts as it
would alone only while the other one does not get in between: no request of the other direction
before a grant, no overflow of the other direction, and a request before everything else.  The
table of one `CoexView` a direction, each with a timestamp and a stop flag of its own, is what the
counting would be without the sharing.
-/

namespace OtEfr32.Coex

open Transition

/-- The durations from the latest request to a grant, in total. -/
def grantDurations (latest : UInt32) : List CoexCall → ℕ
  | [] => 0
  | call :: calls =>
    call.duration latest +
      grantDurations (if call.coexEvent = .requested then call.now else latest) calls

/-- The number of requests. -/
def requests (calls : List CoexCall) : ℕ :=
  calls.countP fun call ↦ call.coexEvent = .requested

/-! ## One direction alone -/

/-- `sl_rail_util_coex_ot_events` for events of one direction. -/
def viewStep (view : CoexView) (call : CoexCall) : Option CoexView :=
  view.slRailUtilCoexOtEvents call

namespace CoexView

variable {view view' : CoexView} {call : CoexCall} {calls : List CoexCall}

/-- The total cannot have overflowed. -/
structure Totaled (view : CoexView) : Prop extends view.Accounted where
  total : view.totalReqToGrantDuration.toNat ≤
    (view.metrics .grantWaitActivatedCount).toNat * (2 ^ 32 - 1)

theorem duration_le (call : CoexCall) (timestamp : UInt32) :
    call.duration timestamp ≤
      call.increment timestamp .grantWaitActivatedCount * (2 ^ 32 - 1) := by
  have hlt := (call.now - timestamp).toNat_lt
  simp only [CoexCall.duration, CoexCall.increment]
  split <;> omega

theorem Stored.total_toNat (htotaled : view.Totaled) (h : view.Stored call view') :
    view'.totalReqToGrantDuration.toNat =
      view.totalReqToGrantDuration.toNat + call.duration view.timestamp := by
  have htotal := htotaled.total
  have hcount := (view.metrics .grantWaitActivatedCount).toNat_lt
  have hduration : call.duration view.timestamp < 2 ^ 32 := by
    have hlt := (call.now - view.timestamp).toNat_lt
    simp only [CoexCall.duration]
    split <;> omega
  rw [h.total, UInt64.toNat_add, UInt64.toNat_ofNat']
  omega

theorem Stored.totaled (htotaled : view.Totaled) (h : view.Stored call view') :
    view'.Totaled where
  toAccounted := h.accounted htotaled.toAccounted
  total := by
    have htotal := htotaled.total
    have hduration := duration_le call view.timestamp
    have hcount := h.metrics .grantWaitActivatedCount (by decide)
    rw [dueValue, if_neg (by decide), dueCount] at hcount
    rw [h.total_toNat htotaled, hcount, Nat.add_mul]
    exact Nat.add_le_add htotal hduration

theorem viewStep_of_stopped (hstopped : view.mStopped = true) (call : CoexCall) :
    viewStep view call = some view := if_pos hstopped

theorem exec_viewStep_of_stopped (hstopped : view.mStopped = true) (calls : List CoexCall) :
    exec viewStep view calls = some view := by
  induction calls with
  | nil => rfl
  | cons call calls ih =>
    rw [exec_cons, viewStep_of_stopped hstopped]
    exact ih

/-- The average is the one of the total and the requests. -/
def Averaged (view : CoexView) : Prop :=
  view.metrics .avgRequestToGrantTime =
    (view.totalReqToGrantDuration / (view.metrics .requestCount).toUInt64).toUInt32

/-- What a direction knows of its events, unless the counting has stopped. -/
structure Tallies (calls : List CoexCall) (view view' : CoexView) : Prop extends
    view'.Totaled where
  requestCount : (view'.metrics .requestCount).toNat =
    (view.metrics .requestCount).toNat + requests calls
  duration : view'.totalReqToGrantDuration.toNat =
    view.totalReqToGrantDuration.toNat + grantDurations view.timestamp calls
  average : calls ≠ [] ∨ view.Averaged → view'.Averaged

theorem Stored.tallies_cons (htotaled : view.Totaled) (h : view.Stored call view')
    {final : CoexView} (hrest : Tallies calls view' final) :
    Tallies (call :: calls) view final where
  toTotaled := hrest.toTotaled
  requestCount := by
    have hcount := h.metrics .requestCount (by decide)
    rw [dueValue, if_neg (by decide), dueCount] at hcount
    rw [hrest.requestCount, hcount, requests, requests, List.countP_cons]
    simp only [CoexCall.increment, decide_eq_true_eq]
    omega
  duration := by
    rw [hrest.duration, h.total_toNat htotaled, h.timestamp, grantDurations]
    omega
  average _ := hrest.average (.inr h.average)

/-- A direction alone. -/
theorem tallies_of_run (htotaled : view.Totaled) (hrun : exec viewStep view calls = some view')
    (hrunning : view'.mStopped = false) : Tallies calls view view' := by
  induction calls generalizing view with
  | nil =>
    obtain rfl : view = view' := by simpa using hrun
    exact ⟨htotaled, rfl, rfl, fun h ↦ h.resolve_left fun hne ↦ hne rfl⟩
  | cons call calls ih =>
    obtain ⟨next, hnext, hrest⟩ := (exec_cons_eq_some _).mp hrun
    cases hstopped : view.mStopped with
    | true =>
      rw [exec_viewStep_of_stopped hstopped] at hrun
      obtain rfl := Option.some.inj hrun
      exact absurd (hstopped.symm.trans hrunning) Bool.noConfusion
    | false =>
      rcases slRailUtilCoexOtEvents_cases htotaled.toAccounted hstopped call with
        ⟨hnone, -⟩ | ⟨stored, hstored, hspec⟩
      · exact absurd (hnone.symm.trans hnext) nofun
      · obtain rfl : stored = next := Option.some.inj (hstored.symm.trans hnext)
        rcases hspec with hspec | hhalted
        · exact hspec.tallies_cons htotaled (ih (hspec.totaled htotaled) hrest)
        · rw [exec_viewStep_of_stopped hhalted.mStopped] at hrest
          obtain rfl := Option.some.inj hrest
          exact absurd (hhalted.mStopped.symm.trans hrunning) Bool.noConfusion

end CoexView

end OtEfr32.Coex
