import OtEfr32.Alarm.TimeGet
import OtEfr32.Transition.Runs

/-!
# Receive timestamps

RAIL stamps a packet with the low word of its sync time.  `updateRxFrameTimestamp` adds the high
word, from the 64-bit time at which it runs and one comparison of low words.  It runs in interrupt
context for an ACK and in the main loop for a data frame, and both share the static variables of
`otPlatTimeGet` with every other caller.

The system below has the RAIL clock as an unbounded time.  A call of `updateRxFrameTimestamp` takes
two steps, the call of `otPlatTimeGet` and the store, so that anything may happen in between.
-/

namespace OtEfr32.Radio

open Alarm Data Transition

/-- The time that `updateRxFrameTimestamp` stores, from the current time and the low word of the
sync time. -/
def rxFrameTimestamp (railUsTimeNow : UInt64) (aTimestamp : UInt32) : UInt64 :=
  let railUsTimerWraps := (railUsTimeNow >>> 32).toUInt32
  let railUsTimerWraps :=
    if railUsTimeNow &&& 0xFFFFFFFF ≤ aTimestamp.toUInt64 then railUsTimerWraps - 1
    else railUsTimerWraps
  aTimestamp.toUInt64 + (railUsTimerWraps.toUInt64 <<< 32)

/-- The comparison of low words tells whether the sync time is in an earlier wrap period. -/
theorem rxFrameTimestamp_lowWords (now syncTime : ℕ) :
    UInt64.ofNat now &&& 0xFFFFFFFF ≤ (railGetTime syncTime).toUInt64 ↔
      now % wrapPeriod ≤ syncTime % wrapPeriod := by
  have hmask : (0xFFFFFFFF : UInt64).toNat = 2 ^ 32 - 1 := rfl
  rw [UInt64.le_iff_toNat_le, UInt64.toNat_and, hmask, Nat.and_two_pow_sub_one_eq_mod,
    UInt64.toNat_ofNat', UInt32.toNat_toUInt64, railGetTime, UInt32.toNat_ofNat',
    Nat.mod_mod_of_dvd _ (by decide)]

theorem rxFrameTimestamp_highWord (now : ℕ) :
    (UInt64.ofNat now >>> 32).toUInt32 = UInt32.ofNat (now / wrapPeriod) := by
  have hshift : (32 : UInt64).toNat % 64 = 32 := rfl
  apply UInt32.toNat_inj.mp
  rw [UInt64.toNat_toUInt32, UInt64.toNat_shiftRight, hshift, Nat.shiftRight_eq_div_pow,
    UInt64.toNat_ofNat', UInt32.toNat_ofNat', wrapPeriod]
  omega

/-- A sync time less than one wrap period ago is recovered from its low word. -/
theorem rxFrameTimestamp_law {now syncTime : ℕ} (hpast : syncTime < now)
    (hrange : now < syncTime + wrapPeriod) :
    rxFrameTimestamp (UInt64.ofNat now) (railGetTime syncTime) = UInt64.ofNat syncTime := by
  have hdiv := div_period_of_lt (Nat.le_of_lt hpast) hrange
  have hne := mod_period_ne_of_lt hpast hrange
  have hjoin : ∀ wraps : UInt32, (railGetTime syncTime).toUInt64 + (wraps.toUInt64 <<< 32) =
      joinWords wraps (railGetTime syncTime) := fun wraps ↦ UInt64.add_comm _ _
  have hwraps : (if now % wrapPeriod ≤ syncTime % wrapPeriod
      then UInt32.ofNat (now / wrapPeriod) - 1 else UInt32.ofNat (now / wrapPeriod)) =
      UInt32.ofNat (syncTime / wrapPeriod) := by
    by_cases hback : now % wrapPeriod < syncTime % wrapPeriod
    · rw [if_pos hback] at hdiv
      rw [if_pos (Nat.le_of_lt hback), hdiv, UInt32.ofNat_add]
      exact UInt32.add_sub_cancel _ _
    · rw [if_neg hback, Nat.add_zero] at hdiv
      rw [if_neg (by omega), hdiv]
  calc rxFrameTimestamp (UInt64.ofNat now) (railGetTime syncTime)
    _ = joinWords (if now % wrapPeriod ≤ syncTime % wrapPeriod
          then UInt32.ofNat (now / wrapPeriod) - 1 else UInt32.ofNat (now / wrapPeriod))
          (railGetTime syncTime) := by
        simp only [rxFrameTimestamp, rxFrameTimestamp_highWord, rxFrameTimestamp_lowWords, hjoin]
    _ = joinWords (UInt32.ofNat (syncTime / wrapPeriod)) (railGetTime syncTime) := by rw [hwraps]
    _ = UInt64.ofNat syncTime := joinWords_ofNat syncTime

/-! ## The callers of `otPlatTimeGet` -/

/-- History: a call of `otPlatTimeGet`, with the true time it was made at. -/
structure TimeCall where
  now : ℕ
  result : UInt64
  deriving DecidableEq, Repr

/-- A call of `updateRxFrameTimestamp` behind its call of `otPlatTimeGet`. -/
structure TimestampUpdate where
  aTimestamp : UInt32
  railUsTimeNow : UInt64
  /-- History: the true sync time of the packet. -/
  syncTime : ℕ
  /-- History: the true time at which `updateRxFrameTimestamp` ran. -/
  runTime : ℕ
  deriving DecidableEq, Repr

/-- The timestamp of `sReceiveAck` or of `sReceive`. -/
structure RxFrameTime where
  mTimestamp : UInt64 := 0
  /-- The call of `updateRxFrameTimestamp` that is about to store. -/
  updating : Option TimestampUpdate := none
  /-- History: the call that stored `mTimestamp`. -/
  stored : Option TimestampUpdate := none
  deriving DecidableEq, Repr

structure TimeState where
  /-- The RAIL clock. -/
  now : ℕ
  timeGet : TimeGet := {}
  /-- History: the calls of `otPlatTimeGet`, the last one first. -/
  calls : List TimeCall := []
  sReceiveAck : RxFrameTime := {}
  sReceive : RxFrameTime := {}
  deriving DecidableEq, Repr

namespace TimeState

/-- The frame whose timestamp a call of `updateRxFrameTimestamp` stores. -/
def frameTime (state : TimeState) (aIsAckFrame : Bool) : RxFrameTime :=
  if aIsAckFrame then state.sReceiveAck else state.sReceive

def setFrameTime (state : TimeState) (aIsAckFrame : Bool) (frame : RxFrameTime) : TimeState :=
  if aIsAckFrame then { state with sReceiveAck := frame } else { state with sReceive := frame }

/-- A call of `otPlatTimeGet` by anyone. -/
def callTimeGet (state : TimeState) : UInt64 × TimeState :=
  let call := otPlatTimeGet state.timeGet (railGetTime state.now)
  (call.1, { state with
    timeGet := call.2
    calls := { now := state.now, result := call.1 } :: state.calls })

/-- The true time of the last call of `otPlatTimeGet`, and zero before the first one. -/
def lastCall (state : TimeState) : ℕ :=
  match state.calls with
  | [] => 0
  | call :: _ => call.now

theorem setFrameTime_now (state : TimeState) (aIsAckFrame : Bool) (frame : RxFrameTime) :
    (state.setFrameTime aIsAckFrame frame).now = state.now := by
  cases aIsAckFrame <;> rfl

theorem setFrameTime_timeGet (state : TimeState) (aIsAckFrame : Bool) (frame : RxFrameTime) :
    (state.setFrameTime aIsAckFrame frame).timeGet = state.timeGet := by
  cases aIsAckFrame <;> rfl

theorem setFrameTime_calls (state : TimeState) (aIsAckFrame : Bool) (frame : RxFrameTime) :
    (state.setFrameTime aIsAckFrame frame).calls = state.calls := by
  cases aIsAckFrame <;> rfl

theorem frameTime_setFrameTime (state : TimeState) (aIsAckFrame other : Bool)
    (frame : RxFrameTime) :
    (state.setFrameTime aIsAckFrame frame).frameTime other =
      if other = aIsAckFrame then frame else state.frameTime other := by
  cases aIsAckFrame <;> cases other <;> rfl

end TimeState

/-- The steps: time passes, anyone calls `otPlatTimeGet`, and `updateRxFrameTimestamp` calls it
and then stores. -/
inductive TimeEvent where
  | elapse (duration : ℕ)
  | otPlatTimeGet
  | updateRxFrameTimestamp (aIsAckFrame : Bool) (syncTime : ℕ)
  | storeTimestamp (aIsAckFrame : Bool)
  deriving DecidableEq, Repr

def timeStep (state : TimeState) : TimeEvent → Option TimeState
  | .elapse duration => some { state with now := state.now + duration }
  | .otPlatTimeGet => some state.callTimeGet.2
  | .updateRxFrameTimestamp aIsAckFrame syncTime =>
    match (state.frameTime aIsAckFrame).updating with
    | some _ => none
    | none =>
      some <| state.callTimeGet.2.setFrameTime aIsAckFrame
        { state.frameTime aIsAckFrame with
          updating := some
            { aTimestamp := railGetTime syncTime
              railUsTimeNow := state.callTimeGet.1
              syncTime
              runTime := state.now } }
  | .storeTimestamp aIsAckFrame =>
    match (state.frameTime aIsAckFrame).updating with
    | none => none
    | some update =>
      some <| state.setFrameTime aIsAckFrame
        { mTimestamp := rxFrameTimestamp update.railUsTimeNow update.aTimestamp
          updating := none
          stored := some update }

/-- The first call of `otPlatTimeGet` is made before the clock wraps, and every later one less than
one wrap period after the call before it. -/
def CallInTime (state : TimeState) : TimeEvent → Prop
  | .elapse _ | .storeTimestamp _ => True
  | .otPlatTimeGet | .updateRxFrameTimestamp _ _ => state.now < state.lastCall + wrapPeriod

instance (state : TimeState) (event : TimeEvent) : Decidable (CallInTime state event) := by
  unfold CallInTime
  cases event <;> infer_instance

/-! ## True times -/

/-- The readings of a call of `updateRxFrameTimestamp` are those of its true times. -/
structure TimestampUpdate.Faithful (update : TimestampUpdate) : Prop where
  now : update.railUsTimeNow = UInt64.ofNat update.runTime
  sync : update.aTimestamp = railGetTime update.syncTime

/-- What holds of a frame at any time: calls in progress have true readings, and a timestamp is
that of the call which stored it. -/
structure RxFrameTime.Faithful (frame : RxFrameTime) : Prop where
  updating : ∀ update, frame.updating = some update → update.Faithful
  stored : ∀ update, frame.stored = some update → update.Faithful ∧
    frame.mTimestamp = rxFrameTimestamp update.railUsTimeNow update.aTimestamp

/-- The invariant of all runs whose calls are in time. -/
structure TimeState.Faithful (state : TimeState) : Prop where
  timeGet : state.timeGet.At state.lastCall
  past : state.lastCall ≤ state.now
  results : ∀ call ∈ state.calls, call.result = UInt64.ofNat call.now
  ordered : state.calls.Pairwise fun later earlier ↦ earlier.now ≤ later.now
  frames : ∀ aIsAckFrame, (state.frameTime aIsAckFrame).Faithful

theorem TimeState.faithful_initial (start : ℕ) : TimeState.Faithful { now := start } where
  timeGet := TimeGet.at_zero
  past := Nat.zero_le start
  results := by simp
  ordered := List.Pairwise.nil
  frames := by
    intro aIsAckFrame
    cases aIsAckFrame <;> exact ⟨by simp [TimeState.frameTime], by simp [TimeState.frameTime]⟩

variable {state : TimeState}

/-- Every earlier call was made no later than the last one. -/
theorem TimeState.Faithful.call_le_lastCall (h : state.Faithful) :
    ∀ call ∈ state.calls, call.now ≤ state.lastCall := by
  intro call hcall
  have hordered := h.ordered
  unfold TimeState.lastCall
  cases hcalls : state.calls with
  | nil => simp [hcalls] at hcall
  | cons last calls =>
    rw [hcalls] at hcall hordered
    cases List.mem_cons.mp hcall with
    | inl heq => exact Nat.le_of_eq (congrArg TimeCall.now heq)
    | inr hmem => exact (List.pairwise_cons.mp hordered).1 call hmem

/-- A call in time keeps the invariant and returns the true time. -/
theorem TimeState.Faithful.callTimeGet (h : state.Faithful)
    (hintime : state.now < state.lastCall + wrapPeriod) :
    state.callTimeGet.2.Faithful ∧ state.callTimeGet.1 = UInt64.ofNat state.now := by
  have hlaw := otPlatTimeGet_law h.timeGet h.past hintime
  have hfaithful : state.callTimeGet.2.Faithful := by
    constructor
    case timeGet => exact hlaw.2
    case past => exact Nat.le_refl state.now
    case results =>
      intro call hcall
      cases List.mem_cons.mp hcall with
      | inl heq =>
        rw [heq]
        exact hlaw.1
      | inr hmem => exact h.results call hmem
    case ordered =>
      apply List.Pairwise.cons _ h.ordered
      intro call hcall
      exact Nat.le_trans (h.call_le_lastCall call hcall) h.past
    case frames => exact h.frames
  exact ⟨hfaithful, hlaw.1⟩

/-- Storing to one frame keeps the invariant, if the frame stays faithful. -/
theorem TimeState.Faithful.setFrameTime (h : state.Faithful) (aIsAckFrame : Bool)
    {frame : RxFrameTime} (hframe : frame.Faithful) :
    (state.setFrameTime aIsAckFrame frame).Faithful := by
  have hlast : (state.setFrameTime aIsAckFrame frame).lastCall = state.lastCall := by
    unfold TimeState.lastCall
    rw [state.setFrameTime_calls]
  constructor
  case timeGet =>
    rw [hlast, state.setFrameTime_timeGet]
    exact h.timeGet
  case past =>
    rw [hlast, state.setFrameTime_now]
    exact h.past
  case results =>
    rw [state.setFrameTime_calls]
    exact h.results
  case ordered =>
    rw [state.setFrameTime_calls]
    exact h.ordered
  case frames =>
    intro other
    rw [state.frameTime_setFrameTime]
    split
    · exact hframe
    · exact h.frames other

theorem TimeState.Faithful.step {event : TimeEvent} {next : TimeState} (h : state.Faithful)
    (hintime : CallInTime state event) (hstep : timeStep state event = some next) :
    next.Faithful := by
  cases event with
  | elapse duration =>
    cases hstep
    exact ⟨h.timeGet, Nat.le_add_right_of_le h.past, h.results, h.ordered, h.frames⟩
  | otPlatTimeGet =>
    cases hstep
    exact (h.callTimeGet hintime).1
  | updateRxFrameTimestamp aIsAckFrame syncTime =>
    have hcall := h.callTimeGet hintime
    simp only [timeStep] at hstep
    split at hstep
    case h_1 => cases hstep
    case h_2 =>
      cases hstep
      apply hcall.1.setFrameTime
      constructor
      case updating =>
        intro update hupdate
        cases hupdate
        exact ⟨hcall.2, rfl⟩
      case stored => exact (h.frames aIsAckFrame).stored
  | storeTimestamp aIsAckFrame =>
    simp only [timeStep] at hstep
    split at hstep
    case h_1 => cases hstep
    case h_2 update hupdating =>
      cases hstep
      apply h.setFrameTime
      constructor
      case updating => simp
      case stored =>
        intro stored hstored
        cases hstored
        exact ⟨(h.frames aIsAckFrame).updating update hupdating, rfl⟩

/-- What the callers of `otPlatTimeGet` and the readers of timestamps rely on.  Results are the
true 64-bit times: they differ by the time between the calls, and do not decrease but where the
64-bit time itself wraps. -/
structure TimeState.TrueTimes (state : TimeState) : Prop where
  results : ∀ call ∈ state.calls, call.result = UInt64.ofNat call.now
  ordered : state.calls.Pairwise fun later earlier ↦
    earlier.now ≤ later.now ∧
      later.result - earlier.result = UInt64.ofNat (later.now - earlier.now) ∧
      (earlier.now / 2 ^ 64 = later.now / 2 ^ 64 → earlier.result ≤ later.result)
  timestamps : ∀ aIsAckFrame update, (state.frameTime aIsAckFrame).stored = some update →
    update.syncTime < update.runTime → update.runTime < update.syncTime + wrapPeriod →
    (state.frameTime aIsAckFrame).mTimestamp = UInt64.ofNat update.syncTime

theorem TimeState.Faithful.trueTimes (h : state.Faithful) : state.TrueTimes := by
  constructor
  case results => exact h.results
  case ordered =>
    apply h.ordered.imp_of_mem
    intro later earlier hlater hearlier hle
    rw [h.results later hlater, h.results earlier hearlier]
    have hsum : later.now = (later.now - earlier.now) + earlier.now := by omega
    have hdiff : UInt64.ofNat later.now - UInt64.ofNat earlier.now =
        UInt64.ofNat (later.now - earlier.now) := by
      calc UInt64.ofNat later.now - UInt64.ofNat earlier.now
        _ = UInt64.ofNat (later.now - earlier.now) + UInt64.ofNat earlier.now -
              UInt64.ofNat earlier.now := by
            rw [← UInt64.ofNat_add, ← hsum]
        _ = UInt64.ofNat (later.now - earlier.now) := UInt64.add_sub_cancel _ _
    refine ⟨hle, hdiff, fun hwrap ↦ ?_⟩
    rw [UInt64.le_iff_toNat_le, UInt64.toNat_ofNat', UInt64.toNat_ofNat']
    omega
  case timestamps =>
    intro aIsAckFrame update hstored hpast hrange
    have hframe := (h.frames aIsAckFrame).stored update hstored
    rw [hframe.2, hframe.1.now, hframe.1.sync]
    exact rxFrameTimestamp_law hpast hrange

/-- In a run whose calls of `otPlatTimeGet` are less than one wrap period apart, the first one
before the first wrap, every result is the true time, and so is every timestamp of a packet that
was received less than one wrap period before `updateRxFrameTimestamp` ran. -/
theorem run_trueTimes (start : ℕ) {events : List TimeEvent}
    (hintime : Along timeStep CallInTime { now := start } events) :
    Throughout timeStep TimeState.TrueTimes { now := start } events := by
  have hfaithful : Throughout timeStep TimeState.Faithful { now := start } events :=
    hintime.throughout (fun _ _ _ h hcall hstep ↦ h.step hcall hstep)
      (TimeState.faithful_initial start)
  exact hfaithful.mono fun _ h ↦ h.trueTimes

/-- An ACK and a data frame received before the clock wraps; the ACK interrupts the update of the
data frame, behind the wrap. -/
def wrapRun : List TimeEvent :=
  [.otPlatTimeGet, .elapse 400, .updateRxFrameTimestamp false 4294967200, .elapse 100,
    .updateRxFrameTimestamp true 4294967250, .storeTimestamp true, .storeTimestamp false]

theorem run_trueTimes_wrapRun :
    Throughout timeStep TimeState.TrueTimes { now := 4294967000 } wrapRun :=
  run_trueTimes 4294967000 (by decide)

example : (exec timeStep { now := 4294967000 } wrapRun).map
    (fun final ↦ (final.sReceiveAck.mTimestamp, final.sReceive.mTimestamp)) =
      some (4294967250, 4294967200) := by decide

end OtEfr32.Radio
