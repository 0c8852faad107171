import OtEfr32.Data.WideClock

/-!
# The 64-bit time

`otPlatTimeGet` extends the 32-bit microsecond clock of RAIL.  Its static variables hold the last
reading and the number of wraps seen so far, so that its result depends on every earlier call.
`TimeGet.At` says that the static variables are those of a call at a given true time;
`otPlatTimeGet_law` is what a call less than one wrap period later makes of them.
-/

namespace OtEfr32.Alarm

open Data

/-- One wrap period of the RAIL clock, in microseconds. -/
abbrev wrapPeriod : ℕ := 2 ^ 32

/-- `sl_rail_get_time` at a true time. -/
def railGetTime (now : ℕ) : UInt32 := UInt32.ofNat now

/-- The static variables of `otPlatTimeGet`. -/
structure TimeGet where
  timerWraps : UInt32 := 0
  prev32TimeUs : UInt32 := 0
  deriving DecidableEq, Repr

/-- `otPlatTimeGet`: the critical section, with the result it computes. -/
def otPlatTimeGet (state : TimeGet) (now32TimeUs : UInt32) : UInt64 × TimeGet :=
  let timerWraps :=
    if now32TimeUs < state.prev32TimeUs then state.timerWraps + 1 else state.timerWraps
  (joinWords timerWraps now32TimeUs, { timerWraps, prev32TimeUs := now32TimeUs })

/-- The static variables are those of a call at the true time `time`. -/
structure TimeGet.At (state : TimeGet) (time : ℕ) : Prop where
  wraps : state.timerWraps = UInt32.ofNat (time / wrapPeriod)
  reading : state.prev32TimeUs = railGetTime time

/-- Before the first call, the static variables are those of a call at time zero. -/
theorem TimeGet.at_zero : TimeGet.At {} 0 where
  wraps := rfl
  reading := rfl

variable {state : TimeGet} {last now : ℕ}

/-- The wraps counted by a call are those of the true time. -/
theorem otPlatTimeGet_wraps (hat : state.At last) (hle : last ≤ now)
    (hlt : now < last + wrapPeriod) :
    (otPlatTimeGet state (railGetTime now)).2.timerWraps =
      UInt32.ofNat (now / wrapPeriod) := by
  have hwrap : railGetTime now < state.prev32TimeUs ↔ now % wrapPeriod < last % wrapPeriod := by
    rw [hat.reading, UInt32.lt_iff_toNat_lt, railGetTime, railGetTime, UInt32.toNat_ofNat',
      UInt32.toNat_ofNat']
  have hdiv := div_period_of_lt hle hlt
  simp only [otPlatTimeGet, hat.wraps, hwrap]
  by_cases hback : now % wrapPeriod < last % wrapPeriod
  · rw [if_pos hback] at hdiv ⊢
    rw [hdiv, UInt32.ofNat_add]
    rfl
  · rw [if_neg hback] at hdiv ⊢
    rw [hdiv, Nat.add_zero]

/-- A call less than one wrap period after the last one returns the true time, and its static
variables are those of this time. -/
theorem otPlatTimeGet_law (hat : state.At last) (hle : last ≤ now)
    (hlt : now < last + wrapPeriod) :
    (otPlatTimeGet state (railGetTime now)).1 = UInt64.ofNat now ∧
      (otPlatTimeGet state (railGetTime now)).2.At now := by
  have hwraps := otPlatTimeGet_wraps hat hle hlt
  constructor
  case left =>
    calc (otPlatTimeGet state (railGetTime now)).1
      _ = joinWords (otPlatTimeGet state (railGetTime now)).2.timerWraps (railGetTime now) := rfl
      _ = joinWords (UInt32.ofNat (now / wrapPeriod)) (railGetTime now) := by rw [hwraps]
      _ = UInt64.ofNat now := joinWords_ofNat now
  case right =>
    constructor
    case wraps => exact hwraps
    case reading => rfl

end OtEfr32.Alarm
