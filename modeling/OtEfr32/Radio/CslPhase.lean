import Mathlib.Algebra.Group.Int.Defs
import Mathlib.Algebra.Group.Nat.Defs
import Mathlib.Tactic.Set
import OtEfr32.Data.CyclicSlots
import OtEfr32.Platform.Error

/-!
# The phase of coordinated sampled listening

A CSL receiver announces in how many units of ten symbols its next sample begins, counted from the
end of the SHR of the frame that carries the announcement.  Sample time and transmit time are known
modulo `2 ^ 32`, and `getCslPhase` reduces each of them by the period before it subtracts.  Since
the period does not divide `2 ^ 32`, that is the phase between the true times only up to a drift:
one word for every wrap of the clock between the two, and the current time where the transmit time
is zero and stands for "now".
-/

namespace OtEfr32.Radio

open Data

/-- `OT_US_PER_TEN_SYMBOLS`. -/
def otUsPerTenSymbols : UInt32 := 160

/-- The parameters of CSL: `sCslPeriod` and `sCslSampleTime`. -/
structure CslReceiver where
  sCslPeriod : UInt32 := 0
  sCslSampleTime : UInt32 := 0
  deriving DecidableEq, Repr

namespace CslReceiver

variable (csl : CslReceiver)

/-- `otPlatRadioEnableCsl`. -/
def otPlatRadioEnableCsl (canAccessPal : Bool) (aCslPeriod : UInt32) : OtError × CslReceiver :=
  if canAccessPal then (.none, { csl with sCslPeriod := aCslPeriod }) else (.rejected, csl)

/-- `otPlatRadioUpdateCslSampleTime`. -/
def otPlatRadioUpdateCslSampleTime (canAccessPal : Bool) (aCslSampleTime : UInt32) :
    CslReceiver :=
  if canAccessPal then { csl with sCslSampleTime := aCslSampleTime } else csl

def cslPeriodInUs : UInt32 := csl.sCslPeriod * otUsPerTenSymbols

/-- The time from which the phase is counted: zero stands for the current time. -/
def phaseTime (alarmMicroNow shrTxTime : UInt32) : UInt32 :=
  if shrTxTime = 0 then alarmMicroNow else shrTxTime

/-- The sum of which `diff` is the remainder. -/
def phaseSum (shrTxTime : UInt32) : UInt32 :=
  csl.sCslSampleTime % csl.cslPeriodInUs - shrTxTime % csl.cslPeriodInUs + csl.cslPeriodInUs

/-- `getCslPhase`; it is `none` for a division by zero. -/
def getCslPhase (alarmMicroNow shrTxTime : UInt32) : Option UInt16 :=
  if csl.cslPeriodInUs = 0 then none
  else
    let diff := csl.phaseSum (phaseTime alarmMicroNow shrTxTime) % csl.cslPeriodInUs
    some (diff / otUsPerTenSymbols).toUInt16

end CslReceiver

/-! ## The law of the phase -/

/-- The receiver with a period and a sample time. -/
def cslReceiver (period sampleTime : ℕ) : CslReceiver :=
  ⟨UInt32.ofNat period, UInt32.ofNat sampleTime⟩

/-- It is what the stack leaves when it sets both. -/
theorem otPlatRadioUpdateCslSampleTime_enableCsl (csl : CslReceiver) (period sampleTime : ℕ) :
    (csl.otPlatRadioEnableCsl true (UInt32.ofNat period)).2.otPlatRadioUpdateCslSampleTime true
      (UInt32.ofNat sampleTime) = cslReceiver period sampleTime := rfl

/-- What `getCslPhase` should return for true times: the unit of the period in which the sample
begins, computed without an overflow. -/
structure PhaseLaw (period sampleTime txTime : ℕ) (alarmMicroNow : UInt32) : Prop where
  product : (cslReceiver period sampleTime).cslPeriodInUs.toNat = 160 * period
  sum : ∀ time : UInt32, ((cslReceiver period sampleTime).phaseSum time).toNat +
    time.toNat % (160 * period) = sampleTime % 2 ^ 32 % (160 * period) + 160 * period
  phase : ∃ phase, (cslReceiver period sampleTime).getCslPhase alarmMicroNow
      (UInt32.ofNat txTime) = some phase ∧
    phase.toNat < period ∧
    (phase.toNat : ℤ) = ((sampleTime : ℤ) - txTime) % (160 * period) / 160

/-- The drift of the reduced times against the true ones: a word for every wrap of the clock between
the two, and the current time if zero stands for it. -/
def phaseDrift (sampleTime txTime : ℕ) (alarmMicroNow : UInt32) : ℤ :=
  2 ^ 32 * ((sampleTime / 2 ^ 32 : ℕ) - (txTime / 2 ^ 32 : ℕ)) +
    if txTime % 2 ^ 32 = 0 then alarmMicroNow.toNat else 0

/-- Modulo the period, the drift stays in the unit of the true phase. -/
def DriftHarmless (period sampleTime txTime : ℕ) (alarmMicroNow : UInt32) : Prop :=
  let drift := phaseDrift sampleTime txTime alarmMicroNow % (160 * period)
  let offset := ((sampleTime : ℤ) - txTime) % 160
  drift ≤ offset ∨ offset + 160 * period < 160 + drift

instance (period sampleTime txTime : ℕ) (alarmMicroNow : UInt32) :
    Decidable (DriftHarmless period sampleTime txTime alarmMicroNow) := by
  unfold DriftHarmless
  infer_instance

/-! ## The computation in words -/

variable {period : ℕ} (sampleTime txTime : ℕ) (alarmMicroNow : UInt32)

theorem cslPeriodInUs_toNat (hmax : period ≤ 65535) :
    (cslReceiver period sampleTime).cslPeriodInUs.toNat = 160 * period := by
  simp only [CslReceiver.cslPeriodInUs, cslReceiver, otUsPerTenSymbols, UInt32.toNat_mul,
    UInt32.toNat_ofNat', UInt32.reduceToNat]
  omega

/-- The difference may be negative, but not the sum. -/
theorem phaseSum_toNat (hpos : 0 < period) (hmax : period ≤ 65535) (time : UInt32) :
    ((cslReceiver period sampleTime).phaseSum time).toNat + time.toNat % (160 * period) =
      sampleTime % 2 ^ 32 % (160 * period) + 160 * period := by
  have hcycle : 0 < 160 * period := by omega
  have hsample := Nat.mod_lt (sampleTime % 2 ^ 32) hcycle
  have htime := Nat.mod_lt time.toNat hcycle
  have hsampleTime : (cslReceiver period sampleTime).sCslSampleTime.toNat =
      sampleTime % 2 ^ 32 := UInt32.toNat_ofNat'
  rw [CslReceiver.phaseSum, UInt32.toNat_add, UInt32.toNat_sub, UInt32.toNat_mod,
    UInt32.toNat_mod, cslPeriodInUs_toNat sampleTime hmax, hsampleTime]
  omega

/-- The transmit time with its drift. -/
theorem phaseTime_toNat :
    ((CslReceiver.phaseTime alarmMicroNow (UInt32.ofNat txTime)).toNat : ℤ) =
      (sampleTime % 2 ^ 32 : ℕ) -
        ((sampleTime : ℤ) - txTime - phaseDrift sampleTime txTime alarmMicroNow) := by
  have hzero : UInt32.ofNat txTime = 0 ↔ txTime % 2 ^ 32 = 0 := by
    rw [← UInt32.toNat_inj, UInt32.toNat_ofNat']
    rfl
  unfold CslReceiver.phaseTime phaseDrift
  by_cases hnow : txTime % 2 ^ 32 = 0
  · rw [if_pos (hzero.mpr hnow), if_pos hnow]
    omega
  · rw [if_neg (fun h ↦ hnow (hzero.mp h)), if_neg hnow, UInt32.toNat_ofNat']
    omega

/-- Reducing two times before they are subtracted does not change the remainder. -/
theorem emod_of_add_mod_eq {sum sample time cycle : ℕ}
    (hsum : sum + time % cycle = sample % cycle + cycle) :
    ((sum % cycle : ℕ) : ℤ) = ((sample : ℤ) - time) % cycle := by
  have hsample := Nat.div_add_mod sample cycle
  have htime := Nat.div_add_mod time cycle
  have hsplit : (sum : ℤ) = (sample : ℤ) - time +
      cycle * (1 - (sample / cycle : ℕ) + (time / cycle : ℕ)) := by
    rw [Int.mul_add, Int.mul_sub, Int.mul_one]
    omega
  rw [Int.natCast_emod, hsplit, Int.add_mul_emod_self_left]

/-- The phase that is returned: that of the true times less the drift. -/
theorem getCslPhase_eq (hpos : 0 < period) (hmax : period ≤ 65535) :
    ∃ phase, (cslReceiver period sampleTime).getCslPhase alarmMicroNow (UInt32.ofNat txTime) =
        some phase ∧
      phase.toNat < period ∧
      (phase.toNat : ℤ) = ((sampleTime : ℤ) - txTime -
        phaseDrift sampleTime txTime alarmMicroNow) % (160 * period) / 160 := by
  have hcycle : 0 < 160 * period := by omega
  have hperiod := cslPeriodInUs_toNat sampleTime hmax
  set csl := cslReceiver period sampleTime
  set time := CslReceiver.phaseTime alarmMicroNow (UInt32.ofNat txTime) with htime
  have hnonzero : csl.cslPeriodInUs ≠ 0 := by
    intro hzero
    rw [hzero] at hperiod
    exact absurd hperiod (Nat.ne_of_lt hcycle)
  have hsum := phaseSum_toNat sampleTime hpos hmax time
  have hremainder := emod_of_add_mod_eq hsum
  have hbelow := Nat.mod_lt (csl.phaseSum time).toNat hcycle
  have hunits : (csl.phaseSum time % csl.cslPeriodInUs / otUsPerTenSymbols).toUInt16.toNat =
      (csl.phaseSum time).toNat % (160 * period) / 160 := by
    calc
      _ = (csl.phaseSum time).toNat % (160 * period) / 160 % 65536 := by
        rw [UInt32.toNat_toUInt16, UInt32.toNat_div, UInt32.toNat_mod, hperiod]
        rfl
      _ = (csl.phaseSum time).toNat % (160 * period) / 160 := by omega
  refine ⟨_, if_neg hnonzero, ?_, ?_⟩
  · rw [← htime, hunits]
    omega
  · rw [← htime, hunits, Int.natCast_ediv, hremainder, phaseTime_toNat sampleTime,
      Int.sub_sub_self, Int.natCast_mul]
    rfl

/-- Between times in the same period of the clock, other than zero, there is no drift. -/
theorem driftHarmless_of_sameWord (hperiod : sampleTime / 2 ^ 32 = txTime / 2 ^ 32)
    (hnonzero : txTime % 2 ^ 32 ≠ 0) :
    DriftHarmless period sampleTime txTime alarmMicroNow := by
  have hdrift : phaseDrift sampleTime txTime alarmMicroNow = 0 := by
    rw [phaseDrift, hperiod, if_neg hnonzero, Int.sub_self, Int.mul_zero]
    rfl
  apply Or.inl
  rw [hdrift, Int.zero_emod]
  exact Int.emod_nonneg _ (by decide)

/-- For every period in the range of the stack and all times, the phase is that of the true times
exactly if the drift is harmless. -/
theorem phaseLaw_iff (hpos : 0 < period) (hmax : period ≤ 65535) :
    PhaseLaw period sampleTime txTime alarmMicroNow ↔
      DriftHarmless period sampleTime txTime alarmMicroNow := by
  have hcycle : (0 : ℤ) < 160 * period := by omega
  have hslot := @slot_sub_eq_iff 160 (160 * period) ((sampleTime : ℤ) - txTime)
    (phaseDrift sampleTime txTime alarmMicroNow) (by decide) (Int.dvd_mul_right 160 period) hcycle
  obtain ⟨phase, hphase, hlt, hvalue⟩ := getCslPhase_eq sampleTime txTime alarmMicroNow hpos hmax
  constructor
  · intro hlaw
    obtain ⟨other, hother, _, htrue⟩ := hlaw.phase
    obtain rfl : other = phase := Option.some.inj (hother.symm.trans hphase)
    exact hslot.mp (hvalue.symm.trans htrue)
  · intro hharmless
    exact {
      product := cslPeriodInUs_toNat sampleTime hmax
      sum := phaseSum_toNat sampleTime hpos hmax
      phase := ⟨phase, hphase, hlt, hvalue.trans (hslot.mpr hharmless)⟩ }

/-- A sample a quarter of a second after the transmission, no wrap in between. -/
theorem phaseLaw_sameWord : PhaseLaw 3125 350000 100000 0 :=
  (phaseLaw_iff 350000 100000 0 (by decide) (by decide)).mpr
    (driftHarmless_of_sameWord 350000 100000 0 (by decide) (by decide))

/-- A sample a quarter of a second after the transmission: a wrap in between puts it 204 units late,
and a transmission at the wrap itself is counted from the current time, here 5 ms before. -/
theorem not_phaseLaw_wrap :
    ¬ PhaseLaw 3125 (2 ^ 32 + 249000) (2 ^ 32 - 1000) 0 ∧
      ¬ PhaseLaw 3125 (2 ^ 32 + 250000) (2 ^ 32) (UInt32.ofNat (2 ^ 32 - 5000)) := by
  constructor
  · intro hlaw
    obtain ⟨phase, hphase, _, hvalue⟩ := hlaw.phase
    have hcode : (cslReceiver 3125 (2 ^ 32 + 249000)).getCslPhase 0
        (UInt32.ofNat (2 ^ 32 - 1000)) = some 1766 := by decide
    obtain rfl : phase = 1766 := Option.some.inj (hphase.symm.trans hcode)
    exact absurd hvalue (by decide)
  · intro hlaw
    obtain ⟨phase, hphase, _, hvalue⟩ := hlaw.phase
    have hcode : (cslReceiver 3125 (2 ^ 32 + 250000)).getCslPhase
        (UInt32.ofNat (2 ^ 32 - 5000)) (UInt32.ofNat (2 ^ 32)) = some 1798 := by decide
    obtain rfl : phase = 1798 := Option.some.inj (hphase.symm.trans hcode)
    exact absurd hvalue (by decide)

end OtEfr32.Radio
