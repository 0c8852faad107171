import Mathlib.Algebra.Group.Nat.Defs
import Mathlib.Data.Nat.Notation

/-!
# A wide clock from a narrow one

A free-running counter shows the time modulo its period.  Two times less than one period apart
are in the same period or in neighbouring ones, and comparing what the counter shows at them tells
which: this is what lets a reader count the wraps, and what places an earlier time in its period
once the period of a later one is known.

`joinWords` is the wide word of a wrap count and a narrow reading.
-/

namespace OtEfr32.Data

variable {period earlier later : ℕ}

/-- The number of wraps between two times less than one period apart. -/
theorem div_period_of_lt (hle : earlier ≤ later) (hlt : later < earlier + period) :
    later / period =
      earlier / period + if later % period < earlier % period then 1 else 0 := by
  have hpos : 0 < period := by omega
  have hearlier := Nat.div_add_mod earlier period
  have hlater := Nat.div_add_mod later period
  have hbelow := Nat.mod_lt earlier hpos
  have hbelow' := Nat.mod_lt later hpos
  split
  case isTrue hwrap =>
    have hlower : period * (earlier / period) < period * (later / period) := by omega
    have hupper : period * (later / period) < period * (earlier / period + 2) := by
      rw [Nat.mul_add]
      omega
    have := Nat.lt_of_mul_lt_mul_left hlower
    have := Nat.lt_of_mul_lt_mul_left hupper
    omega
  case isFalse hsame =>
    have hupper : period * (later / period) < period * (earlier / period + 1) := by
      rw [Nat.mul_add]
      omega
    have hlower : earlier / period ≤ later / period := Nat.div_le_div_right hle
    have := Nat.lt_of_mul_lt_mul_left hupper
    omega

/-- Two different times less than one period apart show different readings. -/
theorem mod_period_ne_of_lt (hlt : earlier < later) (hrange : later < earlier + period) :
    later % period ≠ earlier % period := by
  intro heq
  have hwraps := div_period_of_lt (Nat.le_of_lt hlt) hrange
  rw [heq, if_neg (Nat.lt_irrefl _), Nat.add_zero] at hwraps
  have hearlier := Nat.div_add_mod earlier period
  have hlater := Nat.div_add_mod later period
  rw [heq, hwraps] at hlater
  omega

/-- The wide word with the given high and low words. -/
def joinWords (high low : UInt32) : UInt64 := (high.toUInt64 <<< 32) + low.toUInt64

theorem toNat_joinWords (high low : UInt32) :
    (joinWords high low).toNat = high.toNat * 2 ^ 32 + low.toNat := by
  have hhigh := high.toNat_lt
  have hlow := low.toNat_lt
  simp only [joinWords, UInt64.toNat_add, UInt64.toNat_shiftLeft, UInt32.toNat_toUInt64,
    Nat.shiftLeft_eq]
  simp
  omega

/-- The words of a time. -/
theorem joinWords_ofNat (time : ℕ) :
    joinWords (UInt32.ofNat (time / 2 ^ 32)) (UInt32.ofNat time) = UInt64.ofNat time := by
  apply UInt64.toNat_inj.mp
  rw [toNat_joinWords, UInt32.toNat_ofNat', UInt32.toNat_ofNat', UInt64.toNat_ofNat']
  omega

end OtEfr32.Data
