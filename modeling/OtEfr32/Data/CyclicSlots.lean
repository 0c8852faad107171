import Mathlib.Data.Int.Notation

/-!
# Slots of a cyclic schedule

A cycle is divided into slots of one length.  A time that is off by some drift is in the slot of the
true time exactly if the drift, reduced modulo the cycle, does not lead back beyond the start of the
slot nor, the other way round, beyond its end.
-/

namespace OtEfr32.Data

variable {slot cycle time drift : ℤ}

/-- Going back by less than a cycle, from a time in the cycle. -/
theorem sub_emod_eq_ite (hcycle : 0 < cycle) :
    (time - drift) % cycle =
      if drift % cycle ≤ time % cycle then time % cycle - drift % cycle
      else time % cycle - drift % cycle + cycle := by
  have htime := Int.emod_nonneg time (Int.ne_of_gt hcycle)
  have htime' := Int.emod_lt_of_pos time hcycle
  have hdrift := Int.emod_nonneg drift (Int.ne_of_gt hcycle)
  have hdrift' := Int.emod_lt_of_pos drift hcycle
  rw [Int.sub_emod]
  split
  case isTrue hle => exact Int.emod_eq_of_lt (by omega) (by omega)
  case isFalse hlt =>
    rw [← Int.add_emod_right]
    exact Int.emod_eq_of_lt (by omega) (by omega)

/-- When a time with a drift is taken to be in the right slot. -/
theorem slot_sub_eq_iff (hslot : 0 < slot) (hdvd : slot ∣ cycle) (hcycle : 0 < cycle) :
    (time - drift) % cycle / slot = time % cycle / slot ↔
      drift % cycle ≤ time % slot ∨ time % slot + cycle < slot + drift % cycle := by
  have hdrift := Int.emod_nonneg drift (Int.ne_of_gt hcycle)
  have hdrift' := Int.emod_lt_of_pos drift hcycle
  have hoffset := Int.emod_nonneg time (Int.ne_of_gt hslot)
  have hoffset' := Int.emod_lt_of_pos time hslot
  have hsplit : time % cycle / slot * slot + time % slot = time % cycle := by
    rw [← Int.emod_emod_of_dvd time hdvd, Int.ediv_mul_add_emod]
  have hfirst : 0 ≤ time % cycle / slot * slot := by
    apply Int.mul_nonneg _ (Int.le_of_lt hslot)
    exact Int.ediv_nonneg (Int.emod_nonneg time (Int.ne_of_gt hcycle)) (Int.le_of_lt hslot)
  -- The last slot of the cycle ends with it.
  have hlast : time % cycle / slot * slot + slot ≤ cycle := by
    obtain ⟨slots, rfl⟩ := hdvd
    have hbelow : time % (slot * slots) < slots * slot := by
      rw [Int.mul_comm slots slot]
      exact Int.emod_lt_of_pos time hcycle
    have hlt : time % (slot * slots) / slot < slots := Int.ediv_lt_of_lt_mul hslot hbelow
    calc
      time % (slot * slots) / slot * slot + slot =
          (time % (slot * slots) / slot + 1) * slot := by rw [Int.add_mul, Int.one_mul]
      _ ≤ slots * slot := Int.mul_le_mul_of_nonneg_right hlt (Int.le_of_lt hslot)
      _ = slot * slots := Int.mul_comm slots slot
  rw [Int.ediv_eq_iff_of_pos hslot, sub_emod_eq_ite hcycle]
  split <;> omega

end OtEfr32.Data
