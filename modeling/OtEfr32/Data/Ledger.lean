import Mathlib.Data.List.Count
import Mathlib.Tactic.TypeStar

/-!
# Ledgers

A system accepts items and keeps each of them in one of several places.  The list `places` collects
what is in all places, and `Conserved` says that every accepted item is in exactly one of them.
Items that were not accepted may be anywhere.
-/

namespace OtEfr32.Data

variable {α : Type*} [DecidableEq α] {accepted places places' : List α} {item : α}

/-- Every accepted item is in exactly one place. -/
def Conserved (accepted places : List α) : Prop := ∀ item ∈ accepted, places.count item = 1

instance : Decidable (Conserved accepted places) :=
  inferInstanceAs (Decidable (∀ item ∈ accepted, places.count item = 1))

namespace Conserved

/-- Items move between the places, and `more` new items come to them, of which `taken` are
accepted, each in one place. -/
theorem of_count {more taken : List α} (h : Conserved accepted places)
    (hcount : ∀ item, places'.count item = places.count item + more.count item)
    (hmore : ∀ item ∈ more, item ∉ accepted ∧ item ∉ places)
    (htaken : ∀ item ∈ taken, more.count item = 1) : Conserved (accepted ++ taken) places' := by
  intro item hitem
  rw [hcount]
  rcases List.mem_append.mp hitem with hold | hnew
  · have hzero : more.count item = 0 := List.count_eq_zero.mpr fun hmem ↦ (hmore item hmem).1 hold
    rw [h item hold, hzero]
  · have hone := htaken item hnew
    have hmem : item ∈ more := List.count_pos_iff.mp (by omega)
    rw [List.count_eq_zero.mpr (hmore item hmem).2, hone]

/-- An accepted item in no place is lost. -/
theorem not_of_notMem (hitem : item ∈ accepted) (hlost : item ∉ places) :
    ¬ Conserved accepted places := by
  intro h
  have hone := h item hitem
  rw [List.count_eq_zero.mpr hlost] at hone
  contradiction

/-- An accepted item that leaves its place without going to another is lost. -/
theorem not_of_leave (h : Conserved accepted places) (hitem : item ∈ accepted)
    (hcount : places.count item = places'.count item + 1) : ¬ Conserved accepted places' := by
  intro h'
  have hbefore := h item hitem
  have hafter := h' item hitem
  omega

end Conserved

end OtEfr32.Data
