import OtEfr32.Transition.Runs
import Mathlib.Logic.Function.Basic

/-!
# A family of independent systems

Many tables of a driver hold one copy of the same state machine for each index.  `indexed` lifts a
step function to such a table: a label names the index it acts on, and no other entry changes.
A run of the table is a run of every entry on the labels that name it, so that an invariant proved
for one entry holds of them all.
-/

namespace OtEfr32.Transition

variable {Index State Label : Type*} [DecidableEq Index] (step : State → Label → Option State)

/-- A step of the entry that the label names. -/
def indexed (table : Index → State) (label : Index × Label) : Option (Index → State) :=
  (step (table label.1) label.2).map fun next ↦ Function.update table label.1 next

/-- The labels of a run that act on one entry, in order. -/
def labelsOf (index : Index) (labels : List (Index × Label)) : List Label :=
  labels.filterMap fun label ↦ if label.1 = index then some label.2 else none

@[simp]
theorem labelsOf_nil (index : Index) : labelsOf index ([] : List (Index × Label)) = [] := rfl

theorem labelsOf_cons_self (index : Index) (label : Label) (labels : List (Index × Label)) :
    labelsOf index ((index, label) :: labels) = label :: labelsOf index labels := by
  simp [labelsOf]

theorem labelsOf_cons_ne {index other : Index} (hne : other ≠ index) (label : Label)
    (labels : List (Index × Label)) :
    labelsOf index ((other, label) :: labels) = labelsOf index labels := by
  simp [labelsOf, hne]

theorem mem_labelsOf {index : Index} {label : Label} {labels : List (Index × Label)} :
    label ∈ labelsOf index labels ↔ (index, label) ∈ labels := by
  induction labels with
  | nil => simp
  | cons head labels ih =>
    obtain ⟨other, first⟩ := head
    by_cases hindex : other = index
    · subst hindex
      simp [labelsOf_cons_self, ih]
    · rw [labelsOf_cons_ne hindex, ih]
      simp [Ne.symm hindex]

variable {step}

theorem indexed_eq_some {table next : Index → State} {label : Index × Label} :
    indexed step table label = some next ↔
      ∃ entry, step (table label.1) label.2 = some entry ∧
        Function.update table label.1 entry = next := by
  rw [indexed, Option.map_eq_some_iff]

/-- Every entry of a table runs on its own labels. -/
theorem exec_indexed {table final : Index → State} {labels : List (Index × Label)}
    (hrun : exec (indexed step) table labels = some final) (index : Index) :
    exec step (table index) (labelsOf index labels) = some (final index) := by
  induction labels generalizing table with
  | nil =>
    obtain rfl : table = final := by simpa using hrun
    rfl
  | cons head labels ih =>
    obtain ⟨next, hnext, hrest⟩ := (exec_cons_eq_some _).mp hrun
    obtain ⟨entry, hentry, rfl⟩ := indexed_eq_some.mp hnext
    have htail := ih hrest
    obtain ⟨other, label⟩ := head
    by_cases hindex : other = index
    · subst hindex
      rw [labelsOf_cons_self, exec_cons_eq_some]
      exact ⟨entry, hentry, by simpa using htail⟩
    · rw [labelsOf_cons_ne hindex]
      simpa [Function.update_of_ne (Ne.symm hindex)] using htail

/-- A condition on each step of one entry, read as a condition on the steps of the table. -/
def OnEntry (condition : State → Label → Prop) (table : Index → State)
    (label : Index × Label) : Prop :=
  condition (table label.1) label.2

/-- `property` of every entry of the table. -/
def Everywhere (property : State → Prop) (table : Index → State) : Prop :=
  ∀ index, property (table index)

theorem Everywhere.update {property : State → Prop} {table : Index → State} {index : Index}
    {entry : State} (h : Everywhere property table) (hentry : property entry) :
    Everywhere property (Function.update table index entry) := by
  intro other
  by_cases hindex : other = index
  · subst hindex
    simpa using hentry
  · simpa [Function.update_of_ne hindex] using h other

/-- The exact condition of `throughout_iff_along`, from one entry to the whole table. -/
theorem indexed_throughout_iff_along {inv property : State → Prop}
    {condition : State → Label → Prop}
    (hproperty : ∀ state, inv state → property state)
    (hkeep : ∀ state label next, inv state → condition state label →
      step state label = some next → inv next)
    (hbreak : ∀ state label next, inv state → ¬ condition state label →
      step state label = some next → ¬ property next)
    {table final : Index → State} {labels : List (Index × Label)}
    (hinit : Everywhere inv table) (hrun : exec (indexed step) table labels = some final) :
    Throughout (indexed step) (Everywhere property) table labels ↔
      Along (indexed step) (OnEntry condition) table labels := by
  refine throughout_iff_along
    (fun state (h : Everywhere inv state) index ↦ hproperty _ (h index)) ?_ ?_ hinit hrun
  · intro state label next hinv hcondition hnext
    obtain ⟨entry, hentry, rfl⟩ := indexed_eq_some.mp hnext
    exact hinv.update (hkeep _ _ _ (hinv label.1) hcondition hentry)
  · intro state label next hinv hcondition hnext hall
    obtain ⟨entry, hentry, rfl⟩ := indexed_eq_some.mp hnext
    apply hbreak _ _ _ (hinv label.1) hcondition hentry
    simpa using hall label.1

end OtEfr32.Transition
