import Mathlib.Data.List.Basic
import Mathlib.Data.Nat.Notation
import Mathlib.Tactic.TypeStar

/-!
# Finite runs of a guarded step function

A system is given by a partial step function: `step state label` is the next state, or `none` when
the label is not enabled.  `exec` runs a finite list of labels.  Two predicates speak about whole
runs: `Throughout` about every state a given run passes through, and `Along` about every step it
takes, before it is taken.

The rules below reduce a statement about runs to one about single steps.  `throughout_iff_along`
is the rule for an exact condition: if steps that meet a condition keep an invariant, and every
step that misses it breaks the observed property, then the property holds throughout a run exactly
when all of its steps meet the condition.
-/

namespace OtEfr32.Transition

variable {State Label : Type*} (step : State → Label → Option State)

/-- Run a list of labels; the run stops with `none` at the first label that is not enabled. -/
def exec : State → List Label → Option State
  | state, [] => some state
  | state, label :: labels => (step state label).bind fun next ↦ exec next labels

@[simp]
theorem exec_nil (state : State) : exec step state [] = some state := rfl

theorem exec_cons (state : State) (label : Label) (labels : List Label) :
    exec step state (label :: labels) =
      (step state label).bind fun next ↦ exec step next labels := rfl

theorem exec_cons_eq_some {state final : State} {label : Label} {labels : List Label} :
    exec step state (label :: labels) = some final ↔
      ∃ next, step state label = some next ∧ exec step next labels = some final := by
  rw [exec_cons, Option.bind_eq_some_iff]

theorem exec_append (state : State) (front back : List Label) :
    exec step state (front ++ back) =
      (exec step state front).bind fun next ↦ exec step next back := by
  induction front generalizing state with
  | nil => rfl
  | cons label front ih =>
    simp only [List.cons_append, exec_cons, Option.bind_assoc]
    congr 1
    funext next
    exact ih next

theorem exec_append_eq_some {state final : State} {front back : List Label} :
    exec step state (front ++ back) = some final ↔
      ∃ middle, exec step state front = some middle ∧ exec step middle back = some final := by
  rw [exec_append, Option.bind_eq_some_iff]

/-- `property` holds in every state the run passes through, the first and the last included. -/
def Throughout (property : State → Prop) : State → List Label → Prop
  | state, [] => property state
  | state, label :: labels =>
      property state ∧ ∀ next, step state label = some next → Throughout property next labels

/-- `condition` holds of every step of the run, read in the state before the step. -/
def Along (condition : State → Label → Prop) : State → List Label → Prop
  | _, [] => True
  | state, label :: labels =>
      condition state label ∧
        ∀ next, step state label = some next → Along condition next labels

variable {step}

theorem throughout_cons_of_step {property : State → Prop} {state next : State} {label : Label}
    {labels : List Label} (hstep : step state label = some next) :
    Throughout step property state (label :: labels) ↔
      property state ∧ Throughout step property next labels := by
  simp [Throughout, hstep]

theorem along_cons_of_step {condition : State → Label → Prop} {state next : State} {label : Label}
    {labels : List Label} (hstep : step state label = some next) :
    Along step condition state (label :: labels) ↔
      condition state label ∧ Along step condition next labels := by
  simp [Along, hstep]

theorem throughout_cons_of_none {property : State → Prop} {state : State} {label : Label}
    {labels : List Label} (hstep : step state label = none) :
    Throughout step property state (label :: labels) ↔ property state := by
  simp [Throughout, hstep]

instance Throughout.decidable {property : State → Prop} [DecidablePred property] :
    ∀ state labels, Decidable (Throughout step property state labels)
  | state, [] => inferInstanceAs (Decidable (property state))
  | state, label :: labels =>
    match hstep : step state label with
    | none => decidable_of_iff _ (throughout_cons_of_none hstep).symm
    | some next =>
      have : Decidable (Throughout step property next labels) := Throughout.decidable next labels
      decidable_of_iff _ (throughout_cons_of_step hstep).symm

theorem along_cons_of_none {condition : State → Label → Prop} {state : State} {label : Label}
    {labels : List Label} (hstep : step state label = none) :
    Along step condition state (label :: labels) ↔ condition state label := by
  simp [Along, hstep]

instance Along.decidable {condition : State → Label → Prop}
    [∀ state label, Decidable (condition state label)] :
    ∀ state labels, Decidable (Along step condition state labels)
  | _, [] => .isTrue trivial
  | state, label :: labels =>
    match hstep : step state label with
    | none => decidable_of_iff _ (along_cons_of_none hstep).symm
    | some next =>
      have : Decidable (Along step condition next labels) := Along.decidable next labels
      decidable_of_iff _ (along_cons_of_step hstep).symm

theorem Throughout.head {property : State → Prop} {state : State} {labels : List Label}
    (h : Throughout step property state labels) : property state := by
  cases labels with
  | nil => exact h
  | cons label labels => exact h.1

theorem Throughout.last {property : State → Prop} {state final : State} {labels : List Label}
    (h : Throughout step property state labels) (hrun : exec step state labels = some final) :
    property final := by
  induction labels generalizing state with
  | nil =>
    obtain rfl : state = final := by simpa using hrun
    exact h
  | cons label labels ih =>
    obtain ⟨next, hstep, hrest⟩ := (exec_cons_eq_some step).mp hrun
    exact ih (h.2 next hstep) hrest

theorem Throughout.mono {property weaker : State → Prop} {state : State} {labels : List Label}
    (himp : ∀ state, property state → weaker state)
    (h : Throughout step property state labels) : Throughout step weaker state labels := by
  induction labels generalizing state with
  | nil => exact himp state h
  | cons label labels ih => exact ⟨himp state h.1, fun next hstep ↦ ih (h.2 next hstep)⟩

/-- The part of a run behind a prefix of it. -/
theorem Throughout.append {property : State → Prop} {state middle : State} {front back : List Label}
    (h : Throughout step property state (front ++ back))
    (hrun : exec step state front = some middle) : Throughout step property middle back := by
  induction front generalizing state with
  | nil =>
    obtain rfl : state = middle := by simpa using hrun
    exact h
  | cons label front ih =>
    obtain ⟨next, hstep, hrest⟩ := (exec_cons_eq_some step).mp hrun
    exact ih (h.2 next hstep) hrest

/-- What holds in every state holds before every step. -/
theorem Throughout.along {property : State → Prop} {state : State} {labels : List Label}
    (h : Throughout step property state labels) :
    Along step (fun state _ ↦ property state) state labels := by
  induction labels generalizing state with
  | nil => trivial
  | cons label labels ih => exact ⟨h.1, fun next hstep ↦ ih (h.2 next hstep)⟩

theorem along_of_forall {condition : State → Label → Prop}
    (h : ∀ state label, condition state label) {state : State} {labels : List Label} :
    Along step condition state labels := by
  induction labels generalizing state with
  | nil => trivial
  | cons label labels ih => exact ⟨h state label, fun _ _ ↦ ih⟩

/-- A condition on the labels of a run. -/
theorem along_of_mem {condition : Label → Prop} {state : State} {labels : List Label}
    (h : ∀ label ∈ labels, condition label) :
    Along step (fun _ label ↦ condition label) state labels := by
  induction labels generalizing state with
  | nil => trivial
  | cons label labels ih =>
    obtain ⟨hlabel, hlabels⟩ := List.forall_mem_cons.mp h
    exact ⟨hlabel, fun _ _ ↦ ih hlabels⟩

theorem Along.and {first second : State → Label → Prop} {state : State} {labels : List Label}
    (h : Along step first state labels) (h' : Along step second state labels) :
    Along step (fun state label ↦ first state label ∧ second state label) state labels := by
  induction labels generalizing state with
  | nil => trivial
  | cons label labels ih =>
    exact ⟨⟨h.1, h'.1⟩, fun next hstep ↦ ih (h.2 next hstep) (h'.2 next hstep)⟩

theorem Along.append {condition : State → Label → Prop} {state middle : State}
    {front back : List Label} (h : Along step condition state (front ++ back))
    (hrun : exec step state front = some middle) :
    Along step condition state front ∧ Along step condition middle back := by
  induction front generalizing state with
  | nil =>
    obtain rfl : state = middle := by simpa using hrun
    exact ⟨trivial, h⟩
  | cons label front ih =>
    obtain ⟨next, hstep, hrest⟩ := (exec_cons_eq_some step).mp hrun
    obtain ⟨hfront, hback⟩ := ih (h.2 next hstep) hrest
    exact ⟨(along_cons_of_step hstep).mpr ⟨h.1, hfront⟩, hback⟩

/-- Labels that meet a condition in every state. -/
theorem along_of_forall_mem {condition : State → Label → Prop} {state : State}
    {labels : List Label} (h : ∀ label ∈ labels, ∀ state, condition state label) :
    Along step condition state labels := by
  induction labels generalizing state with
  | nil => trivial
  | cons label labels ih =>
    obtain ⟨hlabel, hlabels⟩ := List.forall_mem_cons.mp h
    exact ⟨hlabel state, fun _ _ ↦ ih hlabels⟩

theorem Along.append_of_exec {condition : State → Label → Prop} {state middle : State}
    {front back : List Label} (h : Along step condition state front)
    (hrun : exec step state front = some middle) (hback : Along step condition middle back) :
    Along step condition state (front ++ back) := by
  induction front generalizing state with
  | nil =>
    obtain rfl : state = middle := by simpa using hrun
    exact hback
  | cons label front ih =>
    obtain ⟨next, hstep, hrest⟩ := (exec_cons_eq_some step).mp hrun
    exact (along_cons_of_step hstep).mpr ⟨h.1, ih (h.2 next hstep) hrest⟩

/-- A property kept by every step that meets a condition holds throughout every run whose steps
meet it. -/
theorem Along.throughout {inv : State → Prop} {condition : State → Label → Prop}
    (hstep : ∀ state label next, inv state → condition state label →
      step state label = some next → inv next)
    {state : State} {labels : List Label} (hinit : inv state)
    (halong : Along step condition state labels) : Throughout step inv state labels := by
  induction labels generalizing state with
  | nil => exact hinit
  | cons label labels ih =>
    refine ⟨hinit, fun next hnext ↦ ?_⟩
    exact ih (hstep state label next hinit halong.1 hnext) (halong.2 next hnext)

/-- What every step keeps holds at the end of every run. -/
theorem exec_inv {inv : State → Prop}
    (hstep : ∀ state label next, inv state → step state label = some next → inv next)
    {state final : State} {labels : List Label} (hinit : inv state)
    (hrun : exec step state labels = some final) : inv final :=
  Throughout.last
    (Along.throughout (fun state label next hinv (_ : True) ↦ hstep state label next hinv) hinit
      (along_of_forall fun _ _ ↦ trivial)) hrun

/-- The exact condition for a property to hold throughout a run whose steps meet `assumption`.
Steps that meet `condition` keep `inv`, which implies `property`; an enabled step that misses it
ends in a state without `property`. -/
theorem throughout_iff_along_of {inv property : State → Prop}
    {assumption condition : State → Label → Prop}
    (hproperty : ∀ state, inv state → property state)
    (hkeep : ∀ state label next, inv state → assumption state label → condition state label →
      step state label = some next → inv next)
    (hbreak : ∀ state label next, inv state → assumption state label → ¬ condition state label →
      step state label = some next → ¬ property next)
    {state final : State} {labels : List Label} (hinit : inv state)
    (hassumption : Along step assumption state labels)
    (hrun : exec step state labels = some final) :
    Throughout step property state labels ↔ Along step condition state labels := by
  induction labels generalizing state with
  | nil => exact iff_of_true (hproperty state hinit) trivial
  | cons label labels ih =>
    obtain ⟨next, hnext, hrest⟩ := (exec_cons_eq_some step).mp hrun
    obtain ⟨hassumed, hassumption⟩ := (along_cons_of_step hnext).mp hassumption
    rw [throughout_cons_of_step hnext, along_cons_of_step hnext]
    by_cases hcondition : condition state label
    · have hinv := hkeep state label next hinit hassumed hcondition hnext
      rw [ih hinv hassumption hrest]
      exact and_congr_left' (iff_of_true (hproperty state hinit) hcondition)
    · have hmissed := hbreak state label next hinit hassumed hcondition hnext
      exact iff_of_false (fun h ↦ hmissed h.2.head) (fun h ↦ hcondition h.1)

/-- The exact condition for a property to hold throughout any run. -/
theorem throughout_iff_along {inv property : State → Prop} {condition : State → Label → Prop}
    (hproperty : ∀ state, inv state → property state)
    (hkeep : ∀ state label next, inv state → condition state label →
      step state label = some next → inv next)
    (hbreak : ∀ state label next, inv state → ¬ condition state label →
      step state label = some next → ¬ property next)
    {state final : State} {labels : List Label} (hinit : inv state)
    (hrun : exec step state labels = some final) :
    Throughout step property state labels ↔ Along step condition state labels :=
  throughout_iff_along_of hproperty
    (fun state label next hinv (_ : True) ↦ hkeep state label next hinv)
    (fun state label next hinv (_ : True) ↦ hbreak state label next hinv) hinit
    (along_of_forall fun _ _ ↦ trivial) hrun

end OtEfr32.Transition
