import OtEfr32.Transition.Runs

/-!
# Turns

A system that waits for its environment makes progress in those steps in which the environment does
what it waits for.  Such a step is a turn.  A measure that no step raises and every turn lowers
bounds the turns that a run takes to its goal, in whatever order the other steps are mixed in.
-/

namespace OtEfr32.Transition

variable {State Label : Type*} (step : State → Label → Option State)

/-- The number of turns in a run. -/
def turns (isTurn : State → Label → Bool) : State → List Label → ℕ
  | _, [] => 0
  | state, label :: labels =>
    (isTurn state label).toNat +
      ((step state label).map fun next ↦ turns isTurn next labels).getD 0

variable {step} {isTurn : State → Label → Bool}

theorem turns_cons_of_step {state next : State} {label : Label} (labels : List Label)
    (hstep : step state label = some next) :
    turns step isTurn state (label :: labels) =
      (isTurn state label).toNat + turns step isTurn next labels := by
  rw [turns, hstep]
  rfl

/-- Every turn of a run lowers a measure, down to zero. -/
theorem measure_le_sub_turns {inv : State → Prop} {assumption : State → Label → Prop}
    {measure : State → ℕ}
    (hkeep : ∀ state label next, inv state → assumption state label →
      step state label = some next → inv next)
    (hmeasure : ∀ state label next, inv state → assumption state label →
      step state label = some next →
        measure next ≤ measure state - (isTurn state label).toNat)
    {state final : State} {labels : List Label} (hinit : inv state)
    (hassumption : Along step assumption state labels)
    (hrun : exec step state labels = some final) :
    measure final ≤ measure state - turns step isTurn state labels := by
  induction labels generalizing state with
  | nil =>
    obtain rfl : state = final := by simpa using hrun
    exact Nat.le_refl _
  | cons label labels ih =>
    obtain ⟨next, hstep, hrest⟩ := (exec_cons_eq_some step).mp hrun
    obtain ⟨hassumed, hassumption⟩ := (along_cons_of_step hstep).mp hassumption
    have hinv := hkeep state label next hinit hassumed hstep
    calc
      measure final ≤ measure next - turns step isTurn next labels := ih hinv hassumption hrest
      _ ≤ measure state - (isTurn state label).toNat - turns step isTurn next labels :=
        Nat.sub_le_sub_right (hmeasure state label next hinit hassumed hstep) _
      _ = measure state - turns step isTurn state (label :: labels) := by
        rw [turns_cons_of_step labels hstep, Nat.sub_sub]

end OtEfr32.Transition
