import OtEfr32.Transition.Runs

/-!
# Simulation

Two systems run in step when every step of the one that meets a condition is enabled in both and
keeps them related.  A run whose steps all meet the condition is then a run of both.
-/

namespace OtEfr32.Transition

variable {State State' Label : Type*} {step : State → Label → Option State}
  {step' : State' → Label → Option State'} {relates : State → State' → Prop}
  {condition : State → Label → Prop}

theorem exec_related
    (hstep : ∀ state state' label, relates state state' → condition state label →
      ∃ next next', step state label = some next ∧ step' state' label = some next' ∧
        relates next next')
    {state : State} {state' : State'} {labels : List Label} (hrelates : relates state state')
    (halong : Along step condition state labels) :
    ∃ final final', exec step state labels = some final ∧
      exec step' state' labels = some final' ∧ relates final final' := by
  induction labels generalizing state state' with
  | nil => exact ⟨state, state', rfl, rfl, hrelates⟩
  | cons label labels ih =>
    obtain ⟨next, next', hnext, hnext', hrelates⟩ := hstep state state' label hrelates halong.1
    obtain ⟨final, final', hrun, hrun', hfinal⟩ := ih hrelates (halong.2 next hnext)
    exact ⟨final, final', (exec_cons_eq_some step).mpr ⟨next, hnext, hrun⟩,
      (exec_cons_eq_some step').mpr ⟨next', hnext', hrun'⟩, hfinal⟩

/-- A part of the states that some labels change by itself runs by itself on these labels. -/
theorem exec_view {Label' : Type*} {step' : State' → Label' → Option State'}
    {view : State → State'} {inject : Label' → Label}
    (hstep : ∀ state label, (step state (inject label)).map view = step' (view state) label)
    (state : State) (labels : List Label') :
    (exec step state (labels.map inject)).map view = exec step' (view state) labels := by
  induction labels generalizing state with
  | nil => rfl
  | cons label labels ih =>
    rw [List.map_cons, exec_cons, exec_cons, ← hstep]
    cases step state (inject label) with
    | none => rfl
    | some next => exact ih next

end OtEfr32.Transition
