import OtEfr32.Transition.Runs

/-!
# Recorded runs

A system whose states do not remember what a property speaks about is run with a record beside its
state.  The record only looks at the steps: the recorded system takes the same steps.
-/

namespace OtEfr32.Transition

variable {State Label Record : Type*} (step : State → Label → Option State)
  (record : State → Label → State → Record → Record)

/-- A step with its record. -/
def recording (state : State × Record) (label : Label) : Option (State × Record) :=
  (step state.1 label).map fun next ↦ (next, record state.1 label next state.2)

variable {step record}

theorem recording_eq_some {state next : State × Record} {label : Label} :
    recording step record state label = some next ↔
      step state.1 label = some next.1 ∧ next.2 = record state.1 label next.1 state.2 := by
  rw [recording, Option.map_eq_some_iff]
  constructor
  · rintro ⟨after, hstep, rfl⟩
    exact ⟨hstep, rfl⟩
  · rintro ⟨hstep, hrecord⟩
    exact ⟨next.1, hstep, Prod.ext rfl hrecord.symm⟩

/-- The recorded system runs exactly when the system does. -/
theorem exec_recording (state : State) (history : Record) (labels : List Label) :
    (exec (recording step record) (state, history) labels).map Prod.fst =
      exec step state labels := by
  induction labels generalizing state history with
  | nil => rfl
  | cons label labels ih =>
    rw [exec_cons, exec_cons, recording]
    cases step state label with
    | none => rfl
    | some next => exact ih next _

end OtEfr32.Transition
