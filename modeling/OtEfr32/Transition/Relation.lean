import OtEfr32.Transition.Runs

/-!
# Runs of a step relation

An abstract system whose steps leave a choice open is a relation between states, with the labels of
the system that it abstracts from.  If every step of that system is one of the relation, seen
through a representation of its states, then every run is.
-/

namespace OtEfr32.Transition

variable {State Abstract Label : Type*}

/-- A run of a step relation. -/
inductive RunsTo (relation : Abstract → Label → Abstract → Prop) :
    Abstract → List Label → Abstract → Prop where
  | nil (state : Abstract) : RunsTo relation state [] state
  | cons {state next final : Abstract} {label : Label} {labels : List Label}
      (hstep : relation state label next) (hrest : RunsTo relation next labels final) :
      RunsTo relation state (label :: labels) final

/-- A run of a system is a run of what it refines. -/
theorem exec_runsTo {step : State → Label → Option State}
    {relation : Abstract → Label → Abstract → Prop} {represents : State → Abstract → Prop}
    (hstep : ∀ state abstract label next, represents state abstract →
      step state label = some next →
        ∃ after, relation abstract label after ∧ represents next after)
    {state final : State} {abstract : Abstract} {labels : List Label}
    (hrepresents : represents state abstract) (hrun : exec step state labels = some final) :
    ∃ last, RunsTo relation abstract labels last ∧ represents final last := by
  induction labels generalizing state abstract with
  | nil =>
    obtain rfl : state = final := by simpa using hrun
    exact ⟨abstract, .nil abstract, hrepresents⟩
  | cons label labels ih =>
    obtain ⟨next, hnext, hrest⟩ := (exec_cons_eq_some step).mp hrun
    obtain ⟨after, hrelation, hafter⟩ := hstep state abstract label next hrepresents hnext
    obtain ⟨last, hlast, hfinal⟩ := ih hafter hrest
    exact ⟨last, .cons hrelation hlast, hfinal⟩

end OtEfr32.Transition
