import Mathlib.Data.List.Range
import Mathlib.Data.Nat.Notation

/-!
# Answers in turn

A system numbers the items that it accepts.  It works on them in turn, announces each one that is
done, and answers what it announced.  `InTurn` says that no item is skipped, doubled or passed by
another on this way.
-/

namespace OtEfr32.Data

/-- The items that were answered, those that are announced and those that are under way. -/
def InTurn (answered announced underway : List ℕ) (accepted : ℕ) : Prop :=
  answered ++ announced ++ underway = List.range accepted

namespace InTurn

variable {answered announced underway : List ℕ} {accepted item : ℕ}

theorem empty : InTurn [] [] [] 0 := rfl

theorem accept (h : InTurn answered announced underway accepted) :
    InTurn answered announced (underway ++ [accepted]) (accepted + 1) := by
  rw [InTurn, List.range_succ, ← h, List.append_assoc _ underway]

theorem announce (h : InTurn answered announced (item :: underway) accepted) :
    InTurn answered (announced ++ [item]) underway accepted := by
  rw [InTurn, ← h]
  simp

theorem answer (h : InTurn answered announced underway accepted) :
    InTurn (answered ++ announced) [] underway accepted := by
  rw [InTurn, ← h, List.append_nil]

/-- Everything is answered at once. -/
theorem answerAll (h : InTurn answered announced underway accepted) :
    InTurn (answered ++ announced ++ underway) [] [] accepted := by
  rw [InTurn, ← h, List.append_nil, List.append_nil]

theorem length_eq (h : InTurn answered announced underway accepted) :
    answered.length + announced.length + underway.length = accepted := by
  have hlength := congrArg List.length h
  rwa [List.length_append, List.length_append, List.length_range] at hlength

/-- The announcement of an item that takes the place of another's. -/
theorem not_overwrite {last : ℕ} (h : InTurn answered (announced ++ [last]) (item :: underway)
    accepted) : ¬ InTurn answered (announced ++ [item]) underway accepted := by
  intro hafter
  have hbefore := h.length_eq
  have hlength := hafter.length_eq
  rw [List.length_append, List.length_singleton] at hbefore hlength
  rw [List.length_cons] at hbefore
  omega

end InTurn

end OtEfr32.Data
