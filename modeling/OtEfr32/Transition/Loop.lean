import Mathlib.Data.Nat.Notation
import Mathlib.Tactic.TypeStar

/-!
# While loops

`whileLoop test body fuel state` runs `body` as long as `test` holds, at most `fuel` times, and is
`none` when the fuel is used up before the test fails.  `whileLoop_rule` is the total-correctness
rule: an invariant of the body and a measure that the body lowers.
-/

namespace OtEfr32.Transition

variable {State : Type*} (test : State → Bool) (body : State → State)

/-- Run `body` while `test` holds. -/
def whileLoop : ℕ → State → Option State
  | 0, _ => none
  | fuel + 1, state => if test state then whileLoop fuel (body state) else some state

variable {test body}

theorem whileLoop_done {fuel : ℕ} {state : State} (h : test state = false) :
    whileLoop test body (fuel + 1) state = some state := by
  simp [whileLoop, h]

theorem whileLoop_round {fuel : ℕ} {state : State} (h : test state = true) :
    whileLoop test body (fuel + 1) state = whileLoop test body fuel (body state) := by
  simp [whileLoop, h]

/-- A loop whose body keeps `inv` and lowers `measure` ends, in a state that has `inv` and fails
the test. -/
theorem whileLoop_rule {inv : State → Prop} (measure : State → ℕ) (fuel : ℕ)
    (hbody : ∀ state, inv state → test state = true →
      inv (body state) ∧ measure (body state) < measure state)
    {state : State} (hinv : inv state) (hfuel : measure state < fuel) :
    ∃ final, whileLoop test body fuel state = some final ∧ inv final ∧ test final = false := by
  induction fuel generalizing state with
  | zero => exact absurd hfuel (Nat.not_lt_zero _)
  | succ fuel ih =>
    cases htest : test state with
    | false => exact ⟨state, whileLoop_done htest, hinv, htest⟩
    | true =>
      obtain ⟨hkept, hlower⟩ := hbody state hinv htest
      rw [whileLoop_round htest]
      exact ih hkept (Nat.lt_of_lt_of_le hlower (Nat.le_of_lt_succ hfuel))

end OtEfr32.Transition
