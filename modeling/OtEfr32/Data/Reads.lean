import Mathlib.Data.Nat.Notation

/-!
# Programs that read a buffer

A program that reads single cells of a buffer, one after the other, and decides with each what to do
next.  Its footprint on a buffer is the list of the positions that it reads; what is elsewhere has
no influence on its result.
-/

namespace OtEfr32.Data

/-- A program that reads cells with values in `Cell`, and returns a value. -/
inductive Reads (Cell α : Type) where
  | done (value : α)
  | read (position : ℕ) (next : Cell → Reads Cell α)

namespace Reads

variable {Cell α β : Type}

/-- One program behind the other. -/
def bind : Reads Cell α → (α → Reads Cell β) → Reads Cell β
  | .done value, rest => rest value
  | .read position next, rest => .read position fun cell ↦ (next cell).bind rest

instance : Monad (Reads Cell) where
  pure := done
  bind := bind

/-- The cell at a position. -/
def cellAt (position : ℕ) : Reads Cell Cell := .read position .done

/-- `count` cells from a position on. -/
def cellsAt (position : ℕ) : ℕ → Reads Cell (List Cell)
  | 0 => pure []
  | count + 1 => do
    let cell ← cellAt position
    let cells ← cellsAt (position + 1) count
    pure (cell :: cells)

/-- The result on a buffer. -/
def run (buffer : ℕ → Cell) : Reads Cell α → α
  | .done value => value
  | .read position next => (next (buffer position)).run buffer

/-- The positions that are read on a buffer, in order. -/
def positions (buffer : ℕ → Cell) : Reads Cell α → List ℕ
  | .done _ => []
  | .read position next => position :: (next (buffer position)).positions buffer

/-- All positions that are read on a buffer are below a bound. -/
def Within (bound : ℕ) (buffer : ℕ → Cell) (program : Reads Cell α) : Prop :=
  ∀ position ∈ program.positions buffer, position < bound

variable {bound : ℕ} {buffer other : ℕ → Cell} {program : Reads Cell α}

@[simp]
theorem run_pure (value : α) : (pure value : Reads Cell α).run buffer = value := rfl

@[simp]
theorem run_bind (program : Reads Cell α) (rest : α → Reads Cell β) :
    (program >>= rest).run buffer = (rest (program.run buffer)).run buffer := by
  change (program.bind rest).run buffer = _
  induction program with
  | done value => rfl
  | read position next ih => exact ih (buffer position)

@[simp]
theorem run_cellAt (position : ℕ) : (cellAt position).run buffer = buffer position := by
  rw [cellAt, run, run]

@[simp]
theorem within_pure (value : α) : Within bound buffer (pure value : Reads Cell α) := by
  intro position hposition
  cases hposition

theorem positions_bind (program : Reads Cell α) (rest : α → Reads Cell β) :
    (program >>= rest).positions buffer =
      program.positions buffer ++ (rest (program.run buffer)).positions buffer := by
  change (program.bind rest).positions buffer = _
  induction program with
  | done value => rfl
  | read position next ih => exact congrArg (position :: ·) (ih (buffer position))

@[simp]
theorem within_bind (program : Reads Cell α) (rest : α → Reads Cell β) :
    Within bound buffer (program >>= rest) ↔
      Within bound buffer program ∧ Within bound buffer (rest (program.run buffer)) := by
  simp only [Within, positions_bind, List.forall_mem_append]

@[simp]
theorem within_cellAt (position : ℕ) :
    Within bound buffer (cellAt position) ↔ position < bound := by
  simp [Within, cellAt, positions]

theorem within_cellsAt {position count : ℕ} (h : position + count ≤ bound) :
    Within bound buffer (cellsAt position count) := by
  induction count generalizing position with
  | zero => exact within_pure []
  | succ count ih =>
    simp only [cellsAt, within_bind, within_cellAt, within_pure, and_true]
    exact ⟨by omega, ih (by omega)⟩

theorem run_cellsAt (position count : ℕ) :
    (cellsAt position count).run buffer =
      (List.range count).map fun i ↦ buffer (position + i) := by
  induction count generalizing position with
  | zero => rfl
  | succ count ih =>
    simp only [cellsAt, run_bind, run_cellAt, run_pure, ih, List.range_succ_eq_map, List.map_cons,
      List.map_map, Nat.add_zero, List.cons.injEq, true_and]
    refine List.map_congr_left fun i _ ↦ ?_
    simp only [Function.comp_apply, Nat.add_assoc, Nat.add_comm 1 i]

/-- Buffers that agree on the footprint give the same result. -/
theorem run_congr
    (hsame : ∀ position ∈ program.positions buffer, other position = buffer position) :
    program.run other = program.run buffer := by
  induction program with
  | done value => rfl
  | read position next ih =>
    obtain ⟨hfirst, hrest⟩ := List.forall_mem_cons.mp hsame
    rw [run, run, hfirst]
    exact ih (buffer position) hrest

/-- What is behind the bound has no influence. -/
theorem Within.run_eq (h : Within bound buffer program)
    (hsame : ∀ position < bound, other position = buffer position) :
    program.run other = program.run buffer :=
  run_congr fun position hposition ↦ hsame position (h position hposition)

end Reads

end OtEfr32.Data
