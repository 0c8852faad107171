import Mathlib.Data.Finset.Lattice.Fold
import Mathlib.Data.Nat.Notation
import Mathlib.Order.Lattice.Nat

/-!
# Live handles

A service hands out numbers for the objects it holds, and takes them back.  `Allocator` is what a
client knows of the numbers: a new one is not in use.  A client that gives back all that it opened
leaves the set of live handles as it found it, in whatever order it does so; one that does not
leaves a larger set.
-/

namespace OtEfr32.Data

/-- The choice of a number for a new object. -/
structure Allocator where
  next : Finset ℕ → ℕ
  next_notMem : ∀ live, next live ∉ live

namespace Allocator

/-- The choice of a number above all that are in use. -/
def aboveAll : Allocator where
  next live := live.sup id + 1
  next_notMem live hmem := by
    have hle : live.sup id + 1 ≤ live.sup id := Finset.le_sup (f := id) hmem
    exact Nat.not_succ_le_self _ hle

variable (allocator : Allocator) (live : Finset ℕ)

/-- The live handles with a new one. -/
def opened : Finset ℕ := insert (allocator.next live) live

theorem erase_opened : (allocator.opened live).erase (allocator.next live) = live :=
  Finset.erase_insert (allocator.next_notMem live)

theorem subset_opened : live ⊆ allocator.opened live := Finset.subset_insert _ _

theorem next_mem_opened : allocator.next live ∈ allocator.opened live := Finset.mem_insert_self _ _

/-- A handle that is still open when everything else is closed. -/
theorem ne_of_next_mem {live' : Finset ℕ} (hopen : allocator.next live ∈ live') :
    live' ≠ live := by
  rintro rfl
  exact allocator.next_notMem live' hopen

/-- Closing the older one of two handles first. -/
theorem erase_opened_opened :
    ((allocator.opened (allocator.opened live)).erase (allocator.next live)).erase
      (allocator.next (allocator.opened live)) = live := by
  rw [Finset.erase_right_comm, erase_opened, erase_opened]

end Allocator

end OtEfr32.Data
