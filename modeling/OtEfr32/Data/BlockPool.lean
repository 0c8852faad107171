import Mathlib.Data.List.Count
import Mathlib.Data.List.Nodup
import Mathlib.Data.List.Perm.Basic

/-!
# Block pools

A pool hands out blocks and takes them back.  A client passes the blocks that it has from place to
place; `held` lists what is in all places.  `Custody` says that these are exactly the blocks handed
out, each once, and that every block was given back as often as it was handed out before.
-/

namespace OtEfr32.Data

/-- A pool, with the history of what it handed out and got back. -/
structure BlockPool (Block : Type*) where
  allocated : List Block := []
  allocations : List Block := []
  frees : List Block := []

namespace BlockPool

variable {Block : Type*} [DecidableEq Block] (pool : BlockPool Block)

/-- Hand out a block. -/
def alloc (block : Block) : BlockPool Block :=
  { pool with
    allocated := block :: pool.allocated
    allocations := pool.allocations ++ [block] }

/-- Take a block back; there is nothing to take back for a null pointer. -/
def free : Option Block → BlockPool Block
  | none => pool
  | some block =>
    { pool with
      allocated := pool.allocated.erase block
      frees := pool.frees ++ [block] }

/-- The places hold what the pool has handed out. -/
structure Custody (held : List Block) : Prop where
  perm : pool.allocated.Perm held
  nodup : held.Nodup
  balanced : ∀ block, pool.allocations.count block = pool.frees.count block + held.count block

namespace Custody

variable {pool} {held held' : List Block} {block : Block}

theorem empty : (({} : BlockPool Block)).Custody [] where
  perm := .nil
  nodup := .nil
  balanced _ := rfl

/-- Blocks go from place to place. -/
theorem move (h : pool.Custody held) (hmove : held.Perm held') : pool.Custody held' where
  perm := h.perm.trans hmove
  nodup := hmove.nodup h.nodup
  balanced block := by rw [h.balanced block, hmove.count_eq block]

/-- A block that was free is handed out. -/
theorem alloc (h : pool.Custody held) (hfree : block ∉ pool.allocated) :
    (pool.alloc block).Custody (block :: held) where
  perm := h.perm.cons block
  nodup := List.nodup_cons.mpr ⟨fun hmem ↦ hfree (h.perm.mem_iff.mpr hmem), h.nodup⟩
  balanced other := by
    change (pool.allocations ++ [block]).count other =
      pool.frees.count other + (block :: held).count other
    rw [List.count_append, h.balanced other, List.count_singleton, List.count_cons, Nat.add_assoc]

/-- A block is given back. -/
theorem free (h : pool.Custody (block :: held)) : (pool.free (some block)).Custody held where
  perm := by
    have herase := h.perm.erase block
    rwa [List.erase_cons_head] at herase
  nodup := (List.nodup_cons.mp h.nodup).2
  balanced other := by
    change pool.allocations.count other =
      (pool.frees ++ [block]).count other + held.count other
    rw [List.count_append, h.balanced other, List.count_singleton, List.count_cons]
    omega

/-- A block that is handed out is in exactly one place. -/
theorem count_eq_one (h : pool.Custody held) (hmem : block ∈ pool.allocated) :
    held.count block = 1 :=
  List.count_eq_one_of_mem h.nodup (h.perm.mem_iff.mp hmem)

theorem length_eq (h : pool.Custody held) : pool.allocated.length = held.length :=
  h.perm.length_eq

/-- A block was given back as often as it was handed out, less the time it is out. -/
theorem frees_eq (h : pool.Custody held) (block : Block) :
    pool.frees.count block + (if block ∈ pool.allocated then 1 else 0) =
      pool.allocations.count block := by
  rw [h.balanced block]
  split
  case isTrue hmem => rw [h.count_eq_one hmem]
  case isFalse hfree => rw [List.count_eq_zero.mpr fun hmem ↦ hfree (h.perm.mem_iff.mpr hmem)]

end Custody

end BlockPool

end OtEfr32.Data
