import Mathlib.Data.List.Count
import Mathlib.Data.List.Nodup
import Mathlib.Data.Nat.Notation

/-!
# Numbered items in a slot and a queue

A system numbers the items that come to it.  An item is diverted to a slot, from which it is handed
over or dropped, or it waits in a queue; an item that was handed over may wait in the queue again.
`Numbered` says that no number is in two places, and that an item in the slot, and one that was
handed over, has been diverted only once.
-/

namespace OtEfr32.Data

/-- The invariant, over the numbers in the slot and the queue, the numbers that were handed over and
diverted so far, and the next number. -/
structure Numbered (slot handed diverted queued : List ℕ) (next : ℕ) : Prop where
  nodup : (slot ++ queued).Nodup
  bound : ∀ n ∈ diverted ++ queued, n < next
  known : ∀ n ∈ slot ++ handed, n ∈ diverted
  once : ∀ n ∈ slot ++ handed, diverted.count n ≤ 1
  apart : ∀ n ∈ slot, n ∉ handed
  waiting : ∀ n ∈ queued, n ∈ handed ∨ n ∉ diverted

namespace Numbered

variable {slot handed diverted queued : List ℕ} {next n : ℕ}

theorem empty (next : ℕ) : Numbered [] [] [] [] next := by
  constructor <;> simp

/-- The slot is emptied. -/
theorem drop (h : Numbered slot handed diverted queued next) :
    Numbered [] handed diverted queued next where
  nodup := (List.nodup_append.mp h.nodup).2.1
  bound := h.bound
  known := fun n hn ↦ h.known n (List.mem_append_right slot hn)
  once := fun n hn ↦ h.once n (List.mem_append_right slot hn)
  apart := fun _ hn ↦ absurd hn List.not_mem_nil
  waiting := h.waiting

/-- The next number is not in use. -/
theorem fresh (h : Numbered slot handed diverted queued next) :
    next ∉ slot ∧ next ∉ handed ∧ next ∉ diverted ∧ next ∉ queued := by
  have hbound : next ∉ diverted ++ queued := fun hmem ↦ Nat.lt_irrefl next (h.bound next hmem)
  have hdiverted : next ∉ diverted := fun hmem ↦ hbound (List.mem_append_left _ hmem)
  have hknown : next ∉ slot ++ handed := fun hmem ↦ hdiverted (h.known next hmem)
  exact ⟨fun hmem ↦ hknown (List.mem_append_left _ hmem),
    fun hmem ↦ hknown (List.mem_append_right _ hmem), hdiverted,
    fun hmem ↦ hbound (List.mem_append_right _ hmem)⟩

/-- A number is given to an item that goes nowhere. -/
theorem advance (h : Numbered slot handed diverted queued next) :
    Numbered slot handed diverted queued (next + 1) :=
  { h with bound := fun n hn ↦ Nat.lt_succ_of_lt (h.bound n hn) }

/-- A new item waits. -/
theorem enqueue (h : Numbered slot handed diverted queued next) :
    Numbered slot handed diverted (queued ++ [next]) (next + 1) := by
  obtain ⟨hslot, hhanded, hdiverted, hqueued⟩ := h.fresh
  constructor
  case nodup =>
    rw [← List.append_assoc]
    refine List.nodup_append.mpr ⟨h.nodup, List.nodup_singleton _, ?_⟩
    grind
  case bound =>
    have hbound := h.bound
    grind
  case known => exact h.known
  case once => exact h.once
  case apart => exact h.apart
  case waiting =>
    have hwaiting := h.waiting
    grind

/-- An item that was not diverted yet comes to the slot. -/
theorem divert (h : Numbered slot handed diverted queued next) (hn : n < next)
    (hhanded : n ∉ handed) (hdiverted : n ∉ diverted) (hqueued : n ∉ queued) :
    Numbered [n] handed (diverted ++ [n]) queued next := by
  constructor
  case nodup => exact List.nodup_cons.mpr ⟨hqueued, h.drop.nodup⟩
  case bound =>
    have hbound := h.bound
    grind
  case known =>
    have hknown := h.known
    grind
  case once =>
    have honce := h.once
    have hzero : diverted.count n = 0 := List.count_eq_zero.mpr hdiverted
    grind
  case apart => grind
  case waiting =>
    have hwaiting := h.waiting
    grind

/-- The first item of the queue leaves it. -/
theorem execute (h : Numbered slot handed diverted (n :: queued) next) :
    Numbered slot handed diverted queued next where
  nodup := h.nodup.sublist ((List.sublist_cons_self n queued).append_left slot)
  bound := fun m hm ↦ h.bound m
    ((List.append_sublist_append_left diverted).mpr (List.sublist_cons_self n queued) |>.subset hm)
  known := h.known
  once := h.once
  apart := h.apart
  waiting := fun m hm ↦ h.waiting m (List.mem_cons_of_mem n hm)

/-- The first item of the queue comes to the slot for the first time. -/
theorem executeDivert (h : Numbered slot handed diverted (n :: queued) next)
    (hhanded : n ∉ handed) : Numbered [n] handed (diverted ++ [n]) queued next := by
  have hdiverted : n ∉ diverted := (h.waiting n List.mem_cons_self).resolve_left hhanded
  have hqueued : n ∉ queued := (List.nodup_cons.mp h.drop.nodup).1
  have hn : n < next := h.bound n (List.mem_append_right _ List.mem_cons_self)
  exact h.execute.divert hn hhanded hdiverted hqueued

/-- The item in the slot is handed over. -/
theorem hand (h : Numbered [n] handed diverted queued next) :
    Numbered [] (handed ++ [n]) diverted queued next := by
  have hmem : ∀ m ∈ handed ++ [n], m ∈ [n] ++ handed := by grind
  constructor
  case nodup => exact h.drop.nodup
  case bound => exact h.bound
  case known => exact fun m hm ↦ h.known m (hmem m hm)
  case once => exact fun m hm ↦ h.once m (hmem m hm)
  case apart => exact fun _ hm ↦ absurd hm List.not_mem_nil
  case waiting => exact fun m hm ↦ (h.waiting m hm).imp_left (List.mem_append_left [n])

/-- It is handed over to the queue. -/
theorem handToQueue (h : Numbered [n] handed diverted queued next) :
    Numbered [] (handed ++ [n]) diverted (queued ++ [n]) next := by
  have hknown : n ∈ diverted := h.known n List.mem_cons_self
  constructor
  case nodup =>
    rw [List.nil_append]
    exact List.nodup_append_comm.mp h.nodup
  case bound =>
    have hbound := h.bound
    grind
  case known => exact h.hand.known
  case once => exact h.hand.once
  case apart => exact h.hand.apart
  case waiting =>
    have hwaiting := h.waiting
    grind

end Numbered

end OtEfr32.Data
