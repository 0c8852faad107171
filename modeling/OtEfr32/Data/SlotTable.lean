import Mathlib.Data.List.Basic
import Mathlib.Data.List.Perm.Basic
import Mathlib.Data.Nat.Notation
import Mathlib.Tactic.TypeStar

/-!
# Tables of slots

A table of a fixed size whose slots are free or hold a key.  `held` collects the keys of the
occupied slots.  Which slot a key is stored in does not matter to the users of such a table, so
the lemmas say what a write does to `held` up to a permutation.
-/

namespace OtEfr32.Data

variable {Slot Key : Type*} (key : Slot → Option Key)

/-- The keys in the table; `key slot = none` for a free slot. -/
def held (slots : List Slot) : List Key := slots.filterMap key

variable {key} {slots : List Slot} {slot : Slot} {stored : Key} {index : ℕ}

theorem mem_held : stored ∈ held key slots ↔ ∃ slot ∈ slots, key slot = some stored :=
  List.mem_filterMap

/-- Occupying a free slot adds its key. -/
theorem held_set_of_free (hindex : index < slots.length) (hfree : key slots[index] = none)
    (hslot : key slot = some stored) :
    (held key (slots.set index slot)).Perm (stored :: held key slots) := by
  have hold : held key slots =
      held key (slots.take index) ++ held key (slots.drop (index + 1)) := by
    conv_lhs => rw [← List.take_append_drop index slots, List.drop_eq_getElem_cons hindex]
    simp only [held, List.filterMap_append, List.filterMap_cons, hfree]
  have hnew : held key (slots.set index slot) =
      held key (slots.take index) ++ stored :: held key (slots.drop (index + 1)) := by
    rw [List.set_eq_take_append_cons_drop, if_pos hindex]
    simp [held, hslot]
  rw [hold, hnew]
  exact List.perm_middle

/-- Freeing an occupied slot takes its key away, once. -/
theorem held_perm_of_freed (hindex : index < slots.length) (hkey : key slots[index] = some stored)
    (hslot : key slot = none) :
    (held key slots).Perm (stored :: held key (slots.set index slot)) := by
  have hlength : index < (slots.set index slot).length := by simpa using hindex
  have hfree : key ((slots.set index slot)[index]) = none := by simpa using hslot
  have hback : (slots.set index slot).set index slots[index] = slots := by
    rw [List.set_set, List.set_getElem_self]
  simpa [hback] using held_set_of_free hlength hfree hkey

theorem length_held_of_full (hfull : ∀ slot ∈ slots, key slot ≠ none) :
    (held key slots).length = slots.length := by
  induction slots with
  | nil => rfl
  | cons slot slots ih =>
    obtain ⟨hslot, hslots⟩ := List.forall_mem_cons.mp hfull
    obtain ⟨stored, hstored⟩ := Option.ne_none_iff_exists'.mp hslot
    have htail : (held key slots).length = slots.length := ih hslots
    simpa [held, List.filterMap_cons, hstored] using htail

/-- A table of free slots holds nothing. -/
theorem held_replicate (hslot : key slot = none) (count : ℕ) :
    held key (List.replicate count slot) = [] := by
  simp [held, hslot]

end OtEfr32.Data
