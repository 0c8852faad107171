import Mathlib.Data.Prod.Lex
import Mathlib.Data.Set.Function

/-!
# Stamps

A source gives out stamps, each of them below a bound that only rises: the bound itself is the next
stamp.  No stamp then goes to two items.  Where a stamp is an epoch together with a counter that
starts again in each epoch, a key of its own for each epoch makes the pair of key and counter as
good as the stamp.
-/

namespace OtEfr32.Data

section Issued

variable {Stamp Item : Type*} [Preorder Stamp] {given : Set (Stamp × Item)} {bound bound' : Stamp}

/-- All stamps that were given out lie below the bound, and no stamp went to two items. -/
structure Issued (given : Set (Stamp × Item)) (bound : Stamp) : Prop where
  below : ∀ entry ∈ given, entry.1 < bound
  injOn : given.InjOn Prod.fst

theorem issued_empty (bound : Stamp) : Issued (∅ : Set (Stamp × Item)) bound :=
  ⟨nofun, Set.injOn_empty _⟩

theorem Issued.raise (h : Issued given bound) (hle : bound ≤ bound') : Issued given bound' :=
  ⟨fun entry hmem ↦ (h.below entry hmem).trans_le hle, h.injOn⟩

/-- The next item gets the bound. -/
theorem Issued.issue (h : Issued given bound) (hlt : bound < bound') (item : Item) :
    Issued (insert (bound, item) given) bound' := by
  have hnew : bound ∉ Prod.fst '' given := by
    rintro ⟨entry, hmem, hentry⟩
    exact (h.below entry hmem).ne hentry
  have hmem : (bound, item) ∉ given := fun hmem ↦ hnew ⟨_, hmem, rfl⟩
  refine ⟨?_, (Set.injOn_insert hmem).mpr ⟨h.injOn, hnew⟩⟩
  rintro entry (rfl | hold)
  · exact hlt
  · exact (h.below entry hold).trans hlt

theorem Issued.item_eq (h : Issued given bound) {stamp : Stamp} {item item' : Item}
    (hmem : (stamp, item) ∈ given) (hmem' : (stamp, item') ∈ given) : item = item' :=
  congrArg Prod.snd (h.injOn hmem hmem' rfl)

end Issued

section Epochs

variable {Epoch Counter Item Key : Type*} [Preorder Epoch] [Preorder Counter]
  {given : Set ((Epoch ×ₗ Counter) × Item)} {bound : Epoch ×ₗ Counter}

/-- Where each epoch has a key of its own, no key and counter go to two items. -/
theorem Issued.item_eq_of_key (h : Issued given bound) {key : Epoch → Key}
    (hkey : Function.Injective key) {epoch epoch' : Epoch} {counter : Counter} {item item' : Item}
    (hmem : (toLex (epoch, counter), item) ∈ given)
    (hmem' : (toLex (epoch', counter), item') ∈ given) (heq : key epoch = key epoch') :
    item = item' := by
  obtain rfl := hkey heq
  exact h.item_eq hmem hmem'

end Epochs

end OtEfr32.Data
