import Mathlib.Data.List.Basic
import Mathlib.Tactic.TypeStar

/-!
# Histories whose entries have causes

A history is written down entry by entry.  It is explained if each entry has its cause in the part
of the history that stands before it.
-/

namespace OtEfr32.Transition

variable {Entry : Type*} {explains : List Entry → Entry → Prop} {history more : List Entry}

/-- Every entry is explained by the entries before it. -/
def Explained (explains : List Entry → Entry → Prop) (history : List Entry) : Prop :=
  ∀ before entry after, history = before ++ entry :: after → explains before entry

theorem explained_nil : Explained explains [] := by
  intro before entry after hsplit
  simp at hsplit

/-- The entries that are written down have their causes in the history or among themselves. -/
theorem Explained.append (h : Explained explains history)
    (hmore : Explained (fun before ↦ explains (history ++ before)) more) :
    Explained explains (history ++ more) := by
  intro before entry after hsplit
  rcases List.append_eq_append_iff.mp hsplit with ⟨written, rfl, hwritten⟩ | ⟨rest, hrest, hback⟩
  · exact hmore written entry after hwritten
  · cases rest with
    | nil =>
      rw [List.append_nil] at hrest
      subst hrest
      have hfirst : explains (history ++ []) entry := hmore [] entry after hback.symm
      rwa [List.append_nil] at hfirst
    | cons first rest =>
      obtain ⟨rfl, -⟩ := List.cons_eq_cons.mp hback
      exact h before entry rest hrest

theorem explained_singleton {entry : Entry} (h : explains [] entry) :
    Explained explains [entry] := by
  intro before other after hsplit
  cases before with
  | nil =>
    obtain ⟨rfl, -⟩ := List.cons_eq_cons.mp hsplit
    exact h
  | cons first before => simp at hsplit

theorem explained_of_forall
    (h : ∀ entry ∈ history, ∀ before, before ⊆ history → explains before entry) :
    Explained explains history := by
  rintro before entry after rfl
  exact h entry (by simp) before (List.subset_append_left _ _)

/-- An entry of an explained history, with the part before it. -/
theorem Explained.of_mem (h : Explained explains history) {entry : Entry}
    (hmem : entry ∈ history) :
    ∃ before, before ++ [entry] <+: history ∧ Explained explains before ∧
      explains before entry := by
  obtain ⟨before, after, rfl⟩ := List.append_of_mem hmem
  refine ⟨before, ⟨after, by simp⟩, ?_, h before entry after rfl⟩
  rintro front other back rfl
  exact h front other (back ++ entry :: after) (by simp)

end OtEfr32.Transition
