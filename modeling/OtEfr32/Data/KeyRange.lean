import Mathlib.Data.List.Basic
import Mathlib.Data.List.Nodup
import Mathlib.Data.List.Range
import Mathlib.Data.Nat.Notation

/-!
# Keys of a range

A store keyed by numbers is enumerated in ascending order, a few keys at a time, by asking for the
keys from the last one seen plus one.  `keysIn occupied first last` is the complete enumeration of
a range; `keysIn_after` says that restarting behind a key continues it exactly where that key
stood.
-/

namespace OtEfr32.Data

/-- The occupied keys between `first` and `last`, both included, in ascending order. -/
def keysIn (occupied : ℕ → Bool) (first last : ℕ) : List ℕ :=
  (List.range' first (last + 1 - first)).filter occupied

variable {occupied occupied' : ℕ → Bool} {first last key : ℕ}

theorem mem_keysIn : key ∈ keysIn occupied first last ↔
    (first ≤ key ∧ key ≤ last) ∧ occupied key = true := by
  rw [keysIn, List.mem_filter, List.mem_range'_1]
  refine and_congr_left fun _ ↦ ?_
  omega

theorem keysIn_empty (h : last < first) : keysIn occupied first last = [] := by
  simp [keysIn, Nat.sub_eq_zero_of_le h]

theorem keysIn_step (h : first ≤ last) :
    keysIn occupied first last =
      if occupied first then first :: keysIn occupied (first + 1) last
      else keysIn occupied (first + 1) last := by
  have hlength : last + 1 - first = (last + 1 - (first + 1)) + 1 := by omega
  rw [keysIn, hlength, List.range'_succ, List.filter_cons]
  rfl

/-- The enumeration depends on the range only. -/
theorem keysIn_congr (h : ∀ key, first ≤ key → key ≤ last → occupied key = occupied' key) :
    keysIn occupied first last = keysIn occupied' first last := by
  refine List.filter_congr fun key hkey ↦ ?_
  rw [List.mem_range'_1] at hkey
  exact h key hkey.1 (by omega)

/-- Behind its first key, the enumeration goes on from the next number. -/
theorem keysIn_tail {rest : List ℕ} (h : keysIn occupied first last = key :: rest) :
    keysIn occupied (key + 1) last = rest := by
  induction hwidth : last + 1 - first generalizing first with
  | zero =>
    rw [keysIn_empty (by omega)] at h
    exact absurd h (by simp)
  | succ width ih =>
    rw [keysIn_step (by omega)] at h
    split at h
    · obtain ⟨rfl, hrest⟩ := List.cons_eq_cons.mp h
      exact hrest
    · exact ih h (by omega)

/-- The enumeration restarted behind one of its keys is what followed that key. -/
theorem keysIn_after {front back : List ℕ}
    (h : keysIn occupied first last = front ++ key :: back) :
    keysIn occupied (key + 1) last = back := by
  induction front generalizing first with
  | nil => exact keysIn_tail h
  | cons head front ih => exact ih (keysIn_tail h)

/-- The keys of a translated range. -/
theorem keysIn_eq_map (base count : ℕ) :
    keysIn occupied base (base + count) =
      ((List.range (count + 1)).filter fun slot ↦ occupied (base + slot)).map (base + ·) := by
  have hlength : base + count + 1 - base = count + 1 := by omega
  rw [keysIn, hlength, List.range'_eq_map_range, List.filter_map]
  rfl

theorem keysIn_pairwise : (keysIn occupied first last).Pairwise (· < ·) :=
  List.Pairwise.filter _ List.pairwise_lt_range'

theorem keysIn_nodup : (keysIn occupied first last).Nodup := keysIn_pairwise.imp Nat.ne_of_lt

/-- Occupying a free key of the range adds it to the enumeration. -/
theorem keysIn_insert_perm (hrange : first ≤ key ∧ key ≤ last) (hfree : occupied key = false)
    (hinsert : ∀ other, occupied' other = true ↔ other = key ∨ occupied other = true) :
    (keysIn occupied' first last).Perm (key :: keysIn occupied first last) := by
  have hnew : key ∉ keysIn occupied first last := by
    rw [mem_keysIn, hfree]
    exact fun h ↦ Bool.false_ne_true h.2
  rw [List.perm_ext_iff_of_nodup keysIn_nodup (List.nodup_cons.mpr ⟨hnew, keysIn_nodup⟩)]
  intro other
  rw [List.mem_cons, mem_keysIn, mem_keysIn, hinsert]
  constructor
  · rintro ⟨hother, heq | hoccupied⟩
    · exact .inl heq
    · exact .inr ⟨hother, hoccupied⟩
  · rintro (rfl | ⟨hother, hoccupied⟩)
    · exact ⟨hrange, .inl rfl⟩
    · exact ⟨hother, .inr hoccupied⟩

end OtEfr32.Data
