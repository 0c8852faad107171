import Mathlib.Data.List.TakeWhile

/-!
# Strings that end at a NUL

A string in memory is read up to its first NUL; past the end of the list every byte is read as the
NUL that terminates a literal.  `strncmp` is zero exactly if the texts agree on their first `n`
characters.
-/

namespace OtEfr32.CString

/-- The characters before the first NUL. -/
def text (string : List UInt8) : List UInt8 := string.takeWhile (· != 0)

/-- `strncmp` of the C library: the difference of the first two characters that differ. -/
def strncmp : List UInt8 → List UInt8 → ℕ → ℤ
  | _, _, 0 => 0
  | first, second, n + 1 =>
    if first.headD 0 = second.headD 0 then
      if first.headD 0 = 0 then 0 else strncmp first.tail second.tail n
    else
      (first.headD 0).toNat - (second.headD 0).toNat

theorem text_cons_zero (rest : List UInt8) : text (0 :: rest) = [] := by
  simp [text]

theorem text_cons {byte : UInt8} (hbyte : byte ≠ 0) (rest : List UInt8) :
    text (byte :: rest) = byte :: text rest := by
  simp [text, hbyte]

/-- The text of a string, one character read. -/
theorem text_eq (string : List UInt8) :
    text string = if string.headD 0 = 0 then [] else string.headD 0 :: text string.tail := by
  cases string with
  | nil => rfl
  | cons byte rest =>
    by_cases hbyte : byte = 0
    · simp [hbyte, text_cons_zero]
    · simp [hbyte, text_cons]

theorem strncmp_eq_zero_iff (first second : List UInt8) (n : ℕ) :
    strncmp first second n = 0 ↔ (text first).take n = (text second).take n := by
  induction n generalizing first second with
  | zero => simp [strncmp]
  | succ n ih =>
    rw [strncmp, text_eq first, text_eq second]
    specialize ih first.tail second.tail
    generalize first.headD 0 = byte
    generalize second.headD 0 = byte'
    by_cases hsame : byte = byte'
    · subst hsame
      by_cases hzero : byte = 0
      · simp [hzero]
      · simp [hzero, ih]
    · have hdiffer : ¬ ((byte.toNat : ℤ) - byte'.toNat = 0) := by
        intro hzero
        apply hsame
        apply UInt8.toNat_inj.mp
        omega
      rw [if_neg hsame]
      refine iff_of_false hdiffer fun htake ↦ hsame ?_
      by_cases hzero : byte = 0 <;> by_cases hzero' : byte' = 0 <;> simp_all

theorem text_of_notMem {string : List UInt8} (h : 0 ∉ string) : text string = string := by
  rw [text, List.takeWhile_eq_self_iff]
  intro byte hbyte
  exact bne_iff_ne.mpr fun hzero ↦ h (hzero ▸ hbyte)

theorem text_append_zero {string : List UInt8} (h : 0 ∉ string) (rest : List UInt8) :
    text (string ++ 0 :: rest) = string := by
  induction string with
  | nil => exact text_cons_zero rest
  | cons byte string ih =>
    have hbyte : byte ≠ 0 := fun hzero ↦ h (hzero ▸ List.mem_cons_self)
    rw [List.cons_append, text_cons hbyte, ih fun hmem ↦ h (List.mem_cons_of_mem _ hmem)]

/-- The terminator that is written behind the first `n` characters ends the text there. -/
theorem text_take_append_zero (string : List UInt8) (n : ℕ) :
    text (string.take n ++ [0]) = (text string).take n := by
  induction string generalizing n with
  | nil => cases n <;> rfl
  | cons byte string ih =>
    cases n with
    | zero => rfl
    | succ n =>
      by_cases hbyte : byte = 0
      · subst hbyte
        rw [List.take_succ_cons, List.cons_append, text_cons_zero, text_cons_zero, List.take_nil]
      · rw [List.take_succ_cons, List.cons_append, text_cons hbyte, text_cons hbyte,
          List.take_succ_cons, ih]

/-- A string is its text, or its text, a NUL and anything behind. -/
theorem eq_or_append_of_text {string characters : List UInt8} (h : text string = characters) :
    string = characters ∨ ∃ rest, string = characters ++ 0 :: rest := by
  induction string generalizing characters with
  | nil => exact .inl h
  | cons byte string ih =>
    by_cases hbyte : byte = 0
    · subst hbyte
      rw [text_cons_zero] at h
      subst h
      exact .inr ⟨string, rfl⟩
    · rw [text_cons hbyte] at h
      subst h
      rcases ih rfl with hsame | ⟨rest, hrest⟩
      · exact .inl (congrArg (byte :: ·) hsame)
      · exact .inr ⟨rest, congrArg (byte :: ·) hrest⟩

end OtEfr32.CString
