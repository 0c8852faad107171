import Mathlib.Data.Nat.Notation
import Mathlib.Logic.Function.Basic

/-!
# Byte memory

Memory as a function from addresses to bytes, with the reads and writes of consecutive bytes that
buffers are made of.
-/

namespace OtEfr32.Data

/-- The byte at every address. -/
abbrev Memory := ℕ → UInt8

namespace Memory

/-- The bytes of a buffer. -/
def read (memory : Memory) : (address length : ℕ) → List UInt8
  | _, 0 => []
  | address, length + 1 => memory address :: memory.read (address + 1) length

/-- Stores bytes into a buffer. -/
def write (memory : Memory) : (address : ℕ) → List UInt8 → Memory
  | _, [] => memory
  | address, byte :: bytes =>
    Memory.write (Function.update memory address byte) (address + 1) bytes

variable {memory : Memory}

@[simp]
theorem length_read (memory : Memory) (address length : ℕ) :
    (memory.read address length).length = length := by
  induction length generalizing address with
  | zero => rfl
  | succ length ih => simp [read, ih]

theorem read_add (memory : Memory) (address left right : ℕ) :
    memory.read address (left + right) =
      memory.read address left ++ memory.read (address + left) right := by
  induction left generalizing address with
  | zero => simp [read]
  | succ left ih =>
    have hlength : left + 1 + right = left + right + 1 := by omega
    have haddress : address + (left + 1) = address + 1 + left := by omega
    rw [hlength, haddress]
    simp only [read, ih, List.cons_append]

/-- The back of a buffer. -/
theorem drop_read (memory : Memory) (address length count : ℕ) :
    (memory.read address length).drop count = memory.read (address + count) (length - count) := by
  obtain hle | hlt := (Nat.lt_or_ge length count).symm
  · have hlength : length = count + (length - count) := by omega
    rw [hlength, read_add]
    simp
  · have hall : (memory.read address length).length ≤ count := by
      rw [length_read]
      exact Nat.le_of_lt hlt
    rw [List.drop_eq_nil_of_le hall, Nat.sub_eq_zero_of_le (Nat.le_of_lt hlt)]
    rfl

/-- The front of a buffer. -/
theorem take_read (memory : Memory) (address length count : ℕ) :
    (memory.read address length).take count = memory.read address (min count length) := by
  obtain hle | hlt := (Nat.lt_or_ge length count).symm
  · have hlength : length = count + (length - count) := by omega
    rw [Nat.min_eq_left hle, hlength, read_add]
    simp
  · have hall : (memory.read address length).length ≤ count := by
      rw [length_read]
      exact Nat.le_of_lt hlt
    rw [List.take_of_length_le hall, Nat.min_eq_right (Nat.le_of_lt hlt)]

theorem getElem?_read (memory : Memory) {address length i : ℕ} (hi : i < length) :
    (memory.read address length)[i]? = some (memory (address + i)) := by
  have hlength : length - i = length - i - 1 + 1 := by omega
  rw [← Nat.add_zero i, ← List.getElem?_drop, drop_read, hlength]
  rfl

/-- A read depends on the bytes of the buffer only. -/
theorem read_congr {left right : Memory} {address length : ℕ}
    (hsame : ∀ i, address ≤ i → i < address + length → left i = right i) :
    left.read address length = right.read address length := by
  induction length generalizing address with
  | zero => rfl
  | succ length ih =>
    have hhead : left address = right address := hsame address (by omega) (by omega)
    have htail : left.read (address + 1) length = right.read (address + 1) length :=
      ih fun i hlow hhigh ↦ hsame i (by omega) (by omega)
    simp only [read, hhead, htail]

/-- A write leaves the bytes outside the buffer alone. -/
theorem write_of_not_mem (memory : Memory) {address : ℕ} {bytes : List UInt8} {i : ℕ}
    (hi : i < address ∨ address + bytes.length ≤ i) : memory.write address bytes i = memory i := by
  induction bytes generalizing memory address with
  | nil => rfl
  | cons byte bytes ih =>
    rw [List.length_cons] at hi
    have hne : i ≠ address := by omega
    calc
      memory.write address (byte :: bytes) i = Function.update memory address byte i :=
        ih _ (by omega)
      _ = memory i := Function.update_of_ne hne byte memory

theorem write_append (memory : Memory) (address : ℕ) (left right : List UInt8) :
    memory.write address (left ++ right) =
      (memory.write address left).write (address + left.length) right := by
  induction left generalizing memory address with
  | nil => rfl
  | cons byte left ih =>
    have haddress : address + (left.length + 1) = address + 1 + left.length := by omega
    rw [List.length_cons, haddress]
    exact ih _ _

/-- A buffer apart from the written bytes reads as before. -/
theorem read_write_of_disjoint (memory : Memory) {written address length : ℕ} {bytes : List UInt8}
    (hdisjoint : address + length ≤ written ∨ written + bytes.length ≤ address) :
    (memory.write written bytes).read address length = memory.read address length := by
  apply read_congr
  intro i hlow hhigh
  exact write_of_not_mem memory (by omega)

/-- A buffer reads as the bytes stored in it. -/
theorem read_write (memory : Memory) (address : ℕ) (bytes : List UInt8) :
    (memory.write address bytes).read address bytes.length = bytes := by
  induction bytes generalizing memory address with
  | nil => rfl
  | cons byte bytes ih =>
    have hbehind : address < address + 1 ∨ address + 1 + bytes.length ≤ address := by omega
    have hhead : memory.write address (byte :: bytes) address = byte :=
      calc
        memory.write address (byte :: bytes) address =
            Function.update memory address byte address := write_of_not_mem _ hbehind
        _ = byte := Function.update_self address byte memory
    rw [List.length_cons, read, hhead, write, ih]

/-- To store the bytes of a buffer in it changes nothing. -/
theorem write_read (memory : Memory) (address length : ℕ) :
    memory.write address (memory.read address length) = memory := by
  induction length generalizing address with
  | zero => rfl
  | succ length ih => rw [read, write, Function.update_eq_self, ih]

end Memory

end OtEfr32.Data
