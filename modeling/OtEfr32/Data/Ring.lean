import Mathlib.Data.List.Basic
import Mathlib.Data.Nat.ModEq
import Mathlib.Tactic.TypeStar

/-!
# Streams through a ring

A stream is written to a memory of `size` cells, element `j` to the cell `j % size`.  `RingHolds`
says that the elements `first` to `last - 1` of the stream are still in their cells.  Writing the
next elements keeps this as long as no more than `size` elements are held, and reading a run of
cells that does not wrap around gives back that part of the stream.
-/

namespace OtEfr32.Data

variable {α : Type*}

/-- Copy `source` to the cells from `offset` on. -/
def writeCells (memory : ℕ → α) (offset : ℕ) (source : List α) : ℕ → α :=
  fun cell ↦ if offset ≤ cell then (source[cell - offset]?).getD (memory cell) else memory cell

/-- The cells from `offset` on. -/
def readCells (memory : ℕ → α) (offset count : ℕ) : List α :=
  (List.range' offset count).map memory

theorem writeCells_hit {memory : ℕ → α} {offset index : ℕ} {source : List α} {value : α}
    (h : source[index]? = some value) :
    writeCells memory offset source (offset + index) = value := by
  simp [writeCells, h]

theorem writeCells_miss {memory : ℕ → α} {offset cell : ℕ} {source : List α}
    (h : cell < offset ∨ offset + source.length ≤ cell) :
    writeCells memory offset source cell = memory cell := by
  unfold writeCells
  split
  case isTrue hcell =>
    rw [List.getElem?_eq_none (by omega)]
    rfl
  case isFalse => rfl

/-- The elements of `stream` from `first` up to `last` are in their cells. -/
structure RingHolds (size : ℕ) (memory : ℕ → α) (stream : List α) (first last : ℕ) : Prop where
  in_stream : last ≤ stream.length
  cell : ∀ index, first ≤ index → index < last → stream[index]? = some (memory (index % size))

namespace RingHolds

variable {size : ℕ} {memory : ℕ → α} {stream : List α} {first last : ℕ}

/-- Elements may be released. -/
theorem release (h : RingHolds size memory stream first last) {later : ℕ} (hlater : first ≤ later) :
    RingHolds size memory stream later last :=
  ⟨h.in_stream, fun index hindex ↦ h.cell index (hlater.trans hindex)⟩

/-- The stream may grow. -/
theorem extend (h : RingHolds size memory stream first last) (more : List α) :
    RingHolds size memory (stream ++ more) first last where
  in_stream := by
    rw [List.length_append]
    exact h.in_stream.trans (Nat.le_add_right _ _)
  cell index hfirst hlast := by
    rw [List.getElem?_append_left (hlast.trans_le h.in_stream)]
    exact h.cell index hfirst hlast

/-- What is behind the elements held does not matter. -/
theorem of_take (h : RingHolds size memory stream first last) {stream' : List α}
    (htake : stream'.take last = stream.take last) : RingHolds size memory stream' first last where
  in_stream := by
    have hlength := congrArg List.length htake
    have := h.in_stream
    rw [List.length_take, List.length_take] at hlength
    omega
  cell index hfirst hlast := by
    rw [← List.getElem?_take_of_lt hlast, htake, List.getElem?_take_of_lt hlast]
    exact h.cell index hfirst hlast

/-- Two elements of a window of at most `size` have different cells. -/
theorem mod_ne {size first index other : ℕ} (hindex : first ≤ index) (hlt : index < other)
    (hother : other < first + size) : index % size ≠ other % size := by
  intro hmod
  have hdvd : size ∣ other - index := (Nat.modEq_iff_dvd' (Nat.le_of_lt hlt)).mp hmod
  have hle := Nat.le_of_dvd (by omega) hdvd
  omega

/-- Write the next elements of the stream: they do not wrap around, and what is held afterwards
fits the ring. -/
theorem write (h : RingHolds size memory stream first last) {source : List α}
    (hsource : source <+: stream.drop last) (hnowrap : last % size + source.length ≤ size)
    (hroom : last + source.length ≤ first + size) :
    RingHolds size (writeCells memory (last % size) source) stream first
      (last + source.length) := by
  obtain ⟨rest, hrest⟩ := hsource
  have hnext : ∀ index < source.length, stream[last + index]? = source[index]? := by
    intro index hindex
    rw [← List.getElem?_drop, ← hrest, List.getElem?_append_left hindex]
  constructor
  case in_stream =>
    have hlength := congrArg List.length hrest
    rw [List.length_append, List.length_drop] at hlength
    have := h.in_stream
    omega
  case cell =>
    intro index hfirst hlast
    by_cases hold : index < last
    · rw [h.cell index hfirst hold, writeCells_miss]
      -- An old element shares its cell with none of the new ones.
      by_contra hhit
      have hcell : index % size = (last + (index % size - last % size)) % size := by
        conv_rhs => rw [Nat.add_mod, Nat.mod_eq_of_lt (a := index % size - last % size) (by omega),
          Nat.mod_eq_of_lt (by omega)]
        omega
      exact mod_ne hfirst (by omega) (by omega) hcell
    · obtain ⟨offset, rfl⟩ := Nat.exists_eq_add_of_le (Nat.le_of_not_lt hold)
      have hoffset : offset < source.length := by omega
      have hcell : (last + offset) % size = last % size + offset := by
        rw [Nat.add_mod, Nat.mod_eq_of_lt (a := offset) (by omega), Nat.mod_eq_of_lt (by omega)]
      rw [hnext offset hoffset, hcell, writeCells_hit (List.getElem?_eq_getElem hoffset),
        List.getElem?_eq_getElem hoffset]

/-- Read elements whose cells do not wrap around. -/
theorem read (h : RingHolds size memory stream first last) {count : ℕ}
    (hnowrap : first % size + count ≤ size) (hlast : first + count ≤ last) :
    readCells memory (first % size) count = (stream.drop first).take count := by
  have hin := h.in_stream
  apply List.ext_getElem?
  intro index
  by_cases hindex : index < count
  · have hcell : (first + index) % size = first % size + index := by
      rw [Nat.add_mod, Nat.mod_eq_of_lt (a := index) (by omega), Nat.mod_eq_of_lt (by omega)]
    rw [List.getElem?_take_of_lt hindex, List.getElem?_drop,
      h.cell (first + index) (by omega) (by omega), hcell, readCells, List.getElem?_map,
      List.getElem?_range' hindex]
    simp
  · rw [List.getElem?_eq_none (by simpa [readCells] using hindex),
      List.getElem?_eq_none (by rw [List.length_take]; omega)]

/-- Reading on from a prefix of the stream gives a longer prefix. -/
theorem take_append_read (h : RingHolds size memory stream first last) {count : ℕ}
    (hnowrap : first % size + count ≤ size) (hlast : first + count ≤ last) :
    stream.take first ++ readCells memory (first % size) count = stream.take (first + count) := by
  rw [h.read hnowrap hlast, ← List.take_add]

end RingHolds

end OtEfr32.Data
