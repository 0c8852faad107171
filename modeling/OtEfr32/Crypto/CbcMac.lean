import Mathlib.Data.List.Range
import Mathlib.Data.Nat.Notation

/-!
# Blocks and their chained authentication code

Blocks of sixteen bytes, and the CBC-MAC of a list of blocks under any block cipher.  A text is cut
into blocks from its start and its last block is filled up with zeros.  `MacState` computes the same
code byte by byte: a byte is added to the block at the current offset, and the cipher runs when
a byte follows a full block.  The two agree on every text (`MacState.finish_absorbAll`).
-/

namespace OtEfr32.Crypto

/-- A block of sixteen bytes. -/
abbrev Block := Vector UInt8 16

namespace Block

/-- The block that starts with the given bytes and is filled up with zeros. -/
def ofBytes (bytes : List UInt8) : Block := Vector.ofFn fun i ↦ bytes.getD i 0

/-- The bytewise sum of two blocks. -/
def xor (left right : Block) : Block := Vector.ofFn fun i ↦ left[i] ^^^ right[i]

/-- Adds bytes to a block, the first of them at `offset`. -/
def xorAt (block : Block) (offset : ℕ) (bytes : List UInt8) : Block :=
  Vector.ofFn fun i ↦ block[i] ^^^ if offset ≤ i then bytes.getD (i - offset) 0 else 0

@[simp]
theorem getElem_ofBytes (bytes : List UInt8) (i : ℕ) (hi : i < 16) :
    (ofBytes bytes)[i] = bytes.getD i 0 := by
  simp [ofBytes]

@[simp]
theorem getElem_xor (left right : Block) (i : ℕ) (hi : i < 16) :
    (left.xor right)[i] = left[i] ^^^ right[i] := by
  simp [xor]

@[simp]
theorem getElem_xorAt (block : Block) (offset : ℕ) (bytes : List UInt8) (i : ℕ) (hi : i < 16) :
    (block.xorAt offset bytes)[i] =
      block[i] ^^^ if offset ≤ i then bytes.getD (i - offset) 0 else 0 := by
  simp [xorAt]

theorem xorAt_nil (block : Block) (offset : ℕ) : block.xorAt offset [] = block := by
  ext i hi
  simp

theorem xorAt_zero (block : Block) (bytes : List UInt8) :
    block.xorAt 0 bytes = block.xor (ofBytes bytes) := by
  ext i hi
  simp

/-- Bytes are added one after the other. -/
theorem xorAt_cons (block : Block) (offset : ℕ) (byte : UInt8) (bytes : List UInt8) :
    block.xorAt offset (byte :: bytes) = (block.xorAt offset [byte]).xorAt (offset + 1) bytes := by
  ext i hi
  simp only [getElem_xorAt]
  rcases Nat.lt_trichotomy i offset with hlt | heq | hgt
  · have hnext : ¬ offset + 1 ≤ i := by omega
    simp [Nat.not_le.mpr hlt, hnext]
  · subst heq
    have hnext : ¬ i + 1 ≤ i := by omega
    simp [hnext]
  · obtain ⟨rest, rfl⟩ : ∃ rest, i = offset + 1 + rest := ⟨i - (offset + 1), by omega⟩
    have hsub : offset + 1 + rest - offset = rest + 1 := by omega
    simp [hsub, Nat.le_of_lt hgt]

end Block

/-- The blocks a text is cut into. -/
def blocks (bytes : List UInt8) : List Block :=
  (List.range ((bytes.length + 15) / 16)).map fun i ↦ Block.ofBytes (bytes.drop (16 * i))

@[simp]
theorem blocks_nil : blocks [] = [] := rfl

theorem blocks_of_ne_nil {bytes : List UInt8} (hbytes : bytes ≠ []) :
    blocks bytes = Block.ofBytes bytes :: blocks (bytes.drop 16) := by
  have hlength : 0 < bytes.length := List.length_pos_iff.mpr hbytes
  have hcount : (bytes.length + 15) / 16 = (bytes.length - 16 + 15) / 16 + 1 := by omega
  simp only [blocks, hcount, List.range_succ_eq_map, List.map_cons, List.map_map,
    List.length_drop, Nat.mul_zero, List.drop_zero, List.cons.injEq, true_and]
  apply List.map_congr_left
  intro i _
  simp [List.drop_drop, Nat.mul_succ, Nat.add_comm]

theorem ofBytes_take (bytes : List UInt8) :
    Block.ofBytes (bytes.take 16) = Block.ofBytes bytes := by
  ext i hi
  simp [List.getD_eq_getElem?_getD, hi]

section Chain

variable (E : Block → Block)

/-- Chains blocks to a value: each is added to it and the sum encrypted. -/
def chain (value : Block) (rest : List Block) : Block :=
  rest.foldl (fun value block ↦ E (value.xor block)) value

/-- The CBC-MAC of a first block and the blocks after it. -/
def cbcMac (first : Block) (rest : List Block) : Block := chain E (E first) rest

theorem chain_append (value : Block) (left right : List Block) :
    chain E value (left ++ right) = chain E (chain E value left) right :=
  List.foldl_append

/-- The authentication code in the course of a text: the sum of the last value and the bytes of
the current block, and how many bytes of that block have been added. -/
structure MacState where
  block : Block
  length : ℕ
deriving DecidableEq

namespace MacState

/-- Adds one byte; a full block is encrypted first. -/
def absorb (state : MacState) (byte : UInt8) : MacState :=
  if state.length = 16 then ⟨(E state.block).xorAt 0 [byte], 1⟩
  else ⟨state.block.xorAt state.length [byte], state.length + 1⟩

def absorbAll (state : MacState) (bytes : List UInt8) : MacState := bytes.foldl (absorb E) state

/-- Ends a text: what is in the current block is encrypted. -/
def finish (state : MacState) : Block := if state.length ≠ 0 then E state.block else state.block

theorem absorbAll_append (state : MacState) (left right : List UInt8) :
    state.absorbAll E (left ++ right) = (state.absorbAll E left).absorbAll E right :=
  List.foldl_append

/-- Bytes that fit into the current block are added to it without a run of the cipher. -/
theorem absorbAll_of_le {state : MacState} {bytes : List UInt8}
    (hroom : state.length + bytes.length ≤ 16) :
    state.absorbAll E bytes =
      ⟨state.block.xorAt state.length bytes, state.length + bytes.length⟩ := by
  induction bytes generalizing state with
  | nil => simp [absorbAll, Block.xorAt_nil]
  | cons byte bytes ih =>
    rw [List.length_cons] at hroom
    have hopen : state.length ≠ 16 := by omega
    have hstep : state.absorb E byte =
        ⟨state.block.xorAt state.length [byte], state.length + 1⟩ := by
      simp [absorb, hopen]
    have hrest : (state.absorb E byte).length + bytes.length ≤ 16 := by
      rw [hstep]
      show state.length + 1 + bytes.length ≤ 16
      omega
    calc
      state.absorbAll E (byte :: bytes) = (state.absorb E byte).absorbAll E bytes := rfl
      _ = _ := ih hrest
      _ = _ := by
        rw [hstep, List.length_cons, Block.xorAt_cons _ _ byte bytes]
        simp only [Nat.add_assoc, Nat.add_comm 1]

/-- A byte after a full block starts a new block on the encrypted one. -/
theorem absorbAll_full (block : Block) {bytes : List UInt8} (hbytes : bytes ≠ []) :
    absorbAll E ⟨block, 16⟩ bytes = absorbAll E ⟨E block, 0⟩ bytes := by
  cases bytes with
  | nil => exact absurd rfl hbytes
  | cons byte bytes => rfl

/-- Adding a text byte by byte from a block boundary and ending it chains its blocks. -/
theorem finish_absorbAll (value : Block) (bytes : List UInt8) :
    finish E (absorbAll E ⟨value, 0⟩ bytes) = chain E value (blocks bytes) := by
  by_cases hbytes : bytes = []
  · subst hbytes
    rfl
  have hsplit : absorbAll E ⟨value, 0⟩ bytes =
      absorbAll E ⟨value.xor (Block.ofBytes bytes), (bytes.take 16).length⟩ (bytes.drop 16) := by
    have hroom : 0 + (bytes.take 16).length ≤ 16 := by
      rw [Nat.zero_add]
      exact List.length_take_le 16 bytes
    have hfirst : absorbAll E ⟨value, 0⟩ (bytes.take 16) = _ := absorbAll_of_le E hroom
    simp only [Block.xorAt_zero, ofBytes_take, Nat.zero_add] at hfirst
    rw [← hfirst, ← absorbAll_append, List.take_append_drop]
  rw [hsplit, blocks_of_ne_nil hbytes]
  by_cases hrest : bytes.drop 16 = []
  · have hpos : (bytes.take 16).length ≠ 0 := by
      simp [hbytes]
    simp only [hrest, blocks_nil]
    show finish E ⟨_, _⟩ = _
    simp only [finish, ne_eq, hpos, not_false_eq_true, if_true]
    rfl
  · have hfull : (bytes.take 16).length = 16 := by
      have hlong : 16 < bytes.length := by simpa using hrest
      simp only [List.length_take]
      omega
    calc
      finish E (absorbAll E ⟨value.xor (Block.ofBytes bytes), (bytes.take 16).length⟩
          (bytes.drop 16)) =
        finish E (absorbAll E ⟨E (value.xor (Block.ofBytes bytes)), 0⟩ (bytes.drop 16)) := by
          rw [hfull, absorbAll_full E _ hrest]
      _ = chain E (E (value.xor (Block.ofBytes bytes))) (blocks (bytes.drop 16)) :=
          finish_absorbAll _ _
      _ = chain E value (Block.ofBytes bytes :: blocks (bytes.drop 16)) := rfl
termination_by bytes.length
decreasing_by
  have hpos : 0 < bytes.length := List.length_pos_iff.mpr hbytes
  simp only [List.length_drop]
  omega

end MacState

end Chain

end OtEfr32.Crypto
