import Mathlib.Logic.Function.Iterate
import OtEfr32.Crypto.CbcMac

/-!
# Counter mode, byte by byte

A key stream is the concatenation of the encrypted counter blocks that follow a first one.
`CtrState` yields it byte by byte: when the pad is used up, the counter steps and the pad becomes
its encryption.  Byte `j` of the stream is byte `j % 16` of the pad number `j / 16 + 1`
(`CtrState.padByte_iterate`), at whatever bytes a text is interrupted.
-/

namespace OtEfr32.Crypto

/-- The counter, its encryption, and how many bytes of that have been used. -/
structure CtrState where
  counter : Block
  pad : Block
  used : ℕ
deriving DecidableEq

namespace CtrState

variable (E : Block → Block) (step : Block → Block)

/-- Makes sure that the pad has a byte left. -/
def refill (state : CtrState) : CtrState :=
  if state.used = 16 then ⟨step state.counter, E (step state.counter), 0⟩ else state

/-- The next byte of the key stream. -/
def padByte (state : CtrState) : UInt8 :=
  let filled := state.refill E step
  filled.pad[filled.used]?.getD 0

/-- The state once that byte is used. -/
def next (state : CtrState) : CtrState :=
  let filled := state.refill E step
  { filled with used := filled.used + 1 }

/-- A text with the key stream added. -/
def encrypt (state : CtrState) (bytes : List UInt8) : List UInt8 :=
  bytes.mapIdx fun j byte ↦ byte ^^^ ((next E step)^[j] state).padByte E step

theorem encrypt_cons (state : CtrState) (byte : UInt8) (bytes : List UInt8) :
    state.encrypt E step (byte :: bytes) =
      (byte ^^^ state.padByte E step) :: (state.next E step).encrypt E step bytes := by
  simp [encrypt, List.mapIdx_cons, Function.iterate_succ_apply]

@[simp]
theorem length_encrypt (state : CtrState) (bytes : List UInt8) :
    (state.encrypt E step bytes).length = bytes.length := by
  simp [encrypt]

/-- Where a state stands after `n` bytes: the counter has stepped once for every pad begun. -/
structure At (first : Block) (n : ℕ) (state : CtrState) : Prop where
  counter : state.counter = step^[(n + 15) / 16] first
  used : state.used + 16 * ((n + 15) / 16) = n + 16
  pad : 0 < n → state.pad = E state.counter

variable {E step} {first : Block} {n : ℕ} {state : CtrState}

theorem At.zero (pad : Block) : At E step first 0 ⟨first, pad, 16⟩ where
  counter := rfl
  used := rfl
  pad := fun hpos ↦ absurd hpos (Nat.lt_irrefl 0)

/-- With a byte left in the pad, the pad is the encryption of counter number `n / 16 + 1`. -/
theorem At.refill (h : At E step first n state) :
    (state.refill E step).counter = step^[n / 16 + 1] first ∧
      (state.refill E step).pad = E (step^[n / 16 + 1] first) ∧
      (state.refill E step).used = n % 16 := by
  have hused := h.used
  by_cases hfull : state.used = 16
  · have hnumber : (n + 15) / 16 = n / 16 := by omega
    have hcounter : step state.counter = step^[n / 16 + 1] first := by
      rw [h.counter, hnumber, Function.iterate_succ_apply']
    have hzero : n % 16 = 0 := by omega
    simp [CtrState.refill, hfull, hcounter, hzero]
  · have hnumber : (n + 15) / 16 = n / 16 + 1 := by omega
    have hcounter : state.counter = step^[n / 16 + 1] first := by
      rw [h.counter, hnumber]
    have hpad : state.pad = E state.counter := h.pad (by omega)
    have hoffset : state.used = n % 16 := by omega
    have hsame : state.refill E step = state := if_neg hfull
    rw [hsame, ← hcounter]
    exact ⟨rfl, hpad, hoffset⟩

theorem At.next (h : At E step first n state) :
    At E step first (n + 1) (state.next E step) := by
  obtain ⟨hcounter, hpad, hused⟩ := h.refill
  have hnumber : (n + 1 + 15) / 16 = n / 16 + 1 := by omega
  constructor
  case counter =>
    rw [hnumber]
    exact hcounter
  case used =>
    show (state.refill E step).used + 1 + 16 * ((n + 1 + 15) / 16) = n + 1 + 16
    omega
  case pad =>
    intro _
    show (state.refill E step).pad = E (state.refill E step).counter
    rw [hpad, hcounter]

theorem at_iterate (pad : Block) (n : ℕ) :
    At E step first n ((CtrState.next E step)^[n] ⟨first, pad, 16⟩) := by
  induction n with
  | zero => exact At.zero pad
  | succ n ih =>
    rw [Function.iterate_succ_apply']
    exact ih.next

/-- Byte `j` of the key stream. -/
theorem padByte_iterate (pad : Block) (j : ℕ) :
    ((CtrState.next E step)^[j] ⟨first, pad, 16⟩).padByte E step =
      (E (step^[j / 16 + 1] first))[j % 16]?.getD 0 := by
  have hat : At E step first j ((CtrState.next E step)^[j] ⟨first, pad, 16⟩) := at_iterate pad j
  obtain ⟨_, hpad, hused⟩ := hat.refill
  simp only [padByte, hpad, hused]

end CtrState

end OtEfr32.Crypto
