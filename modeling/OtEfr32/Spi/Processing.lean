import Mathlib.Logic.Function.Iterate
import Mathlib.Tactic.SplitIfs
import OtEfr32.Spi.Driver

/-!
# Transactions that ask to be processed

At the end of a transaction `complete_callback` may ask for `process_callback` to be called in the
main loop.  `efr32SpiProcess` clears `should_process_transaction` behind that call, so a transaction
that asks while the call is under way is forgotten, until a later one asks, and so is one that waits
when the driver is disabled.  `servedLaw_iff` is the exact condition.
-/

namespace OtEfr32.Spi

open Transition

/-- Where the main loop stands in `efr32SpiProcess`. -/
inductive ProcessLocation where
  | outside
  /-- It has found `should_process_transaction` set. -/
  | checked
  /-- It is in `process_callback`. -/
  | callback
  /-- It is about to clear `should_process_transaction`. -/
  | returned
  deriving DecidableEq, Repr

/-- The driver with its main loop. -/
structure SpiProcessor where
  slave : SpiSlave
  /-- `complete_callback` and `process_callback` are set. -/
  callbacks : Bool := false
  /-- `context` is not `NULL`. -/
  context : Bool := false
  location : ProcessLocation := .outside
  /-- History: the transactions that asked since `process_callback` was last called.  Disabling the
  driver serves none of them. -/
  unserved : ℕ := 0

/-- What happens to a driver and its main loop; `process` is the next part of `efr32SpiProcess`. -/
inductive ProcessEvent where
  /-- `otPlatSpiSlaveEnable` with a context that may be `NULL`; `spidrvInit` tells whether
  `SPIDRV_Init` succeeds.  The chip select pin is high. -/
  | enable (defaultTxValue : UInt32) (aContext spidrvInit : Bool)
  | driver (event : SpiEvent)

namespace SpiProcessor

variable (state : SpiProcessor) (peripheral : Peripheral)

/-- The next part of `efr32SpiProcess`. -/
def process : SpiProcessor :=
  match state.location with
  | .outside =>
    if state.slave.shouldProcessTransaction then { state with location := .checked } else state
  | .checked =>
    if state.context then { state with location := .callback, unserved := 0 }
    else { state with location := .returned }
  | .callback => { state with location := .returned }
  | .returned => { state with slave := state.slave.efr32SpiProcess, location := .outside }

/-- The interrupt is the end of a transaction that asks to be processed. -/
def asks (intNo : IntNo) (completeCallback : CompleteArgs → Bool) : Bool :=
  intNo == .csRisingEdge && completeCallback (state.slave.transactionEnd peripheral).completeArgs

/-- One step.  The interrupts of the chip select pin come only while the driver is enabled, and the
stack enables and disables it outside `efr32SpiProcess` or in `process_callback`. -/
def processStep : ProcessEvent → Option SpiProcessor
  | .enable defaultTxValue aContext spidrvInit =>
    if state.location = .outside ∨ state.location = .callback then
      some (if state.callbacks || !spidrvInit then state
        else { state with
          slave := otPlatSpiSlaveEnable defaultTxValue, callbacks := true, context := aContext })
    else
      none
  | .driver .process => some state.process
  | .driver .disable =>
    if state.location = .outside ∨ state.location = .callback then
      some { state with
        slave := state.slave.otPlatSpiSlaveDisable
        callbacks := false
        context := false }
    else
      none
  | .driver (.interrupt intNo completeCallback) =>
    if state.callbacks then
      some { state with
        slave := state.slave.rcpSpidrvSpiTransactionEndInterrupt peripheral intNo completeCallback
        unserved := state.unserved + (state.asks peripheral intNo completeCallback).toNat }
    else
      none
  | .driver event => (spiStep peripheral state.slave event).map fun slave ↦ { state with slave }

/-- Every transaction that asked will have been served when the main loop has run for long enough,
whether another one asks or not. -/
def WillBeServed : Prop :=
  ∃ parts, (exec (processStep · peripheral) state (List.replicate parts (.driver .process))).map
    unserved = some 0

/-- A transaction asks only when there is a context to call `process_callback` with, and not while
that call is under way; and outside `efr32SpiProcess` the driver is disabled only while
`should_process_transaction` is clear. -/
def KeepsTransactions : ProcessEvent → Prop
  | .driver (.interrupt intNo completeCallback) =>
    state.asks peripheral intNo completeCallback = true →
      state.context = true ∧ (state.location = .outside ∨ state.location = .checked)
  | .driver .disable =>
    state.location = .outside → state.slave.shouldProcessTransaction = false
  | _ => True

instance : DecidablePred (state.KeepsTransactions peripheral) := fun event ↦
  match event with
  | .driver (.interrupt _ _) | .driver .disable => inferInstanceAs (Decidable (_ → _))
  | .driver (.prepare _ _) | .driver .process | .driver (.transfer _) | .enable _ _ _ =>
    .isTrue trivial

variable {state peripheral} {next : SpiProcessor} {event : ProcessEvent}

/-! ## The main loop alone -/

theorem exec_process (state : SpiProcessor) (parts : ℕ) :
    exec (processStep · peripheral) state (List.replicate parts (.driver .process)) =
      some (process^[parts] state) := by
  induction parts generalizing state with
  | zero => rfl
  | succ parts ih => exact ih state.process

theorem willBeServed_iff :
    state.WillBeServed peripheral ↔ ∃ parts, (process^[parts] state).unserved = 0 := by
  simp only [WillBeServed, exec_process, Option.map_some, Option.some.injEq]

/-- Transactions that asked without a context, or behind the point where `efr32SpiProcess` looks, or
whose driver is disabled. -/
structure Forgotten (state : SpiProcessor) : Prop where
  unserved : state.unserved ≠ 0
  missed : state.context = true → state.location ≠ .checked ∧
    (state.location = .outside → state.slave.shouldProcessTransaction = false)

theorem Forgotten.process (h : state.Forgotten) : state.process.Forgotten := by
  unfold SpiProcessor.process
  split
  case h_1 hlocation =>
    split
    case isFalse => exact h
    case isTrue hflag =>
      refine ⟨h.unserved, fun hcontext ↦ ?_⟩
      have hclear := (h.missed hcontext).2 hlocation
      rw [hflag] at hclear
      contradiction
  case h_2 hlocation =>
    split
    case isTrue hcontext => exact absurd hlocation (h.missed hcontext).1
    case isFalse hcontext => exact ⟨h.unserved, fun hset ↦ absurd hset hcontext⟩
  case h_3 => exact ⟨h.unserved, fun _ ↦ by simp⟩
  case h_4 => exact ⟨h.unserved, fun _ ↦ by simp [SpiSlave.efr32SpiProcess]⟩

theorem Forgotten.not_willBeServed (h : state.Forgotten) : ¬ state.WillBeServed peripheral := by
  rw [willBeServed_iff]
  rintro ⟨parts, hserved⟩
  have hforgotten : (SpiProcessor.process^[parts] state).Forgotten := by
    clear hserved
    induction parts generalizing state with
    | zero => exact h
    | succ parts ih => exact ih h.process
  exact hforgotten.unserved hserved

/-- The invariant: a transaction that is not served yet has set the flag, and `efr32SpiProcess` has
yet to look at it or is about to call `process_callback`; outside `efr32SpiProcess` the flag is set
for such a transaction only. -/
structure Remembered (state : SpiProcessor) : Prop where
  callbacks : state.context = true → state.callbacks = true
  pending : state.unserved ≠ 0 → state.slave.shouldProcessTransaction = true ∧
    state.context = true ∧ (state.location = .outside ∨ state.location = .checked)
  waiting : state.location = .outside → state.slave.shouldProcessTransaction = true →
    state.unserved ≠ 0

theorem Remembered.willBeServed (h : state.Remembered) : state.WillBeServed peripheral := by
  rw [willBeServed_iff]
  by_cases hserved : state.unserved = 0
  · exact ⟨0, hserved⟩
  · obtain ⟨hflag, hcontext, hlocation⟩ := h.pending hserved
    rcases hlocation with hlocation | hlocation
    · refine ⟨2, ?_⟩
      simp [process, hlocation, hflag, hcontext]
    · refine ⟨1, ?_⟩
      simp [process, hlocation, hcontext]

/-! ## Steps -/

/-- Neither a prepared transaction nor the hardware touches the flag. -/
theorem shouldProcessTransaction_prepare (slave : SpiSlave) (args : PrepareArgs)
    (csPin : CsPin) :
    (slave.otPlatSpiSlavePrepareTransaction peripheral args csPin).2.shouldProcessTransaction =
      slave.shouldProcessTransaction := by
  rw [SpiSlave.otPlatSpiSlavePrepareTransaction_eq]
  split_ifs <;> rfl

theorem shouldProcessTransaction_of_transferStep {slave after : SpiSlave} {transfer : Transfer}
    (h : transferStep slave transfer = some after) :
    after.shouldProcessTransaction = slave.shouldProcessTransaction := by
  cases transfer with
  | shiftIn =>
    obtain rfl := Option.some.inj h
    rfl
  | push | shiftOut | pull =>
    rw [transferStep, Option.ite_none_right_eq_some] at h
    rw [← Option.some.inj h.2]

/-- What an interrupt does to the flag: only a transaction that asks sets it. -/
theorem shouldProcessTransaction_interrupt (state : SpiProcessor) (intNo : IntNo)
    (completeCallback : CompleteArgs → Bool) :
    (state.slave.rcpSpidrvSpiTransactionEndInterrupt peripheral intNo
      completeCallback).shouldProcessTransaction =
        (state.slave.shouldProcessTransaction || state.asks peripheral intNo completeCallback) := by
  cases intNo with
  | csFallingEdge => simp [SpiSlave.rcpSpidrvSpiTransactionEndInterrupt, asks]
  | csRisingEdge =>
    simp only [SpiSlave.rcpSpidrvSpiTransactionEndInterrupt, asks, beq_self_eq_true, Bool.true_and]
    split
    case isTrue h => simp [h]
    case isFalse h => rw [Bool.eq_false_iff.mpr h, Bool.or_false]; rfl

theorem Remembered.process (h : state.Remembered) : state.process.Remembered := by
  unfold SpiProcessor.process
  split
  case h_1 hlocation =>
    split
    case isTrue =>
      refine ⟨h.callbacks, fun hunserved ↦ ?_, by simp⟩
      obtain ⟨hflag, hcontext, -⟩ := h.pending hunserved
      exact ⟨hflag, hcontext, .inr rfl⟩
    case isFalse => exact h
  case h_2 hlocation =>
    split
    case isTrue => exact ⟨h.callbacks, fun hunserved ↦ absurd rfl hunserved, by simp⟩
    case isFalse hcontext =>
      exact ⟨h.callbacks, fun hunserved ↦ absurd (h.pending hunserved).2.1 hcontext, by simp⟩
  case h_3 hlocation =>
    refine ⟨h.callbacks, fun hunserved ↦ ?_, by simp⟩
    simpa [hlocation] using (h.pending hunserved).2.2
  case h_4 hlocation =>
    refine ⟨h.callbacks, fun hunserved ↦ ?_, by simp [SpiSlave.efr32SpiProcess]⟩
    simpa [hlocation] using (h.pending hunserved).2.2

theorem Remembered.interrupt (h : state.Remembered) {intNo : IntNo}
    {completeCallback : CompleteArgs → Bool}
    (hkeeps : state.KeepsTransactions peripheral (.driver (.interrupt intNo completeCallback))) :
    Remembered { state with
      slave := state.slave.rcpSpidrvSpiTransactionEndInterrupt peripheral intNo completeCallback
      unserved := state.unserved + (state.asks peripheral intNo completeCallback).toNat } := by
  refine ⟨h.callbacks, fun hunserved ↦ ?_, fun hlocation hflag ↦ ?_⟩
  · simp only [shouldProcessTransaction_interrupt]
    cases hasked : state.asks peripheral intNo completeCallback with
    | true => exact ⟨Bool.or_true _, hkeeps hasked⟩
    | false =>
      rw [hasked] at hunserved
      rw [Bool.or_false]
      exact h.pending hunserved
  · simp only [shouldProcessTransaction_interrupt, Bool.or_eq_true] at hflag
    rcases hflag with hflag | hasked
    · have hunserved := h.waiting hlocation hflag
      simp only
      omega
    · simp [hasked]

/-- A step that leaves the flag and the main loop as they are. -/
theorem Remembered.slave (h : state.Remembered) {slave : SpiSlave}
    (hslave : slave.shouldProcessTransaction = state.slave.shouldProcessTransaction) :
    Remembered { state with slave } := by
  refine ⟨h.callbacks, fun hunserved ↦ ?_, fun hlocation hflag ↦ h.waiting hlocation ?_⟩
  · rw [hslave]
    exact h.pending hunserved
  · rw [← hslave]
    exact hflag

/-- A driver that is disabled while no transaction waits. -/
theorem Remembered.disable (h : state.Remembered)
    (hkeeps : state.KeepsTransactions peripheral (.driver .disable))
    (hlocation : state.location = .outside ∨ state.location = .callback) :
    Remembered { state with
      slave := state.slave.otPlatSpiSlaveDisable, callbacks := false, context := false } := by
  have hserved : state.unserved = 0 := by
    by_contra hunserved
    obtain ⟨hflag, -, -⟩ := h.pending hunserved
    rcases hlocation with hlocation | hlocation
    · rw [hkeeps hlocation] at hflag
      contradiction
    · simpa [hlocation] using (h.pending hunserved).2.2
  exact ⟨Bool.noConfusion, fun hunserved ↦ absurd hserved hunserved,
    fun _ hflag ↦ absurd hflag Bool.false_ne_true⟩

theorem Remembered.step (h : state.Remembered) (hkeeps : state.KeepsTransactions peripheral event)
    (hstep : state.processStep peripheral event = some next) : next.Remembered := by
  match event with
  | .enable defaultTxValue aContext spidrvInit =>
    rw [processStep, Option.ite_none_right_eq_some] at hstep
    rw [← Option.some.inj hstep.2]
    split
    case isTrue => exact h
    case isFalse hfree =>
      refine ⟨fun _ ↦ rfl, fun hunserved ↦ absurd ?_ hfree,
        fun _ hflag ↦ absurd hflag Bool.false_ne_true⟩
      rw [h.callbacks (h.pending hunserved).2.1, Bool.true_or]
  | .driver .process =>
    obtain rfl := Option.some.inj hstep
    exact h.process
  | .driver .disable =>
    rw [processStep, Option.ite_none_right_eq_some] at hstep
    rw [← Option.some.inj hstep.2]
    exact h.disable hkeeps hstep.1
  | .driver (.interrupt intNo completeCallback) =>
    rw [processStep, Option.ite_none_right_eq_some] at hstep
    rw [← Option.some.inj hstep.2]
    exact h.interrupt hkeeps
  | .driver (.prepare args csPin) =>
    obtain rfl := Option.some.inj hstep
    exact h.slave (shouldProcessTransaction_prepare state.slave args csPin)
  | .driver (.transfer transfer) =>
    rw [processStep, Option.map_eq_some_iff] at hstep
    · obtain ⟨slave, hslave, rfl⟩ := hstep
      exact h.slave (shouldProcessTransaction_of_transferStep hslave)
    all_goals simp

/-- A transaction that asks without a context or while `process_callback` is under way, or that
waits when the driver is disabled. -/
theorem Remembered.forgotten_of_not_keeps (h : state.Remembered)
    (hkeeps : ¬ state.KeepsTransactions peripheral event)
    (hstep : state.processStep peripheral event = some next) : next.Forgotten := by
  match event with
  | .driver (.interrupt intNo completeCallback) =>
    rw [processStep, Option.ite_none_right_eq_some] at hstep
    rw [← Option.some.inj hstep.2]
    obtain ⟨hasked, hlate⟩ := Classical.not_imp.mp hkeeps
    rw [hasked]
    refine ⟨Nat.succ_ne_zero _, fun hcontext ↦ ?_⟩
    obtain ⟨houtside, hchecked⟩ := not_or.mp fun hlocation ↦ hlate ⟨hcontext, hlocation⟩
    exact ⟨hchecked, fun hlocation ↦ absurd hlocation houtside⟩
  | .driver .disable =>
    rw [processStep, Option.ite_none_right_eq_some] at hstep
    rw [← Option.some.inj hstep.2]
    obtain ⟨hlocation, hflag⟩ := Classical.not_imp.mp hkeeps
    -- The context is gone, so that the main loop serves none of them.
    exact ⟨h.waiting hlocation (Bool.of_not_eq_false hflag), fun hcontext ↦
      absurd hcontext Bool.false_ne_true⟩
  | .enable _ _ _ => exact absurd trivial hkeeps
  | .driver .process => exact absurd trivial hkeeps
  | .driver (.prepare _ _) => exact absurd trivial hkeeps
  | .driver (.transfer _) => exact absurd trivial hkeeps

end SpiProcessor

/-- In every run every transaction that asked to be processed will have been served when the main
loop has run for long enough, if and only if the transactions ask only with a context and never
while `process_callback` is under way, and none of them waits when the driver is disabled. -/
theorem servedLaw_iff (peripheral : Peripheral) (initial : SpiSlave)
    (hinitial : initial.shouldProcessTransaction = false)
    (events : List ProcessEvent) (final : SpiProcessor)
    (hrun : exec (SpiProcessor.processStep · peripheral) { slave := initial } events =
      some final) :
    Throughout (SpiProcessor.processStep · peripheral) (SpiProcessor.WillBeServed · peripheral)
        { slave := initial } events ↔
      Along (SpiProcessor.processStep · peripheral) (SpiProcessor.KeepsTransactions · peripheral)
        { slave := initial } events :=
  have hinit : SpiProcessor.Remembered { slave := initial } :=
    ⟨Bool.noConfusion, fun h ↦ absurd rfl h, fun _ hflag ↦ by simp [hinitial] at hflag⟩
  throughout_iff_along (fun _ h ↦ h.willBeServed) (fun _ _ _ h hkeeps ↦ h.step hkeeps)
    (fun _ _ _ h hkeeps hstep ↦
      (SpiProcessor.Remembered.forgotten_of_not_keeps h hkeeps hstep).not_willBeServed) hinit hrun

/-- One transaction asks while the driver is enabled, and another one before the main loop has come
to `process_callback`, in which the driver is disabled. -/
def servedTransactions : List ProcessEvent :=
  [.enable 9 true true, .driver (.prepare ⟨1, 4, 2, 4, true⟩ ⟨true, true, true⟩),
    .driver (.interrupt .csRisingEdge fun _ ↦ true), .driver .process,
    .driver (.interrupt .csFallingEdge fun _ ↦ true),
    .driver (.interrupt .csRisingEdge fun args ↦ args.txTransactionSize == 4), .driver .process,
    .driver .disable, .driver .process, .driver .process]

theorem servedLaw_iff_servedTransactions :
    Throughout (SpiProcessor.processStep · .eusart) (SpiProcessor.WillBeServed · .eusart)
      { slave := otPlatSpiSlaveEnable 0 } servedTransactions :=
  (servedLaw_iff .eusart (otPlatSpiSlaveEnable 0) rfl servedTransactions _
    (Option.some_get (by decide)).symm).mpr (by decide)

/-- A transaction that asks from within `process_callback`, and one that asks before the driver is
disabled. -/
example :
    ((exec (SpiProcessor.processStep · .usart) { slave := otPlatSpiSlaveEnable 0 }
      [.enable 9 true true, .driver (.interrupt .csRisingEdge fun _ ↦ true), .driver .process,
        .driver .process, .driver (.interrupt .csRisingEdge fun _ ↦ true), .driver .process,
        .driver .process]).map fun state ↦
          (state.location, state.unserved, state.slave.shouldProcessTransaction)) =
      some (.outside, 1, false) ∧
    ((exec (SpiProcessor.processStep · .usart) { slave := otPlatSpiSlaveEnable 0 }
      [.enable 9 true true, .driver (.interrupt .csRisingEdge fun _ ↦ true),
        .driver .disable]).map fun state ↦
          (state.location, state.unserved, state.slave.shouldProcessTransaction)) =
      some (.outside, 1, false) := by
  decide

end OtEfr32.Spi
