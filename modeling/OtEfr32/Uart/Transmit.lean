import Mathlib.Data.Option.Basic
import Mathlib.Tactic.SplitIfs
import OtEfr32.Data.InTurn
import OtEfr32.Transition.Runs

/-!
# The send path of the UARTDRV UART

`uartdrv_uart.c` gives a buffer to UARTDRV and calls `otPlatUartSendDone` from the main loop when
UARTDRV has finished with it.  `transmitDone` is an interrupt: it may come between any two accesses
of `processTransmit` and `otPlatUartFlush` to `sTxComplete`.  Whoever sends waits for the call, or
for the return of `otPlatUartFlush`.
-/

namespace OtEfr32.Uart

/-- Where `processTransmit` stands. -/
inductive TransmitLocation where
  | outside
  /-- It has found `sTxComplete` set. -/
  | checked
  /-- It has cleared `sTxComplete`. -/
  | cleared
  /-- It is in `otPlatUartSendDone`. -/
  | sendDone
  deriving DecidableEq, Repr

/-- The variables of the send path, with the numbers of the buffers in the order of their sends. -/
structure Transmitter where
  sTxComplete : Bool := false
  /-- UARTDRV's transmit queue; the DMA sends from the first buffer. -/
  txQueue : List ℕ := []
  location : TransmitLocation := .outside
  /-- `flushTimedOut`, while `otPlatUartFlush` waits. -/
  flushTimedOut : Option Bool := none
  /-- History: how many sends UARTDRV accepted. -/
  accepted : ℕ := 0
  /-- History: the finished buffer that `sTxComplete` announces. -/
  complete : Option ℕ := none
  /-- History: the buffer for which `otPlatUartSendDone` is about to be called. -/
  due : Option ℕ := none
  /-- History: the buffers that were answered by a call of `otPlatUartSendDone` or by the return of
  `otPlatUartFlush`, in order. -/
  answered : List ℕ := []
  deriving DecidableEq, Repr

/-- What can happen on the send path. -/
inductive TransmitEvent where
  /-- `otPlatUartSend`; `ok` is the status of `UARTDRV_Transmit`. -/
  | send (ok : Bool)
  /-- The interrupt of a finished buffer, with `transmitDone`. -/
  | transmitDone
  /-- The next part of `processTransmit`. -/
  | processTransmit
  /-- `otPlatUartFlush`; `started` is the status of `sl_sleeptimer_start_timer_ms`. -/
  | flush (started : Bool)
  /-- `flushTimeoutAlarmCallback` -/
  | flushTimeout
  /-- A round of the loop of `otPlatUartFlush`, with `UARTDRV_GetPeripheralStatus`. -/
  | flushRound (uartIdle : Bool)
  deriving DecidableEq, Repr

namespace Transmitter

variable (uart : Transmitter)

/-- The stack runs: outside `processTransmit`, or in `otPlatUartSendDone`. -/
def stackRuns : Bool :=
  (uart.location == .outside || uart.location == .sendDone) && uart.flushTimedOut.isNone

/-- `otPlatUartSend` -/
def otPlatUartSend (ok : Bool) : Transmitter :=
  if ok then
    { uart with txQueue := uart.txQueue ++ [uart.accepted], accepted := uart.accepted + 1 }
  else
    uart

/-- `transmitDone`, for the first buffer of the queue. -/
def transmitDone : Option Transmitter :=
  match uart.txQueue with
  | [] => none
  | buffer :: txQueue => some { uart with txQueue, sTxComplete := true, complete := some buffer }

/-- The next part of `processTransmit`. -/
def processTransmit : Transmitter :=
  match uart.location with
  | .outside => if uart.sTxComplete then { uart with location := .checked } else uart
  | .checked =>
    { uart with sTxComplete := false, complete := none, due := uart.complete, location := .cleared }
  | .cleared =>
    { uart with answered := uart.answered ++ uart.due.toList, due := none, location := .sendDone }
  | .sendDone => { uart with location := .outside }

/-- The end of `otPlatUartFlush`: after a timeout, `UARTDRV_Abort` drops the rest of the queue. -/
def endFlush : Transmitter :=
  { uart with
    answered := uart.answered ++ uart.complete.toList ++ uart.txQueue
    txQueue := []
    sTxComplete := false
    complete := none
    flushTimedOut := none }

/-- A round of the loop of `otPlatUartFlush`. -/
def flushRound (uartIdle flushTimedOut : Bool) : Transmitter :=
  let uartFullyFlushed := uartIdle && uart.txQueue.isEmpty
  if !uartFullyFlushed && !flushTimedOut then uart else uart.endFlush

/-- One step of the send path. -/
def transmitStep : TransmitEvent → Option Transmitter
  | .send ok => if uart.stackRuns then some (uart.otPlatUartSend ok) else none
  | .transmitDone => uart.transmitDone
  | .processTransmit => if uart.flushTimedOut.isNone then some uart.processTransmit else none
  | .flush started =>
    if uart.stackRuns then
      some (if started then { uart with flushTimedOut := some false } else uart)
    else
      none
  | .flushTimeout => uart.flushTimedOut.map fun _ ↦ { uart with flushTimedOut := some true }
  | .flushRound uartIdle => uart.flushTimedOut.map (uart.flushRound uartIdle)

/-- Every buffer that UARTDRV accepted is on its way, or announced by `sTxComplete`, or answered,
in the order of the sends. -/
def SendLaw : Prop :=
  Data.InTurn uart.answered (uart.due.toList ++ uart.complete.toList) uart.txQueue uart.accepted

/-- No buffer is finished while an earlier one is still announced. -/
def AnnouncedAlone : TransmitEvent → Prop
  | .transmitDone => uart.sTxComplete = false
  | _ => True

instance : DecidablePred SendLaw := fun uart ↦
  inferInstanceAs (Decidable (_ ++ _ ++ _ = List.range uart.accepted))

instance : DecidableRel AnnouncedAlone := fun uart event ↦
  match event with
  | .transmitDone => inferInstanceAs (Decidable (uart.sTxComplete = false))
  | .send _ | .processTransmit | .flush _ | .flushTimeout | .flushRound _ => .isTrue trivial

end Transmitter

end OtEfr32.Uart
