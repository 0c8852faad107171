import Mathlib.Data.Nat.Notation

/-!
# The iostream UART

`iostream_uart.c` with its two flags.  A call of `otPlatUartSend` or `otPlatUartFlush` is divided at
the call of `otPlatUartSendDone`, inside which the stack may make such a call again, and between the
update of a flag and the signal of a pending event, where an interrupt may come.
-/

namespace OtEfr32.Uart

/-- Where a call of the UART API stands. -/
inductive UartCall where
  /-- `otPlatUartFlush` is in `otPlatUartSendDone`. -/
  | sendDone
  /-- `otPlatUartSend` is in `sl_iostream_write`. -/
  | write
  /-- `otPlatUartSend` is before its `otSysEventSignalPending`. -/
  | written
  deriving DecidableEq, Repr

/-- Where the main loop stands in `efr32UartProcess`. -/
inductive UartLocation where
  | processReceive
  /-- `processReceive` is in `sl_iostream_read`. -/
  | read
  /-- `processReceive` is in `otPlatUartReceived`. -/
  | received
  /-- `processReceive` is before its `otSysEventSignalPending`. -/
  | receiveEnd
  | processTransmit
  /-- `otPlatUartFlush` has returned to `processTransmit`. -/
  | transmitEnd
  deriving DecidableEq, Repr

/-- The state of the UART. -/
structure IostreamUart where
  sRxDataReady : Bool := false
  sTransmitDone : Bool := false
  /-- The calls of the UART API under way, the innermost first. -/
  calls : List UartCall := []
  deriving DecidableEq, Repr

namespace IostreamUart

variable (uart : IostreamUart)

/-- `efr32UartIsDataReady`. -/
def efr32UartIsDataReady : Bool := uart.sRxDataReady || uart.sTransmitDone

/-- `gpioSerialWakeupCallback`, up to its `otSysEventSignalPending`. -/
def gpioSerialWakeupCallback : IostreamUart := { uart with sRxDataReady := true }

/-- `otPlatUartFlush`, up to its call of `otPlatUartSendDone`. -/
def otPlatUartFlush : IostreamUart :=
  if uart.sTransmitDone then { uart with sTransmitDone := false, calls := .sendDone :: uart.calls }
  else uart

/-- `otPlatUartSend`, up to a call of `otPlatUartSendDone` or `sl_iostream_write`; `valid` is the
check of its arguments. -/
def otPlatUartSend (valid : Bool) : IostreamUart :=
  if valid then otPlatUartFlush { uart with calls := .write :: uart.calls } else uart

/-- The innermost call goes on; `written` is the success of `sl_iostream_write`. -/
def continueCall (written : Bool) : Option IostreamUart :=
  match uart.calls with
  | [] => none
  | .sendDone :: calls | .written :: calls => some { uart with calls }
  | .write :: calls =>
    some { uart with
      sTransmitDone := uart.sTransmitDone || written
      calls := .written :: calls }

/-- The innermost call ends with `otSysEventSignalPending`. -/
def callSignals : Bool := uart.calls.head?.any (· != .write)

/-- The next step of `efr32UartProcess`, with `none` when it returns.  `waitForUartRxReady` is
`WAIT_FOR_UART_RX_READY`, and `readOk` the success of `sl_iostream_read`. -/
def efr32UartProcess (waitForUartRxReady readOk : Bool) :
    UartLocation → IostreamUart × Option UartLocation
  | .processReceive =>
    let sRxDataReady := uart.sRxDataReady || !waitForUartRxReady
    ({ uart with sRxDataReady }, some (if sRxDataReady then .read else .processTransmit))
  | .read =>
    ({ uart with sRxDataReady := false }, some (if readOk then .received else .receiveEnd))
  | .received => (uart, some .receiveEnd)
  | .receiveEnd => (uart, some .processTransmit)
  | .processTransmit => (uart.otPlatUartFlush, some .transmitEnd)
  | .transmitEnd => (uart, none)

/-! ## The end of the calls -/

variable {uart} {next : IostreamUart}

theorem otPlatUartFlush_eq (hcalls : uart.otPlatUartFlush.calls = []) :
    uart.otPlatUartFlush = uart := by
  unfold otPlatUartFlush at hcalls ⊢
  split
  case isTrue hdone => simp [hdone] at hcalls
  case isFalse => rfl

theorem otPlatUartSend_eq {valid : Bool} (hcalls : (uart.otPlatUartSend valid).calls = []) :
    uart.otPlatUartSend valid = uart := by
  unfold otPlatUartSend at hcalls ⊢
  split
  case isTrue hvalid =>
    rw [if_pos hvalid] at hcalls
    have hsame := otPlatUartFlush_eq hcalls
    rw [hsame] at hcalls
    contradiction
  case isFalse => rfl

/-- The last call under way ends with a signal. -/
theorem callSignals_of_continueCall {written : Bool}
    (hnext : uart.continueCall written = some next) (hcalls : next.calls = []) :
    uart.callSignals = true := by
  unfold continueCall at hnext
  unfold callSignals
  split at hnext
  case h_1 => contradiction
  case h_2 hcall => simp [hcall]
  case h_3 hcall => simp [hcall]
  case h_4 =>
    obtain rfl := Option.some.inj hnext
    contradiction

end IostreamUart

end OtEfr32.Uart
