import OtEfr32.Data.Ring
import OtEfr32.Transition.Runs

/-!
# UART reception

Model of the receive path of `uartdrv_uart.c`.  Received bytes are stored by the DMA in one of two
buffers of 128 bytes.  `processReceive` copies what has arrived so far in the active buffer to
`sReceiveFifo`, `receiveDone` copies the rest once the buffer is full, and `lastCount` is the number
of bytes of the active buffer that are already copied.  `processReceive` then hands the fifo to
`otPlatUartReceived` in one or two pieces and advances `mHead`.

The main loop executes `processReceive` step by step; bytes arrive between any two steps, and
interrupts are served between any two steps outside the critical section.  The callback
`receiveDone` is taken before any further step of the main loop once its buffer is full.
-/

namespace OtEfr32.Uart

open Data

/-- `kReceiveFifoSize`. -/
def kReceiveFifoSize : ℕ := 128

/-- `RECEIVE_BUFFER_SIZE`. -/
def receiveBufferSize : ℕ := 128

/-- `ReceiveFifo_t`.  `mBuffer` is the memory from the array on, so that its cells from
`kReceiveFifoSize` on do not belong to it. -/
structure ReceiveFifo where
  mBuffer : ℕ → UInt8 := fun _ ↦ 0
  mHead : ℕ := 0
  mTail : ℕ := 0

/-- Where the main loop stands in `processReceive`. -/
inductive Location where
  /-- Outside `processReceive`. -/
  | idle
  /-- The critical section is entered. -/
  | entered
  /-- `UARTDRV_GetReceiveStatus` has returned `aCount`. -/
  | counted (aCount : ℕ)
  /-- The new bytes of the active buffer are copied. -/
  | copied
  /-- The critical section is left. -/
  | unlocked
  /-- `tail` is read. -/
  | tailRead (tail : ℕ)
  /-- The piece up to the end of the fifo is handed up. -/
  | firstReceived (tail : ℕ)
  /-- The first piece, if any, is released. -/
  | secondPart (tail : ℕ)
  /-- The piece up to `tail` is handed up. -/
  | secondReceived (tail : ℕ)
  deriving DecidableEq, Repr

/-- The receive path.  `active` is what has arrived in the buffer of the first receive request and
`following` what has arrived in the other one.

The last fields are the history: all bytes received and all bytes given to `otPlatUartReceived`,
the number of bytes released by advancing `mHead`, the number of buffers that `receiveDone` has
served, the number of bytes copied when `tail` was last read, and offset and length of every
`memcpy` to `mBuffer`. -/
structure Receiver where
  active : List UInt8 := []
  following : List UInt8 := []
  lastCount : ℕ := 0
  sRxDataReady : Bool := false
  sReceiveFifo : ReceiveFifo := {}
  location : Location := .idle
  received : List UInt8 := []
  delivered : List UInt8 := []
  released : ℕ := 0
  completed : ℕ := 0
  target : ℕ := 0
  memcpys : List (ℕ × ℕ) := []

/-- The state after `otPlatUartEnable`: two receive requests are queued. -/
def otPlatUartEnable : Receiver := {}

namespace Receiver

/-- `CORE_ENTER_ATOMIC` to `CORE_EXIT_ATOMIC`. -/
def interruptsEnabled (uart : Receiver) : Bool :=
  match uart.location with
  | .entered | .counted _ | .copied => false
  | _ => true

/-- The active buffer is full and `receiveDone` is due. -/
def receiveDonePending (uart : Receiver) : Bool := uart.active.length == receiveBufferSize

/-- The bytes of the active buffer that the fifo has. -/
def copiedCount (uart : Receiver) : ℕ := receiveBufferSize * uart.completed + uart.lastCount

/-- The `memcpy` from the active buffer, and the update of `mTail`. -/
def copyToFifo (uart : Receiver) (aCount : ℕ) : Receiver :=
  let fifo := uart.sReceiveFifo
  let source := (uart.active.drop uart.lastCount).take (aCount - uart.lastCount)
  { uart with
    sReceiveFifo := { fifo with
      mBuffer := writeCells fifo.mBuffer fifo.mTail source
      mTail := (fifo.mTail + (aCount - uart.lastCount)) % kReceiveFifoSize }
    memcpys := uart.memcpys ++ [(fifo.mTail, aCount - uart.lastCount)] }

/-- `receiveDone` for the active buffer, whose request is queued again behind the other one. -/
def receiveDone (uart : Receiver) : Receiver :=
  let aCount := receiveBufferSize
  let fifo := uart.sReceiveFifo
  let copied :=
    if fifo.mHead ≠ (fifo.mTail + (aCount - uart.lastCount)) % kReceiveFifoSize then
      { uart.copyToFifo aCount with lastCount := 0 }
    else uart
  { copied with active := uart.following, following := [], completed := uart.completed + 1 }

/-- `otPlatUartReceived(mBuffer + mHead, count)`. -/
def otPlatUartReceived (uart : Receiver) (count : ℕ) : Receiver :=
  { uart with
    delivered := uart.delivered ++
      readCells uart.sReceiveFifo.mBuffer uart.sReceiveFifo.mHead count }

/-- `mHead = head`, which releases `count` bytes. -/
def advanceHead (uart : Receiver) (head count : ℕ) : Receiver :=
  { uart with
    sReceiveFifo := { uart.sReceiveFifo with mHead := head }
    released := uart.released + count }

/-- The next step of `processReceive`, or its call. -/
def processReceive (uart : Receiver) : Receiver :=
  match uart.location with
  | .idle => if uart.sRxDataReady then { uart with location := .entered } else uart
  | .entered =>
    { uart with sRxDataReady := false, location := .counted uart.active.length }
  | .counted aCount =>
    if uart.lastCount < aCount then
      { uart.copyToFifo aCount with lastCount := aCount, location := .copied }
    else { uart with location := .copied }
  | .copied => { uart with location := .unlocked }
  | .unlocked =>
    { uart with
      location := .tailRead uart.sReceiveFifo.mTail
      target := uart.copiedCount }
  | .tailRead tail =>
    if tail < uart.sReceiveFifo.mHead then
      { uart.otPlatUartReceived (kReceiveFifoSize - uart.sReceiveFifo.mHead) with
        location := .firstReceived tail }
    else { uart with location := .secondPart tail }
  | .firstReceived tail =>
    { uart.advanceHead 0 (kReceiveFifoSize - uart.sReceiveFifo.mHead) with
      location := .secondPart tail }
  | .secondPart tail =>
    if uart.sReceiveFifo.mHead ≠ tail then
      { uart.otPlatUartReceived (tail - uart.sReceiveFifo.mHead) with
        location := .secondReceived tail }
    else { uart with location := .idle }
  | .secondReceived tail =>
    { uart.advanceHead tail (tail - uart.sReceiveFifo.mHead) with location := .idle }

/-- A byte is stored in the active buffer, or in the other one if that is full. -/
def arrive (uart : Receiver) (byte : UInt8) : Option Receiver :=
  let received := uart.received ++ [byte]
  if uart.active.length < receiveBufferSize then
    some { uart with active := uart.active ++ [byte], received }
  else if uart.following.length < receiveBufferSize then
    some { uart with following := uart.following ++ [byte], received }
  else none

end Receiver

/-- What can happen next: the arrival of a byte, one of the two interrupts, a step of the main
loop in `processReceive`. -/
inductive UartEvent where
  | arrive (byte : UInt8)
  | receiveDone
  | rxInterrupt
  | processReceive
  deriving DecidableEq, Repr

/-- One step of the receive path. -/
def uartStep (uart : Receiver) : UartEvent → Option Receiver
  | .arrive byte => uart.arrive byte
  | .receiveDone =>
    if uart.interruptsEnabled && uart.receiveDonePending then some uart.receiveDone else none
  | .rxInterrupt =>
    if uart.interruptsEnabled then some { uart with sRxDataReady := true } else none
  | .processReceive =>
    if uart.interruptsEnabled && uart.receiveDonePending then none else some uart.processReceive

end OtEfr32.Uart
