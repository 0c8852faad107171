import OtEfr32.Platform.Error
import OtEfr32.Transition.Runs

/-!
# SPI slave

Model of `spidrv_usart.c` and `spidrv_eusart.c`, which differ in how they clear the fifos of their
peripheral.  A DMA channel carries the output from memory to the transmit fifo and another one the
input from the receive fifo to memory.  The output runs from `tx_descriptor[0]`, which is linked to
`tx_descriptor[1]`: as many times the default value as a descriptor can count.

The hardware moves single bytes: the DMA pushes one to the transmit fifo, the host shifts it out and
another one in, and the DMA pulls that from the receive fifo.
-/

namespace OtEfr32.Spi

/-- The peripheral, and with it the driver. -/
inductive Peripheral where
  | usart
  | eusart
  deriving DecidableEq, Repr

/-- `MAX_DMA_DESCRIPTOR_TRANSFER_COUNT`. -/
def maxDmaDescriptorTransferCount : UInt16 := 2048

/-- A buffer in memory, whose address is 0 for `NULL`. -/
structure Buffer where
  address : UInt32
  size : UInt16
  deriving DecidableEq, Repr

/-- The fields of a DMA descriptor that the drivers use: the address in memory, and `xferCnt`, which
is the number of bytes minus one. -/
structure Descriptor where
  address : UInt32
  xferCnt : BitVec 11
  deriving DecidableEq, Repr

/-- The buffer of a descriptor, with the size that is reported for it. -/
def Descriptor.buffer (descriptor : Descriptor) : Buffer where
  address := descriptor.address
  size := UInt16.ofNat (descriptor.xferCnt.toNat + 1)

/-- The descriptor of `aBufLen` bytes from `aBuf` on. -/
def Descriptor.ofBuffer (aBuf : UInt32) (aBufLen : UInt16) : Descriptor where
  address := aBuf
  xferCnt := BitVec.ofNat 11 aBufLen.toNat - 1

/-- The registers of a DMA channel: `XFERCNT`, the bit `LINK`, and whether the channel is enabled.

The last field is the history: the buffer with which the channel has been started. -/
structure DmaChannel where
  enabled : Bool := false
  xferCnt : BitVec 11 := 0
  link : Bool := false
  started : Option Buffer := none
  deriving DecidableEq, Repr

namespace DmaChannel

/-- `LDMA_StartTransfer`. -/
def startTransfer (descriptor : Descriptor) (link : Bool) : DmaChannel where
  enabled := true
  xferCnt := descriptor.xferCnt
  link := link
  started := some descriptor.buffer

/-- `LDMA_StopTransfer`. -/
def stopTransfer (channel : DmaChannel) : DmaChannel :=
  { channel with enabled := false }

/-- A byte is moved.  The channel goes on with the linked descriptor, or is done. -/
def moveByte (channel : DmaChannel) (linked : Descriptor) : DmaChannel :=
  if channel.xferCnt ≠ 0 then { channel with xferCnt := channel.xferCnt - 1 }
  else if channel.link then { channel with xferCnt := linked.xferCnt, link := false }
  else { channel with enabled := false }

end DmaChannel

/-- The levels of the fifos of the peripheral. -/
structure Fifos where
  tx : ℕ := 0
  rx : ℕ := 0
  deriving DecidableEq, Repr

namespace Fifos

/-- The fifos after `clearEusartFifos`. -/
def clearEusartFifos : Fifos := {}

variable (fifos : Fifos)

/-- `USART_CMD_CLEARRX`, or `clearEusartFifos`, unless the receive fifo is empty. -/
def clearRx (peripheral : Peripheral) : Fifos :=
  if fifos.rx = 0 then fifos
  else
    match peripheral with
    | .usart => { fifos with rx := 0 }
    | .eusart => clearEusartFifos

/-- `USART_CMD_CLEARTX`, or `clearEusartFifos`, unless the transmit fifo is empty. -/
def clearTx (peripheral : Peripheral) : Fifos :=
  if fifos.tx = 0 then fifos
  else
    match peripheral with
    | .usart => { fifos with tx := 0 }
    | .eusart => clearEusartFifos

/-- `USART_CMD_CLEARRX`, or `clearEusartFifos`, unless the transmit fifo is empty: the end of a
transaction. -/
def clearAtEnd (peripheral : Peripheral) : Fifos :=
  if fifos.tx = 0 then fifos
  else
    match peripheral with
    | .usart => { fifos with rx := 0 }
    | .eusart => clearEusartFifos

@[simp]
theorem tx_clearTx (peripheral : Peripheral) : (fifos.clearTx peripheral).tx = 0 := by
  unfold clearTx
  split
  case isTrue hempty => exact hempty
  case isFalse => cases peripheral <;> rfl

@[simp]
theorem tx_clearAtEnd_usart : (fifos.clearAtEnd .usart).tx = fifos.tx := by
  rw [clearAtEnd]
  split <;> rfl

@[simp]
theorem tx_clearAtEnd_eusart : (fifos.clearAtEnd .eusart).tx = 0 := by
  by_cases hempty : fifos.tx = 0
  · rw [clearAtEnd, if_pos hempty, hempty]
  · rw [clearAtEnd, if_neg hempty]
    rfl

end Fifos

/-- The static variables of a driver and its hardware. -/
structure SpiSlave where
  txDescriptor0 : Descriptor
  txDescriptor1 : Descriptor
  rxDescriptor : Descriptor
  txDMACh : DmaChannel := {}
  rxDMACh : DmaChannel := {}
  fifos : Fifos := {}
  hostRequest : Bool := false
  shouldProcessTransaction : Bool := false
  deriving DecidableEq

/-- The state after `otPlatSpiSlaveEnable`, which loads the default value at the address
`defaultTxValue`. -/
def otPlatSpiSlaveEnable (defaultTxValue : UInt32) : SpiSlave where
  txDescriptor0 := .ofBuffer defaultTxValue 1
  txDescriptor1 := .ofBuffer defaultTxValue maxDmaDescriptorTransferCount
  rxDescriptor := .ofBuffer 0 1
  txDMACh :=
    { DmaChannel.startTransfer (.ofBuffer defaultTxValue maxDmaDescriptorTransferCount) false with
      -- The source address of this descriptor is not incremented.
      started := some ⟨defaultTxValue, 1⟩ }

/-- The arguments of `otPlatSpiSlavePrepareTransaction`. -/
structure PrepareArgs where
  aOutputBuf : UInt32
  aOutputBufLen : UInt16
  aInputBuf : UInt32
  aInputBufLen : UInt16
  aRequestTransactionFlag : Bool
  deriving DecidableEq, Repr

/-- The lengths fit into a descriptor. -/
def PrepareArgs.Fit (args : PrepareArgs) : Prop :=
  args.aOutputBufLen ≤ maxDmaDescriptorTransferCount ∧
    args.aInputBufLen ≤ maxDmaDescriptorTransferCount

instance (args : PrepareArgs) : Decidable args.Fit :=
  inferInstanceAs (Decidable (_ ∧ _))

/-- Whether the chip select pin is high at each of the three checks of a call. -/
structure CsPin where
  first : Bool
  second : Bool
  third : Bool
  deriving DecidableEq, Repr

/-- `intNo`. -/
inductive IntNo where
  | csFallingEdge
  | csRisingEdge
  deriving DecidableEq, Repr

/-- The buffers and the length that `complete_callback` gets. -/
structure CompleteArgs where
  oldTxBuffer : Buffer
  oldRxBuffer : Buffer
  txTransactionSize : UInt32
  deriving DecidableEq, Repr

namespace SpiSlave

variable (slave : SpiSlave)

/-! ## The interrupt -/

/-- `LDMA_StopTransfer` for both channels. -/
def stopTransfers : SpiSlave :=
  { slave with
    txDMACh := slave.txDMACh.stopTransfer
    rxDMACh := slave.rxDMACh.stopTransfer }

/-- `tx_dma_channel_remaining_xfercnt`. -/
def txDmaChannelRemainingXfercnt : UInt32 :=
  UInt32.ofNat slave.txDMACh.xferCnt.toNat + 1 + UInt32.ofNat slave.fifos.tx

/-- `tx_transaction_size`. -/
def txTransactionSize : UInt32 :=
  let first := UInt32.ofNat slave.txDescriptor0.xferCnt.toNat
  let second := UInt32.ofNat slave.txDescriptor1.xferCnt.toNat
  if slave.txDMACh.link = false then
    first + 1 + (second + 1 - slave.txDmaChannelRemainingXfercnt)
  else first - slave.txDmaChannelRemainingXfercnt + 1

/-- The subtraction in `tx_transaction_size` does not wrap. -/
def NoUnderflow : Prop :=
  let first := UInt32.ofNat slave.txDescriptor0.xferCnt.toNat
  let second := UInt32.ofNat slave.txDescriptor1.xferCnt.toNat
  if slave.txDMACh.link = false then slave.txDmaChannelRemainingXfercnt ≤ second + 1
  else slave.txDmaChannelRemainingXfercnt ≤ first

/-- The arguments of `complete_callback`. -/
def completeArgs : CompleteArgs where
  oldTxBuffer := slave.txDescriptor0.buffer
  oldRxBuffer := slave.rxDescriptor.buffer
  txTransactionSize := slave.txTransactionSize

/-- The state in which `rcp_spidrv_spi_transaction_end_interrupt` calls `complete_callback`. -/
def transactionEnd (peripheral : Peripheral) : SpiSlave :=
  { slave.stopTransfers with
    fifos := slave.fifos.clearAtEnd peripheral
    hostRequest := false }

/-- `rcp_spidrv_spi_transaction_end_interrupt`, with what `complete_callback` returns. -/
def rcpSpidrvSpiTransactionEndInterrupt (peripheral : Peripheral) (intNo : IntNo)
    (completeCallback : CompleteArgs → Bool) : SpiSlave :=
  match intNo with
  | .csFallingEdge => slave
  | .csRisingEdge =>
    let slave := slave.transactionEnd peripheral
    if completeCallback slave.completeArgs then { slave with shouldProcessTransaction := true }
    else slave

/-! ## Preparing a transaction -/

/-- What follows the first check: the channels of the new buffers are stopped. -/
def stopForPrepare (peripheral : Peripheral) (args : PrepareArgs) : SpiSlave :=
  { slave with
    txDMACh := if args.aOutputBuf ≠ 0 then slave.txDMACh.stopTransfer else slave.txDMACh
    fifos := if args.aInputBuf ≠ 0 then slave.fifos.clearRx peripheral else slave.fifos
    rxDMACh := if args.aInputBuf ≠ 0 then slave.rxDMACh.stopTransfer else slave.rxDMACh }

/-- What follows the second check: the descriptors of the new buffers are set. -/
def setDescriptors (peripheral : Peripheral) (args : PrepareArgs) : SpiSlave :=
  { slave with
    fifos := if args.aOutputBuf ≠ 0 then slave.fifos.clearTx peripheral else slave.fifos
    txDescriptor0 :=
      if args.aOutputBuf ≠ 0 then .ofBuffer args.aOutputBuf args.aOutputBufLen
      else slave.txDescriptor0
    rxDescriptor :=
      if args.aInputBuf ≠ 0 then .ofBuffer args.aInputBuf args.aInputBufLen
      else slave.rxDescriptor }

/-- What follows the third check: the channels of the new buffers are started. -/
def startForPrepare (args : PrepareArgs) : SpiSlave :=
  { slave with
    txDMACh :=
      if args.aOutputBuf ≠ 0 then .startTransfer slave.txDescriptor0 true else slave.txDMACh
    rxDMACh :=
      if args.aInputBuf ≠ 0 then .startTransfer slave.rxDescriptor false else slave.rxDMACh
    hostRequest := args.aRequestTransactionFlag }

/-- `otPlatSpiSlavePrepareTransaction`. -/
def otPlatSpiSlavePrepareTransaction (peripheral : Peripheral) (args : PrepareArgs)
    (csPin : CsPin) : OtError × SpiSlave :=
  if ¬ args.aOutputBufLen ≤ maxDmaDescriptorTransferCount then (.failed, slave)
  else if ¬ args.aInputBufLen ≤ maxDmaDescriptorTransferCount then (.failed, slave)
  else if csPin.first = false then (.busy, slave)
  else
    let slave := slave.stopForPrepare peripheral args
    if csPin.second = false then (.busy, slave)
    else
      let slave := slave.setDescriptors peripheral args
      if csPin.third = false then (.busy, slave)
      else (.none, slave.startForPrepare args)

/-- What a call returns at each of its checks. -/
theorem otPlatSpiSlavePrepareTransaction_eq (peripheral : Peripheral) (args : PrepareArgs)
    (csPin : CsPin) :
    slave.otPlatSpiSlavePrepareTransaction peripheral args csPin =
      if ¬ args.Fit then (.failed, slave)
      else if csPin.first = false then (.busy, slave)
      else if csPin.second = false then (.busy, slave.stopForPrepare peripheral args)
      else if csPin.third = false then
        (.busy, (slave.stopForPrepare peripheral args).setDescriptors peripheral args)
      else
        (.none, ((slave.stopForPrepare peripheral args).setDescriptors peripheral
          args).startForPrepare args) := by
  rw [otPlatSpiSlavePrepareTransaction]
  by_cases houtput : args.aOutputBufLen ≤ maxDmaDescriptorTransferCount
  · by_cases hinput : args.aInputBufLen ≤ maxDmaDescriptorTransferCount
    · simp only [PrepareArgs.Fit, houtput, hinput, not_true_eq_false, and_self, if_false]
    · simp only [PrepareArgs.Fit, houtput, hinput, not_true_eq_false, not_false_eq_true, and_false,
        if_true, if_false]
  · simp only [PrepareArgs.Fit, houtput, not_false_eq_true, false_and, if_true]

/-- A call that succeeds has passed all checks. -/
theorem otPlatSpiSlavePrepareTransaction_eq_none {peripheral : Peripheral} {args : PrepareArgs}
    {csPin : CsPin} {prepared : SpiSlave}
    (h : slave.otPlatSpiSlavePrepareTransaction peripheral args csPin = (.none, prepared)) :
    args.Fit ∧ ((slave.stopForPrepare peripheral args).setDescriptors peripheral
      args).startForPrepare args = prepared := by
  rw [otPlatSpiSlavePrepareTransaction_eq] at h
  by_cases hfit : args.Fit
  case neg => simp [hfit] at h
  refine ⟨hfit, ?_⟩
  by_cases hfirst : csPin.first = false
  · simp [hfit, hfirst] at h
  by_cases hsecond : csPin.second = false
  · simp [hfit, hfirst, hsecond] at h
  by_cases hthird : csPin.third = false
  · simp [hfit, hfirst, hsecond, hthird] at h
  simpa [hfit, hfirst, hsecond, hthird] using h

/-! ## The rest of the driver and the hardware -/

/-- `otPlatSpiSlaveDisable`. -/
def otPlatSpiSlaveDisable : SpiSlave :=
  { slave.stopTransfers with hostRequest := false, shouldProcessTransaction := false }

/-- `efr32SpiProcess`. -/
def efr32SpiProcess : SpiSlave :=
  { slave with shouldProcessTransaction := false }

end SpiSlave

/-- What the hardware does between two calls. -/
inductive Transfer where
  /-- The DMA moves a byte to the transmit fifo. -/
  | push
  /-- A byte of the transmit fifo is shifted out. -/
  | shiftOut
  /-- A byte is shifted into the receive fifo. -/
  | shiftIn
  /-- The DMA moves a byte from the receive fifo to memory. -/
  | pull
  deriving DecidableEq, Repr

/-- A step of the hardware. -/
def transferStep (slave : SpiSlave) : Transfer → Option SpiSlave
  | .push =>
    if slave.txDMACh.enabled then
      some { slave with
        txDMACh := slave.txDMACh.moveByte slave.txDescriptor1
        fifos := { slave.fifos with tx := slave.fifos.tx + 1 } }
    else none
  | .shiftOut =>
    if slave.fifos.tx ≠ 0 then
      some { slave with fifos := { slave.fifos with tx := slave.fifos.tx - 1 } }
    else none
  | .shiftIn => some { slave with fifos := { slave.fifos with rx := slave.fifos.rx + 1 } }
  | .pull =>
    if slave.rxDMACh.enabled ∧ slave.fifos.rx ≠ 0 then
      some { slave with
        rxDMACh := slave.rxDMACh.moveByte slave.rxDescriptor
        fifos := { slave.fifos with rx := slave.fifos.rx - 1 } }
    else none

/-- What happens to a driver. -/
inductive SpiEvent where
  | prepare (args : PrepareArgs) (csPin : CsPin)
  | interrupt (intNo : IntNo) (completeCallback : CompleteArgs → Bool)
  | process
  | disable
  | transfer (transfer : Transfer)

/-- A step of a driver or its hardware. -/
def spiStep (peripheral : Peripheral) (slave : SpiSlave) : SpiEvent → Option SpiSlave
  | .prepare args csPin =>
    some (slave.otPlatSpiSlavePrepareTransaction peripheral args csPin).2
  | .interrupt intNo completeCallback =>
    some (slave.rcpSpidrvSpiTransactionEndInterrupt peripheral intNo completeCallback)
  | .process => some slave.efr32SpiProcess
  | .disable => some slave.otPlatSpiSlaveDisable
  | .transfer transfer => transferStep slave transfer

end OtEfr32.Spi
