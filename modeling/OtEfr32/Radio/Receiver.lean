import OtEfr32.Radio.Security

/-!
# Receiver

The queue of received packets between the interrupt handler `packetReceivedCallback` and the main
loop, and the visit of a dequeued packet to the instances it is for.
-/

namespace OtEfr32.Radio

/-- The part of `sReceive.frame` that `prepareNextRxPacketforCb` fills in. -/
structure ReceiveFrame where
  mPsdu : List ℕ
  mChannel : ℕ
  mRssi : ℤ
  mLqi : ℕ
  mAckedWithSecEnhAck : Bool
  mAckedWithFramePending : Bool
  mAckKeyId : ℕ
  mAckFrameCounter : ℕ
  deriving DecidableEq, Repr

/-- A call of `otPlatRadioReceiveDone`. -/
structure ReceiveDone where
  iid : ℕ
  aFrame : ReceiveFrame
  /-- History: the queued packet that the frame was made from. -/
  rxPacketBuf : RxBuffer
  deriving DecidableEq, Repr

/-- The packet that `processNextRxPacket` is handing up. -/
structure Visit where
  rxPacketBuf : RxBuffer
  /-- `sReceive.frame`. -/
  frame : ReceiveFrame
  interfaceId : ℕ
  /-- The first call of `otPlatRadioReceiveDone` for the interface has returned. -/
  handedOnce : Bool := false
  deriving DecidableEq, Repr

/-- The state of the receive path. -/
structure Receiver where
  sRxPacketQueue : List RxBuffer := []
  /-- The blocks taken from `sRxPacketMemPoolHandle`. -/
  allocated : ℕ := 0
  sRailFilterMask : ℕ := 1
  sPromiscuous : Bool := false
  /-- `sReceive.frame.mChannel`. -/
  sReceiveChannel : ℕ := 0
  /-- The running call of `processNextRxPacket`. -/
  visit : Option Visit := none
  /-- History: every packet that was added to the queue. -/
  queued : List RxBuffer := []
  /-- History: every packet that was removed from the queue. -/
  dequeued : List RxBuffer := []
  /-- History. -/
  receiveDones : List ReceiveDone := []

namespace Receiver

variable (rx : Receiver)

/-- The loop of `getIidFromFilterMask`: `iid++` and `mask >>= 1` while the mask is not 0.  A mask
has eight bits, so it takes at most eight turns. -/
def shiftMask : (turns : ℕ) → (mask iid : ℕ) → ℕ
  | 0, _, iid => iid
  | turns + 1, mask, iid =>
    if mask = 0 then iid else shiftMask turns (mask / 2) ((iid + 1) % 256)

/-- `getIidFromFilterMask`. -/
def getIidFromFilterMask (config : Config) (mask : ℕ) : ℕ :=
  if config.multipan then
    let mask := mask &&& rx.sRailFilterMask
    if mask ≠ 0 ∧ mask &&& (mask - 1) = 0 then shiftMask 8 mask invalidInterfaceIndex else 0
  else radioBcastIid

/-- `otPlatRadioSetPanId`, as far as the filter mask goes. -/
def otPlatRadioSetPanId (config : Config) (iid aPanId : ℕ) : Receiver :=
  if config.multipan = true ∧ aPanId ≠ 0xFFFF then
    { rx with sRailFilterMask := rx.sRailFilterMask ||| 2 ^ iid }
  else rx

/-- Set `sReceive.frame.mChannel`. -/
def setReceiveChannel (aChannel : ℕ) : Receiver := { rx with sReceiveChannel := aChannel }

/-! ## Reception -/

/-- The checks of `packetReceivedCallback` on a packet that is not an ACK.  RAIL's packet lacks the
two bytes of the checksum. -/
def accepts (config : Config) (packet : RxPacket) : Bool :=
  (rx.sPromiscuous || 5 ≤ packet.psdu.length + 2) && packet.timestampValid &&
    decide (rx.sRxPacketQueue.length < config.rxBufferCount) &&
    decide (rx.allocated < config.rxBufferCount)

/-- The entry that `packetReceivedCallback` makes for a packet. -/
def rxBufferOf (config : Config) (packet : RxPacket) : RxBuffer :=
  { psdu := packet.psdu
    channel := packet.channel
    lqi := packet.lqi
    rssi := packet.rssi
    iid := rx.getIidFromFilterMask config packet.filterMask }

/-- Allocate a block for an entry and add it to the queue. -/
def enqueue (rxPacketBuf : RxBuffer) : Receiver :=
  { rx with
    sRxPacketQueue := rx.sRxPacketQueue ++ [rxPacketBuf]
    allocated := rx.allocated + 1
    queued := rx.queued ++ [rxPacketBuf] }

/-! ## Delivery -/

/-- The PSDU of an entry without the bits that the driver keeps in its first byte:
`IEEE802154_SECURED_OUTGOING_ENHANCED_ACK` and `IEEE802154_FRAME_PENDING_SET_IN_OUTGOING_ACK`. -/
def clearReservedBits (psdu : List ℕ) : List ℕ := psdu.modifyHead (· &&& 0x7B)

/-- `prepareNextRxPacketforCb`, on the dequeued entry. -/
def prepareFrame (material : SecurityMaterial) (rxPacketBuf : RxBuffer) : ReceiveFrame :=
  let macFcf := rxPacketBuf.psdu.headD 0
  { mPsdu := clearReservedBits rxPacketBuf.psdu
    mChannel := rxPacketBuf.channel
    mRssi := rxPacketBuf.rssi
    mLqi := rxPacketBuf.lqi
    mAckedWithSecEnhAck := macFcf &&& 0x04 != 0
    mAckedWithFramePending := macFcf &&& 0x80 != 0
    mAckKeyId := material.ackKeyId
    mAckFrameCounter := material.ackFrameCounter }

/-- The start of `processNextRxPacket` for the first entry of the queue. -/
def startVisit (sMacKeys : ℕ → SecurityMaterial) (rxPacketBuf : RxBuffer)
    (rest : List RxBuffer) : Receiver :=
  { rx with
    sRxPacketQueue := rest
    sReceiveChannel := rxPacketBuf.channel
    visit := some {
      rxPacketBuf
      frame := prepareFrame (sMacKeys rxPacketBuf.iid) rxPacketBuf
      interfaceId := rxPacketBuf.iid }
    dequeued := rx.dequeued ++ [rxPacketBuf] }

/-- The instance of an interface is not `NULL`.  In a single-PAN build it is the argument of
`efr32RadioProcess`. -/
def hasInstance (config : Config) (interfaceId : ℕ) : Bool :=
  !config.multipan || config.iidHasInstance interfaceId

/-- `otPlatRadioReceiveDone` for the interface of a visit.  A call of `otPlatRadioReceive` by the
stack may have changed the channel of the frame. -/
def receiveDone (visit : Visit) : Receiver :=
  { rx with
    receiveDones := rx.receiveDones ++
      [⟨visit.interfaceId, { visit.frame with mChannel := rx.sReceiveChannel },
        visit.rxPacketBuf⟩] }

/-- `processNextRxPacket` from its end of the loop on: the block is freed. -/
def finishVisit : Receiver := { rx with visit := none, allocated := rx.allocated - 1 }

/-- Go on with a visit. -/
def setVisit (visit : Visit) : Receiver := { rx with visit := some visit }

/-- The condition of the loop in `processNextRxPacket`: go on with the next interface, or leave. -/
def nextInterface (config : Config) (visit : Visit) : Receiver :=
  if visit.rxPacketBuf.iid = radioBcastIid ∧
      visit.interfaceId + 1 < config.radioInterfaceCount then
    rx.setVisit { visit with interfaceId := visit.interfaceId + 1, handedOnce := false }
  else rx.finishVisit

/-- `isGpPacket`, in a build in which it ends the loop. -/
def leavesForGp (config : Config) (mPsdu : List ℕ) : Bool :=
  !config.multipan && config.slGpIntfIsGpPkt mPsdu

/-- The part of the loop of `processNextRxPacket` up to the return of the next call of
`otPlatRadioReceiveDone`, or to the end of the turn. -/
def visitStep (config : Config) (visit : Visit) : Receiver :=
  if hasInstance config visit.interfaceId = false then rx.nextInterface config visit
  else if visit.handedOnce = false then
    (rx.receiveDone visit).setVisit { visit with handedOnce := true }
  else if leavesForGp config visit.frame.mPsdu then rx.finishVisit
  else (rx.receiveDone visit).nextInterface config visit

end Receiver

end OtEfr32.Radio
