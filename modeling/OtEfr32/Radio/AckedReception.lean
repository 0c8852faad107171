import OtEfr32.Radio.Acknowledgment
import OtEfr32.Radio.Steps

/-!
# Acknowledged receptions

The driver together with RAIL's receive FIFO.  A packet arrives in the FIFO with the bytes received
over the air; `dataRequestCommandCallback` decides about its ACK and marks its first byte there, and
`packetReceivedCallback` copies it into a block of `sRxPacketQueue`.  Histories beside the driver
say which arrived packet a queue entry and a call of `otPlatRadioReceiveDone` belong to, what became
of its ACK, and which ACK was the last one to be secured for an interface.  The two reads of
`prepareNextRxPacketforCb` from the security material are separate steps, between which interrupts
may secure further ACKs.
-/

namespace OtEfr32.Radio

open Transition

/-! ## The state -/

/-- A packet in the FIFO. -/
structure Incoming where
  /-- The bytes received over the air. -/
  airPsdu : List ℕ
  /-- The packet as it lies in the FIFO. -/
  packet : RxPacket
  /-- What `dataRequestCommandCallback` has made of its acknowledgment. -/
  ack : Option AckResult := none
  /-- A step of the acknowledgment has failed that its marks do not tell. -/
  ackFails : Bool := false
  deriving DecidableEq, Repr

/-- The packet that `processNextRxPacket` is handing up. -/
structure Visiting where
  item : Incoming
  /-- The key id of the ACK last secured for the interface when `ackKeyId` was read. -/
  lastKeyId : Option ℕ
  /-- The frame counter of the ACK last secured for it when `ackFrameCounter` was read. -/
  lastCounter : Option ℕ
  deriving DecidableEq, Repr

/-- A packet is dequeued while `ack` is the ACK last secured for the interface of its entry. -/
def Incoming.visiting (item : Incoming) (ack : Option (ℕ × ℕ)) : Visiting :=
  ⟨item, ack.map Prod.fst, ack.map Prod.snd⟩

/-- A call of `otPlatRadioReceiveDone` with the packet it is for. -/
structure Handoff where
  visiting : Visiting
  done : ReceiveDone
  deriving DecidableEq, Repr

/-- The driver with RAIL's FIFO and the histories. -/
structure AckedReception where
  radio : Driver
  rxFifo : List Incoming := []
  /-- `prepareNextRxPacketforCb` has read `ackKeyId` and not yet `ackFrameCounter`. -/
  isReading : Bool := false
  /-- History: the key id and the frame counter of the ACK last secured for an interface. -/
  lastAck : ℕ → Option (ℕ × ℕ) := fun _ ↦ none
  /-- History: the packets of the entries of `sRxPacketQueue`. -/
  queue : List Incoming := []
  /-- History: the packet of the last entry that was dequeued. -/
  visiting : Option Visiting := none
  /-- History: every call of `otPlatRadioReceiveDone`. -/
  handoffs : List Handoff := []

/-! ## ACKs that are secured -/

namespace Driver

variable (radio : Driver) (config : Config)

/-- The key id and counter that `otPlatRadioTransmit` behind the check for a busy radio writes into
an ACK frame of the stack. -/
def transmitNowAck (iid aFrame : ℕ) : Option (ℕ × ℕ) :=
  let frame := (radio.tx.sTransmitBuffer (txBufIndex iid)).frame
  if config.hasBandConfig (radio.tx.sTransmitBuffer aFrame).frame.mChannel && frame.isAck then
    radio.security.headerWritten config true frame.mSecurity iid
  else none

/-- The same for a whole call of `otPlatRadioTransmit`. -/
def transmitAck (gpBuffers : Bool) (iid aFrame : ℕ) : Option (ℕ × ℕ) :=
  if config.canAccessPal = false ∨ (config.multipan && gpBuffers) = true ∨
      (config.multipan && radio.isRadioTransmittingOrScanning) = true then none
  else radio.transmitNowAck config iid aFrame

/-- The interface for which an event secures an ACK frame of the stack, and what it writes. -/
def securesAck : RadioEvent → Option (ℕ × ℕ × ℕ)
  | .transmit iid _ gpBuffers =>
    (radio.transmitAck config gpBuffers iid (txBufIndex iid)).map fun header ↦ (iid, header)
  | .process _ gpBuffers =>
    match radio.dueCommand config with
    | some ⟨.transmit txFrame _, iid⟩ =>
      (radio.transmitAck config gpBuffers iid txFrame).map fun header ↦ (iid, header)
    | _ => none
  | _ => none

/-- The next part of `efr32RadioProcess` ends with a call of `otPlatRadioReceiveDone`. -/
def handsUp : Bool :=
  radio.location == .processRxPackets && radio.rx.visit.any fun visit ↦
    Receiver.hasInstance config visit.interfaceId &&
      !(visit.handedOnce && Receiver.leavesForGp config visit.frame.mPsdu)

end Driver

/-- The key id and counter that `writeIeee802154EnhancedAck` writes into its ACK. -/
def AckCalls.securedHeader (calls : AckCalls) (config : Config) (security : MacSecurity)
    (iid : ℕ) : Option (ℕ × ℕ) :=
  calls.generatedAck.bind fun ack ↦
    if ack.isSecurityEnabled then security.headerWritten config true ack iid else none

/-- The callback leaves a mark for an ACK that RAIL then refuses, or sets frame pending without
leaving the mark. -/
def AckCalls.fails (calls : AckCalls) (config : Config) (security : MacSecurity)
    (matching : SrcMatching) (iid macFcf : ℕ) : Bool :=
  calls.initialPktReadBytes != 0 &&
    if calls.otMacFrameIsVersion2015 then
      calls.otMacFrameGenerateEnhAck.any fun ack ↦
        !(ack.isSecurityEnabled &&
            (security.radioProcessTransmitSecurity config true ack iid).1 != .none) &&
          calls.skipRxPacketLengthBytes &&
          (ack.isSecurityEnabled || matching.setFramePending config iid calls.aSrcAddress) &&
          !calls.writeEnhAck
    else
      matching.togglesFramePending config iid calls.sourceAddress macFcf &&
        calls.toggleFramePending && !calls.skipRxPacketLengthBytes

/-! ## Steps -/

/-- `SL_RAIL_EVENT_IEEE802154_DATA_REQUEST_COMMAND` for a packet in the FIFO, with the source match
tables at the time and the results of the calls that the callback makes. -/
structure DataRequest where
  index : ℕ
  matching : SrcMatching
  calls : AckCalls

/-- What can happen next. -/
inductive AckedReceptionEvent where
  /-- Any event of the driver but a call of `RAILCb_Generic`. -/
  | radio (event : RadioEvent)
  /-- A packet arrives in the FIFO. -/
  | arrive (packet : RxPacket)
  /-- A call of `RAILCb_Generic`; `received` is the packet that has been received completely. -/
  | railEvents (dataRequest : Option DataRequest) (tx : TxEvents) (received : Option ℕ)
  /-- `prepareNextRxPacketforCb` reads `ackFrameCounter`. -/
  | readAckFrameCounter

/-- The event is a call of `RAILCb_Generic`. -/
def RadioEvent.isRailEvents : RadioEvent → Bool
  | .railEvents _ => true
  | _ => false

/-- The event interrupts the main task. -/
def RadioEvent.isInterrupt : RadioEvent → Bool
  | .railEvents _ | .scanTimer .. => true
  | _ => false

/-- The event is a part of `efr32RadioProcess`. -/
def AckedReceptionEvent.isProcess : AckedReceptionEvent → Bool
  | .radio (.process ..) => true
  | _ => false

theorem AckedReceptionEvent.eq_of_isProcess {event : AckedReceptionEvent}
    (h : event.isProcess = true) : ∃ rail gpBuffers, event = .radio (.process rail gpBuffers) := by
  unfold isProcess at h
  split at h
  case h_1 rail gpBuffers => exact ⟨rail, gpBuffers, rfl⟩
  case h_2 => contradiction

/-- The outcome of the callback, with its marks in the FIFO. -/
def Incoming.acknowledge (item : Incoming) (result : AckResult) (ackFails : Bool) : Incoming :=
  { item with
    packet := { item.packet with psdu := item.packet.psdu.modifyHead (· ||| result.marks) }
    ack := some result
    ackFails }

namespace AckedReception

variable (config : Config) (state : AckedReception)

/-- Put an ACK on record that was secured for an interface. -/
def recordAck : Option (ℕ × ℕ × ℕ) → AckedReception
  | some (iid, header) =>
    { state with lastAck := Function.update state.lastAck iid (some header) }
  | none => state

/-- `dataRequestCommandCallback` for a packet of the FIFO; RAIL raises the event once for a packet,
behind its addresses. -/
def answer (request : DataRequest) : Option (AckedReception × Option EnhAck) :=
  (state.rxFifo[request.index]?).bind fun item ↦
    if item.ack = none ∧ 2 ≤ item.airPsdu.length then
      let iid := state.radio.rx.getIidFromFilterMask config item.packet.filterMask
      let security := state.radio.security
      let macFcf := item.airPsdu.headD 0
      let answered := item.acknowledge
        (dataRequestCommandCallback config security request.matching iid macFcf request.calls)
        (request.calls.fails config security request.matching iid macFcf)
      let header := request.calls.securedHeader config security iid
      some
        (({ state with rxFifo := state.rxFifo.set request.index answered }).recordAck
            (header.map fun header ↦ (iid, header)),
          request.calls.generatedAck.map fun ack ↦ ⟨item.packet.filterMask, ack⟩)
    else none

/-- The histories follow a step of the driver to `next`; `item` is the packet that a call of
`RAILCb_Generic` has received. -/
def follow (next : Driver) (item : Option Incoming) : AckedReception :=
  let before := state.radio.rx
  let queue := if before.queued.length < next.rx.queued.length then state.queue ++ item.toList
    else state.queue
  let dequeues := before.dequeued.length < next.rx.dequeued.length
  { state with
    radio := next
    queue := if dequeues then queue.tail else queue
    isReading := dequeues || state.isReading
    visiting := if dequeues then
        queue.head?.map fun item ↦ item.visiting
          (before.sRxPacketQueue.head?.bind fun rxPacketBuf ↦ state.lastAck rxPacketBuf.iid)
      else state.visiting
    handoffs := state.handoffs ++ state.visiting.elim [] fun visiting ↦
      (next.rx.receiveDones.drop before.receiveDones.length).map fun done ↦ ⟨visiting, done⟩ }

/-- The callback for the packet of the event, if there is one. -/
def answerEvent : Option DataRequest → Option (AckedReception × Option EnhAck)
  | some request => state.answer config request
  | none => some (state, none)

/-- `prepareNextRxPacketforCb` reads `ackFrameCounter` for the packet that it has dequeued. -/
def readAckFrameCounter (visit : Visit) : AckedReception :=
  let iid := visit.rxPacketBuf.iid
  let mAckFrameCounter := (state.radio.security.sMacKeys iid).ackFrameCounter
  { state with
    radio := state.radio.mapRx fun rx ↦
      rx.setVisit { visit with frame := { visit.frame with mAckFrameCounter } }
    isReading := false
    visiting := state.visiting.map fun visiting ↦
      { visiting with lastCounter := (state.lastAck iid).map Prod.snd } }

/-- `RAILCb_Generic` behind the callback for a data request. -/
def receive (dataRequestCommand : Option EnhAck) (tx : TxEvents) (received : Option ℕ) :
    AckedReception :=
  let item := received.bind fun index ↦ state.rxFifo[index]?
  let next := state.radio.railCbGeneric config
    { dataRequestCommand, tx, rxPacketReceived := item.map Incoming.packet }
  { state.follow next item with rxFifo := received.elim state.rxFifo state.rxFifo.eraseIdx }

end AckedReception

/-- One step. -/
def ackedReceptionStep (config : Config) (state : AckedReception) :
    AckedReceptionEvent → Option AckedReception
  | .radio event =>
    if event.isRailEvents = true ∨ (state.isReading && !event.isInterrupt) = true then none
    else (radioStep config state.radio event).map fun next ↦
      (state.follow next none).recordAck (state.radio.securesAck config event)
  | .arrive packet =>
    if packet.psdu.all (· < 256) then
      some { state with rxFifo := state.rxFifo ++ [{ airPsdu := packet.psdu, packet }] }
    else none
  | .railEvents dataRequest tx received =>
    (state.answerEvent config dataRequest).map fun (answered, dataRequestCommand) ↦
      answered.receive config dataRequestCommand tx received
  | .readAckFrameCounter =>
    if state.isReading then state.radio.rx.visit.map state.readAckFrameCounter else none

/-- The start: the driver after its initialization, and an empty FIFO. -/
def ackedReceptionInit (config : Config) : AckedReception := { radio := efr32RadioInit config }

end OtEfr32.Radio
