import OtEfr32.GreenPower.Interface
import OtEfr32.Radio.Steps

/-!
# The driver with the Green Power interface

`otPlatRadioTransmit` asks the Green Power interface whether it holds a frame back,
`processNextRxPacket` shows it every received frame, and `efr32GpProcess` transmits the frame that
is due or reports it as aborted.  The call of `otPlatRadioTxDone` in `efr32GpProcess` is divided
from its return, since the stack may call the platform API inside it.

Histories say which frames were held back and what became of them, which requests were matched, and
which of the frames that the interface should hold back were started on the air.
-/

namespace OtEfr32.GreenPower

open Radio Transition

/-- A frame that is passed to `otPlatRadioTransmit`. -/
structure PassedFrame where
  iid : ℕ
  mPsdu : List ℕ
  /-- History: the number of the request. -/
  request : ℕ
  deriving DecidableEq, Repr

/-- A match of `sl_gp_intf_should_buffer_pkt` while a frame was waiting. -/
structure Release where
  /-- The waiting frame. -/
  frame : PassedFrame
  /-- The PSDU of the received frame. -/
  psdu : List ℕ
  mTimestamp : ℕ
  deriving DecidableEq, Repr

/-- A start on the air. -/
structure GpStart where
  frame : PassedFrame
  clock : ℕ
  deriving DecidableEq, Repr

/-- The driver, the interface and the histories. -/
structure GpDriver where
  radio : Driver
  gp : GpInterface := {}
  /-- `otPlatTimeGet`. -/
  clock : ℕ := 0
  /-- `efr32GpProcess` is inside its call of `otPlatRadioTxDone`. -/
  inTxDone : Bool := false
  /-- History: the frame that is held back and not yet reported. -/
  buffered : Option PassedFrame := none
  /-- History: the frames given to `sl_gp_intf_buffer_pkt`. -/
  diverted : List PassedFrame := []
  /-- History: the frames that `efr32GpProcess` has handed to the radio. -/
  handed : List PassedFrame := []
  /-- History: the frames that `efr32GpProcess` has reported. -/
  aborted : List PassedFrame := []
  /-- History: the instances for which `efr32GpProcess` called `otPlatRadioTransmit`. -/
  transmits : List ℕ := []
  /-- History: the instances for which it called `otPlatRadioTxDone`. -/
  txDones : List ℕ := []
  /-- History: how often its assertion on `sBufferedTxInstance` has failed. -/
  failedAsserts : ℕ := 0
  /-- History. -/
  releases : List Release := []
  /-- History: the starts of Channel Configuration and Commissioning Reply frames. -/
  starts : List GpStart := []

/-! ## Frames on their way -/

/-- The frame in a transmit buffer. -/
def frameIn (radio : Driver) (iid aFrame request : ℕ) : PassedFrame :=
  ⟨iid, (radio.tx.sTransmitBuffer aFrame).frame.mPsdu, request⟩

/-- The frame that an event of the driver passes to `otPlatRadioTransmit`. -/
def passedFrame (config : Config) (radio : Driver) : RadioEvent → Option PassedFrame
  | .transmit iid _ _ => some (frameIn radio iid (txBufIndex iid) radio.tx.requests)
  | .process _ _ =>
    match radio.dueCommand config with
    | some ⟨.transmit txFrame request, iid⟩ => some (frameIn radio iid txFrame request)
    | _ => none
  | _ => none

/-- The visit for which an event of the driver calls `sl_gp_intf_should_buffer_pkt`. -/
def shownVisit (config : Config) (radio : Driver) : RadioEvent → Option Visit
  | .process _ _ =>
    if config.multipan = true ∧ radio.location = .processRxPackets then
      radio.rx.visit.filter fun visit ↦
        Receiver.hasInstance config visit.interfaceId && visit.handedOnce
    else none
  | _ => none

/-- The event with the decision of the interface. -/
def withGpBuffers (gpBuffers : Bool) : RadioEvent → RadioEvent
  | .transmit iid rail _ => .transmit iid rail gpBuffers
  | .process rail _ => .process rail gpBuffers
  | event => event

/-- The event is a part of `efr32RadioProcess`. -/
def isProcess : RadioEvent → Bool
  | .process _ _ => true
  | _ => false

namespace GpDriver

variable (config : Config) (platform : GpPlatform) (state : GpDriver)

/-- The check of `otPlatRadioTransmit` for a frame to hold back. -/
def divertedFrame (event : RadioEvent) : Option PassedFrame :=
  (passedFrame config state.radio event).filter fun frame ↦
    config.canAccessPal && config.multipan && state.gp.gpState != .sendResponse &&
      (state.gp.slGpIntfShouldBufferPkt platform frame.mPsdu frame.mPsdu 0 false).1

/-- `sl_gp_intf_buffer_pkt`. -/
def bufferPkt (frame : PassedFrame) : GpDriver :=
  { state with
    gp := GpInterface.slGpIntfBufferPkt platform frame.iid state.clock
    buffered := some frame
    diverted := state.diverted ++ [frame] }

/-- `processNextRxPacket` shows the frame of a visit to the interface. -/
def showFrame (visit : Visit) (mTimestamp : ℕ) : GpDriver :=
  let aTxFrame := (state.radio.tx.sTransmitBuffer (txBufIndex visit.interfaceId)).frame.mPsdu
  let psdu := visit.frame.mPsdu
  let gp := (state.gp.slGpIntfShouldBufferPkt platform aTxFrame psdu mTimestamp true).2
  { state with
    gp
    releases :=
      if state.gp.gpState = .waitingForPkt ∧ gp.gpState = .sendResponse then
        state.releases ++ state.buffered.toList.map fun frame ↦ ⟨frame, psdu, mTimestamp⟩
      else state.releases }

/-- What an event of the driver does to the interface. -/
def interfaceStep (event : RadioEvent) (mTimestamp : ℕ) : GpDriver :=
  match state.divertedFrame config platform event with
  | some frame => state.bufferPkt platform frame
  | none =>
    match shownVisit config state.radio event with
    | some visit => state.showFrame platform visit mTimestamp
    | none => state

/-- The driver goes on to `next`; a start of the passed frame is put on record. -/
def advanceTo (frame : Option PassedFrame) (next : Driver) : GpDriver :=
  { state with
    radio := next
    starts :=
      if state.radio.transmissionStarts.length < next.transmissionStarts.length then
        state.starts ++ (frame.filter fun frame ↦ platform.isResponse frame.mPsdu).toList.map
          fun frame ↦ ⟨frame, state.clock⟩
      else state.starts }

/-! ## efr32GpProcess -/

/-- The due frame, as `efr32GpProcess` finds it. -/
def dueFrame (iid : ℕ) : PassedFrame :=
  frameIn state.radio iid (txBufIndex iid) (state.buffered.elim 0 PassedFrame.request)

/-- `efr32GpProcess` hands the due frame to `otPlatRadioTransmit`, without CSMA. -/
def sendDueFrame (rail : RailResults) (iid : ℕ) : GpDriver :=
  let frame := state.dueFrame iid
  let radio := state.radio.mapTx fun tx ↦ tx.updateBuffer (txBufIndex iid) fun packet ↦
    { packet with frame := { packet.frame with mCsmaCaEnabled := false } }
  let next := (radio.otPlatRadioTransmit config rail false iid (txBufIndex iid) frame.request).2
  { state.advanceTo platform (some frame) next with
    gp := state.gp.reset
    buffered := none
    handed := state.handed ++ state.buffered.toList
    transmits := state.transmits ++ [iid] }

/-- `efr32GpProcess` calls `otPlatRadioTxDone`. -/
def abortFrame (iid : ℕ) : GpDriver :=
  { state with
    inTxDone := true
    buffered := none
    aborted := state.aborted ++ state.buffered.toList
    txDones := state.txDones ++ [iid] }

/-- `otPlatRadioTxDone` returns to `efr32GpProcess`. -/
def endAbort : GpDriver :=
  { state with inTxDone := false, gp := state.gp.reset, buffered := none }

/-- The assertion on `sBufferedTxInstance`. -/
def withBufferedTxInstance (next : ℕ → GpDriver) : GpDriver :=
  match state.gp.sBufferedTxInstance with
  | some iid => next iid
  | none => { state with failedAsserts := state.failedAsserts + 1 }

/-- `efr32GpProcess`, up to a call of `otPlatRadioTxDone`. -/
def efr32GpProcess (rail : RailResults) : GpDriver :=
  match state.gp.gpState with
  | .init => { state with gp := { state.gp with gpState := .idle } }
  | .sendResponse =>
    if state.gp.gpStateTimeOut ≤ state.clock then
      state.withBufferedTxInstance (state.sendDueFrame config platform rail)
    else state
  | .waitingForPkt =>
    if state.gp.gpStateTimeOut ≤ state.clock then state.withBufferedTxInstance state.abortFrame
    else state
  | .idle => state

end GpDriver

/-! ## Steps -/

/-- What can happen next. -/
inductive GpEvent where
  /-- An event of the driver; `mTimestamp` is that of the frame that `processNextRxPacket` is
  handing up. -/
  | radio (event : RadioEvent) (mTimestamp : ℕ)
  /-- A call of `efr32GpProcess`. -/
  | gpProcess (rail : RailResults)
  /-- The call of `otPlatRadioTxDone` returns. -/
  | txDoneReturns
  /-- Time passes. -/
  | elapse (duration : ℕ)
  deriving DecidableEq, Repr

/-- One step.  The main task is in `efr32GpProcess` until `otPlatRadioTxDone` has returned. -/
def gpStep (config : Config) (platform : GpPlatform) (state : GpDriver) :
    GpEvent → Option GpDriver
  | .radio event mTimestamp =>
    if state.inTxDone && isProcess event then none
    else
      let diverted := state.divertedFrame config platform event
      (radioStep config state.radio (withGpBuffers diverted.isSome event)).map fun next ↦
        (state.interfaceStep config platform event mTimestamp).advanceTo platform
          (passedFrame config state.radio event) next
  | .gpProcess rail =>
    if config.multipan = true ∧ state.radio.location = .outside ∧ state.radio.isInCall = false ∧
        state.inTxDone = false then
      some (state.efr32GpProcess config platform rail)
    else none
  | .txDoneReturns =>
    if state.inTxDone = true ∧ state.radio.isInCall = false then some state.endAbort else none
  | .elapse duration => some { state with clock := state.clock + duration }

/-- The start. -/
def gpInit (config : Config) : GpDriver := { radio := efr32RadioInit config }

end OtEfr32.GreenPower
