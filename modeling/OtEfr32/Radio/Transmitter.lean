import Mathlib.Logic.Function.Basic
import OtEfr32.Platform.Error
import OtEfr32.Radio.Flags
import OtEfr32.Radio.Frame

/-!
# Transmitter

The transmit buffers, the current packet and the internal flags of `radio.c`, with the handlers of
the RAIL events that change them.  Every place where the source ends a transmission records the
reason in the history.
-/

namespace OtEfr32.Radio

/-- Why the driver ended a transmission. -/
inductive TxEnd where
  /-- Sent, and no acknowledgment is requested. -/
  | packetSent
  | ackReceived
  | channelBusy
  | blocked
  /-- `SL_RAIL_EVENT_TX_UNDERFLOW` or `SL_RAIL_EVENT_TX_ABORTED`. -/
  | aborted
  | scheduledTxMissed
  | ackTimeout
  /-- A scheduler error while the transmission was under way. -/
  | schedulerError
  /-- RAIL refused to start. -/
  | startFailed
  deriving DecidableEq, Repr

/-- The status that `otPlatRadioTxDone` has to report for the end of a transmission. -/
def TxEnd.status : TxEnd → OtError
  | .packetSent | .ackReceived => .none
  | .channelBusy | .schedulerError => .channelAccessFailure
  | .ackTimeout => .noAck
  | .blocked | .aborted | .scheduledTxMissed | .startFailed => .abort

/-- A call of `otPlatRadioTxDone`. -/
structure TxDone where
  iid : ℕ
  aFrame : OtRadioFrame
  aAckFrame : Option (List ℕ)
  aError : OtError
  /-- History: the request for the transmission. -/
  request : ℕ
  deriving DecidableEq, Repr

/-- The assertions of the transmit path. -/
inductive TxAssertion where
  /-- `OT_ASSERT(txBufIndex < RADIO_REQUEST_BUFFER_COUNT)` in `otPlatRadioTransmit`. -/
  | txBufIndex
  /-- `OT_ASSERT(aFrame == &sTransmitBuffer[txBufIndex].frame)` in `otPlatRadioTransmit`. -/
  | transmitBuffer
  /-- `OT_ASSERT((iid != RADIO_BCAST_IID) && (iid < RADIO_INTERFACE_COUNT))` in
  `otPlatRadioTransmit`. -/
  | iid
  /-- `OT_ASSERT(!getInternalFlag(FLAG_ONGOING_TX_DATA))` in `otPlatRadioTransmit`. -/
  | noOngoingTx
  /-- `OT_ASSERT(txWaitingForAck())` in `ackTimeoutCallback`. -/
  | txWaitingForAck
  /-- `OT_ASSERT(getInternalFlag(FLAG_WAITING_FOR_ACK))` in `ackTimeoutCallback`. -/
  | waitingForAck
  deriving DecidableEq, Repr

/-- The RAIL events of one call of `RAILCb_Generic` that concern a transmission or an outgoing ACK.
The last three tell of the channel check, which only the stack events are about. -/
structure TxEvents where
  txPacketSent : Bool := false
  txChannelBusy : Bool := false
  txBlocked : Bool := false
  /-- `SL_RAIL_EVENT_TX_UNDERFLOW` or `SL_RAIL_EVENT_TX_ABORTED`. -/
  txAborted : Bool := false
  /-- The one bit of `SL_RAIL_EVENT_TX_SCHEDULED_TX_STARTED` and
  `SL_RAIL_EVENT_RX_SCHEDULED_RX_STARTED`. -/
  scheduledStarted : Bool := false
  txScheduledTxMissed : Bool := false
  rxScheduledRxEnd : Bool := false
  rxScheduledRxMissed : Bool := false
  txackPacketSent : Bool := false
  /-- `SL_RAIL_EVENT_TXACK_ABORTED` or `SL_RAIL_EVENT_TXACK_UNDERFLOW`. -/
  txackAborted : Bool := false
  txackBlocked : Bool := false
  rxAckTimeout : Bool := false
  /-- `SL_RAIL_EVENT_SCHEDULER_STATUS`, with a scheduler status other than no error. -/
  schedulerError : Bool := false
  txStartCca : Bool := false
  txCcaRetry : Bool := false
  txChannelClear : Bool := false
  deriving DecidableEq, Repr

/-- The state of the transmit path. -/
structure Transmitter where
  /-- `miscRadioState`. -/
  flags : Flags := fun _ ↦ false
  sTransmitBuffer : ℕ → RadioFrame := fun _ ↦ ⟨⟨[], 0, false, false, 0, 0, {}⟩, 0xFF, 0⟩
  /-- The index of `sCurrentTxPacket` in `sTransmitBuffer`. -/
  sCurrentTxPacket : Option ℕ := none
  sReceiveAckPsdu : List ℕ := []
  /-- History: the number of requests so far. -/
  requests : ℕ := 0
  /-- History: the request for the current packet. -/
  currentRequest : ℕ := 0
  /-- History: the instances whose transmissions were started. -/
  started : List ℕ := []
  /-- History: the ends of transmissions. -/
  ended : List (ℕ × TxEnd) := []
  /-- History. -/
  txDones : List TxDone := []
  /-- History: the instances given to `otPlatRadioTxStarted`. -/
  txStarteds : List ℕ := []
  /-- History: the assertions that failed. -/
  failedAsserts : List TxAssertion := []

namespace Transmitter

variable (tx : Transmitter)

/-- Set or clear the bits of a mask in `miscRadioState`. -/
def setFlag (mask : List Flag) (val : Bool) : Transmitter :=
  { tx with flags := setInternalFlag tx.flags mask val }

/-- Give the next number to a request. -/
def countRequest : Transmitter := { tx with requests := tx.requests + 1 }

/-- What `sCurrentTxPacket` points to. -/
def currentPacket : RadioFrame := tx.sTransmitBuffer (tx.sCurrentTxPacket.getD 0)

/-- An acknowledgment is requested by the current packet. -/
def ackRequired : Bool := ackRequiredIn tx.currentPacket.frame.mPsdu

/-- `txWaitingForAck`. -/
def txWaitingForAck : Bool := getInternalFlag tx.flags [.ongoingTxData] && tx.ackRequired

/-- A transmission is under way, or it has ended and waits to be reported. -/
def isBusy : Bool :=
  getInternalFlag tx.flags [.ongoingTxData] || getInternalFlag tx.flags radioTxEvents

/-- Put the end of the current transmission on record. -/
def recordEnd (cause : TxEnd) : Transmitter :=
  { tx with ended := tx.ended ++ [(tx.currentPacket.iid, cause)] }

/-- An `OT_ASSERT`. -/
def otAssert (assertion : TxAssertion) (holds : Bool) : Transmitter :=
  if holds then tx else { tx with failedAsserts := tx.failedAsserts ++ [assertion] }

/-! ## Handlers of RAIL events -/

/-- `packetSentCallback`. -/
def packetSentCallback (isAck : Bool) : Transmitter :=
  if isAck then tx.setFlag [.ongoingTxAck] false
  else if getInternalFlag tx.flags [.ongoingTxData] then
    let tx := tx.setFlag [.currentTxUseCsma] false
    if tx.txWaitingForAck then tx.setFlag [.waitingForAck] true
    else
      ((tx.recordEnd .packetSent).setFlag [.txSuccess] true).setFlag
        [.ongoingTxData, .scheduledTxStarted] false
  else tx

/-- `txFailedCallback`; `cause` is the reason for which it is called for a transmission. -/
def txFailedCallback (isAck : Bool) (status : Flag) (cause : TxEnd) : Transmitter :=
  if isAck then tx.setFlag [.ongoingTxAck] false
  else if getInternalFlag tx.flags [.ongoingTxData] then
    let tx := tx.recordEnd cause
    let tx :=
      if status = .txCcaFailed then
        (tx.setFlag [.txCcaFailed] true).setFlag [.currentTxUseCsma] false
      else tx.setFlag [.txFailed] true
    tx.setFlag [.ongoingTxData, .waitingForAck, .scheduledTxStarted] false
  else tx

/-- `ackTimeoutCallback`. -/
def ackTimeoutCallback : Transmitter :=
  let tx := (tx.otAssert .txWaitingForAck tx.txWaitingForAck).otAssert .waitingForAck
    (getInternalFlag tx.flags [.waitingForAck])
  let tx := (tx.recordEnd .ackTimeout).setFlag [.txNoAck] true
  (tx.setFlag [.ongoingTxData, .scheduledTxStarted] false).setFlag [.waitingForAck] false

/-- `schedulerEventCallback`, for a scheduler error. -/
def schedulerEventCallback : Transmitter :=
  let tx := tx.setFlag [.scheduledRxPending, .scheduledTxPending, .scheduledTxStarted] false
  let tx :=
    if getInternalFlag tx.flags [.ongoingTxAck] then tx.txFailedCallback true .txFailed .aborted
    else tx
  let tx :=
    if getInternalFlag tx.flags [.ongoingTxData] then
      tx.txFailedCallback false .txCcaFailed .schedulerError
    else tx
  if getInternalFlag tx.flags [.waitingForAck] then tx.ackTimeoutCallback else tx

/-- The ACK branch of `packetReceivedCallback`, for a packet that passed the length and type
check. -/
def ackReceived (packet : RxPacket) : Transmitter :=
  let tx := { tx with sReceiveAckPsdu := packet.psdu }
  if tx.txWaitingForAck && dsnIn packet.psdu == dsnIn tx.currentPacket.frame.mPsdu &&
      packet.timestampValid then
    ((tx.recordEnd .ackReceived).setFlag [.txSuccess] true).setFlag
      [.waitingForAck, .ongoingTxData, .scheduledTxStarted] false
  else tx

/-- The events of `RAILCb_Generic` that complete a transmission. -/
def completionEvents (aEvents : TxEvents) : Transmitter :=
  if aEvents.txPacketSent then tx.packetSentCallback false
  else if aEvents.txChannelBusy then tx.txFailedCallback false .txCcaFailed .channelBusy
  else if aEvents.txBlocked then tx.txFailedCallback false .txFailed .blocked
  else if aEvents.txAborted then tx.txFailedCallback false .txFailed .aborted
  else tx

/-- The scheduled-receive and scheduled-transmit events of `RAILCb_Generic`. -/
def scheduledEvents (aEvents : TxEvents) : Transmitter :=
  if getInternalFlag tx.flags [.scheduledRxPending] then
    let tx := if aEvents.scheduledStarted then tx.setFlag [.scheduledRxStarted] true else tx
    if aEvents.rxScheduledRxEnd || aEvents.rxScheduledRxMissed then
      tx.setFlag [.scheduledRxPending, .scheduledRxStarted] false
    else tx
  else if aEvents.scheduledStarted then
    (tx.setFlag [.scheduledTxStarted] true).setFlag [.scheduledTxPending] false
  else if aEvents.txScheduledTxMissed then
    (tx.setFlag [.scheduledTxPending] false).txFailedCallback false .txSchedulerError
      .scheduledTxMissed
  else tx

/-- The events of `RAILCb_Generic` for an outgoing ACK. -/
def txackEvents (aEvents : TxEvents) : Transmitter :=
  let tx := if aEvents.txackPacketSent then tx.packetSentCallback true else tx
  let tx := if aEvents.txackAborted then tx.txFailedCallback true .txFailed .aborted else tx
  if aEvents.txackBlocked then tx.txFailedCallback true .txFailed .aborted else tx

/-- `SL_RAIL_EVENT_RX_ACK_TIMEOUT` in `RAILCb_Generic`. -/
def ackTimeoutEvent (aEvents : TxEvents) : Transmitter :=
  if aEvents.rxAckTimeout && getInternalFlag tx.flags [.waitingForAck] then tx.ackTimeoutCallback
  else tx

/-- `SL_RAIL_EVENT_SCHEDULER_STATUS` in `RAILCb_Generic`. -/
def schedulerEvent (aEvents : TxEvents) : Transmitter :=
  if aEvents.schedulerError then tx.schedulerEventCallback else tx

/-! ## Starting and completing a transmission -/

/-- Change the buffer with the given index. -/
def updateBuffer (index : ℕ) (change : RadioFrame → RadioFrame) : Transmitter :=
  { tx with
    sTransmitBuffer :=
      Function.update tx.sTransmitBuffer index (change (tx.sTransmitBuffer index)) }

/-- The priority that `otPlatRadioTransmit` gives to a frame. -/
def nextTxPriority (config : Config) (packet : RadioFrame) : ℕ :=
  let priority :=
    if !packet.frame.mIsARetx then config.radioPrioTxMin
    else if packet.currentRadioTxPriority > config.radioPrioTxStep then
      packet.currentRadioTxPriority - config.radioPrioTxStep
    else packet.currentRadioTxPriority
  if priority < config.radioPrioTxMax then config.radioPrioTxMax else priority

/-- The assertions and the priority update of `otPlatRadioTransmit` before the check for a busy
radio. -/
def acceptFrame (config : Config) (iid aFrame : ℕ) : Transmitter :=
  let tx := tx.otAssert .txBufIndex (decide (txBufIndex iid < config.radioRequestBufferCount))
  let tx := tx.otAssert .transmitBuffer (aFrame == txBufIndex iid)
  let tx := tx.updateBuffer (txBufIndex iid) fun packet ↦
    { packet with currentRadioTxPriority := nextTxPriority config packet }
  tx.otAssert .iid
    (!config.multipan || (iid != radioBcastIid && decide (iid < config.radioInterfaceCount)))

/-- `otPlatRadioTransmit` from its assertion to the choice of CSMA. -/
def makeCurrent (iid request : ℕ) : Transmitter :=
  let tx := tx.otAssert .noOngoingTx (!getInternalFlag tx.flags [.ongoingTxData])
  let tx := tx.setFlag radioTxEvents false
  let tx := tx.updateBuffer (txBufIndex iid) fun packet ↦ { packet with iid }
  let tx := { tx with sCurrentTxPacket := some (txBufIndex iid), currentRequest := request }
  tx.setFlag [.currentTxUseCsma] tx.currentPacket.frame.mCsmaCaEnabled

/-- Give the current packet another security header. -/
def setSecurity (mSecurity : FrameSecurity) : Transmitter :=
  tx.updateBuffer (tx.sCurrentTxPacket.getD 0) fun packet ↦
    { packet with frame := { packet.frame with mSecurity } }

/-- The end of `txCurrentPacket`, once RAIL has answered. -/
def txStartResult (rail : RailResults) : Transmitter :=
  if rail.startTx then
    if tx.currentPacket.frame.mTxDelay = 0 then tx else tx.setFlag [.scheduledTxPending] true
  else tx.txFailedCallback false .txFailed .startFailed

/-- `txCurrentPacket`. -/
def txCurrentPacket (rail : RailResults) : Transmitter :=
  let tx :=
    if getInternalFlag tx.flags [.scheduledRxPending] then
      tx.setFlag [.scheduledRxPending, .scheduledRxStarted] false
    else tx
  tx.txStartResult rail

/-- `otPlatRadioTransmit` from setting `FLAG_ONGOING_TX_DATA` on. -/
def startTransmission (rail : RailResults) : Transmitter :=
  let tx := { tx with started := tx.started ++ [tx.currentPacket.iid] }
  let tx := (tx.setFlag [.ongoingTxData] true).txCurrentPacket rail
  if getInternalFlag tx.flags [.txFailed] then
    { tx with txStarteds := tx.txStarteds ++ [tx.currentPacket.iid] }
  else tx

/-- The status that `processTxComplete` reports, and the flag that it clears. -/
def completionStatus : OtError × Flag :=
  if getInternalFlag tx.flags [.txSuccess] then (.none, .txSuccess)
  else if getInternalFlag tx.flags [.txCcaFailed] then (.channelAccessFailure, .txCcaFailed)
  else if getInternalFlag tx.flags [.txNoAck] then (.noAck, .txNoAck)
  else (.abort, .txFailed)

/-- `processTxComplete` clears the delays of the current packet. -/
def clearTxDelay : Transmitter :=
  tx.updateBuffer (tx.sCurrentTxPacket.getD 0) fun packet ↦
    { packet with frame := { packet.frame with mTxDelayBaseTime := 0, mTxDelay := 0 } }

/-- The call of `otPlatRadioTxDone` in `processTxComplete`. -/
def otPlatRadioTxDone (aError : OtError) : Transmitter :=
  { tx with
    txDones := tx.txDones ++ [{
      iid := tx.currentPacket.iid
      aFrame := tx.currentPacket.frame
      aAckFrame :=
        if aError = .none ∧ tx.ackRequired = true then some tx.sReceiveAckPsdu else none
      aError
      request := tx.currentRequest }] }

/-- `processTxComplete`. -/
def processTxComplete : Transmitter :=
  if getInternalFlag tx.flags radioTxEvents then
    (tx.setFlag [tx.completionStatus.2] false).clearTxDelay.otPlatRadioTxDone
      tx.completionStatus.1
  else tx

/-! ## What RAIL events leave alone -/

/-- The transmit path without the variables that RAIL events change. -/
def withoutEvents : Transmitter :=
  { tx with
    flags := fun _ ↦ false
    sReceiveAckPsdu := []
    ended := []
    txStarteds := []
    failedAsserts := [] }

@[simp]
theorem setFlag_withoutEvents (mask : List Flag) (val : Bool) :
    (tx.setFlag mask val).withoutEvents = tx.withoutEvents := rfl

@[simp]
theorem recordEnd_withoutEvents (cause : TxEnd) :
    (tx.recordEnd cause).withoutEvents = tx.withoutEvents := rfl

@[simp]
theorem otAssert_withoutEvents (assertion : TxAssertion) (holds : Bool) :
    (tx.otAssert assertion holds).withoutEvents = tx.withoutEvents := by
  unfold otAssert
  split <;> rfl

@[simp]
theorem packetSentCallback_withoutEvents (isAck : Bool) :
    (tx.packetSentCallback isAck).withoutEvents = tx.withoutEvents := by
  simp [packetSentCallback, apply_ite withoutEvents]

@[simp]
theorem txFailedCallback_withoutEvents (isAck : Bool) (status : Flag) (cause : TxEnd) :
    (tx.txFailedCallback isAck status cause).withoutEvents = tx.withoutEvents := by
  simp [txFailedCallback, apply_ite withoutEvents]

@[simp]
theorem ackTimeoutCallback_withoutEvents :
    tx.ackTimeoutCallback.withoutEvents = tx.withoutEvents := by
  simp [ackTimeoutCallback]

@[simp]
theorem schedulerEventCallback_withoutEvents :
    tx.schedulerEventCallback.withoutEvents = tx.withoutEvents := by
  simp [schedulerEventCallback, apply_ite withoutEvents]

@[simp]
theorem ackReceived_withoutEvents (packet : RxPacket) :
    (tx.ackReceived packet).withoutEvents = tx.withoutEvents := by
  unfold ackReceived
  simp only
  split <;> rfl

/-- The events of a RAIL callback that come before a received packet. -/
@[simp]
theorem earlyEvents_withoutEvents (aEvents : TxEvents) :
    ((tx.completionEvents aEvents).scheduledEvents aEvents).withoutEvents = tx.withoutEvents := by
  simp [scheduledEvents, completionEvents, apply_ite withoutEvents]

/-- The events of a RAIL callback that come behind a received packet. -/
@[simp]
theorem lateEvents_withoutEvents (aEvents : TxEvents) :
    (((tx.txackEvents aEvents).ackTimeoutEvent aEvents).schedulerEvent aEvents).withoutEvents =
      tx.withoutEvents := by
  simp [schedulerEvent, ackTimeoutEvent, txackEvents, apply_ite withoutEvents]

@[simp]
theorem txCurrentPacket_withoutEvents (rail : RailResults) :
    (tx.txCurrentPacket rail).withoutEvents = tx.withoutEvents := by
  simp [txCurrentPacket, txStartResult, apply_ite withoutEvents]

theorem startTransmission_withoutEvents (rail : RailResults) :
    (tx.startTransmission rail).withoutEvents =
      { tx with started := tx.started ++ [tx.currentPacket.iid] }.withoutEvents := by
  have hstarted : ∀ tx : Transmitter, (tx.txCurrentPacket rail).withoutEvents = tx.withoutEvents :=
    fun tx ↦ txCurrentPacket_withoutEvents tx rail
  unfold startTransmission
  simp only
  split
  · exact hstarted _
  · exact hstarted _

/-! ## Parts of the packets -/

section Parts

variable {α : Type} (part : RadioFrame → α)

/-- One part of the packet in each of the transmit buffers. -/
def inBuffers (index : ℕ) : α := part (tx.sTransmitBuffer index)

/-- A change of a packet that leaves the part alone. -/
theorem updateBuffer_inBuffers (index : ℕ) {change : RadioFrame → RadioFrame}
    (hchange : ∀ packet, part (change packet) = part packet) :
    (tx.updateBuffer index change).inBuffers part = tx.inBuffers part := by
  funext other
  by_cases hother : other = index
  · subst hother
    simpa [inBuffers, updateBuffer] using hchange _
  · simp [inBuffers, updateBuffer, hother]

theorem inBuffers_of_withoutEvents {next : Transmitter}
    (h : next.withoutEvents = tx.withoutEvents) : next.inBuffers part = tx.inBuffers part :=
  (congrArg (inBuffers · part) h :)

theorem makeCurrent_inBuffers
    (hiid : ∀ (packet : RadioFrame) iid, part { packet with iid } = part packet)
    (iid request : ℕ) : (tx.makeCurrent iid request).inBuffers part = tx.inBuffers part := by
  have hbuffer : (((tx.otAssert .noOngoingTx
      (!getInternalFlag tx.flags [.ongoingTxData])).setFlag radioTxEvents false).updateBuffer
        (txBufIndex iid) fun packet ↦ { packet with iid }).inBuffers part = tx.inBuffers part := by
    rw [updateBuffer_inBuffers]
    · exact inBuffers_of_withoutEvents tx part (otAssert_withoutEvents ..)
    · exact fun packet ↦ hiid packet iid
  exact hbuffer

theorem startTransmission_inBuffers (rail : RailResults) :
    (tx.startTransmission rail).inBuffers part = tx.inBuffers part :=
  (congrArg (inBuffers · part) (tx.startTransmission_withoutEvents rail) :)

theorem processTxComplete_inBuffers
    (hdelays : ∀ (packet : RadioFrame) mTxDelayBaseTime mTxDelay,
      part { packet with frame := { packet.frame with mTxDelayBaseTime, mTxDelay } } =
        part packet) : tx.processTxComplete.inBuffers part = tx.inBuffers part := by
  unfold processTxComplete
  split
  · change ((tx.setFlag [tx.completionStatus.2] false).clearTxDelay).inBuffers part = _
    unfold clearTxDelay
    rw [updateBuffer_inBuffers]
    · rfl
    · exact fun packet ↦ hdelays packet 0 0
  · rfl

end Parts

end Transmitter

end OtEfr32.Radio
