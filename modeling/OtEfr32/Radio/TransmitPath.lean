import OtEfr32.Radio.Transmitter

/-!
# The transmit path with coexistence

The transmit path of a build with `SL_CATALOG_RAIL_UTIL_COEX_PRESENT`.  A packet traffic arbiter
(PTA) decides when a packet may go to RAIL: at once, later through `onPtaGrantTx`, or not at all.
Beside the transmitter, the state has what the handlers tell the rest of the system: the events for
`handlePhyStackEvent` that concern a transmission, the debug counters, and the calls of
`sl_rail_yield_radio`.

Each handler is that of the transmitter with these effects added, which its lemma `_tx` says.  Left
out are the other stack events (those of the receive path, `SIGNAL_DETECTED`, `TICK`, and the
`TX_IDLED` and `RX_IDLED` of `radioSetIdle`) and the coexistence counters.
-/

namespace OtEfr32.Radio

/-- What `handlePhyStackEvent` answers to `TX_PENDED_MAC`. -/
inductive PtaStatus where
  /-- `SL_RAIL_UTIL_IEEE802154_STACK_STATUS_SUCCESS`. -/
  | success
  /-- `SL_RAIL_UTIL_IEEE802154_STACK_STATUS_CB_PENDING`. -/
  | cbPending
  /-- `SL_RAIL_UTIL_IEEE802154_STACK_STATUS_HOLDOFF`. -/
  | holdoff
  /-- Any other status, for which `tryTxCurrentPacket` has no branch. -/
  | other
  deriving DecidableEq, Repr

/-- A call of `onPtaGrantTx` by the PTA. -/
structure PtaGrant where
  /-- `ptaStatus` is `SL_RAIL_UTIL_COEX_REQCB_GRANTED`. -/
  granted : Bool := true
  /-- What RAIL answers, if the call starts a transmission. -/
  rail : RailResults := {}
  deriving DecidableEq, Repr

/-- What the PTA does with `TX_PENDED_MAC`. -/
structure PtaAnswer where
  status : PtaStatus := .success
  /-- The calls of `onPtaGrantTx` before the PTA answers. -/
  grants : List PtaGrant := []
  deriving DecidableEq, Repr

/-- The events of a transmission that `handlePhyStackEvent` is told of, with their supplements. -/
inductive StackEvent where
  | txPendedMac (answer : PtaStatus)
  | txPendedPhy (useCsma : Bool)
  /-- A check of the channel begins. -/
  | txCcaSoon
  /-- The channel was busy, and will be checked again. -/
  | txCcaBusy
  | txStarted
  | txAckWaiting
  | txEnded
  | txBlocked (ackRequested : Bool)
  | txAborted (ackRequested : Bool)
  | txAckReceived (framePendingInAck : Bool)
  | txAckTimedout
  deriving DecidableEq, Repr

/-- The part of `efr32RadioCounters` that the transmit path counts. -/
structure RailDebugCounters where
  mRailPlatTxTriggered : ℕ := 0
  mRailTxStarted : ℕ := 0
  mRailTxStartFailed : ℕ := 0
  mRailEventPacketSent : ℕ := 0
  mRailEventAcksReceived : ℕ := 0
  mRailEventChannelBusy : ℕ := 0
  mRailEventTxAbort : ℕ := 0
  mRailEventNoAck : ℕ := 0
  mRailEventSchedulerStatusError : ℕ := 0
  mRailEventsScheduledTxTriggeredCount : ℕ := 0
  mRailEventsScheduledTxStartedCount : ℕ := 0
  mRailPlatRadioTxDoneCbCount : ℕ := 0
  deriving DecidableEq, Repr

/-- The assertions of `txCurrentPacket`, `onPtaGrantTx` and `tryTxCurrentPacket`. -/
inductive CoexAssertion where
  /-- `OT_ASSERT(getInternalFlag(FLAG_ONGOING_TX_DATA))`. -/
  | ongoingTxData
  /-- `OT_ASSERT(sCurrentTxPacket != NULL)`. -/
  | currentTxPacket
  /-- `OT_ASSERT(ptaStatus == SL_RAIL_UTIL_COEX_REQCB_GRANTED)`. -/
  | ptaStatus
  deriving DecidableEq, Repr

/-- The state of the transmit path. -/
structure TransmitPath where
  tx : Transmitter := {}
  ptaGntEventReported : Bool := false
  emPendingData : Bool := false
  railDebugCounters : RailDebugCounters := {}
  /-- History: the calls of `handlePhyStackEvent`. -/
  stackEvents : List StackEvent := []
  /-- History: the number of calls of `sl_rail_yield_radio`. -/
  yields : ℕ := 0
  /-- History: the requests whose packets `txCurrentPacket` has handed to RAIL. -/
  railStarts : List ℕ := []
  /-- History: the assertions that failed. -/
  failedAsserts : List CoexAssertion := []

/-- The frame type bits of a PSDU are `IEEE802154_FRAME_TYPE_COMMAND`. -/
def isCommandIn (psdu : List ℕ) : Bool := psdu.getD 0 0 &&& 0x7 == 0x3

/-- `IEEE802154_FRAME_FLAG_FRAME_PENDING`, a bit of the first byte of a PSDU. -/
def framePendingIn (psdu : List ℕ) : Bool := psdu.getD 0 0 &&& 0x10 != 0

/-- `txIsDataRequest`. -/
def Transmitter.txIsDataRequest (tx : Transmitter) : Bool :=
  getInternalFlag tx.flags [.ongoingTxData] && isCommandIn tx.currentPacket.frame.mPsdu

namespace TransmitPath

variable (path : TransmitPath)

/-- Change the transmitter. -/
def mapTx (change : Transmitter → Transmitter) : TransmitPath :=
  { path with tx := change path.tx }

/-- Change the debug counters. -/
def count (change : RailDebugCounters → RailDebugCounters) : TransmitPath :=
  { path with railDebugCounters := change path.railDebugCounters }

/-- `handlePhyStackEvent`. -/
def handlePhyStackEvent (stackEvent : StackEvent) : TransmitPath :=
  { path with stackEvents := path.stackEvents ++ [stackEvent] }

/-- `sl_rail_yield_radio`. -/
def yieldRadio : TransmitPath := { path with yields := path.yields + 1 }

/-- An `OT_ASSERT`. -/
def otAssert (assertion : CoexAssertion) (holds : Bool) : TransmitPath :=
  if holds then path else { path with failedAsserts := path.failedAsserts ++ [assertion] }

/-- The radio is yielded now if it was kept for the answer to a data request. -/
def yieldPendingData : TransmitPath :=
  if path.emPendingData then { path.yieldRadio with emPendingData := false } else path

/-! ## Handlers of RAIL events -/

/-- `packetSentCallback`. -/
def packetSentCallback (isAck : Bool) : TransmitPath :=
  if isAck then (path.mapTx fun tx ↦ tx.packetSentCallback true).yieldPendingData
  else if getInternalFlag path.tx.flags [.ongoingTxData] then
    let path := if path.tx.txWaitingForAck then path.handlePhyStackEvent .txAckWaiting
      else (path.handlePhyStackEvent .txEnded).yieldRadio
    (path.mapTx fun tx ↦ tx.packetSentCallback false).count fun counters ↦
      { counters with mRailEventPacketSent := counters.mRailEventPacketSent + 1 }
  else path

/-- The counter of a failure. -/
def countFailure (status : Flag) : TransmitPath :=
  path.count fun counters ↦
    if status = .txCcaFailed then
      { counters with mRailEventChannelBusy := counters.mRailEventChannelBusy + 1 }
    else { counters with mRailEventTxAbort := counters.mRailEventTxAbort + 1 }

/-- `txFailedCallback`. -/
def txFailedCallback (isAck : Bool) (status : Flag) (cause : TxEnd) : TransmitPath :=
  if isAck then path.mapTx fun tx ↦ tx.txFailedCallback true status cause
  else if getInternalFlag path.tx.flags [.ongoingTxData] then
    ((path.mapTx fun tx ↦ tx.txFailedCallback false status cause).countFailure status).yieldRadio
  else path

/-- `ackTimeoutCallback`. -/
def ackTimeoutCallback : TransmitPath :=
  let path := (path.mapTx Transmitter.ackTimeoutCallback).count fun counters ↦
    { counters with mRailEventNoAck := counters.mRailEventNoAck + 1 }
  { (path.handlePhyStackEvent .txAckTimedout).yieldRadio with emPendingData := false }

/-- `schedulerEventCallback`, for a scheduler error. -/
def schedulerEventCallback : TransmitPath :=
  let path := path.mapTx fun tx ↦
    tx.setFlag [.scheduledRxPending, .scheduledTxPending, .scheduledTxStarted] false
  let path :=
    if getInternalFlag path.tx.flags [.ongoingTxAck] then
      path.txFailedCallback true .txFailed .aborted
    else path
  let path :=
    if getInternalFlag path.tx.flags [.ongoingTxData] then
      (path.handlePhyStackEvent (.txBlocked path.tx.txWaitingForAck)).txFailedCallback false
        .txCcaFailed .schedulerError
    else path
  let path :=
    if getInternalFlag path.tx.flags [.waitingForAck] then path.ackTimeoutCallback else path
  path.count fun counters ↦ { counters with
    mRailEventSchedulerStatusError := counters.mRailEventSchedulerStatusError + 1 }

/-- The packet is the acknowledgment that is awaited. -/
def answersCurrent (packet : RxPacket) : Bool :=
  path.tx.txWaitingForAck && dsnIn packet.psdu == dsnIn path.tx.currentPacket.frame.mPsdu

/-- What the ACK branch of `packetReceivedCallback` does for the awaited acknowledgment. -/
def acceptAck (packet : RxPacket) : TransmitPath :=
  let path := (path.mapTx fun tx ↦ tx.ackReceived packet).handlePhyStackEvent
    (.txAckReceived (framePendingIn packet.psdu))
  if path.tx.txIsDataRequest && framePendingIn packet.psdu then
    { path with emPendingData := true }
  else path

/-- The ACK branch of `packetReceivedCallback`, for a packet that passed the length and type
check. -/
def ackReceived (packet : RxPacket) : TransmitPath :=
  let path := path.count fun counters ↦
    { counters with mRailEventAcksReceived := counters.mRailEventAcksReceived + 1 }
  -- the check of the timestamp jumps behind the last yield
  if path.answersCurrent packet && !packet.timestampValid then
    path.mapTx fun tx ↦ tx.ackReceived packet
  else
    let path := if path.answersCurrent packet then path.acceptAck packet
      else path.mapTx fun tx ↦ tx.ackReceived packet
    if path.tx.txIsDataRequest then path else path.yieldRadio

/-- `packetReceivedCallback`; `stored` says that a packet other than an ACK passes the checks and
finds room in the queue. -/
def packetReceivedCallback (packet : RxPacket) (stored : Bool) : TransmitPath :=
  if packet.valid = false then path
  else if packet.isAck then
    if 4 ≤ packet.psdu.length + 2 ∧ isAckIn packet.psdu = true then path.ackReceived packet
    else path
  else if stored then
    if ackRequiredIn packet.psdu then path.mapTx fun tx ↦ tx.setFlag [.ongoingTxAck] true
    else path.yieldPendingData
  else path

/-- The pre-completion events of `RAILCb_Generic`, in their logical order. -/
def preCompletionEvents (aEvents : TxEvents) : TransmitPath :=
  let path := if aEvents.txStartCca then path.handlePhyStackEvent .txCcaSoon else path
  let path := if aEvents.txCcaRetry then path.handlePhyStackEvent .txCcaBusy else path
  if aEvents.txChannelClear then path.handlePhyStackEvent .txStarted else path

/-- The events of `RAILCb_Generic` that complete a transmission, or tell how far it is. -/
def completionEvents (aEvents : TxEvents) : TransmitPath :=
  if aEvents.txPacketSent then path.packetSentCallback false
  else if aEvents.txChannelBusy then
    (path.handlePhyStackEvent (.txBlocked path.tx.txWaitingForAck)).txFailedCallback false
      .txCcaFailed .channelBusy
  else if aEvents.txBlocked then
    (path.handlePhyStackEvent (.txBlocked path.tx.txWaitingForAck)).txFailedCallback false
      .txFailed .blocked
  else if aEvents.txAborted then
    (path.handlePhyStackEvent (.txAborted path.tx.txWaitingForAck)).txFailedCallback false
      .txFailed .aborted
  else path.preCompletionEvents aEvents

/-- The scheduled-receive and scheduled-transmit events of `RAILCb_Generic`. -/
def scheduledEvents (aEvents : TxEvents) : TransmitPath :=
  if getInternalFlag path.tx.flags [.scheduledRxPending] then
    let path := if aEvents.scheduledStarted then
        path.mapTx fun tx ↦ tx.setFlag [.scheduledRxStarted] true
      else path
    if aEvents.rxScheduledRxEnd || aEvents.rxScheduledRxMissed then
      -- `radioSetIdle` yields the radio
      (path.mapTx fun tx ↦ tx.setFlag [.scheduledRxPending, .scheduledRxStarted] false).yieldRadio
    else path
  else if aEvents.scheduledStarted then
    (path.mapTx fun tx ↦ (tx.setFlag [.scheduledTxStarted] true).setFlag
      [.scheduledTxPending] false).count fun counters ↦ { counters with
        mRailEventsScheduledTxStartedCount := counters.mRailEventsScheduledTxStartedCount + 1 }
  else if aEvents.txScheduledTxMissed then
    (path.mapTx fun tx ↦ tx.setFlag [.scheduledTxPending] false).txFailedCallback false
      .txSchedulerError .scheduledTxMissed
  else path

/-- The events of `RAILCb_Generic` for an outgoing ACK. -/
def txackEvents (aEvents : TxEvents) : TransmitPath :=
  let path := if aEvents.txackPacketSent then path.packetSentCallback true else path
  let path := if aEvents.txackAborted then path.txFailedCallback true .txFailed .aborted else path
  if aEvents.txackBlocked then path.txFailedCallback true .txFailed .aborted else path

/-- `SL_RAIL_EVENT_RX_ACK_TIMEOUT` in `RAILCb_Generic`. -/
def ackTimeoutEvent (aEvents : TxEvents) : TransmitPath :=
  if aEvents.rxAckTimeout && getInternalFlag path.tx.flags [.waitingForAck] then
    path.ackTimeoutCallback
  else path

/-- `SL_RAIL_EVENT_SCHEDULER_STATUS` in `RAILCb_Generic`. -/
def schedulerEvent (aEvents : TxEvents) : TransmitPath :=
  if aEvents.schedulerError then path.schedulerEventCallback else path

/-- `SL_RAIL_EVENT_RX_PACKET_RECEIVED` in `RAILCb_Generic`. -/
def rxPacketReceivedEvent : Option (RxPacket × Bool) → TransmitPath
  | some (packet, stored) => path.packetReceivedCallback packet stored
  | none => path

/-- `RAILCb_Generic`. -/
def railCbGeneric (aEvents : TxEvents) (rxPacketReceived : Option (RxPacket × Bool)) :
    TransmitPath :=
  let path := (path.completionEvents aEvents).scheduledEvents aEvents
  let path := path.rxPacketReceivedEvent rxPacketReceived
  ((path.txackEvents aEvents).ackTimeoutEvent aEvents).schedulerEvent aEvents

/-! ## Starting and completing a transmission -/

/-- The end of `txCurrentPacket`, once RAIL has answered. -/
def txStartResult (rail : RailResults) : TransmitPath :=
  if rail.startTx then
    let path := if path.tx.currentPacket.frame.mTxDelay = 0 then path
      else (path.mapTx fun tx ↦ tx.setFlag [.scheduledTxPending] true).count fun counters ↦
        { counters with mRailEventsScheduledTxTriggeredCount :=
            counters.mRailEventsScheduledTxTriggeredCount + 1 }
    (path.handlePhyStackEvent .txStarted).count fun counters ↦
      { counters with mRailTxStarted := counters.mRailTxStarted + 1 }
  else
    let path := path.count fun counters ↦
      { counters with mRailTxStartFailed := counters.mRailTxStartFailed + 1 }
    (path.handlePhyStackEvent (.txBlocked path.tx.ackRequired)).txFailedCallback false .txFailed
      .startFailed

/-- `txCurrentPacket`. -/
def txCurrentPacket (rail : RailResults) : TransmitPath :=
  let path := (path.otAssert .ongoingTxData
    (getInternalFlag path.tx.flags [.ongoingTxData])).otAssert .currentTxPacket
      path.tx.sCurrentTxPacket.isSome
  let path := (path.count fun counters ↦
    { counters with mRailPlatTxTriggered := counters.mRailPlatTxTriggered + 1
      }).handlePhyStackEvent (.txPendedPhy (getInternalFlag path.tx.flags [.currentTxUseCsma]))
  let path :=
    if getInternalFlag path.tx.flags [.scheduledRxPending] then
      path.mapTx fun tx ↦ tx.setFlag [.scheduledRxPending, .scheduledRxStarted] false
    else path
  let path := { path with railStarts := path.railStarts ++ [path.tx.currentRequest] }
  path.txStartResult rail

/-- `onPtaGrantTx`. -/
def onPtaGrantTx (grant : PtaGrant) : TransmitPath :=
  -- only the first grant counts
  if path.ptaGntEventReported then path
  else
    let path := { path with ptaGntEventReported := true }.otAssert .ptaStatus grant.granted
    (path.mapTx fun tx ↦ tx.setFlag [.currentTxUseCsma] false).txCurrentPacket grant.rail

/-- `tryTxCurrentPacket`. -/
def tryTxCurrentPacket (pta : PtaAnswer) (rail : RailResults) : TransmitPath :=
  let path := path.otAssert .ongoingTxData (getInternalFlag path.tx.flags [.ongoingTxData])
  let path := { path with ptaGntEventReported := false }.handlePhyStackEvent
    (.txPendedMac pta.status)
  let path := pta.grants.foldl onPtaGrantTx path
  match pta.status with
  | .success => path.txCurrentPacket rail
  -- `onPtaGrantTx` will take over, and might already have
  | .cbPending | .other => path
  | .holdoff => path.txFailedCallback false .txFailed .startFailed

/-- `otPlatRadioTransmit` from setting `FLAG_ONGOING_TX_DATA` on. -/
def startTransmission (pta : PtaAnswer) (rail : RailResults) : TransmitPath :=
  let path := path.mapTx fun tx ↦
    { tx with started := tx.started ++ [tx.currentPacket.iid] }.setFlag [.ongoingTxData] true
  let path := path.tryTxCurrentPacket pta rail
  if getInternalFlag path.tx.flags [.txFailed] then
    path.mapTx fun tx ↦ { tx with txStarteds := tx.txStarteds ++ [tx.currentPacket.iid] }
  else path

/-- What the surroundings of a call of `otPlatRadioTransmit` decide. -/
structure Surroundings where
  /-- The Green Power interface buffers the frame. -/
  gpBuffers : Bool := false
  /-- An energy scan is in progress or completed. -/
  scanning : Bool := false
  /-- The security header that `radioProcessTransmitSecurity` leaves. -/
  mSecurity : FrameSecurity := {}
  pta : PtaAnswer := {}
  rail : RailResults := {}
  deriving DecidableEq, Repr

/-- `otPlatRadioTransmit`, called by the stack or for a queued command.  A busy radio queues the
request, which leaves the transmit path alone. -/
def otPlatRadioTransmit (config : Config) (iid : ℕ) (around : Surroundings) : TransmitPath :=
  let request := path.tx.requests
  let path := path.mapTx Transmitter.countRequest
  if config.canAccessPal = false then path
  else if config.multipan && around.gpBuffers then path
  else
    let path := path.mapTx fun tx ↦ tx.acceptFrame config iid (txBufIndex iid)
    if config.multipan && (around.scanning || path.tx.isBusy) then path
    else if config.hasBandConfig (path.tx.sTransmitBuffer (txBufIndex iid)).frame.mChannel then
      (path.mapTx fun tx ↦ (tx.makeCurrent iid request).setSecurity
        around.mSecurity).startTransmission around.pta around.rail
    else path

/-- `processTxComplete`. -/
def processTxComplete : TransmitPath :=
  if getInternalFlag path.tx.flags radioTxEvents then
    (path.mapTx Transmitter.processTxComplete).count fun counters ↦ { counters with
      mRailPlatRadioTxDoneCbCount := counters.mRailPlatRadioTxDoneCbCount + 1 }
  else path

end TransmitPath

/-- What happens to the transmit path. -/
inductive PathEvent where
  /-- The stack writes a frame into the transmit buffer of an instance. -/
  | writeFrame (iid : ℕ) (aFrame : OtRadioFrame)
  | transmit (iid : ℕ) (around : TransmitPath.Surroundings)
  /-- `otPlatRadioReceiveAt` schedules a reception; `otPlatRadioReceive` or `otPlatRadioSleep`
  cancels it. -/
  | scheduleRx (pending : Bool)
  /-- The PTA calls `onPtaGrantTx`. -/
  | ptaGrant (grant : PtaGrant)
  | railEvents (aEvents : TxEvents) (rxPacketReceived : Option (RxPacket × Bool))
  | processTxComplete
  deriving DecidableEq, Repr

/-- One step of the transmit path. -/
def pathStep (config : Config) (path : TransmitPath) : PathEvent → Option TransmitPath
  | .writeFrame iid aFrame =>
    if config.isIid iid then
      some (path.mapTx fun tx ↦ tx.updateBuffer (txBufIndex iid) fun packet ↦
        { packet with frame := aFrame })
    else none
  | .transmit iid around =>
    if config.isIid iid then some (path.otPlatRadioTransmit config iid around) else none
  | .scheduleRx pending => some (path.mapTx fun tx ↦ tx.setFlag [.scheduledRxPending] pending)
  | .ptaGrant grant => some (path.onPtaGrantTx grant)
  | .railEvents aEvents rxPacketReceived => some (path.railCbGeneric aEvents rxPacketReceived)
  | .processTxComplete => some path.processTxComplete

namespace TransmitPath

/-! ## The handlers as handlers of the transmitter -/

variable (path : TransmitPath)

@[simp]
theorem mapTx_tx (change : Transmitter → Transmitter) :
    (path.mapTx change).tx = change path.tx := rfl

@[simp]
theorem count_tx (change : RailDebugCounters → RailDebugCounters) :
    (path.count change).tx = path.tx := rfl

@[simp]
theorem handlePhyStackEvent_tx (stackEvent : StackEvent) :
    (path.handlePhyStackEvent stackEvent).tx = path.tx := rfl

@[simp]
theorem yieldRadio_tx : path.yieldRadio.tx = path.tx := rfl

@[simp]
theorem countFailure_tx (status : Flag) : (path.countFailure status).tx = path.tx := rfl

@[simp]
theorem otAssert_tx (assertion : CoexAssertion) (holds : Bool) :
    (path.otAssert assertion holds).tx = path.tx := by
  unfold otAssert
  split <;> rfl

@[simp]
theorem yieldPendingData_tx : path.yieldPendingData.tx = path.tx := by
  unfold yieldPendingData
  split <;> rfl

@[simp]
theorem packetSentCallback_tx (isAck : Bool) :
    (path.packetSentCallback isAck).tx = path.tx.packetSentCallback isAck := by
  unfold packetSentCallback
  split
  case isTrue hack => simp [hack]
  split
  case isTrue hongoing => split <;> simp_all
  case isFalse hack hongoing => simp [Transmitter.packetSentCallback, hack, hongoing]

@[simp]
theorem txFailedCallback_tx (isAck : Bool) (status : Flag) (cause : TxEnd) :
    (path.txFailedCallback isAck status cause).tx =
      path.tx.txFailedCallback isAck status cause := by
  unfold txFailedCallback
  split
  case isTrue hack => simp [hack]
  split
  case isTrue hack hongoing => simp [hack]
  case isFalse hack hongoing => simp [Transmitter.txFailedCallback, hack, hongoing]

@[simp]
theorem ackTimeoutCallback_tx : path.ackTimeoutCallback.tx = path.tx.ackTimeoutCallback := rfl

@[simp]
theorem schedulerEventCallback_tx :
    path.schedulerEventCallback.tx = path.tx.schedulerEventCallback := by
  simp [schedulerEventCallback, Transmitter.schedulerEventCallback, apply_ite tx]

@[simp]
theorem acceptAck_tx (packet : RxPacket) :
    (path.acceptAck packet).tx = path.tx.ackReceived packet := by
  unfold acceptAck
  simp only
  split <;> rfl

@[simp]
theorem ackReceived_tx (packet : RxPacket) :
    (path.ackReceived packet).tx = path.tx.ackReceived packet := by
  simp [ackReceived, apply_ite tx]

@[simp]
theorem preCompletionEvents_tx (aEvents : TxEvents) :
    (path.preCompletionEvents aEvents).tx = path.tx := by
  simp [preCompletionEvents, apply_ite tx]

@[simp]
theorem completionEvents_tx (aEvents : TxEvents) :
    (path.completionEvents aEvents).tx = path.tx.completionEvents aEvents := by
  simp [completionEvents, Transmitter.completionEvents, apply_ite tx]

@[simp]
theorem scheduledEvents_tx (aEvents : TxEvents) :
    (path.scheduledEvents aEvents).tx = path.tx.scheduledEvents aEvents := by
  simp [scheduledEvents, Transmitter.scheduledEvents, apply_ite tx]

@[simp]
theorem txackEvents_tx (aEvents : TxEvents) :
    (path.txackEvents aEvents).tx = path.tx.txackEvents aEvents := by
  simp [txackEvents, Transmitter.txackEvents, apply_ite tx]

@[simp]
theorem ackTimeoutEvent_tx (aEvents : TxEvents) :
    (path.ackTimeoutEvent aEvents).tx = path.tx.ackTimeoutEvent aEvents := by
  simp [ackTimeoutEvent, Transmitter.ackTimeoutEvent, apply_ite tx]

@[simp]
theorem schedulerEvent_tx (aEvents : TxEvents) :
    (path.schedulerEvent aEvents).tx = path.tx.schedulerEvent aEvents := by
  simp [schedulerEvent, Transmitter.schedulerEvent, apply_ite tx]

@[simp]
theorem txStartResult_tx (rail : RailResults) :
    (path.txStartResult rail).tx = path.tx.txStartResult rail := by
  simp [txStartResult, Transmitter.txStartResult, apply_ite tx]

@[simp]
theorem txCurrentPacket_tx (rail : RailResults) :
    (path.txCurrentPacket rail).tx = path.tx.txCurrentPacket rail := by
  simp [txCurrentPacket, Transmitter.txCurrentPacket, apply_ite tx]

@[simp]
theorem processTxComplete_tx :
    path.processTxComplete.tx = path.tx.processTxComplete := by
  unfold processTxComplete
  split
  case isTrue => rfl
  case isFalse hnone => simp [Transmitter.processTxComplete, hnone]

/-! ## What the callbacks do to the transmitter -/

theorem packetSentCallback_eq {tx : Transmitter}
    (hongoing : getInternalFlag tx.flags [.ongoingTxData] = true) :
    tx.packetSentCallback false =
      if tx.txWaitingForAck then
        (tx.setFlag [.currentTxUseCsma] false).setFlag [.waitingForAck] true
      else (((tx.setFlag [.currentTxUseCsma] false).recordEnd .packetSent).setFlag
        [.txSuccess] true).setFlag [.ongoingTxData, .scheduledTxStarted] false := by
  simp only [Transmitter.packetSentCallback, hongoing, ↓reduceIte]
  rfl

/-- The awaited acknowledgment ends the transmission. -/
theorem ackReceived_of_answers {path : TransmitPath} {packet : RxPacket}
    (hanswers : path.answersCurrent packet = true) (hvalid : packet.timestampValid = true) :
    path.tx.ackReceived packet =
      ((({ path.tx with sReceiveAckPsdu := packet.psdu }.recordEnd .ackReceived).setFlag
        [.txSuccess] true).setFlag [.waitingForAck, .ongoingTxData, .scheduledTxStarted]
          false) := by
  have hcopied : (Transmitter.txWaitingForAck { path.tx with sReceiveAckPsdu := packet.psdu } &&
      dsnIn packet.psdu == dsnIn (Transmitter.currentPacket
        { path.tx with sReceiveAckPsdu := packet.psdu }).frame.mPsdu) = true := hanswers
  unfold Transmitter.ackReceived
  simp only [hcopied, hvalid, Bool.and_self, ↓reduceIte]

/-- An acknowledgment that is not awaited, or has no timestamp, ends nothing. -/
theorem ackReceived_of_not {path : TransmitPath} {packet : RxPacket}
    (hnot : (path.answersCurrent packet && packet.timestampValid) = false) :
    path.tx.ackReceived packet = { path.tx with sReceiveAckPsdu := packet.psdu } := by
  have hcopied : (Transmitter.txWaitingForAck { path.tx with sReceiveAckPsdu := packet.psdu } &&
      dsnIn packet.psdu == dsnIn (Transmitter.currentPacket
        { path.tx with sReceiveAckPsdu := packet.psdu }).frame.mPsdu) =
          path.answersCurrent packet := rfl
  unfold Transmitter.ackReceived
  simp only [hcopied, hnot, Bool.false_eq_true, ↓reduceIte]

end TransmitPath

end OtEfr32.Radio
