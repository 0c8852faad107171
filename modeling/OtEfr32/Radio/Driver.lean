import OtEfr32.Radio.EnergyScan
import OtEfr32.Radio.PowerManager
import OtEfr32.Radio.Receiver
import OtEfr32.Radio.Transmitter
import OtEfr32.Transition.Runs

/-!
# The radio driver

The state of `radio.c` with its entry points, and the step relation of the driver.  An interrupt and
a call of the platform API are one step each; a call that waits, or that an interrupt can divide, is
several.  `efr32RadioProcess` is divided at its calls into the stack, where the stack may call the
platform API again.
-/

namespace OtEfr32.Radio

/-- The parameters of a `pendingCommandEntry`. -/
inductive PendingRequest where
  /-- A frame, given by the index of its transmit buffer; `request` is its number in the history. -/
  | transmit (txFrame request : ℕ)
  | energyScan (scanChannel scanDuration request : ℕ)
  deriving DecidableEq, Repr

/-- `pendingCommandEntry`. -/
structure PendingCommand where
  request : PendingRequest
  iid : ℕ
  deriving DecidableEq, Repr

/-- The kind of a request: `pendingCommandType`. -/
inductive RequestKind where
  | transmit
  | energyScan
  deriving DecidableEq, Repr

/-- A request in the history: the kind, the instance and the number among the requests of the
kind. -/
structure Request where
  kind : RequestKind
  iid : ℕ
  number : ℕ
  deriving DecidableEq, Repr

/-- `pendingCommandEntry.cmdType`. -/
def PendingRequest.kind : PendingRequest → RequestKind
  | .transmit .. => .transmit
  | .energyScan .. => .energyScan

/-- The number of a queued request. -/
def PendingRequest.number : PendingRequest → ℕ
  | .transmit _ request => request
  | .energyScan _ _ request => request

/-- The call into the stack that `efr32RadioProcess` has reached. -/
inductive ProcessLocation where
  /-- The main loop is not in `efr32RadioProcess`. -/
  | outside
  | processRxPackets
  | processTxComplete
  | energyScanCheck
  /-- `otPlatRadioEnergyScanDone` has returned. -/
  | energyScanReported
  | processPendingCommands
  deriving DecidableEq, Repr

/-- A transmission that RAIL has started. -/
structure TransmissionStart where
  channel : ℕ
  /-- The power that RAIL was last given. -/
  txPowerInRail : ℤ
  /-- The maximum power of each interface for the channel. -/
  maxPowers : List ℤ
  deriving DecidableEq, Repr

/-- A frame for which `writeIeee802154EnhancedAck` prepares an ACK. -/
structure EnhAck where
  filterMask : ℕ
  /-- The security header that `otMacFrameGenerateEnhAck` gives to the ACK. -/
  mSecurity : FrameSecurity
  deriving DecidableEq, Repr

/-- The events of one call of `RAILCb_Generic`. -/
structure RailEvents where
  /-- `SL_RAIL_EVENT_IEEE802154_DATA_REQUEST_COMMAND`, for a version-2015 frame. -/
  dataRequestCommand : Option EnhAck := none
  tx : TxEvents := {}
  /-- `SL_RAIL_EVENT_RX_PACKET_RECEIVED`. -/
  rxPacketReceived : Option RxPacket := none
  deriving DecidableEq, Repr

/-- The state of the driver. -/
structure Driver where
  tx : Transmitter := {}
  scan : EnergyScan := {}
  rx : Receiver := {}
  security : MacSecurity := {}
  power : PowerManager
  sPendingCommandQueue : List PendingCommand := []
  /-- The channel that `sl_rail_get_channel` returns. -/
  railChannel : ℕ
  /-- Where a running `otPlatRadioGetRssi` waits: the energy-scan status when it was called. -/
  rssiCall : Option EnergyScanStatus := none
  location : ProcessLocation := .outside
  /-- History: the requests that were accepted. -/
  accepted : List Request := []
  /-- History: how often the assertion on an overflow of `sPendingCommandQueue` has failed. -/
  pendingOverflows : ℕ := 0
  /-- History. -/
  transmissionStarts : List TransmissionStart := []

/-- `efr32RadioInit`. -/
def efr32RadioInit (config : Config) : Driver :=
  { power := { txPowerInRail := config.defaultTransmitPower }
    railChannel := config.channelMin }

namespace Driver

variable (radio : Driver)

/-! ## Updates of one part of the state -/

/-- Change the transmit path. -/
def mapTx (change : Transmitter → Transmitter) : Driver := { radio with tx := change radio.tx }

/-- Change the energy scan. -/
def mapScan (change : EnergyScan → EnergyScan) : Driver := { radio with scan := change radio.scan }

/-- Change the receive path. -/
def mapRx (change : Receiver → Receiver) : Driver := { radio with rx := change radio.rx }

/-- Change the security state. -/
def mapSecurity (change : MacSecurity → MacSecurity) : Driver :=
  { radio with security := change radio.security }

/-- Change the power manager. -/
def mapPower (change : PowerManager → PowerManager) : Driver :=
  { radio with power := change radio.power }

/-- Go on at another place of `efr32RadioProcess`. -/
def moveTo (location : ProcessLocation) : Driver := { radio with location }

/-- Put an accepted request on record. -/
def accept (request : Request) : Driver :=
  { radio with accepted := radio.accepted ++ [request] }

/-- RAIL starts to receive or to transmit on a channel. -/
def tuneTo (railChannel : ℕ) : Driver := { radio with railChannel }

/-! ## Requests -/

/-- `isRadioTransmittingOrScanning`. -/
def isRadioTransmittingOrScanning : Bool :=
  radio.scan.sEnergyScanStatus != .idle || radio.tx.isBusy

/-- `sl_get_tx_power_for_current_channel`. -/
def slGetTxPowerForCurrentChannel (config : Config) : ℤ :=
  radio.power.sliGetMaxTxPowerAcrossIids config radio.railChannel

/-- `efr32RadioLoadChannelConfig` for a channel of the one band: the power is set. -/
def efr32RadioLoadChannelConfig (aTxPower : ℤ) : Driver :=
  radio.mapPower fun power ↦ power.sliSetTxPowerInRail aTxPower

/-- `pushPendingCommand`.  The iid of an entry has two bits; a full queue fails an assertion and
drops the request. -/
def pushPendingCommand (config : Config) (request : PendingRequest) (aIid : ℕ) : Driver :=
  if radio.sPendingCommandQueue.length < config.radioRequestBufferCount then
    { radio with
      sPendingCommandQueue := radio.sPendingCommandQueue ++ [⟨request, aIid % 4⟩] }
  else { radio with pendingOverflows := radio.pendingOverflows + 1 }

/-- `otPlatRadioTransmit` secures the current packet. -/
def secureCurrentPacket (config : Config) (iid : ℕ) : Driver :=
  let secured := radio.security.radioProcessTransmitSecurity config
    radio.tx.currentPacket.frame.isAck radio.tx.currentPacket.frame.mSecurity iid
  { radio with tx := radio.tx.setSecurity secured.2.1, security := secured.2.2 }

/-- RAIL has answered to the start of a transmission. -/
def recordStart (config : Config) (rail : RailResults) (channel : ℕ) : Driver :=
  if rail.startTx then
    { radio.tuneTo channel with
      transmissionStarts := radio.transmissionStarts ++ [{
        channel
        txPowerInRail := radio.power.txPowerInRail
        maxPowers := radio.power.maxPowers config channel }] }
  else radio

/-- `otPlatRadioTransmit` behind the check for a busy radio. -/
def transmitNow (config : Config) (rail : RailResults) (iid aFrame request : ℕ) :
    OtError × Driver :=
  let channel := (radio.tx.sTransmitBuffer aFrame).frame.mChannel
  if config.hasBandConfig channel then
    let radio := radio.efr32RadioLoadChannelConfig (radio.slGetTxPowerForCurrentChannel config)
    let radio := (radio.mapTx fun tx ↦ tx.makeCurrent iid request).secureCurrentPacket config iid
    (.none, (radio.mapTx fun tx ↦ tx.startTransmission rail).recordStart config rail channel)
  else (.invalidArgs, radio)

/-- `otPlatRadioTransmit`, for the frame in the transmit buffer with index `aFrame`; `gpBuffers` is
the decision of the Green Power interface to buffer the frame, and `request` the number of the
request. -/
def otPlatRadioTransmit (config : Config) (rail : RailResults) (gpBuffers : Bool)
    (iid aFrame request : ℕ) : OtError × Driver :=
  if config.canAccessPal = false then (.rejected, radio)
  else if config.multipan && gpBuffers then (.none, radio)
  else
    let radio := radio.mapTx fun tx ↦ tx.acceptFrame config iid aFrame
    if config.multipan && radio.isRadioTransmittingOrScanning then
      (.none, radio.pushPendingCommand config (.transmit aFrame request) iid)
    else radio.transmitNow config rail iid aFrame request

/-- `otPlatRadioEnergyScan`; `request` is the number of the request. -/
def otPlatRadioEnergyScan (config : Config) (rail : RailResults)
    (iid request aScanChannel aScanDuration : ℕ) : OtError × Driver :=
  if config.canAccessPal = false then
    (.rejected, radio.mapScan fun scan ↦ scan.refuse request .rejected)
  else if config.multipan && radio.isRadioTransmittingOrScanning then
    (.none,
      radio.pushPendingCommand config (.energyScan aScanChannel aScanDuration request) iid)
  else
    let started := radio.scan.startRequest config rail iid request aScanChannel aScanDuration
    let radio := if radio.scan.startsRx config rail aScanChannel then radio.tuneTo aScanChannel
      else radio
    (started.1, radio.mapScan fun _ ↦ started.2)

/-- `otPlatRadioGetRssi` up to its wait. -/
def otPlatRadioGetRssi (config : Config) (rail : RailResults) : Driver :=
  let status := radio.scan.sEnergyScanStatus
  let aChannel := radio.rx.sReceiveChannel
  if config.canAccessPal = false ∨ getInternalFlag radio.tx.flags [.ongoingTxData] = true then
    radio.mapScan fun scan ↦ scan.returnRssi otRadioRssiInvalid status
  else
    let started := radio.scan.efr32StartEnergyScan config rail .sync aChannel
      config.rssiAveragingTime
    let radio := if radio.scan.startsRx config rail aChannel then radio.tuneTo aChannel else radio
    let radio := radio.mapScan fun _ ↦ started.2
    if started.1 = .none then { radio with rssiCall := some status }
    else radio.mapScan fun scan ↦ scan.returnRssi otRadioRssiInvalid status

/-! ## Other calls -/

/-- `otPlatRadioReceive`. -/
def otPlatRadioReceive (config : Config) (rail : RailResults) (aChannel : ℕ) : OtError × Driver :=
  if config.canAccessPal = false then (.rejected, radio)
  else if getInternalFlag radio.tx.flags [.ongoingTxData] = true ∨
      radio.scan.sEnergyScanStatus = .inProgress then (.invalidState, radio)
  else if config.hasBandConfig aChannel = false then (.invalidArgs, radio)
  else
    let radio := radio.efr32RadioLoadChannelConfig (radio.slGetTxPowerForCurrentChannel config)
    if rail.startRx = false then (.failed, radio)
    else
      (.none, ((radio.tuneTo aChannel).mapTx fun tx ↦
        tx.setFlag [.scheduledRxPending] false).mapRx fun rx ↦ rx.setReceiveChannel aChannel)

/-- `otPlatRadioReceiveAt`. -/
def otPlatRadioReceiveAt (config : Config) (rail : RailResults) (aChannel : ℕ) : OtError × Driver :=
  if getInternalFlag radio.tx.flags [.scheduledTxPending, .scheduledTxStarted] then (.failed, radio)
  else if config.canAccessPal = false then (.rejected, radio)
  else if config.hasBandConfig aChannel = false then (.invalidArgs, radio)
  else
    let radio := radio.efr32RadioLoadChannelConfig (radio.slGetTxPowerForCurrentChannel config)
    let radio := radio.mapTx fun tx ↦ tx.setFlag [.scheduledRxPending] true
    if rail.startRx = false then
      (.failed, radio.mapTx fun tx ↦ tx.setFlag [.scheduledRxPending] false)
    else
      (.none, (radio.tuneTo aChannel).mapRx fun rx ↦ rx.setReceiveChannel aChannel)

/-- `otPlatRadioSleep`. -/
def otPlatRadioSleep : OtError × Driver :=
  if getInternalFlag radio.tx.flags [.ongoingTxData] then (.busy, radio)
  else (.none, radio.mapTx fun tx ↦ tx.setFlag [.scheduledRxPending] false)

/-- `otPlatRadioSetChannelMaxTransmitPower`. -/
def otPlatRadioSetChannelMaxTransmitPower (config : Config) (iid aChannel : ℕ) (aMaxPower : ℤ) :
    Driver :=
  radio.mapPower fun power ↦
    (power.sliSetChannelMaxTxPower config radio.railChannel iid aChannel aMaxPower).2

/-- `otPlatRadioSetTransmitPower`. -/
def otPlatRadioSetTransmitPower (config : Config) (iid : ℕ) (aPower : ℤ) : Driver :=
  radio.mapPower fun power ↦ power.sliSetDefaultTxPower config radio.railChannel iid aPower

/-! ## Interrupts -/

/-- `writeIeee802154EnhancedAck`, as far as the security state goes. -/
def writeIeee802154EnhancedAck (config : Config) (ack : EnhAck) : Driver :=
  if ack.mSecurity.isSecurityEnabled then
    let iid := radio.rx.getIidFromFilterMask config ack.filterMask
    radio.mapSecurity fun security ↦
      (security.radioProcessTransmitSecurity config true ack.mSecurity iid).2.2
  else radio

/-- `dataRequestCommandCallback`, with `none` for a frame that gets an immediate ACK or for no
event. -/
def dataRequestCommandCallback (config : Config) : Option EnhAck → Driver
  | some ack => radio.writeIeee802154EnhancedAck config ack
  | none => radio

/-- `packetReceivedCallback`. -/
def packetReceivedCallback (config : Config) (packet : RxPacket) : Driver :=
  if packet.valid = false then radio
  else if packet.isAck then
    -- the two bytes of the checksum count for the length
    if 4 ≤ packet.psdu.length + 2 ∧ isAckIn packet.psdu = true then
      radio.mapTx fun tx ↦ tx.ackReceived packet
    else radio
  else if radio.rx.accepts config packet then
    let radio := radio.mapRx fun rx ↦ rx.enqueue (rx.rxBufferOf config packet)
    if ackRequiredIn packet.psdu then radio.mapTx fun tx ↦ tx.setFlag [.ongoingTxAck] true
    else radio
  else radio

/-- `RAILCb_Generic`. -/
def railCbGeneric (config : Config) (aEvents : RailEvents) : Driver :=
  let radio := radio.dataRequestCommandCallback config aEvents.dataRequestCommand
  let radio := radio.mapTx fun tx ↦ (tx.completionEvents aEvents.tx).scheduledEvents aEvents.tx
  let radio := match aEvents.rxPacketReceived with
    | some packet => radio.packetReceivedCallback config packet
    | none => radio
  radio.mapTx fun tx ↦
    ((tx.txackEvents aEvents.tx).ackTimeoutEvent aEvents.tx).schedulerEvent aEvents.tx

/-! ## Main loop -/

/-- `processPendingCommands`. -/
def processPendingCommands (config : Config) (rail : RailResults) (gpBuffers : Bool) : Driver :=
  match radio.sPendingCommandQueue with
  | [] => radio
  | pendingCommand :: rest =>
    if radio.isRadioTransmittingOrScanning then radio
    else
      let radio := { radio with sPendingCommandQueue := rest }
      match pendingCommand.request with
      | .transmit txFrame request =>
        (radio.otPlatRadioTransmit config rail gpBuffers pendingCommand.iid txFrame request).2
      | .energyScan scanChannel scanDuration request =>
        (radio.otPlatRadioEnergyScan config rail pendingCommand.iid request scanChannel
          scanDuration).2

/-- The command that the next part of `efr32RadioProcess` takes from the queue and executes. -/
def dueCommand (config : Config) : Option PendingCommand :=
  if radio.location = .processPendingCommands ∧ config.multipan = true ∧
      radio.isRadioTransmittingOrScanning = false then radio.sPendingCommandQueue.head?
  else none

/-- The next part of `efr32RadioProcess`, up to its next call into the stack. -/
def efr32RadioProcess (config : Config) (rail : RailResults) (gpBuffers : Bool) : Driver :=
  match radio.location with
  | .outside => radio.moveTo .processRxPackets
  | .processRxPackets =>
    match radio.rx.visit with
    | some visit => radio.mapRx fun rx ↦ rx.visitStep config visit
    | none =>
      match radio.rx.sRxPacketQueue with
      | rxPacketBuf :: rest =>
        radio.mapRx fun rx ↦ rx.startVisit radio.security.sMacKeys rxPacketBuf rest
      | [] => radio.moveTo .processTxComplete
  | .processTxComplete =>
    (radio.mapTx Transmitter.processTxComplete).moveTo .energyScanCheck
  | .energyScanCheck =>
    if radio.scan.isReportable then (radio.mapScan EnergyScan.report).moveTo .energyScanReported
    else radio.moveTo .processPendingCommands
  | .energyScanReported =>
    (radio.mapScan EnergyScan.clearActiveInterface).moveTo .processPendingCommands
  | .processPendingCommands =>
    (if config.multipan then radio.processPendingCommands config rail gpBuffers
      else radio).moveTo .outside

end Driver

/-! ## Steps -/

/-- What can happen next. -/
inductive RadioEvent where
  /-- The stack writes a frame into the transmit buffer of an instance. -/
  | writeFrame (iid : ℕ) (aFrame : OtRadioFrame)
  | transmit (iid : ℕ) (rail : RailResults) (gpBuffers : Bool)
  | energyScan (iid aScanChannel aScanDuration : ℕ) (rail : RailResults)
  | getRssi (rail : RailResults)
  /-- The loop of `otPlatRadioGetRssi` ends. -/
  | endRssiWait (timedOut : Bool)
  | receive (aChannel : ℕ) (rail : RailResults)
  | receiveAt (aChannel : ℕ) (rail : RailResults)
  | sleep
  | setChannelMaxTransmitPower (iid aChannel : ℕ) (aMaxPower : ℤ)
  | setTransmitPower (iid : ℕ) (aPower : ℤ)
  | setPanId (iid aPanId : ℕ)
  | setPromiscuous (aEnable : Bool)
  | setMacFrameCounterIfLarger (iid aMacFrameCounter : ℕ)
  | setMacKey (call : SetMacKeyArgs)
  /-- The next statement of a running `otPlatRadioSetMacKey`. -/
  | setMacKeyStep
  /-- The dwell timer expires. -/
  | scanTimer (currentRSSIQuarterdBm : Option ℤ) (rail : RailResults)
  | railEvents (aEvents : RailEvents)
  /-- The next part of `efr32RadioProcess`. -/
  | process (rail : RailResults) (gpBuffers : Bool)
  deriving DecidableEq, Repr

/-- The event is a call that only sets variables of the driver. -/
def RadioEvent.isSetting : RadioEvent → Bool
  | .setPanId .. | .setPromiscuous _ | .setMacFrameCounterIfLarger .. | .setMacKey _ => true
  | _ => false

namespace Driver

variable (radio : Driver)

/-- The main task is inside a call of the platform API. -/
def isInCall : Bool := radio.rssiCall.isSome || radio.security.setMacKey.isSome

/-- A call of `otPlatRadioTransmit` by the stack. -/
def transmit (config : Config) (iid : ℕ) (rail : RailResults) (gpBuffers : Bool) : Driver :=
  let request := radio.tx.requests
  let radio := radio.mapTx Transmitter.countRequest
  let result := radio.otPlatRadioTransmit config rail gpBuffers iid (txBufIndex iid) request
  if result.1 = .none ∧ (config.multipan && gpBuffers) = false then
    result.2.accept ⟨.transmit, iid, request⟩
  else result.2

/-- A call of `otPlatRadioEnergyScan` by the stack. -/
def energyScan (config : Config) (iid aScanChannel aScanDuration : ℕ) (rail : RailResults) :
    Driver :=
  let request := radio.scan.requests
  let radio := radio.mapScan EnergyScan.countRequest
  let result := radio.otPlatRadioEnergyScan config rail iid request aScanChannel aScanDuration
  if result.1 = .none then result.2.accept ⟨.energyScan, iid, request⟩ else result.2

/-- What a call by the stack, or the next part of `efr32RadioProcess`, does. -/
def mainTask (config : Config) : RadioEvent → Option Driver
  | .writeFrame iid aFrame =>
    if config.isIid iid then
      some (radio.mapTx fun tx ↦ tx.updateBuffer (txBufIndex iid) fun packet ↦
        { packet with frame := aFrame })
    else none
  | .transmit iid rail gpBuffers =>
    if config.isIid iid then some (radio.transmit config iid rail gpBuffers) else none
  | .energyScan iid aScanChannel aScanDuration rail =>
    if config.isIid iid then some (radio.energyScan config iid aScanChannel aScanDuration rail)
    else none
  | .getRssi rail => some (radio.otPlatRadioGetRssi config rail)
  | .receive aChannel rail => some (radio.otPlatRadioReceive config rail aChannel).2
  | .receiveAt aChannel rail => some (radio.otPlatRadioReceiveAt config rail aChannel).2
  | .sleep => some radio.otPlatRadioSleep.2
  | .setChannelMaxTransmitPower iid aChannel aMaxPower =>
    if config.isIid iid then
      some (radio.otPlatRadioSetChannelMaxTransmitPower config iid aChannel aMaxPower)
    else none
  | .setTransmitPower iid aPower =>
    if config.isIid iid then some (radio.otPlatRadioSetTransmitPower config iid aPower) else none
  | .setPanId iid aPanId =>
    if config.isIid iid then
      some (if config.canAccessPal then
          radio.mapRx fun rx ↦ rx.otPlatRadioSetPanId config iid aPanId
        else radio)
    else none
  | .setPromiscuous aEnable =>
    some (if config.canAccessPal then
        radio.mapRx fun rx ↦ { rx with sPromiscuous := aEnable }
      else radio)
  | .setMacFrameCounterIfLarger iid aMacFrameCounter =>
    if config.isIid iid then
      some (if config.canAccessPal then
          radio.mapSecurity fun security ↦
            security.otPlatRadioSetMacFrameCounterIfLarger iid aMacFrameCounter
        else radio)
    else none
  | .setMacKey call =>
    if config.isIid call.iid then
      some (if config.canAccessPal then
          radio.mapSecurity fun security ↦ security.otPlatRadioSetMacKey call
        else radio)
    else none
  | .process rail gpBuffers => some (radio.efr32RadioProcess config rail gpBuffers)
  | _ => none

end Driver

/-- One step of the driver. -/
def radioStep (config : Config) (radio : Driver) : RadioEvent → Option Driver
  | .railEvents aEvents => some (radio.railCbGeneric config aEvents)
  | .scanTimer currentRSSIQuarterdBm rail =>
    if radio.scan.timerArmed then
      some (radio.mapScan fun scan ↦ scan.efr32ScanTimerHandler rail currentRSSIQuarterdBm)
    else none
  | .endRssiWait timedOut =>
    match radio.rssiCall with
    | some before =>
      if radio.scan.sEnergyScanStatus = .inProgress ∧ timedOut = false then none
      else some { radio.mapScan fun scan ↦ scan.finishRssi before with rssiCall := none }
    | none => none
  | .setMacKeyStep =>
    match radio.security.setMacKey with
    | some (call, location) =>
      some (radio.mapSecurity fun security ↦ security.setMacKeyStep call location)
    | none => none
  | event => if radio.isInCall then none else radio.mainTask config event

end OtEfr32.Radio
