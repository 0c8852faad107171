import OtEfr32.Radio.Driver

/-!
# Steps of the driver

What the functions of the driver leave alone, and what a step of the driver can be.  `Step` has one
constructor for each kind of step, with its guard and its result, and `ProcessPart` has one for each
part of `efr32RadioProcess`: an invariant is proved by cases on them, without a look at the
functions.
-/

namespace OtEfr32.Radio

/-! ## What a call leaves alone -/

namespace Driver

variable {config : Config} {radio : Driver} {rail : RailResults}

theorem recordStart_eq (radio : Driver) (config : Config) (rail : RailResults) (channel : ℕ) :
    ∃ railChannel transmissionStarts, radio.recordStart config rail channel =
      { radio with railChannel, transmissionStarts } := by
  unfold recordStart
  split
  · exact ⟨_, _, rfl⟩
  · exact ⟨radio.railChannel, radio.transmissionStarts, rfl⟩

/-- A transmission started at once does not touch the scan, the receive path or the queue. -/
theorem transmitNow_eq (radio : Driver) (config : Config) (rail : RailResults)
    (iid aFrame request : ℕ) :
    ∃ tx security power railChannel transmissionStarts,
      (radio.transmitNow config rail iid aFrame request).2 =
        { radio with tx, security, power, railChannel, transmissionStarts } := by
  unfold transmitNow
  simp only
  split
  · obtain ⟨railChannel, transmissionStarts, heq⟩ := recordStart_eq
      ((((radio.efr32RadioLoadChannelConfig (radio.slGetTxPowerForCurrentChannel config)).mapTx
        fun tx ↦ tx.makeCurrent iid request).secureCurrentPacket config iid).mapTx
          fun tx ↦ tx.startTransmission rail) config rail
      (radio.tx.sTransmitBuffer aFrame).frame.mChannel
    exact ⟨_, _, _, railChannel, transmissionStarts, heq⟩
  · exact ⟨radio.tx, radio.security, radio.power, radio.railChannel, radio.transmissionStarts, rfl⟩

theorem packetReceivedCallback_eq (radio : Driver) (config : Config) (packet : RxPacket) :
    ∃ tx rx, radio.packetReceivedCallback config packet = { radio with tx, rx } := by
  unfold packetReceivedCallback
  split
  · exact ⟨radio.tx, radio.rx, rfl⟩
  split
  · split
    · exact ⟨_, radio.rx, rfl⟩
    · exact ⟨radio.tx, radio.rx, rfl⟩
  split
  · simp only
    split
    · exact ⟨_, _, rfl⟩
    · exact ⟨radio.tx, _, rfl⟩
  · exact ⟨radio.tx, radio.rx, rfl⟩

theorem pushPendingCommand_eq (radio : Driver) (config : Config) (request : PendingRequest)
    (iid : ℕ) :
    ∃ sPendingCommandQueue pendingOverflows, radio.pushPendingCommand config request iid =
      { radio with sPendingCommandQueue, pendingOverflows } := by
  unfold pushPendingCommand
  split
  · exact ⟨_, radio.pendingOverflows, rfl⟩
  · exact ⟨radio.sPendingCommandQueue, _, rfl⟩

theorem otPlatRadioEnergyScan_eq (radio : Driver) (config : Config) (rail : RailResults)
    (iid request aScanChannel aScanDuration : ℕ) :
    ∃ scan railChannel sPendingCommandQueue pendingOverflows,
      (radio.otPlatRadioEnergyScan config rail iid request aScanChannel aScanDuration).2 =
        { radio with scan, railChannel, sPendingCommandQueue, pendingOverflows } := by
  unfold otPlatRadioEnergyScan
  split
  · exact ⟨_, radio.railChannel, radio.sPendingCommandQueue, radio.pendingOverflows, rfl⟩
  split
  · obtain ⟨sPendingCommandQueue, pendingOverflows, heq⟩ := pushPendingCommand_eq radio config
      (.energyScan aScanChannel aScanDuration request) iid
    exact ⟨radio.scan, radio.railChannel, sPendingCommandQueue, pendingOverflows, heq⟩
  · simp only
    split
    · exact ⟨_, _, radio.sPendingCommandQueue, radio.pendingOverflows, rfl⟩
    · exact ⟨_, radio.railChannel, radio.sPendingCommandQueue, radio.pendingOverflows, rfl⟩

/-- A transmit request does not touch the scan or the receive path. -/
theorem otPlatRadioTransmit_eq (radio : Driver) (config : Config) (rail : RailResults)
    (gpBuffers : Bool) (iid aFrame request : ℕ) :
    ∃ tx security power railChannel transmissionStarts sPendingCommandQueue pendingOverflows,
      (radio.otPlatRadioTransmit config rail gpBuffers iid aFrame request).2 =
        { radio with
          tx, security, power, railChannel, transmissionStarts, sPendingCommandQueue,
          pendingOverflows } := by
  unfold otPlatRadioTransmit
  split
  · exact ⟨radio.tx, radio.security, radio.power, radio.railChannel, radio.transmissionStarts,
      radio.sPendingCommandQueue, radio.pendingOverflows, rfl⟩
  split
  · exact ⟨radio.tx, radio.security, radio.power, radio.railChannel, radio.transmissionStarts,
      radio.sPendingCommandQueue, radio.pendingOverflows, rfl⟩
  simp only
  split
  · obtain ⟨sPendingCommandQueue, pendingOverflows, heq⟩ := pushPendingCommand_eq
      (radio.mapTx fun tx ↦ tx.acceptFrame config iid aFrame) config (.transmit aFrame request) iid
    exact ⟨_, radio.security, radio.power, radio.railChannel, radio.transmissionStarts,
      sPendingCommandQueue, pendingOverflows, heq⟩
  · obtain ⟨tx, security, power, railChannel, transmissionStarts, heq⟩ := transmitNow_eq
      (radio.mapTx fun tx ↦ tx.acceptFrame config iid aFrame) config rail iid aFrame request
    exact ⟨tx, security, power, railChannel, transmissionStarts, radio.sPendingCommandQueue,
      radio.pendingOverflows, heq⟩

theorem otPlatRadioEnergyScan_tx (radio : Driver) (config : Config) (rail : RailResults)
    (iid request aScanChannel aScanDuration : ℕ) :
    (radio.otPlatRadioEnergyScan config rail iid request aScanChannel aScanDuration).2.tx =
      radio.tx := by
  obtain ⟨_, _, _, _, heq⟩ := radio.otPlatRadioEnergyScan_eq config rail iid request aScanChannel
    aScanDuration
  rw [heq]

theorem otPlatRadioEnergyScan_rx (radio : Driver) (config : Config) (rail : RailResults)
    (iid request aScanChannel aScanDuration : ℕ) :
    (radio.otPlatRadioEnergyScan config rail iid request aScanChannel aScanDuration).2.rx =
      radio.rx := by
  obtain ⟨_, _, _, _, heq⟩ := radio.otPlatRadioEnergyScan_eq config rail iid request aScanChannel
    aScanDuration
  rw [heq]

theorem otPlatRadioEnergyScan_security (radio : Driver) (config : Config) (rail : RailResults)
    (iid request aScanChannel aScanDuration : ℕ) :
    (radio.otPlatRadioEnergyScan config rail iid request aScanChannel aScanDuration).2.security =
      radio.security := by
  obtain ⟨_, _, _, _, heq⟩ := radio.otPlatRadioEnergyScan_eq config rail iid request aScanChannel
    aScanDuration
  rw [heq]

theorem otPlatRadioTransmit_rx (radio : Driver) (config : Config) (rail : RailResults)
    (gpBuffers : Bool) (iid aFrame request : ℕ) :
    (radio.otPlatRadioTransmit config rail gpBuffers iid aFrame request).2.rx = radio.rx := by
  obtain ⟨_, _, _, _, _, _, _, heq⟩ := radio.otPlatRadioTransmit_eq config rail gpBuffers iid
    aFrame request
  rw [heq]

theorem otPlatRadioSleep_eq (radio : Driver) :
    ∃ flags, radio.otPlatRadioSleep.2 = radio.mapTx fun tx ↦ { tx with flags } := by
  unfold otPlatRadioSleep
  split
  · exact ⟨radio.tx.flags, rfl⟩
  · exact ⟨_, rfl⟩

/-- A call of `otPlatRadioTransmit` by the stack counts the request, and may note that it was
accepted. -/
theorem transmit_eq (radio : Driver) (config : Config) (iid : ℕ) (rail : RailResults)
    (gpBuffers : Bool) :
    ∃ accepted, radio.transmit config iid rail gpBuffers =
      { ((radio.mapTx Transmitter.countRequest).otPlatRadioTransmit config rail gpBuffers iid
          (txBufIndex iid) radio.tx.requests).2 with accepted } := by
  unfold transmit
  simp only
  split
  · exact ⟨_, rfl⟩
  · exact ⟨_, rfl⟩

/-- A call of `otPlatRadioEnergyScan` by the stack counts the request, and may note that it was
accepted. -/
theorem energyScan_eq (radio : Driver) (config : Config) (iid aScanChannel aScanDuration : ℕ)
    (rail : RailResults) :
    ∃ accepted, radio.energyScan config iid aScanChannel aScanDuration rail =
      { ((radio.mapScan EnergyScan.countRequest).otPlatRadioEnergyScan config rail iid
          radio.scan.requests aScanChannel aScanDuration).2 with accepted } := by
  unfold energyScan
  simp only
  split
  · exact ⟨_, rfl⟩
  · exact ⟨_, rfl⟩

/-- A call of `otPlatRadioEnergyScan` by the stack does not touch the transmit or the receive
path. -/
theorem energyScan_frame (radio : Driver) (config : Config) (iid aScanChannel aScanDuration : ℕ)
    (rail : RailResults) :
    ∃ scan railChannel sPendingCommandQueue pendingOverflows accepted,
      radio.energyScan config iid aScanChannel aScanDuration rail =
        { radio with scan, railChannel, sPendingCommandQueue, pendingOverflows, accepted } := by
  obtain ⟨accepted, hscan⟩ := radio.energyScan_eq config iid aScanChannel aScanDuration rail
  obtain ⟨scan, railChannel, sPendingCommandQueue, pendingOverflows, heq⟩ :=
    otPlatRadioEnergyScan_eq (radio.mapScan EnergyScan.countRequest) config rail iid
      radio.scan.requests aScanChannel aScanDuration
  rw [hscan, heq]
  exact ⟨scan, railChannel, sPendingCommandQueue, pendingOverflows, accepted, rfl⟩

theorem otPlatRadioGetRssi_eq (radio : Driver) (config : Config) (rail : RailResults) :
    ∃ scan railChannel rssiCall,
      radio.otPlatRadioGetRssi config rail = { radio with scan, railChannel, rssiCall } := by
  unfold otPlatRadioGetRssi
  simp only
  split
  · exact ⟨_, radio.railChannel, radio.rssiCall, rfl⟩
  · split
    · split
      · exact ⟨_, _, _, rfl⟩
      · exact ⟨_, radio.railChannel, _, rfl⟩
    · split
      · exact ⟨_, _, radio.rssiCall, rfl⟩
      · exact ⟨_, radio.railChannel, radio.rssiCall, rfl⟩

theorem dataRequestCommandCallback_eq (radio : Driver) (config : Config)
    (command : Option EnhAck) :
    ∃ security, radio.dataRequestCommandCallback config command = { radio with security } := by
  cases command with
  | some ack =>
    simp only [dataRequestCommandCallback, writeIeee802154EnhancedAck]
    split
    · exact ⟨_, rfl⟩
    · exact ⟨radio.security, rfl⟩
  | none => exact ⟨radio.security, rfl⟩

theorem railCbGeneric_security (radio : Driver) (config : Config) (aEvents : RailEvents) :
    (radio.railCbGeneric config aEvents).security =
      (radio.dataRequestCommandCallback config aEvents.dataRequestCommand).security := by
  unfold railCbGeneric
  simp only
  cases aEvents.rxPacketReceived with
  | none => rfl
  | some packet =>
    obtain ⟨_, _, heq⟩ := packetReceivedCallback_eq
      ((radio.dataRequestCommandCallback config aEvents.dataRequestCommand).mapTx fun tx ↦
        (tx.completionEvents aEvents.tx).scheduledEvents aEvents.tx) config packet
    simp only [heq]
    rfl

/-- The RAIL callback does not touch the scan, the power or the queue. -/
theorem railCbGeneric_eq (radio : Driver) (config : Config) (aEvents : RailEvents) :
    ∃ tx rx security,
      radio.railCbGeneric config aEvents = { radio with tx, rx, security } := by
  obtain ⟨security, hacked⟩ := dataRequestCommandCallback_eq radio config
    aEvents.dataRequestCommand
  unfold railCbGeneric
  simp only [hacked]
  cases aEvents.rxPacketReceived with
  | none => exact ⟨_, radio.rx, security, rfl⟩
  | some packet =>
    simp only
    obtain ⟨tx, rx, heq⟩ := packetReceivedCallback_eq (mapTx { radio with security } fun tx ↦
      (tx.completionEvents aEvents.tx).scheduledEvents aEvents.tx) config packet
    rw [heq]
    exact ⟨_, rx, security, rfl⟩

/-- Of the transmit path, a call to receive changes flags only. -/
theorem otPlatRadioReceive_eq (radio : Driver) (config : Config) (rail : RailResults)
    (aChannel : ℕ) :
    ∃ flags rx power railChannel, (radio.otPlatRadioReceive config rail aChannel).2 =
      { radio with tx := { radio.tx with flags }, rx, power, railChannel } := by
  unfold otPlatRadioReceive
  split
  · exact ⟨radio.tx.flags, radio.rx, radio.power, radio.railChannel, rfl⟩
  split
  · exact ⟨radio.tx.flags, radio.rx, radio.power, radio.railChannel, rfl⟩
  split
  · exact ⟨radio.tx.flags, radio.rx, radio.power, radio.railChannel, rfl⟩
  simp only
  split
  · exact ⟨radio.tx.flags, radio.rx, _, radio.railChannel, rfl⟩
  · exact ⟨_, _, _, _, rfl⟩

theorem otPlatRadioReceiveAt_eq (radio : Driver) (config : Config) (rail : RailResults)
    (aChannel : ℕ) :
    ∃ flags rx power railChannel, (radio.otPlatRadioReceiveAt config rail aChannel).2 =
      { radio with tx := { radio.tx with flags }, rx, power, railChannel } := by
  unfold otPlatRadioReceiveAt
  split
  · exact ⟨radio.tx.flags, radio.rx, radio.power, radio.railChannel, rfl⟩
  split
  · exact ⟨radio.tx.flags, radio.rx, radio.power, radio.railChannel, rfl⟩
  split
  · exact ⟨radio.tx.flags, radio.rx, radio.power, radio.railChannel, rfl⟩
  simp only
  split
  · exact ⟨_, radio.rx, _, radio.railChannel, rfl⟩
  · exact ⟨_, _, _, _, rfl⟩

end Driver

/-! ## What a step can do -/

/-- The event may change a transmit buffer or the current packet. -/
def RadioEvent.concernsPackets : RadioEvent → Bool
  | .writeFrame .. | .transmit .. | .process .. => true
  | _ => false

namespace Driver

variable {config : Config} {radio : Driver}

/-- The enabled steps of the main task outside a waiting or divided call, with their guards and
results. -/
inductive MainStep (config : Config) (radio : Driver) : RadioEvent → Driver → Prop
  | writeFrame {iid : ℕ} {aFrame : OtRadioFrame} (hiid : config.isIid iid = true) :
      MainStep config radio (.writeFrame iid aFrame)
        (radio.mapTx fun tx ↦ tx.updateBuffer (txBufIndex iid) fun packet ↦
          { packet with frame := aFrame })
  | transmit {iid : ℕ} {rail : RailResults} {gpBuffers : Bool}
      (hiid : config.isIid iid = true) :
      MainStep config radio (.transmit iid rail gpBuffers)
        (radio.transmit config iid rail gpBuffers)
  | energyScan {iid aScanChannel aScanDuration : ℕ} {rail : RailResults}
      (hiid : config.isIid iid = true) :
      MainStep config radio (.energyScan iid aScanChannel aScanDuration rail)
        (radio.energyScan config iid aScanChannel aScanDuration rail)
  | getRssi {rail : RailResults} :
      MainStep config radio (.getRssi rail) (radio.otPlatRadioGetRssi config rail)
  | receive {aChannel : ℕ} {rail : RailResults} :
      MainStep config radio (.receive aChannel rail)
        (radio.otPlatRadioReceive config rail aChannel).2
  | receiveAt {aChannel : ℕ} {rail : RailResults} :
      MainStep config radio (.receiveAt aChannel rail)
        (radio.otPlatRadioReceiveAt config rail aChannel).2
  | sleep : MainStep config radio .sleep radio.otPlatRadioSleep.2
  | setChannelMaxTransmitPower {iid aChannel : ℕ} {aMaxPower : ℤ}
      (hiid : config.isIid iid = true) :
      MainStep config radio (.setChannelMaxTransmitPower iid aChannel aMaxPower)
        (radio.otPlatRadioSetChannelMaxTransmitPower config iid aChannel aMaxPower)
  | setTransmitPower {iid : ℕ} {aPower : ℤ} (hiid : config.isIid iid = true) :
      MainStep config radio (.setTransmitPower iid aPower)
        (radio.otPlatRadioSetTransmitPower config iid aPower)
  | setPanId {iid aPanId : ℕ} (hiid : config.isIid iid = true)
      (hpal : config.canAccessPal = true) :
      MainStep config radio (.setPanId iid aPanId)
        (radio.mapRx fun rx ↦ rx.otPlatRadioSetPanId config iid aPanId)
  | setPromiscuous {aEnable : Bool} (hpal : config.canAccessPal = true) :
      MainStep config radio (.setPromiscuous aEnable)
        (radio.mapRx fun rx ↦ { rx with sPromiscuous := aEnable })
  | setMacFrameCounterIfLarger {iid aMacFrameCounter : ℕ} (hiid : config.isIid iid = true)
      (hpal : config.canAccessPal = true) :
      MainStep config radio (.setMacFrameCounterIfLarger iid aMacFrameCounter)
        (radio.mapSecurity fun security ↦
          security.otPlatRadioSetMacFrameCounterIfLarger iid aMacFrameCounter)
  | setMacKey {call : SetMacKeyArgs} (hiid : config.isIid call.iid = true)
      (hpal : config.canAccessPal = true) :
      MainStep config radio (.setMacKey call)
        (radio.mapSecurity fun security ↦ security.otPlatRadioSetMacKey call)
  /-- A setting that the RTOS check refuses. -/
  | refused {event : RadioEvent} (hpal : config.canAccessPal = false)
      (hsetting : event.isSetting = true) : MainStep config radio event radio
  | process {rail : RailResults} {gpBuffers : Bool} :
      MainStep config radio (.process rail gpBuffers)
        (radio.efr32RadioProcess config rail gpBuffers)

theorem mainStep_of_mainTask {event : RadioEvent} {next : Driver}
    (h : radio.mainTask config event = some next) : MainStep config radio event next := by
  cases event with
  | writeFrame iid aFrame =>
    obtain ⟨hiid, hnext⟩ := Option.ite_none_right_eq_some.mp h
    exact Option.some.inj hnext ▸ .writeFrame hiid
  | transmit iid rail gpBuffers =>
    obtain ⟨hiid, hnext⟩ := Option.ite_none_right_eq_some.mp h
    exact Option.some.inj hnext ▸ .transmit hiid
  | energyScan iid aScanChannel aScanDuration rail =>
    obtain ⟨hiid, hnext⟩ := Option.ite_none_right_eq_some.mp h
    exact Option.some.inj hnext ▸ .energyScan hiid
  | getRssi rail => exact Option.some.inj h ▸ .getRssi
  | receive aChannel rail => exact Option.some.inj h ▸ .receive
  | receiveAt aChannel rail => exact Option.some.inj h ▸ .receiveAt
  | sleep => exact Option.some.inj h ▸ .sleep
  | setChannelMaxTransmitPower iid aChannel aMaxPower =>
    obtain ⟨hiid, hnext⟩ := Option.ite_none_right_eq_some.mp h
    exact Option.some.inj hnext ▸ .setChannelMaxTransmitPower hiid
  | setTransmitPower iid aPower =>
    obtain ⟨hiid, hnext⟩ := Option.ite_none_right_eq_some.mp h
    exact Option.some.inj hnext ▸ .setTransmitPower hiid
  | setPanId iid aPanId =>
    obtain ⟨hiid, hnext⟩ := Option.ite_none_right_eq_some.mp h
    obtain rfl := Option.some.inj hnext
    split
    case isTrue hpal => exact .setPanId hiid hpal
    case isFalse hpal => exact .refused (Bool.of_not_eq_true hpal) rfl
  | setPromiscuous aEnable =>
    obtain rfl := Option.some.inj h
    split
    case isTrue hpal => exact .setPromiscuous hpal
    case isFalse hpal => exact .refused (Bool.of_not_eq_true hpal) rfl
  | setMacFrameCounterIfLarger iid aMacFrameCounter =>
    obtain ⟨hiid, hnext⟩ := Option.ite_none_right_eq_some.mp h
    obtain rfl := Option.some.inj hnext
    split
    case isTrue hpal => exact .setMacFrameCounterIfLarger hiid hpal
    case isFalse hpal => exact .refused (Bool.of_not_eq_true hpal) rfl
  | setMacKey call =>
    obtain ⟨hiid, hnext⟩ := Option.ite_none_right_eq_some.mp h
    obtain rfl := Option.some.inj hnext
    split
    case isTrue hpal => exact .setMacKey hiid hpal
    case isFalse hpal => exact .refused (Bool.of_not_eq_true hpal) rfl
  | process rail gpBuffers => exact Option.some.inj h ▸ .process
  | endRssiWait | setMacKeyStep | scanTimer | railEvents => contradiction

/-- The enabled steps, with their guards and results. -/
inductive Step (config : Config) (radio : Driver) : RadioEvent → Driver → Prop
  | railEvents {aEvents : RailEvents} :
      Step config radio (.railEvents aEvents) (radio.railCbGeneric config aEvents)
  | scanTimer {currentRSSIQuarterdBm : Option ℤ} {rail : RailResults}
      (harmed : radio.scan.timerArmed = true) :
      Step config radio (.scanTimer currentRSSIQuarterdBm rail)
        (radio.mapScan fun scan ↦ scan.efr32ScanTimerHandler rail currentRSSIQuarterdBm)
  | endRssiWait {timedOut : Bool} {before : EnergyScanStatus}
      (hcall : radio.rssiCall = some before)
      (hended : radio.scan.sEnergyScanStatus = .inProgress → timedOut = true) :
      Step config radio (.endRssiWait timedOut)
        { radio.mapScan fun scan ↦ scan.finishRssi before with rssiCall := none }
  | setMacKeyStep {call : SetMacKeyArgs} {location : SetMacKeyLocation}
      (hcall : radio.security.setMacKey = some (call, location)) :
      Step config radio .setMacKeyStep
        (radio.mapSecurity fun security ↦ security.setMacKeyStep call location)
  | main {event : RadioEvent} {next : Driver} (hcall : radio.isInCall = false)
      (hmain : MainStep config radio event next) : Step config radio event next

theorem step_of_radioStep {event : RadioEvent} {next : Driver}
    (h : radioStep config radio event = some next) : Step config radio event next := by
  cases event with
  | railEvents aEvents => exact Option.some.inj h ▸ .railEvents
  | scanTimer currentRSSIQuarterdBm rail =>
    obtain ⟨harmed, hnext⟩ := Option.ite_none_right_eq_some.mp h
    exact Option.some.inj hnext ▸ .scanTimer harmed
  | endRssiWait timedOut =>
    simp only [radioStep] at h
    split at h
    case h_1 before hcall =>
      obtain ⟨hended, hnext⟩ := Option.ite_none_left_eq_some.mp h
      exact Option.some.inj hnext ▸ .endRssiWait hcall fun hprogress ↦
        Bool.of_not_eq_false fun htimed ↦ hended ⟨hprogress, htimed⟩
    case h_2 => contradiction
  | setMacKeyStep =>
    simp only [radioStep] at h
    split at h
    case h_1 call location hcall => exact Option.some.inj h ▸ .setMacKeyStep hcall
    case h_2 => contradiction
  | _ =>
    obtain ⟨hcall, hmain⟩ := Option.ite_none_left_eq_some.mp h
    exact .main (Bool.of_not_eq_true hcall) (mainStep_of_mainTask hmain)

theorem radioStep_process {rail : RailResults} {gpBuffers : Bool} {next : Driver}
    (h : radioStep config radio (.process rail gpBuffers) = some next) :
    radio.efr32RadioProcess config rail gpBuffers = next := by
  obtain ⟨_, hmain⟩ := Option.ite_none_left_eq_some.mp h
  exact Option.some.inj hmain

/-! ## The parts of `efr32RadioProcess` -/

/-- No command is due outside `processPendingCommands`. -/
theorem dueCommand_elsewhere (config : Config)
    (hlocation : radio.location ≠ .processPendingCommands) : radio.dueCommand config = none :=
  if_neg fun hdue ↦ hlocation hdue.1

theorem guards_of_dueCommand {command : PendingCommand}
    (hdue : radio.dueCommand config = some command) :
    radio.location = .processPendingCommands ∧ config.multipan = true ∧
      radio.isRadioTransmittingOrScanning = false :=
  (Option.ite_none_right_eq_some.mp hdue).1

theorem queue_of_dueCommand {command : PendingCommand}
    (hdue : radio.dueCommand config = some command) :
    ∃ rest, radio.sPendingCommandQueue = command :: rest :=
  List.head?_eq_some_iff.mp (Option.ite_none_right_eq_some.mp hdue).2

/-- The parts of `efr32RadioProcess`, with what each finds and what it does. -/
inductive ProcessPart (config : Config) (rail : RailResults) (gpBuffers : Bool) (radio : Driver) :
    Driver → Prop
  | enter (hlocation : radio.location = .outside) :
      ProcessPart config rail gpBuffers radio (radio.moveTo .processRxPackets)
  | visit {visit : Visit} (hlocation : radio.location = .processRxPackets)
      (hvisit : radio.rx.visit = some visit) :
      ProcessPart config rail gpBuffers radio (radio.mapRx fun rx ↦ rx.visitStep config visit)
  | startVisit {rxPacketBuf : RxBuffer} {rest : List RxBuffer}
      (hlocation : radio.location = .processRxPackets) (hvisit : radio.rx.visit = none)
      (hqueue : radio.rx.sRxPacketQueue = rxPacketBuf :: rest) :
      ProcessPart config rail gpBuffers radio
        (radio.mapRx fun rx ↦ rx.startVisit radio.security.sMacKeys rxPacketBuf rest)
  | rxDone (hlocation : radio.location = .processRxPackets) (hvisit : radio.rx.visit = none)
      (hqueue : radio.rx.sRxPacketQueue = []) :
      ProcessPart config rail gpBuffers radio (radio.moveTo .processTxComplete)
  | txComplete (hlocation : radio.location = .processTxComplete) :
      ProcessPart config rail gpBuffers radio
        ((radio.mapTx Transmitter.processTxComplete).moveTo .energyScanCheck)
  | scanReport (hlocation : radio.location = .energyScanCheck)
      (hreportable : radio.scan.isReportable = true) :
      ProcessPart config rail gpBuffers radio
        ((radio.mapScan EnergyScan.report).moveTo .energyScanReported)
  | noReport (hlocation : radio.location = .energyScanCheck)
      (hreportable : radio.scan.isReportable = false) :
      ProcessPart config rail gpBuffers radio (radio.moveTo .processPendingCommands)
  | scanReported (hlocation : radio.location = .energyScanReported) :
      ProcessPart config rail gpBuffers radio
        ((radio.mapScan EnergyScan.clearActiveInterface).moveTo .processPendingCommands)
  | noCommand (hlocation : radio.location = .processPendingCommands)
      (hdue : radio.dueCommand config = none) :
      ProcessPart config rail gpBuffers radio (radio.moveTo .outside)
  | transmit {iid txFrame request : ℕ} {rest : List PendingCommand}
      (hdue : radio.dueCommand config = some ⟨.transmit txFrame request, iid⟩)
      (hqueue : radio.sPendingCommandQueue = ⟨.transmit txFrame request, iid⟩ :: rest) :
      ProcessPart config rail gpBuffers radio
        (({ radio with sPendingCommandQueue := rest }.otPlatRadioTransmit config rail gpBuffers iid
          txFrame request).2.moveTo .outside)
  | energyScan {iid scanChannel scanDuration request : ℕ} {rest : List PendingCommand}
      (hdue : radio.dueCommand config =
        some ⟨.energyScan scanChannel scanDuration request, iid⟩)
      (hqueue : radio.sPendingCommandQueue =
        ⟨.energyScan scanChannel scanDuration request, iid⟩ :: rest) :
      ProcessPart config rail gpBuffers radio
        (({ radio with sPendingCommandQueue := rest }.otPlatRadioEnergyScan config rail iid request
          scanChannel scanDuration).2.moveTo .outside)

/-- The part that `efr32RadioProcess` takes next. -/
theorem processPart (radio : Driver) (config : Config) (rail : RailResults) (gpBuffers : Bool) :
    ProcessPart config rail gpBuffers radio (radio.efr32RadioProcess config rail gpBuffers) := by
  unfold efr32RadioProcess
  cases hlocation : radio.location with
  | outside => exact .enter hlocation
  | processRxPackets =>
    simp only
    cases hvisit : radio.rx.visit with
    | some visit => exact .visit hlocation hvisit
    | none =>
      cases hqueue : radio.rx.sRxPacketQueue with
      | cons rxPacketBuf rest => exact .startVisit hlocation hvisit hqueue
      | nil => exact .rxDone hlocation hvisit hqueue
  | processTxComplete => exact .txComplete hlocation
  | energyScanCheck =>
    simp only
    split
    case isTrue hreportable => exact .scanReport hlocation hreportable
    case isFalse hreportable => exact .noReport hlocation (Bool.of_not_eq_true hreportable)
  | energyScanReported => exact .scanReported hlocation
  | processPendingCommands =>
    simp only
    split
    case isFalse hsingle => exact .noCommand hlocation (if_neg fun hdue ↦ hsingle hdue.2.1)
    case isTrue hmultipan =>
      unfold processPendingCommands
      split
      case h_1 hqueue =>
        refine .noCommand hlocation ?_
        rw [dueCommand, hqueue, List.head?_nil, ite_self]
      case h_2 command rest hqueue =>
        split
        case isTrue hbusy =>
          exact .noCommand hlocation
            (if_neg fun hdue ↦ Bool.false_ne_true (hdue.2.2.symm.trans hbusy))
        case isFalse hfree =>
          have hdue : radio.dueCommand config = some command := by
            rw [dueCommand, if_pos ⟨hlocation, hmultipan, Bool.of_not_eq_true hfree⟩, hqueue,
              List.head?_cons]
          obtain ⟨request, iid⟩ := command
          cases request with
          | transmit txFrame request => exact .transmit hdue hqueue
          | energyScan scanChannel scanDuration request => exact .energyScan hdue hqueue

/-- A transmission that is due is taken from the queue and executed. -/
theorem efr32RadioProcess_transmit {command : PendingCommand} {txFrame request : ℕ}
    (hdue : radio.dueCommand config = some command)
    (hrequest : command.request = .transmit txFrame request) (rail : RailResults)
    (gpBuffers : Bool) :
    ∃ rest, radio.sPendingCommandQueue = command :: rest ∧
      radio.efr32RadioProcess config rail gpBuffers =
        ({ radio with sPendingCommandQueue := rest }.otPlatRadioTransmit config rail gpBuffers
          command.iid txFrame request).2.moveTo .outside := by
  obtain ⟨rest, hqueue⟩ := queue_of_dueCommand hdue
  obtain ⟨hlocation, hmultipan, hfree⟩ := guards_of_dueCommand hdue
  refine ⟨rest, hqueue, ?_⟩
  unfold efr32RadioProcess processPendingCommands
  simp only [hlocation, if_pos hmultipan, hqueue, hfree, hrequest]
  rfl

/-- A scan that is due is taken from the queue and executed. -/
theorem efr32RadioProcess_energyScan {command : PendingCommand}
    {scanChannel scanDuration request : ℕ} (hdue : radio.dueCommand config = some command)
    (hrequest : command.request = .energyScan scanChannel scanDuration request)
    (rail : RailResults) (gpBuffers : Bool) :
    ∃ rest, radio.sPendingCommandQueue = command :: rest ∧
      radio.efr32RadioProcess config rail gpBuffers =
        ({ radio with sPendingCommandQueue := rest }.otPlatRadioEnergyScan config rail command.iid
          request scanChannel scanDuration).2.moveTo .outside := by
  obtain ⟨rest, hqueue⟩ := queue_of_dueCommand hdue
  obtain ⟨hlocation, hmultipan, hfree⟩ := guards_of_dueCommand hdue
  refine ⟨rest, hqueue, ?_⟩
  unfold efr32RadioProcess processPendingCommands
  simp only [hlocation, if_pos hmultipan, hqueue, hfree, hrequest]
  rfl

/-! ## The receive path -/

/-- The RAIL callback queues the packet that it has received, or nothing. -/
theorem railCbGeneric_queues (radio : Driver) (config : Config) (aEvents : RailEvents) :
    (radio.railCbGeneric config aEvents).rx = radio.rx ∨
      ∃ packet, aEvents.rxPacketReceived = some packet ∧
        (radio.railCbGeneric config aEvents).rx =
          radio.rx.enqueue (radio.rx.rxBufferOf config packet) := by
  obtain ⟨security, hacked⟩ := radio.dataRequestCommandCallback_eq config
    aEvents.dataRequestCommand
  unfold railCbGeneric
  rw [hacked]
  cases hpacket : aEvents.rxPacketReceived with
  | none => exact .inl rfl
  | some packet =>
    simp only
    unfold packetReceivedCallback
    split
    · exact .inl rfl
    split
    · split <;> exact .inl rfl
    split
    · refine .inr ⟨packet, rfl, ?_⟩
      simp only
      split <;> rfl
    · exact .inl rfl

/-- What an event may do to the receive path. -/
inductive ReceiverStep (config : Config) (radio : Driver) : RadioEvent → Receiver → Prop
  | kept {event : RadioEvent} : ReceiverStep config radio event radio.rx
  | queued {aEvents : RailEvents} {packet : RxPacket}
      (hpacket : aEvents.rxPacketReceived = some packet) :
      ReceiverStep config radio (.railEvents aEvents)
        (radio.rx.enqueue (radio.rx.rxBufferOf config packet))
  | setReceiveChannel {event : RadioEvent} (aChannel : ℕ) :
      ReceiverStep config radio event (radio.rx.setReceiveChannel aChannel)
  | setPanId {iid aPanId : ℕ} (hiid : config.isIid iid = true) :
      ReceiverStep config radio (.setPanId iid aPanId)
        (radio.rx.otPlatRadioSetPanId config iid aPanId)
  | setPromiscuous {aEnable : Bool} :
      ReceiverStep config radio (.setPromiscuous aEnable)
        { radio.rx with sPromiscuous := aEnable }
  | process {rail : RailResults} {gpBuffers : Bool} :
      ReceiverStep config radio (.process rail gpBuffers)
        (radio.efr32RadioProcess config rail gpBuffers).rx

theorem receiverStep_of_radioStep {event : RadioEvent} {next : Driver}
    (hstep : radioStep config radio event = some next) :
    ReceiverStep config radio event next.rx := by
  cases step_of_radioStep hstep with
  | railEvents =>
    rcases radio.railCbGeneric_queues config _ with hsame | ⟨packet, hpacket, hqueued⟩
    · rw [hsame]
      exact .kept
    · rw [hqueued]
      exact .queued hpacket
  | scanTimer | endRssiWait | setMacKeyStep => exact .kept
  | main hcall hmain =>
    cases hmain with
    | @transmit iid rail gpBuffers =>
      obtain ⟨accepted, heq⟩ := radio.transmit_eq config iid rail gpBuffers
      rw [heq]
      simp only [otPlatRadioTransmit_rx]
      exact .kept
    | energyScan =>
      obtain ⟨_, _, _, _, _, heq⟩ := radio.energyScan_frame config _ _ _ _
      rw [heq]
      exact .kept
    | @getRssi rail =>
      obtain ⟨_, _, _, heq⟩ := otPlatRadioGetRssi_eq radio config rail
      rw [heq]
      exact .kept
    | @receive aChannel rail =>
      unfold otPlatRadioReceive
      split_ifs
      case neg => exact .setReceiveChannel aChannel
      all_goals exact .kept
    | @receiveAt aChannel rail =>
      unfold otPlatRadioReceiveAt
      split_ifs
      case neg => exact .setReceiveChannel aChannel
      all_goals exact .kept
    | sleep =>
      obtain ⟨flags, heq⟩ := radio.otPlatRadioSleep_eq
      rw [heq]
      exact .kept
    | setPanId hiid => exact .setPanId hiid
    | setPromiscuous => exact .setPromiscuous
    | writeFrame | setChannelMaxTransmitPower | setTransmitPower | setMacFrameCounterIfLarger
      | setMacKey | refused => exact .kept
    | process => exact .process

/-! ## The transmit path -/

theorem packetReceivedCallback_withoutEvents (radio : Driver) (config : Config)
    (packet : RxPacket) :
    (radio.packetReceivedCallback config packet).tx.withoutEvents = radio.tx.withoutEvents := by
  unfold packetReceivedCallback
  split
  · rfl
  split
  · split
    · exact radio.tx.ackReceived_withoutEvents packet
    · rfl
  split
  · simp only
    split <;> rfl
  · rfl

theorem railCbGeneric_withoutEvents (radio : Driver) (config : Config) (aEvents : RailEvents) :
    (radio.railCbGeneric config aEvents).tx.withoutEvents = radio.tx.withoutEvents := by
  obtain ⟨security, hacked⟩ := radio.dataRequestCommandCallback_eq config
    aEvents.dataRequestCommand
  unfold railCbGeneric
  rw [hacked]
  apply (Transmitter.lateEvents_withoutEvents _ aEvents.tx).trans
  cases aEvents.rxPacketReceived with
  | none => exact radio.tx.earlyEvents_withoutEvents aEvents.tx
  | some packet =>
    apply (packetReceivedCallback_withoutEvents _ config packet).trans
    exact radio.tx.earlyEvents_withoutEvents aEvents.tx

/-- What an event may do to the transmit path. -/
inductive TransmitterStep (config : Config) (radio : Driver) : RadioEvent → Transmitter → Prop
  | kept {event : RadioEvent} {next : Transmitter} (hevent : event.concernsPackets = false)
      (hkept : next.withoutEvents = radio.tx.withoutEvents) :
      TransmitterStep config radio event next
  | writeFrame {iid : ℕ} {aFrame : OtRadioFrame} (hiid : config.isIid iid = true) :
      TransmitterStep config radio (.writeFrame iid aFrame)
        (radio.tx.updateBuffer (txBufIndex iid) fun packet ↦ { packet with frame := aFrame })
  | transmit {iid : ℕ} {rail : RailResults} {gpBuffers : Bool}
      (hiid : config.isIid iid = true) :
      TransmitterStep config radio (.transmit iid rail gpBuffers)
        (radio.transmit config iid rail gpBuffers).tx
  | process {rail : RailResults} {gpBuffers : Bool} :
      TransmitterStep config radio (.process rail gpBuffers)
        (radio.efr32RadioProcess config rail gpBuffers).tx

theorem transmitterStep_of_radioStep {event : RadioEvent} {next : Driver}
    (hstep : radioStep config radio event = some next) :
    TransmitterStep config radio event next.tx := by
  cases step_of_radioStep hstep with
  | railEvents => exact .kept rfl (radio.railCbGeneric_withoutEvents config _)
  | scanTimer | endRssiWait | setMacKeyStep => exact .kept rfl rfl
  | main hcall hmain =>
    cases hmain with
    | writeFrame hiid => exact .writeFrame hiid
    | transmit hiid => exact .transmit hiid
    | energyScan =>
      obtain ⟨_, _, _, _, _, heq⟩ := radio.energyScan_frame config _ _ _ _
      rw [heq]
      exact .kept rfl rfl
    | @getRssi rail =>
      obtain ⟨_, _, _, heq⟩ := otPlatRadioGetRssi_eq radio config rail
      rw [heq]
      exact .kept rfl rfl
    | @receive aChannel rail =>
      obtain ⟨_, _, _, _, heq⟩ := radio.otPlatRadioReceive_eq config rail aChannel
      rw [heq]
      exact .kept rfl rfl
    | @receiveAt aChannel rail =>
      obtain ⟨_, _, _, _, heq⟩ := radio.otPlatRadioReceiveAt_eq config rail aChannel
      rw [heq]
      exact .kept rfl rfl
    | sleep =>
      obtain ⟨_, heq⟩ := radio.otPlatRadioSleep_eq
      rw [heq]
      exact .kept rfl rfl
    | setChannelMaxTransmitPower | setTransmitPower | setPanId | setPromiscuous
      | setMacFrameCounterIfLarger | setMacKey => exact .kept rfl rfl
    | refused hpal hsetting =>
      refine .kept ?_ rfl
      cases event <;> first | rfl | contradiction
    | process => exact .process

end Driver

end OtEfr32.Radio
