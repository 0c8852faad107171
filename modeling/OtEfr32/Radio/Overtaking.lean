import OtEfr32.Radio.Conservation
import OtEfr32.Radio.KeyInstallation
import OtEfr32.Radio.PendingOrder

/-!
# How long a request waits

`efr32RadioProcess` looks at `sPendingCommandQueue` last, behind its calls into the stack.  A host
that asks for the next transmission inside `otPlatRadioTxDone` finds the radio free and is served at
once, and the queue finds the radio busy again.  So a request that waits may wait for any number of
transmissions of another host.
-/

namespace OtEfr32.Radio

open Transition

variable {config : Config} {radio : Driver} {rail : RailResults}

/-! ## A transmission that succeeds -/

namespace Transmitter

variable {tx : Transmitter}

theorem txCurrentPacket_ongoing (h : tx.InPhase config (.ongoing false))
    (hstart : rail.startTx = true) : (tx.txCurrentPacket rail).InPhase config (.ongoing false) := by
  have hprepared : (if getInternalFlag tx.flags [.scheduledRxPending] then
      tx.setFlag [.scheduledRxPending, .scheduledRxStarted] false else tx).InPhase config
        (.ongoing false) := by
    split
    · exact h.setFlag _ _ (by decide)
    · exact h
  unfold txCurrentPacket
  generalize (if getInternalFlag tx.flags [.scheduledRxPending] then
    tx.setFlag [.scheduledRxPending, .scheduledRxStarted] false else tx) = prepared at hprepared
  simp only
  rw [txStartResult, if_pos hstart]
  split
  · exact hprepared
  · exact hprepared.setFlag _ _ (by decide)

theorem startTransmission_ongoing {iid : ℕ} (h : Ready config tx iid)
    (hstart : rail.startTx = true) :
    (tx.startTransmission rail).InPhase config (.ongoing false) := by
  have hongoing := txCurrentPacket_ongoing h.begin hstart
  unfold startTransmission
  simp only
  split
  · exact { hongoing with }
  · exact hongoing

theorem InPhase.writeFrame (h : tx.InPhase config .idle) (index : ℕ) (aFrame : OtRadioFrame) :
    (tx.updateBuffer index fun packet ↦ { packet with frame := aFrame }).InPhase config .idle :=
  h.updateBuffer (fun _ ↦ rfl) fun hne ↦ absurd rfl hne

theorem setSecurity_psdus (tx : Transmitter) (mSecurity : FrameSecurity) :
    (tx.setSecurity mSecurity).inBuffers (fun packet ↦ packet.frame.mPsdu) =
      tx.inBuffers fun packet ↦ packet.frame.mPsdu :=
  tx.updateBuffer_inBuffers _ _ fun _ ↦ rfl

/-- The report of a transmission that has ended. -/
theorem processTxComplete_txDones {cause : TxEnd} (h : tx.InPhase config (.ended cause)) :
    ∃ done, tx.processTxComplete.txDones = tx.txDones ++ [done] ∧
      done.toRequest = ⟨.transmit, tx.currentPacket.iid, tx.currentRequest⟩ ∧
        done.aError = cause.status := by
  have hraised := h.events.getInternalFlag fun _ ↦ TxPhase.event_mem
  have hiid := clearTxDelay_iid (tx.setFlag [tx.completionStatus.2] false)
  unfold processTxComplete
  rw [hraised]
  exact ⟨_, rfl, congrArg (Request.mk .transmit · tx.currentRequest) hiid,
    congrArg Prod.fst h.completionStatus⟩

end Transmitter

/-! ## One round -/

namespace Driver

/-- The main task is behind `otPlatRadioTxDone`, or where it would be, and nothing is to be done but
the requests that wait. -/
structure BehindTxDone (config : Config) (radio : Driver) : Prop where
  location : radio.location = .energyScanCheck
  isInCall : radio.isInCall = false
  visit : radio.rx.visit = none
  received : radio.rx.sRxPacketQueue = []
  scan : radio.scan.sEnergyScanStatus = .idle
  tx : radio.tx.InPhase config .idle

/-- The reports of transmissions: the request and the status. -/
def reports (radio : Driver) : List (Request × OtError) :=
  radio.tx.txDones.map fun done ↦ (done.toRequest, done.aError)

/-- The RAIL event of a packet that was sent. -/
def packetSent : RadioEvent := .railEvents { tx := { txPacketSent := true } }

/-- A host writes the next frame and asks for its transmission, `efr32RadioProcess` goes on to its
end, the packet is sent, and `efr32RadioProcess` reports it. -/
def overtakingRound (iid : ℕ) (aFrame : OtRadioFrame) : List RadioEvent :=
  [.writeFrame iid aFrame, .transmit iid {} false] ++ List.replicate 2 (.process {} false) ++
    packetSent :: List.replicate 3 (.process {} false)

theorem railCbGeneric_packetSent (radio : Driver) (config : Config) :
    radio.railCbGeneric config { tx := { txPacketSent := true } } =
      radio.mapTx fun tx ↦ tx.packetSentCallback false := by
  simp [railCbGeneric, dataRequestCommandCallback, mapTx, Transmitter.completionEvents,
    Transmitter.scheduledEvents, Transmitter.txackEvents, Transmitter.ackTimeoutEvent,
    Transmitter.schedulerEvent]

/-- One part of `efr32RadioProcess`, of several. -/
theorem exec_process (radio : Driver) {next : Driver} (hcall : radio.isInCall = false)
    (hnext : radio.efr32RadioProcess config {} false = next) (parts : ℕ) :
    exec (radioStep config) radio (List.replicate (parts + 1) (.process {} false)) =
      exec (radioStep config) next (List.replicate parts (.process {} false)) := by
  have hstep : radioStep config radio (.process {} false) = some next :=
    (if_neg (ne_true_of_eq_false hcall)).trans (congrArg some hnext)
  rw [List.replicate_succ, exec_cons, hstep, Option.bind_some]

theorem processPendingCommands_busy (radio : Driver) (config : Config) (rail : RailResults)
    (hbusy : radio.isRadioTransmittingOrScanning = true) (gpBuffers : Bool) :
    radio.processPendingCommands config rail gpBuffers = radio := by
  unfold processPendingCommands
  split
  · rfl
  · exact if_pos hbusy

/-- While the radio is busy, `efr32RadioProcess` passes the queue by. -/
theorem exec_toOutside (hlocation : radio.location = .energyScanCheck)
    (hcall : radio.isInCall = false) (hscan : radio.scan.sEnergyScanStatus = .idle)
    (hbusy : radio.isRadioTransmittingOrScanning = true) :
    exec (radioStep config) radio (List.replicate 2 (.process {} false)) =
      some (radio.moveTo .outside) := by
  have hreportable : radio.scan.isReportable = false := by
    rw [EnergyScan.isReportable, hscan]
    exact Bool.and_false _
  have hcheck : radio.efr32RadioProcess config {} false = radio.moveTo .processPendingCommands := by
    simp [efr32RadioProcess, hlocation, hreportable]
  have hqueue : (radio.moveTo .processPendingCommands).efr32RadioProcess config {} false =
      radio.moveTo .outside := by
    have hpass := processPendingCommands_busy (radio.moveTo .processPendingCommands) config {}
      hbusy false
    change (if config.multipan then (radio.moveTo .processPendingCommands).processPendingCommands
      config {} false else radio.moveTo .processPendingCommands).moveTo .outside = _
    rw [hpass, ite_self]
    rfl
  exact (exec_process radio hcall hcheck 1).trans
    (exec_process (radio.moveTo .processPendingCommands) hcall hqueue 0)

/-- The next run of `efr32RadioProcess` comes to its report. -/
theorem exec_toTxDone (hlocation : radio.location = .outside) (hcall : radio.isInCall = false)
    (hvisit : radio.rx.visit = none) (hreceived : radio.rx.sRxPacketQueue = []) :
    exec (radioStep config) radio (List.replicate 3 (.process {} false)) =
      some ((radio.mapTx Transmitter.processTxComplete).moveTo .energyScanCheck) := by
  have henter : radio.efr32RadioProcess config {} false = radio.moveTo .processRxPackets := by
    rw [efr32RadioProcess, hlocation]
  have hrx : (radio.moveTo .processRxPackets).efr32RadioProcess config {} false =
      radio.moveTo .processTxComplete := by
    simp [efr32RadioProcess, moveTo, hvisit, hreceived]
  have hreport : (radio.moveTo .processTxComplete).efr32RadioProcess config {} false =
      (radio.mapTx Transmitter.processTxComplete).moveTo .energyScanCheck := rfl
  calc exec (radioStep config) radio (List.replicate 3 (.process {} false))
      = exec (radioStep config) (radio.moveTo .processRxPackets)
          (List.replicate 2 (.process {} false)) := exec_process radio hcall henter 2
    _ = exec (radioStep config) (radio.moveTo .processTxComplete)
          (List.replicate 1 (.process {} false)) :=
      exec_process (radio.moveTo .processRxPackets) hcall hrx 1
    _ = some ((radio.mapTx Transmitter.processTxComplete).moveTo .energyScanCheck) :=
      exec_process (radio.moveTo .processTxComplete) hcall hreport 0

/-- A frame on a valid channel is on its way, and nothing else has changed for the main task. -/
theorem transmitNow_ongoing (radio : Driver) (rail : RailResults)
    (hidle : radio.tx.InPhase config .idle) {iid : ℕ} (hiid : config.isIid iid = true)
    (hband : config.hasBandConfig
      (radio.tx.sTransmitBuffer (txBufIndex iid)).frame.mChannel = true)
    (hstart : rail.startTx = true) (request : ℕ) :
    ∃ tx security power railChannel transmissionStarts,
      radio.transmitNow config rail iid (txBufIndex iid) request =
        (.none, { radio with tx, security, power, railChannel, transmissionStarts }) ∧
      security.setMacKey = radio.security.setMacKey ∧ tx.InPhase config (.ongoing false) ∧
      (radio.tx.makeCurrent iid request).SameRequest tx ∧
      tx.inBuffers (fun packet ↦ packet.frame.mPsdu) =
        radio.tx.inBuffers fun packet ↦ packet.frame.mPsdu := by
  have hready := Transmitter.makeCurrent_ready hidle hiid request
  have hsecured : ∀ mSecurity, ((radio.tx.makeCurrent iid request).setSecurity mSecurity).inBuffers
      (fun packet ↦ packet.frame.mPsdu) = radio.tx.inBuffers fun packet ↦ packet.frame.mPsdu := by
    intro mSecurity
    rw [Transmitter.setSecurity_psdus]
    exact radio.tx.makeCurrent_inBuffers _ (fun _ _ ↦ rfl) iid request
  unfold transmitNow
  simp only
  rw [if_pos hband]
  obtain ⟨railChannel, transmissionStarts, heq⟩ := recordStart_eq
    ((((radio.efr32RadioLoadChannelConfig (radio.slGetTxPowerForCurrentChannel config)).mapTx
      fun tx ↦ tx.makeCurrent iid request).secureCurrentPacket config iid).mapTx
        fun tx ↦ tx.startTransmission rail) config rail
    (radio.tx.sTransmitBuffer (txBufIndex iid)).frame.mChannel
  rw [heq]
  refine ⟨_, _, _, railChannel, transmissionStarts, rfl, ?_,
    Transmitter.startTransmission_ongoing (hready.setSecurity _) hstart,
    Transmitter.startTransmission_sameRequest .., ?_⟩
  · exact (MacSecurity.SameKeys.radioProcessTransmitSecurity ..).setMacKey
  · exact (Transmitter.startTransmission_inBuffers _ _ rail).trans (hsecured _)

/-- The packet that is sent needs no acknowledgment and is reported. -/
theorem packetSent_reports {tx : Transmitter} (h : tx.InPhase config (.ongoing false))
    (hack : tx.ackRequired = false) :
    (tx.packetSentCallback false).processTxComplete.InPhase config .idle ∧
      (tx.packetSentCallback false).processTxComplete.requests = tx.requests ∧
      ∃ done, (tx.packetSentCallback false).processTxComplete.txDones = tx.txDones ++ [done] ∧
        done.toRequest = ⟨.transmit, tx.currentPacket.iid, tx.currentRequest⟩ ∧
          done.aError = .none := by
  have hended : (tx.packetSentCallback false).InPhase config (.ended .packetSent) := by
    have hsent := Transmitter.packetSentCallback_inPhase h
    rwa [hack] at hsent
  have hsame : tx.SameRequest (tx.packetSentCallback false) :=
    .of_withoutEvents (tx.packetSentCallback_withoutEvents false)
  obtain ⟨done, hdones, hrequest, herror⟩ := Transmitter.processTxComplete_txDones hended
  refine ⟨Transmitter.processTxComplete_inPhase hended, ?_, done, ?_, ?_, herror⟩
  · exact (Transmitter.processTxComplete_requests _).trans hsame.requests
  · rw [hdones, hsame.txDones]
  · rw [hrequest, hsame.iid, hsame.currentRequest]

/-- The driver when the next frame of a host is on its way; the frame needs no acknowledgment. -/
structure IsSending (config : Config) (radio : Driver) (iid : ℕ) (sending : Driver) : Prop where
  location : sending.location = radio.location
  isInCall : sending.isInCall = radio.isInCall
  rx : sending.rx = radio.rx
  scan : sending.scan = radio.scan
  queue : sending.sPendingCommandQueue = radio.sPendingCommandQueue
  ongoing : sending.tx.InPhase config (.ongoing false)
  iid_eq : sending.tx.currentPacket.iid = iid
  currentRequest : sending.tx.currentRequest = radio.tx.requests
  requests : sending.tx.requests = radio.tx.requests + 1
  txDones : sending.tx.txDones = radio.tx.txDones
  noAck : sending.tx.ackRequired = false

/-- The host writes a frame and asks for its transmission: the frame is on its way. -/
theorem exec_nextFrame (hmultipan : config.multipan = true) (hpal : config.canAccessPal = true)
    {iid : ℕ} (hiid : config.isIid iid = true) {aFrame : OtRadioFrame}
    (hchannel : config.hasBandConfig aFrame.mChannel = true)
    (hack : ackRequiredIn aFrame.mPsdu = false) (h : radio.BehindTxDone config) :
    ∃ sending, exec (radioStep config) radio [.writeFrame iid aFrame, .transmit iid {} false] =
      some sending ∧ IsSending config radio iid sending := by
  let written := radio.mapTx fun tx ↦ tx.updateBuffer (txBufIndex iid) fun packet ↦
    { packet with frame := aFrame }
  have hwrite : radioStep config radio (.writeFrame iid aFrame) = some written :=
    (if_neg (ne_true_of_eq_false h.isInCall)).trans (if_pos hiid)
  have hidle : written.tx.InPhase config .idle := h.tx.writeFrame (txBufIndex iid) aFrame
  have hcounted : written.tx.countRequest.InPhase config .idle := { hidle with }
  have hfree : written.isRadioTransmittingOrScanning = false :=
    isRadioTransmittingOrScanning_eq_false.mpr ⟨h.scan, hidle.isBusy⟩
  have hsame := (Transmitter.SameRequest.refl written.tx.countRequest).acceptFrame config iid
    (txBufIndex iid)
  have hframe : ((acceptTransmit config written iid).tx.sTransmitBuffer (txBufIndex iid)).frame =
      aFrame := by
    apply (written.tx.countRequest.acceptFrame_frame config iid (txBufIndex iid)
      (txBufIndex iid)).trans
    change (Function.update radio.tx.sTransmitBuffer (txBufIndex iid) _ (txBufIndex iid)).frame = _
    rw [Function.update_self]
  obtain ⟨tx, security, power, railChannel, transmissionStarts, hnow, hsecurity, hongoing, hrequest,
    hpsdu⟩ := transmitNow_ongoing (acceptTransmit config written iid) {}
      (Transmitter.acceptFrame_inPhase hcounted hiid) hiid (by rw [hframe]; exact hchannel) rfl
      written.tx.requests
  let sending : Driver := { radio with
    tx, security, power, railChannel, transmissionStarts
    accepted := radio.accepted ++ [⟨.transmit, iid, radio.tx.requests⟩] }
  have htransmit : radioStep config written (.transmit iid {} false) = some sending := by
    have hstep : radioStep config written (.transmit iid {} false) =
        some (written.transmit config iid {} false) :=
      (if_neg (ne_true_of_eq_false h.isInCall)).trans (if_pos hiid)
    rw [hstep, transmit_free hmultipan hpal hfree, hnow]
    rfl
  have hiid_eq : tx.currentPacket.iid = iid :=
    hrequest.iid.trans (Transmitter.makeCurrent_ready
      (Transmitter.acceptFrame_inPhase hcounted hiid) hiid _).iid_eq
  obtain ⟨hrequests, hdones⟩ := (acceptTransmit config written iid).tx.makeCurrent_eq iid
    written.tx.requests
  refine ⟨sending, ?_, ?_⟩
  · rw [exec_cons, hwrite, Option.bind_some, exec_cons, htransmit, Option.bind_some, exec_nil]
  exact {
    location := rfl
    isInCall := congrArg (radio.rssiCall.isSome || Option.isSome ·) hsecurity
    rx := rfl
    scan := rfl
    queue := rfl
    ongoing := hongoing
    iid_eq := hiid_eq
    currentRequest := hrequest.currentRequest
    requests := hrequest.requests.trans (hrequests.trans hsame.requests)
    txDones := hrequest.txDones.trans (hdones.trans hsame.txDones)
    noAck := by
      have hcurrent := (hongoing.current TxPhase.noConfusion).2
      have hbuffer := congrFun hpsdu (txBufIndex iid)
      rw [Transmitter.ackRequired, Transmitter.currentPacket, hcurrent, hiid_eq, ← hack]
      exact congrArg ackRequiredIn (hbuffer.trans (congrArg OtRadioFrame.mPsdu hframe)) }

/-- One round: a transmission succeeds and is reported, and what waits still waits. -/
theorem exec_overtakingRound (hmultipan : config.multipan = true)
    (hpal : config.canAccessPal = true) {iid : ℕ} (hiid : config.isIid iid = true)
    {aFrame : OtRadioFrame} (hchannel : config.hasBandConfig aFrame.mChannel = true)
    (hack : ackRequiredIn aFrame.mPsdu = false) (h : radio.BehindTxDone config) :
    ∃ next, exec (radioStep config) radio (overtakingRound iid aFrame) = some next ∧
      next.BehindTxDone config ∧ next.waiting = radio.waiting ∧
      next.tx.requests = radio.tx.requests + 1 ∧
      next.reports = radio.reports ++ [(⟨.transmit, iid, radio.tx.requests⟩, .none)] := by
  obtain ⟨sending, hstarted, hsending⟩ := exec_nextFrame hmultipan hpal hiid hchannel hack h
  have hcall : sending.isInCall = false := hsending.isInCall.trans h.isInCall
  have hscan : sending.scan.sEnergyScanStatus = .idle := by rw [hsending.scan, h.scan]
  have hbusy : sending.isRadioTransmittingOrScanning = true := by
    rw [isRadioTransmittingOrScanning, hsending.ongoing.isBusy]
    exact Bool.or_true _
  have houtside : exec (radioStep config) sending (List.replicate 2 (.process {} false)) =
      some (sending.moveTo .outside) :=
    exec_toOutside (hsending.location.trans h.location) hcall hscan hbusy
  have hsent : radioStep config (sending.moveTo .outside) packetSent =
      some ((sending.moveTo .outside).mapTx fun tx ↦ tx.packetSentCallback false) :=
    congrArg some (railCbGeneric_packetSent ..)
  let reported : Driver := (sending.mapTx fun tx ↦
    (tx.packetSentCallback false).processTxComplete).moveTo .energyScanCheck
  have hreport : exec (radioStep config)
      ((sending.moveTo .outside).mapTx fun tx ↦ tx.packetSentCallback false)
      (List.replicate 3 (.process {} false)) = some reported :=
    exec_toTxDone rfl hcall (by rw [← h.visit, ← hsending.rx]; rfl)
      (by rw [← h.received, ← hsending.rx]; rfl)
  obtain ⟨hidle, hrequests, done, hdones, hrequest, herror⟩ :=
    packetSent_reports hsending.ongoing hsending.noAck
  refine ⟨reported, ?_, ?_, ?_, hrequests.trans hsending.requests, ?_⟩
  · rw [overtakingRound, exec_append, exec_append, hstarted, Option.bind_some, houtside,
      Option.bind_some, exec_cons, hsent, Option.bind_some, hreport]
  · exact {
      location := rfl
      isInCall := hcall
      visit := by rw [← h.visit, ← hsending.rx]; rfl
      received := by rw [← h.received, ← hsending.rx]; rfl
      scan := hscan
      tx := hidle }
  · exact congrArg (List.map PendingCommand.toRequest) hsending.queue
  · calc (sending.tx.packetSentCallback false).processTxComplete.txDones.map
          (fun done ↦ (done.toRequest, done.aError))
        = (radio.tx.txDones ++ [done]).map fun done ↦ (done.toRequest, done.aError) := by
          rw [hdones, hsending.txDones]
      _ = radio.reports ++ [(done.toRequest, done.aError)] := List.map_append
      _ = radio.reports ++ [(⟨.transmit, iid, radio.tx.requests⟩, .none)] := by
          rw [hrequest, herror, hsending.iid_eq, hsending.currentRequest]

/-- The stack respects its contract in a round. -/
theorem along_overtakingRound (hmultipan : config.multipan = true)
    (h : radio.tx.InPhase config .idle) (iid : ℕ) (aFrame : OtRadioFrame) :
    Along (radioStep config) (RequestContract config) radio (overtakingRound iid aFrame) := by
  have hreported : radio.tx.IsReported iid := by
    rw [Transmitter.IsReported, h.started_eq, List.count_append]
    rfl
  refine ⟨⟨hreported, rfl⟩, fun _ _ ↦ along_of_forall_mem fun event hevent state ↦ ?_⟩
  have hevents : event = .transmit iid {} false ∨ event = .process {} false ∨
      event = packetSent := by
    have hrest : event ∈ .transmit iid {} false :: (List.replicate 2 (.process {} false) ++
        packetSent :: List.replicate 3 (.process {} false)) := hevent
    simp only [List.mem_append, List.mem_cons, List.mem_replicate] at hrest
    tauto
  rcases hevents with rfl | rfl | rfl
  · exact ⟨fun hsingle ↦ absurd (hmultipan.symm.trans hsingle) Bool.noConfusion, rfl⟩
  · exact ⟨trivial, rfl⟩
  · exact ⟨trivial, rfl⟩

/-! ## Any number of rounds -/

theorem exec_overtakingRounds (hmultipan : config.multipan = true)
    (hpal : config.canAccessPal = true) {iid : ℕ} (hiid : config.isIid iid = true)
    {aFrame : OtRadioFrame} (hchannel : config.hasBandConfig aFrame.mChannel = true)
    (hack : ackRequiredIn aFrame.mPsdu = false) (h : radio.BehindTxDone config) (rounds : ℕ) :
    ∃ labels final, Along (radioStep config) (RequestContract config) radio labels ∧
      exec (radioStep config) radio labels = some final ∧ final.BehindTxDone config ∧
      final.waiting = radio.waiting ∧ final.tx.requests = radio.tx.requests + rounds ∧
      final.reports = radio.reports ++
        (List.range rounds).map fun k ↦ (⟨.transmit, iid, radio.tx.requests + k⟩, .none) := by
  induction rounds with
  | zero => exact ⟨[], radio, trivial, rfl, h, rfl, rfl, (List.append_nil _).symm⟩
  | succ rounds ih =>
    obtain ⟨labels, middle, hcontract, hrun, hmiddle, hwaiting, hrequests, hreports⟩ := ih
    obtain ⟨final, hround, hfinal, hkept, hcounted, hreported⟩ :=
      exec_overtakingRound hmultipan hpal hiid hchannel hack hmiddle
    refine ⟨labels ++ overtakingRound iid aFrame, final, ?_, ?_, hfinal, hkept.trans hwaiting, ?_,
      ?_⟩
    · exact hcontract.append_of_exec hrun (along_overtakingRound hmultipan hmiddle.tx iid aFrame)
    · rw [exec_append, hrun, Option.bind_some, hround]
    · rw [hcounted, hrequests, Nat.add_assoc]
    · rw [hreported, hreports, hrequests, List.range_succ, List.map_append, List.append_assoc]
      rfl

end Driver

/-- **Waiting without a bound.**  Every run that ends behind `otPlatRadioTxDone`, with the radio
free, can go on so that any number of frames of one host are accepted, sent and reported one after
the other, while the requests in the queue wait. -/
theorem overtaken_anyNumber (hmultipan : config.multipan = true)
    (hpal : config.canAccessPal = true) {labels : List RadioEvent}
    (hcontract : Along (radioStep config) (RequestContract config) (efr32RadioInit config) labels)
    (hrun : exec (radioStep config) (efr32RadioInit config) labels = some radio)
    (hlocation : radio.location = .energyScanCheck) (hcall : radio.isInCall = false)
    (hreceived : radio.rx.visit = none ∧ radio.rx.sRxPacketQueue = [])
    (hfree : radio.isRadioTransmittingOrScanning = false) {iid : ℕ}
    (hiid : config.isIid iid = true) {aFrame : OtRadioFrame}
    (hchannel : config.hasBandConfig aFrame.mChannel = true)
    (hack : ackRequiredIn aFrame.mPsdu = false) (rounds : ℕ) :
    ∃ more final,
      Along (radioStep config) (RequestContract config) (efr32RadioInit config) (labels ++ more) ∧
      exec (radioStep config) (efr32RadioInit config) (labels ++ more) = some final ∧
      final.waiting = radio.waiting ∧
      final.reports = radio.reports ++
        (List.range rounds).map fun k ↦ (⟨.transmit, iid, radio.tx.requests + k⟩, .none) := by
  have hconsistent : TxConsistent config radio := by
    apply Throughout.last _ hrun
    exact hcontract.throughout (fun _ _ _ h hcontract ↦ radioStep_txConsistent h hcontract.1)
      (efr32RadioInit_txConsistent config)
  have hbehind : radio.BehindTxDone config := {
    location := hlocation
    isInCall := hcall
    visit := hreceived.1
    received := hreceived.2
    scan := (Driver.isRadioTransmittingOrScanning_eq_false.mp hfree).1
    tx := Driver.idle_of_free hconsistent hfree }
  obtain ⟨more, final, hmore, hexec, -, hwaiting, -, hreports⟩ :=
    Driver.exec_overtakingRounds hmultipan hpal hiid hchannel hack hbehind rounds
  refine ⟨more, final, hcontract.append_of_exec hrun hmore, ?_, hwaiting, hreports⟩
  rw [exec_append, hrun, Option.bind_some, hexec]

/-- Host 2 asks for a transmission while host 1 is sending, and host 1 has got its report. -/
def overtakenHostRun : List RadioEvent :=
  [.writeFrame 1 { mPsdu := [0x41, 0x88, 1], mChannel := 11 }, .transmit 1 {} false,
    .writeFrame 2 { mPsdu := [0x41, 0x88, 2], mChannel := 15 }, .transmit 2 {} false,
    .railEvents { tx := { txPacketSent := true } }] ++ List.replicate 3 (.process {} false)

/-- The frame that host 1 sends again and again. -/
def nextFrame : OtRadioFrame := { mPsdu := [0x41, 0x88, 3], mChannel := 11 }

theorem overtaken_anyNumber_overtakenHostRun :
    ∃ radio, exec (radioStep .twoHosts) (efr32RadioInit .twoHosts) overtakenHostRun = some radio ∧
      radio.waiting = [⟨.transmit, 2, 1⟩] ∧
      ∃ more final,
        Along (radioStep .twoHosts) (RequestContract .twoHosts) (efr32RadioInit .twoHosts)
          (overtakenHostRun ++ more) ∧
        exec (radioStep .twoHosts) (efr32RadioInit .twoHosts) (overtakenHostRun ++ more) =
          some final ∧
        final.waiting = radio.waiting ∧
        final.reports = radio.reports ++
          (List.range 1000).map fun k ↦ (⟨.transmit, 1, radio.tx.requests + k⟩, .none) :=
  ⟨_, (Option.some_get (by decide)).symm, by decide,
    overtaken_anyNumber rfl rfl (by decide) (Option.some_get (by decide)).symm (by decide)
      (by decide) (by decide) (by decide) (by decide)
      (by decide : Config.twoHosts.hasBandConfig nextFrame.mChannel = true) (by decide) 1000⟩

end OtEfr32.Radio
