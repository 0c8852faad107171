import OtEfr32.Radio.Steps
import OtEfr32.Radio.TxPhase

/-!
# Completion of transmissions

Every order of calls, RAIL events and main-loop steps keeps the transmit path in a phase.  So the
flags never contradict each other, no assertion of the transmit path fails, and every transmission
is reported at most once, with the status of the one event that ended it.
-/

namespace OtEfr32.Radio

open Transition

variable {config : Config} {radio : Driver}

/-! ## The check for a busy radio -/

/-- The check of `otPlatRadioTransmit` for a busy radio reads the state before the call. -/
theorem Driver.acceptFrame_isBusy (radio : Driver) (config : Config) (iid aFrame : ℕ) :
    (radio.mapTx fun tx ↦ tx.acceptFrame config iid aFrame).isRadioTransmittingOrScanning =
      radio.isRadioTransmittingOrScanning :=
  congrArg (radio.scan.sEnergyScanStatus != .idle || ·)
    (Transmitter.isBusy_congr fun flag _ ↦
      congrFun (radio.tx.acceptFrame_flags config iid aFrame) flag)

/-! ## The RAIL callback -/

theorem packetReceivedCallback_inPhase (radio : Driver) {phase : TxPhase}
    (h : radio.tx.InPhase config phase)
    (packet : RxPacket) :
    ∃ after, after.isIdle = phase.isIdle ∧
      (radio.packetReceivedCallback config packet).tx.InPhase config after := by
  unfold Driver.packetReceivedCallback
  split
  · exact ⟨phase, rfl, h⟩
  split
  · split
    · exact Transmitter.ackReceived_inPhase h packet
    · exact ⟨phase, rfl, h⟩
  split
  · refine ⟨phase, rfl, ?_⟩
    simp only
    split
    · exact h.setFlag _ _ (by decide)
    · exact h
  · exact ⟨phase, rfl, h⟩

/-- The events behind the received packet. -/
theorem lateEvents_inPhase {tx : Transmitter} {phase : TxPhase} (h : tx.InPhase config phase)
    (aEvents : TxEvents) :
    ∃ after, after.isIdle = phase.isIdle ∧
      (((tx.txackEvents aEvents).ackTimeoutEvent aEvents).schedulerEvent aEvents).InPhase config
        after := by
  refine ⟨_, ?_, Transmitter.schedulerEvent_inPhase
    (Transmitter.ackTimeoutEvent_inPhase (Transmitter.txackEvents_inPhase h _) _) _⟩
  split <;> split <;> simp

/-- The RAIL events of a call may end a transmission, but neither start nor report one. -/
theorem railCbGeneric_inPhase {phase : TxPhase} (h : radio.tx.InPhase config phase)
    (aEvents : RailEvents) :
    ∃ after, after.isIdle = phase.isIdle ∧
      (radio.railCbGeneric config aEvents).tx.InPhase config after := by
  obtain ⟨security, hacked⟩ := radio.dataRequestCommandCallback_eq config
    aEvents.dataRequestCommand
  obtain ⟨completed, hcompleted, hphase⟩ := Transmitter.completionEvents_inPhase h aEvents.tx
  obtain ⟨scheduled, hscheduled, hphase⟩ := Transmitter.scheduledEvents_inPhase hphase aEvents.tx
  have hidle := hscheduled.trans hcompleted
  unfold Driver.railCbGeneric
  rw [hacked]
  cases aEvents.rxPacketReceived with
  | none =>
    obtain ⟨after, hafter, hlate⟩ := lateEvents_inPhase hphase aEvents.tx
    exact ⟨after, hafter.trans hidle, hlate⟩
  | some packet =>
    obtain ⟨received, hreceived, hphase⟩ := packetReceivedCallback_inPhase
      (Driver.mapTx { radio with security } fun tx ↦
        (tx.completionEvents aEvents.tx).scheduledEvents aEvents.tx) hphase packet
    obtain ⟨after, hafter, hlate⟩ := lateEvents_inPhase hphase aEvents.tx
    exact ⟨after, hafter.trans (hreceived.trans hidle), hlate⟩

/-- A queued command is for an instance, and a queued frame is in the buffer of its instance. -/
def PendingCommand.IsValid (config : Config) (command : PendingCommand) : Prop :=
  config.isIid command.iid = true ∧
    ∀ txFrame request, command.request = .transmit txFrame request →
      txFrame = txBufIndex command.iid

/-- The transmit path is in a phase, and the queued commands are valid. -/
structure TxConsistent (config : Config) (radio : Driver) : Prop where
  phase : ∃ phase, radio.tx.InPhase config phase
  pending : ∀ command ∈ radio.sPendingCommandQueue, command.IsValid config

namespace TxConsistent

/-- A change that leaves the transmit path and the queue alone. -/
theorem of_eq {next : Driver} (h : TxConsistent config radio) (htx : next.tx = radio.tx)
    (hpending : next.sPendingCommandQueue = radio.sPendingCommandQueue) :
    TxConsistent config next := by
  obtain ⟨phase, hphase⟩ := h.phase
  exact ⟨⟨phase, htx ▸ hphase⟩, hpending ▸ h.pending⟩

/-- A change of the transmit path that keeps it in a phase. -/
theorem mapTx (h : TxConsistent config radio) {change : Transmitter → Transmitter}
    (hchange : ∀ phase, radio.tx.InPhase config phase →
      ∃ after, (change radio.tx).InPhase config after) :
    TxConsistent config (radio.mapTx change) := by
  obtain ⟨phase, hphase⟩ := h.phase
  exact ⟨hchange phase hphase, h.pending⟩

theorem setFlag (h : TxConsistent config radio) (mask : List Flag) (val : Bool)
    (hmask : ∀ flag ∈ Transmitter.phaseFlags, flag ∉ mask) :
    TxConsistent config (radio.mapTx fun tx ↦ tx.setFlag mask val) :=
  h.mapTx fun phase hphase ↦ ⟨phase, hphase.setFlag mask val hmask⟩

/-- An iid of an instance survives its two-bit field. -/
theorem mod_iid (config : Config) {iid : ℕ} (hiid : config.isIid iid = true) : iid % 4 = iid := by
  have hle := config.multipleInstanceNum_le
  cases hmultipan : config.multipan with
  | true =>
    have := (Config.isIid_multipan hmultipan).mp hiid
    omega
  | false => rw [(Config.isIid_single hmultipan).mp hiid]

theorem pushPendingCommand (h : TxConsistent config radio) {iid : ℕ} {request : PendingRequest}
    (hiid : config.isIid iid = true)
    (hrequest : ∀ txFrame number, request = .transmit txFrame number → txFrame = txBufIndex iid) :
    TxConsistent config (radio.pushPendingCommand config request iid) := by
  unfold Driver.pushPendingCommand
  split
  case isFalse => exact h.of_eq rfl rfl
  case isTrue =>
    refine ⟨h.phase, fun command hcommand ↦ ?_⟩
    rcases List.mem_append.mp hcommand with hold | hnew
    · exact h.pending command hold
    · obtain rfl := List.mem_singleton.mp hnew
      rw [PendingCommand.IsValid, mod_iid config hiid]
      exact ⟨hiid, hrequest⟩

/-- A transmission started while there is none. -/
theorem transmitNow (h : TxConsistent config radio) (hidle : radio.tx.InPhase config .idle)
    {iid : ℕ} (hiid : config.isIid iid = true) (rail : RailResults) (aFrame request : ℕ) :
    TxConsistent config (radio.transmitNow config rail iid aFrame request).2 := by
  unfold Driver.transmitNow
  simp only
  split
  case isFalse => exact h
  case isTrue =>
    have hready := (Transmitter.makeCurrent_ready hidle hiid request).setSecurity
    obtain ⟨after, -, hafter⟩ := Transmitter.startTransmission_inPhase (hready _) rail
    unfold Driver.recordStart
    split <;> exact ⟨⟨after, hafter⟩, h.pending⟩

theorem otPlatRadioTransmit (h : TxConsistent config radio) {iid : ℕ}
    (hiid : config.isIid iid = true)
    (hsingle : config.multipan = false → radio.tx.InPhase config .idle) (rail : RailResults)
    (gpBuffers : Bool) (request : ℕ) :
    TxConsistent config
      (radio.otPlatRadioTransmit config rail gpBuffers iid (txBufIndex iid) request).2 := by
  have haccepted : TxConsistent config
      (radio.mapTx fun tx ↦ tx.acceptFrame config iid (txBufIndex iid)) :=
    h.mapTx fun phase hphase ↦ ⟨phase, Transmitter.acceptFrame_inPhase hphase hiid⟩
  unfold Driver.otPlatRadioTransmit
  split
  case isTrue => exact h
  split
  case isTrue => exact h
  simp only
  split
  case isTrue =>
    exact haccepted.pushPendingCommand hiid fun txFrame number heq ↦
      (PendingRequest.transmit.inj heq).1.symm
  case isFalse hfree =>
    refine haccepted.transmitNow ?_ hiid rail _ request
    cases hmultipan : config.multipan with
    | false => exact Transmitter.acceptFrame_inPhase (hsingle hmultipan) hiid
    | true =>
      obtain ⟨phase, hphase⟩ := haccepted.phase
      have hbusy : phase.isIdle = true := by
        rw [hmultipan, Bool.true_and, Driver.isRadioTransmittingOrScanning, hphase.isBusy] at hfree
        simp only [Bool.or_eq_true, Bool.not_eq_true', not_or] at hfree
        exact Bool.of_not_eq_false hfree.2
      cases phase with
      | idle => exact hphase
      | _ => contradiction

theorem otPlatRadioEnergyScan (h : TxConsistent config radio) {iid : ℕ}
    (hiid : config.isIid iid = true) (rail : RailResults)
    (request aScanChannel aScanDuration : ℕ) :
    TxConsistent config
      (radio.otPlatRadioEnergyScan config rail iid request aScanChannel aScanDuration).2 := by
  unfold Driver.otPlatRadioEnergyScan
  split
  · exact h.of_eq rfl rfl
  split
  · exact h.pushPendingCommand hiid fun txFrame number heq ↦ PendingRequest.noConfusion heq
  · simp only
    split <;> exact h.of_eq rfl rfl

theorem railCbGeneric (h : TxConsistent config radio) (aEvents : RailEvents) :
    TxConsistent config (radio.railCbGeneric config aEvents) := by
  obtain ⟨phase, hphase⟩ := h.phase
  obtain ⟨after, -, hafter⟩ := railCbGeneric_inPhase hphase aEvents
  obtain ⟨tx, rx, security, heq⟩ := Driver.railCbGeneric_eq radio config aEvents
  refine ⟨⟨after, hafter⟩, ?_⟩
  rw [heq]
  exact h.pending

/-- The first queued command is taken from the queue. -/
theorem dequeue (h : TxConsistent config radio) {command : PendingCommand}
    {rest : List PendingCommand} (hqueue : radio.sPendingCommandQueue = command :: rest) :
    TxConsistent config { radio with sPendingCommandQueue := rest } :=
  ⟨h.phase, fun other hother ↦ h.pending other (hqueue ▸ List.mem_cons_of_mem _ hother)⟩

theorem processPart (h : TxConsistent config radio) {rail : RailResults} {gpBuffers : Bool}
    {next : Driver} (hpart : Driver.ProcessPart config rail gpBuffers radio next) :
    TxConsistent config next := by
  cases hpart with
  | txComplete =>
    exact (h.mapTx fun phase hphase ↦
      ⟨_, Transmitter.processTxComplete_inPhase hphase⟩).of_eq rfl rfl
  | @transmit iid txFrame request rest hdue hqueue =>
    obtain ⟨_, hmultipan, _⟩ := Driver.guards_of_dueCommand hdue
    obtain ⟨hiid, hframe⟩ := h.pending _ (hqueue ▸ List.mem_cons_self)
    have htransmit := (h.dequeue hqueue).otPlatRadioTransmit hiid
      (fun hsingle ↦ absurd hmultipan (by rw [hsingle]; decide)) rail gpBuffers request
    rw [hframe txFrame request rfl]
    exact htransmit.of_eq rfl rfl
  | @energyScan iid scanChannel scanDuration request rest hdue hqueue =>
    have hvalid := h.pending _ (hqueue ▸ List.mem_cons_self)
    exact ((h.dequeue hqueue).otPlatRadioEnergyScan hvalid.1 rail request scanChannel
      scanDuration).of_eq rfl rfl
  | _ => exact h.of_eq rfl rfl

theorem otPlatRadioReceive (h : TxConsistent config radio) (rail : RailResults) (aChannel : ℕ) :
    TxConsistent config (radio.otPlatRadioReceive config rail aChannel).2 := by
  unfold Driver.otPlatRadioReceive
  split
  · exact h
  split
  · exact h
  split
  · exact h
  simp only
  split
  · exact h.of_eq rfl rfl
  · exact (h.setFlag [.scheduledRxPending] false (by decide)).of_eq rfl rfl

theorem otPlatRadioReceiveAt (h : TxConsistent config radio) (rail : RailResults)
    (aChannel : ℕ) : TxConsistent config (radio.otPlatRadioReceiveAt config rail aChannel).2 := by
  have hset := h.setFlag [.scheduledRxPending] true (by decide)
  unfold Driver.otPlatRadioReceiveAt
  split
  · exact h
  split
  · exact h
  split
  · exact h
  simp only
  split
  · exact (hset.setFlag [.scheduledRxPending] false (by decide)).of_eq rfl rfl
  · exact hset.of_eq rfl rfl

theorem otPlatRadioSleep (h : TxConsistent config radio) :
    TxConsistent config radio.otPlatRadioSleep.2 := by
  unfold Driver.otPlatRadioSleep
  split
  · exact h
  · exact h.setFlag _ _ (by decide)

theorem otPlatRadioGetRssi (h : TxConsistent config radio) (rail : RailResults) :
    TxConsistent config (radio.otPlatRadioGetRssi config rail) := by
  unfold Driver.otPlatRadioGetRssi
  simp only
  split
  · exact h.of_eq rfl rfl
  · split <;> split <;> exact h.of_eq rfl rfl

theorem energyScan (h : TxConsistent config radio) {iid : ℕ} (hiid : config.isIid iid = true)
    (aScanChannel aScanDuration : ℕ) (rail : RailResults) :
    TxConsistent config (radio.energyScan config iid aScanChannel aScanDuration rail) := by
  have hcounted : TxConsistent config (radio.mapScan EnergyScan.countRequest) := h.of_eq rfl rfl
  have hscan := hcounted.otPlatRadioEnergyScan hiid rail radio.scan.requests aScanChannel
    aScanDuration
  obtain ⟨_, heq⟩ := radio.energyScan_eq config iid aScanChannel aScanDuration rail
  rw [heq]
  exact hscan.of_eq rfl rfl

theorem transmit (h : TxConsistent config radio) {iid : ℕ} (hiid : config.isIid iid = true)
    (hsingle : config.multipan = false → radio.tx.InPhase config .idle) (rail : RailResults)
    (gpBuffers : Bool) : TxConsistent config (radio.transmit config iid rail gpBuffers) := by
  have hcounted : TxConsistent config
      (radio.mapTx Transmitter.countRequest) :=
    h.mapTx fun phase hphase ↦ ⟨phase, { hphase with }⟩
  have htransmit := hcounted.otPlatRadioTransmit hiid
    (fun hno ↦ { hsingle hno with }) rail gpBuffers radio.tx.requests
  obtain ⟨_, heq⟩ := radio.transmit_eq config iid rail gpBuffers
  rw [heq]
  exact htransmit.of_eq rfl rfl

end TxConsistent

/-! ## Runs -/

/-- Every transmission of an instance that was started has been reported to it. -/
def Transmitter.IsReported (tx : Transmitter) (iid : ℕ) : Prop :=
  tx.started.count iid = (tx.txDones.map TxDone.iid).count iid

/-- What the stack respects: an instance does not write into its transmit buffer while its frame is
on the way, and in a single-PAN build it transmits again only when the previous frame is reported.
In a multipan build the check for a busy radio stands for the latter. -/
def TxContract (config : Config) (radio : Driver) : RadioEvent → Prop
  | .writeFrame iid _ => radio.tx.IsReported iid
  | .transmit iid _ _ => config.multipan = false → radio.tx.IsReported iid
  | _ => True

instance (tx : Transmitter) (iid : ℕ) : Decidable (tx.IsReported iid) :=
  inferInstanceAs (Decidable (_ = _))

instance : ∀ radio event, Decidable (TxContract config radio event)
  | radio, .writeFrame iid _ => inferInstanceAs (Decidable (radio.tx.IsReported iid))
  | radio, .transmit iid _ _ =>
    inferInstanceAs (Decidable (config.multipan = false → radio.tx.IsReported iid))
  | _, .energyScan .. | _, .getRssi _ | _, .endRssiWait _ | _, .receive .. | _, .receiveAt ..
  | _, .sleep | _, .setChannelMaxTransmitPower .. | _, .setTransmitPower .. | _, .setPanId ..
  | _, .setPromiscuous _ | _, .setMacFrameCounterIfLarger .. | _, .setMacKey _ | _, .setMacKeyStep
  | _, .scanTimer .. | _, .railEvents _ | _, .process .. => .isTrue trivial

theorem Transmitter.InPhase.idle_or_ne {tx : Transmitter} {phase : TxPhase}
    (h : tx.InPhase config phase) {iid : ℕ} (hreported : tx.IsReported iid) :
    phase = .idle ∨ tx.currentPacket.iid ≠ iid := by
  unfold Transmitter.IsReported at hreported
  rw [h.started_eq, List.count_append] at hreported
  cases phase with
  | idle => exact .inl rfl
  | _ =>
    refine .inr fun heq ↦ ?_
    simp [TxPhase.isIdle, heq] at hreported

theorem radioStep_txConsistent {event : RadioEvent} {next : Driver}
    (h : TxConsistent config radio) (hcontract : TxContract config radio event)
    (hstep : radioStep config radio event = some next) : TxConsistent config next := by
  cases Driver.step_of_radioStep hstep with
  | railEvents => exact h.railCbGeneric _
  | scanTimer => exact h.of_eq rfl rfl
  | endRssiWait => exact h.of_eq rfl rfl
  | setMacKeyStep => exact h.of_eq rfl rfl
  | main hcall hmain =>
    cases hmain with
    | @writeFrame iid aFrame hiid =>
      refine h.mapTx fun phase hphase ↦ ⟨phase, hphase.updateBuffer (fun _ ↦ rfl) ?_⟩
      intro hne hindex
      obtain hidle | hother := hphase.idle_or_ne hcontract
      · exact absurd hidle hne
      · obtain ⟨hcurrent, heq⟩ := hphase.current hne
        have := config.txBufIndex_inj hcurrent hiid (Option.some.inj (heq.symm.trans hindex))
        exact absurd this hother
    | @transmit iid rail gpBuffers hiid =>
      refine h.transmit hiid (fun hsingle ↦ ?_) rail gpBuffers
      obtain ⟨phase, hphase⟩ := h.phase
      obtain rfl | hother := hphase.idle_or_ne (hcontract hsingle)
      · exact hphase
      · cases phase with
        | idle => exact hphase
        | _ =>
          have hcurrent := (hphase.current TxPhase.noConfusion).1
          rw [Config.isIid_single hsingle] at hcurrent hiid
          exact absurd (hcurrent.trans hiid.symm) hother
    | energyScan hiid => exact h.energyScan hiid _ _ _
    | getRssi => exact h.otPlatRadioGetRssi _
    | receive => exact h.otPlatRadioReceive _ _
    | receiveAt => exact h.otPlatRadioReceiveAt _ _
    | sleep => exact h.otPlatRadioSleep
    | setChannelMaxTransmitPower | setTransmitPower | setPanId | setPromiscuous
      | setMacFrameCounterIfLarger | setMacKey => exact h.of_eq rfl rfl
    | refused => exact h
    | process => exact h.processPart (radio.processPart config _ _)

theorem efr32RadioInit_txConsistent (config : Config) :
    TxConsistent config (efr32RadioInit config) where
  phase := ⟨.idle, {
    ongoing := rfl
    waiting := rfl
    events := fun _ _ ↦ rfl
    ack := nofun
    current := fun hne ↦ absurd rfl hne
    started := rfl
    reported := rfl
    failedAsserts := rfl }⟩
  pending := nofun

/-- The transmit path behaves: the flags do not contradict each other, no assertion has failed, and
transmissions end and are reported in the order of their starts, each at most once and with the
status of the event that ended it. -/
structure Transmitter.TxLaw (tx : Transmitter) : Prop where
  /-- At most one bit of `RADIO_TX_EVENTS` is set. -/
  one_event : ∀ flag ∈ radioTxEvents, ∀ other ∈ radioTxEvents,
    getInternalFlag tx.flags [flag] = true → getInternalFlag tx.flags [other] = true →
      flag = other
  /-- `FLAG_ONGOING_TX_DATA` is never set together with such a bit. -/
  ongoing : getInternalFlag tx.flags [.ongoingTxData] = true →
    getInternalFlag tx.flags radioTxEvents = false
  /-- `FLAG_WAITING_FOR_ACK` implies `FLAG_ONGOING_TX_DATA` and a current packet that requests an
  ACK. -/
  waiting : getInternalFlag tx.flags [.waitingForAck] = true →
    getInternalFlag tx.flags [.ongoingTxData] = true ∧
      ∃ index, tx.sCurrentTxPacket = some index ∧
        ackRequiredIn (tx.sTransmitBuffer index).frame.mPsdu = true
  failedAsserts : tx.failedAsserts = []
  ended : tx.ended.map Prod.fst <+: tx.started
  reported : tx.txDones.map (fun done ↦ (done.iid, done.aError)) <+:
    tx.ended.map fun entry ↦ (entry.1, entry.2.status)

theorem Transmitter.InPhase.txLaw {tx : Transmitter} {phase : TxPhase}
    (h : tx.InPhase config phase) : tx.TxLaw where
  one_event := by
    intro flag hflag other hother hset hset'
    rw [getInternalFlag_singleton, h.events _ hflag, beq_iff_eq] at hset
    rw [getInternalFlag_singleton, h.events _ hother, beq_iff_eq] at hset'
    exact Option.some.inj (hset.symm.trans hset')
  ongoing := by
    intro hongoing
    rw [h.ongoing_iff] at hongoing
    rw [h.events.getInternalFlag fun _ ↦ TxPhase.event_mem]
    cases phase <;> first | rfl | contradiction
  waiting := by
    intro hwaiting
    rw [h.waiting_iff] at hwaiting
    rw [h.ongoing_iff]
    cases phase with
    | ongoing waitingForAck =>
      have hpacket := (h.current TxPhase.noConfusion).2
      refine ⟨rfl, _, hpacket, ?_⟩
      have hack := h.ack hwaiting
      rw [Transmitter.ackRequired, Transmitter.currentPacket, hpacket] at hack
      exact hack
    | _ => contradiction
  failedAsserts := h.failedAsserts
  ended := ⟨_, h.started.symm⟩
  reported := ⟨_, h.reported.symm⟩

/-- In every run of the driver the transmit path behaves in every state. -/
theorem txLaw_throughout (config : Config) (labels : List RadioEvent)
    (hcontract : Along (radioStep config) (TxContract config) (efr32RadioInit config) labels) :
    Throughout (radioStep config) (fun radio ↦ radio.tx.TxLaw) (efr32RadioInit config) labels :=
  (hcontract.throughout (fun _ _ _ h hcontract hstep ↦
    radioStep_txConsistent h hcontract hstep) (efr32RadioInit_txConsistent config)).mono
      fun _ h ↦ h.phase.elim fun _ hphase ↦ hphase.txLaw

/-- A frame that requests an ACK, sent twice: the first ACK comes with the event of the sent packet
and with a timeout, the second does not come. -/
def twoTransmissions : List RadioEvent :=
  let aFrame : OtRadioFrame := { mPsdu := [0x61, 0x88, 7], mChannel := 11 }
  let ack : RxPacket := { psdu := [0x02, 0x10, 7], isAck := true }
  [.writeFrame 0 aFrame, .transmit 0 {} false,
    .railEvents { tx := { txPacketSent := true, rxAckTimeout := true }, rxPacketReceived := ack },
    .process {} false, .process {} false, .process {} false,
    .writeFrame 0 aFrame, .transmit 0 {} false,
    .railEvents { tx := { txPacketSent := true } },
    .railEvents { tx := { rxAckTimeout := true, schedulerError := true } },
    .process {} false, .process {} false, .process {} false, .process {} false,
    .process {} false, .process {} false, .process {} false]

theorem txLaw_throughout_twoTransmissions :
    ((exec (radioStep .singlePan) (efr32RadioInit .singlePan) twoTransmissions).map fun radio ↦
      radio.tx.txDones.map TxDone.aError) = some [.none, .noAck] ∧
    Throughout (radioStep .singlePan) (fun radio ↦ radio.tx.TxLaw) (efr32RadioInit .singlePan)
      twoTransmissions :=
  ⟨by decide, txLaw_throughout .singlePan twoTransmissions (by decide)⟩

end OtEfr32.Radio
