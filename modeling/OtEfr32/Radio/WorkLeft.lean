import Mathlib.Algebra.GroupWithZero.Nat
import OtEfr32.Radio.OneRequest
import OtEfr32.Transition.Turns

/-!
# The work that is left

How much the driver still has to do for the requests that it has accepted: a transmission must be
sent, acknowledged and reported, a scan must read the channel and be reported, and a command that
waits must do all of this.  Every function of the driver but those that take a new request lowers
the work or keeps it.
-/

namespace OtEfr32.Radio

variable {config : Config} {rail : RailResults}

/-! ## The transmit path -/

/-- The steps that are left of a transmission: it is sent, the acknowledgment arrives or does not,
and the end is reported. -/
def TxPhase.workLeft : TxPhase → ℕ
  | .idle => 0
  | .ongoing waitingForAck => if waitingForAck then 2 else 3
  | .ended _ => 1

namespace TxPhase

variable {phase : TxPhase}

theorem finish_workLeft (cause : TxEnd) (phase : TxPhase) :
    (phase.finish cause).workLeft ≤ min phase.workLeft 1 := by
  rcases phase with - | (_ | _) | - <;> simp [finish, workLeft]

theorem timeOut_workLeft (phase : TxPhase) : phase.timeOut.workLeft ≤ phase.workLeft := by
  rcases phase with - | (_ | _) | - <;> simp [timeOut, workLeft]

/-- Behind the time for the acknowledgment no packet waits for one. -/
theorem timeOut_workLeft_of_le (h : phase.workLeft ≤ 2) : phase.timeOut.workLeft ≤ 1 := by
  rcases phase with - | (_ | _) | -
  case ongoing.false => exact absurd h (by decide)
  all_goals simp [timeOut, workLeft]

theorem sent_workLeft {ackRequired : Bool} (hwaits : phase.isWaiting = true → ackRequired = true) :
    (phase.sent ackRequired).workLeft ≤ min phase.workLeft 2 := by
  rcases phase with - | (_ | _) | - <;> cases ackRequired <;> simp_all [sent, workLeft, isWaiting]

end TxPhase

namespace Transmitter

variable {tx : Transmitter} {phase : TxPhase}

/-- The steps that are left, as the flags tell them. -/
def workLeft (tx : Transmitter) : ℕ :=
  if getInternalFlag tx.flags [.ongoingTxData] then
    if getInternalFlag tx.flags [.waitingForAck] then 2 else 3
  else if getInternalFlag tx.flags radioTxEvents then 1 else 0

theorem InPhase.workLeft_eq (h : tx.InPhase config phase) : tx.workLeft = phase.workLeft := by
  rw [workLeft, h.ongoing_iff, h.waiting_iff, h.events.getInternalFlag fun _ ↦ TxPhase.event_mem]
  cases phase <;> rfl

theorem setFlag_workLeft (tx : Transmitter) {mask : List Flag} (val : Bool)
    (hmask : ∀ flag ∈ phaseFlags, flag ∉ mask) : (tx.setFlag mask val).workLeft = tx.workLeft := by
  have hsame : ∀ flag ∈ phaseFlags, (tx.setFlag mask val).flags flag = tx.flags flag :=
    fun flag hflag ↦ if_neg (hmask flag hflag)
  simp [workLeft, getInternalFlag, radioTxEvents, hsame .ongoingTxData (by decide),
    hsame .waitingForAck (by decide), hsame .txSuccess (by decide), hsame .txCcaFailed (by decide),
    hsame .txNoAck (by decide), hsame .txSchedulerError (by decide), hsame .txFailed (by decide)]

theorem workLeft_le (tx : Transmitter) : tx.workLeft ≤ 3 := by
  unfold workLeft
  split_ifs <;> decide

theorem workLeft_eq_zero (h : tx.workLeft = 0) : tx.isBusy = false := by
  unfold workLeft at h
  rw [isBusy]
  split_ifs at h with hongoing _ hevents
  rw [Bool.of_not_eq_true hongoing, Bool.of_not_eq_true hevents, Bool.or_false]

end Transmitter

/-- RAIL tells how the sending of a packet has ended. -/
def TxEvents.endSending (aEvents : TxEvents) : Bool :=
  aEvents.txPacketSent || aEvents.txChannelBusy || aEvents.txBlocked || aEvents.txAborted

namespace Transmitter

variable {tx : Transmitter} {phase : TxPhase}

theorem completionEvents_workLeft (h : tx.InPhase config phase) (aEvents : TxEvents) :
    ∃ after, (tx.completionEvents aEvents).InPhase config after ∧
      after.workLeft ≤ phase.workLeft ∧ (aEvents.endSending = true → after.workLeft ≤ 2) := by
  have hfinish (cause : TxEnd) : (phase.finish cause).workLeft ≤ phase.workLeft ∧
      (aEvents.endSending = true → (phase.finish cause).workLeft ≤ 2) := by
    have hle := phase.finish_workLeft cause
    omega
  unfold completionEvents
  split
  · have hle := TxPhase.sent_workLeft h.ack
    exact ⟨_, packetSentCallback_inPhase h, by omega, fun _ ↦ by omega⟩
  split
  · exact ⟨_, txFailedCallback_inPhase h rfl, hfinish _⟩
  split
  · exact ⟨_, txFailedCallback_inPhase h rfl, hfinish _⟩
  split
  · exact ⟨_, txFailedCallback_inPhase h rfl, hfinish _⟩
  case isFalse hsent hbusy hblocked haborted =>
    refine ⟨phase, h, le_rfl, fun hends ↦ ?_⟩
    simp [TxEvents.endSending, hsent, hbusy, hblocked, haborted] at hends

theorem scheduledEvents_workLeft (h : tx.InPhase config phase) (aEvents : TxEvents) :
    ∃ after, (tx.scheduledEvents aEvents).InPhase config after ∧
      after.workLeft ≤ phase.workLeft := by
  unfold scheduledEvents
  split
  case isTrue =>
    have hstarted : (if aEvents.scheduledStarted then tx.setFlag [.scheduledRxStarted] true
        else tx).InPhase config phase := by
      split
      · exact h.setFlag _ _ (by decide)
      · exact h
    simp only
    split
    · exact ⟨phase, hstarted.setFlag _ _ (by decide), le_rfl⟩
    · exact ⟨phase, hstarted, le_rfl⟩
  case isFalse =>
    split
    · exact ⟨phase, (h.setFlag _ _ (by decide)).setFlag _ _ (by decide), le_rfl⟩
    split
    · have hle := phase.finish_workLeft .scheduledTxMissed
      exact ⟨_, txFailedCallback_inPhase (h.setFlag _ _ (by decide)) rfl, by omega⟩
    · exact ⟨phase, h, le_rfl⟩

/-- The packet is the acknowledgment that the current packet waits for. -/
def isAckedBy (tx : Transmitter) (packet : RxPacket) : Bool :=
  packet.valid && packet.isAck && decide (4 ≤ packet.psdu.length + 2) && isAckIn packet.psdu &&
    dsnIn packet.psdu == dsnIn tx.currentPacket.frame.mPsdu && packet.timestampValid

theorem ackReceived_workLeft (h : tx.InPhase config phase) (packet : RxPacket) :
    ∃ after, (tx.ackReceived packet).InPhase config after ∧ after.workLeft ≤ phase.workLeft ∧
      (dsnIn packet.psdu = dsnIn tx.currentPacket.frame.mPsdu → packet.timestampValid = true →
        phase.workLeft ≤ 2 → after.workLeft ≤ 1) := by
  have hcopied : InPhase config { tx with sReceiveAckPsdu := packet.psdu } phase := { h with }
  unfold ackReceived
  simp only
  split
  case isTrue hmatch =>
    rw [Bool.and_eq_true, Bool.and_eq_true, txWaitingForAck, Bool.and_eq_true,
      hcopied.ongoing_iff] at hmatch
    cases phase with
    | idle => exact absurd hmatch.1.1.1 Bool.false_ne_true
    | ended cause => exact absurd hmatch.1.1.1 Bool.false_ne_true
    | ongoing waitingForAck =>
      refine ⟨.ended .ackReceived,
        hcopied.finish .ackReceived rfl rfl ((hcopied.events.set _).setOther (by decide)), ?_,
        fun _ _ _ ↦ le_rfl⟩
      cases waitingForAck <;> decide
  case isFalse hmatch =>
    refine ⟨phase, hcopied, le_rfl, fun hdsn htimestamp hle ↦ ?_⟩
    rcases phase with - | (_ | _) | cause
    case ongoing.true =>
      have hwait : txWaitingForAck { tx with sReceiveAckPsdu := packet.psdu } = true := by
        rw [txWaitingForAck, hcopied.ongoing_iff, hcopied.ack rfl]
        rfl
      refine absurd ?_ hmatch
      rw [hwait, htimestamp, Bool.and_true, Bool.true_and, beq_iff_eq]
      exact hdsn
    case ongoing.false => exact absurd hle (by decide)
    case idle => exact Nat.zero_le _
    case ended => exact le_rfl

/-- The events behind the received packet. -/
theorem lateEvents_workLeft (h : tx.InPhase config phase) (aEvents : TxEvents) :
    ∃ after, (((tx.txackEvents aEvents).ackTimeoutEvent aEvents).schedulerEvent aEvents).InPhase
        config after ∧ after.workLeft ≤ phase.workLeft ∧
      (aEvents.rxAckTimeout = true → phase.workLeft ≤ 2 → after.workLeft ≤ 1) ∧
      (aEvents.schedulerError = true → after.workLeft ≤ 1) := by
  have hafter := schedulerEvent_inPhase
    (ackTimeoutEvent_inPhase (txackEvents_inPhase h aEvents) aEvents) aEvents
  have htimed : (if aEvents.rxAckTimeout then phase.timeOut else phase).workLeft ≤
        phase.workLeft ∧
      (aEvents.rxAckTimeout = true → phase.workLeft ≤ 2 →
        (if aEvents.rxAckTimeout then phase.timeOut else phase).workLeft ≤ 1) := by
    split
    case isTrue => exact ⟨phase.timeOut_workLeft, fun _ ↦ TxPhase.timeOut_workLeft_of_le⟩
    case isFalse htimer => exact ⟨le_rfl, fun h ↦ absurd h htimer⟩
  generalize (if aEvents.rxAckTimeout then phase.timeOut else phase) = timed at hafter htimed
  obtain ⟨hle, hexpired⟩ := htimed
  refine ⟨_, hafter, ?_⟩
  split
  case isTrue herror =>
    have hfinish := timed.finish_workLeft .schedulerError
    exact ⟨by omega, fun _ _ ↦ by omega, fun _ ↦ by omega⟩
  case isFalse herror => exact ⟨hle, hexpired, fun h ↦ absurd h herror⟩

/-- RAIL says how the transmission under way goes on: whether the packet could be sent, or whether
the acknowledgment has come. -/
def isAnsweredBy (tx : Transmitter) (aEvents : RailEvents) : Bool :=
  getInternalFlag tx.flags [.ongoingTxData] &&
    (aEvents.tx.schedulerError ||
      if getInternalFlag tx.flags [.waitingForAck] then
        aEvents.tx.rxAckTimeout || aEvents.rxPacketReceived.any tx.isAckedBy
      else aEvents.tx.endSending)

theorem workLeft_pos_of_answer (tx : Transmitter) {aEvents : RailEvents}
    (h : tx.isAnsweredBy aEvents = true) : 0 < tx.workLeft := by
  rw [isAnsweredBy, Bool.and_eq_true] at h
  rw [workLeft, if_pos h.1]
  split_ifs <;> decide

end Transmitter

/-! ## The energy scan -/

namespace EnergyScan

variable {scan : EnergyScan}

/-- The steps that are left of a scan: the dwell timer expires for every reading and once more, and
the result is reported. -/
def workLeft (scan : EnergyScan) : ℕ :=
  if scan.timerArmed then scan.sScanFrameCounter + 2 else if scan.isReportable then 1 else 0

/-- A scan that is not idle goes on: the dwell timer is running, or the result is to be reported. -/
def IsLive (scan : EnergyScan) : Prop :=
  scan.sEnergyScanStatus ≠ .idle → scan.timerArmed = true ∨ scan.isReportable = true

theorem workLeft_unarmed (h : scan.timerArmed = false) : scan.workLeft ≤ 1 := by
  simp only [workLeft, h, Bool.false_eq_true, ↓reduceIte]
  split_ifs <;> decide

theorem workLeft_eq_zero (h : scan.workLeft = 0) : scan.scanning = [] := by
  unfold workLeft at h
  split_ifs at h with harmed hreportable
  refine if_neg fun hrunning ↦ hreportable ?_
  rw [isReportable, Bool.and_eq_true, beq_iff_eq, beq_iff_eq]
  exact ⟨hrunning.1, hrunning.2.resolve_left harmed⟩

theorem efr32ScanTimerHandler_workLeft (harmed : scan.timerArmed = true) (rail : RailResults)
    (currentRSSIQuarterdBm : Option ℤ) :
    (scan.efr32ScanTimerHandler rail currentRSSIQuarterdBm).workLeft ≤ scan.workLeft - 1 := by
  have hbefore : scan.workLeft = scan.sScanFrameCounter + 2 := if_pos harmed
  by_cases hcounter : scan.sScanFrameCounter = 0
  · obtain ⟨sEnergyReadsMax, hnext⟩ := efr32ScanTimerHandler_complete rail hcounter
      currentRSSIQuarterdBm
    rw [hnext]
    exact (workLeft_unarmed rfl).trans (by omega)
  · obtain ⟨sEnergyReadsMax, hnext⟩ := efr32ScanTimerHandler_dwell rail hcounter
      currentRSSIQuarterdBm
    rw [hnext]
    cases htimer : rail.setMultiTimer with
    | true =>
      change scan.sScanFrameCounter - 1 + 2 ≤ _
      omega
    | false => exact (workLeft_unarmed rfl).trans (by omega)

theorem efr32ScanTimerHandler_isLive (hmode : scan.sEnergyScanMode = .async)
    (hrearm : scan.sScanFrameCounter ≠ 0 → rail.setMultiTimer = true)
    (currentRSSIQuarterdBm : Option ℤ) :
    (scan.efr32ScanTimerHandler rail currentRSSIQuarterdBm).IsLive := by
  intro _
  by_cases hcounter : scan.sScanFrameCounter = 0
  · obtain ⟨sEnergyReadsMax, hnext⟩ := efr32ScanTimerHandler_complete rail hcounter
      currentRSSIQuarterdBm
    rw [hnext]
    exact .inr (by rw [isReportable, hmode]; rfl)
  · obtain ⟨sEnergyReadsMax, hnext⟩ := efr32ScanTimerHandler_dwell rail hcounter
      currentRSSIQuarterdBm
    rw [hnext]
    exact .inl (hrearm hcounter)

theorem report_workLeft (hunarmed : scan.timerArmed = false) : scan.report.workLeft = 0 := by
  simp [workLeft, report, isReportable, hunarmed]

/-- A scan for the stack takes as many readings as its duration has room for. -/
theorem startRequest_workLeft (hunarmed : scan.timerArmed = false) (config : Config)
    (rail : RailResults) (iid request aScanChannel aScanDuration : ℕ) :
    (scan.startRequest config rail iid request aScanChannel aScanDuration).2.workLeft ≤
      aScanDuration * 1000 / (config.symbolDurationUs * 8) + 2 := by
  have hlow {next : EnergyScan} (h : next.timerArmed = false) :
      next.workLeft ≤ aScanDuration * 1000 / (config.symbolDurationUs * 8) + 2 :=
    (workLeft_unarmed h).trans (Nat.le_add_left 1 _)
  have hstart : ((scan.claim iid request).efr32StartEnergyScan config rail .async aScanChannel
      (aScanDuration * 1000)).2.workLeft ≤
        aScanDuration * 1000 / (config.symbolDurationUs * 8) + 2 := by
    unfold efr32StartEnergyScan efr32ScanDwell
    split_ifs
    case neg =>
      cases rail.setMultiTimer with
      | true => exact le_rfl
      | false => exact hlow rfl
    all_goals exact hlow hunarmed
  unfold startRequest
  simp only
  split
  · exact hstart
  · exact hstart

/-- A scan that passes the checks goes on, or is completed at once. -/
theorem startRequest_isLive (scan : EnergyScan) {aScanChannel : ℕ}
    (hidle : scan.sEnergyScanStatus = .idle) (hunarmed : scan.timerArmed = false)
    (hexecutes : scan.StartExecutes config rail aScanChannel) (iid request aScanDuration : ℕ) :
    (scan.startRequest config rail iid request aScanChannel aScanDuration).2.IsLive := by
  have houtcome := scan.startRequest_outcome config rail iid request aScanChannel aScanDuration
    hidle hunarmed
  intro _
  rcases houtcome.executes_iff.mpr hexecutes with harmed | hcompleted
  · exact .inl harmed
  · exact .inr (by rw [isReportable, houtcome.mode, hcompleted]; rfl)

end EnergyScan

/-! ## The receive path -/

/-- The parts of `processNextRxPacket` that are left: two calls of `otPlatRadioReceiveDone` for each
interface. -/
def Visit.workLeft (config : Config) (visit : Visit) : ℕ :=
  2 * (config.radioInterfaceCount - visit.interfaceId) + (2 - visit.handedOnce.toNat)

namespace Receiver

variable {rx : Receiver}

/-- The parts of `processRxPackets` that are left. -/
def workLeft (config : Config) (rx : Receiver) : ℕ :=
  (2 * config.radioInterfaceCount + 3) * rx.sRxPacketQueue.length +
    (rx.visit.map (Visit.workLeft config)).getD 0

theorem startVisit_workLeft (rx : Receiver) (sMacKeys : ℕ → SecurityMaterial)
    {rxPacketBuf : RxBuffer} {rest : List RxBuffer} (hvisit : rx.visit = none)
    (hqueue : rx.sRxPacketQueue = rxPacketBuf :: rest) :
    (rx.startVisit sMacKeys rxPacketBuf rest).workLeft config < rx.workLeft config := by
  have hbefore : rx.workLeft config =
      (2 * config.radioInterfaceCount + 3) * rest.length +
        (2 * config.radioInterfaceCount + 3) := by
    rw [workLeft, hvisit, hqueue, List.length_cons, Nat.mul_succ]
    rfl
  have hafter : (rx.startVisit sMacKeys rxPacketBuf rest).workLeft config =
      (2 * config.radioInterfaceCount + 3) * rest.length +
        (2 * (config.radioInterfaceCount - rxPacketBuf.iid) + 2) := rfl
  rw [hbefore, hafter]
  omega

theorem nextInterface_workLeft (rx : Receiver) (visit : Visit) :
    (rx.nextInterface config visit).workLeft config <
      (2 * config.radioInterfaceCount + 3) * rx.sRxPacketQueue.length +
        Visit.workLeft config visit := by
  have hstays : 1 ≤ 2 - visit.handedOnce.toNat := by cases visit.handedOnce <;> decide
  rw [Visit.workLeft]
  unfold nextInterface
  split
  case isTrue hnext =>
    have hafter : (rx.setVisit { visit with
          interfaceId := visit.interfaceId + 1, handedOnce := false }).workLeft config =
        (2 * config.radioInterfaceCount + 3) * rx.sRxPacketQueue.length +
          (2 * (config.radioInterfaceCount - (visit.interfaceId + 1)) + 2) := rfl
    rw [hafter]
    omega
  case isFalse =>
    have hafter : rx.finishVisit.workLeft config =
        (2 * config.radioInterfaceCount + 3) * rx.sRxPacketQueue.length := rfl
    rw [hafter]
    omega

theorem visitStep_workLeft (rx : Receiver) {visit : Visit} (hvisit : rx.visit = some visit) :
    (rx.visitStep config visit).workLeft config < rx.workLeft config := by
  have hbefore : rx.workLeft config =
      (2 * config.radioInterfaceCount + 3) * rx.sRxPacketQueue.length +
        Visit.workLeft config visit := by
    rw [workLeft, hvisit]
    rfl
  rw [hbefore]
  unfold visitStep
  split
  · exact rx.nextInterface_workLeft visit
  split
  case isTrue hfirst =>
    rw [Visit.workLeft, hfirst]
    exact Nat.lt_succ_self _
  case isFalse honce =>
    split
    · rw [Visit.workLeft, Bool.of_not_eq_false honce]
      exact Nat.lt_succ_of_le (Nat.le_add_right _ _)
    · exact (rx.receiveDone visit).nextInterface_workLeft visit

end Receiver

/-! ## The commands that wait -/

/-- The steps that are left of a command that waits: it is taken from the queue, and then those of
its transmission or scan are left. -/
def PendingCommand.workLeft (config : Config) (command : PendingCommand) : ℕ :=
  match command.request with
  | .transmit .. => 4
  | .energyScan _ scanDuration _ => scanDuration * 1000 / (config.symbolDurationUs * 8) + 3

theorem PendingCommand.workLeft_pos (config : Config) (command : PendingCommand) :
    0 < command.workLeft config := by
  unfold workLeft
  split <;> exact Nat.succ_pos _

namespace Driver

variable {radio : Driver}

theorem packetReceivedCallback_workLeft (radio : Driver) {phase : TxPhase}
    (h : radio.tx.InPhase config phase) (packet : RxPacket) :
    ∃ after, (radio.packetReceivedCallback config packet).tx.InPhase config after ∧
      after.workLeft ≤ phase.workLeft ∧
      (radio.tx.isAckedBy packet = true → phase.workLeft ≤ 2 → after.workLeft ≤ 1) := by
  cases hacked : radio.tx.isAckedBy packet with
  | true =>
    simp only [Transmitter.isAckedBy, Bool.and_eq_true, decide_eq_true_eq, beq_iff_eq] at hacked
    obtain ⟨⟨⟨⟨⟨hvalid, hack⟩, hlength⟩, htype⟩, hdsn⟩, htimestamp⟩ := hacked
    obtain ⟨after, hafter, hle, hends⟩ := Transmitter.ackReceived_workLeft h packet
    refine ⟨after, ?_, hle, fun _ ↦ hends hdsn htimestamp⟩
    have hbranch : radio.packetReceivedCallback config packet =
        radio.mapTx fun tx ↦ tx.ackReceived packet := by
      simp [packetReceivedCallback, hvalid, hack, hlength, htype]
    rw [hbranch]
    exact hafter
  | false =>
    have hkept : ∃ after, (radio.packetReceivedCallback config packet).tx.InPhase config after ∧
        after.workLeft ≤ phase.workLeft := by
      unfold packetReceivedCallback
      split
      · exact ⟨phase, h, le_rfl⟩
      split
      · split
        · obtain ⟨after, hafter, hle, -⟩ := Transmitter.ackReceived_workLeft h packet
          exact ⟨after, hafter, hle⟩
        · exact ⟨phase, h, le_rfl⟩
      split
      · refine ⟨phase, ?_, le_rfl⟩
        simp only
        split
        · exact h.setFlag _ _ (by decide)
        · exact h
      · exact ⟨phase, h, le_rfl⟩
    obtain ⟨after, hafter, hle⟩ := hkept
    exact ⟨after, hafter, hle, fun h ↦ absurd h Bool.false_ne_true⟩

/-- The current packet is the same for all events of a call. -/
theorem isAckedBy_congr {tx next : Transmitter} (h : next.withoutEvents = tx.withoutEvents)
    (packet : RxPacket) : next.isAckedBy packet = tx.isAckedBy packet := by
  have hcurrent : next.currentPacket = tx.currentPacket :=
    (congrArg (fun tx ↦ tx.currentPacket) h :)
  rw [Transmitter.isAckedBy, hcurrent]
  rfl

theorem railCbGeneric_phase {phase : TxPhase} (h : radio.tx.InPhase config phase)
    (aEvents : RailEvents) :
    ∃ after, (radio.railCbGeneric config aEvents).tx.InPhase config after ∧
      after.workLeft ≤ phase.workLeft ∧ (aEvents.tx.endSending = true → after.workLeft ≤ 2) ∧
      (aEvents.tx.schedulerError = true → after.workLeft ≤ 1) ∧
      ((aEvents.tx.rxAckTimeout || aEvents.rxPacketReceived.any radio.tx.isAckedBy) = true →
        phase.workLeft ≤ 2 → after.workLeft ≤ 1) := by
  obtain ⟨security, hacked⟩ := radio.dataRequestCommandCallback_eq config
    aEvents.dataRequestCommand
  obtain ⟨completed, hcompleted, hle, hends⟩ :=
    Transmitter.completionEvents_workLeft h aEvents.tx
  obtain ⟨scheduled, hscheduled, hle'⟩ :=
    Transmitter.scheduledEvents_workLeft hcompleted aEvents.tx
  unfold railCbGeneric
  rw [hacked]
  cases aEvents.rxPacketReceived with
  | none =>
    obtain ⟨after, hafter, hlate, htimeout, herror⟩ :=
      Transmitter.lateEvents_workLeft hscheduled aEvents.tx
    refine ⟨after, hafter, by omega, fun hend ↦ ?_, herror, fun hanswer hwaits ↦ ?_⟩
    · have hsent := hends hend
      omega
    · exact htimeout ((Bool.or_false _).symm.trans hanswer) (by omega)
  | some packet =>
    let early : Driver := mapTx { radio with security } fun tx ↦
      (tx.completionEvents aEvents.tx).scheduledEvents aEvents.tx
    have hsame : early.tx.isAckedBy packet = radio.tx.isAckedBy packet :=
      isAckedBy_congr (by simp [early, mapTx]) packet
    obtain ⟨received, hreceived, hle'', hacked⟩ :=
      packetReceivedCallback_workLeft early hscheduled packet
    obtain ⟨after, hafter, hlate, htimeout, herror⟩ :=
      Transmitter.lateEvents_workLeft hreceived aEvents.tx
    refine ⟨after, hafter, by omega, fun hend ↦ ?_, herror, fun hanswer hwaits ↦ ?_⟩
    · have hsent := hends hend
      omega
    · rcases Bool.or_eq_true _ _ |>.mp hanswer with hexpired | hcame
      · exact htimeout hexpired (by omega)
      · have hreceived := hacked (hsame.trans hcame) (by omega)
        omega

/-- RAIL queues no packet for the main loop but those that are no acknowledgment. -/
theorem railCbGeneric_rx (radio : Driver) (config : Config) {aEvents : RailEvents}
    (hquiet : ∀ packet, aEvents.rxPacketReceived = some packet → packet.isAck = true) :
    (radio.railCbGeneric config aEvents).rx = radio.rx := by
  obtain ⟨security, hacked⟩ := radio.dataRequestCommandCallback_eq config
    aEvents.dataRequestCommand
  unfold railCbGeneric
  rw [hacked]
  cases hpacket : aEvents.rxPacketReceived with
  | none => rfl
  | some packet =>
    have hack := hquiet packet hpacket
    unfold packetReceivedCallback
    simp only [hack, ↓reduceIte]
    split_ifs <;> rfl

/-- The RAIL events of a call bring a transmission nearer to its report, or leave it where it is; an
answer brings it nearer. -/
theorem railCbGeneric_workLeft (htx : TxConsistent config radio) (aEvents : RailEvents) :
    (radio.railCbGeneric config aEvents).tx.workLeft ≤
      radio.tx.workLeft - (radio.tx.isAnsweredBy aEvents).toNat := by
  obtain ⟨phase, hphase⟩ := htx.phase
  obtain ⟨after, hafter, hle, hsent, herror, hacked⟩ := railCbGeneric_phase hphase aEvents
  rw [hafter.workLeft_eq, hphase.workLeft_eq]
  cases hanswer : radio.tx.isAnsweredBy aEvents with
  | false => exact hle
  | true =>
    rw [Transmitter.isAnsweredBy, hphase.ongoing_iff, hphase.waiting_iff, Bool.and_eq_true,
      Bool.or_eq_true] at hanswer
    obtain ⟨hongoing, hanswer⟩ := hanswer
    cases phase with
    | idle => contradiction
    | ended cause => contradiction
    | ongoing waitingForAck =>
      cases waitingForAck with
      | false => exact hanswer.elim (fun h ↦ (herror h).trans (by decide)) hsent
      | true => exact hanswer.elim herror fun h ↦ hacked h le_rfl

end Driver

end OtEfr32.Radio
