import OtEfr32.Radio.CoexTransmit

/-!
# Debug counters and the radio scheduler

`railDebugCounters` and the calls of `sl_rail_yield_radio`, over every run of the transmit path from
`efr32RadioInit`, or from the last `efr32ClearRadioCounters`, on.
The counters account for every transmission that was handed to RAIL and for every report to the
stack, and every end of a transmission gives the radio back to the scheduler at once:
`emPendingData`, for which the driver would keep the radio after a data request, is never set.
-/

namespace OtEfr32.Radio

open Transition

variable {config : Config} {path : TransmitPath} {phase : TxPhase} {untold : ℕ}

/-- How many of the ends are remembered by an event. -/
def endsBy (event : Flag) (ended : List (ℕ × TxEnd)) : ℕ :=
  ended.countP fun entry ↦ entry.2.event == event

theorem endsBy_append (event : Flag) (ended : List (ℕ × TxEnd)) (iid : ℕ) (cause : TxEnd) :
    endsBy event (ended ++ [(iid, cause)]) =
      endsBy event ended + if cause.event = event then 1 else 0 := by
  simp [endsBy, List.countP_append, List.countP_cons]

namespace RailDebugCounters

/-- The counters of which each transmission moves one at its start and one at its end. -/
def transmissions (counters : RailDebugCounters) : RailDebugCounters :=
  { counters with
    mRailEventPacketSent := 0
    mRailEventAcksReceived := 0
    mRailEventSchedulerStatusError := 0
    mRailEventsScheduledTxTriggeredCount := 0
    mRailEventsScheduledTxStartedCount := 0 }

/-- Count the end of a transmission. -/
def countEnd (counters : RailDebugCounters) (cause : TxEnd) : RailDebugCounters :=
  { counters with
    mRailEventChannelBusy := counters.mRailEventChannelBusy +
      if cause.event = .txCcaFailed then 1 else 0
    mRailEventTxAbort := counters.mRailEventTxAbort + if cause.event = .txFailed then 1 else 0
    mRailEventNoAck := counters.mRailEventNoAck + if cause.event = .txNoAck then 1 else 0 }

end RailDebugCounters

namespace TransmitPath

/-- The counters agree with the history, but for the outcome of `untold` calls of RAIL. -/
structure Accounted (untold : ℕ) (path : TransmitPath) : Prop where
  triggered : path.railDebugCounters.mRailPlatTxTriggered =
    path.railDebugCounters.mRailTxStarted + path.railDebugCounters.mRailTxStartFailed + untold
  starts : path.railDebugCounters.mRailPlatTxTriggered = path.railStarts.length
  channelBusy : path.railDebugCounters.mRailEventChannelBusy =
    endsBy .txCcaFailed path.tx.ended
  txAbort : path.railDebugCounters.mRailEventTxAbort = endsBy .txFailed path.tx.ended
  noAck : path.railDebugCounters.mRailEventNoAck = endsBy .txNoAck path.tx.ended
  txDone : path.railDebugCounters.mRailPlatRadioTxDoneCbCount = path.tx.txDones.length
  yields : path.tx.ended.length ≤ path.yields
  pendingData : path.emPendingData = false

/-- A failure is counted by its event. -/
theorem countFailure_eq (path : TransmitPath) {status : Flag} {cause : TxEnd}
    (hcause : Transmitter.failureEvent status = cause.event) :
    (path.countFailure status).railDebugCounters = path.railDebugCounters.countEnd cause := by
  unfold Transmitter.failureEvent at hcause
  split at hcause
  case isTrue hcca => simp [countFailure, count, RailDebugCounters.countEnd, hcca, ← hcause]
  case isFalse hother => simp [countFailure, count, RailDebugCounters.countEnd, hother, ← hcause]

namespace Accounted

/-- A change of the transmitter that ends and reports nothing. -/
theorem mapTx (h : Accounted untold path) {change : Transmitter → Transmitter}
    (hended : (change path.tx).ended = path.tx.ended)
    (hdones : (change path.tx).txDones = path.tx.txDones) :
    Accounted untold (path.mapTx change) where
  triggered := h.triggered
  starts := h.starts
  channelBusy := by
    rw [mapTx_tx, hended]
    exact h.channelBusy
  txAbort := by
    rw [mapTx_tx, hended]
    exact h.txAbort
  noAck := by
    rw [mapTx_tx, hended]
    exact h.noAck
  txDone := by
    rw [mapTx_tx, hdones]
    exact h.txDone
  yields := by
    rw [mapTx_tx, hended]
    exact h.yields
  pendingData := h.pendingData

theorem setFlag (h : Accounted untold path) (mask : List Flag) (val : Bool) :
    Accounted untold (path.mapTx fun tx ↦ tx.setFlag mask val) :=
  h.mapTx rfl rfl

theorem yieldRadio (h : Accounted untold path) : Accounted untold path.yieldRadio :=
  { h with yields := Nat.le_succ_of_le h.yields }

/-- Nothing is pending, so nothing is yielded for it. -/
theorem yieldPendingData (h : Accounted untold path) : Accounted untold path.yieldPendingData := by
  unfold TransmitPath.yieldPendingData
  rw [h.pendingData]
  exact h

/-- A transmission ends, is counted by its event, and yields the radio. -/
theorem finish (h : Accounted untold path) {next : TransmitPath} {iid : ℕ} {cause : TxEnd}
    (hended : next.tx.ended = path.tx.ended ++ [(iid, cause)])
    (hdones : next.tx.txDones = path.tx.txDones) (hstarts : next.railStarts = path.railStarts)
    (hcounters : next.railDebugCounters.transmissions =
      (path.railDebugCounters.countEnd cause).transmissions)
    (hyields : path.yields < next.yields) (hpending : next.emPendingData = false) :
    Accounted untold next where
  triggered := by
    have htriggered := congrArg RailDebugCounters.mRailPlatTxTriggered hcounters
    have hstarted := congrArg RailDebugCounters.mRailTxStarted hcounters
    have hrefused := congrArg RailDebugCounters.mRailTxStartFailed hcounters
    exact (htriggered.trans h.triggered).trans
      (congrArg (· + untold) (congrArg₂ (· + ·) hstarted.symm hrefused.symm))
  starts := by
    have htriggered := congrArg RailDebugCounters.mRailPlatTxTriggered hcounters
    rw [hstarts]
    exact htriggered.trans h.starts
  channelBusy := by
    have hbusy := congrArg RailDebugCounters.mRailEventChannelBusy hcounters
    rw [hended, endsBy_append, ← h.channelBusy]
    exact hbusy
  txAbort := by
    have habort := congrArg RailDebugCounters.mRailEventTxAbort hcounters
    rw [hended, endsBy_append, ← h.txAbort]
    exact habort
  noAck := by
    have hnoAck := congrArg RailDebugCounters.mRailEventNoAck hcounters
    rw [hended, endsBy_append, ← h.noAck]
    exact hnoAck
  txDone := by
    have hdone := congrArg RailDebugCounters.mRailPlatRadioTxDoneCbCount hcounters
    rw [hdones, ← h.txDone]
    exact hdone
  yields := by
    rw [hended, List.length_append, List.length_singleton]
    exact (Nat.succ_le_succ h.yields).trans hyields
  pendingData := hpending

theorem packetSentCallback (h : Accounted untold path) (isAck : Bool) :
    Accounted untold (path.packetSentCallback isAck) := by
  unfold TransmitPath.packetSentCallback
  split
  · exact (h.setFlag [.ongoingTxAck] false).yieldPendingData
  split
  case isFalse => exact h
  case isTrue hongoing =>
    have hsent := packetSentCallback_eq hongoing
    split
    case isTrue hwaits =>
      rw [if_pos hwaits] at hsent
      have hwaits : Accounted untold (path.handlePhyStackEvent .txAckWaiting) := { h with }
      have hwaited : Accounted untold
          ((path.handlePhyStackEvent .txAckWaiting).mapTx fun tx ↦ tx.packetSentCallback false) :=
        hwaits.mapTx (congrArg Transmitter.ended hsent :) (congrArg Transmitter.txDones hsent :)
      exact { hwaited with }
    case isFalse hends =>
      rw [if_neg hends] at hsent
      exact h.finish (congrArg Transmitter.ended hsent :) (congrArg Transmitter.txDones hsent :) rfl
        rfl (Nat.lt_succ_self _) h.pendingData

theorem txFailedCallback (h : Accounted untold path) (isAck : Bool) {status : Flag} {cause : TxEnd}
    (hcause : Transmitter.failureEvent status = cause.event) :
    Accounted untold (path.txFailedCallback isAck status cause) := by
  unfold TransmitPath.txFailedCallback
  split
  · exact h.setFlag [.ongoingTxAck] false
  split
  case isFalse => exact h
  case isTrue hongoing =>
    have hfailed : (path.tx.txFailedCallback false status cause).ended =
        path.tx.ended ++ [(path.tx.currentPacket.iid, cause)] ∧
          (path.tx.txFailedCallback false status cause).txDones = path.tx.txDones := by
      unfold Transmitter.txFailedCallback
      rw [if_neg Bool.false_ne_true, if_pos hongoing]
      simp only
      split <;> exact ⟨rfl, rfl⟩
    exact h.finish hfailed.1 hfailed.2 rfl
      (congrArg RailDebugCounters.transmissions (path.countFailure_eq hcause))
      (Nat.lt_succ_self _) h.pendingData

theorem ackTimeoutCallback (h : Accounted untold path) :
    Accounted untold path.ackTimeoutCallback := by
  have htimed : path.tx.ackTimeoutCallback.ended =
      path.tx.ended ++ [(path.tx.currentPacket.iid, .ackTimeout)] ∧
        path.tx.ackTimeoutCallback.txDones = path.tx.txDones := by
    unfold Transmitter.ackTimeoutCallback Transmitter.otAssert
    split_ifs <;> exact ⟨rfl, rfl⟩
  exact h.finish htimed.1 htimed.2 rfl rfl (Nat.lt_succ_self _) rfl

theorem schedulerEventCallback (h : Accounted untold path) :
    Accounted untold path.schedulerEventCallback := by
  have hcleared := h.setFlag [.scheduledRxPending, .scheduledTxPending, .scheduledTxStarted] false
  unfold TransmitPath.schedulerEventCallback
  simp only
  generalize (path.mapTx fun tx ↦ tx.setFlag
    [.scheduledRxPending, .scheduledTxPending, .scheduledTxStarted] false) = cleared at hcleared
  have hacked : Accounted untold (if getInternalFlag cleared.tx.flags [.ongoingTxAck] then
      cleared.txFailedCallback true .txFailed .aborted else cleared) := by
    split
    · exact hcleared.txFailedCallback true rfl
    · exact hcleared
  generalize (if getInternalFlag cleared.tx.flags [.ongoingTxAck] then
    cleared.txFailedCallback true .txFailed .aborted else cleared) = acked at hacked
  have hfailed : Accounted untold (if getInternalFlag acked.tx.flags [.ongoingTxData] then
      (acked.handlePhyStackEvent (.txBlocked acked.tx.txWaitingForAck)).txFailedCallback false
        .txCcaFailed .schedulerError else acked) := by
    split
    · have hblocked : Accounted untold
          (acked.handlePhyStackEvent (.txBlocked acked.tx.txWaitingForAck)) := { hacked with }
      exact hblocked.txFailedCallback false rfl
    · exact hacked
  generalize (if getInternalFlag acked.tx.flags [.ongoingTxData] then
    (acked.handlePhyStackEvent (.txBlocked acked.tx.txWaitingForAck)).txFailedCallback false
      .txCcaFailed .schedulerError else acked) = failed at hfailed
  split
  · exact { hfailed.ackTimeoutCallback with }
  · exact { hfailed with }

/-- The awaited acknowledgment ends the transmission, so a data request is no longer under way when
the driver asks for it. -/
theorem acceptAck (h : Accounted untold path) {packet : RxPacket}
    (hanswers : path.answersCurrent packet = true) (hvalid : packet.timestampValid = true) :
    (path.acceptAck packet).tx.txIsDataRequest = false ∧
      Accounted untold (path.acceptAck packet).yieldRadio := by
  have hended := ackReceived_of_answers hanswers hvalid
  have hnot : (path.tx.ackReceived packet).txIsDataRequest = false := by
    rw [hended]
    rfl
  refine ⟨by rw [acceptAck_tx, hnot], ?_⟩
  unfold TransmitPath.acceptAck
  simp only [mapTx_tx, handlePhyStackEvent_tx, hnot, Bool.false_and, Bool.false_eq_true,
    ↓reduceIte]
  exact h.finish (congrArg Transmitter.ended hended :) (congrArg Transmitter.txDones hended :) rfl
    rfl (Nat.lt_succ_self _) h.pendingData

theorem ackReceived (h : Accounted untold path) (packet : RxPacket) :
    Accounted untold (path.ackReceived packet) := by
  have hcounted : Accounted untold (path.count fun counters ↦ { counters with
      mRailEventAcksReceived := counters.mRailEventAcksReceived + 1 }) := { h with }
  unfold TransmitPath.ackReceived
  simp only
  generalize (path.count fun counters ↦ { counters with
    mRailEventAcksReceived := counters.mRailEventAcksReceived + 1 }) = counted at hcounted
  have hother : (counted.answersCurrent packet && packet.timestampValid) = false →
      Accounted untold (counted.mapTx fun tx ↦ tx.ackReceived packet) := by
    intro hnot
    have hcopied := ackReceived_of_not hnot
    exact hcounted.mapTx (congrArg Transmitter.ended hcopied :)
      (congrArg Transmitter.txDones hcopied :)
  cases hanswers : counted.answersCurrent packet with
  | false =>
    have hcopied := hother (by rw [hanswers]; rfl)
    simp only [Bool.false_and, Bool.false_eq_true, ↓reduceIte]
    split
    · exact hcopied
    · exact hcopied.yieldRadio
  | true =>
    cases hvalid : packet.timestampValid with
    | false => exact hother (by rw [hanswers, hvalid]; rfl)
    | true =>
      obtain ⟨hnot, haccepted⟩ := hcounted.acceptAck hanswers hvalid
      simp only [Bool.not_true, Bool.and_false, Bool.false_eq_true, ↓reduceIte, hnot]
      exact haccepted

theorem packetReceivedCallback (h : Accounted untold path) (packet : RxPacket) (stored : Bool) :
    Accounted untold (path.packetReceivedCallback packet stored) := by
  unfold TransmitPath.packetReceivedCallback
  split
  · exact h
  split
  · split
    · exact h.ackReceived packet
    · exact h
  split
  · split
    · exact h.setFlag [.ongoingTxAck] true
    · exact h.yieldPendingData
  · exact h

theorem handlePhyStackEvent (h : Accounted untold path) (stackEvent : StackEvent) :
    Accounted untold (path.handlePhyStackEvent stackEvent) := { h with }

theorem preCompletionEvents (h : Accounted untold path) (aEvents : TxEvents) :
    Accounted untold (path.preCompletionEvents aEvents) := by
  have htold : ∀ {next : TransmitPath} (stage : Bool) (stackEvent : StackEvent),
      Accounted untold next →
        Accounted untold (if stage then next.handlePhyStackEvent stackEvent else next) := by
    intro next stage stackEvent hnext
    split
    · exact hnext.handlePhyStackEvent stackEvent
    · exact hnext
  exact htold _ .txStarted (htold _ .txCcaBusy (htold _ .txCcaSoon h))

theorem completionEvents (h : Accounted untold path) (aEvents : TxEvents) :
    Accounted untold (path.completionEvents aEvents) := by
  unfold TransmitPath.completionEvents
  split
  · exact h.packetSentCallback false
  split
  · exact (h.handlePhyStackEvent _).txFailedCallback false rfl
  split
  · exact (h.handlePhyStackEvent _).txFailedCallback false rfl
  split
  · exact (h.handlePhyStackEvent _).txFailedCallback false rfl
  · exact h.preCompletionEvents aEvents

theorem scheduledEvents (h : Accounted untold path) (aEvents : TxEvents) :
    Accounted untold (path.scheduledEvents aEvents) := by
  unfold TransmitPath.scheduledEvents
  split
  · have hstarted : Accounted untold (if aEvents.scheduledStarted then
        path.mapTx fun tx ↦ tx.setFlag [.scheduledRxStarted] true else path) := by
      split
      · exact h.setFlag _ _
      · exact h
    simp only
    split
    · exact (hstarted.setFlag [.scheduledRxPending, .scheduledRxStarted] false).yieldRadio
    · exact hstarted
  split
  · have hstarted := (h.setFlag [.scheduledTxStarted] true).setFlag [.scheduledTxPending] false
    exact { hstarted with }
  split
  · exact (h.setFlag [.scheduledTxPending] false).txFailedCallback false rfl
  · exact h

/-- `RAILCb_Generic` keeps the accounts. -/
theorem railCbGeneric (h : Accounted untold path) (aEvents : TxEvents)
    (rxPacketReceived : Option (RxPacket × Bool)) :
    Accounted untold (path.railCbGeneric aEvents rxPacketReceived) := by
  have hearly := (h.completionEvents aEvents).scheduledEvents aEvents
  have hreceived : Accounted untold (((path.completionEvents aEvents).scheduledEvents
      aEvents).rxPacketReceivedEvent rxPacketReceived) := by
    cases rxPacketReceived with
    | none => exact hearly
    | some received => exact hearly.packetReceivedCallback received.1 received.2
  have hacks : ∀ {path : TransmitPath}, Accounted untold path →
      Accounted untold (path.txackEvents aEvents) := by
    intro path h
    have hsent : Accounted untold (if aEvents.txackPacketSent then
        path.packetSentCallback true else path) := by
      split
      · exact h.packetSentCallback true
      · exact h
    unfold TransmitPath.txackEvents
    generalize (if aEvents.txackPacketSent then path.packetSentCallback true else path) = sent
      at hsent
    have haborted : Accounted untold (if aEvents.txackAborted then
        sent.txFailedCallback true .txFailed .aborted else sent) := by
      split
      · exact hsent.txFailedCallback true rfl
      · exact hsent
    simp only
    split
    · exact haborted.txFailedCallback true rfl
    · exact haborted
  have htimed : ∀ {path : TransmitPath}, Accounted untold path →
      Accounted untold (path.ackTimeoutEvent aEvents) := by
    intro path h
    unfold TransmitPath.ackTimeoutEvent
    split
    · exact h.ackTimeoutCallback
    · exact h
  have hscheduled : ∀ {path : TransmitPath}, Accounted untold path →
      Accounted untold (path.schedulerEvent aEvents) := by
    intro path h
    unfold TransmitPath.schedulerEvent
    split
    · exact h.schedulerEventCallback
    · exact h
  exact hscheduled (htimed (hacks hreceived))

/-- RAIL tells the outcome of one more call. -/
theorem txStartResult (h : Accounted 1 path) (rail : RailResults) :
    Accounted 0 (path.txStartResult rail) := by
  unfold TransmitPath.txStartResult
  split
  · have hdelayed : Accounted 1 (if path.tx.currentPacket.frame.mTxDelay = 0 then path
        else (path.mapTx fun tx ↦ tx.setFlag [.scheduledTxPending] true).count fun counters ↦
          { counters with mRailEventsScheduledTxTriggeredCount :=
              counters.mRailEventsScheduledTxTriggeredCount + 1 }) := by
      split
      · exact h
      · exact { h.setFlag [.scheduledTxPending] true with }
    simp only
    generalize (if path.tx.currentPacket.frame.mTxDelay = 0 then path
      else (path.mapTx fun tx ↦ tx.setFlag [.scheduledTxPending] true).count fun counters ↦
        { counters with mRailEventsScheduledTxTriggeredCount :=
            counters.mRailEventsScheduledTxTriggeredCount + 1 }) = delayed at hdelayed
    exact { hdelayed with
      triggered := hdelayed.triggered.trans (Nat.add_right_comm ..) }
  · have hrefused : Accounted 0 (path.count fun counters ↦ { counters with
        mRailTxStartFailed := counters.mRailTxStartFailed + 1 }) := { h with
      triggered := h.triggered }
    exact (hrefused.handlePhyStackEvent _).txFailedCallback false rfl

theorem otAssert (h : Accounted untold path) (assertion : CoexAssertion) (holds : Bool) :
    Accounted untold (path.otAssert assertion holds) := by
  unfold TransmitPath.otAssert
  split
  · exact h
  · exact { h with }

theorem txCurrentPacket (h : Accounted 0 path) (rail : RailResults) :
    Accounted 0 (path.txCurrentPacket rail) := by
  have hasserted := (h.otAssert .ongoingTxData (getInternalFlag path.tx.flags
    [.ongoingTxData])).otAssert .currentTxPacket path.tx.sCurrentTxPacket.isSome
  unfold TransmitPath.txCurrentPacket
  simp only
  generalize (path.otAssert .ongoingTxData (getInternalFlag path.tx.flags
    [.ongoingTxData])).otAssert .currentTxPacket path.tx.sCurrentTxPacket.isSome = checked
      at hasserted
  refine txStartResult ?_ rail
  have htold : ∀ next : TransmitPath, Accounted 0 next → Accounted 1 { next with
      railDebugCounters := { next.railDebugCounters with
        mRailPlatTxTriggered := next.railDebugCounters.mRailPlatTxTriggered + 1 }
      railStarts := next.railStarts ++ [next.tx.currentRequest] } := by
    intro next hnext
    exact { hnext with
      triggered := congrArg (· + 1) hnext.triggered
      starts := by
        rw [List.length_append, List.length_singleton]
        exact congrArg (· + 1) hnext.starts }
  split
  · have hcleared := hasserted.setFlag [.scheduledRxPending, .scheduledRxStarted] false
    exact { htold _ hcleared with }
  · exact { htold _ hasserted with }

theorem onPtaGrantTx (h : Accounted 0 path) (grant : PtaGrant) :
    Accounted 0 (path.onPtaGrantTx grant) := by
  have hreported : Accounted 0 { path with ptaGntEventReported := true } := { h with }
  unfold TransmitPath.onPtaGrantTx
  split
  · exact h
  · exact ((hreported.otAssert .ptaStatus grant.granted).setFlag [.currentTxUseCsma]
      false).txCurrentPacket grant.rail

theorem startTransmission (h : Accounted 0 path) (pta : PtaAnswer) (rail : RailResults) :
    Accounted 0 (path.startTransmission pta rail) := by
  have hbegun : Accounted 0 (path.mapTx fun tx ↦ { tx with
      started := tx.started ++ [tx.currentPacket.iid] }.setFlag [.ongoingTxData] true) :=
    h.mapTx rfl rfl
  have hgrants : ∀ (grants : List PtaGrant) {path : TransmitPath}, Accounted 0 path →
      Accounted 0 (grants.foldl TransmitPath.onPtaGrantTx path) := by
    intro grants
    induction grants with
    | nil => exact fun h ↦ h
    | cons grant grants ih => exact fun h ↦ ih (h.onPtaGrantTx grant)
  have htried : ∀ {path : TransmitPath}, Accounted 0 path →
      Accounted 0 (path.tryTxCurrentPacket pta rail) := by
    intro path h
    have hasserted := h.otAssert .ongoingTxData (getInternalFlag path.tx.flags [.ongoingTxData])
    have hasked : Accounted 0 (TransmitPath.handlePhyStackEvent { path.otAssert .ongoingTxData
        (getInternalFlag path.tx.flags [.ongoingTxData]) with ptaGntEventReported := false }
          (.txPendedMac pta.status)) := { hasserted with }
    have hgranted := hgrants pta.grants hasked
    unfold TransmitPath.tryTxCurrentPacket
    simp only
    split
    · exact hgranted.txCurrentPacket rail
    · exact hgranted
    · exact hgranted
    · exact hgranted.txFailedCallback false rfl
  unfold TransmitPath.startTransmission
  simp only
  split
  · exact (htried hbegun).mapTx rfl rfl
  · exact htried hbegun

theorem otPlatRadioTransmit (h : Accounted 0 path) (config : Config) (iid : ℕ)
    (around : Surroundings) : Accounted 0 (path.otPlatRadioTransmit config iid around) := by
  have hcounted : Accounted 0 (path.mapTx Transmitter.countRequest) := h.mapTx rfl rfl
  have haccepted : Accounted 0 ((path.mapTx Transmitter.countRequest).mapTx fun tx ↦
      tx.acceptFrame config iid (txBufIndex iid)) := by
    refine hcounted.mapTx ?_ ?_ <;>
    · unfold Transmitter.acceptFrame Transmitter.otAssert
      simp only
      split_ifs <;> rfl
  unfold TransmitPath.otPlatRadioTransmit
  split
  · exact hcounted
  split
  · exact hcounted
  simp only
  split
  · exact haccepted
  split
  · refine startTransmission (haccepted.mapTx ?_ ?_) _ _ <;>
    · unfold Transmitter.makeCurrent Transmitter.otAssert
      simp only
      split_ifs <;> rfl
  · exact haccepted

theorem processTxComplete (h : Accounted untold path) :
    Accounted untold path.processTxComplete := by
  unfold TransmitPath.processTxComplete
  split
  case isFalse => exact h
  case isTrue hended =>
    have hreported : path.tx.processTxComplete.ended = path.tx.ended ∧
        path.tx.processTxComplete.txDones.length = path.tx.txDones.length + 1 := by
      unfold Transmitter.processTxComplete
      rw [if_pos hended]
      exact ⟨rfl, List.length_append⟩
    obtain ⟨hkept, hone⟩ := hreported
    exact {
      triggered := h.triggered
      starts := h.starts
      channelBusy := h.channelBusy.trans (congrArg _ hkept.symm)
      txAbort := h.txAbort.trans (congrArg _ hkept.symm)
      noAck := h.noAck.trans (congrArg _ hkept.symm)
      txDone := (congrArg (· + 1) h.txDone).trans hone.symm
      yields := (congrArg List.length hkept).trans_le h.yields
      pendingData := h.pendingData }

end Accounted

end TransmitPath

/-! ## Runs -/

/-- Every step keeps the accounts. -/
theorem pathStep_accounted {event : PathEvent} {next : TransmitPath}
    (h : path.Accounted 0) (hstep : pathStep config path event = some next) :
    next.Accounted 0 := by
  cases event with
  | writeFrame iid aFrame =>
    obtain ⟨hiid, hnext⟩ := Option.ite_none_right_eq_some.mp hstep
    obtain rfl := Option.some.inj hnext
    exact h.mapTx rfl rfl
  | transmit iid around =>
    obtain ⟨hiid, hnext⟩ := Option.ite_none_right_eq_some.mp hstep
    obtain rfl := Option.some.inj hnext
    exact h.otPlatRadioTransmit config iid around
  | scheduleRx pending =>
    obtain rfl := Option.some.inj hstep
    exact h.setFlag _ _
  | ptaGrant grant =>
    obtain rfl := Option.some.inj hstep
    exact h.onPtaGrantTx grant
  | railEvents aEvents rxPacketReceived =>
    obtain rfl := Option.some.inj hstep
    exact h.railCbGeneric aEvents rxPacketReceived
  | processTxComplete =>
    obtain rfl := Option.some.inj hstep
    exact h.processTxComplete

theorem initial_accounted : ({} : TransmitPath).Accounted 0 where
  triggered := rfl
  starts := rfl
  channelBusy := rfl
  txAbort := rfl
  noAck := rfl
  txDone := rfl
  yields := Nat.le_refl 0
  pendingData := rfl

/-- **No answer is waited for.**  In every run, in every state, the driver keeps the radio for no
answer to a data request, and it has yielded the radio at least once for every transmission that
ended. -/
theorem yields_throughout (config : Config) (events : List PathEvent) :
    Throughout (pathStep config)
      (fun path ↦ path.emPendingData = false ∧ path.tx.ended.length ≤ path.yields) {} events := by
  have hinv : Throughout (pathStep config) (TransmitPath.Accounted 0) {} events :=
    Along.throughout (fun _ _ _ h (_ : True) hstep ↦ pathStep_accounted h hstep)
      initial_accounted (along_of_forall fun _ _ ↦ trivial)
  exact hinv.mono fun path h ↦ ⟨h.pendingData, h.yields⟩

/-- The number of reports with an error. -/
def Transmitter.reports (tx : Transmitter) (error : OtError) : ℕ :=
  tx.txDones.countP fun done ↦ done.aError == error

/-- The transmissions that ended with an event are those that were reported with its error, and the
one for which the event is still set. -/
theorem Transmitter.InPhase.endsBy_eq {tx : Transmitter} (h : tx.InPhase config phase)
    {event : Flag} {error : OtError} (hevent : event ∈ radioTxEvents)
    (hsame : ∀ cause : TxEnd, (cause.event == event) = (cause.status == error)) :
    endsBy event tx.ended = tx.reports error + (tx.flags event).toNat := by
  have hreported := congrArg (List.countP fun entry ↦ entry.2 == error) h.reported
  rw [List.countP_append, List.countP_map, List.countP_map] at hreported
  calc
    endsBy event tx.ended = tx.ended.countP ((fun entry : ℕ × OtError ↦ entry.2 == error) ∘
        fun entry ↦ (entry.1, entry.2.status)) := by
      unfold endsBy
      congr 1
      funext entry
      exact hsame entry.2
    _ = tx.reports error + (phase.unreported tx.currentPacket.iid).countP
        fun entry ↦ entry.2 == error := hreported
    _ = tx.reports error + (phase.event == some event).toNat := by
      congr 1
      cases phase with
      | ended cause =>
        rw [TxPhase.unreported, TxPhase.event, List.countP_singleton, Option.some_beq_some, hsame]
        cases cause.status == error <;> rfl
      | _ => rfl
    _ = tx.reports error + (tx.flags event).toNat := by rw [h.events event hevent]

/-- The counters account for the transmissions and the reports. -/
structure CountersLaw (path : TransmitPath) : Prop where
  /-- Every packet handed to RAIL was started or refused. -/
  triggered : path.railDebugCounters.mRailPlatTxTriggered =
    path.railDebugCounters.mRailTxStarted + path.railDebugCounters.mRailTxStartFailed
  starts : path.railDebugCounters.mRailPlatTxTriggered = path.railStarts.length
  /-- A failure is counted as what is reported to the stack, before or at its report. -/
  channelBusy : path.railDebugCounters.mRailEventChannelBusy =
    path.tx.reports .channelAccessFailure + (path.tx.flags .txCcaFailed).toNat
  txAbort : path.railDebugCounters.mRailEventTxAbort =
    path.tx.reports .abort + (path.tx.flags .txFailed).toNat
  noAck : path.railDebugCounters.mRailEventNoAck =
    path.tx.reports .noAck + (path.tx.flags .txNoAck).toNat
  txDone : path.railDebugCounters.mRailPlatRadioTxDoneCbCount = path.tx.txDones.length

/-- **Debug counters.**  In every run in which the stack respects its contract, whatever the arbiter
and RAIL do, the debug counters account for the transmissions in every state. -/
theorem countersLaw_throughout (config : Config) (events : List PathEvent)
    (hstack : Along (pathStep config) (StackContract config) {} events) :
    Throughout (pathStep config) CountersLaw {} events := by
  have hinv : Throughout (pathStep config)
      (fun path ↦ path.IsPhased config ∧ path.Accounted 0) {} events :=
    hstack.throughout (fun _ _ _ h hstack hstep ↦
      ⟨pathStep_isPhased h.1 hstack hstep, pathStep_accounted h.2 hstep⟩)
      ⟨initial_isPhased config, initial_accounted⟩
  refine hinv.mono fun path h ↦ ?_
  obtain ⟨⟨phase, hphase⟩, haccounted⟩ := h
  exact {
    triggered := haccounted.triggered
    starts := haccounted.starts
    channelBusy := haccounted.channelBusy.trans
      (hphase.endsBy_eq (by decide) (by intro cause; cases cause <;> rfl))
    txAbort := haccounted.txAbort.trans
      (hphase.endsBy_eq (by decide) (by intro cause; cases cause <;> rfl))
    noAck := haccounted.noAck.trans
      (hphase.endsBy_eq (by decide) (by intro cause; cases cause <;> rfl))
    txDone := haccounted.txDone }

/-- A packet that finds the channel busy, one that RAIL refuses and one that is not acknowledged,
which is not yet reported. -/
def failingRun : List PathEvent :=
  let aFrame : OtRadioFrame := { mPsdu := [0x61, 0x88, 7], mChannel := 11 }
  [.writeFrame 0 aFrame, .transmit 0 {}, .railEvents { txChannelBusy := true } none,
    .processTxComplete, .transmit 0 { rail := { startTx := false } }, .processTxComplete,
    .transmit 0 {}, .railEvents { txPacketSent := true, rxAckTimeout := true } none]

theorem countersLaw_throughout_failingRun :
    ((exec (pathStep .singlePan) {} failingRun).map fun path ↦
      (path.tx.txDones.map TxDone.aError, path.railDebugCounters.mRailEventNoAck)) =
        some ([.channelAccessFailure, .abort], 1) ∧
    Throughout (pathStep .singlePan) CountersLaw {} failingRun :=
  ⟨by decide, countersLaw_throughout .singlePan failingRun (by decide)⟩

end OtEfr32.Radio
