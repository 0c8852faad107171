import OtEfr32.Radio.CoexTransmit

/-!
# Sessions of the arbiter

The arbiter raises its request line at `TX_PENDED_MAC` and lowers it at the event that ends the
transmission.  A session is open between the two.  `sessionLaw_iff` says when the driver keeps to
that: an event ends a session exactly when a transmission ends.
-/

namespace OtEfr32.Radio

open Transition

variable {config : Config} {path : TransmitPath} {phase : TxPhase}

/-- The events of one session after the other: what an event makes of a session, which is open or
not. -/
def sessionStep : Bool → StackEvent → Option Bool
  | false, .txPendedMac answer => some (answer != .holdoff)
  | true, .txPendedPhy _ | true, .txCcaSoon | true, .txCcaBusy | true, .txStarted
  | true, .txAckWaiting => some true
  | true, .txEnded | true, .txBlocked _ | true, .txAborted _ | true, .txAckReceived _
  | true, .txAckTimedout => some false
  | _, _ => none

/-- A stage of the channel check. -/
def TxEvents.checksChannel (aEvents : TxEvents) : Bool :=
  aEvents.txStartCca || aEvents.txCcaRetry || aEvents.txChannelClear

/-- A failure or a stage of the channel check, as `RAILCb_Generic` reads the events. -/
def TxEvents.concernsAttempt (aEvents : TxEvents) : Bool :=
  !aEvents.txPacketSent && (aEvents.txChannelBusy || aEvents.txBlocked || aEvents.txAborted ||
    aEvents.checksChannel)

namespace TransmitPath

/-- The stack events so far form sessions, the last of which is open or not. -/
def InSession (path : TransmitPath) (isOpen : Bool) : Prop :=
  exec sessionStep false path.stackEvents = some isOpen

/-- A transmission is under way. -/
def isOngoing (path : TransmitPath) : Bool := getInternalFlag path.tx.flags [.ongoingTxData]

/-- The stack events so far form sessions, the last of which is open exactly while a transmission is
under way. -/
def SessionLaw (path : TransmitPath) : Prop := path.InSession path.isOngoing

instance (path : TransmitPath) : Decidable path.SessionLaw :=
  inferInstanceAs (Decidable (_ = _))

theorem InSession.handlePhyStackEvent {isOpen after : Bool} (h : path.InSession isOpen)
    (stackEvent : StackEvent) (hstep : sessionStep isOpen stackEvent = some after) :
    (path.handlePhyStackEvent stackEvent).InSession after := by
  unfold InSession TransmitPath.handlePhyStackEvent
  rw [exec_append, h]
  simp [exec_cons, hstep]

/-- Events that belong into a session, outside of one. -/
theorem InSession.not_of_none (h : path.InSession false) {next : TransmitPath}
    {stackEvents : List StackEvent} (hevents : next.stackEvents = path.stackEvents ++ stackEvents)
    (hnone : exec sessionStep false stackEvents = none) (isOpen : Bool) :
    ¬ next.InSession isOpen := by
  unfold InSession
  rw [hevents, exec_append, h, Option.bind_some, hnone]
  simp

/-- A change that tells the arbiter nothing. -/
theorem InSession.of_eq {next : TransmitPath} {isOpen : Bool} (h : path.InSession isOpen)
    (hevents : next.stackEvents = path.stackEvents) : next.InSession isOpen := by
  unfold InSession
  rw [hevents]
  exact h

/-- A change that tells the arbiter nothing and goes on with the transmission. -/
theorem SessionLaw.of_eq {next : TransmitPath} (h : path.SessionLaw)
    (hevents : next.stackEvents = path.stackEvents) (hongoing : next.isOngoing = path.isOngoing) :
    next.SessionLaw := by
  unfold SessionLaw
  rw [hongoing]
  exact InSession.of_eq h hevents

theorem isOngoing_eq (path : TransmitPath) : path.isOngoing = path.tx.flags .ongoingTxData :=
  getInternalFlag_singleton _ _

theorem SessionLaw.isOpen (h : path.SessionLaw) (hongoing : path.isOngoing = true) :
    path.InSession true := by
  unfold SessionLaw at h
  rwa [hongoing] at h

/-- An event in the middle of a session. -/
theorem SessionLaw.goOn (h : path.SessionLaw) (hongoing : path.isOngoing = true)
    (stackEvent : StackEvent) (hstep : sessionStep true stackEvent = some true) :
    (path.handlePhyStackEvent stackEvent).SessionLaw := by
  have hafter := (h.isOpen hongoing).handlePhyStackEvent stackEvent hstep
  unfold SessionLaw
  rw [isOngoing_eq, handlePhyStackEvent_tx, ← isOngoing_eq, hongoing]
  exact hafter

/-! ## Handlers that keep to the sessions -/

theorem SessionLaw.setFlag (h : path.SessionLaw) (mask : List Flag) (val : Bool)
    (hmask : .ongoingTxData ∉ mask) :
    (path.mapTx fun tx ↦ tx.setFlag mask val).SessionLaw := by
  refine h.of_eq rfl ?_
  simp [isOngoing, Transmitter.setFlag, hmask]

theorem SessionLaw.yieldPendingData (h : path.SessionLaw) : path.yieldPendingData.SessionLaw := by
  unfold TransmitPath.yieldPendingData
  split
  · exact h.of_eq rfl rfl
  · exact h

theorem SessionLaw.packetSentCallback (h : path.SessionLaw) :
    (path.packetSentCallback false).SessionLaw := by
  unfold TransmitPath.packetSentCallback
  rw [if_neg Bool.false_ne_true]
  split
  case isFalse => exact h
  case isTrue hongoing =>
    have hopen := h.isOpen hongoing
    have hsent := packetSentCallback_eq hongoing
    split
    case isTrue hwaits =>
      rw [if_pos hwaits] at hsent
      have hafter := hopen.handlePhyStackEvent .txAckWaiting rfl
      unfold SessionLaw isOngoing
      simp only [count_tx, mapTx_tx, handlePhyStackEvent_tx, hsent]
      simp only [Transmitter.setFlag, getInternalFlag_singleton, setInternalFlag_apply]
        at hongoing ⊢
      simp only [List.mem_singleton, reduceCtorEq, ↓reduceIte, hongoing]
      exact hafter.of_eq rfl
    case isFalse hends =>
      rw [if_neg hends] at hsent
      have hafter := hopen.handlePhyStackEvent .txEnded rfl
      unfold SessionLaw isOngoing
      simp only [count_tx, mapTx_tx, handlePhyStackEvent_tx, yieldRadio_tx, hsent]
      exact hafter.of_eq rfl

/-- A closing event while a transmission is under way, and the end of the transmission. -/
theorem SessionLaw.fail (h : path.SessionLaw) (hongoing : path.isOngoing = true)
    {stackEvent : StackEvent} (hclosing : sessionStep true stackEvent = some false)
    (status : Flag) (cause : TxEnd) :
    ((path.handlePhyStackEvent stackEvent).txFailedCallback false status cause).SessionLaw := by
  have hopen := h.isOpen hongoing
  have hafter := hopen.handlePhyStackEvent stackEvent hclosing
  have hended : ((path.handlePhyStackEvent stackEvent).txFailedCallback false status
      cause).isOngoing = false := by
    unfold isOngoing at hongoing ⊢
    rw [txFailedCallback_tx, handlePhyStackEvent_tx, Transmitter.txFailedCallback,
      if_neg Bool.false_ne_true, if_pos hongoing]
    rfl
  unfold SessionLaw
  rw [hended]
  unfold TransmitPath.txFailedCallback
  rw [if_neg Bool.false_ne_true, handlePhyStackEvent_tx]
  unfold isOngoing at hongoing
  rw [if_pos hongoing]
  exact hafter.of_eq rfl

theorem SessionLaw.ackTimeoutCallback (h : path.SessionLaw) (hongoing : path.isOngoing = true) :
    path.ackTimeoutCallback.SessionLaw := by
  have hopen := h.isOpen hongoing
  have hafter := hopen.handlePhyStackEvent .txAckTimedout rfl
  exact hafter.of_eq rfl

theorem SessionLaw.acceptAck (h : path.SessionLaw) {packet : RxPacket}
    (hanswers : path.answersCurrent packet = true) (hvalid : packet.timestampValid = true) :
    (path.acceptAck packet).SessionLaw := by
  have hongoing : path.isOngoing = true := by
    unfold answersCurrent Transmitter.txWaitingForAck at hanswers
    simp only [Bool.and_eq_true] at hanswers
    exact hanswers.1.1
  have hopen := h.isOpen hongoing
  have hafter := hopen.handlePhyStackEvent (.txAckReceived (framePendingIn packet.psdu)) rfl
  have hended : (path.tx.ackReceived packet).flags .ongoingTxData = false := by
    rw [ackReceived_of_answers hanswers hvalid]
    rfl
  unfold SessionLaw
  rw [isOngoing_eq, acceptAck_tx, hended]
  unfold TransmitPath.acceptAck
  simp only
  split <;> exact hafter.of_eq rfl

theorem SessionLaw.ackReceived (h : path.SessionLaw) (packet : RxPacket) :
    (path.ackReceived packet).SessionLaw := by
  generalize hcounted : (path.count fun counters ↦ { counters with
    mRailEventAcksReceived := counters.mRailEventAcksReceived + 1 }) = counted
  have hkept : counted.SessionLaw := h.of_eq (hcounted ▸ rfl) (hcounted ▸ rfl)
  have hother : (counted.answersCurrent packet && packet.timestampValid) = false →
      (counted.mapTx fun tx ↦ tx.ackReceived packet).SessionLaw := by
    intro hnot
    refine hkept.of_eq rfl ?_
    rw [isOngoing_eq, isOngoing_eq, mapTx_tx, ackReceived_of_not hnot]
  have hyield : ∀ next : TransmitPath, next.SessionLaw →
      (if next.tx.txIsDataRequest then next else next.yieldRadio).SessionLaw := by
    intro next hnext
    split
    · exact hnext
    · exact hnext.of_eq rfl rfl
  unfold TransmitPath.ackReceived
  simp only [hcounted]
  cases hanswers : counted.answersCurrent packet with
  | false => exact hyield _ (hother (by rw [hanswers]; rfl))
  | true =>
    cases hvalid : packet.timestampValid with
    | false => exact hother (by rw [hanswers, hvalid]; rfl)
    | true => exact hyield _ (hkept.acceptAck hanswers hvalid)

theorem SessionLaw.packetReceivedCallback (h : path.SessionLaw) (packet : RxPacket)
    (stored : Bool) : (path.packetReceivedCallback packet stored).SessionLaw := by
  unfold TransmitPath.packetReceivedCallback
  split
  · exact h
  split
  · split
    · exact h.ackReceived packet
    · exact h
  split
  · split
    · exact h.setFlag _ _ (by decide)
    · exact h.yieldPendingData
  · exact h

/-- The events for an outgoing ACK tell nothing of a transmission. -/
theorem SessionLaw.txackEvents (h : path.SessionLaw) (aEvents : TxEvents) :
    (path.txackEvents aEvents).SessionLaw := by
  have hfailed : ∀ next : TransmitPath, next.SessionLaw →
      (next.txFailedCallback true .txFailed .aborted).SessionLaw :=
    fun next hnext ↦ hnext.setFlag [.ongoingTxAck] false (by decide)
  have hsent : (if aEvents.txackPacketSent then path.packetSentCallback true
      else path).SessionLaw := by
    split
    · exact SessionLaw.yieldPendingData (h.setFlag [.ongoingTxAck] false (by decide))
    · exact h
  unfold TransmitPath.txackEvents
  generalize (if aEvents.txackPacketSent then path.packetSentCallback true else path) = sent
    at hsent
  have haborted : (if aEvents.txackAborted then sent.txFailedCallback true .txFailed .aborted
      else sent).SessionLaw := by
    split
    · exact hfailed _ hsent
    · exact hsent
  simp only
  split
  · exact hfailed _ haborted
  · exact haborted

theorem SessionLaw.ackTimeoutEvent (h : path.SessionLaw)
    (hphase : path.tx.InPhase config phase) (aEvents : TxEvents) :
    (path.ackTimeoutEvent aEvents).SessionLaw := by
  unfold TransmitPath.ackTimeoutEvent
  split
  case isFalse => exact h
  case isTrue hwaits =>
    refine h.ackTimeoutCallback ?_
    simp only [Bool.and_eq_true, hphase.waiting_iff] at hwaits
    unfold isOngoing
    rw [hphase.ongoing_iff]
    cases phase with
    | ongoing waitingForAck => rfl
    | _ => cases hwaits.2

theorem SessionLaw.schedulerEvent (h : path.SessionLaw) (hphase : path.tx.InPhase config phase)
    (aEvents : TxEvents) : (path.schedulerEvent aEvents).SessionLaw := by
  unfold TransmitPath.schedulerEvent
  split
  case isFalse => exact h
  case isTrue =>
    have hcleared := hphase.setFlag
      [.scheduledRxPending, .scheduledTxPending, .scheduledTxStarted] false (by decide)
    have hkept := h.setFlag [.scheduledRxPending, .scheduledTxPending, .scheduledTxStarted] false
      (by decide)
    rw [← mapTx_tx path fun tx ↦ tx.setFlag
      [.scheduledRxPending, .scheduledTxPending, .scheduledTxStarted] false] at hcleared
    unfold TransmitPath.schedulerEventCallback
    simp only
    generalize (path.mapTx fun tx ↦ tx.setFlag
      [.scheduledRxPending, .scheduledTxPending, .scheduledTxStarted] false) = cleared
        at hcleared hkept
    have hacked : (if getInternalFlag cleared.tx.flags [.ongoingTxAck] then
        cleared.txFailedCallback true .txFailed .aborted else cleared).tx.InPhase config phase ∧
          (if getInternalFlag cleared.tx.flags [.ongoingTxAck] then
            cleared.txFailedCallback true .txFailed .aborted else cleared).SessionLaw := by
      split
      · exact ⟨hcleared.setFlag _ _ (by decide), hkept.setFlag _ _ (by decide)⟩
      · exact ⟨hcleared, hkept⟩
    generalize (if getInternalFlag cleared.tx.flags [.ongoingTxAck] then
      cleared.txFailedCallback true .txFailed .aborted else cleared) = acked at hacked ⊢
    obtain ⟨hacked, hkept⟩ := hacked
    have hfailed : (if getInternalFlag acked.tx.flags [.ongoingTxData] then
        (acked.handlePhyStackEvent (.txBlocked acked.tx.txWaitingForAck)).txFailedCallback false
          .txCcaFailed .schedulerError else acked).tx.flags .waitingForAck = false ∧
        (if getInternalFlag acked.tx.flags [.ongoingTxData] then
          (acked.handlePhyStackEvent (.txBlocked acked.tx.txWaitingForAck)).txFailedCallback false
            .txCcaFailed .schedulerError else acked).SessionLaw := by
      split
      case isTrue hongoing =>
        refine ⟨?_, hkept.fail hongoing rfl _ _⟩
        have hended : (acked.tx.txFailedCallback false .txCcaFailed .schedulerError).InPhase config
            (phase.finish .schedulerError) := Transmitter.txFailedCallback_inPhase hacked rfl
        rw [txFailedCallback_tx, handlePhyStackEvent_tx, hended.waiting]
        cases phase <;> rfl
      case isFalse hongoing =>
        refine ⟨?_, hkept⟩
        rw [hacked.ongoing_iff] at hongoing
        rw [hacked.waiting]
        cases phase <;> first | rfl | exact absurd rfl hongoing
    rw [getInternalFlag_singleton, hfailed.1]
    exact hfailed.2.of_eq rfl rfl

/-- A scheduled transmission is missed, as `RAILCb_Generic` reads the events. -/
def missesScheduledTx (path : TransmitPath) (aEvents : TxEvents) : Bool :=
  !getInternalFlag path.tx.flags [.scheduledRxPending] && !aEvents.scheduledStarted &&
    aEvents.txScheduledTxMissed

/-- The stages of a channel check are told in the middle of a session. -/
theorem SessionLaw.preCompletionEvents (h : path.SessionLaw) {aEvents : TxEvents}
    (hchecks : aEvents.checksChannel = true → path.isOngoing = true) :
    (path.preCompletionEvents aEvents).SessionLaw := by
  have hstage : ∀ {next : TransmitPath} (stage : Bool) (stackEvent : StackEvent),
      sessionStep true stackEvent = some true → (stage = true → next.isOngoing = true) →
        next.SessionLaw → (if stage then next.handlePhyStackEvent stackEvent else next).SessionLaw ∧
          (if stage then next.handlePhyStackEvent stackEvent else next).isOngoing =
            next.isOngoing := by
    intro next stage stackEvent hstep hongoing hnext
    split
    case isTrue htold => exact ⟨hnext.goOn (hongoing htold) stackEvent hstep, rfl⟩
    case isFalse => exact ⟨hnext, rfl⟩
  simp only [TxEvents.checksChannel, Bool.or_eq_true] at hchecks
  obtain ⟨hsoon, hsame⟩ := hstage aEvents.txStartCca .txCcaSoon rfl
    (fun hevent ↦ hchecks (.inl (.inl hevent))) h
  obtain ⟨hbusy, hsame'⟩ := hstage aEvents.txCcaRetry .txCcaBusy rfl
    (fun hevent ↦ hsame.trans (hchecks (.inl (.inr hevent)))) hsoon
  exact (hstage aEvents.txChannelClear .txStarted rfl
    (fun hevent ↦ hsame'.trans (hsame.trans (hchecks (.inr hevent)))) hbusy).1

theorem SessionLaw.completionEvents (h : path.SessionLaw) {aEvents : TxEvents}
    (hattempt : aEvents.concernsAttempt = true → path.isOngoing = true) :
    (path.completionEvents aEvents).SessionLaw := by
  unfold TxEvents.concernsAttempt at hattempt
  unfold TransmitPath.completionEvents
  split
  case isTrue => exact h.packetSentCallback
  case isFalse hsent =>
    rw [Bool.eq_false_of_not_eq_true hsent] at hattempt
    split
    case isTrue hevent => exact h.fail (hattempt (by simp [hevent])) rfl _ _
    split
    case isTrue hevent => exact h.fail (hattempt (by simp [hevent])) rfl _ _
    split
    case isTrue hevent => exact h.fail (hattempt (by simp [hevent])) rfl _ _
    case isFalse => exact h.preCompletionEvents fun hchecks ↦ hattempt (by simp [hchecks])

theorem SessionLaw.scheduledEvents (h : path.SessionLaw) {aEvents : TxEvents}
    (hmissed : path.missesScheduledTx aEvents = true → path.isOngoing = false) :
    (path.scheduledEvents aEvents).SessionLaw := by
  unfold TransmitPath.scheduledEvents
  split
  case isTrue =>
    have hstarted : (if aEvents.scheduledStarted then
        path.mapTx fun tx ↦ tx.setFlag [.scheduledRxStarted] true else path).SessionLaw := by
      split
      · exact h.setFlag _ _ (by decide)
      · exact h
    simp only
    split
    · exact (hstarted.setFlag [.scheduledRxPending, .scheduledRxStarted] false
        (by decide)).of_eq rfl rfl
    · exact hstarted
  case isFalse hrx =>
    split
    · exact SessionLaw.of_eq ((h.setFlag [.scheduledTxStarted] true (by decide)).setFlag
        [.scheduledTxPending] false (by decide)) rfl rfl
    split
    case isTrue hstarted hevent =>
      have hcleared := h.setFlag [.scheduledTxPending] false (by decide)
      have hnot : getInternalFlag (path.tx.setFlag [.scheduledTxPending] false).flags
          [.ongoingTxData] = false := by
        have hidle := hmissed (by
          unfold missesScheduledTx
          rw [Bool.eq_false_of_not_eq_true hrx, Bool.eq_false_of_not_eq_true hstarted, hevent]
          rfl)
        rw [isOngoing_eq] at hidle
        simpa [Transmitter.setFlag] using hidle
      unfold TransmitPath.txFailedCallback
      rw [if_neg Bool.false_ne_true, mapTx_tx, hnot]
      exact hcleared
    · exact h

/-! ## Steps that keep to the sessions -/

/-- RAIL reports a failure or a stage of a channel check only while a transmission is under way, and
no scheduled transmission is missed while it still is. -/
def ReportsInTurn (path : TransmitPath) : PathEvent → Prop
  | .railEvents aEvents _ =>
    (aEvents.concernsAttempt = true → path.isOngoing = true) ∧
      ((path.completionEvents aEvents).missesScheduledTx aEvents = true →
        (path.completionEvents aEvents).isOngoing = false)
  | _ => True

instance : ∀ path event, Decidable (ReportsInTurn path event)
  | path, .railEvents aEvents _ => inferInstanceAs (Decidable (
      (aEvents.concernsAttempt = true → path.isOngoing = true) ∧
        ((path.completionEvents aEvents).missesScheduledTx aEvents = true →
          (path.completionEvents aEvents).isOngoing = false)))
  | _, .writeFrame .. | _, .transmit .. | _, .scheduleRx _ | _, .ptaGrant _
  | _, .processTxComplete => .isTrue trivial

theorem SessionLaw.railEvents (h : path.SessionLaw) (hphase : path.tx.InPhase config phase)
    {aEvents : TxEvents} {rxPacketReceived : Option (RxPacket × Bool)}
    (hturn : ReportsInTurn path (.railEvents aEvents rxPacketReceived)) :
    (path.railCbGeneric aEvents rxPacketReceived).SessionLaw := by
  obtain ⟨completed, -, hcompleted⟩ := Transmitter.completionEvents_inPhase hphase aEvents
  obtain ⟨scheduled, -, hscheduled⟩ := Transmitter.scheduledEvents_inPhase hcompleted aEvents
  rw [← completionEvents_tx, ← scheduledEvents_tx] at hscheduled
  have hearly := SessionLaw.scheduledEvents (h.completionEvents hturn.1) hturn.2
  have hlate : ∀ {next : TransmitPath} {phase : TxPhase}, next.SessionLaw →
      next.tx.InPhase config phase → (((next.txackEvents aEvents).ackTimeoutEvent
        aEvents).schedulerEvent aEvents).SessionLaw := by
    intro next phase hnext hphase
    have hacked := Transmitter.txackEvents_inPhase hphase aEvents
    have htimed := Transmitter.ackTimeoutEvent_inPhase hacked aEvents
    rw [← txackEvents_tx] at hacked htimed
    rw [← ackTimeoutEvent_tx] at htimed
    exact SessionLaw.schedulerEvent ((hnext.txackEvents aEvents).ackTimeoutEvent hacked aEvents)
      htimed aEvents
  unfold railCbGeneric
  cases rxPacketReceived with
  | none => exact hlate hearly hscheduled
  | some received =>
    obtain ⟨during, -, hduring⟩ :=
      packetReceivedCallback_inPhase hscheduled received.1 received.2
    exact hlate (hearly.packetReceivedCallback received.1 received.2) hduring

theorem SessionLaw.txStartResult (h : path.SessionLaw) (hongoing : path.isOngoing = true)
    (rail : RailResults) : (path.txStartResult rail).SessionLaw := by
  unfold TransmitPath.txStartResult
  split
  case isTrue =>
    have hdelayed : (if path.tx.currentPacket.frame.mTxDelay = 0 then path
        else (path.mapTx fun tx ↦ tx.setFlag [.scheduledTxPending] true).count fun counters ↦
          { counters with mRailEventsScheduledTxTriggeredCount :=
              counters.mRailEventsScheduledTxTriggeredCount + 1 }).SessionLaw ∧
        (if path.tx.currentPacket.frame.mTxDelay = 0 then path
          else (path.mapTx fun tx ↦ tx.setFlag [.scheduledTxPending] true).count fun counters ↦
            { counters with mRailEventsScheduledTxTriggeredCount :=
                counters.mRailEventsScheduledTxTriggeredCount + 1 }).isOngoing = true := by
      split
      · exact ⟨h, hongoing⟩
      · refine ⟨SessionLaw.of_eq (h.setFlag [.scheduledTxPending] true (by decide)) rfl rfl, ?_⟩
        rw [isOngoing_eq] at hongoing ⊢
        simpa [Transmitter.setFlag] using hongoing
    exact (hdelayed.1.goOn hdelayed.2 .txStarted rfl).of_eq rfl rfl
  case isFalse =>
    have hcounted : (path.count fun counters ↦ { counters with
        mRailTxStartFailed := counters.mRailTxStartFailed + 1 }).SessionLaw := h.of_eq rfl rfl
    exact hcounted.fail hongoing rfl _ _

theorem SessionLaw.otAssert (h : path.SessionLaw) (assertion : CoexAssertion) (holds : Bool) :
    (path.otAssert assertion holds).SessionLaw := by
  unfold TransmitPath.otAssert
  split
  · exact h
  · exact h.of_eq rfl rfl

/-- A packet is handed to RAIL while its session is open. -/
theorem SessionLaw.txCurrentPacket (h : path.SessionLaw) (hongoing : path.isOngoing = true)
    (rail : RailResults) : (path.txCurrentPacket rail).SessionLaw := by
  have hasserted := (h.otAssert .ongoingTxData (getInternalFlag path.tx.flags
    [.ongoingTxData])).otAssert .currentTxPacket path.tx.sCurrentTxPacket.isSome
  unfold TransmitPath.txCurrentPacket
  simp only
  generalize hchecked : (path.otAssert .ongoingTxData (getInternalFlag path.tx.flags
    [.ongoingTxData])).otAssert .currentTxPacket path.tx.sCurrentTxPacket.isSome = checked
      at hasserted
  have hstill : checked.isOngoing = true := by
    rw [isOngoing_eq] at hongoing ⊢
    rw [← hchecked, otAssert_tx, otAssert_tx, hongoing]
  have hcounted : (checked.count fun counters ↦ { counters with
      mRailPlatTxTriggered := counters.mRailPlatTxTriggered + 1 }).SessionLaw :=
    hasserted.of_eq rfl rfl
  have hpended := hcounted.goOn hstill
    (.txPendedPhy (getInternalFlag checked.tx.flags [.currentTxUseCsma])) rfl
  have hrecorded : ∀ (next : TransmitPath) (railStarts : List ℕ), next.SessionLaw →
      { next with railStarts }.SessionLaw := fun next railStarts hnext ↦ hnext.of_eq rfl rfl
  refine SessionLaw.txStartResult ?_ ?_ rail
  · apply hrecorded
    split
    · exact hpended.setFlag _ _ (by decide)
    · exact hpended
  · rw [isOngoing_eq] at hstill ⊢
    simp only [apply_ite tx, mapTx_tx]
    split
    · exact hstill
    · exact hstill

theorem SessionLaw.onPtaGrantTx (h : path.SessionLaw) {grant : PtaGrant}
    (hturn : path.ptaGntEventReported = true ∨ path.isOngoing = true) :
    (path.onPtaGrantTx grant).SessionLaw := by
  unfold TransmitPath.onPtaGrantTx
  split
  case isTrue => exact h
  case isFalse hfirst =>
    have hongoing := hturn.resolve_left hfirst
    have hreported : { path with ptaGntEventReported := true }.SessionLaw := h.of_eq rfl rfl
    refine SessionLaw.txCurrentPacket
      ((hreported.otAssert .ptaStatus grant.granted).setFlag [.currentTxUseCsma] false
        (by decide)) ?_ _
    rw [isOngoing_eq] at hongoing ⊢
    simpa [Transmitter.setFlag] using hongoing

theorem SessionLaw.tryTxCurrentPacket (h : path.InSession false) (hongoing : path.isOngoing = true)
    {pta : PtaAnswer} (hpta : pta.IsValid) (rail : RailResults) :
    (path.tryTxCurrentPacket pta rail).SessionLaw := by
  have hasserted : path.otAssert .ongoingTxData
      (getInternalFlag path.tx.flags [.ongoingTxData]) = path := if_pos hongoing
  have hclosed : { path with ptaGntEventReported := false }.InSession false := h.of_eq rfl
  have hasked := hclosed.handlePhyStackEvent (.txPendedMac pta.status) rfl
  unfold TransmitPath.tryTxCurrentPacket
  simp only [hasserted]
  generalize hnext : TransmitPath.handlePhyStackEvent { path with ptaGntEventReported := false }
    (.txPendedMac pta.status) = asked at hasked
  have hstill : asked.isOngoing = true := hnext ▸ hongoing
  have hopened : pta.status ≠ .holdoff → asked.SessionLaw := by
    intro hstatus
    unfold SessionLaw
    rw [hstill]
    rwa [bne_iff_ne.mpr hstatus] at hasked
  cases hgrants : pta.grants with
  | nil =>
    rw [List.foldl_nil]
    cases hstatus : pta.status with
    | success => exact (hopened (by simp [hstatus])).txCurrentPacket hstill rail
    | cbPending => exact hopened (by simp [hstatus])
    | other => exact hopened (by simp [hstatus])
    | holdoff =>
      have hclosed : asked.InSession false := by rwa [hstatus] at hasked
      have hended : (asked.txFailedCallback false .txFailed .startFailed).isOngoing = false := by
        unfold isOngoing at hstill ⊢
        rw [txFailedCallback_tx, Transmitter.txFailedCallback, if_neg Bool.false_ne_true,
          if_pos hstill]
        rfl
      unfold SessionLaw
      rw [hended]
      unfold isOngoing at hstill
      unfold TransmitPath.txFailedCallback
      rw [if_neg Bool.false_ne_true, if_pos hstill]
      exact hclosed.of_eq rfl
  | cons grant grants =>
    have hpending := hpta.pending (by simp [hgrants])
    rw [List.foldl_cons, grants_of_reported (asked.onPtaGrantTx_reported grant), hpending]
    exact (hopened (by simp [hpending])).onPtaGrantTx (.inr hstill)

/-- A session is opened for a transmission, or the arbiter refuses to. -/
theorem SessionLaw.startTransmission (h : path.SessionLaw) (hidle : path.isOngoing = false)
    {pta : PtaAnswer} (hpta : pta.IsValid) (rail : RailResults) :
    (path.startTransmission pta rail).SessionLaw := by
  have hclosed : path.InSession false := by
    unfold SessionLaw at h
    rwa [hidle] at h
  have hbegun : (path.mapTx fun tx ↦ { tx with
      started := tx.started ++ [tx.currentPacket.iid] }.setFlag [.ongoingTxData] true).InSession
        false := hclosed.of_eq rfl
  have htried := SessionLaw.tryTxCurrentPacket hbegun rfl hpta rail
  unfold TransmitPath.startTransmission
  simp only
  split
  · exact htried.of_eq rfl rfl
  · exact htried

theorem SessionLaw.otPlatRadioTransmit (h : path.SessionLaw)
    (hphase : path.tx.InPhase config phase) (hsingle : config.multipan = false → phase = .idle)
    {around : Surroundings} (hpta : around.pta.IsValid) (iid : ℕ) :
    (path.otPlatRadioTransmit config iid around).SessionLaw := by
  have hcounted : (path.mapTx Transmitter.countRequest).SessionLaw := h.of_eq rfl rfl
  have hflags := Transmitter.acceptFrame_flags (path.mapTx Transmitter.countRequest).tx config iid
    (txBufIndex iid)
  generalize htaken : ((path.mapTx Transmitter.countRequest).mapTx fun tx ↦
    tx.acceptFrame config iid (txBufIndex iid)) = taken
  have hsame : taken.tx.flags = path.tx.flags := by
    rw [← htaken]
    exact hflags
  have hkept : taken.SessionLaw := by
    refine h.of_eq (htaken ▸ rfl) ?_
    unfold isOngoing
    rw [hsame]
  have hbusy : taken.tx.isBusy = !phase.isIdle := by
    rw [← hphase.isBusy]
    exact Transmitter.isBusy_congr fun flag _ ↦ congrFun hsame flag
  unfold TransmitPath.otPlatRadioTransmit
  simp only [htaken]
  split
  · exact hcounted
  split
  · exact hcounted
  split
  · exact hkept
  case isFalse hfree =>
    have hidle : phase = .idle := by
      cases hmultipan : config.multipan with
      | false => exact hsingle hmultipan
      | true =>
        rw [hmultipan, Bool.true_and, hbusy] at hfree
        cases phase <;> first | rfl | simp [TxPhase.isIdle] at hfree
    subst hidle
    have hrest : taken.isOngoing = false := by
      unfold isOngoing
      rw [hsame, hphase.ongoing_iff]
      rfl
    split
    · generalize hcurrent : (taken.mapTx fun tx ↦
        (tx.makeCurrent iid path.tx.requests).setSecurity around.mSecurity) = current
      have hwaits : current.isOngoing = false := by
        rw [isOngoing_eq] at hrest ⊢
        rw [← hcurrent]
        simpa [Transmitter.makeCurrent, Transmitter.setSecurity, Transmitter.setFlag,
          Transmitter.updateBuffer, radioTxEvents, Transmitter.otAssert_flags] using hrest
      exact SessionLaw.startTransmission (hkept.of_eq (hcurrent ▸ rfl) (hwaits.trans hrest.symm))
        hwaits hpta around.rail
    · exact hkept

theorem SessionLaw.processTxComplete (h : path.SessionLaw)
    (hphase : path.tx.InPhase config phase) : path.processTxComplete.SessionLaw := by
  have hafter := Transmitter.processTxComplete_inPhase hphase
  refine h.of_eq ?_ ?_
  · unfold TransmitPath.processTxComplete
    split <;> rfl
  · unfold isOngoing
    rw [processTxComplete_tx, hafter.ongoing_iff, hphase.ongoing_iff]
    cases phase <;> rfl

/-! ## What breaks a session -/

/-- No transmission is under way, and no acknowledgment is awaited. -/
def Resting (path : TransmitPath) : Prop :=
  path.tx.flags .ongoingTxData = false ∧ path.tx.flags .waitingForAck = false

/-- A handler that finds no transmission says nothing of one. -/
def SaysNothing (handler : TransmitPath → TransmitPath) : Prop :=
  ∀ path, Resting path → (handler path).stackEvents = path.stackEvents ∧ Resting (handler path)

theorem SaysNothing.comp {first second : TransmitPath → TransmitPath} (hfirst : SaysNothing first)
    (hsecond : SaysNothing second) : SaysNothing fun path ↦ second (first path) := by
  intro path hpath
  obtain ⟨hevents, hrest⟩ := hfirst path hpath
  obtain ⟨hevents', hrest'⟩ := hsecond _ hrest
  exact ⟨hevents'.trans hevents, hrest'⟩

theorem saysNothing_setFlag (mask : List Flag) (val : Bool) (hongoing : .ongoingTxData ∉ mask)
    (hwaiting : .waitingForAck ∉ mask) :
    SaysNothing fun path ↦ path.mapTx fun tx ↦ tx.setFlag mask val :=
  fun _ hpath ↦ ⟨rfl, (if_neg hongoing).trans hpath.1, (if_neg hwaiting).trans hpath.2⟩

theorem saysNothing_ite {condition : TransmitPath → Prop} [∀ path, Decidable (condition path)]
    {first second : TransmitPath → TransmitPath}
    (hfirst : SaysNothing first) (hsecond : SaysNothing second) :
    SaysNothing fun path ↦ if condition path then first path else second path := by
  intro path hpath
  simp only
  split
  · exact hfirst path hpath
  · exact hsecond path hpath

theorem saysNothing_id : SaysNothing fun path ↦ path := fun _ hpath ↦ ⟨rfl, hpath⟩

theorem saysNothing_yieldPendingData : SaysNothing yieldPendingData :=
  saysNothing_ite (fun _ hpath ↦ ⟨rfl, hpath⟩) saysNothing_id

theorem saysNothing_txFailedCallback (isAck : Bool) (status : Flag) (cause : TxEnd) :
    SaysNothing fun path ↦ path.txFailedCallback isAck status cause := by
  intro path hpath
  simp only [txFailedCallback, getInternalFlag_singleton, hpath.1, Bool.false_eq_true, ↓reduceIte]
  split
  · exact saysNothing_setFlag [.ongoingTxAck] false (by decide) (by decide) path hpath
  · exact ⟨rfl, hpath⟩

theorem saysNothing_scheduledEvents (aEvents : TxEvents) :
    SaysNothing fun path ↦ path.scheduledEvents aEvents := by
  unfold scheduledEvents
  refine saysNothing_ite ?_ (saysNothing_ite ?_ (saysNothing_ite ?_ saysNothing_id))
  · have hstarted : SaysNothing fun path ↦ if aEvents.scheduledStarted then
        path.mapTx fun tx ↦ tx.setFlag [.scheduledRxStarted] true else path :=
      saysNothing_ite (saysNothing_setFlag _ _ (by decide) (by decide)) saysNothing_id
    have hended : SaysNothing fun path ↦
        if aEvents.rxScheduledRxEnd || aEvents.rxScheduledRxMissed then (path.mapTx fun tx ↦
          tx.setFlag [.scheduledRxPending, .scheduledRxStarted] false).yieldRadio else path :=
      saysNothing_ite ((saysNothing_setFlag _ _ (by decide) (by decide)).comp
        fun _ hpath ↦ ⟨rfl, hpath⟩) saysNothing_id
    exact hstarted.comp hended
  · exact ((saysNothing_setFlag [.scheduledTxStarted] true (by decide) (by decide)).comp
      (saysNothing_setFlag [.scheduledTxPending] false (by decide) (by decide))).comp
        fun _ hpath ↦ ⟨rfl, hpath⟩
  · exact (saysNothing_setFlag [.scheduledTxPending] false (by decide) (by decide)).comp
      (saysNothing_txFailedCallback _ _ _)

theorem saysNothing_ackReceived (packet : RxPacket) :
    SaysNothing fun path ↦ path.ackReceived packet := by
  intro path hpath
  have hnot : path.answersCurrent packet = false := by
    simp [answersCurrent, Transmitter.txWaitingForAck, hpath.1]
  have hkept : (path.answersCurrent packet && packet.timestampValid) = false := by
    rw [hnot]
    rfl
  have hcounted : (path.count fun counters ↦ { counters with
      mRailEventAcksReceived := counters.mRailEventAcksReceived + 1 }).answersCurrent packet =
        false := hnot
  unfold ackReceived
  simp only [hcounted, Bool.false_and, Bool.false_eq_true, ↓reduceIte]
  have hcopied : Resting (path.mapTx fun tx ↦ tx.ackReceived packet) := by
    unfold Resting
    rw [mapTx_tx, ackReceived_of_not hkept]
    exact hpath
  split
  · exact ⟨rfl, hcopied⟩
  · exact ⟨rfl, hcopied⟩

theorem saysNothing_packetReceivedCallback (packet : RxPacket) (stored : Bool) :
    SaysNothing fun path ↦ path.packetReceivedCallback packet stored := by
  unfold packetReceivedCallback
  exact saysNothing_ite saysNothing_id (saysNothing_ite
    (saysNothing_ite (saysNothing_ackReceived packet) saysNothing_id)
    (saysNothing_ite
      (saysNothing_ite (saysNothing_setFlag _ _ (by decide) (by decide))
        saysNothing_yieldPendingData)
      saysNothing_id))

theorem saysNothing_txackEvents (aEvents : TxEvents) :
    SaysNothing fun path ↦ path.txackEvents aEvents := by
  have hsent : SaysNothing fun path ↦ if aEvents.txackPacketSent then
      path.packetSentCallback true else path :=
    saysNothing_ite ((saysNothing_setFlag [.ongoingTxAck] false (by decide) (by decide)).comp
      saysNothing_yieldPendingData) saysNothing_id
  have hfailed : ∀ event : Bool, SaysNothing fun path ↦ if event then
      path.txFailedCallback true .txFailed .aborted else path :=
    fun _ ↦ saysNothing_ite (saysNothing_txFailedCallback _ _ _) saysNothing_id
  exact (hsent.comp (hfailed aEvents.txackAborted)).comp (hfailed aEvents.txackBlocked)

theorem saysNothing_ackTimeoutEvent (aEvents : TxEvents) :
    SaysNothing fun path ↦ path.ackTimeoutEvent aEvents := by
  intro path hpath
  have hnot : (aEvents.rxAckTimeout && getInternalFlag path.tx.flags [.waitingForAck]) = false := by
    rw [getInternalFlag_singleton, hpath.2, Bool.and_false]
  simp only [ackTimeoutEvent, hnot]
  exact ⟨rfl, hpath⟩

theorem saysNothing_schedulerEvent (aEvents : TxEvents) :
    SaysNothing fun path ↦ path.schedulerEvent aEvents := by
  refine saysNothing_ite ?_ saysNothing_id
  have hcleared := saysNothing_setFlag
    [.scheduledRxPending, .scheduledTxPending, .scheduledTxStarted] false (by decide) (by decide)
  have hacked : SaysNothing fun path ↦ if getInternalFlag path.tx.flags [.ongoingTxAck] then
      path.txFailedCallback true .txFailed .aborted else path :=
    saysNothing_ite (saysNothing_txFailedCallback _ _ _) saysNothing_id
  have hfailed : SaysNothing fun path ↦ if getInternalFlag path.tx.flags [.ongoingTxData] then
      (path.handlePhyStackEvent (.txBlocked path.tx.txWaitingForAck)).txFailedCallback false
        .txCcaFailed .schedulerError else path := by
    intro path hpath
    simp only [getInternalFlag_singleton, hpath.1, Bool.false_eq_true, ↓reduceIte]
    exact ⟨trivial, hpath⟩
  have htimed : SaysNothing fun path ↦ if getInternalFlag path.tx.flags [.waitingForAck] then
      path.ackTimeoutCallback else path := by
    intro path hpath
    simp only [getInternalFlag_singleton, hpath.2, Bool.false_eq_true, ↓reduceIte]
    exact ⟨trivial, hpath⟩
  exact (((hcleared.comp hacked).comp hfailed).comp htimed).comp fun _ hpath ↦ ⟨rfl, hpath⟩

/-- Behind the end of a transmission the rest of `RAILCb_Generic` says nothing. -/
theorem saysNothing_lateEvents (aEvents : TxEvents)
    (rxPacketReceived : Option (RxPacket × Bool)) :
    SaysNothing fun path ↦ (((path.rxPacketReceivedEvent rxPacketReceived).txackEvents
      aEvents).ackTimeoutEvent aEvents).schedulerEvent aEvents := by
  have hlate := ((saysNothing_txackEvents aEvents).comp (saysNothing_ackTimeoutEvent aEvents)).comp
    (saysNothing_schedulerEvent aEvents)
  cases rxPacketReceived with
  | none => exact hlate
  | some received => exact (saysNothing_packetReceivedCallback received.1 received.2).comp hlate

/-- What the arbiter is told of a channel check. -/
def channelChecks (aEvents : TxEvents) : List StackEvent :=
  (if aEvents.txStartCca then [.txCcaSoon] else []) ++
    (if aEvents.txCcaRetry then [.txCcaBusy] else []) ++
      if aEvents.txChannelClear then [.txStarted] else []

theorem preCompletionEvents_stackEvents (path : TransmitPath) (aEvents : TxEvents) :
    (path.preCompletionEvents aEvents).stackEvents =
      path.stackEvents ++ channelChecks aEvents := by
  unfold preCompletionEvents channelChecks
  split_ifs <;> simp [TransmitPath.handlePhyStackEvent]

/-- There is no channel check outside a session. -/
theorem exec_channelChecks {aEvents : TxEvents} (hchecks : aEvents.checksChannel = true) :
    exec sessionStep false (channelChecks aEvents) = none := by
  rw [TxEvents.checksChannel, Bool.or_eq_true, Bool.or_eq_true] at hchecks
  unfold channelChecks
  by_cases hsoon : aEvents.txStartCca = true
  · rw [if_pos hsoon]
    rfl
  by_cases hretry : aEvents.txCcaRetry = true
  · rw [if_neg hsoon, if_pos hretry]
    rfl
  · have hclear := hchecks.resolve_left (not_or.mpr ⟨hsoon, hretry⟩)
    rw [if_neg hsoon, if_neg hretry, if_pos hclear]
    rfl

/-- While no transmission is under way, the report of a failure or of a channel check only tells
the arbiter of a session that is not open. -/
theorem completionEvents_of_resting (hrest : Resting path) {aEvents : TxEvents}
    (hattempt : aEvents.concernsAttempt = true) :
    Resting (path.completionEvents aEvents) ∧ ∃ stackEvents,
      (path.completionEvents aEvents).stackEvents = path.stackEvents ++ stackEvents ∧
        exec sessionStep false stackEvents = none := by
  have hignored : ∀ stackEvent status cause,
      (path.handlePhyStackEvent stackEvent).txFailedCallback false status cause =
        path.handlePhyStackEvent stackEvent := by
    intro stackEvent status cause
    rw [txFailedCallback, if_neg Bool.false_ne_true, handlePhyStackEvent_tx,
      getInternalFlag_singleton, hrest.1, if_neg Bool.false_ne_true]
  simp only [TxEvents.concernsAttempt, Bool.and_eq_true, Bool.not_eq_true', Bool.or_eq_true]
    at hattempt
  obtain ⟨hsent, hattempt⟩ := hattempt
  unfold completionEvents
  simp only [hsent, Bool.false_eq_true, ↓reduceIte, hignored]
  split
  · exact ⟨hrest, _, rfl, rfl⟩
  split
  · exact ⟨hrest, _, rfl, rfl⟩
  split
  · exact ⟨hrest, _, rfl, rfl⟩
  case isFalse hbusy hblocked haborted =>
    have hchecks : aEvents.checksChannel = true := by
      simpa [hbusy, hblocked, haborted] using hattempt
    refine ⟨?_, _, preCompletionEvents_stackEvents path aEvents, exec_channelChecks hchecks⟩
    unfold Resting
    rw [preCompletionEvents_tx]
    exact hrest

/-- A failure or a channel check reported while no transmission is under way is told outside a
session. -/
theorem not_sessionLaw_of_attempt (h : path.SessionLaw) (hphase : path.tx.InPhase config phase)
    {aEvents : TxEvents} (hattempt : aEvents.concernsAttempt = true)
    (hidle : path.isOngoing = false)
    (rxPacketReceived : Option (RxPacket × Bool)) :
    ¬ (path.railCbGeneric aEvents rxPacketReceived).SessionLaw := by
  have hclosed : path.InSession false := by
    unfold SessionLaw at h
    rwa [hidle] at h
  have hrest : Resting path := by
    refine ⟨path.isOngoing_eq ▸ hidle, ?_⟩
    rw [isOngoing_eq, hphase.ongoing] at hidle
    rw [hphase.waiting]
    cases phase <;> first | rfl | cases hidle
  obtain ⟨hcompleted, stackEvents, htold, hnone⟩ := completionEvents_of_resting hrest hattempt
  have hquiet := ((saysNothing_scheduledEvents aEvents).comp
    (saysNothing_lateEvents aEvents rxPacketReceived)) _ hcompleted
  exact hclosed.not_of_none (hquiet.1.trans htold) hnone _

/-- A scheduled transmission missed while it is under way ends it and leaves its session open. -/
theorem not_sessionLaw_of_missed (h : path.SessionLaw) {aEvents : TxEvents}
    (hattempt : aEvents.concernsAttempt = true → path.isOngoing = true)
    (hmissed : (path.completionEvents aEvents).missesScheduledTx aEvents = true)
    (hongoing : (path.completionEvents aEvents).isOngoing = true)
    (rxPacketReceived : Option (RxPacket × Bool)) :
    ¬ (path.railCbGeneric aEvents rxPacketReceived).SessionLaw := by
  have hopen := (h.completionEvents hattempt).isOpen hongoing
  unfold railCbGeneric
  generalize path.completionEvents aEvents = completed at hmissed hongoing hopen
  have hended : (completed.scheduledEvents aEvents).stackEvents = completed.stackEvents ∧
      Resting (completed.scheduledEvents aEvents) := by
    simp only [missesScheduledTx, Bool.and_eq_true, Bool.not_eq_true'] at hmissed
    obtain ⟨⟨hrx, hstarted⟩, hevent⟩ := hmissed
    have hstill : getInternalFlag (completed.tx.setFlag [.scheduledTxPending] false).flags
        [.ongoingTxData] = true := by
      rw [isOngoing_eq] at hongoing
      simpa [Transmitter.setFlag] using hongoing
    unfold scheduledEvents
    simp only [hrx, hstarted, hevent, Bool.false_eq_true, ↓reduceIte, txFailedCallback, mapTx_tx,
      hstill]
    refine ⟨rfl, ?_⟩
    simp [Resting, Transmitter.txFailedCallback, Transmitter.setFlag] at hstill ⊢
    simp [hstill]
  have hquiet := saysNothing_lateEvents aEvents rxPacketReceived _ hended.2
  simp only at hquiet ⊢
  intro hlaw
  have hclosed := InSession.of_eq hopen (hquiet.1.trans hended.1)
  unfold SessionLaw at hlaw
  rw [isOngoing_eq, hquiet.2.1] at hlaw
  unfold InSession at hlaw hclosed
  rw [hclosed] at hlaw
  cases hlaw

end TransmitPath

/-- The transmitter is in a phase, and the events form sessions. -/
structure SessionConsistent (config : Config) (path : TransmitPath) : Prop where
  phased : path.IsPhased config
  sessionLaw : path.SessionLaw

theorem pathStep_sessionConsistent {event : PathEvent} {next : TransmitPath}
    (h : SessionConsistent config path) (hstack : StackContract config path event)
    (harbiter : ArbiterContract path event) (hgrant : GrantInTurn path event)
    (hturn : path.ReportsInTurn event) (hstep : pathStep config path event = some next) :
    SessionConsistent config next := by
  refine ⟨pathStep_isPhased h.phased hstack hstep, ?_⟩
  obtain ⟨⟨phase, hphase⟩, hlaw⟩ := h
  cases event with
  | writeFrame iid aFrame =>
    obtain ⟨hiid, hnext⟩ := Option.ite_none_right_eq_some.mp hstep
    obtain rfl := Option.some.inj hnext
    exact hlaw.of_eq rfl rfl
  | transmit iid around =>
    obtain ⟨hiid, hnext⟩ := Option.ite_none_right_eq_some.mp hstep
    obtain rfl := Option.some.inj hnext
    refine hlaw.otPlatRadioTransmit hphase (fun hsingle ↦ ?_) harbiter iid
    obtain hidle | hother := hphase.idle_or_ne (hstack hsingle)
    · exact hidle
    · by_contra hne
      have hcurrent := (hphase.current hne).1
      rw [Config.isIid_single hsingle] at hcurrent hiid
      exact hother (hcurrent.trans hiid.symm)
  | scheduleRx pending =>
    obtain rfl := Option.some.inj hstep
    exact hlaw.setFlag _ _ (by decide)
  | ptaGrant grant =>
    obtain rfl := Option.some.inj hstep
    exact hlaw.onPtaGrantTx (hgrant.imp_right fun hfirst ↦ hfirst.2.1)
  | railEvents aEvents rxPacketReceived =>
    obtain rfl := Option.some.inj hstep
    exact hlaw.railEvents hphase hturn
  | processTxComplete =>
    obtain rfl := Option.some.inj hstep
    exact hlaw.processTxComplete hphase

theorem not_sessionLaw {event : PathEvent} {next : TransmitPath}
    (h : SessionConsistent config path) (hturn : ¬ path.ReportsInTurn event)
    (hstep : pathStep config path event = some next) : ¬ next.SessionLaw := by
  obtain ⟨⟨phase, hphase⟩, hlaw⟩ := h
  cases event with
  | railEvents aEvents rxPacketReceived =>
    obtain rfl := Option.some.inj hstep
    by_cases hattempt : aEvents.concernsAttempt = true → path.isOngoing = true
    · have hnot : ¬ ((path.completionEvents aEvents).missesScheduledTx aEvents = true →
          (path.completionEvents aEvents).isOngoing = false) := fun h ↦ hturn ⟨hattempt, h⟩
      obtain ⟨hmissed, hongoing⟩ := Classical.not_imp.mp hnot
      exact TransmitPath.not_sessionLaw_of_missed hlaw hattempt hmissed
        (Bool.of_not_eq_false hongoing) rxPacketReceived
    · obtain ⟨hreported, hidle⟩ := Classical.not_imp.mp hattempt
      exact TransmitPath.not_sessionLaw_of_attempt hlaw hphase hreported
        (Bool.eq_false_of_not_eq_true hidle) rxPacketReceived
  | _ => exact absurd trivial hturn

/-- A packet that is acknowledged, one for which the arbiter makes the driver wait, which finds the
channel busy once and whose acknowledgment does not come, and one that RAIL refuses. -/
def sessionRun : List PathEvent :=
  let aFrame : OtRadioFrame := { mPsdu := [0x61, 0x88, 7], mChannel := 11 }
  let ack : RxPacket := { psdu := [0x02, 0x10, 7], isAck := true }
  [.writeFrame 0 aFrame, .transmit 0 {}, .railEvents { txPacketSent := true } (some (ack, false)),
    .processTxComplete, .transmit 0 { pta := { status := .cbPending } }, .ptaGrant {},
    .railEvents { txStartCca := true, txCcaRetry := true } none,
    .railEvents { txChannelClear := true } none,
    .railEvents { txPacketSent := true } none, .railEvents { rxAckTimeout := true } none,
    .processTxComplete, .transmit 0 { rail := { startTx := false } }, .processTxComplete]

end OtEfr32.Radio
