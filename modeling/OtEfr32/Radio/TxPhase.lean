import OtEfr32.Radio.Transmitter

/-!
# Phases of a transmission

The abstract model of the transmit path: no transmission, one under way, or one that has ended and
waits to be reported.  `Transmitter.InPhase` says that the flags, the current packet and the history
of the driver are those of a phase, and each handler of the driver is shown to move between the
phases as it should.
-/

namespace OtEfr32.Radio

/-- The phase of the transmit path. -/
inductive TxPhase where
  | idle
  | ongoing (waitingForAck : Bool)
  | ended (cause : TxEnd)
  deriving DecidableEq, Repr

/-- The event by which the driver remembers the end of a transmission. -/
def TxEnd.event : TxEnd → Flag
  | .packetSent | .ackReceived => .txSuccess
  | .channelBusy | .schedulerError => .txCcaFailed
  | .ackTimeout => .txNoAck
  | .blocked | .aborted | .scheduledTxMissed | .startFailed => .txFailed

namespace TxPhase

/-- A transmission is under way. -/
def isOngoing : TxPhase → Bool
  | .ongoing _ => true
  | _ => false

/-- The packet has been sent and its acknowledgment is awaited. -/
def isWaiting : TxPhase → Bool
  | .ongoing waitingForAck => waitingForAck
  | _ => false

/-- The event of an unreported end. -/
def event : TxPhase → Option Flag
  | .ended cause => some cause.event
  | _ => none

theorem event_mem {phase : TxPhase} {raised : Flag} (h : phase.event = some raised) :
    raised ∈ radioTxEvents := by
  cases phase with
  | ended cause =>
    obtain rfl := Option.some.inj h
    cases cause <;> decide
  | _ => contradiction

/-- The transmission under way, as the instance that asked for it. -/
def running (iid : ℕ) : TxPhase → List ℕ
  | .ongoing _ => [iid]
  | _ => []

/-- The unreported end, as the instance and the status to report. -/
def unreported (iid : ℕ) : TxPhase → List (ℕ × OtError)
  | .ended cause => [(iid, cause.status)]
  | _ => []

/-- There is no transmission. -/
def isIdle : TxPhase → Bool
  | .idle => true
  | _ => false

/-- A transmission under way ends. -/
def finish (cause : TxEnd) : TxPhase → TxPhase
  | .ongoing _ => .ended cause
  | phase => phase

/-- An awaited acknowledgment does not arrive. -/
def timeOut : TxPhase → TxPhase
  | .ongoing true => .ended .ackTimeout
  | phase => phase

/-- An unreported end is reported. -/
def report : TxPhase → TxPhase
  | .ended _ => .idle
  | phase => phase

/-- The packet has been sent. -/
def sent (ackRequired : Bool) : TxPhase → TxPhase
  | .ongoing _ => if ackRequired then .ongoing true else .ended .packetSent
  | phase => phase

@[simp]
theorem finish_isIdle (cause : TxEnd) (phase : TxPhase) :
    (phase.finish cause).isIdle = phase.isIdle := by
  cases phase <;> rfl

@[simp]
theorem timeOut_isIdle (phase : TxPhase) : phase.timeOut.isIdle = phase.isIdle := by
  rcases phase with - | (_ | _) | - <;> rfl

@[simp]
theorem sent_isIdle (ackRequired : Bool) (phase : TxPhase) :
    (phase.sent ackRequired).isIdle = phase.isIdle := by
  cases phase <;> cases ackRequired <;> rfl

end TxPhase

namespace Transmitter

variable {config : Config} {tx : Transmitter} {phase : TxPhase}

/-- The flags, the current packet and the history are those of a phase. -/
structure InPhase (config : Config) (tx : Transmitter) (phase : TxPhase) : Prop where
  ongoing : tx.flags .ongoingTxData = phase.isOngoing
  waiting : tx.flags .waitingForAck = phase.isWaiting
  events : EventIs tx.flags phase.event
  ack : phase.isWaiting = true → tx.ackRequired = true
  current : phase ≠ .idle → config.isIid tx.currentPacket.iid = true ∧
    tx.sCurrentTxPacket = some (txBufIndex tx.currentPacket.iid)
  started : tx.started = tx.ended.map Prod.fst ++ phase.running tx.currentPacket.iid
  reported : tx.ended.map (fun entry ↦ (entry.1, entry.2.status)) =
    tx.txDones.map (fun done ↦ (done.iid, done.aError)) ++ phase.unreported tx.currentPacket.iid
  failedAsserts : tx.failedAsserts = []

/-- The flags that tell the phase. -/
def phaseFlags : List Flag := .ongoingTxData :: .waitingForAck :: radioTxEvents

/-! ## Changes inside a phase -/

theorem InPhase.setFlag (h : tx.InPhase config phase) (mask : List Flag) (val : Bool)
    (hmask : ∀ flag ∈ phaseFlags, flag ∉ mask) : (tx.setFlag mask val).InPhase config phase := by
  have hsame : ∀ flag ∈ phaseFlags, (tx.setFlag mask val).flags flag = tx.flags flag :=
    fun flag hflag ↦ if_neg (hmask flag hflag)
  exact { h with
    ongoing := (hsame _ (by decide)).trans h.ongoing
    waiting := (hsame _ (by decide)).trans h.waiting
    events := fun flag hflag ↦
      (hsame flag (List.mem_cons_of_mem _ (List.mem_cons_of_mem _ hflag))).trans
        (h.events flag hflag) }

theorem otAssert_of_true {assertion : TxAssertion} {holds : Bool} (h : holds = true) :
    tx.otAssert assertion holds = tx := if_pos h

theorem updateBuffer_currentPacket (tx : Transmitter) (index : ℕ)
    (change : RadioFrame → RadioFrame) :
    (tx.updateBuffer index change).currentPacket =
      if tx.sCurrentTxPacket.getD 0 = index then change tx.currentPacket else tx.currentPacket := by
  unfold currentPacket updateBuffer
  split
  case isTrue hindex => rw [hindex]; exact Function.update_self ..
  case isFalse hindex => exact Function.update_of_ne hindex ..

/-- A change of a buffer that keeps the instance, and that keeps the current packet's request for an
acknowledgment, keeps the phase. -/
theorem InPhase.updateBuffer (h : tx.InPhase config phase) {index : ℕ}
    {change : RadioFrame → RadioFrame} (hiid : ∀ packet, (change packet).iid = packet.iid)
    (hack : phase ≠ .idle → tx.sCurrentTxPacket = some index →
      ackRequiredIn (change tx.currentPacket).frame.mPsdu = tx.ackRequired) :
    (tx.updateBuffer index change).InPhase config phase := by
  have hcurrent : (tx.updateBuffer index change).currentPacket.iid = tx.currentPacket.iid := by
    rw [updateBuffer_currentPacket]
    split
    · exact hiid _
    · rfl
  refine { h with ack := fun hwaiting ↦ ?_, current := ?_, started := ?_, reported := ?_ }
  · have hphase : phase ≠ .idle := by rintro rfl; cases hwaiting
    have hpacket := (h.current hphase).2
    rw [Transmitter.ackRequired, updateBuffer_currentPacket]
    split
    case isTrue hindex =>
      rw [hack hphase (by rw [hpacket] at hindex ⊢; exact congrArg some hindex)]
      exact h.ack hwaiting
    case isFalse => exact h.ack hwaiting
  · rw [hcurrent]
    exact h.current
  · rw [hcurrent]
    exact h.started
  · rw [hcurrent]
    exact h.reported

/-! ## The end of a transmission -/

/-- What every handler does that ends a transmission. -/
theorem InPhase.finish {waitingForAck : Bool} (h : tx.InPhase config (.ongoing waitingForAck))
    (cause : TxEnd) {flags : Flags} (hongoing : flags .ongoingTxData = false)
    (hwaiting : flags .waitingForAck = false)
    (hevents : EventIs flags (some cause.event)) :
    InPhase config { tx.recordEnd cause with flags } (.ended cause) where
  ongoing := hongoing
  waiting := hwaiting
  events := hevents
  ack := nofun
  current := fun _ ↦ h.current TxPhase.noConfusion
  started := by
    calc
      tx.started = tx.ended.map Prod.fst ++ [tx.currentPacket.iid] := h.started
      _ = (tx.ended ++ [(tx.currentPacket.iid, cause)]).map Prod.fst ++ [] := by
        rw [List.map_append, List.append_nil]
        rfl
  reported := by
    calc
      (tx.ended ++ [(tx.currentPacket.iid, cause)]).map (fun entry ↦ (entry.1, entry.2.status)) =
          tx.ended.map (fun entry ↦ (entry.1, entry.2.status)) ++
            [(tx.currentPacket.iid, cause.status)] := List.map_append
      _ = tx.txDones.map (fun done ↦ (done.iid, done.aError)) ++
            [(tx.currentPacket.iid, cause.status)] := by
        rw [h.reported]
        exact congrArg (· ++ _) (List.append_nil _)
  failedAsserts := h.failedAsserts

theorem InPhase.ongoing_iff (h : tx.InPhase config phase) :
    getInternalFlag tx.flags [.ongoingTxData] = phase.isOngoing := by
  rw [getInternalFlag_singleton, h.ongoing]

theorem InPhase.waiting_iff (h : tx.InPhase config phase) :
    getInternalFlag tx.flags [.waitingForAck] = phase.isWaiting := by
  rw [getInternalFlag_singleton, h.waiting]

/-! ## Handlers -/

theorem InPhase.awaitAck {waitingForAck : Bool} (h : tx.InPhase config (.ongoing waitingForAck))
    (hack : tx.ackRequired = true) :
    (tx.setFlag [.waitingForAck] true).InPhase config (.ongoing true) where
  ongoing := h.ongoing
  waiting := rfl
  events := h.events.setOther (by decide)
  ack := fun _ ↦ hack
  current := fun _ ↦ h.current TxPhase.noConfusion
  started := h.started
  reported := h.reported
  failedAsserts := h.failedAsserts

theorem packetSentCallback_inPhase (h : tx.InPhase config phase) :
    (tx.packetSentCallback false).InPhase config (phase.sent tx.ackRequired) := by
  unfold packetSentCallback
  rw [if_neg Bool.false_ne_true, h.ongoing_iff]
  cases phase with
  | idle => exact h
  | ended cause => exact h
  | ongoing waitingForAck =>
    have hcsma := h.setFlag [.currentTxUseCsma] false (by decide)
    have hwait : (tx.setFlag [.currentTxUseCsma] false).txWaitingForAck = tx.ackRequired := by
      rw [txWaitingForAck, hcsma.ongoing_iff]
      exact Bool.true_and _
    simp only [TxPhase.isOngoing, ↓reduceIte, hwait, TxPhase.sent]
    split
    case isTrue hack => exact hcsma.awaitAck hack
    case isFalse hack =>
      refine hcsma.finish .packetSent rfl ?_ ((hcsma.events.set _).setOther (by decide))
      cases waitingForAck with
      | false => exact hcsma.waiting
      | true => exact absurd (hcsma.ack rfl) hack

/-- The event that `txFailedCallback` sets for a status. -/
def failureEvent (status : Flag) : Flag := if status = .txCcaFailed then .txCcaFailed else .txFailed

theorem txFailedCallback_inPhase (h : tx.InPhase config phase) {status : Flag} {cause : TxEnd}
    (hcause : failureEvent status = cause.event) :
    (tx.txFailedCallback false status cause).InPhase config (phase.finish cause) := by
  unfold txFailedCallback
  rw [if_neg Bool.false_ne_true, h.ongoing_iff]
  cases phase with
  | idle => exact h
  | ended cause => exact h
  | ongoing waitingForAck =>
    unfold failureEvent at hcause
    simp only [TxPhase.isOngoing, ↓reduceIte, TxPhase.finish]
    split
    case isTrue hcca =>
      rw [if_pos hcca] at hcause
      exact h.finish cause rfl rfl
        (hcause ▸ ((h.events.set _).setOther (by decide)).setOther (by decide))
    case isFalse hother =>
      rw [if_neg hother] at hcause
      exact h.finish cause rfl rfl (hcause ▸ (h.events.set _).setOther (by decide))

theorem ackTimeoutCallback_inPhase (h : tx.InPhase config (.ongoing true)) :
    tx.ackTimeoutCallback.InPhase config (.ended .ackTimeout) := by
  have hwait : tx.txWaitingForAck = true := by
    rw [txWaitingForAck, h.ongoing_iff, h.ack rfl]
    rfl
  unfold ackTimeoutCallback
  rw [otAssert_of_true hwait, otAssert_of_true h.waiting_iff]
  exact h.finish .ackTimeout rfl rfl
    (((h.events.set _).setOther (by decide)).setOther (by decide))

theorem ackTimeoutEvent_inPhase (h : tx.InPhase config phase) (aEvents : TxEvents) :
    (tx.ackTimeoutEvent aEvents).InPhase config
      (if aEvents.rxAckTimeout then phase.timeOut else phase) := by
  unfold ackTimeoutEvent
  rw [h.waiting_iff]
  cases aEvents.rxAckTimeout with
  | false => exact h
  | true =>
    cases phase with
    | idle => exact h
    | ended cause => exact h
    | ongoing waitingForAck =>
      cases waitingForAck with
      | false => exact h
      | true => exact ackTimeoutCallback_inPhase h

theorem txFailedCallback_ack_inPhase (h : tx.InPhase config phase) (status : Flag)
    (cause : TxEnd) : (tx.txFailedCallback true status cause).InPhase config phase :=
  h.setFlag _ _ (by decide)

/-- A scheduler error ends a transmission under way, so no acknowledgment is awaited behind it. -/
theorem schedulerEventCallback_inPhase (h : tx.InPhase config phase) :
    tx.schedulerEventCallback.InPhase config (phase.finish .schedulerError) := by
  have hcleared := h.setFlag
    [.scheduledRxPending, .scheduledTxPending, .scheduledTxStarted] false (by decide)
  unfold schedulerEventCallback
  simp only
  generalize tx.setFlag [.scheduledRxPending, .scheduledTxPending, .scheduledTxStarted] false =
    cleared at hcleared
  have hacked : (if getInternalFlag cleared.flags [.ongoingTxAck] then
      cleared.txFailedCallback true .txFailed .aborted else cleared).InPhase config phase := by
    split
    · exact txFailedCallback_ack_inPhase hcleared _ _
    · exact hcleared
  generalize (if getInternalFlag cleared.flags [.ongoingTxAck] then
      cleared.txFailedCallback true .txFailed .aborted else cleared) = acked at hacked ⊢
  have hfailed : (if getInternalFlag acked.flags [.ongoingTxData] then
      acked.txFailedCallback false .txCcaFailed .schedulerError else acked).InPhase config
        (phase.finish .schedulerError) := by
    rw [hacked.ongoing_iff]
    split
    · exact txFailedCallback_inPhase hacked rfl
    · cases phase <;> first | exact hacked | contradiction
  rw [hfailed.waiting_iff]
  cases phase <;> exact hfailed

theorem schedulerEvent_inPhase (h : tx.InPhase config phase) (aEvents : TxEvents) :
    (tx.schedulerEvent aEvents).InPhase config
      (if aEvents.schedulerError then phase.finish .schedulerError else phase) := by
  unfold schedulerEvent
  split
  · exact schedulerEventCallback_inPhase h
  · exact h

theorem ackReceived_inPhase (h : tx.InPhase config phase) (packet : RxPacket) :
    ∃ after, after.isIdle = phase.isIdle ∧ (tx.ackReceived packet).InPhase config after := by
  have hcopied : InPhase config { tx with sReceiveAckPsdu := packet.psdu } phase := { h with }
  unfold ackReceived
  generalize { tx with sReceiveAckPsdu := packet.psdu } = copied at hcopied
  simp only
  split
  case isFalse => exact ⟨phase, rfl, hcopied⟩
  case isTrue hmatch =>
    have hongoing : phase.isOngoing = true := by
      rw [Bool.and_eq_true, Bool.and_eq_true, txWaitingForAck, Bool.and_eq_true,
        hcopied.ongoing_iff] at hmatch
      exact hmatch.1.1.1
    cases phase with
    | idle => contradiction
    | ended cause => contradiction
    | ongoing waitingForAck =>
      exact ⟨.ended .ackReceived, rfl,
        hcopied.finish .ackReceived rfl rfl ((hcopied.events.set _).setOther (by decide))⟩

theorem completionEvents_inPhase (h : tx.InPhase config phase) (aEvents : TxEvents) :
    ∃ after, after.isIdle = phase.isIdle ∧
      (tx.completionEvents aEvents).InPhase config after := by
  unfold completionEvents
  split
  · exact ⟨_, TxPhase.sent_isIdle _ _, packetSentCallback_inPhase h⟩
  split
  · exact ⟨_, TxPhase.finish_isIdle _ _, txFailedCallback_inPhase h rfl⟩
  split
  · exact ⟨_, TxPhase.finish_isIdle _ _, txFailedCallback_inPhase h rfl⟩
  split
  · exact ⟨_, TxPhase.finish_isIdle _ _, txFailedCallback_inPhase h rfl⟩
  · exact ⟨phase, rfl, h⟩

theorem scheduledEvents_inPhase (h : tx.InPhase config phase) (aEvents : TxEvents) :
    ∃ after, after.isIdle = phase.isIdle ∧
      (tx.scheduledEvents aEvents).InPhase config after := by
  unfold scheduledEvents
  split
  case isTrue =>
    refine ⟨phase, rfl, ?_⟩
    have hstarted : (if aEvents.scheduledStarted then tx.setFlag [.scheduledRxStarted] true
        else tx).InPhase config phase := by
      split
      · exact h.setFlag _ _ (by decide)
      · exact h
    simp only
    split
    · exact hstarted.setFlag _ _ (by decide)
    · exact hstarted
  case isFalse =>
    split
    · exact ⟨phase, rfl, (h.setFlag _ _ (by decide)).setFlag _ _ (by decide)⟩
    split
    · exact ⟨_, TxPhase.finish_isIdle _ _, txFailedCallback_inPhase (h.setFlag _ _ (by decide)) rfl⟩
    · exact ⟨phase, rfl, h⟩

theorem txackEvents_inPhase (h : tx.InPhase config phase) (aEvents : TxEvents) :
    (tx.txackEvents aEvents).InPhase config phase := by
  have hsent : (if aEvents.txackPacketSent then tx.packetSentCallback true else tx).InPhase config
      phase := by
    split
    · exact h.setFlag _ _ (by decide)
    · exact h
  unfold txackEvents
  generalize (if aEvents.txackPacketSent then tx.packetSentCallback true else tx) = sent at hsent
  have haborted : (if aEvents.txackAborted then sent.txFailedCallback true .txFailed .aborted
      else sent).InPhase config phase := by
    split
    · exact txFailedCallback_ack_inPhase hsent _ _
    · exact hsent
  simp only
  split
  · exact txFailedCallback_ack_inPhase haborted _ _
  · exact haborted

/-! ## Start and report of a transmission -/

theorem acceptFrame_inPhase (h : tx.InPhase config phase) {iid : ℕ} (hiid : config.isIid iid) :
    (tx.acceptFrame config iid (txBufIndex iid)).InPhase config phase := by
  unfold acceptFrame
  simp only
  rw [otAssert_of_true (decide_eq_true (config.txBufIndex_lt hiid)),
    otAssert_of_true (beq_self_eq_true _), otAssert_of_true (config.iid_inRange hiid)]
  refine h.updateBuffer (fun _ ↦ rfl) fun _ _ ↦ rfl

/-- The check for a busy transmit path reads the flags of the phase only. -/
theorem isBusy_congr {next : Transmitter}
    (h : ∀ flag ∈ phaseFlags, next.flags flag = tx.flags flag) :
    next.isBusy = tx.isBusy := by
  simp [isBusy, getInternalFlag, radioTxEvents, h .ongoingTxData (by decide),
    h .txSuccess (by decide), h .txCcaFailed (by decide), h .txNoAck (by decide),
    h .txSchedulerError (by decide), h .txFailed (by decide)]

theorem otAssert_flags (tx : Transmitter) (assertion : TxAssertion) (holds : Bool) :
    (tx.otAssert assertion holds).flags = tx.flags := by
  unfold otAssert
  split <;> rfl

theorem acceptFrame_flags (tx : Transmitter) (config : Config) (iid aFrame : ℕ) :
    (tx.acceptFrame config iid aFrame).flags = tx.flags :=
  (otAssert_flags _ _ _).trans ((otAssert_flags _ _ _).trans (otAssert_flags _ _ _))

/-- `acceptFrame` changes the priority of a frame only. -/
theorem acceptFrame_frame (tx : Transmitter) (config : Config) (iid aFrame index : ℕ) :
    ((tx.acceptFrame config iid aFrame).sTransmitBuffer index).frame =
      (tx.sTransmitBuffer index).frame := by
  have hassert : ∀ (tx : Transmitter) assertion holds,
      (tx.otAssert assertion holds).sTransmitBuffer = tx.sTransmitBuffer := by
    intro tx assertion holds
    unfold otAssert
    split <;> rfl
  unfold acceptFrame
  simp only [hassert, updateBuffer]
  by_cases hindex : index = txBufIndex iid
  · subst hindex
    rw [Function.update_self]
  · rw [Function.update_of_ne hindex]

/-- The current packet is that of an instance, and no transmission is under way or unreported. -/
structure Ready (config : Config) (tx : Transmitter) (iid : ℕ) : Prop where
  inPhase : tx.InPhase config .idle
  isIid : config.isIid iid = true
  iid_eq : tx.currentPacket.iid = iid
  index_eq : tx.sCurrentTxPacket = some (txBufIndex iid)

theorem InPhase.idle_of {tx' : Transmitter} (h : tx.InPhase config .idle)
    (hflags : tx'.flags = tx.flags) (hstarted : tx'.started = tx.started)
    (hended : tx'.ended = tx.ended) (hdones : tx'.txDones = tx.txDones)
    (hfailed : tx'.failedAsserts = tx.failedAsserts) : tx'.InPhase config .idle where
  ongoing := by rw [hflags, h.ongoing]
  waiting := by rw [hflags, h.waiting]
  events := by rw [hflags]; exact h.events
  ack := nofun
  current := fun hne ↦ absurd rfl hne
  started := by rw [hstarted, hended]; exact h.started
  reported := by rw [hended, hdones]; exact h.reported
  failedAsserts := by rw [hfailed, h.failedAsserts]

theorem makeCurrent_ready (h : tx.InPhase config .idle) {iid : ℕ} (hiid : config.isIid iid)
    (request : ℕ) : Ready config (tx.makeCurrent iid request) iid := by
  have hidle : (!getInternalFlag tx.flags [.ongoingTxData]) = true := by
    rw [h.ongoing_iff]
    rfl
  unfold makeCurrent
  simp only
  rw [otAssert_of_true hidle]
  have hcleared : (tx.setFlag radioTxEvents false).InPhase config .idle :=
    { h with events := eventIs_clearAll _ }
  refine ⟨?_, hiid, ?_, rfl⟩
  · refine InPhase.setFlag ?_ _ _ (by decide)
    exact hcleared.idle_of rfl rfl rfl rfl rfl
  · change (Function.update tx.sTransmitBuffer (txBufIndex iid) _ (txBufIndex iid)).iid = iid
    rw [Function.update_self]

theorem Ready.setSecurity {iid : ℕ} (h : Ready config tx iid) (mSecurity : FrameSecurity) :
    Ready config (tx.setSecurity mSecurity) iid where
  inPhase := h.inPhase.updateBuffer (fun _ ↦ rfl) fun hne _ ↦ absurd rfl hne
  isIid := h.isIid
  iid_eq := by
    rw [Transmitter.setSecurity, updateBuffer_currentPacket, if_pos rfl]
    exact h.iid_eq
  index_eq := h.index_eq

theorem Ready.begin {iid : ℕ} (h : Ready config tx iid) :
    InPhase config (setFlag { tx with started := tx.started ++ [tx.currentPacket.iid] }
      [.ongoingTxData] true) (.ongoing false) where
  ongoing := rfl
  waiting := h.inPhase.waiting
  events := h.inPhase.events.setOther (by decide)
  ack := nofun
  current := fun _ ↦ by
    refine ⟨?_, ?_⟩
    · exact h.iid_eq ▸ h.isIid
    · exact h.iid_eq ▸ h.index_eq
  started := by
    have hstarted : tx.started = tx.ended.map Prod.fst :=
      h.inPhase.started.trans (List.append_nil _)
    exact congrArg (· ++ _) hstarted
  reported := h.inPhase.reported
  failedAsserts := h.inPhase.failedAsserts

theorem txCurrentPacket_inPhase (h : tx.InPhase config (.ongoing false)) (rail : RailResults) :
    ∃ after, after.isIdle = false ∧ (tx.txCurrentPacket rail).InPhase config after := by
  have hprepared : (if getInternalFlag tx.flags [.scheduledRxPending] then
      tx.setFlag [.scheduledRxPending, .scheduledRxStarted] false else tx).InPhase config
        (.ongoing false) := by
    split
    · exact h.setFlag _ _ (by decide)
    · exact h
  unfold txCurrentPacket
  generalize (if getInternalFlag tx.flags [.scheduledRxPending] then
    tx.setFlag [.scheduledRxPending, .scheduledRxStarted] false else tx) = prepared at hprepared
  simp only
  unfold txStartResult
  split
  case isTrue =>
    refine ⟨.ongoing false, rfl, ?_⟩
    split
    · exact hprepared
    · exact hprepared.setFlag _ _ (by decide)
  case isFalse => exact ⟨_, rfl, txFailedCallback_inPhase hprepared rfl⟩

theorem startTransmission_inPhase {iid : ℕ} (h : Ready config tx iid) (rail : RailResults) :
    ∃ after, after.isIdle = false ∧ (tx.startTransmission rail).InPhase config after := by
  obtain ⟨after, hidle, hafter⟩ := txCurrentPacket_inPhase h.begin rail
  refine ⟨after, hidle, ?_⟩
  unfold startTransmission
  simp only
  split
  · exact { hafter with }
  · exact hafter

theorem InPhase.completionStatus {cause : TxEnd} (h : tx.InPhase config (.ended cause)) :
    tx.completionStatus = (cause.status, cause.event) := by
  have hset : ∀ flag ∈ radioTxEvents, getInternalFlag tx.flags [flag] =
      (some cause.event == some flag) :=
    fun flag hflag ↦ (getInternalFlag_singleton ..).trans (h.events flag hflag)
  rw [Transmitter.completionStatus, hset _ (by decide), hset _ (by decide), hset _ (by decide)]
  cases cause <;> rfl

theorem InPhase.isBusy (h : tx.InPhase config phase) : tx.isBusy = !phase.isIdle := by
  rw [Transmitter.isBusy, h.ongoing_iff, h.events.getInternalFlag fun _ ↦ TxPhase.event_mem]
  cases phase <;> rfl

/-- Every started transmission but the present one has been reported. -/
theorem InPhase.started_eq (h : tx.InPhase config phase) :
    tx.started = tx.txDones.map TxDone.iid ++
      if phase.isIdle then [] else [tx.currentPacket.iid] := by
  have hended : tx.ended.map Prod.fst = tx.txDones.map TxDone.iid ++
      (phase.unreported tx.currentPacket.iid).map Prod.fst := by
    have hfst := congrArg (List.map Prod.fst) h.reported
    rw [List.map_append, List.map_map, List.map_map] at hfst
    exact hfst
  rw [h.started, hended, List.append_assoc]
  cases phase <;> rfl

theorem clearTxDelay_iid (tx : Transmitter) :
    tx.clearTxDelay.currentPacket.iid = tx.currentPacket.iid := by
  rw [clearTxDelay, updateBuffer_currentPacket, if_pos rfl]

theorem InPhase.txDone {cause : TxEnd} (h : tx.InPhase config (.ended cause)) :
    ((tx.setFlag [cause.event] false).clearTxDelay.otPlatRadioTxDone cause.status).InPhase config
      .idle := by
  have hother : ∀ flag ∉ radioTxEvents,
      setInternalFlag tx.flags [cause.event] false flag = tx.flags flag := by
    intro flag hflag
    refine if_neg fun hmem ↦ hflag ?_
    rw [List.mem_singleton.mp hmem]
    have hevent : (TxPhase.ended cause).event = some cause.event := rfl
    exact TxPhase.event_mem hevent
  exact {
    ongoing := (hother _ (by decide)).trans h.ongoing
    waiting := (hother _ (by decide)).trans h.waiting
    events := h.events.clear
    ack := nofun
    current := fun hne ↦ absurd rfl hne
    started := h.started
    reported := by
      have hiid := clearTxDelay_iid (tx.setFlag [cause.event] false)
      apply h.reported.trans
      rw [Transmitter.otPlatRadioTxDone, List.map_append, List.map_singleton, hiid]
      exact (List.append_nil _).symm
    failedAsserts := h.failedAsserts }

theorem processTxComplete_inPhase (h : tx.InPhase config phase) :
    tx.processTxComplete.InPhase config phase.report := by
  unfold processTxComplete
  rw [h.events.getInternalFlag fun _ ↦ TxPhase.event_mem]
  cases phase with
  | idle => exact h
  | ongoing waitingForAck => exact h
  | ended cause =>
    rw [h.completionStatus]
    exact h.txDone

end Transmitter

end OtEfr32.Radio
