import OtEfr32.Radio.Driver

/-!
# The flags of a scheduled transmission

`FLAG_SCHEDULED_TX_PENDING` and `EVENT_SCHEDULED_TX_STARTED` are meant to be set only while a
transmission is under way.  `ScheduleView` has the few flags that this depends on.  Each handler of
the driver acts on it as a function of its own, so that the exact condition for one call of
`RAILCb_Generic` is a computation with Booleans.
-/

namespace OtEfr32.Radio

/-! ## The flags that matter -/

/-- The flags of a transmission, and the PSDU of the current packet. -/
structure ScheduleView where
  /-- `FLAG_ONGOING_TX_DATA`. -/
  ongoing : Bool
  /-- `FLAG_SCHEDULED_TX_PENDING`. -/
  pending : Bool
  /-- `EVENT_SCHEDULED_TX_STARTED`. -/
  started : Bool
  /-- `FLAG_WAITING_FOR_ACK`. -/
  waiting : Bool
  /-- `FLAG_SCHEDULED_RX_PENDING`. -/
  rxPending : Bool
  psdu : List ℕ

/-- An event that ends a transmission without success. -/
def TxEvents.txFails (aEvents : TxEvents) : Bool :=
  aEvents.txChannelBusy || aEvents.txBlocked || aEvents.txAborted

namespace ScheduleView

variable (view : ScheduleView)

/-- The flags of a scheduled transmission are set only while a transmission is under way. -/
def Consistent : Prop := (view.pending || view.started) = true → view.ongoing = true

/-- The transmission ends. -/
def finish : ScheduleView := { view with ongoing := false, waiting := false, started := false }

/-- The events that complete a transmission. -/
def complete (aEvents : TxEvents) : ScheduleView :=
  if view.ongoing = false then view
  else if aEvents.txPacketSent then
    if ackRequiredIn view.psdu then { view with waiting := true }
    else { view with ongoing := false, started := false }
  else if aEvents.txFails then view.finish
  else view

/-- The scheduled-receive and scheduled-transmit events. -/
def schedule (aEvents : TxEvents) : ScheduleView :=
  if view.rxPending then
    { view with rxPending := !(aEvents.rxScheduledRxEnd || aEvents.rxScheduledRxMissed) }
  else if aEvents.scheduledStarted then { view with pending := false, started := true }
  else if aEvents.txScheduledTxMissed then
    if view.ongoing then { view with pending := false }.finish else { view with pending := false }
  else view

/-- The packet is the acknowledgment that the current packet asks for. -/
def isAcknowledgedBy (packet : RxPacket) : Bool :=
  packet.valid && packet.isAck && decide (4 ≤ packet.psdu.length + 2) && isAckIn packet.psdu &&
    ackRequiredIn view.psdu && dsnIn packet.psdu == dsnIn view.psdu && packet.timestampValid

/-- The received packet. -/
def receive (rxPacketReceived : Option RxPacket) : ScheduleView :=
  if view.ongoing && rxPacketReceived.any view.isAcknowledgedBy then view.finish else view

/-- The end of the wait for an ACK. -/
def timeOut (aEvents : TxEvents) : ScheduleView :=
  if aEvents.rxAckTimeout && view.waiting then view.finish else view

/-- A scheduler error. -/
def schedulerError (aEvents : TxEvents) : ScheduleView :=
  if aEvents.schedulerError then { view.finish with pending := false, rxPending := false } else view

/-- The events behind those of a scheduled transmission, up to the scheduler status. -/
def acknowledge (aEvents : RailEvents) : ScheduleView :=
  (view.receive aEvents.rxPacketReceived).timeOut aEvents.tx

/-- One call of `RAILCb_Generic`. -/
def call (aEvents : RailEvents) : ScheduleView :=
  (((view.complete aEvents.tx).schedule aEvents.tx).acknowledge aEvents).schedulerError aEvents.tx

/-! ## The exact condition for one call -/

/-- The completion events of the call end the transmission. -/
def endsAtCompletion (aEvents : TxEvents) : Bool :=
  view.ongoing &&
    if aEvents.txPacketSent then !ackRequiredIn view.psdu else aEvents.txFails

/-- `FLAG_WAITING_FOR_ACK` behind the completion events of the call. -/
def awaitsAck (aEvents : TxEvents) : Bool :=
  if view.ongoing = false then view.waiting
  else if aEvents.txPacketSent then ackRequiredIn view.psdu || view.waiting
  else view.waiting && !aEvents.txFails

/-- The transmission is acknowledged in the call. -/
def endsByAck (aEvents : RailEvents) : Bool :=
  aEvents.rxPacketReceived.any view.isAcknowledgedBy

/-- The wait for an ACK ends in the call. -/
def endsByTimeout (aEvents : TxEvents) : Bool := aEvents.rxAckTimeout && view.awaitsAck aEvents

/-- The calls that keep the flags consistent.  A scheduled transmission is reported as started while
a transmission is under way, and one that is pending does not end in the call. -/
def CallCondition (aEvents : RailEvents) : Prop :=
  aEvents.tx.schedulerError = true ∨
    if view.rxPending = false ∧ aEvents.tx.scheduledStarted = true then
      (view.ongoing && !view.endsAtCompletion aEvents.tx || view.endsByTimeout aEvents.tx) = true
    else if view.rxPending = false ∧ aEvents.tx.txScheduledTxMissed = true then True
    else view.pending = true →
      (view.endsAtCompletion aEvents.tx || view.endsByAck aEvents ||
        view.endsByTimeout aEvents.tx) = false

instance : DecidablePred Consistent := fun _ ↦ inferInstanceAs (Decidable (_ → _))

instance (aEvents : RailEvents) : Decidable (view.CallCondition aEvents) :=
  inferInstanceAs (Decidable (_ ∨ ite _ _ _))

variable {view}

theorem Consistent.started_eq (h : view.Consistent) (hongoing : view.ongoing = false) :
    view.pending = false ∧ view.started = false := by
  rw [← Bool.or_eq_false_iff, ← Bool.not_eq_true]
  exact fun hset ↦ Bool.false_ne_true (hongoing.symm.trans (h hset))

/-- The completion events leave everything but the end of the transmission and the wait for its
ACK. -/
theorem complete_eq (h : view.Consistent) (aEvents : TxEvents) :
    view.complete aEvents =
      { view with
        ongoing := view.ongoing && !view.endsAtCompletion aEvents
        started := view.started && !view.endsAtCompletion aEvents
        waiting := view.awaitsAck aEvents } := by
  cases hongoing : view.ongoing with
  | false =>
    have hstarted := (h.started_eq hongoing).2
    cases view
    simp_all [complete, endsAtCompletion, awaitsAck]
  | true =>
    cases hsent : aEvents.txPacketSent with
    | true =>
      cases hack : ackRequiredIn view.psdu <;>
        simp [complete, endsAtCompletion, awaitsAck, hongoing, hsent, hack]
    | false =>
      cases hfails : aEvents.txFails with
      | true => simp [complete, endsAtCompletion, awaitsAck, finish, hongoing, hsent, hfails]
      | false =>
        cases view
        simp_all [complete, endsAtCompletion, awaitsAck]

/-- The completion events leave no transmission started that has ended. -/
theorem complete_started (h : view.Consistent) (aEvents : TxEvents)
    (hstarted : (view.complete aEvents).started = true) :
    (view.complete aEvents).ongoing = true := by
  rw [complete_eq h] at hstarted ⊢
  simp only [Bool.and_eq_true] at hstarted ⊢
  exact ⟨h (by rw [hstarted.1, Bool.or_true]), hstarted.2⟩

theorem endsByAck_congr {next : ScheduleView} (hpsdu : next.psdu = view.psdu)
    (aEvents : RailEvents) : next.endsByAck aEvents = view.endsByAck aEvents := by
  unfold endsByAck
  congr 1
  funext packet
  simp only [isAcknowledgedBy, hpsdu]

theorem timeOut_eq (view : ScheduleView) (aEvents : TxEvents) :
    (view.timeOut aEvents).pending = view.pending ∧
      (view.timeOut aEvents).ongoing = (view.ongoing && !(aEvents.rxAckTimeout && view.waiting)) ∧
      (view.timeOut aEvents).started =
        (view.started && !(aEvents.rxAckTimeout && view.waiting)) := by
  unfold timeOut
  cases aEvents.rxAckTimeout && view.waiting <;> simp [finish]

/-- A received packet and a timeout end a transmission, or change nothing that matters. -/
theorem acknowledge_eq (view : ScheduleView) (aEvents : RailEvents) :
    ∃ ended, (ended = true ↔ view.ongoing = true ∧ view.endsByAck aEvents = true ∨
        aEvents.tx.rxAckTimeout = true ∧ view.waiting = true) ∧
      (view.acknowledge aEvents).pending = view.pending ∧
      (view.acknowledge aEvents).ongoing = (view.ongoing && !ended) ∧
      (view.acknowledge aEvents).started = (view.started && !ended) := by
  unfold acknowledge endsByAck receive
  cases hack : view.ongoing && aEvents.rxPacketReceived.any view.isAcknowledgedBy with
  | true =>
    obtain ⟨hpending, hongoing, hstarted⟩ := view.finish.timeOut_eq aEvents.tx
    refine ⟨true, by simp_all, ?_⟩
    rw [if_pos rfl, hpending, hongoing, hstarted]
    simp [finish]
  | false =>
    rw [if_neg Bool.false_ne_true]
    exact ⟨aEvents.tx.rxAckTimeout && view.waiting, by simp_all, view.timeOut_eq aEvents.tx⟩

/-- A transmission that is reported as started is under way, or its end is still to come. -/
theorem acknowledge_of_started (hpending : view.pending = false) (hstarted : view.started = true)
    (aEvents : RailEvents) :
    (view.acknowledge aEvents).Consistent ↔
      (view.ongoing || aEvents.tx.rxAckTimeout && view.waiting) = true := by
  obtain ⟨ended, hended, hpending', hongoing', hstarted'⟩ := view.acknowledge_eq aEvents
  rw [Consistent, hpending', hongoing', hstarted', hpending, hstarted]
  cases ended <;> cases hongoing : view.ongoing <;> simp_all

theorem acknowledge_of_not_pending (hpending : view.pending = false) (h : view.Consistent)
    (aEvents : RailEvents) : (view.acknowledge aEvents).Consistent := by
  obtain ⟨ended, -, hpending', hongoing', hstarted'⟩ := view.acknowledge_eq aEvents
  rw [Consistent, hpending', hongoing', hstarted', hpending]
  rw [Consistent, hpending] at h
  cases ended <;> simp_all

/-- A pending transmission must not end. -/
theorem acknowledge_of_pending (hpending : view.pending = true) (hongoing : view.ongoing = true)
    (aEvents : RailEvents) :
    (view.acknowledge aEvents).Consistent ↔
      (view.endsByAck aEvents || aEvents.tx.rxAckTimeout && view.waiting) = false := by
  obtain ⟨ended, hended, hpending', hongoing', hstarted'⟩ := view.acknowledge_eq aEvents
  rw [Consistent, hpending', hongoing', hstarted', hpending, hongoing]
  cases ended with
  | true =>
    have hends := (hended.mp rfl).imp_left And.right
    rw [← Bool.and_eq_true, ← Bool.or_eq_true] at hends
    simp [hends]
  | false => simp_all

/-- The condition for a call without an event of a scheduled transmission. -/
theorem complete_acknowledge_iff (h : view.Consistent) (aEvents : RailEvents)
    {next : ScheduleView} (hnext : ∃ rxPending,
      next = { view.complete aEvents.tx with rxPending := rxPending }) :
    (next.acknowledge aEvents).Consistent ↔
      (view.pending = true → (view.endsAtCompletion aEvents.tx || view.endsByAck aEvents ||
        view.endsByTimeout aEvents.tx) = false) := by
  obtain ⟨rxPending, hnext⟩ := hnext
  rw [complete_eq h] at hnext
  have hkept : next.pending = view.pending := by rw [hnext]
  have hstarted : next.started = (view.started && !view.endsAtCompletion aEvents.tx) := by
    rw [hnext]
  have hongoing : next.ongoing = (view.ongoing && !view.endsAtCompletion aEvents.tx) := by
    rw [hnext]
  cases hpending : view.pending with
  | false =>
    rw [hpending] at hkept
    refine iff_of_true (acknowledge_of_not_pending hkept (fun hset ↦ ?_) aEvents) nofun
    rw [hkept, Bool.false_or, hstarted, Bool.and_eq_true] at hset
    rw [hongoing, h (by rw [hset.1, Bool.or_true]), hset.2]
    rfl
  | true =>
    rw [hpending] at hkept
    rw [h (by rw [hpending, Bool.true_or]), Bool.true_and] at hongoing
    cases hended : view.endsAtCompletion aEvents.tx with
    | true =>
      obtain ⟨ended, -, hpending', hongoing', -⟩ := next.acknowledge_eq aEvents
      rw [Consistent, hpending', hongoing', hkept, hongoing, hended]
      simp
    | false =>
      have hwaiting : next.waiting = view.awaitsAck aEvents.tx := by rw [hnext]
      have hpsdu : next.psdu = view.psdu := by rw [hnext]
      rw [hended] at hongoing
      rw [acknowledge_of_pending hkept hongoing, endsByAck_congr hpsdu, hwaiting]
      simp [endsByTimeout]

/-- A call of `RAILCb_Generic` keeps the flags consistent exactly under its condition. -/
theorem call_consistent_iff (h : view.Consistent) (aEvents : RailEvents) :
    (view.call aEvents).Consistent ↔ view.CallCondition aEvents := by
  unfold call CallCondition
  cases herror : aEvents.tx.schedulerError with
  | true => simp [schedulerError, herror, finish, Consistent]
  | false =>
    simp only [schedulerError, herror, Bool.false_eq_true, ↓reduceIte, false_or]
    have hrxPending : (view.complete aEvents.tx).rxPending = view.rxPending := by
      rw [complete_eq h]
    unfold schedule
    rw [hrxPending]
    cases hrx : view.rxPending with
    | true =>
      simp only [if_true, Bool.true_eq_false, false_and, if_false]
      exact complete_acknowledge_iff h aEvents ⟨_, rfl⟩
    | false =>
      simp only [Bool.false_eq_true, if_false, true_and]
      split_ifs with hstarted hmissed hongoing
      · rw [acknowledge_of_started rfl rfl, complete_eq h]
        exact Iff.rfl
      · refine iff_of_true (acknowledge_of_not_pending rfl ?_ aEvents) trivial
        simp [finish, Consistent]
      · refine iff_of_true (acknowledge_of_not_pending rfl (fun hset ↦ ?_) aEvents) trivial
        exact complete_started h aEvents.tx hset
      · exact complete_acknowledge_iff h aEvents ⟨(view.complete aEvents.tx).rxPending, rfl⟩

end ScheduleView

/-! ## The handlers of the driver on the view -/

namespace Transmitter

variable (tx : Transmitter)

/-- The flags of the driver that matter. -/
def scheduleView : ScheduleView where
  ongoing := tx.flags .ongoingTxData
  pending := tx.flags .scheduledTxPending
  started := tx.flags .scheduledTxStarted
  waiting := tx.flags .waitingForAck
  rxPending := tx.flags .scheduledRxPending
  psdu := tx.currentPacket.frame.mPsdu

@[simp]
theorem scheduleView_ongoing : tx.scheduleView.ongoing = tx.flags .ongoingTxData := rfl

theorem packetSentCallback_view :
    (tx.packetSentCallback false).scheduleView =
      if tx.flags .ongoingTxData = false then tx.scheduleView
      else if tx.ackRequired then { tx.scheduleView with waiting := true }
      else { tx.scheduleView with ongoing := false, started := false } := by
  have hack : (tx.setFlag [.currentTxUseCsma] false).ackRequired = tx.ackRequired := rfl
  unfold packetSentCallback txWaitingForAck
  simp only [hack]
  cases hongoing : tx.flags .ongoingTxData with
  | false => simp [hongoing]
  | true =>
    cases tx.ackRequired <;>
      simp [hongoing, setFlag, recordEnd, scheduleView, currentPacket]

theorem txFailedCallback_view (status : Flag) (cause : TxEnd) :
    (tx.txFailedCallback false status cause).scheduleView =
      if tx.flags .ongoingTxData then tx.scheduleView.finish else tx.scheduleView := by
  unfold txFailedCallback
  cases hongoing : tx.flags .ongoingTxData with
  | false => simp [hongoing]
  | true =>
    by_cases hstatus : status = .txCcaFailed <;>
      simp [hongoing, hstatus, setFlag, recordEnd, scheduleView, currentPacket,
        ScheduleView.finish]

theorem completionEvents_view (aEvents : TxEvents) :
    (tx.completionEvents aEvents).scheduleView = tx.scheduleView.complete aEvents := by
  unfold completionEvents ScheduleView.complete TxEvents.txFails
  cases hsent : aEvents.txPacketSent with
  | true =>
    rw [if_pos rfl, packetSentCallback_view]
    rfl
  | false =>
    simp only [Bool.false_eq_true, if_false, scheduleView_ongoing]
    cases hongoing : tx.flags .ongoingTxData <;> split_ifs <;>
      simp_all [txFailedCallback_view]

theorem scheduledEvents_view (aEvents : TxEvents) :
    (tx.scheduledEvents aEvents).scheduleView = tx.scheduleView.schedule aEvents := by
  have hcleared : (tx.setFlag [.scheduledTxPending] false).scheduleView =
      { tx.scheduleView with pending := false } := rfl
  unfold scheduledEvents ScheduleView.schedule
  rw [getInternalFlag_singleton]
  by_cases hrx : tx.flags .scheduledRxPending = true
  · have hview : tx.scheduleView.rxPending = true := hrx
    rw [if_pos hrx, if_pos hview]
    cases aEvents.scheduledStarted <;>
      cases aEvents.rxScheduledRxEnd || aEvents.rxScheduledRxMissed <;>
        simp [scheduleView, setFlag, currentPacket, hrx]
  · have hview : ¬ tx.scheduleView.rxPending = true := hrx
    rw [if_neg hrx, if_neg hview]
    cases aEvents.scheduledStarted with
    | true => rfl
    | false =>
      cases aEvents.txScheduledTxMissed with
      | true =>
        simp only [Bool.false_eq_true, if_false, if_true, txFailedCallback_view, hcleared]
        rfl
      | false => rfl

theorem ackTimeoutCallback_view : tx.ackTimeoutCallback.scheduleView = tx.scheduleView.finish := by
  unfold ackTimeoutCallback otAssert
  cases tx.txWaitingForAck <;> cases getInternalFlag tx.flags [.waitingForAck] <;>
    simp [scheduleView, setFlag, recordEnd, currentPacket, ScheduleView.finish]

theorem ackTimeoutEvent_view (aEvents : TxEvents) :
    (tx.ackTimeoutEvent aEvents).scheduleView = tx.scheduleView.timeOut aEvents := by
  unfold ackTimeoutEvent ScheduleView.timeOut
  rw [apply_ite scheduleView, ackTimeoutCallback_view, getInternalFlag_singleton]
  rfl

theorem txackEvents_view (aEvents : TxEvents) :
    (tx.txackEvents aEvents).scheduleView = tx.scheduleView := by
  unfold txackEvents packetSentCallback txFailedCallback
  cases aEvents.txackPacketSent <;> cases aEvents.txackAborted <;> cases aEvents.txackBlocked <;>
    rfl

/-- Whatever was under way, a scheduler error ends it. -/
theorem schedulerEventCallback_view :
    tx.schedulerEventCallback.scheduleView =
      { tx.scheduleView.finish with pending := false, rxPending := false } := by
  have hack : ∀ tx : Transmitter, (if getInternalFlag tx.flags [.ongoingTxAck] then
      tx.txFailedCallback true .txFailed .aborted else tx).scheduleView = tx.scheduleView := by
    intro tx
    split <;> rfl
  have hcleared : (tx.setFlag [.scheduledRxPending, .scheduledTxPending, .scheduledTxStarted]
      false).scheduleView =
        { tx.scheduleView with pending := false, started := false, rxPending := false } := rfl
  have hongoing : ∀ tx : Transmitter, (if getInternalFlag tx.flags [.ongoingTxData] then
      tx.txFailedCallback false .txCcaFailed .schedulerError else tx).scheduleView =
        if tx.scheduleView.ongoing then tx.scheduleView.finish else tx.scheduleView := by
    intro tx
    rw [getInternalFlag_singleton, scheduleView_ongoing]
    split
    · rw [txFailedCallback_view, if_pos ‹_›]
    · rfl
  have hwaiting : ∀ tx : Transmitter, (if getInternalFlag tx.flags [.waitingForAck] then
      tx.ackTimeoutCallback else tx).scheduleView =
        if tx.scheduleView.waiting then tx.scheduleView.finish else tx.scheduleView := by
    intro tx
    rw [apply_ite scheduleView, ackTimeoutCallback_view, getInternalFlag_singleton]
    rfl
  unfold schedulerEventCallback
  simp only
  rw [hwaiting, hongoing, hack, hcleared]
  cases tx.scheduleView with
  | mk ongoing pending started waiting rxPending psdu =>
    cases ongoing <;> cases waiting <;> rfl

theorem schedulerEvent_view (aEvents : TxEvents) :
    (tx.schedulerEvent aEvents).scheduleView = tx.scheduleView.schedulerError aEvents := by
  unfold schedulerEvent ScheduleView.schedulerError
  rw [apply_ite scheduleView, schedulerEventCallback_view]

theorem ackReceived_view (packet : RxPacket) (hvalid : packet.valid = true)
    (hack : packet.isAck = true) (hlength : 4 ≤ packet.psdu.length + 2)
    (htype : isAckIn packet.psdu = true) :
    (tx.ackReceived packet).scheduleView = tx.scheduleView.receive (some packet) := by
  have hmatch : tx.scheduleView.isAcknowledgedBy packet =
      (tx.ackRequired && dsnIn packet.psdu == dsnIn tx.currentPacket.frame.mPsdu &&
        packet.timestampValid) := by
    simp [ScheduleView.isAcknowledgedBy, hvalid, hack, hlength, htype, scheduleView, ackRequired]
  have hended : ∀ tx : Transmitter, (((tx.recordEnd .ackReceived).setFlag [.txSuccess]
      true).setFlag [.waitingForAck, .ongoingTxData, .scheduledTxStarted] false).scheduleView =
        tx.scheduleView.finish := fun _ ↦ rfl
  unfold ackReceived ScheduleView.receive
  simp only
  rw [Option.any_some, hmatch, apply_ite scheduleView, hended]
  simp only [txWaitingForAck, getInternalFlag_singleton, Bool.and_assoc]
  rfl

/-- What does not touch the flags of a transmission keeps them consistent. -/
theorem scheduleView_consistent_of_flags {next : Transmitter} (h : tx.scheduleView.Consistent)
    (hflags : ∀ flag ∈ [Flag.ongoingTxData, .scheduledTxPending, .scheduledTxStarted],
      next.flags flag = tx.flags flag) : next.scheduleView.Consistent := by
  simp only [List.forall_mem_cons] at hflags
  obtain ⟨hongoing, hpending, hstarted, -⟩ := hflags
  rw [ScheduleView.Consistent, scheduleView_ongoing, hongoing]
  intro hset
  exact h (by simpa [scheduleView, hpending, hstarted] using hset)

theorem scheduleView_consistent_setFlag (h : tx.scheduleView.Consistent) (mask : List Flag)
    (val : Bool)
    (hmask : ∀ flag ∈ [Flag.ongoingTxData, .scheduledTxPending, .scheduledTxStarted], flag ∉ mask) :
    (tx.setFlag mask val).scheduleView.Consistent :=
  tx.scheduleView_consistent_of_flags h fun flag hflag ↦ if_neg (hmask flag hflag)

/-- Of a transmission that RAIL refuses, only the flag that it is pending may be left. -/
theorem txStartResult_consistent_iff (rail : RailResults)
    (hongoing : tx.flags .ongoingTxData = true) :
    (tx.txStartResult rail).scheduleView.Consistent ↔
      (rail.startTx = false → tx.flags .scheduledTxPending = false) := by
  unfold txStartResult
  cases rail.startTx with
  | true =>
    refine iff_of_true (fun _ ↦ ?_) nofun
    rw [if_pos rfl, scheduleView_ongoing]
    split
    · exact hongoing
    · simpa [setFlag] using hongoing
  | false =>
    rw [if_neg Bool.false_ne_true, txFailedCallback_view, if_pos hongoing]
    simp [ScheduleView.finish, ScheduleView.Consistent, scheduleView]

/-- A transmission that RAIL refuses must not be pending. -/
theorem startTransmission_consistent_iff (rail : RailResults) :
    (tx.startTransmission rail).scheduleView.Consistent ↔
      (rail.startTx = false → tx.flags .scheduledTxPending = false) := by
  have hlast : ∀ tx : Transmitter, (if getInternalFlag tx.flags [.txFailed] then
      { tx with txStarteds := tx.txStarteds ++ [tx.currentPacket.iid] } else tx).scheduleView =
        tx.scheduleView := by
    intro tx
    split <;> rfl
  have hidled : ∀ tx : Transmitter, ∀ flag ∈ [Flag.ongoingTxData, .scheduledTxPending],
      (if getInternalFlag tx.flags [.scheduledRxPending] then
        tx.setFlag [.scheduledRxPending, .scheduledRxStarted] false else tx).flags flag =
          tx.flags flag := by
    intro tx flag hflag
    have hmask : flag ∉ [Flag.scheduledRxPending, .scheduledRxStarted] := by
      revert flag
      decide
    split
    · exact if_neg hmask
    · rfl
  unfold startTransmission
  simp only
  rw [hlast, txCurrentPacket, txStartResult_consistent_iff _ _ ((hidled _ _ (by simp)).trans rfl),
    hidled _ _ (by simp)]
  rfl

end Transmitter

end OtEfr32.Radio
