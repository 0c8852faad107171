import OtEfr32.Radio.ScheduleView
import OtEfr32.Radio.Steps
import OtEfr32.Radio.TxCompletion
import Mathlib.Tactic.Tauto

/-!
# Stale flags of a scheduled transmission

`otPlatRadioReceiveAt` is refused while `FLAG_SCHEDULED_TX_PENDING` or `EVENT_SCHEDULED_TX_STARTED`
is set, so neither should outlive the transmission.  The first one is not cleared by the handlers
that end a transmission, and the second one can be set behind the end of the transmission in the
same call of `RAILCb_Generic`.  `scheduledTxLaw_iff` is the exact condition for whole runs.
-/

namespace OtEfr32.Radio

open Transition

namespace Driver

variable {config : Config} {radio : Driver}

theorem packetReceivedCallback_view (radio : Driver) (config : Config) (packet : RxPacket) :
    (radio.packetReceivedCallback config packet).tx.scheduleView =
      radio.tx.scheduleView.receive (some packet) := by
  have hother : radio.tx.scheduleView.isAcknowledgedBy packet = false →
      radio.tx.scheduleView.receive (some packet) = radio.tx.scheduleView := by
    intro hack
    rw [ScheduleView.receive, Option.any_some, hack, Bool.and_false, if_neg Bool.false_ne_true]
  unfold packetReceivedCallback
  split
  case isTrue hinvalid =>
    rw [hother (by simp [ScheduleView.isAcknowledgedBy, hinvalid])]
  split
  case isTrue hvalid hack =>
    split
    case isTrue htype =>
      exact radio.tx.ackReceived_view packet (Bool.of_not_eq_false hvalid) hack htype.1 htype.2
    case isFalse htype =>
      refine (hother (Bool.eq_false_iff.mpr fun hacked ↦ htype ?_)).symm
      simp only [ScheduleView.isAcknowledgedBy, Bool.and_eq_true, decide_eq_true_eq] at hacked
      tauto
  case isFalse hvalid hdata =>
    rw [hother (by simp [ScheduleView.isAcknowledgedBy, hdata])]
    split
    · simp only
      split <;> rfl
    · rfl

theorem railCbGeneric_view (radio : Driver) (config : Config) (aEvents : RailEvents) :
    (radio.railCbGeneric config aEvents).tx.scheduleView = radio.tx.scheduleView.call aEvents := by
  obtain ⟨security, hacked⟩ := radio.dataRequestCommandCallback_eq config
    aEvents.dataRequestCommand
  have hearly : (mapTx { radio with security } fun tx ↦
      (tx.completionEvents aEvents.tx).scheduledEvents aEvents.tx).tx.scheduleView =
        (radio.tx.scheduleView.complete aEvents.tx).schedule aEvents.tx := by
    rw [← Transmitter.completionEvents_view]
    exact Transmitter.scheduledEvents_view _ aEvents.tx
  have hlate : ∀ radio : Driver, (radio.mapTx fun tx ↦ ((tx.txackEvents aEvents.tx).ackTimeoutEvent
      aEvents.tx).schedulerEvent aEvents.tx).tx.scheduleView =
        (radio.tx.scheduleView.timeOut aEvents.tx).schedulerError aEvents.tx := by
    intro radio
    rw [← Transmitter.txackEvents_view radio.tx aEvents.tx, ← Transmitter.ackTimeoutEvent_view]
    exact Transmitter.schedulerEvent_view _ aEvents.tx
  unfold railCbGeneric ScheduleView.call ScheduleView.acknowledge
  simp only
  rw [hacked, hlate, ← hearly]
  cases aEvents.rxPacketReceived with
  | none => simp [ScheduleView.receive]
  | some packet => simp only [packetReceivedCallback_view]

/-! ## Transmissions -/

theorem makeCurrent_flags_pending (tx : Transmitter) (iid request : ℕ) :
    (tx.makeCurrent iid request).flags .scheduledTxPending = tx.flags .scheduledTxPending := by
  change (tx.otAssert .noOngoingTx (!getInternalFlag tx.flags [.ongoingTxData])).flags
    .scheduledTxPending = _
  rw [Transmitter.otAssert_flags]

theorem recordStart_tx (radio : Driver) (rail : RailResults) (channel : ℕ) :
    (radio.recordStart config rail channel).tx = radio.tx := by
  unfold recordStart
  split <;> rfl

theorem transmitNow_consistent_iff (h : radio.tx.scheduleView.Consistent) (rail : RailResults)
    (iid aFrame request : ℕ) :
    (radio.transmitNow config rail iid aFrame request).2.tx.scheduleView.Consistent ↔
      (config.hasBandConfig (radio.tx.sTransmitBuffer aFrame).frame.mChannel = true →
        rail.startTx = false → radio.tx.flags .scheduledTxPending = false) := by
  unfold transmitNow
  simp only
  split
  case isTrue hband =>
    rw [recordStart_tx, ← makeCurrent_flags_pending radio.tx iid request, imp_iff_right hband]
    exact Transmitter.startTransmission_consistent_iff _ rail
  case isFalse hband => exact iff_of_true h fun hband' ↦ absurd hband' hband

/-- While the transmitter is not busy, no transmission is scheduled. -/
theorem not_pending_of_not_busy (h : radio.tx.scheduleView.Consistent)
    (hidle : radio.isRadioTransmittingOrScanning = false) :
    radio.tx.flags .scheduledTxPending = false := by
  have hongoing : radio.tx.flags .ongoingTxData = false := by
    have hbusy := (Bool.or_eq_false_iff.mp hidle).2
    simpa using (Bool.or_eq_false_iff.mp hbusy).1
  exact (h.started_eq hongoing).1

/-- Only in a single-PAN build can a frame be transmitted while another one is scheduled. -/
theorem otPlatRadioTransmit_consistent_iff (h : radio.tx.scheduleView.Consistent)
    (rail : RailResults) (gpBuffers : Bool) (iid aFrame request : ℕ) :
    (radio.otPlatRadioTransmit config rail gpBuffers iid aFrame
        request).2.tx.scheduleView.Consistent ↔
      (config.canAccessPal = true → config.multipan = false →
        config.hasBandConfig (radio.tx.sTransmitBuffer aFrame).frame.mChannel = true →
          rail.startTx = false → radio.tx.flags .scheduledTxPending = false) := by
  have haccept :
      (radio.mapTx fun tx ↦ tx.acceptFrame config iid aFrame).tx.scheduleView.Consistent :=
    radio.tx.scheduleView_consistent_of_flags h fun flag _ ↦
      congrFun (radio.tx.acceptFrame_flags config iid aFrame) flag
  have hpending : (radio.mapTx fun tx ↦ tx.acceptFrame config iid aFrame).tx.flags
      .scheduledTxPending = radio.tx.flags .scheduledTxPending :=
    congrFun (radio.tx.acceptFrame_flags config iid aFrame) _
  unfold otPlatRadioTransmit
  split
  case isTrue hpal => exact iff_of_true h fun hpal' ↦ by simp [hpal] at hpal'
  split
  case isTrue hpal hgp =>
    refine iff_of_true h fun _ hsingle ↦ ?_
    simp [hsingle] at hgp
  simp only
  split
  case isTrue hpal hgp hbusy =>
    obtain ⟨_, _, heq⟩ := pushPendingCommand_eq
      (radio.mapTx fun tx ↦ tx.acceptFrame config iid aFrame) config (.transmit aFrame request) iid
    rw [heq]
    refine iff_of_true haccept fun _ hsingle ↦ ?_
    simp [hsingle] at hbusy
  case isFalse hpal hgp hidle =>
    rw [transmitNow_consistent_iff haccept, hpending]
    have hframe : ((radio.mapTx fun tx ↦ tx.acceptFrame config iid aFrame).tx.sTransmitBuffer
        aFrame).frame = (radio.tx.sTransmitBuffer aFrame).frame :=
      radio.tx.acceptFrame_frame config iid aFrame aFrame
    rw [hframe, imp_iff_right (Bool.of_not_eq_false hpal)]
    cases hmultipan : config.multipan with
    | false => simp
    | true =>
      refine iff_of_true (fun _ _ ↦ ?_) nofun
      rw [hmultipan, Bool.true_and, Driver.acceptFrame_isBusy, Bool.not_eq_true] at hidle
      exact not_pending_of_not_busy h hidle

/-! ## The exact condition -/

end Driver

/-- The steps that keep the flags consistent: a call of `RAILCb_Generic` that meets its condition,
and in a single-PAN build no transmission that RAIL refuses while another one is scheduled. -/
def ScheduledTxCondition (config : Config) (radio : Driver) : RadioEvent → Prop
  | .railEvents aEvents => radio.tx.scheduleView.CallCondition aEvents
  | .transmit iid rail _ =>
    config.canAccessPal = true → config.multipan = false →
      config.hasBandConfig (radio.tx.sTransmitBuffer (txBufIndex iid)).frame.mChannel = true →
        rail.startTx = false → radio.tx.flags .scheduledTxPending = false
  | _ => True

/-- A flag of a scheduled transmission is set only while a transmission is under way. -/
def ScheduledTxLaw (radio : Driver) : Prop :=
  getInternalFlag radio.tx.flags [.scheduledTxPending, .scheduledTxStarted] = true →
    getInternalFlag radio.tx.flags [.ongoingTxData] = true

instance (config : Config) : DecidableRel (ScheduledTxCondition config) := fun radio event ↦
  match event with
  | .railEvents aEvents => inferInstanceAs (Decidable (radio.tx.scheduleView.CallCondition aEvents))
  | .transmit .. => inferInstanceAs (Decidable (_ → _ → _ → _ → _))
  | .writeFrame .. | .energyScan .. | .getRssi _ | .endRssiWait _ | .receive .. | .receiveAt ..
  | .sleep | .setChannelMaxTransmitPower .. | .setTransmitPower .. | .setPanId ..
  | .setPromiscuous _ | .setMacFrameCounterIfLarger .. | .setMacKey _ | .setMacKeyStep
  | .scanTimer .. | .process .. => .isTrue trivial

instance : DecidablePred ScheduledTxLaw := fun _ ↦ inferInstanceAs (Decidable (_ → _))

namespace Driver

variable {config : Config} {radio next : Driver} {event : RadioEvent}

theorem scheduledTxLaw_iff_consistent :
    ScheduledTxLaw radio ↔ radio.tx.scheduleView.Consistent := by
  simp [ScheduledTxLaw, ScheduleView.Consistent, Transmitter.scheduleView, getInternalFlag]

theorem processTxComplete_consistent (h : radio.tx.scheduleView.Consistent) :
    radio.tx.processTxComplete.scheduleView.Consistent := by
  have hcleared :
      (radio.tx.setFlag [radio.tx.completionStatus.2] false).scheduleView.Consistent := by
    apply radio.tx.scheduleView_consistent_setFlag h _ _
    unfold Transmitter.completionStatus
    split
    · decide
    split
    · decide
    split <;> decide
  unfold Transmitter.processTxComplete
  split
  · exact Transmitter.scheduleView_consistent_of_flags _ hcleared fun _ _ ↦ rfl
  · exact h

theorem ProcessPart.scheduleView_consistent {rail : RailResults} {gpBuffers : Bool}
    (hpart : ProcessPart config rail gpBuffers radio next)
    (h : radio.tx.scheduleView.Consistent) : next.tx.scheduleView.Consistent := by
  cases hpart with
  | txComplete => exact processTxComplete_consistent h
  | @transmit iid txFrame request rest hdue =>
    obtain ⟨_, hmultipan, _⟩ := guards_of_dueCommand hdue
    have hdequeued : ({ radio with sPendingCommandQueue := rest } :
      Driver).tx.scheduleView.Consistent := h
    refine (otPlatRadioTransmit_consistent_iff hdequeued rail gpBuffers iid txFrame
      request).mpr ?_
    intro _ hsingle
    simp [hmultipan] at hsingle
  | energyScan =>
    simp only [moveTo, otPlatRadioEnergyScan_tx]
    exact h
  | _ => exact h

theorem otPlatRadioReceive_consistent (h : radio.tx.scheduleView.Consistent) (rail : RailResults)
    (aChannel : ℕ) :
    (radio.otPlatRadioReceive config rail aChannel).2.tx.scheduleView.Consistent := by
  unfold otPlatRadioReceive
  simp only
  split_ifs <;> exact h

theorem otPlatRadioReceiveAt_consistent (h : radio.tx.scheduleView.Consistent)
    (rail : RailResults) (aChannel : ℕ) :
    (radio.otPlatRadioReceiveAt config rail aChannel).2.tx.scheduleView.Consistent := by
  unfold otPlatRadioReceiveAt
  simp only
  split_ifs <;> exact h

/-- A step keeps the flags consistent exactly when it meets the condition. -/
theorem radioStep_consistent_iff (h : radio.tx.scheduleView.Consistent)
    (hstep : radioStep config radio event = some next) :
    next.tx.scheduleView.Consistent ↔ ScheduledTxCondition config radio event := by
  cases step_of_radioStep hstep with
  | railEvents =>
    rw [railCbGeneric_view]
    exact ScheduleView.call_consistent_iff h _
  | scanTimer | endRssiWait | setMacKeyStep => exact iff_of_true h trivial
  | main hcall hmain =>
    cases hmain with
    | @transmit iid rail gpBuffers =>
      have hcounted : (radio.mapTx Transmitter.countRequest).tx.scheduleView.Consistent := h
      obtain ⟨_, heq⟩ := radio.transmit_eq config iid rail gpBuffers
      rw [heq]
      exact otPlatRadioTransmit_consistent_iff hcounted rail gpBuffers iid _ _
    | energyScan =>
      obtain ⟨_, _, _, _, _, heq⟩ := radio.energyScan_frame config _ _ _ _
      rw [heq]
      exact iff_of_true h trivial
    | @getRssi rail =>
      obtain ⟨_, _, _, heq⟩ := otPlatRadioGetRssi_eq radio config rail
      rw [heq]
      exact iff_of_true h trivial
    | receive => exact iff_of_true (otPlatRadioReceive_consistent h _ _) trivial
    | receiveAt => exact iff_of_true (otPlatRadioReceiveAt_consistent h _ _) trivial
    | sleep =>
      refine iff_of_true ?_ trivial
      unfold otPlatRadioSleep
      split <;> exact h
    | writeFrame | setChannelMaxTransmitPower | setTransmitPower | setPanId | setPromiscuous
      | setMacFrameCounterIfLarger | setMacKey => exact iff_of_true h trivial
    | refused hpal hsetting =>
      cases event <;> first | exact iff_of_true h trivial | contradiction
    | process =>
      exact iff_of_true ((radio.processPart config _ _).scheduleView_consistent h) trivial

end Driver

/-! ## Runs -/

/-- The flags of a scheduled transmission are set only while a transmission is under way, in every
state of a run, exactly when every step of the run meets the condition. -/
theorem scheduledTxLaw_iff (config : Config) (labels : List RadioEvent) (final : Driver)
    (hrun : exec (radioStep config) (efr32RadioInit config) labels = some final) :
    Throughout (radioStep config) ScheduledTxLaw (efr32RadioInit config) labels ↔
      Along (radioStep config) (ScheduledTxCondition config) (efr32RadioInit config) labels :=
  throughout_iff_along (fun _ h ↦ h)
    (fun _ _ _ h hcondition hstep ↦ Driver.scheduledTxLaw_iff_consistent.mpr
      ((Driver.radioStep_consistent_iff (Driver.scheduledTxLaw_iff_consistent.mp h) hstep).mpr
        hcondition))
    (fun _ _ _ h hcondition hstep hlaw ↦ hcondition
      ((Driver.radioStep_consistent_iff (Driver.scheduledTxLaw_iff_consistent.mp h) hstep).mp
        (Driver.scheduledTxLaw_iff_consistent.mp hlaw)))
    nofun hrun

/-- A scheduled transmission starts, its frame is sent and acknowledged, and a receive window is
scheduled behind it. -/
def scheduledTxRun : List RadioEvent :=
  [.writeFrame 0 { mPsdu := [0x61, 0x88, 7], mChannel := 15, mTxDelay := 1000 },
    .transmit 0 {} false, .railEvents { tx := { scheduledStarted := true } },
    .railEvents { tx := { txPacketSent := true } },
    .railEvents { rxPacketReceived := some { psdu := [0x02, 0, 7], isAck := true } },
    .receiveAt 15 {}]

theorem scheduledTxLaw_iff_scheduledTxRun :
    Throughout (radioStep .singlePan) ScheduledTxLaw (efr32RadioInit .singlePan) scheduledTxRun :=
  (scheduledTxLaw_iff .singlePan scheduledTxRun _ (Option.some_get (by decide)).symm).mpr
    (by decide)

/-- A scheduled transmission that is blocked before it starts leaves `FLAG_SCHEDULED_TX_PENDING`
behind. -/
theorem not_scheduledTxLaw_blocked :
    ¬ ∀ config labels,
      Throughout (radioStep config) ScheduledTxLaw (efr32RadioInit config) labels := by
  intro h
  have hlaw := h .singlePan
    [.writeFrame 0 { mPsdu := [0x61, 0x88, 7], mChannel := 15, mTxDelay := 1000 },
      .transmit 0 {} false, .railEvents { tx := { txBlocked := true } }]
  revert hlaw
  decide

end OtEfr32.Radio
