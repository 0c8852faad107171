import OtEfr32.Data.Ledger
import OtEfr32.Radio.TxCompletion

/-!
# Where a request is

A request that was accepted waits in the queue of pending commands, is executed, has been executed
and waits to be reported, or was reported.  This file defines these places as lists of requests, and
says how the transmit path and the energy scan change them: a RAIL event changes none, a start adds
its request, and a report moves it.
-/

namespace OtEfr32.Radio

/-- A queued command as a request. -/
def PendingCommand.toRequest (command : PendingCommand) : Request :=
  ⟨command.request.kind, command.iid, command.request.number⟩

/-- The request that `otPlatRadioTxDone` reports. -/
def TxDone.toRequest (done : TxDone) : Request := ⟨.transmit, done.iid, done.request⟩

/-- The request that `otPlatRadioEnergyScanDone` reports. -/
def EnergyScanDone.toRequest (done : EnergyScanDone) : Request :=
  ⟨.energyScan, done.iid, done.request⟩

namespace Transmitter

variable {config : Config} {tx next : Transmitter} {phase : TxPhase}

/-- The request whose frame is on the way, or whose transmission has ended unreported. -/
def transmitting (tx : Transmitter) : List Request :=
  if tx.isBusy then [⟨.transmit, tx.currentPacket.iid, tx.currentRequest⟩] else []

/-- The requests whose execution has begun: the reported ones and the one being executed. -/
def begun (tx : Transmitter) : List Request :=
  tx.txDones.map TxDone.toRequest ++ tx.transmitting

/-! ## The current request -/

/-- The current request and the reports stay as they are. -/
structure SameRequest (tx next : Transmitter) : Prop where
  iid : next.currentPacket.iid = tx.currentPacket.iid
  currentRequest : next.currentRequest = tx.currentRequest
  requests : next.requests = tx.requests
  txDones : next.txDones = tx.txDones

namespace SameRequest

theorem refl (tx : Transmitter) : tx.SameRequest tx := ⟨rfl, rfl, rfl, rfl⟩

theorem trans {last : Transmitter} (h : tx.SameRequest next) (h' : next.SameRequest last) :
    tx.SameRequest last where
  iid := h'.iid.trans h.iid
  currentRequest := h'.currentRequest.trans h.currentRequest
  requests := h'.requests.trans h.requests
  txDones := h'.txDones.trans h.txDones

/-- What RAIL events change does not concern the request. -/
theorem of_withoutEvents (h : next.withoutEvents = tx.withoutEvents) : tx.SameRequest next where
  iid := (congrArg (fun tx ↦ tx.currentPacket.iid) h :)
  currentRequest := (congrArg Transmitter.currentRequest h :)
  requests := (congrArg Transmitter.requests h :)
  txDones := (congrArg Transmitter.txDones h :)

theorem otAssert (h : tx.SameRequest next) (assertion : TxAssertion) (holds : Bool) :
    tx.SameRequest (next.otAssert assertion holds) :=
  h.trans (of_withoutEvents (otAssert_withoutEvents next assertion holds))

theorem updateBuffer (h : tx.SameRequest next) (index : ℕ) {change : RadioFrame → RadioFrame}
    (hchange : ∀ packet, (change packet).iid = packet.iid) :
    tx.SameRequest (next.updateBuffer index change) := by
  refine h.trans ⟨?_, rfl, rfl, rfl⟩
  rw [updateBuffer_currentPacket]
  split
  · exact hchange _
  · rfl

theorem acceptFrame (h : tx.SameRequest next) (config : Config) (iid aFrame : ℕ) :
    tx.SameRequest (next.acceptFrame config iid aFrame) := by
  refine SameRequest.otAssert ?_ _ _
  exact ((h.otAssert _ _).otAssert _ _).updateBuffer _ fun _ ↦ rfl

theorem begun_eq (h : tx.SameRequest next) (hbusy : next.isBusy = tx.isBusy) :
    next.begun = tx.begun := by
  rw [begun, begun, transmitting, transmitting, hbusy, h.iid, h.currentRequest, h.txDones]

theorem startTransmission (h : tx.SameRequest next) (rail : RailResults) :
    tx.SameRequest (next.startTransmission rail) := by
  have hstarted : tx.SameRequest
      { next with started := next.started ++ [next.currentPacket.iid] } :=
    h.trans ⟨rfl, rfl, rfl, rfl⟩
  exact hstarted.trans (of_withoutEvents (next.startTransmission_withoutEvents rail))

end SameRequest

theorem setFlag_begun (tx : Transmitter) {mask : List Flag} (val : Bool)
    (hmask : ∀ flag ∈ phaseFlags, flag ∉ mask) : (tx.setFlag mask val).begun = tx.begun :=
  (SameRequest.of_withoutEvents (tx.setFlag_withoutEvents mask val)).begun_eq
    (isBusy_congr fun flag hflag ↦ if_neg (hmask flag hflag))

/-! ## Start and report -/

theorem makeCurrent_currentRequest (tx : Transmitter) (iid request : ℕ) :
    (tx.makeCurrent iid request).currentRequest = request := rfl

/-- What `makeCurrent` leaves alone. -/
theorem makeCurrent_eq (tx : Transmitter) (iid request : ℕ) :
    (tx.makeCurrent iid request).requests = tx.requests ∧
      (tx.makeCurrent iid request).txDones = tx.txDones := by
  have hassert := (SameRequest.refl tx).otAssert .noOngoingTx
    (!getInternalFlag tx.flags [.ongoingTxData])
  exact ⟨hassert.requests, hassert.txDones⟩

theorem startTransmission_sameRequest (tx : Transmitter) (mSecurity : FrameSecurity)
    (rail : RailResults) :
    tx.SameRequest ((tx.setSecurity mSecurity).startTransmission rail) := by
  refine SameRequest.startTransmission ?_ rail
  exact (SameRequest.refl tx).updateBuffer _ fun _ ↦ rfl

/-- The start of a transmission adds its request. -/
theorem startTransmission_begun (h : tx.InPhase config .idle) {iid : ℕ}
    (hiid : config.isIid iid = true) (request : ℕ) (mSecurity : FrameSecurity)
    (rail : RailResults) :
    (((tx.makeCurrent iid request).setSecurity mSecurity).startTransmission rail).begun =
      tx.begun ++ [⟨.transmit, iid, request⟩] := by
  have hready := (makeCurrent_ready h hiid request).setSecurity mSecurity
  obtain ⟨after, hafter, hphase⟩ := startTransmission_inPhase hready rail
  have hsame := startTransmission_sameRequest (tx.makeCurrent iid request) mSecurity rail
  have hcurrent := (makeCurrent_ready h hiid request).iid_eq
  have hdones := hsame.txDones.trans (makeCurrent_eq tx iid request).2
  have hrequest := hsame.currentRequest.trans (makeCurrent_currentRequest tx iid request)
  have hbefore : tx.transmitting = [] := by
    rw [transmitting, h.isBusy]
    rfl
  have hbusy : (((tx.makeCurrent iid request).setSecurity mSecurity).startTransmission
      rail).isBusy = true := by
    rw [hphase.isBusy, hafter]
    rfl
  rw [begun, begun, hbefore, List.append_nil, transmitting, if_pos hbusy]
  exact congrArg₂ (fun dones request ↦ dones.map TxDone.toRequest ++ [request]) hdones
    (congrArg₂ (Request.mk .transmit) (hsame.iid.trans hcurrent) hrequest)

/-- A report moves the request from being executed to reported. -/
theorem processTxComplete_begun (h : tx.InPhase config phase) :
    tx.processTxComplete.begun = tx.begun := by
  have hafter := processTxComplete_inPhase h
  cases phase with
  | ended cause =>
    have hbefore : tx.transmitting = [⟨.transmit, tx.currentPacket.iid, tx.currentRequest⟩] := by
      rw [transmitting, h.isBusy]
      rfl
    have hidle : tx.processTxComplete.transmitting = [] := by
      rw [transmitting, hafter.isBusy]
      rfl
    have hdones : tx.processTxComplete.txDones.map TxDone.toRequest =
        tx.txDones.map TxDone.toRequest ++
          [⟨.transmit, tx.currentPacket.iid, tx.currentRequest⟩] := by
      unfold processTxComplete
      rw [h.events.getInternalFlag fun _ ↦ TxPhase.event_mem]
      change (tx.txDones ++ [_]).map TxDone.toRequest = _
      rw [List.map_append]
      exact congrArg (fun iid ↦ _ ++ [Request.mk .transmit iid tx.currentRequest])
        (clearTxDelay_iid (tx.setFlag _ false))
    rw [begun, begun, hidle, hbefore, hdones, List.append_nil]
  | _ =>
    unfold processTxComplete
    rw [h.events.getInternalFlag fun _ ↦ TxPhase.event_mem]
    rfl

theorem processTxComplete_requests (tx : Transmitter) :
    tx.processTxComplete.requests = tx.requests := by
  unfold processTxComplete
  split <;> rfl

theorem acceptFrame_requests (tx : Transmitter) (config : Config) (iid aFrame : ℕ) :
    (tx.acceptFrame config iid aFrame).requests = tx.requests :=
  ((SameRequest.refl tx).acceptFrame config iid aFrame).requests

theorem acceptFrame_begun (tx : Transmitter) (config : Config) (iid aFrame : ℕ) :
    (tx.acceptFrame config iid aFrame).begun = tx.begun :=
  ((SameRequest.refl tx).acceptFrame config iid aFrame).begun_eq
    (isBusy_congr fun flag _ ↦ congrFun (tx.acceptFrame_flags config iid aFrame) flag)

end Transmitter

/-! ## The RAIL callback -/

/-- RAIL events report nothing, and do not change the current request. -/
theorem railCbGeneric_sameRequest (radio : Driver) (config : Config) (aEvents : RailEvents) :
    radio.tx.SameRequest (radio.railCbGeneric config aEvents).tx :=
  .of_withoutEvents (radio.railCbGeneric_withoutEvents config aEvents)

namespace EnergyScan

variable {config : Config} {scan : EnergyScan} {rail : RailResults}
  {iid request aScanChannel aScanDuration : ℕ}

/-- The request of the scan that is running, or completed and not reported. -/
def scanning (scan : EnergyScan) : List Request :=
  if scan.sEnergyScanMode = .async ∧
      (scan.timerArmed = true ∨ scan.sEnergyScanStatus = .completed) then
    [⟨.energyScan, scan.sEnergyScanActiveInterface, scan.owner⟩]
  else []

theorem mode_of_scanning (scan : EnergyScan) {other : Request} (h : scan.scanning = [other]) :
    scan.sEnergyScanMode = .async := by
  unfold scanning at h
  split at h
  case isTrue hrunning => exact hrunning.1
  case isFalse => contradiction

/-- The requests whose execution has begun: the reported ones and the one being executed. -/
def begun (scan : EnergyScan) : List Request :=
  scan.energyScanDones.map EnergyScanDone.toRequest ++ scan.scanning

/-- An idle scan that is started will be running or completed: the start passes every check, or
fails only in a call of RAIL behind which `efr32StartEnergyScan` completes the scan. -/
def StartExecutes (config : Config) (rail : RailResults) (aScanChannel : ℕ) (scan : EnergyScan) :
    Prop :=
  config.hasBandConfig aScanChannel = true ∧ scan.sScanFrameCounter = 0 ∧
    (rail.configRxOptions = true → rail.startRx = true)

instance (rail : RailResults) (scan : EnergyScan) :
    Decidable (scan.StartExecutes config rail aScanChannel) :=
  inferInstanceAs (Decidable (_ ∧ _ ∧ _))

/-- What `efr32StartEnergyScan` does for the stack when no scan is in progress. -/
structure StartOutcome (scan : EnergyScan) (executes : Prop) (result : OtError × EnergyScan) :
    Prop where
  mode : result.2.sEnergyScanMode = .async
  iid : result.2.sEnergyScanActiveInterface = scan.sEnergyScanActiveInterface
  owner : result.2.owner = scan.owner
  requests : result.2.requests = scan.requests
  energyScanDones : result.2.energyScanDones = scan.energyScanDones
  executes_iff : result.2.timerArmed = true ∨ result.2.sEnergyScanStatus = .completed ↔ executes
  /-- The call returns `OT_ERROR_NONE` exactly if the dwell timer is running behind it. -/
  none_iff : result.1 = .none ↔ result.2.timerArmed = true
  inProgress : result.2.timerArmed = true → result.2.sEnergyScanStatus = .inProgress

theorem efr32StartEnergyScan_outcome (scan : EnergyScan)
    (hidle : scan.sEnergyScanStatus = .idle)
    (hunarmed : scan.timerArmed = false) (aAveragingTimeUs : ℕ) :
    StartOutcome scan (scan.StartExecutes config rail aScanChannel)
      (scan.efr32StartEnergyScan config rail .async aScanChannel aAveragingTimeUs) := by
  have hstays : scan.timerArmed ≠ true := ne_true_of_eq_false hunarmed
  unfold efr32StartEnergyScan
  rw [if_neg (not_not_intro hidle)]
  split
  case isTrue hband =>
    refine ⟨rfl, rfl, rfl, rfl, rfl, iff_of_false ?_ ?_, iff_of_false OtError.noConfusion hstays,
      fun harmed ↦ absurd harmed hstays⟩
    · exact fun hbusy ↦ hbusy.elim hstays EnergyScanStatus.noConfusion
    · exact fun hexecutes ↦ Bool.false_ne_true (hband.symm.trans hexecutes.1)
  split
  case isTrue hcounter =>
    refine ⟨rfl, rfl, rfl, rfl, rfl, iff_of_false ?_ ?_, iff_of_false OtError.noConfusion hstays,
      fun harmed ↦ absurd harmed hstays⟩
    · exact fun hbusy ↦ hbusy.elim hstays EnergyScanStatus.noConfusion
    · exact fun hexecutes ↦ hcounter hexecutes.2.1
  case isFalse hband hcounter =>
  have hvalid := And.intro (Bool.of_not_eq_false hband) (not_not.mp hcounter)
  split
  case isTrue hoptions =>
    refine ⟨rfl, rfl, rfl, rfl, rfl, iff_of_true (.inr rfl) ⟨hvalid.1, hvalid.2, ?_⟩,
      iff_of_false OtError.noConfusion hstays, fun harmed ↦ absurd harmed hstays⟩
    exact fun hset ↦ absurd (hoptions.symm.trans hset) Bool.false_ne_true
  case isFalse hoptions =>
  split
  case isTrue hrx =>
    refine ⟨rfl, rfl, rfl, rfl, rfl, iff_of_false ?_ ?_, iff_of_false OtError.noConfusion hstays,
      fun harmed ↦ absurd harmed hstays⟩
    · exact fun hbusy ↦ hbusy.elim hstays EnergyScanStatus.noConfusion
    · exact fun hexecutes ↦ Bool.false_ne_true
        (hrx.symm.trans (hexecutes.2.2 (Bool.of_not_eq_false hoptions)))
  case isFalse hrx =>
    have hexecutes : scan.StartExecutes config rail aScanChannel :=
      ⟨hvalid.1, hvalid.2, fun _ ↦ Bool.of_not_eq_false hrx⟩
    cases htimer : rail.setMultiTimer with
    | true =>
      rw [efr32ScanDwell, htimer]
      exact ⟨rfl, rfl, rfl, rfl, rfl, iff_of_true (.inl rfl) hexecutes, iff_of_true rfl rfl,
        fun _ ↦ rfl⟩
    | false =>
      rw [efr32ScanDwell, htimer]
      exact ⟨rfl, rfl, rfl, rfl, rfl, iff_of_true (.inr rfl) hexecutes,
        iff_of_false OtError.noConfusion Bool.false_ne_true,
        fun harmed ↦ absurd harmed Bool.false_ne_true⟩

theorem startRequest_outcome (scan : EnergyScan) (config : Config) (rail : RailResults)
    (iid request aScanChannel aScanDuration : ℕ) (hidle : scan.sEnergyScanStatus = .idle)
    (hunarmed : scan.timerArmed = false) :
    StartOutcome (scan.claim iid request) (scan.StartExecutes config rail aScanChannel)
      (scan.startRequest config rail iid request aScanChannel aScanDuration) := by
  have houtcome : StartOutcome (scan.claim iid request)
      (scan.StartExecutes config rail aScanChannel)
      ((scan.claim iid request).efr32StartEnergyScan config rail .async aScanChannel
        (aScanDuration * 1000)) :=
    efr32StartEnergyScan_outcome (scan.claim iid request) hidle hunarmed (aScanDuration * 1000)
  unfold startRequest
  simp only
  split
  · exact houtcome
  · exact { houtcome with }

theorem StartOutcome.scanning_eq {executes : Prop} [Decidable executes]
    {result : OtError × EnergyScan} (h : StartOutcome (scan.claim iid request) executes result)
    (hidle : scan.sEnergyScanStatus = .idle) :
    result.2.scanning = if executes then [⟨.energyScan, iid, request⟩] else [] := by
  have howner : (scan.claim iid request).owner = request := if_pos hidle
  rw [scanning, h.iid, h.owner, howner, h.mode]
  exact if_congr ((and_iff_right rfl).trans h.executes_iff) rfl rfl

theorem StartOutcome.begun_eq {executes : Prop} [Decidable executes]
    {result : OtError × EnergyScan} (h : StartOutcome (scan.claim iid request) executes result)
    (hidle : scan.sEnergyScanStatus = .idle) (hunarmed : scan.timerArmed = false) :
    result.2.begun = scan.begun ++ if executes then [⟨.energyScan, iid, request⟩] else [] := by
  have hbefore : scan.scanning = [] := by simp [scanning, hidle, hunarmed]
  rw [begun, begun, hbefore, List.append_nil, h.scanning_eq hidle, h.energyScanDones]
  rfl

/-- Clearing the active interface redirects the report of a scan in progress. -/
theorem clearActiveInterface_scanning (scan : EnergyScan) :
    scan.clearActiveInterface.scanning =
      scan.scanning.map fun request ↦ { request with iid := invalidInterfaceIndex } := by
  unfold scanning
  by_cases hrunning : scan.sEnergyScanMode = .async ∧
      (scan.timerArmed = true ∨ scan.sEnergyScanStatus = .completed)
  · rw [if_pos hrunning]
    exact if_pos hrunning
  · rw [if_neg hrunning]
    exact if_neg hrunning

/-- A scan of the stack goes on, or is completed, when its dwell timer has expired. -/
theorem efr32ScanTimerHandler_scanning (hmode : scan.sEnergyScanMode = .async)
    (harmed : scan.timerArmed = true)
    (hrearm : scan.sScanFrameCounter ≠ 0 → rail.setMultiTimer = true)
    (currentRSSIQuarterdBm : Option ℤ) :
    (scan.efr32ScanTimerHandler rail currentRSSIQuarterdBm).scanning = scan.scanning := by
  have hbefore : scan.scanning =
      [⟨.energyScan, scan.sEnergyScanActiveInterface, scan.owner⟩] := if_pos ⟨hmode, .inl harmed⟩
  by_cases hcounter : scan.sScanFrameCounter = 0
  · obtain ⟨sEnergyReadsMax, hnext⟩ := efr32ScanTimerHandler_complete rail hcounter
      currentRSSIQuarterdBm
    rw [hnext, hbefore]
    exact if_pos ⟨hmode, .inr rfl⟩
  · obtain ⟨sEnergyReadsMax, hnext⟩ := efr32ScanTimerHandler_dwell rail hcounter
      currentRSSIQuarterdBm
    rw [hnext, hbefore]
    exact if_pos ⟨hmode, .inl (hrearm hcounter)⟩

/-- A report moves the request from being executed to reported. -/
theorem report_begun (h : scan.isReportable = true)
    (hunarmed : scan.timerArmed = false) : scan.report.begun = scan.begun := by
  rw [isReportable, Bool.and_eq_true, beq_iff_eq, beq_iff_eq] at h
  have hbefore : scan.scanning =
      [⟨.energyScan, scan.sEnergyScanActiveInterface, scan.owner⟩] := if_pos ⟨h.1, .inr h.2⟩
  have hafter : scan.report.scanning = [] := by simp [scanning, report, hunarmed]
  rw [begun, begun, hbefore, hafter, List.append_nil]
  exact List.map_append

end EnergyScan

end OtEfr32.Radio
