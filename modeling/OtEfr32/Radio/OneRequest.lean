import OtEfr32.Radio.PendingOrder

/-!
# One request at a time

`pendingCommandQueueOverflowCallback` asserts that it is never called, because a host can only
request one command at a time.  This file gives the argument: if every instance waits for the report
of its request, at most one request of each instance waits, and the queue has an entry for each.
What an instance knows is what was reported to it, so the proof shows that a request that waits has
not been reported, whatever happens to the others.
-/

namespace OtEfr32.Radio

open Transition

variable {config : Config} {radio next : Driver} {rail : RailResults} {event : RadioEvent}

/-! ## Requests that have begun -/

/-- What identifies a request in the history: the iid of a scan can change. -/
def Request.key (request : Request) : RequestKind × ℕ := (request.kind, request.number)

namespace Driver

/-- The requests whose execution has begun, the reported ones included. -/
def begun (radio : Driver) : List Request := radio.tx.begun ++ radio.scan.begun

/-- The requests that were reported to the stack. -/
def reported (radio : Driver) : List Request :=
  radio.tx.txDones.map TxDone.toRequest ++ radio.scan.energyScanDones.map EnergyScanDone.toRequest

theorem begun_of_reported {request : Request} (h : request ∈ radio.reported) :
    request ∈ radio.begun := by
  rw [reported, List.mem_append] at h
  rw [begun, List.mem_append]
  exact h.imp (List.mem_append_left _) (List.mem_append_left _)

/-- Where a request that has begun behind a step comes from: it had begun before, it was the first
that waited, or it is a new one that has not waited. -/
def BeginsFrom (radio next : Driver) : Prop :=
  ∀ request ∈ next.begun,
    (∃ before ∈ radio.begun, before.key = request.key) ∨
    (∃ first, radio.waiting = first :: next.waiting ∧ first.key = request.key) ∨
    request.number = radio.requestCount request.kind ∧
      request.number < next.requestCount request.kind ∧ next.waiting = radio.waiting

theorem BeginsFrom.of_mem (h : ∀ request ∈ next.begun, ∃ before ∈ radio.begun,
    before.key = request.key) : radio.BeginsFrom next :=
  fun request hrequest ↦ .inl (h request hrequest)

theorem BeginsFrom.of_eq (htx : next.tx.begun = radio.tx.begun)
    (hscan : next.scan.begun = radio.scan.begun) : radio.BeginsFrom next := by
  apply BeginsFrom.of_mem
  intro request hrequest
  rw [begun, htx, hscan] at hrequest
  exact ⟨request, hrequest, rfl⟩

/-- A change of the scan that begins no request. -/
theorem BeginsFrom.of_scan (htx : next.tx.begun = radio.tx.begun)
    (hscan : ∀ request ∈ next.scan.begun, ∃ before ∈ radio.scan.begun,
      before.key = request.key) : radio.BeginsFrom next := by
  apply BeginsFrom.of_mem
  intro request hrequest
  rw [begun, htx, List.mem_append] at hrequest
  rcases hrequest with htx | hscanned
  · exact ⟨request, List.mem_append_left _ htx, rfl⟩
  · obtain ⟨before, hbefore, hkey⟩ := hscan request hscanned
    exact ⟨before, List.mem_append_right _ hbefore, hkey⟩

end Driver

/-! ## The scan -/

namespace EnergyScan

variable {scan next : EnergyScan}

theorem mem_scanning {request : Request} (h : request ∈ scan.scanning) :
    request = ⟨.energyScan, scan.sEnergyScanActiveInterface, scan.owner⟩ ∧
      scan.sEnergyScanMode = .async ∧
        (scan.timerArmed = true ∨ scan.sEnergyScanStatus = .completed) := by
  unfold scanning at h
  split at h
  case isTrue hrunning => exact ⟨List.mem_singleton.mp h, hrunning⟩
  case isFalse => contradiction

theorem current_mem_scanning (hmode : scan.sEnergyScanMode = .async)
    (hrunning : scan.timerArmed = true ∨ scan.sEnergyScanStatus = .completed) :
    (⟨.energyScan, scan.sEnergyScanActiveInterface, scan.owner⟩ : Request) ∈ scan.scanning := by
  rw [scanning, if_pos ⟨hmode, hrunning⟩]
  exact List.mem_cons_self

/-- A change that adds no report and starts no scan. -/
theorem begun_mono (hdones : next.energyScanDones = scan.energyScanDones)
    (hscanning : ∀ request ∈ next.scanning, ∃ before ∈ scan.scanning, before.key = request.key) :
    ∀ request ∈ next.begun, ∃ before ∈ scan.begun, before.key = request.key := by
  intro request hrequest
  rw [begun, List.mem_append, hdones] at hrequest
  rcases hrequest with hreported | hscanned
  · exact ⟨request, List.mem_append_left _ hreported, rfl⟩
  · obtain ⟨before, hbefore, hkey⟩ := hscanning request hscanned
    exact ⟨before, List.mem_append_right _ hbefore, hkey⟩

theorem efr32ScanTimerHandler_begun_mono (harmed : scan.timerArmed = true) (rail : RailResults)
    (currentRSSIQuarterdBm : Option ℤ) :
    ∀ request ∈ (scan.efr32ScanTimerHandler rail currentRSSIQuarterdBm).begun,
      ∃ before ∈ scan.begun, before.key = request.key := by
  by_cases hcounter : scan.sScanFrameCounter = 0
  · obtain ⟨sEnergyReadsMax, hnext⟩ := efr32ScanTimerHandler_complete rail hcounter
      currentRSSIQuarterdBm
    rw [hnext]
    refine begun_mono rfl fun request hrequest ↦ ?_
    obtain ⟨rfl, hmode, -⟩ := mem_scanning hrequest
    exact ⟨_, current_mem_scanning hmode (.inl harmed), rfl⟩
  · obtain ⟨sEnergyReadsMax, hnext⟩ := efr32ScanTimerHandler_dwell rail hcounter
      currentRSSIQuarterdBm
    rw [hnext]
    refine begun_mono rfl fun request hrequest ↦ ?_
    obtain ⟨rfl, hmode, -⟩ := mem_scanning hrequest
    exact ⟨_, current_mem_scanning hmode (.inl harmed), rfl⟩

theorem report_begun_mono (hreport : scan.isReportable = true) :
    ∀ request ∈ scan.report.begun, ∃ before ∈ scan.begun, before.key = request.key := by
  rw [isReportable, Bool.and_eq_true, beq_iff_eq, beq_iff_eq] at hreport
  have hmem : (⟨.energyScan, scan.sEnergyScanActiveInterface, scan.owner⟩ : Request) ∈
      scan.begun :=
    List.mem_append_right _ (current_mem_scanning hreport.1 (.inr hreport.2))
  intro request hrequest
  rw [begun, List.mem_append] at hrequest
  rcases hrequest with hreported | hscanned
  · obtain ⟨done, hdone, rfl⟩ := List.mem_map.mp hreported
    rcases List.mem_append.mp hdone with hold | hnew
    · exact ⟨_, List.mem_append_left _ (List.mem_map_of_mem hold), rfl⟩
    · obtain rfl := List.mem_singleton.mp hnew
      exact ⟨_, hmem, rfl⟩
  · obtain ⟨rfl, -⟩ := mem_scanning hscanned
    exact ⟨_, hmem, rfl⟩

theorem clearActiveInterface_begun_mono (scan : EnergyScan) :
    ∀ request ∈ scan.clearActiveInterface.begun,
      ∃ before ∈ scan.begun, before.key = request.key := by
  refine begun_mono rfl fun request hrequest ↦ ?_
  rw [clearActiveInterface_scanning] at hrequest
  obtain ⟨before, hbefore, rfl⟩ := List.mem_map.mp hrequest
  exact ⟨before, hbefore, rfl⟩

theorem finishRssi_begun_mono (scan : EnergyScan) (before : EnergyScanStatus) :
    ∀ request ∈ (scan.finishRssi before).begun,
      ∃ before ∈ scan.begun, before.key = request.key := by
  refine begun_mono rfl fun request hrequest ↦ ?_
  obtain ⟨rfl, hmode, harmed | hcompleted⟩ := mem_scanning hrequest
  · exact ⟨_, scan.current_mem_scanning hmode (.inl harmed), rfl⟩
  · exact absurd hcompleted EnergyScanStatus.noConfusion

/-- `otPlatRadioGetRssi` scans in the other mode. -/
theorem efr32StartEnergyScan_sync_begun_mono (scan : EnergyScan) (config : Config)
    (rail : RailResults) (aChannel aAveragingTimeUs : ℕ) :
    ∀ request ∈ (scan.efr32StartEnergyScan config rail .sync aChannel aAveragingTimeUs).2.begun,
      ∃ before ∈ scan.begun, before.key = request.key := by
  by_cases hidle : scan.sEnergyScanStatus = .idle
  case neg =>
    rw [efr32StartEnergyScan_busy scan hidle]
    exact fun request hrequest ↦ ⟨request, hrequest, rfl⟩
  case pos =>
    have hnext : (scan.efr32StartEnergyScan config rail .sync aChannel
          aAveragingTimeUs).2.sEnergyScanMode = .sync ∧
        (scan.efr32StartEnergyScan config rail .sync aChannel
          aAveragingTimeUs).2.energyScanDones = scan.energyScanDones := by
      unfold efr32StartEnergyScan efr32ScanDwell
      rw [if_neg (not_not_intro hidle)]
      split_ifs
      case neg => cases rail.setMultiTimer <;> exact ⟨rfl, rfl⟩
      all_goals exact ⟨rfl, rfl⟩
    refine begun_mono hnext.2 fun request hrequest ↦ ?_
    obtain ⟨-, hmode, -⟩ := mem_scanning hrequest
    exact absurd (hnext.1.symm.trans hmode) EnergyScanMode.noConfusion

/-- A scan of the stack that is started from the idle state begins its request, or none. -/
theorem startRequest_begun_mono (scan : EnergyScan) (config : Config) (rail : RailResults)
    (iid request aScanChannel aScanDuration : ℕ) (hidle : scan.sEnergyScanStatus = .idle) :
    ∀ other ∈ (scan.startRequest config rail iid request aScanChannel aScanDuration).2.begun,
      (∃ before ∈ scan.begun, before.key = other.key) ∨ other.key = (.energyScan, request) := by
  have howner : (scan.claim iid request).owner = request := if_pos hidle
  have hstart : ((scan.claim iid request).efr32StartEnergyScan config rail .async aScanChannel
        (aScanDuration * 1000)).2.owner = request ∧
      ((scan.claim iid request).efr32StartEnergyScan config rail .async aScanChannel
        (aScanDuration * 1000)).2.energyScanDones = scan.energyScanDones := by
    unfold efr32StartEnergyScan efr32ScanDwell
    split_ifs
    case neg => cases rail.setMultiTimer <;> exact ⟨howner, rfl⟩
    all_goals exact ⟨howner, rfl⟩
  have hnext : (scan.startRequest config rail iid request aScanChannel aScanDuration).2.owner =
        request ∧
      (scan.startRequest config rail iid request aScanChannel aScanDuration).2.energyScanDones =
        scan.energyScanDones := by
    unfold startRequest
    simp only
    split <;> exact hstart
  intro other hother
  rw [begun, List.mem_append, hnext.2] at hother
  rcases hother with hreported | hscanned
  · exact .inl ⟨other, List.mem_append_left _ hreported, rfl⟩
  · obtain ⟨rfl, -⟩ := mem_scanning hscanned
    exact .inr (congrArg (RequestKind.energyScan, ·) hnext.1)

end EnergyScan

/-! ## What a step begins -/

namespace Driver

theorem BeginsFrom.of_transmit {request : Request} (hscan : next.scan.begun = radio.scan.begun)
    (htx : next.tx.begun = radio.tx.begun ++ [request])
    (hfrom : (∃ first, radio.waiting = first :: next.waiting ∧ first.key = request.key) ∨
      request.number = radio.requestCount request.kind ∧
        request.number < next.requestCount request.kind ∧ next.waiting = radio.waiting) :
    radio.BeginsFrom next := by
  intro other hother
  rw [begun, htx, hscan, List.mem_append, List.mem_append, List.mem_singleton] at hother
  rcases hother with (hold | rfl) | hscanned
  · exact .inl ⟨other, List.mem_append_left _ hold, rfl⟩
  · exact .inr hfrom
  · exact .inl ⟨other, List.mem_append_right _ hscanned, rfl⟩

theorem acceptTransmit_begun (radio : Driver) (config : Config) (iid : ℕ) :
    (acceptTransmit config radio iid).tx.begun = radio.tx.begun :=
  radio.tx.countRequest.acceptFrame_begun config iid (txBufIndex iid)

theorem beginsFrom_transmit (htx : TxConsistent config radio) (hmultipan : config.multipan = true)
    {iid : ℕ} (hiid : config.isIid iid = true) (gpBuffers : Bool) :
    radio.BeginsFrom (radio.transmit config iid rail gpBuffers) := by
  have hbegun := radio.acceptTransmit_begun config iid
  cases hpal : config.canAccessPal with
  | false =>
    unfold transmit otPlatRadioTransmit
    simp only [hpal, ↓reduceIte]
    exact .of_eq rfl rfl
  | true =>
  cases gpBuffers with
  | true =>
    unfold transmit otPlatRadioTransmit
    simp only [hpal, hmultipan, Bool.and_true, Bool.true_eq_false, ↓reduceIte, and_false]
    exact .of_eq rfl rfl
  | false =>
  cases hbusy : radio.isRadioTransmittingOrScanning with
  | true =>
    rw [transmit_busy hmultipan hpal hbusy]
    obtain ⟨sPendingCommandQueue, pendingOverflows, hpush⟩ := pushPendingCommand_eq
      (acceptTransmit config radio iid) config (.transmit (txBufIndex iid) radio.tx.requests) iid
    rw [hpush]
    exact .of_eq hbegun rfl
  | false =>
    rw [transmit_free hmultipan hpal hbusy]
    by_cases hband : config.hasBandConfig
        ((acceptTransmit config radio iid).tx.sTransmitBuffer (txBufIndex iid)).frame.mChannel =
          true
    · have hcounted : radio.tx.countRequest.InPhase config .idle :=
        { idle_of_free htx hbusy with }
      have hidle : (acceptTransmit config radio iid).tx.InPhase config .idle :=
        Transmitter.acceptFrame_inPhase hcounted hiid
      obtain ⟨tx, security, power, railChannel, transmissionStarts, hnow, hrequests, hstarted⟩ :=
        transmitNow_begun (acceptTransmit config radio iid) rail hidle hiid (txBufIndex iid) hband
          radio.tx.requests
      rw [hnow, if_pos rfl]
      have hnumber : radio.tx.requests < tx.requests := by
        rw [hrequests, acceptTransmit_requests]
        exact Nat.lt_succ_self _
      exact .of_transmit rfl (hstarted.trans (congrArg (· ++ _) hbegun))
        (.inr ⟨rfl, hnumber, rfl⟩)
    · rw [transmitNow, if_neg hband]
      exact .of_eq hbegun rfl

theorem BeginsFrom.of_startRequest {request : ℕ} (htx : next.tx.begun = radio.tx.begun)
    (hscan : ∀ other ∈ next.scan.begun,
      (∃ before ∈ radio.scan.begun, before.key = other.key) ∨ other.key = (.energyScan, request))
    (hfrom : (∃ first, radio.waiting = first :: next.waiting ∧
        first.key = (.energyScan, request)) ∨
      request = radio.scan.requests ∧ request < next.scan.requests ∧
        next.waiting = radio.waiting) :
    radio.BeginsFrom next := by
  intro other hother
  rw [begun, htx, List.mem_append] at hother
  rcases hother with hold | hscanned
  · exact .inl ⟨other, List.mem_append_left _ hold, rfl⟩
  · rcases hscan other hscanned with ⟨before, hbefore, hkey⟩ | hkey
    · exact .inl ⟨before, List.mem_append_right _ hbefore, hkey⟩
    · obtain ⟨kind, iid, number⟩ := other
      obtain ⟨rfl, rfl⟩ := Prod.mk.inj hkey
      exact .inr hfrom

theorem beginsFrom_energyScan (hmultipan : config.multipan = true) (iid aScanChannel : ℕ)
    (aScanDuration : ℕ) :
    radio.BeginsFrom (radio.energyScan config iid aScanChannel aScanDuration rail) := by
  cases hpal : config.canAccessPal with
  | false =>
    unfold energyScan otPlatRadioEnergyScan
    simp only [hpal, ↓reduceIte]
    exact .of_eq rfl rfl
  | true =>
  cases hbusy : radio.isRadioTransmittingOrScanning with
  | true =>
    rw [energyScan_busy hmultipan hpal hbusy]
    obtain ⟨sPendingCommandQueue, pendingOverflows, hpush⟩ := pushPendingCommand_eq
      (radio.mapScan EnergyScan.countRequest) config
      (.energyScan aScanChannel aScanDuration radio.scan.requests) iid
    rw [hpush]
    exact .of_eq rfl rfl
  | false =>
    have hidle := (isRadioTransmittingOrScanning_eq_false.mp hbusy).1
    have hbegun := radio.scan.countRequest.startRequest_begun_mono config rail iid
      radio.scan.requests aScanChannel aScanDuration hidle
    have hnumber : radio.scan.requests < (radio.scan.countRequest.startRequest config rail iid
        radio.scan.requests aScanChannel aScanDuration).2.requests := by
      rw [EnergyScan.startRequest_requests]
      exact Nat.lt_succ_self _
    obtain ⟨railChannel, hscan⟩ := otPlatRadioEnergyScan_free
      (radio.mapScan EnergyScan.countRequest) rail hpal hbusy iid radio.scan.requests aScanChannel
      aScanDuration
    unfold energyScan
    simp only [hscan]
    split <;> exact .of_startRequest rfl hbegun (.inr ⟨rfl, hnumber, rfl⟩)

/-- The command that is due begins, or is dropped. -/
theorem ProcessPart.beginsFrom {gpBuffers : Bool}
    (hpart : ProcessPart config rail gpBuffers radio next) (htx : TxConsistent config radio) :
    radio.BeginsFrom next := by
  cases hpart with
  | txComplete =>
    obtain ⟨phase, hphase⟩ := htx.phase
    exact .of_eq (Transmitter.processTxComplete_begun hphase) rfl
  | scanReport _ hreportable =>
    exact .of_scan rfl (EnergyScan.report_begun_mono hreportable)
  | scanReported => exact .of_scan rfl radio.scan.clearActiveInterface_begun_mono
  | @transmit iid txFrame request rest hdue hqueue =>
    obtain ⟨_, hmultipan, hfree⟩ := guards_of_dueCommand hdue
    obtain ⟨hiid, hframe⟩ := htx.pending _ (hqueue ▸ List.mem_cons_self)
    obtain rfl : txFrame = txBufIndex iid := hframe txFrame request rfl
    have hwaiting : radio.waiting = ⟨.transmit, iid, request⟩ ::
        rest.map PendingCommand.toRequest := congrArg (List.map PendingCommand.toRequest) hqueue
    have hbegun := radio.tx.acceptFrame_begun config iid (txBufIndex iid)
    cases hpal : config.canAccessPal with
    | false =>
      unfold otPlatRadioTransmit
      rw [if_pos hpal]
      exact .of_eq rfl rfl
    | true =>
    cases gpBuffers with
    | true =>
      unfold otPlatRadioTransmit
      rw [if_neg (by rw [hpal]; decide), if_pos (by rw [hmultipan]; rfl)]
      exact .of_eq rfl rfl
    | false =>
    rw [otPlatRadioTransmit_free { radio with sPendingCommandQueue := rest } hmultipan hpal hfree]
    by_cases hband : config.hasBandConfig ((radio.tx.acceptFrame config iid
        (txBufIndex iid)).sTransmitBuffer (txBufIndex iid)).frame.mChannel = true
    · have hidle := Transmitter.acceptFrame_inPhase (idle_of_free htx hfree) hiid
      obtain ⟨tx, security, power, railChannel, transmissionStarts, hnow, hrequests, hstarted⟩ :=
        transmitNow_begun (mapTx { radio with sPendingCommandQueue := rest } fun tx ↦
          tx.acceptFrame config iid (txBufIndex iid)) rail hidle hiid (txBufIndex iid) hband request
      rw [hnow]
      exact .of_transmit rfl (hstarted.trans (congrArg (· ++ _) hbegun))
        (.inl ⟨_, hwaiting, rfl⟩)
    · rw [transmitNow]
      simp only
      rw [if_neg (by exact hband)]
      exact .of_eq hbegun rfl
  | @energyScan iid scanChannel scanDuration request rest hdue hqueue =>
    obtain ⟨_, hmultipan, hfree⟩ := guards_of_dueCommand hdue
    have hwaiting : radio.waiting = ⟨.energyScan, iid, request⟩ ::
        rest.map PendingCommand.toRequest := congrArg (List.map PendingCommand.toRequest) hqueue
    cases hpal : config.canAccessPal with
    | false =>
      unfold otPlatRadioEnergyScan
      rw [if_pos hpal]
      exact .of_eq rfl rfl
    | true =>
      have hidle := (isRadioTransmittingOrScanning_eq_false.mp hfree).1
      have hbegun := radio.scan.startRequest_begun_mono config rail iid request scanChannel
        scanDuration hidle
      obtain ⟨railChannel, hscan⟩ := otPlatRadioEnergyScan_free
        { radio with sPendingCommandQueue := rest } rail hpal hfree iid request scanChannel
        scanDuration
      rw [hscan]
      exact .of_startRequest rfl hbegun (.inl ⟨_, hwaiting, rfl⟩)
  | _ => exact .of_eq rfl rfl

theorem step_beginsFrom (htx : TxConsistent config radio) (hmultipan : config.multipan = true)
    (hstep : Step config radio event next) : radio.BeginsFrom next := by
  cases hstep with
  | @railEvents aEvents =>
    obtain ⟨phase, hphase⟩ := htx.phase
    obtain ⟨after, hidle, hafter⟩ := railCbGeneric_inPhase hphase aEvents
    have hbegun : (radio.railCbGeneric config aEvents).tx.begun = radio.tx.begun := by
      apply (railCbGeneric_sameRequest radio config aEvents).begun_eq
      rw [hafter.isBusy, hphase.isBusy, hidle]
    obtain ⟨tx, rx, security, heq⟩ := railCbGeneric_eq radio config aEvents
    rw [heq] at hbegun ⊢
    exact .of_eq hbegun rfl
  | scanTimer harmed =>
    exact .of_scan rfl (EnergyScan.efr32ScanTimerHandler_begun_mono harmed _ _)
  | endRssiWait => exact .of_scan rfl (radio.scan.finishRssi_begun_mono _)
  | setMacKeyStep => exact .of_eq rfl rfl
  | main hcall hmain =>
    cases hmain with
    | @writeFrame iid aFrame =>
      have hsame : radio.tx.SameRequest (radio.tx.updateBuffer (txBufIndex iid) fun packet ↦
          { packet with frame := aFrame }) :=
        (Transmitter.SameRequest.refl radio.tx).updateBuffer (txBufIndex iid) fun _ ↦ rfl
      exact .of_eq (hsame.begun_eq rfl) rfl
    | transmit hiid => exact beginsFrom_transmit htx hmultipan hiid _
    | energyScan => exact beginsFrom_energyScan hmultipan _ _ _
    | @getRssi rail =>
      have hstart := radio.scan.efr32StartEnergyScan_sync_begun_mono config rail
        radio.rx.sReceiveChannel config.rssiAveragingTime
      unfold otPlatRadioGetRssi
      simp only
      split_ifs
      case pos => exact .of_eq rfl rfl
      all_goals exact .of_scan rfl hstart
    | receive =>
      unfold otPlatRadioReceive
      split_ifs
      case neg => exact .of_eq (radio.tx.setFlag_begun false (by decide)) rfl
      all_goals exact .of_eq rfl rfl
    | receiveAt =>
      have hset : (radio.tx.setFlag [.scheduledRxPending] true).begun = radio.tx.begun :=
        radio.tx.setFlag_begun true (by decide)
      unfold otPlatRadioReceiveAt
      split_ifs
      · exact .of_eq rfl rfl
      · exact .of_eq rfl rfl
      · exact .of_eq rfl rfl
      · exact .of_eq ((Transmitter.setFlag_begun _ false (by decide)).trans hset) rfl
      · exact .of_eq hset rfl
    | sleep =>
      unfold otPlatRadioSleep
      split
      · exact .of_eq rfl rfl
      · exact .of_eq (radio.tx.setFlag_begun false (by decide)) rfl
    | process => exact (radio.processPart config _ _).beginsFrom htx
    | _ => exact .of_eq rfl rfl

/-! ## Overflows -/

theorem otPlatRadioTransmit_overflows (radio : Driver) (gpBuffers : Bool)
    (iid aFrame request : ℕ)
    (hroom : config.multipan = true → radio.isRadioTransmittingOrScanning = true →
      radio.HasRoom config) :
    (radio.otPlatRadioTransmit config rail gpBuffers iid aFrame request).2.pendingOverflows =
      radio.pendingOverflows := by
  unfold otPlatRadioTransmit
  split
  · rfl
  split
  · rfl
  simp only
  split
  case isTrue hbusy =>
    rw [acceptFrame_isBusy, Bool.and_eq_true] at hbusy
    rw [pushPendingCommand_room _ (by exact hroom hbusy.1 hbusy.2)]
    rfl
  case isFalse =>
    obtain ⟨tx, security, power, railChannel, transmissionStarts, hnow⟩ := transmitNow_eq
      (radio.mapTx fun tx ↦ tx.acceptFrame config iid aFrame) config rail iid aFrame request
    rw [hnow]
    rfl

theorem otPlatRadioEnergyScan_overflows (radio : Driver) (iid request aScanChannel : ℕ)
    (aScanDuration : ℕ)
    (hroom : config.multipan = true → radio.isRadioTransmittingOrScanning = true →
      radio.HasRoom config) :
    (radio.otPlatRadioEnergyScan config rail iid request aScanChannel
      aScanDuration).2.pendingOverflows = radio.pendingOverflows := by
  unfold otPlatRadioEnergyScan
  split
  · rfl
  split
  case isTrue hbusy =>
    rw [Bool.and_eq_true] at hbusy
    rw [pushPendingCommand_room _ (hroom hbusy.1 hbusy.2)]
  case isFalse =>
    simp only
    split <;> rfl

theorem ProcessPart.overflows {gpBuffers : Bool}
    (hpart : ProcessPart config rail gpBuffers radio next) :
    next.pendingOverflows = radio.pendingOverflows := by
  cases hpart with
  | @transmit iid txFrame request rest hdue =>
    obtain ⟨_, _, hfree⟩ := guards_of_dueCommand hdue
    exact otPlatRadioTransmit_overflows { radio with sPendingCommandQueue := rest } gpBuffers iid
      txFrame request fun _ hbusy ↦ absurd (hfree.symm.trans hbusy) Bool.false_ne_true
  | @energyScan iid scanChannel scanDuration request rest hdue =>
    obtain ⟨_, _, hfree⟩ := guards_of_dueCommand hdue
    exact otPlatRadioEnergyScan_overflows { radio with sPendingCommandQueue := rest } iid request
      scanChannel scanDuration fun _ hbusy ↦ absurd (hfree.symm.trans hbusy) Bool.false_ne_true
  | _ => rfl

/-- A step in which no request finds the queue full. -/
theorem step_overflows (hstep : Step config radio event next)
    (hroom : ∀ iid, event.requester = some iid → config.isIid iid = true → radio.HasRoom config) :
    next.pendingOverflows = radio.pendingOverflows := by
  cases hstep with
  | @railEvents aEvents =>
    obtain ⟨tx, rx, security, heq⟩ := railCbGeneric_eq radio config aEvents
    rw [heq]
  | scanTimer | endRssiWait | setMacKeyStep => rfl
  | main hcall hmain =>
    cases hmain with
    | @transmit iid rail gpBuffers hiid =>
      obtain ⟨accepted, heq⟩ := radio.transmit_eq config iid rail gpBuffers
      rw [heq]
      exact otPlatRadioTransmit_overflows (radio.mapTx Transmitter.countRequest) gpBuffers iid _ _
        fun _ _ ↦ hroom iid rfl hiid
    | @energyScan iid aScanChannel aScanDuration rail hiid =>
      obtain ⟨accepted, heq⟩ := radio.energyScan_eq config iid aScanChannel aScanDuration rail
      rw [heq]
      exact otPlatRadioEnergyScan_overflows (radio.mapScan EnergyScan.countRequest) iid _ _ _
        fun _ _ ↦ hroom iid rfl hiid
    | getRssi =>
      unfold otPlatRadioGetRssi
      simp only
      split_ifs <;> rfl
    | receive =>
      unfold otPlatRadioReceive
      split_ifs <;> rfl
    | receiveAt =>
      unfold otPlatRadioReceiveAt
      split_ifs <;> rfl
    | sleep =>
      unfold otPlatRadioSleep
      split <;> rfl
    | @process rail gpBuffers => exact (radio.processPart config rail gpBuffers).overflows
    | _ => rfl

end Driver

/-! ## One request at a time -/

/-- An instance makes a request only if all that it has made were reported. -/
def OneAtATime (radio : Driver) (event : RadioEvent) : Prop :=
  ∀ request ∈ radio.accepted, event.requester = some request.iid → request ∈ radio.reported

instance (radio : Driver) (event : RadioEvent) : Decidable (OneAtATime radio event) :=
  inferInstanceAs (Decidable (∀ request ∈ radio.accepted, _ → _))

/-- At most one request of each instance waits, and what waits has not begun. -/
structure OneWaits (config : Config) (radio : Driver) : Prop where
  tx : TxConsistent config radio
  instances : (radio.waiting.map Request.iid).Nodup
  requests : (radio.waiting.map Request.key).Nodup
  notBegun : ∀ request ∈ radio.waiting, ∀ other ∈ radio.begun, request.key ≠ other.key
  accepted : ∀ request ∈ radio.waiting, request ∈ radio.accepted
  /-- The numbers from `requestCount` on are unused. -/
  numbers : ∀ request ∈ radio.waiting ++ radio.begun,
    request.number < radio.requestCount request.kind
  overflows : radio.pendingOverflows = 0

namespace OneWaits

theorem isIid (h : OneWaits config radio) {request : Request} (hrequest : request ∈ radio.waiting) :
    config.isIid request.iid = true := by
  obtain ⟨command, hcommand, rfl⟩ := List.mem_map.mp hrequest
  exact (h.tx.pending command hcommand).1

/-- An instance whose requests were all reported has none that waits. -/
theorem not_waiting (h : OneWaits config radio) (hone : OneAtATime radio event) {iid : ℕ}
    (hrequester : event.requester = some iid) : iid ∉ radio.waiting.map Request.iid := by
  intro hmem
  obtain ⟨request, hrequest, rfl⟩ := List.mem_map.mp hmem
  have hreported := hone request (h.accepted request hrequest) hrequester
  exact h.notBegun request hrequest request (Driver.begun_of_reported hreported) rfl

/-- A request finds room: the queue has an entry for each instance. -/
theorem hasRoom (h : OneWaits config radio) (hmultipan : config.multipan = true)
    (hone : OneAtATime radio event) {iid : ℕ} (hrequester : event.requester = some iid)
    (hiid : config.isIid iid = true) : radio.HasRoom config := by
  have hnodup : (iid :: radio.waiting.map Request.iid).Nodup :=
    List.nodup_cons.mpr ⟨h.not_waiting hone hrequester, h.instances⟩
  have hsubset : iid :: radio.waiting.map Request.iid ⊆
      List.range' 1 config.multipleInstanceNum := by
    have hmem (other : ℕ) (hother : config.isIid other = true) :
        other ∈ List.range' 1 config.multipleInstanceNum := by
      have := (Config.isIid_multipan hmultipan).mp hother
      rw [List.mem_range'_1]
      omega
    apply List.cons_subset.mpr ⟨hmem iid hiid, fun other hother ↦ ?_⟩
    obtain ⟨request, hrequest, rfl⟩ := List.mem_map.mp hother
    exact hmem _ (h.isIid hrequest)
  have hlength := (List.subperm_of_subset hnodup hsubset).length_le
  rw [List.length_cons, List.length_map, Driver.waiting, List.length_map,
    List.length_range'] at hlength
  rw [Driver.HasRoom, Config.radioRequestBufferCount, if_pos hmultipan]
  omega

theorem numbers_step (h : OneWaits config radio) (hqueue : QueueStep config radio event next)
    (hcounts : radio.CountsUp next) (hbegins : radio.BeginsFrom next) :
    ∀ request ∈ next.waiting ++ next.begun, request.number < next.requestCount request.kind := by
  have hold : ∀ before ∈ radio.waiting ++ radio.begun, ∀ request : Request,
      before.key = request.key → request.number < next.requestCount request.kind := by
    intro before hbefore request hkey
    obtain ⟨hkind, hnumber⟩ := Prod.mk.inj hkey
    have hlt := h.numbers before hbefore
    rw [hkind, hnumber] at hlt
    exact hlt.trans_le (hcounts request.kind)
  intro request hrequest
  rcases List.mem_append.mp hrequest with hwaits | hbegun
  · exact hqueue.isNumbered hcounts (fun other hother ↦ h.numbers other
      (List.mem_append_left _ hother)) request hwaits
  · rcases hbegins request hbegun with ⟨before, hbefore, hkey⟩ | ⟨first, hfirst, hkey⟩ | ⟨_, hlt, _⟩
    · exact hold before (List.mem_append_right _ hbefore) request hkey
    · refine hold first (List.mem_append_left _ ?_) request hkey
      rw [hfirst]
      exact List.mem_cons_self
    · exact hlt

/-- What waits behind a step has not begun. -/
theorem notBegun_step (h : OneWaits config radio) (hqueue : QueueStep config radio event next)
    (hbegins : radio.BeginsFrom next) :
    ∀ request ∈ next.waiting, ∀ other ∈ next.begun, request.key ≠ other.key := by
  intro request hrequest other hother hkey
  have hunused (hnumber : other.number = radio.requestCount other.kind) :
      request ∉ radio.waiting := by
    intro hmem
    have hlt := h.numbers request (List.mem_append_left _ hmem)
    obtain ⟨hkind, heq⟩ := Prod.mk.inj hkey
    rw [heq, hkind, hnumber] at hlt
    exact lt_irrefl _ hlt
  rcases hbegins other hother with ⟨before, hbefore, hbeforeKey⟩ | ⟨first, hfirst, hfirstKey⟩ |
    ⟨hnumber, _, hwaiting⟩
  · -- a request that had begun before neither waited nor is new
    have hnew (hnumber : request.number = radio.requestCount request.kind) : False := by
      have hlt := h.numbers before (List.mem_append_right _ hbefore)
      obtain ⟨hkind, heq⟩ := Prod.mk.inj (hbeforeKey.trans hkey.symm)
      rw [heq, hkind, hnumber] at hlt
      exact lt_irrefl _ hlt
    have hwaited (hmem : request ∈ radio.waiting) : False :=
      h.notBegun request hmem before hbefore (hkey.trans hbeforeKey.symm)
    cases hqueue with
    | keep _ _ hwaiting | skip _ _ _ _ hwaiting => exact hwaited (hwaiting ▸ hrequest)
    | defer deferred _ _ hnumber _ _ hwaiting =>
      rw [hwaiting, List.mem_append, List.mem_singleton] at hrequest
      rcases hrequest with hold | rfl
      · exact hwaited hold
      · exact hnew hnumber
    | dequeue _ _ hwaiting => exact hwaited (hwaiting ▸ List.mem_cons_of_mem _ hrequest)
  · -- the first that waited is not among those that still wait
    have hkeys := h.requests
    rw [hfirst, List.map_cons, List.nodup_cons] at hkeys
    exact hkeys.1 (List.mem_map.mpr ⟨request, hrequest, hkey.trans hfirstKey.symm⟩)
  · exact hunused hnumber (hwaiting ▸ hrequest)

theorem instances_step (h : OneWaits config radio) (hqueue : QueueStep config radio event next)
    (hone : OneAtATime radio event) : (next.waiting.map Request.iid).Nodup := by
  cases hqueue with
  | keep _ _ hwaiting | skip _ _ _ _ hwaiting => exact hwaiting ▸ h.instances
  | defer request _ hrequester _ _ _ hwaiting =>
    rw [hwaiting, List.map_append, List.map_singleton,
      (List.perm_append_singleton _ _).nodup_iff, List.nodup_cons]
    exact ⟨h.not_waiting hone hrequester, h.instances⟩
  | dequeue _ _ hwaiting =>
    have hinstances := h.instances
    rw [hwaiting, List.map_cons, List.nodup_cons] at hinstances
    exact hinstances.2

theorem requests_step (h : OneWaits config radio) (hqueue : QueueStep config radio event next) :
    (next.waiting.map Request.key).Nodup := by
  cases hqueue with
  | keep _ _ hwaiting | skip _ _ _ _ hwaiting => exact hwaiting ▸ h.requests
  | defer request _ _ hnumber _ _ hwaiting =>
    rw [hwaiting, List.map_append, List.map_singleton,
      (List.perm_append_singleton _ _).nodup_iff, List.nodup_cons]
    refine ⟨fun hmem ↦ ?_, h.requests⟩
    obtain ⟨other, hother, hkey⟩ := List.mem_map.mp hmem
    have hlt := h.numbers other (List.mem_append_left _ hother)
    obtain ⟨hkind, heq⟩ := Prod.mk.inj hkey
    rw [heq, hkind, hnumber] at hlt
    exact lt_irrefl _ hlt
  | dequeue _ _ hwaiting =>
    have hrequests := h.requests
    rw [hwaiting, List.map_cons, List.nodup_cons] at hrequests
    exact hrequests.2

theorem accepted_step (h : OneWaits config radio) (hqueue : QueueStep config radio event next) :
    ∀ request ∈ next.waiting, request ∈ next.accepted := by
  cases hqueue with
  | keep _ haccepted hwaiting => exact haccepted ▸ hwaiting ▸ h.accepted
  | skip _ _ _ haccepted hwaiting =>
    rw [haccepted, hwaiting]
    exact fun request hrequest ↦ List.mem_append_left _ (h.accepted request hrequest)
  | defer _ _ _ _ _ haccepted hwaiting =>
    rw [haccepted, hwaiting]
    intro other hother
    exact (List.mem_append.mp hother).elim
      (fun hold ↦ List.mem_append_left _ (h.accepted other hold)) (List.mem_append_right _)
  | dequeue _ haccepted hwaiting =>
    rw [haccepted]
    exact fun request hrequest ↦ h.accepted request (hwaiting ▸ List.mem_cons_of_mem _ hrequest)

theorem step (h : OneWaits config radio) (hmultipan : config.multipan = true)
    (hcontract : TxContract config radio event) (hone : OneAtATime radio event)
    (hstep : radioStep config radio event = some next) : OneWaits config next := by
  obtain ⟨hqueue, hcounts⟩ := Driver.step_queueStep hmultipan (Driver.step_of_radioStep hstep)
  have hbegins := Driver.step_beginsFrom h.tx hmultipan (Driver.step_of_radioStep hstep)
  exact {
    tx := radioStep_txConsistent h.tx hcontract hstep
    instances := h.instances_step hqueue hone
    requests := h.requests_step hqueue
    notBegun := h.notBegun_step hqueue hbegins
    accepted := h.accepted_step hqueue
    numbers := h.numbers_step hqueue hcounts hbegins
    overflows := (Driver.step_overflows (Driver.step_of_radioStep hstep) fun _ hrequester hiid ↦
      h.hasRoom hmultipan hone hrequester hiid).trans h.overflows }

end OneWaits

theorem efr32RadioInit_oneWaits (config : Config) : OneWaits config (efr32RadioInit config) where
  tx := efr32RadioInit_txConsistent config
  instances := List.nodup_nil
  requests := List.nodup_nil
  notBegun := nofun
  accepted := nofun
  numbers := nofun
  overflows := rfl

/-- **No overflow.**  In every run of a multipan build in which each instance makes one request at a
time, and writes into its transmit buffer only while no frame of it is on the way, the assertion on
an overflow of the queue never fails, and at most one request of each instance waits. -/
theorem noOverflow_throughout (config : Config) (hmultipan : config.multipan = true)
    (labels : List RadioEvent)
    (hcontract : Along (radioStep config) (fun radio event ↦
      TxContract config radio event ∧ OneAtATime radio event) (efr32RadioInit config) labels) :
    Throughout (radioStep config) (fun radio ↦
      radio.pendingOverflows = 0 ∧ (radio.waiting.map Request.iid).Nodup)
      (efr32RadioInit config) labels := by
  have hinv : Throughout (radioStep config) (OneWaits config) (efr32RadioInit config) labels :=
    hcontract.throughout (fun _ _ _ h hcontract hstep ↦
      h.step hmultipan hcontract.1 hcontract.2 hstep) (efr32RadioInit_oneWaits config)
  exact hinv.mono fun radio h ↦ ⟨h.overflows, h.instances⟩

/-- Both hosts ask while the radio is busy, and the first asks again when its frame was reported. -/
def patientHostsRun : List RadioEvent :=
  [.writeFrame 1 { mPsdu := [0x41, 0x88, 1], mChannel := 11 }, .receive 11 {}, .getRssi {},
    .endRssiWait true, .transmit 1 {} false, .energyScan 2 20 0 {},
    .railEvents { tx := { txPacketSent := true } }] ++ List.replicate 3 (.process {} false) ++
  [.transmit 1 {} false, .railEvents { tx := { txChannelBusy := true } }] ++
    List.replicate 5 (.process {} false)

theorem noOverflow_throughout_patientHostsRun :
    ((exec (radioStep .twoHosts) (efr32RadioInit .twoHosts) patientHostsRun).map fun radio ↦
      (radio.waiting, radio.reported)) =
        some ([⟨.energyScan, 2, 0⟩], [⟨.transmit, 1, 0⟩, ⟨.transmit, 1, 1⟩]) ∧
    Throughout (radioStep .twoHosts) (fun radio ↦
      radio.pendingOverflows = 0 ∧ (radio.waiting.map Request.iid).Nodup)
      (efr32RadioInit .twoHosts) patientHostsRun :=
  ⟨by decide, noOverflow_throughout .twoHosts rfl patientHostsRun (by decide)⟩

end OtEfr32.Radio
