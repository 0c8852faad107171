import OtEfr32.Radio.RequestPlaces

/-!
# Conservation of requests

In a multipan build a request of the stack is executed at once or waits in `sPendingCommandQueue`
while the radio is busy.  The law: an accepted request is in exactly one place, up to its report to
the instance that made it.  The driver keeps the law in exactly those runs in which no request finds
the queue full, every queued request passes the checks when it is executed at last, every rearming
of the dwell timer succeeds, and no scan that was accepted inside `otPlatRadioEnergyScanDone` is
being executed when that call returns.
-/

namespace OtEfr32.Radio

open Data Transition

namespace Driver

variable {config : Config} {radio next : Driver} {rail : RailResults} {request : Request}
  {command : PendingCommand} {rest : List PendingCommand}

namespace RequestsConsistent

/-! ## Queued requests -/

/-- The first command leaves the queue, and its execution begins. -/
theorem execute (h : RequestsConsistent config radio)
    (hqueue : radio.sPendingCommandQueue = command :: rest)
    (haccepted : next.accepted = radio.accepted) (hrest : next.sPendingCommandQueue = rest)
    (hbegun : ∀ request, next.tx.begun.count request + next.scan.begun.count request =
      radio.tx.begun.count request + radio.scan.begun.count request +
        [command.toRequest].count request)
    (hrequests : ∀ kind, radio.requestCount kind ≤ next.requestCount kind)
    (harmed : next.ArmedAccepted) (hcall : next.rssiCall = radio.rssiCall) :
    RequestsConsistent config next := by
  refine h.of_places [] [] (by rw [haccepted, List.append_nil])
    (fun request ↦ ?_) nofun nofun hrequests ?_ harmed hcall
  · rw [count_places, count_places, hbegun, Driver.waiting, Driver.waiting, hrest, hqueue]
    simp only [List.map_cons, List.count_cons, List.count_nil]
    omega
  · rw [Driver.waiting, Driver.waiting, hrest, hqueue, List.append_nil]
    exact fun request ↦ List.mem_cons_of_mem _

/-- The first command leaves the queue, and nothing else happens to it. -/
theorem not_conservationLaw_of_dequeued (h : RequestsConsistent config radio)
    (hqueue : radio.sPendingCommandQueue = command :: rest)
    (haccepted : next.accepted = radio.accepted) (hrest : next.sPendingCommandQueue = rest)
    (htx : next.tx.begun = radio.tx.begun) (hscan : next.scan.begun = radio.scan.begun) :
    ¬ next.ConservationLaw := by
  have hmem : command.toRequest ∈ radio.waiting := by
    rw [Driver.waiting, hqueue]
    exact List.mem_cons_self
  unfold ConservationLaw
  rw [haccepted]
  apply h.conserved.not_of_leave (h.waiting _ hmem)
  rw [count_places, count_places, htx, hscan, Driver.waiting, Driver.waiting, hrest, hqueue,
    List.map_cons, List.count_cons_self]
  omega

end RequestsConsistent

/-- The radio passes the checks for a queued command when it is executed at last. -/
def Executes (config : Config) (rail : RailResults) (radio : Driver) (command : PendingCommand) :
    Prop :=
  config.canAccessPal = true ∧
    match command.request with
    | .transmit txFrame _ =>
      config.hasBandConfig (radio.tx.sTransmitBuffer txFrame).frame.mChannel = true
    | .energyScan scanChannel _ _ => radio.scan.StartExecutes config rail scanChannel

instance (rail : RailResults) (radio : Driver) :
    ∀ command, Decidable (radio.Executes config rail command)
  | ⟨.transmit .., _⟩ => inferInstanceAs (Decidable (_ ∧ _ = true))
  | ⟨.energyScan scanChannel _ _, _⟩ =>
    inferInstanceAs (Decidable (_ ∧ radio.scan.StartExecutes config rail scanChannel))

namespace RequestsConsistent

theorem executeTransmit (h : RequestsConsistent config radio) (htx : TxConsistent config radio)
    (hmultipan : config.multipan = true) (hfree : radio.isRadioTransmittingOrScanning = false)
    {iid request : ℕ}
    (hqueue : radio.sPendingCommandQueue = ⟨.transmit (txBufIndex iid) request, iid⟩ :: rest)
    (hiid : config.isIid iid = true)
    (hexecutes : radio.Executes config rail ⟨.transmit (txBufIndex iid) request, iid⟩) :
    RequestsConsistent config (Driver.otPlatRadioTransmit
      { radio with sPendingCommandQueue := rest } config rail false iid (txBufIndex iid)
        request).2 := by
  obtain ⟨hpal, hband⟩ := hexecutes
  rw [otPlatRadioTransmit_free { radio with sPendingCommandQueue := rest } hmultipan
    hpal hfree]
  have hidle := Transmitter.acceptFrame_inPhase (idle_of_free htx hfree) hiid
  have hframe := radio.tx.acceptFrame_frame config iid (txBufIndex iid) (txBufIndex iid)
  have hvalid : config.hasBandConfig ((radio.tx.acceptFrame config iid
      (txBufIndex iid)).sTransmitBuffer (txBufIndex iid)).frame.mChannel = true := by
    rw [hframe]
    exact hband
  obtain ⟨tx, security, power, railChannel, transmissionStarts, hnow, hrequests, hbegun⟩ :=
    transmitNow_begun (Driver.mapTx { radio with sPendingCommandQueue := rest } fun tx ↦
      tx.acceptFrame config iid (txBufIndex iid)) rail hidle hiid (txBufIndex iid) hvalid request
  rw [hnow]
  have hkept : tx.requests = radio.tx.requests :=
    hrequests.trans (radio.tx.acceptFrame_requests config iid (txBufIndex iid))
  have hstarted : tx.begun = radio.tx.begun ++ [⟨.transmit, iid, request⟩] :=
    hbegun.trans (congrArg (· ++ _) (radio.tx.acceptFrame_begun config iid (txBufIndex iid)))
  refine h.execute hqueue rfl rfl (fun other ↦ ?_) ?_ (h.armed.mono rfl rfl rfl fun _ ↦ id) rfl
  · rw [hstarted, List.count_append]
    change _ + [_].count other + radio.scan.begun.count other = _ + _ + [_].count other
    exact Nat.add_right_comm ..
  · rintro (- | -)
    · exact hkept.ge
    · exact le_rfl

theorem executeEnergyScan (h : RequestsConsistent config radio)
    (hfree : radio.isRadioTransmittingOrScanning = false)
    {iid scanChannel scanDuration request : ℕ}
    (hqueue : radio.sPendingCommandQueue =
      ⟨.energyScan scanChannel scanDuration request, iid⟩ :: rest)
    (hexecutes : radio.Executes config rail ⟨.energyScan scanChannel scanDuration request, iid⟩) :
    RequestsConsistent config (Driver.otPlatRadioEnergyScan
      { radio with sPendingCommandQueue := rest } config rail iid request scanChannel
        scanDuration).2 := by
  obtain ⟨hpal, hexecutes⟩ := hexecutes
  have hidle := (isRadioTransmittingOrScanning_eq_false.mp hfree).1
  have hunarmed := h.unarmed (by rw [hidle]; nofun)
  have hmem : (⟨.energyScan, iid, request⟩ : Request) ∈ radio.accepted := by
    apply h.waiting _
    rw [Driver.waiting, hqueue]
    exact List.mem_cons_self
  obtain ⟨railChannel, hscan⟩ := otPlatRadioEnergyScan_free
    { radio with sPendingCommandQueue := rest } rail hpal hfree iid request scanChannel scanDuration
  have houtcome := EnergyScan.startRequest_outcome radio.scan config rail iid request
    scanChannel scanDuration hidle hunarmed
  have hbegun := houtcome.begun_eq hidle hunarmed
  have hscanning := houtcome.scanning_eq hidle
  rw [if_pos hexecutes] at hbegun hscanning
  rw [hscan]
  generalize radio.scan.startRequest config rail iid request scanChannel scanDuration = result
    at houtcome hbegun hscanning
  refine h.execute hqueue rfl rfl (fun other ↦ ?_) ?_ (fun harmed ↦ ?_) rfl
  · change _ + result.2.begun.count other = _
    rw [hbegun, List.count_append]
    exact (Nat.add_assoc ..).symm
  · rintro (- | -)
    · exact le_rfl
    · exact houtcome.requests.ge
  · exact ⟨houtcome.inProgress harmed, _, hmem, hscanning⟩

/-- A queued command that does not execute is lost. -/
theorem efr32RadioProcess_break (h : RequestsConsistent config radio)
    (hdue : radio.dueCommand config = some command)
    (hlost : ¬ radio.Executes config rail command) :
    ¬ (radio.efr32RadioProcess config rail false).ConservationLaw := by
  obtain ⟨_, hmultipan, hfree⟩ := guards_of_dueCommand hdue
  obtain ⟨request, iid⟩ := command
  cases request with
  | transmit txFrame request =>
    obtain ⟨rest, hqueue, heq⟩ := efr32RadioProcess_transmit hdue rfl rail false
    rw [heq]
    by_cases hpal : config.canAccessPal = true
    case neg =>
      simp only [otPlatRadioTransmit, Bool.of_not_eq_true hpal, ↓reduceIte]
      exact h.not_conservationLaw_of_dequeued hqueue rfl rfl rfl rfl
    case pos =>
      have hframe := radio.tx.acceptFrame_frame config iid txFrame txFrame
      have hinvalid : ¬ config.hasBandConfig ((radio.tx.acceptFrame config iid
          txFrame).sTransmitBuffer txFrame).frame.mChannel = true := by
        rw [hframe]
        exact fun hband ↦ hlost ⟨hpal, hband⟩
      simp only
      rw [otPlatRadioTransmit_free { radio with sPendingCommandQueue := rest } hmultipan
        hpal hfree, transmitNow]
      simp only
      rw [if_neg (by exact hinvalid)]
      exact h.not_conservationLaw_of_dequeued hqueue rfl rfl
        (radio.tx.acceptFrame_begun config iid txFrame) rfl
  | energyScan scanChannel scanDuration request =>
    obtain ⟨rest, hqueue, heq⟩ := efr32RadioProcess_energyScan hdue rfl rail false
    rw [heq]
    by_cases hpal : config.canAccessPal = true
    case neg =>
      simp only [otPlatRadioEnergyScan, Bool.of_not_eq_true hpal, ↓reduceIte]
      exact h.not_conservationLaw_of_dequeued hqueue rfl rfl rfl rfl
    case pos =>
      have hidle := (isRadioTransmittingOrScanning_eq_false.mp hfree).1
      have hunarmed := h.unarmed (by rw [hidle]; nofun)
      obtain ⟨railChannel, hscan⟩ := otPlatRadioEnergyScan_free
        { radio with sPendingCommandQueue := rest } rail hpal hfree iid request scanChannel
        scanDuration
      have houtcome := EnergyScan.startRequest_outcome radio.scan config rail iid request
        scanChannel scanDuration hidle hunarmed
      have hbegun := houtcome.begun_eq hidle hunarmed
      rw [if_neg fun hexecutes ↦ hlost ⟨hpal, hexecutes⟩, List.append_nil] at hbegun
      simp only [hscan]
      exact h.not_conservationLaw_of_dequeued hqueue rfl rfl rfl hbegun

/-! ## The dwell timer and the main loop -/

theorem efr32ScanTimerHandler (h : RequestsConsistent config radio)
    (harmed : radio.scan.timerArmed = true)
    (hrearm : radio.scan.sScanFrameCounter ≠ 0 → rail.setMultiTimer = true)
    (currentRSSIQuarterdBm : Option ℤ) :
    RequestsConsistent config
      (radio.mapScan fun scan ↦ scan.efr32ScanTimerHandler rail currentRSSIQuarterdBm) := by
  obtain ⟨hprogress, request, hrequest, hscanning⟩ := h.armed harmed
  have hmode := radio.scan.mode_of_scanning hscanning
  have hkept := EnergyScan.efr32ScanTimerHandler_scanning hmode harmed hrearm currentRSSIQuarterdBm
  by_cases hcounter : radio.scan.sScanFrameCounter = 0
  · obtain ⟨sEnergyReadsMax, hnext⟩ := EnergyScan.efr32ScanTimerHandler_complete rail
      hcounter currentRSSIQuarterdBm
    rw [hnext] at hkept
    simp only [mapScan, hnext]
    refine h.of_begun rfl rfl rfl (congrArg (_ ++ ·) hkept) ?_
      (fun harmed ↦ absurd harmed Bool.false_ne_true) rfl
    rintro (- | -) <;> exact le_rfl
  · obtain ⟨sEnergyReadsMax, hnext⟩ := EnergyScan.efr32ScanTimerHandler_dwell rail
      hcounter currentRSSIQuarterdBm
    rw [hnext] at hkept
    simp only [mapScan, hnext]
    refine h.of_begun rfl rfl rfl (congrArg (_ ++ ·) hkept) ?_ (fun _ ↦ ?_) rfl
    · rintro (- | -) <;> exact le_rfl
    · exact ⟨hprogress, request, hrequest, hkept.trans hscanning⟩

theorem report (h : RequestsConsistent config radio) (hreport : radio.scan.isReportable = true) :
    RequestsConsistent config (radio.mapScan EnergyScan.report) := by
  have hunarmed : radio.scan.timerArmed = false := by
    apply h.unarmed
    rw [EnergyScan.isReportable, Bool.and_eq_true, beq_iff_eq, beq_iff_eq] at hreport
    rw [hreport.2]
    decide
  refine h.of_begun rfl rfl rfl (EnergyScan.report_begun hreport hunarmed) ?_
    (fun harmed ↦ absurd harmed (ne_true_of_eq_false hunarmed)) rfl
  rintro (- | -) <;> exact le_rfl

/-- The interface of a scan that was not accepted may be cleared. -/
theorem clearActiveInterface (h : RequestsConsistent config radio)
    (hforeign : ∀ request ∈ radio.scan.scanning, request ∉ radio.accepted) :
    RequestsConsistent config (radio.mapScan EnergyScan.clearActiveInterface) := by
  have hunarmed : radio.scan.timerArmed ≠ true := by
    intro harmed
    obtain ⟨-, request, hrequest, hscanning⟩ := h.armed harmed
    exact hforeign request (hscanning ▸ List.mem_cons_self) hrequest
  have hcleared : ∀ request ∈ radio.scan.clearActiveInterface.scanning,
      request ∉ radio.accepted ∧ request.number < radio.requestCount request.kind := by
    intro request hrequest
    rw [EnergyScan.clearActiveInterface_scanning] at hrequest
    obtain ⟨other, hother, rfl⟩ := List.mem_map.mp hrequest
    constructor
    · intro haccepted
      exact Bool.false_ne_true (config.isIid_invalid.symm.trans (h.isIid _ haccepted))
    · refine h.numbers other (List.mem_append_right _ (List.mem_append_right _ ?_))
      exact List.mem_append_right _ (List.mem_append_right _ hother)
  exact {
    conserved := by
      intro request hrequest
      rw [← h.conserved request hrequest, count_places, count_places]
      change _ + (_ + (List.map _ _ ++ radio.scan.clearActiveInterface.scanning).count request) = _
      rw [EnergyScan.begun, List.count_append, List.count_append,
        List.count_eq_zero.mpr fun hmem ↦ hforeign request hmem hrequest,
        List.count_eq_zero.mpr fun hmem ↦ (hcleared request hmem).1 hrequest]
      rfl
    numbers := by
      intro request hrequest
      have hbefore : request ∈ radio.accepted ++ radio.places ∨
          request ∈ radio.scan.clearActiveInterface.scanning := by
        simp only [places, Driver.waiting, EnergyScan.begun, List.mem_append, mapScan] at hrequest ⊢
        tauto
      exact hbefore.elim (h.numbers request) fun hmem ↦ (hcleared request hmem).2
    waiting := h.waiting
    isIid := h.isIid
    armed := fun harmed ↦ absurd harmed hunarmed
    rssiCall := h.rssiCall }

/-- Clearing the interface of an accepted scan loses the scan. -/
theorem clearActiveInterface_break (h : RequestsConsistent config radio)
    (haccepted : ∃ request ∈ radio.scan.scanning, request ∈ radio.accepted) :
    ¬ (radio.mapScan EnergyScan.clearActiveInterface).ConservationLaw := by
  obtain ⟨request, hscanning, hrequest⟩ := haccepted
  have honly : radio.scan.scanning = [request] := by
    unfold EnergyScan.scanning at hscanning ⊢
    split at hscanning
    case isTrue hrunning =>
      obtain rfl := List.mem_singleton.mp hscanning
      exact if_pos hrunning
    case isFalse => contradiction
  have hgone : request ∉ radio.scan.clearActiveInterface.scanning := by
    rw [EnergyScan.clearActiveInterface_scanning, honly, List.map_singleton, List.mem_singleton]
    intro heq
    have hiid := h.isIid request hrequest
    rw [heq, config.isIid_invalid] at hiid
    contradiction
  apply h.conserved.not_of_leave hrequest
  rw [count_places, count_places]
  change _ + (_ + (List.map _ _ ++ radio.scan.scanning).count request) =
    _ + (_ + (List.map _ _ ++ radio.scan.clearActiveInterface.scanning).count request) + 1
  rw [List.count_append, List.count_append, honly, List.count_singleton_self,
    List.count_eq_zero.mpr hgone]
  rfl

end RequestsConsistent

end Driver

/-! ## The exact condition -/

/-- The steps that keep every accepted request in one place. -/
def ConservationCondition (config : Config) (radio : Driver) : RadioEvent → Prop
  | .transmit _ _ gpBuffers =>
    config.canAccessPal = true → gpBuffers = false → radio.isRadioTransmittingOrScanning = true →
      radio.HasRoom config
  | .energyScan .. =>
    config.canAccessPal = true → radio.isRadioTransmittingOrScanning = true → radio.HasRoom config
  | .scanTimer _ rail => radio.scan.sScanFrameCounter ≠ 0 → rail.setMultiTimer = true
  | .process rail _ =>
    (∀ command, radio.dueCommand config = some command → radio.Executes config rail command) ∧
      (radio.location = .energyScanReported →
        ∀ request ∈ radio.scan.scanning, request ∉ radio.accepted)
  | _ => True

instance (config : Config) : ∀ radio event, Decidable (ConservationCondition config radio event)
  | radio, .transmit .. => inferInstanceAs (Decidable (_ → _ → _ → radio.HasRoom config))
  | radio, .energyScan .. => inferInstanceAs (Decidable (_ → _ → radio.HasRoom config))
  | _, .scanTimer .. => inferInstanceAs (Decidable (_ → _ = true))
  | radio, .process rail _ =>
    inferInstanceAs (Decidable ((∀ command ∈ radio.dueCommand config,
      radio.Executes config rail command) ∧ (_ → ∀ request ∈ radio.scan.scanning, _)))
  | _, .writeFrame .. | _, .getRssi _ | _, .endRssiWait _ | _, .receive .. | _, .receiveAt ..
  | _, .sleep | _, .setChannelMaxTransmitPower .. | _, .setTransmitPower .. | _, .setPanId ..
  | _, .setPromiscuous _ | _, .setMacFrameCounterIfLarger .. | _, .setMacKey _ | _, .setMacKeyStep
  | _, .railEvents _ => .isTrue trivial

/-- The calls of the law: the stack does not read the RSSI, and a frame of the queue is not one of
Green Power. -/
def RadioEvent.isForRequests : RadioEvent → Bool
  | .getRssi _ => false
  | .process _ gpBuffers => !gpBuffers
  | _ => true

/-- What the stack respects. -/
def RequestContract (config : Config) (radio : Driver) (event : RadioEvent) : Prop :=
  TxContract config radio event ∧ event.isForRequests = true

instance (event : RadioEvent) : Decidable (RequestContract config radio event) :=
  inferInstanceAs (Decidable (_ ∧ _))

namespace Driver

variable {config : Config} {radio : Driver} {rail : RailResults}

theorem ProcessPart.requestsConsistent {next : Driver}
    (hpart : ProcessPart config rail false radio next) (h : RequestsConsistent config radio)
    (htx : TxConsistent config radio)
    (hcondition : ConservationCondition config radio (.process rail false)) :
    RequestsConsistent config next := by
  cases hpart with
  | txComplete =>
    obtain ⟨phase, hphase⟩ := htx.phase
    exact h.of_eq rfl rfl (Transmitter.processTxComplete_begun hphase)
      radio.tx.processTxComplete_requests.ge rfl rfl
  | scanReport hlocation hreportable =>
    exact (h.report hreportable).of_eq rfl rfl rfl le_rfl rfl rfl
  | scanReported hlocation =>
    exact (h.clearActiveInterface (hcondition.2 hlocation)).of_eq rfl rfl rfl le_rfl rfl rfl
  | @transmit iid txFrame request rest hdue hqueue =>
    obtain ⟨_, hmultipan, hfree⟩ := guards_of_dueCommand hdue
    obtain ⟨hiid, hframe⟩ := htx.pending _ (hqueue ▸ List.mem_cons_self)
    obtain rfl : txFrame = txBufIndex iid := hframe txFrame request rfl
    have hexecuted := h.executeTransmit htx hmultipan hfree hqueue hiid (hcondition.1 _ hdue)
    exact hexecuted.of_eq rfl rfl rfl le_rfl rfl rfl
  | energyScan hdue hqueue =>
    obtain ⟨_, _, hfree⟩ := guards_of_dueCommand hdue
    have hexecuted := h.executeEnergyScan hfree hqueue (hcondition.1 _ hdue)
    exact hexecuted.of_eq rfl rfl rfl le_rfl rfl rfl
  | _ => exact h.of_eq rfl rfl rfl le_rfl rfl rfl

theorem railCbGeneric_requestsConsistent (h : RequestsConsistent config radio)
    (htx : TxConsistent config radio) (aEvents : RailEvents) :
    RequestsConsistent config (radio.railCbGeneric config aEvents) := by
  obtain ⟨phase, hphase⟩ := htx.phase
  obtain ⟨after, hidle, hafter⟩ := railCbGeneric_inPhase hphase aEvents
  have hsame := railCbGeneric_sameRequest radio config aEvents
  have hbegun : (radio.railCbGeneric config aEvents).tx.begun = radio.tx.begun := by
    apply hsame.begun_eq
    rw [hafter.isBusy, hphase.isBusy, hidle]
  obtain ⟨tx, rx, security, heq⟩ := railCbGeneric_eq radio config aEvents
  rw [heq] at hbegun hsame ⊢
  exact h.of_eq rfl rfl hbegun hsame.requests.ge rfl rfl

theorem radioStep_requestsConsistent {event : RadioEvent} {next : Driver}
    (h : RequestsConsistent config radio) (htx : TxConsistent config radio)
    (hmultipan : config.multipan = true) (hcontract : RequestContract config radio event)
    (hcondition : ConservationCondition config radio event)
    (hstep : radioStep config radio event = some next) : RequestsConsistent config next := by
  cases step_of_radioStep hstep with
  | railEvents => exact railCbGeneric_requestsConsistent h htx _
  | scanTimer harmed => exact h.efr32ScanTimerHandler harmed hcondition _
  | endRssiWait hcall => exact absurd (h.rssiCall.symm.trans hcall) nofun
  | setMacKeyStep => exact h.of_eq rfl rfl rfl le_rfl rfl rfl
  | main hcall hmain =>
    cases hmain with
    | @writeFrame iid aFrame hiid =>
      have hsame : radio.tx.SameRequest (radio.tx.updateBuffer (txBufIndex iid) fun packet ↦
          { packet with frame := aFrame }) :=
        (Transmitter.SameRequest.refl radio.tx).updateBuffer (txBufIndex iid) fun _ ↦ rfl
      exact h.of_eq rfl rfl (hsame.begun_eq rfl) le_rfl rfl rfl
    | @transmit iid rail gpBuffers hiid => exact h.transmit htx hmultipan hiid gpBuffers hcondition
    | energyScan hiid => exact h.energyScan hmultipan hiid _ _ hcondition
    | getRssi => exact absurd hcontract.2 Bool.false_ne_true
    | receive =>
      unfold otPlatRadioReceive
      split_ifs
      · exact h
      · exact h
      · exact h
      · exact h.of_eq rfl rfl rfl le_rfl rfl rfl
      · exact h.of_eq rfl rfl (radio.tx.setFlag_begun false (by decide)) le_rfl rfl rfl
    | receiveAt =>
      unfold otPlatRadioReceiveAt
      split_ifs
      · exact h
      · exact h
      · exact h
      · refine h.of_eq rfl rfl ?_ le_rfl rfl rfl
        exact (Transmitter.setFlag_begun _ false (by decide)).trans
          (radio.tx.setFlag_begun true (by decide))
      · exact h.of_eq rfl rfl (radio.tx.setFlag_begun true (by decide)) le_rfl rfl rfl
    | sleep =>
      unfold otPlatRadioSleep
      split
      · exact h
      · exact h.of_eq rfl rfl (radio.tx.setFlag_begun false (by decide)) le_rfl rfl rfl
    | setChannelMaxTransmitPower | setTransmitPower | setPanId | setPromiscuous
      | setMacFrameCounterIfLarger | setMacKey => exact h.of_eq rfl rfl rfl le_rfl rfl rfl
    | refused => exact h
    | @process rail gpBuffers =>
      obtain rfl : gpBuffers = false := (Bool.not_eq_true' _).mp hcontract.2
      exact (radio.processPart config rail false).requestsConsistent h htx hcondition

/-! ## Steps that lose a request -/

/-- A request that is accepted, but finds the queue full, is lost. -/
theorem not_conservationLaw_of_full (h : RequestsConsistent config radio) (request : Request)
    {next : Driver} (hnumber : radio.requestCount request.kind ≤ request.number)
    (haccepted : next.accepted = radio.accepted ++ [request])
    (hqueue : next.sPendingCommandQueue = radio.sPendingCommandQueue)
    (htx : next.tx.begun = radio.tx.begun) (hscan : next.scan.begun = radio.scan.begun) :
    ¬ next.ConservationLaw := by
  have hplaces : next.places = radio.places := by
    rw [places, places, waiting, waiting, hqueue, htx, hscan]
  unfold ConservationLaw
  rw [haccepted, hplaces]
  exact Conserved.not_of_notMem (List.mem_append_right _ List.mem_cons_self) (h.fresh hnumber).2

theorem radioStep_breaks_conservationLaw {event : RadioEvent} {next : Driver}
    (h : RequestsConsistent config radio) (hmultipan : config.multipan = true)
    (hcontract : RequestContract config radio event)
    (hcondition : ¬ ConservationCondition config radio event)
    (hstep : radioStep config radio event = some next) : ¬ next.ConservationLaw := by
  cases step_of_radioStep hstep with
  | railEvents | setMacKeyStep | endRssiWait => exact absurd trivial hcondition
  | @scanTimer currentRSSIQuarterdBm rail harmed =>
    simp only [ConservationCondition, Classical.not_imp, Bool.not_eq_true] at hcondition
    obtain ⟨hcounter, hfails⟩ := hcondition
    obtain ⟨hprogress, request, hrequest, hscanning⟩ := h.armed harmed
    obtain ⟨sEnergyReadsMax, hnext⟩ := EnergyScan.efr32ScanTimerHandler_dwell rail
      hcounter currentRSSIQuarterdBm
    have hgone : (radio.scan.efr32ScanTimerHandler rail currentRSSIQuarterdBm).scanning = [] := by
      simp [hnext, EnergyScan.scanning, hfails, hprogress]
    apply h.conserved.not_of_leave hrequest
    rw [count_places, count_places]
    change _ + (_ + (List.map _ _ ++ radio.scan.scanning).count request) =
      _ + (_ + ((radio.scan.efr32ScanTimerHandler rail currentRSSIQuarterdBm).begun).count
        request) + 1
    rw [EnergyScan.begun, hgone, hscanning, hnext, List.count_append, List.count_singleton_self,
      List.append_nil]
    rfl
  | main hcall hmain =>
    cases hmain with
    | @transmit iid rail gpBuffers hiid =>
      simp only [ConservationCondition, Classical.not_imp] at hcondition
      obtain ⟨hpal, rfl, hbusy, hfull⟩ := hcondition
      rw [transmit_busy hmultipan hpal hbusy,
        pushPendingCommand_full (acceptTransmit config radio iid) hfull]
      exact not_conservationLaw_of_full h ⟨.transmit, iid, radio.tx.requests⟩ le_rfl rfl
        rfl (radio.tx.countRequest.acceptFrame_begun config iid (txBufIndex iid)) rfl
    | @energyScan iid aScanChannel aScanDuration rail hiid =>
      simp only [ConservationCondition, Classical.not_imp] at hcondition
      obtain ⟨hpal, hbusy, hfull⟩ := hcondition
      rw [energyScan_busy hmultipan hpal hbusy,
        pushPendingCommand_full (radio.mapScan EnergyScan.countRequest) hfull]
      exact not_conservationLaw_of_full h ⟨.energyScan, iid, radio.scan.requests⟩
        le_rfl rfl rfl rfl rfl
    | @process rail gpBuffers =>
      obtain rfl : gpBuffers = false := (Bool.not_eq_true' _).mp hcontract.2
      rw [ConservationCondition, not_and_or] at hcondition
      rcases hcondition with hlost | hcleared
      · simp only [not_forall] at hlost
        obtain ⟨command, hdue, hlost⟩ := hlost
        exact h.efr32RadioProcess_break hdue hlost
      · simp only [not_forall, not_not] at hcleared
        obtain ⟨hlocation, request, hscanning, hrequest⟩ := hcleared
        unfold efr32RadioProcess
        rw [hlocation]
        exact h.clearActiveInterface_break ⟨request, hscanning, hrequest⟩
    | refused hpal hsetting =>
      cases event <;> first | exact absurd trivial hcondition | contradiction
    | _ => exact absurd trivial hcondition

theorem efr32RadioInit_requestsConsistent (config : Config) :
    RequestsConsistent config (efr32RadioInit config) where
  conserved := nofun
  numbers := nofun
  waiting := nofun
  isIid := nofun
  armed := nofun
  rssiCall := rfl

end Driver

/-! ## Runs -/

/-- In a multipan build every accepted request is in exactly one place in every state of a run
exactly when every step of the run meets the condition. -/
theorem conservationLaw_iff (config : Config) (hmultipan : config.multipan = true)
    (labels : List RadioEvent) (final : Driver)
    (hcontract : Along (radioStep config) (RequestContract config) (efr32RadioInit config) labels)
    (hrun : exec (radioStep config) (efr32RadioInit config) labels = some final) :
    Throughout (radioStep config) Driver.ConservationLaw (efr32RadioInit config) labels ↔
      Along (radioStep config) (ConservationCondition config) (efr32RadioInit config) labels :=
  throughout_iff_along_of
    (fun radio (h : Driver.RequestsConsistent config radio ∧ TxConsistent config radio) ↦
      h.1.conserved)
    (fun _ _ _ h hcontract hcondition hstep ↦
      ⟨Driver.radioStep_requestsConsistent h.1 h.2 hmultipan hcontract hcondition hstep,
        radioStep_txConsistent h.2 hcontract.1 hstep⟩)
    (fun _ _ _ h hcontract hcondition hstep ↦
      Driver.radioStep_breaks_conservationLaw h.1 hmultipan hcontract hcondition hstep)
    ⟨Driver.efr32RadioInit_requestsConsistent config, efr32RadioInit_txConsistent config⟩
    hcontract hrun

/-- Host 1 sends a frame, and meanwhile host 2 asks for a transmission and a scan. -/
def twoHostsRun : List RadioEvent :=
  [.writeFrame 1 { mPsdu := [0x41, 0x88, 1], mChannel := 11 }, .transmit 1 {} false,
    .writeFrame 2 { mPsdu := [0x41, 0x88, 2], mChannel := 15 }, .transmit 2 {} false,
    .energyScan 2 20 0 {}, .railEvents { tx := { txPacketSent := true } }] ++
  List.replicate 5 (.process {} false) ++
  [.railEvents { tx := { txChannelBusy := true } }] ++ List.replicate 5 (.process {} false) ++
  [.scanTimer (some (-360)) {}] ++ List.replicate 5 (.process {} false)

theorem conservationLaw_iff_twoHostsRun :
    ((exec (radioStep .twoHosts) (efr32RadioInit .twoHosts) twoHostsRun).map fun radio ↦
      (radio.accepted, radio.tx.begun, radio.scan.begun, radio.waiting)) =
        some ([⟨.transmit, 1, 0⟩, ⟨.transmit, 2, 1⟩, ⟨.energyScan, 2, 0⟩],
          [⟨.transmit, 1, 0⟩, ⟨.transmit, 2, 1⟩], [⟨.energyScan, 2, 0⟩], []) ∧
    Throughout (radioStep .twoHosts) Driver.ConservationLaw (efr32RadioInit .twoHosts)
      twoHostsRun :=
  ⟨by decide, (conservationLaw_iff .twoHosts rfl twoHostsRun _ (by decide)
    (Option.some_get (by decide)).symm).mpr (by decide)⟩

/-- Host 2 asks for a transmission on channel 27 while host 1 is sending: the call returns
`OT_ERROR_NONE`, and the frame is neither sent nor reported. -/
def invalidChannelRun : List RadioEvent :=
  [.writeFrame 1 { mPsdu := [0x41, 0x88, 1], mChannel := 11 }, .transmit 1 {} false,
    .writeFrame 2 { mPsdu := [0x41, 0x88, 2], mChannel := 27 }, .transmit 2 {} false,
    .railEvents { tx := { txPacketSent := true } }] ++ List.replicate 5 (.process {} false)

theorem not_conservationLaw_invalidChannelRun :
    ¬ ∀ config labels, config.multipan = true →
      Along (radioStep config) (RequestContract config) (efr32RadioInit config) labels →
        Throughout (radioStep config) Driver.ConservationLaw (efr32RadioInit config) labels := by
  intro h
  have hlaw := h .twoHosts invalidChannelRun rfl (by decide)
  revert hlaw
  decide

end OtEfr32.Radio
