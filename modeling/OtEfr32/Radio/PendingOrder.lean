import OtEfr32.Radio.RequestPlaces

/-!
# The order of requests

In a multipan build the requests that find the radio busy wait in `sPendingCommandQueue`, but a
request that finds it free is executed at once, even while others wait.  This file says what a step
does to the queue, and in which runs requests keep their order: those in which no request is
executed at once, or lost, while another waits.
-/

namespace OtEfr32.Radio

open Transition

variable {config : Config} {radio next : Driver} {rail : RailResults} {event : RadioEvent}

/-! ## Numbers of requests -/

namespace Driver

/-- The requests of both kinds are numbered on. -/
def CountsUp (radio next : Driver) : Prop :=
  ∀ kind, radio.requestCount kind ≤ next.requestCount kind

theorem CountsUp.refl (radio : Driver) : radio.CountsUp radio := fun _ ↦ le_rfl

theorem CountsUp.of_eq (htx : next.tx.requests = radio.tx.requests)
    (hscan : next.scan.requests = radio.scan.requests) : radio.CountsUp next := by
  intro kind
  cases kind with
  | transmit => exact htx.ge
  | energyScan => exact hscan.ge

theorem transmitNow_requests (radio : Driver) (config : Config) (rail : RailResults)
    (iid aFrame request : ℕ) :
    (radio.transmitNow config rail iid aFrame request).2.tx.requests = radio.tx.requests := by
  unfold transmitNow
  simp only
  split
  · have hsame := Transmitter.startTransmission_sameRequest (radio.tx.makeCurrent iid request)
      (radio.security.radioProcessTransmitSecurity config
        (radio.tx.makeCurrent iid request).currentPacket.frame.isAck
        (radio.tx.makeCurrent iid request).currentPacket.frame.mSecurity iid).2.1 rail
    have hcurrent := (radio.tx.makeCurrent_eq iid request).1
    unfold recordStart
    split <;> exact hsame.requests.trans hcurrent
  · rfl

end Driver

namespace EnergyScan

variable {scan : EnergyScan} {aScanChannel aScanDuration iid request : ℕ}

theorem efr32StartEnergyScan_requests (scan : EnergyScan) (config : Config) (rail : RailResults)
    (aMode : EnergyScanMode) (aChannel aAveragingTimeUs : ℕ) :
    (scan.efr32StartEnergyScan config rail aMode aChannel aAveragingTimeUs).2.requests =
      scan.requests := by
  unfold efr32StartEnergyScan efr32ScanDwell
  split_ifs
  case neg => cases rail.setMultiTimer <;> rfl
  all_goals rfl

theorem startRequest_requests (scan : EnergyScan) (config : Config) (rail : RailResults)
    (iid request aScanChannel aScanDuration : ℕ) :
    (scan.startRequest config rail iid request aScanChannel aScanDuration).2.requests =
      scan.requests := by
  have hstart := (scan.claim iid request).efr32StartEnergyScan_requests config rail .async
    aScanChannel (aScanDuration * 1000)
  unfold startRequest
  simp only
  split <;> exact hstart

theorem efr32ScanTimerHandler_requests (scan : EnergyScan) (rail : RailResults)
    (currentRSSIQuarterdBm : Option ℤ) :
    (scan.efr32ScanTimerHandler rail currentRSSIQuarterdBm).requests = scan.requests := by
  by_cases hcounter : scan.sScanFrameCounter = 0
  · obtain ⟨_, hnext⟩ := efr32ScanTimerHandler_complete rail hcounter currentRSSIQuarterdBm
    rw [hnext]
  · obtain ⟨_, hnext⟩ := efr32ScanTimerHandler_dwell rail hcounter currentRSSIQuarterdBm
    rw [hnext]

/-- A request is started exactly if it passes every check. -/
theorem startRequest_eq_none_iff :
    (scan.startRequest config rail iid request aScanChannel aScanDuration).1 = .none ↔
      scan.StartsCleanly config rail aScanChannel ∧ scan.sScanFrameCounter = 0 := by
  constructor
  · intro hnone
    have hstarted : ((scan.claim iid request).efr32StartEnergyScan config rail .async aScanChannel
        (aScanDuration * 1000)).1 = .none := by
      by_contra hfails
      simp only [startRequest, if_neg hfails] at hnone
      exact hfails hnone
    unfold efr32StartEnergyScan efr32ScanDwell at hstarted
    split_ifs at hstarted with hbusy hband hcounter hoptions hrx
    have htimer : rail.setMultiTimer = true := by
      refine Bool.of_not_eq_false fun htimer ↦ ?_
      rw [htimer] at hstarted
      contradiction
    exact ⟨⟨not_not.mp hbusy, Bool.of_not_eq_false hband, Bool.of_not_eq_false hoptions,
      Bool.of_not_eq_false hrx, htimer⟩, not_not.mp hcounter⟩
  · rintro ⟨hclean, hcounter⟩
    rw [startRequest_clean hclean hcounter]

end EnergyScan

namespace Driver

theorem CountsUp.trans {last : Driver} (h : radio.CountsUp next) (h' : next.CountsUp last) :
    radio.CountsUp last := fun kind ↦ (h kind).trans (h' kind)

theorem otPlatRadioTransmit_countsUp (radio : Driver) (config : Config) (rail : RailResults)
    (gpBuffers : Bool) (iid aFrame request : ℕ) :
    radio.CountsUp (radio.otPlatRadioTransmit config rail gpBuffers iid aFrame request).2 := by
  have haccepted := radio.tx.acceptFrame_requests config iid aFrame
  unfold otPlatRadioTransmit
  split
  · exact .refl radio
  split
  · exact .refl radio
  simp only
  split
  · obtain ⟨sPendingCommandQueue, pendingOverflows, hpush⟩ := pushPendingCommand_eq
      (radio.mapTx fun tx ↦ tx.acceptFrame config iid aFrame) config (.transmit aFrame request) iid
    rw [hpush]
    exact .of_eq haccepted rfl
  · have hrequests := transmitNow_requests (radio.mapTx fun tx ↦ tx.acceptFrame config iid aFrame)
      config rail iid aFrame request
    obtain ⟨tx, security, power, railChannel, transmissionStarts, hnow⟩ := transmitNow_eq
      (radio.mapTx fun tx ↦ tx.acceptFrame config iid aFrame) config rail iid aFrame request
    rw [hnow] at hrequests ⊢
    exact .of_eq (hrequests.trans haccepted) rfl

theorem otPlatRadioEnergyScan_countsUp (radio : Driver) (config : Config) (rail : RailResults)
    (iid request aScanChannel aScanDuration : ℕ) :
    radio.CountsUp
      (radio.otPlatRadioEnergyScan config rail iid request aScanChannel aScanDuration).2 := by
  have hstart := radio.scan.startRequest_requests config rail iid request aScanChannel
    aScanDuration
  unfold otPlatRadioEnergyScan
  split
  · exact .of_eq rfl rfl
  split
  · obtain ⟨sPendingCommandQueue, pendingOverflows, hpush⟩ := radio.pushPendingCommand_eq config
      (.energyScan aScanChannel aScanDuration request) iid
    rw [hpush]
    exact .of_eq rfl rfl
  · simp only
    split <;> exact .of_eq rfl hstart

end Driver

/-! ## What a step does to the queue -/

/-- The event is a request that is accepted and does not join the queue: it finds the radio free
and passes the checks, or it finds the queue full. -/
def SkipsQueue (config : Config) (radio : Driver) : RadioEvent → Prop
  | .transmit iid _ gpBuffers =>
    config.canAccessPal = true ∧ gpBuffers = false ∧
      if radio.isRadioTransmittingOrScanning then ¬ radio.HasRoom config
      else config.hasBandConfig (radio.tx.sTransmitBuffer (txBufIndex iid)).frame.mChannel = true
  | .energyScan _ aScanChannel _ rail =>
    config.canAccessPal = true ∧
      if radio.isRadioTransmittingOrScanning then ¬ radio.HasRoom config
      else radio.scan.StartsCleanly config rail aScanChannel ∧ radio.scan.sScanFrameCounter = 0
  | _ => False

instance : ∀ radio event, Decidable (SkipsQueue config radio event)
  | radio, .transmit .. =>
    inferInstanceAs (Decidable (_ ∧ _ ∧ if radio.isRadioTransmittingOrScanning = true then
      ¬ radio.HasRoom config else _ = _))
  | radio, .energyScan .. =>
    inferInstanceAs (Decidable (_ ∧ if radio.isRadioTransmittingOrScanning = true then
      ¬ radio.HasRoom config else EnergyScan.StartsCleanly config _ _ _ ∧ _ = _))
  | _, .writeFrame .. | _, .getRssi _ | _, .endRssiWait _ | _, .receive .. | _, .receiveAt ..
  | _, .sleep | _, .setChannelMaxTransmitPower .. | _, .setTransmitPower .. | _, .setPanId ..
  | _, .setPromiscuous _ | _, .setMacFrameCounterIfLarger .. | _, .setMacKey _ | _, .setMacKeyStep
  | _, .scanTimer .. | _, .railEvents _ | _, .process .. => .isFalse id

/-- The instance that makes a request. -/
def RadioEvent.requester : RadioEvent → Option ℕ
  | .transmit iid _ _ | .energyScan iid _ _ _ => some iid
  | _ => none

/-- What a step does to the accepted requests and to those that wait. -/
inductive QueueStep (config : Config) (radio : Driver) (event : RadioEvent) (next : Driver) : Prop
  | keep (hjoins : ¬ SkipsQueue config radio event) (haccepted : next.accepted = radio.accepted)
      (hwaiting : next.waiting = radio.waiting)
  | skip (request : Request) (hskips : SkipsQueue config radio event)
      (hnumber : request.number = radio.requestCount request.kind)
      (haccepted : next.accepted = radio.accepted ++ [request])
      (hwaiting : next.waiting = radio.waiting)
  | defer (request : Request) (hjoins : ¬ SkipsQueue config radio event)
      (hrequester : event.requester = some request.iid)
      (hnumber : request.number = radio.requestCount request.kind)
      (hcounted : radio.requestCount request.kind < next.requestCount request.kind)
      (haccepted : next.accepted = radio.accepted ++ [request])
      (hwaiting : next.waiting = radio.waiting ++ [request])
  | dequeue {request : Request} (hjoins : ¬ SkipsQueue config radio event)
      (haccepted : next.accepted = radio.accepted)
      (hwaiting : radio.waiting = request :: next.waiting)

namespace Driver

theorem acceptTransmit_requests (radio : Driver) (config : Config) (iid : ℕ) :
    (acceptTransmit config radio iid).tx.requests = radio.tx.requests + 1 :=
  radio.tx.countRequest.acceptFrame_requests config iid (txBufIndex iid)

theorem waiting_append {queue : List PendingCommand} {request : PendingRequest} {iid : ℕ}
    (hiid : config.isIid iid = true) :
    (queue ++ [(⟨request, iid % 4⟩ : PendingCommand)]).map PendingCommand.toRequest =
      queue.map PendingCommand.toRequest ++ [⟨request.kind, iid, request.number⟩] := by
  rw [TxConsistent.mod_iid config hiid, List.map_append]
  rfl

theorem queueStep_transmit_busy (hmultipan : config.multipan = true) {iid : ℕ}
    (hiid : config.isIid iid = true) (hpal : config.canAccessPal = true)
    (hbusy : radio.isRadioTransmittingOrScanning = true) :
    QueueStep config radio (.transmit iid rail false) (radio.transmit config iid rail false) := by
  have hcounted := radio.acceptTransmit_requests config iid
  rw [transmit_busy hmultipan hpal hbusy]
  by_cases hroom : radio.HasRoom config
  · rw [pushPendingCommand_room _ (by exact hroom)]
    refine .defer ⟨.transmit, iid, radio.tx.requests⟩ ?_ rfl rfl ?_ rfl (waiting_append hiid)
    · exact fun h ↦ (if_pos hbusy).mp h.2.2 hroom
    · exact (Nat.lt_succ_self _).trans_eq hcounted.symm
  · rw [pushPendingCommand_full _ (by exact hroom)]
    exact .skip ⟨.transmit, iid, radio.tx.requests⟩
      ⟨hpal, rfl, (if_pos hbusy).mpr hroom⟩ rfl rfl rfl

theorem queueStep_transmit_free (hmultipan : config.multipan = true) (iid : ℕ)
    (hpal : config.canAccessPal = true) (hfree : radio.isRadioTransmittingOrScanning = false) :
    QueueStep config radio (.transmit iid rail false) (radio.transmit config iid rail false) := by
  have hframe := radio.tx.countRequest.acceptFrame_frame config iid (txBufIndex iid)
    (txBufIndex iid)
  have hskips : SkipsQueue config radio (.transmit iid rail false) ↔
      ((acceptTransmit config radio iid).transmitNow config rail iid (txBufIndex iid)
        radio.tx.requests).1 = .none := by
    have hnot := ne_true_of_eq_false hfree
    unfold transmitNow
    simp only [acceptTransmit, mapTx, hframe]
    split
    case isTrue hband => exact iff_of_true ⟨hpal, rfl, (if_neg hnot).mpr hband⟩ rfl
    case isFalse hband => exact iff_of_false (fun h ↦ hband ((if_neg hnot).mp h.2.2)) nofun
  obtain ⟨tx, security, power, railChannel, transmissionStarts, hnow⟩ :=
    transmitNow_eq (acceptTransmit config radio iid) config rail iid (txBufIndex iid)
      radio.tx.requests
  rw [transmit_free hmultipan hpal hfree]
  split
  case isTrue hnone =>
    rw [hnow]
    exact .skip ⟨.transmit, iid, radio.tx.requests⟩ (hskips.mpr hnone) rfl rfl rfl
  case isFalse hfails =>
    rw [hnow]
    exact .keep (fun h ↦ hfails (hskips.mp h)) rfl rfl

theorem queueStep_transmit (hmultipan : config.multipan = true) {iid : ℕ}
    (hiid : config.isIid iid = true) (gpBuffers : Bool) :
    QueueStep config radio (.transmit iid rail gpBuffers)
      (radio.transmit config iid rail gpBuffers) := by
  cases hpal : config.canAccessPal with
  | false =>
    refine .keep (fun h ↦ absurd (hpal.symm.trans h.1) Bool.false_ne_true) ?_ ?_ <;>
    · unfold transmit otPlatRadioTransmit
      simp only [hpal, ↓reduceIte]
      rfl
  | true =>
    cases gpBuffers with
    | true =>
      refine .keep (fun h ↦ absurd h.2.1.symm Bool.false_ne_true) ?_ ?_ <;>
      · unfold transmit otPlatRadioTransmit
        simp only [hpal, hmultipan, Bool.and_true, Bool.true_eq_false, ↓reduceIte, and_false]
        rfl
    | false =>
      cases hbusy : radio.isRadioTransmittingOrScanning with
      | true => exact queueStep_transmit_busy hmultipan hiid hpal hbusy
      | false => exact queueStep_transmit_free hmultipan iid hpal hbusy

variable {aScanChannel aScanDuration : ℕ}

theorem queueStep_energyScan_busy (hmultipan : config.multipan = true) {iid : ℕ}
    (hiid : config.isIid iid = true) (hpal : config.canAccessPal = true)
    (hbusy : radio.isRadioTransmittingOrScanning = true) :
    QueueStep config radio (.energyScan iid aScanChannel aScanDuration rail)
      (radio.energyScan config iid aScanChannel aScanDuration rail) := by
  rw [energyScan_busy hmultipan hpal hbusy]
  by_cases hroom : radio.HasRoom config
  · rw [pushPendingCommand_room _ (by exact hroom)]
    refine .defer ⟨.energyScan, iid, radio.scan.requests⟩ ?_ rfl rfl (Nat.lt_succ_self _) rfl
      (waiting_append hiid)
    exact fun h ↦ (if_pos hbusy).mp h.2 hroom
  · rw [pushPendingCommand_full _ (by exact hroom)]
    exact .skip ⟨.energyScan, iid, radio.scan.requests⟩ ⟨hpal, (if_pos hbusy).mpr hroom⟩ rfl rfl rfl

theorem queueStep_energyScan_free (iid : ℕ) (hpal : config.canAccessPal = true)
    (hfree : radio.isRadioTransmittingOrScanning = false) :
    QueueStep config radio (.energyScan iid aScanChannel aScanDuration rail)
      (radio.energyScan config iid aScanChannel aScanDuration rail) := by
  have hskips : SkipsQueue config radio (.energyScan iid aScanChannel aScanDuration rail) ↔
      (radio.scan.countRequest.startRequest config rail iid radio.scan.requests aScanChannel
        aScanDuration).1 = .none := by
    have hnot := ne_true_of_eq_false hfree
    rw [EnergyScan.startRequest_eq_none_iff]
    exact ⟨fun h ↦ (if_neg hnot).mp h.2, fun h ↦ ⟨hpal, (if_neg hnot).mpr h⟩⟩
  obtain ⟨railChannel, hscan⟩ := otPlatRadioEnergyScan_free
    (radio.mapScan EnergyScan.countRequest) rail hpal hfree iid radio.scan.requests aScanChannel
    aScanDuration
  unfold energyScan
  simp only [hscan]
  split
  case isTrue hnone =>
    exact .skip ⟨.energyScan, iid, radio.scan.requests⟩ (hskips.mpr hnone) rfl rfl rfl
  case isFalse hfails => exact .keep (fun h ↦ hfails (hskips.mp h)) rfl rfl

theorem queueStep_energyScan (hmultipan : config.multipan = true) {iid : ℕ}
    (hiid : config.isIid iid = true) :
    QueueStep config radio (.energyScan iid aScanChannel aScanDuration rail)
      (radio.energyScan config iid aScanChannel aScanDuration rail) := by
  cases hpal : config.canAccessPal with
  | false =>
    refine .keep (fun h ↦ absurd (hpal.symm.trans h.1) Bool.false_ne_true) ?_ ?_ <;>
    · unfold energyScan otPlatRadioEnergyScan
      simp only [hpal, ↓reduceIte]
      rfl
  | true =>
    cases hbusy : radio.isRadioTransmittingOrScanning with
    | true => exact queueStep_energyScan_busy hmultipan hiid hpal hbusy
    | false => exact queueStep_energyScan_free iid hpal hbusy

/-- The command that is due leaves the queue, whether its execution succeeds or not. -/
theorem ProcessPart.queueStep {gpBuffers : Bool}
    (hpart : ProcessPart config rail gpBuffers radio next) :
    QueueStep config radio (.process rail gpBuffers) next := by
  cases hpart with
  | @transmit iid txFrame request rest hdue hqueue =>
    obtain ⟨_, hmultipan, hfree⟩ := guards_of_dueCommand hdue
    have hwaiting : radio.waiting =
        PendingCommand.toRequest ⟨.transmit txFrame request, iid⟩ ::
          rest.map PendingCommand.toRequest := by
      rw [waiting, hqueue]
      rfl
    have hbusy : (config.multipan && isRadioTransmittingOrScanning
        (mapTx { radio with sPendingCommandQueue := rest } fun tx ↦
          tx.acceptFrame config iid txFrame)) = false := by
      rw [hmultipan, acceptFrame_isBusy]
      exact hfree
    unfold otPlatRadioTransmit
    split
    · exact .dequeue id rfl hwaiting
    split
    · exact .dequeue id rfl hwaiting
    simp only
    rw [hbusy, if_neg Bool.false_ne_true]
    obtain ⟨tx, security, power, railChannel, transmissionStarts, hnow⟩ :=
      transmitNow_eq (mapTx { radio with sPendingCommandQueue := rest } fun tx ↦
        tx.acceptFrame config iid txFrame) config rail iid txFrame request
    rw [hnow]
    exact .dequeue id rfl hwaiting
  | @energyScan iid scanChannel scanDuration request rest hdue hqueue =>
    obtain ⟨_, hmultipan, hfree⟩ := guards_of_dueCommand hdue
    have hwaiting : radio.waiting =
        PendingCommand.toRequest ⟨.energyScan scanChannel scanDuration request, iid⟩ ::
          rest.map PendingCommand.toRequest := by
      rw [waiting, hqueue]
      rfl
    cases hpal : config.canAccessPal with
    | false =>
      unfold otPlatRadioEnergyScan
      simp only [hpal, ↓reduceIte]
      exact .dequeue id rfl hwaiting
    | true =>
      obtain ⟨railChannel, hscan⟩ := otPlatRadioEnergyScan_free
        { radio with sPendingCommandQueue := rest } rail hpal hfree iid request scanChannel
        scanDuration
      rw [hscan]
      exact .dequeue id rfl hwaiting
  | _ => exact .keep id rfl rfl

theorem ProcessPart.countsUp {gpBuffers : Bool}
    (hpart : ProcessPart config rail gpBuffers radio next) : radio.CountsUp next := by
  cases hpart with
  | txComplete => exact .of_eq radio.tx.processTxComplete_requests rfl
  | @transmit iid txFrame request rest =>
    exact otPlatRadioTransmit_countsUp { radio with sPendingCommandQueue := rest } config rail
      gpBuffers iid txFrame request
  | @energyScan iid scanChannel scanDuration request rest =>
    exact otPlatRadioEnergyScan_countsUp { radio with sPendingCommandQueue := rest } config rail
      iid request scanChannel scanDuration
  | _ => exact .of_eq rfl rfl

theorem otPlatRadioGetRssi_queueStep (radio : Driver) (config : Config) (rail : RailResults) :
    QueueStep config radio (.getRssi rail) (radio.otPlatRadioGetRssi config rail) ∧
      radio.CountsUp (radio.otPlatRadioGetRssi config rail) := by
  have hstart := radio.scan.efr32StartEnergyScan_requests config rail .sync
    radio.rx.sReceiveChannel config.rssiAveragingTime
  unfold otPlatRadioGetRssi
  simp only
  split_ifs <;> exact ⟨.keep id rfl rfl, .of_eq rfl (by first | exact hstart | rfl)⟩

theorem step_queueStep (hmultipan : config.multipan = true)
    (hstep : Step config radio event next) :
    QueueStep config radio event next ∧ radio.CountsUp next := by
  cases hstep with
  | @railEvents aEvents =>
    have hrequests := (railCbGeneric_sameRequest radio config aEvents).requests
    obtain ⟨tx, rx, security, heq⟩ := railCbGeneric_eq radio config aEvents
    rw [heq] at hrequests ⊢
    exact ⟨.keep id rfl rfl, .of_eq hrequests rfl⟩
  | @scanTimer currentRSSIQuarterdBm rail =>
    exact ⟨.keep id rfl rfl,
      .of_eq rfl (radio.scan.efr32ScanTimerHandler_requests rail currentRSSIQuarterdBm)⟩
  | endRssiWait | setMacKeyStep => exact ⟨.keep id rfl rfl, .of_eq rfl rfl⟩
  | main hcall hmain =>
    cases hmain with
    | @transmit iid rail gpBuffers hiid =>
      obtain ⟨accepted, heq⟩ := radio.transmit_eq config iid rail gpBuffers
      have hcounts := otPlatRadioTransmit_countsUp (radio.mapTx Transmitter.countRequest) config
        rail gpBuffers iid (txBufIndex iid) radio.tx.requests
      have hcounted : radio.CountsUp (radio.mapTx Transmitter.countRequest) := by
        rintro (- | -)
        · exact Nat.le_succ _
        · exact le_rfl
      refine ⟨queueStep_transmit hmultipan hiid gpBuffers, ?_⟩
      rw [heq]
      exact hcounted.trans hcounts
    | @energyScan iid aScanChannel aScanDuration rail hiid =>
      obtain ⟨accepted, heq⟩ := radio.energyScan_eq config iid aScanChannel aScanDuration rail
      have hcounts := otPlatRadioEnergyScan_countsUp (radio.mapScan EnergyScan.countRequest) config
        rail iid radio.scan.requests aScanChannel aScanDuration
      have hcounted : radio.CountsUp (radio.mapScan EnergyScan.countRequest) :=
        RequestsConsistent.requestCount_countRequest radio
      refine ⟨queueStep_energyScan hmultipan hiid, ?_⟩
      rw [heq]
      exact hcounted.trans hcounts
    | getRssi => exact radio.otPlatRadioGetRssi_queueStep config _
    | receive =>
      unfold otPlatRadioReceive
      simp only
      split_ifs <;> exact ⟨.keep id rfl rfl, .of_eq rfl rfl⟩
    | receiveAt =>
      unfold otPlatRadioReceiveAt
      simp only
      split_ifs <;> exact ⟨.keep id rfl rfl, .of_eq rfl rfl⟩
    | sleep =>
      unfold otPlatRadioSleep
      split <;> exact ⟨.keep id rfl rfl, .of_eq rfl rfl⟩
    | @process rail gpBuffers =>
      have hpart := radio.processPart config rail gpBuffers
      exact ⟨hpart.queueStep, hpart.countsUp⟩
    | refused hpal hsetting =>
      refine ⟨.keep ?_ rfl rfl, .refl radio⟩
      cases event <;> first | exact id | contradiction
    | _ => exact ⟨.keep id rfl rfl, .of_eq rfl rfl⟩

/-! ## The order -/

/-- The requests that wait are the last ones that were accepted, in the order in which they were
accepted: no request has overtaken another. -/
def InOrder (radio : Driver) : Prop := radio.waiting <:+ radio.accepted

instance : DecidablePred InOrder := fun radio ↦
  inferInstanceAs (Decidable (radio.waiting <:+ radio.accepted))

/-- The numbers of the requests that wait have been given. -/
def IsNumbered (radio : Driver) : Prop :=
  ∀ request ∈ radio.waiting, request.number < radio.requestCount request.kind

end Driver

/-- A request of the stack that does not join the queue finds it empty. -/
def InTurn (config : Config) (radio : Driver) (event : RadioEvent) : Prop :=
  SkipsQueue config radio event → radio.sPendingCommandQueue = []

instance (radio : Driver) (event : RadioEvent) : Decidable (InTurn config radio event) :=
  inferInstanceAs (Decidable (_ → _))

namespace QueueStep

theorem isNumbered (hqueue : QueueStep config radio event next) (hcounts : radio.CountsUp next)
    (h : radio.IsNumbered) : next.IsNumbered := by
  have hold : ∀ request ∈ radio.waiting, request.number < next.requestCount request.kind :=
    fun request hrequest ↦ (h request hrequest).trans_le (hcounts _)
  cases hqueue with
  | keep _ _ hwaiting | skip _ _ _ _ hwaiting =>
    exact fun request hrequest ↦ hold request (hwaiting ▸ hrequest)
  | defer request _ _ hnumber hcounted _ hwaiting =>
    intro other hother
    rw [hwaiting, List.mem_append, List.mem_singleton] at hother
    apply hother.elim (hold other)
    rintro rfl
    exact hnumber.trans_lt hcounted
  | dequeue _ _ hwaiting =>
    exact fun request hrequest ↦ hold request (hwaiting ▸ List.mem_cons_of_mem _ hrequest)

/-- A step in turn keeps the order. -/
theorem inOrder (hqueue : QueueStep config radio event next) (h : radio.InOrder)
    (hturn : InTurn config radio event) : next.InOrder := by
  unfold Driver.InOrder at h ⊢
  cases hqueue with
  | keep _ haccepted hwaiting =>
    rw [haccepted, hwaiting]
    exact h
  | skip request hskips _ haccepted hwaiting =>
    rw [hwaiting, Driver.waiting, hturn hskips]
    exact List.nil_suffix
  | defer request _ _ _ _ haccepted hwaiting =>
    obtain ⟨front, hfront⟩ := h
    rw [haccepted, hwaiting, ← hfront, List.append_assoc]
    exact List.suffix_append front _
  | dequeue _ haccepted hwaiting =>
    rw [haccepted]
    rw [hwaiting] at h
    exact (List.suffix_cons _ _).trans h

/-- A step out of turn breaks the order: the new request would have to be the last that waits. -/
theorem not_inOrder (hqueue : QueueStep config radio event next) (h : radio.IsNumbered)
    (hturn : ¬ InTurn config radio event) : ¬ next.InOrder := by
  obtain ⟨hskips, hwaits⟩ := Classical.not_imp.mp hturn
  cases hqueue with
  | skip request _ hnumber haccepted hwaiting =>
    rintro ⟨front, hfront⟩
    have hne : radio.waiting ≠ [] := fun hnil ↦ hwaits (List.map_eq_nil_iff.mp hnil)
    rw [hwaiting, haccepted] at hfront
    have hlast : radio.waiting.getLast hne = request := by
      have heq := congrArg List.getLast? hfront
      rw [List.getLast?_append_of_ne_nil _ hne, List.getLast?_concat,
        List.getLast?_eq_some_getLast hne] at heq
      exact Option.some.inj heq
    have hmem : request ∈ radio.waiting := hlast ▸ List.getLast_mem hne
    exact absurd (h request hmem) (by omega)
  | keep hjoins | defer _ hjoins | dequeue hjoins => exact absurd hskips hjoins

end QueueStep

/-- **Order of requests.**  In a multipan build no request overtakes another in a run, whatever the
stack, RAIL and the main loop do, if and only if no request is executed at once, or lost, while
another waits. -/
theorem inOrder_iff (config : Config) (hmultipan : config.multipan = true)
    {labels : List RadioEvent} {final : Driver}
    (hrun : exec (radioStep config) (efr32RadioInit config) labels = some final) :
    Throughout (radioStep config) Driver.InOrder (efr32RadioInit config) labels ↔
      Along (radioStep config) (InTurn config) (efr32RadioInit config) labels := by
  have hproperty : ∀ radio : Driver, radio.InOrder ∧ radio.IsNumbered → radio.InOrder :=
    fun _ h ↦ h.1
  have hinit : (efr32RadioInit config).InOrder ∧ (efr32RadioInit config).IsNumbered :=
    ⟨List.nil_suffix, nofun⟩
  apply throughout_iff_along hproperty ?_ ?_ hinit hrun
  · intro radio event next h hturn hstep
    obtain ⟨hqueue, hcounts⟩ := Driver.step_queueStep hmultipan (Driver.step_of_radioStep hstep)
    exact ⟨hqueue.inOrder h.1 hturn, hqueue.isNumbered hcounts h.2⟩
  · intro radio event next h hturn hstep
    have hqueue := Driver.step_queueStep hmultipan (Driver.step_of_radioStep hstep)
    exact hqueue.1.not_inOrder h.2 hturn

/-- Host 2 asks for a transmission and a scan while host 1 is sending, and host 1 asks again as long
as they wait and the radio is busy. -/
def busyHostsRun : List RadioEvent :=
  [.writeFrame 1 { mPsdu := [0x41, 0x88, 1], mChannel := 11 }, .transmit 1 {} false,
    .writeFrame 2 { mPsdu := [0x41, 0x88, 2], mChannel := 15 }, .transmit 2 {} false,
    .railEvents { tx := { txPacketSent := true } }, .energyScan 2 20 0 {}] ++
  List.replicate 5 (.process {} false) ++ [.transmit 1 {} false,
    .railEvents { tx := { txChannelBusy := true } }] ++ List.replicate 5 (.process {} false)

theorem inOrder_iff_busyHostsRun :
    ((exec (radioStep .twoHosts) (efr32RadioInit .twoHosts) busyHostsRun).map fun radio ↦
      (radio.accepted, radio.waiting)) =
        some ([⟨.transmit, 1, 0⟩, ⟨.transmit, 2, 1⟩, ⟨.energyScan, 2, 0⟩, ⟨.transmit, 1, 2⟩],
          [⟨.transmit, 1, 2⟩]) ∧
    Throughout (radioStep .twoHosts) Driver.InOrder (efr32RadioInit .twoHosts)
      busyHostsRun :=
  ⟨by decide, (inOrder_iff .twoHosts rfl (Option.some_get (by decide)).symm).mpr (by decide)⟩

end OtEfr32.Radio
