import Mathlib.Data.List.Nodup
import OtEfr32.Radio.Steps

/-!
# The law of the energy scan

The dwell timer runs exactly while a scan is in progress, a call that returns an error leaves the
scan idle and is never reported, `otPlatRadioGetRssi` restores the status, and every accepted scan
is reported at most once.  The driver keeps the law in exactly those runs in which every call that
reaches `efr32StartEnergyScan` while it is idle passes all checks there, no such call is made while
it is not idle, every rearming of the dwell timer succeeds, and no wait of `otPlatRadioGetRssi`
times out: `efr32StartEnergyScan` publishes the status before its checks and does not take it back.
-/

namespace OtEfr32.Radio

open Transition

namespace EnergyScan

variable {config : Config} {rail : RailResults} {scan : EnergyScan} {aChannel aScanDuration : ℕ}
  {aAveragingTimeUs iid request : ℕ} {aMode : EnergyScanMode}

/-- The law of the energy scan. -/
structure ScanLaw (scan : EnergyScan) : Prop where
  inProgress_iff : scan.sEnergyScanStatus = .inProgress ↔ scan.timerArmed = true
  refused_idle : ∀ call ∈ scan.refused, call.status = .idle
  refused_unreported : ∀ call ∈ scan.refused,
    call.request ∉ scan.energyScanDones.map EnergyScanDone.request
  rssi_restores : ∀ reading ∈ scan.rssiReadings, reading.after = reading.before
  reported_once : (scan.energyScanDones.map EnergyScanDone.request).Nodup

theorem scanLaw_iff_and : scan.ScanLaw ↔
    (scan.sEnergyScanStatus = .inProgress ↔ scan.timerArmed = true) ∧
    (∀ call ∈ scan.refused, call.status = .idle) ∧
    (∀ call ∈ scan.refused, call.request ∉ scan.energyScanDones.map EnergyScanDone.request) ∧
    (∀ reading ∈ scan.rssiReadings, reading.after = reading.before) ∧
    (scan.energyScanDones.map EnergyScanDone.request).Nodup :=
  ⟨fun h ↦ ⟨h.inProgress_iff, h.refused_idle, h.refused_unreported, h.rssi_restores,
    h.reported_once⟩, fun ⟨h₁, h₂, h₃, h₄, h₅⟩ ↦ ⟨h₁, h₂, h₃, h₄, h₅⟩⟩

instance : DecidablePred ScanLaw := fun _ ↦ decidable_of_iff' _ scanLaw_iff_and

/-! ## The requests in use -/

/-- The request of the scan of the stack that is running or waits to be reported. -/
def running (scan : EnergyScan) : List ℕ :=
  if scan.sEnergyScanStatus ≠ .idle ∧ scan.sEnergyScanMode = .async then [scan.owner] else []

/-- The requests that were reported, refused or are running. -/
def usedRequests (scan : EnergyScan) : List ℕ :=
  scan.energyScanDones.map EnergyScanDone.request ++
    (scan.refused.map RefusedScan.request ++ scan.running)

theorem count_usedRequests (scan : EnergyScan) (request : ℕ) :
    scan.usedRequests.count request =
      (scan.energyScanDones.map EnergyScanDone.request).count request +
        ((scan.refused.map RefusedScan.request).count request + scan.running.count request) := by
  rw [usedRequests, List.count_append, List.count_append]

theorem running_idle (h : scan.sEnergyScanStatus = .idle) : scan.running = [] :=
  if_neg fun hrunning ↦ hrunning.1 h

/-- A scan that stays with its request uses the same requests. -/
theorem usedRequests_eq {next : EnergyScan} (hstatus : scan.sEnergyScanStatus ≠ .idle)
    (hnext : next.sEnergyScanStatus ≠ .idle) (hmode : next.sEnergyScanMode = scan.sEnergyScanMode)
    (howner : next.owner = scan.owner) (hdones : next.energyScanDones = scan.energyScanDones)
    (hrefused : next.refused = scan.refused) : next.usedRequests = scan.usedRequests := by
  simp [usedRequests, running, hstatus, hnext, hmode, howner, hdones, hrefused]

theorem count_refuse (scan : EnergyScan) (request : ℕ) (error : OtError) (other : ℕ) :
    (scan.refuse request error).usedRequests.count other =
      scan.usedRequests.count other + [request].count other := by
  have hrefused : (scan.refuse request error).refused.map RefusedScan.request =
      scan.refused.map RefusedScan.request ++ [request] := List.map_append
  have hrunning : (scan.refuse request error).running = scan.running := rfl
  rw [count_usedRequests, count_usedRequests, hrefused, hrunning, List.count_append]
  change (scan.energyScanDones.map EnergyScanDone.request).count other + _ = _
  omega

theorem count_started (h : scan.sEnergyScanStatus = .idle) (config : Config)
    (iid request aAveragingTimeUs other : ℕ) :
    ((scan.claim iid request).started config .async aAveragingTimeUs).usedRequests.count other =
      scan.usedRequests.count other + [request].count other := by
  have hrunning : ((scan.claim iid request).started config .async aAveragingTimeUs).running =
      [request] := by
    simp [running, started, claim, publish, resetReadings, h]
  rw [count_usedRequests, count_usedRequests, hrunning, running_idle h]
  change (scan.energyScanDones.map EnergyScanDone.request).count other +
    ((scan.refused.map RefusedScan.request).count other + _) = _
  rw [List.count_nil]
  omega

end EnergyScan

/-- The scan request of a queued command. -/
def PendingRequest.scanRequest : PendingRequest → Option ℕ
  | .energyScan _ _ request => some request
  | .transmit .. => none

namespace Driver

variable {config : Config} {radio : Driver} {rail : RailResults}

/-- The scan requests that were reported, refused, are running or are queued. -/
def scanRequests (radio : Driver) : List ℕ :=
  radio.scan.usedRequests ++
    radio.sPendingCommandQueue.filterMap fun command ↦ command.request.scanRequest

/-- The invariant of the energy scan, while the requests `inHand` are being decided on. -/
structure ScanConsistent (config : Config) (radio : Driver) (inHand : List ℕ) : Prop where
  inProgress_iff : radio.scan.sEnergyScanStatus = .inProgress ↔ radio.scan.timerArmed = true
  refused_idle : ∀ call ∈ radio.scan.refused, call.status = .idle
  rssi_restores : ∀ reading ∈ radio.scan.rssiReadings, reading.after = reading.before
  counter : radio.scan.sEnergyScanStatus ≠ .inProgress → radio.scan.sScanFrameCounter = 0
  rssiCall : ∀ before, radio.rssiCall = some before → before = .idle
  canAccessPal : config.canAccessPal = false → radio.scan.sEnergyScanStatus = .idle
  /-- Every request is in one place, and the numbers from `requests` on are unused. -/
  requests : ∀ request, (radio.scanRequests ++ inHand).count request ≤
    if request < radio.scan.requests then 1 else 0

theorem count_scanRequests (radio : Driver) (request : ℕ) :
    radio.scanRequests.count request = radio.scan.usedRequests.count request +
      (radio.sPendingCommandQueue.filterMap fun command ↦
        command.request.scanRequest).count request := List.count_append

namespace ScanConsistent

variable {inHand : List ℕ}

theorem scanLaw (h : ScanConsistent config radio []) : radio.scan.ScanLaw where
  inProgress_iff := h.inProgress_iff
  refused_idle := h.refused_idle
  refused_unreported := by
    intro call hcall hreported
    have hrefused :=
      List.one_le_count_iff.mpr (List.mem_map_of_mem (f := RefusedScan.request) hcall)
    have hdone := List.one_le_count_iff.mpr hreported
    have hle := h.requests call.request
    rw [scanRequests, EnergyScan.usedRequests] at hle
    simp only [List.count_append, List.append_nil] at hle
    split at hle <;> omega
  rssi_restores := h.rssi_restores
  reported_once := by
    refine List.nodup_iff_count_le_one.mpr fun request ↦ ?_
    have hle := h.requests request
    rw [scanRequests, EnergyScan.usedRequests] at hle
    simp only [List.count_append, List.append_nil] at hle
    split at hle <;> omega

/-- A change that leaves the scan, its requests and the wait of `otPlatRadioGetRssi` alone. -/
theorem of_eq {next : Driver} (h : ScanConsistent config radio inHand)
    (hscan : next.scan = radio.scan) (hrequests : next.scanRequests = radio.scanRequests)
    (hcall : next.rssiCall = radio.rssiCall) : ScanConsistent config next inHand where
  inProgress_iff := hscan ▸ h.inProgress_iff
  refused_idle := hscan ▸ h.refused_idle
  rssi_restores := hscan ▸ h.rssi_restores
  counter := hscan ▸ h.counter
  rssiCall := hcall ▸ h.rssiCall
  canAccessPal := hscan ▸ h.canAccessPal
  requests := by
    rw [hrequests, hscan]
    exact h.requests

theorem requests_le {next : Driver} {inHand' : List ℕ} (h : ScanConsistent config radio inHand)
    (hle : ∀ request, (next.scanRequests ++ inHand').count request ≤
      (radio.scanRequests ++ inHand).count request)
    (hrequests : next.scan.requests = radio.scan.requests) (request : ℕ) :
    (next.scanRequests ++ inHand').count request ≤
      if request < next.scan.requests then 1 else 0 :=
  hrequests ▸ Nat.le_trans (hle request) (h.requests request)

/-! ## Calls that do not concern the scan -/

theorem pushTransmit (h : ScanConsistent config radio inHand) (txFrame request iid : ℕ) :
    ScanConsistent config (radio.pushPendingCommand config (.transmit txFrame request) iid)
      inHand := by
  unfold pushPendingCommand
  split
  · refine h.of_eq rfl ?_ rfl
    simp [scanRequests, PendingRequest.scanRequest]
  · exact h.of_eq rfl rfl rfl

theorem otPlatRadioTransmit (h : ScanConsistent config radio inHand) (gpBuffers : Bool)
    (iid aFrame request : ℕ) :
    ScanConsistent config (radio.otPlatRadioTransmit config rail gpBuffers iid aFrame request).2
      inHand := by
  unfold Driver.otPlatRadioTransmit
  split
  · exact h
  split
  · exact h
  have haccepted : ScanConsistent config
      (radio.mapTx fun tx ↦ tx.acceptFrame config iid aFrame) inHand := h.of_eq rfl rfl rfl
  simp only
  split
  · exact haccepted.pushTransmit _ _ _
  · obtain ⟨tx, security, power, railChannel, transmissionStarts, heq⟩ :=
      transmitNow_eq (radio.mapTx fun tx ↦ tx.acceptFrame config iid aFrame) config rail iid aFrame
        request
    rw [heq]
    exact haccepted.of_eq rfl rfl rfl

/-! ## Calls that start a scan -/

theorem otPlatRadioEnergyScan {request iid aScanChannel aScanDuration : ℕ}
    (h : ScanConsistent config radio [request])
    (hclean : config.canAccessPal = true →
      (config.multipan && radio.isRadioTransmittingOrScanning) = false →
        radio.scan.StartsCleanly config rail aScanChannel) :
    ScanConsistent config
      (radio.otPlatRadioEnergyScan config rail iid request aScanChannel aScanDuration).2 [] := by
  unfold Driver.otPlatRadioEnergyScan
  split
  case isTrue hpal =>
    exact { h with
      refused_idle := by
        intro call hcall
        rcases List.mem_append.mp hcall with hold | hnew
        · exact h.refused_idle call hold
        · obtain rfl := List.mem_singleton.mp hnew
          exact h.canAccessPal hpal
      requests := by
        refine h.requests_le (fun other ↦ Nat.le_of_eq ?_) rfl
        have hcount := EnergyScan.count_refuse radio.scan request .rejected other
        rw [List.append_nil, List.count_append, count_scanRequests, count_scanRequests]
        change (radio.scan.refuse request .rejected).usedRequests.count other +
          (radio.sPendingCommandQueue.filterMap _).count other = _
        omega }
  split
  case isTrue =>
    unfold pushPendingCommand
    split
    · exact { h with
        requests := by
          refine h.requests_le (fun other ↦ Nat.le_of_eq ?_) rfl
          simp [scanRequests, PendingRequest.scanRequest, List.count_append] }
    · exact { h with
        requests := by
          refine h.requests_le (fun other ↦ ?_) rfl
          simp [scanRequests, List.count_append] }
  case isFalse hpal hfree =>
    have hstart := hclean (Bool.of_not_eq_false hpal) (Bool.of_not_eq_true hfree)
    have hidle := hstart.1
    have hcounter := h.counter (by rw [hidle]; nofun)
    rw [EnergyScan.startRequest_clean hstart hcounter]
    have hstarted : ScanConsistent config (radio.mapScan fun scan ↦
        (scan.claim iid request).started config .async (aScanDuration * 1000)) [] := {
      inProgress_iff := ⟨fun _ ↦ rfl, fun _ ↦ rfl⟩
      refused_idle := h.refused_idle
      rssi_restores := h.rssi_restores
      counter := fun hne ↦ absurd rfl hne
      rssiCall := h.rssiCall
      canAccessPal := fun hno ↦ absurd hno hpal
      requests := by
        refine h.requests_le (fun other ↦ Nat.le_of_eq ?_) rfl
        have hcount := EnergyScan.count_started hidle config iid request
          (aScanDuration * 1000) other
        rw [List.append_nil, List.count_append, count_scanRequests, count_scanRequests]
        change ((radio.scan.claim iid request).started config .async
            (aScanDuration * 1000)).usedRequests.count other +
          (radio.sPendingCommandQueue.filterMap _).count other = _
        omega }
    simp only
    split <;> exact hstarted.of_eq rfl rfl rfl

theorem energyScan {iid aScanChannel aScanDuration : ℕ} (h : ScanConsistent config radio [])
    (hclean : config.canAccessPal = true →
      (config.multipan && radio.isRadioTransmittingOrScanning) = false →
        radio.scan.StartsCleanly config rail aScanChannel) :
    ScanConsistent config (radio.energyScan config iid aScanChannel aScanDuration rail) [] := by
  have hcounted : ScanConsistent config
      (radio.mapScan EnergyScan.countRequest)
      [radio.scan.requests] := { h with
    requests := by
      intro other
      have hle := h.requests other
      rw [List.append_nil] at hle
      rw [List.count_append, List.count_singleton]
      change radio.scanRequests.count other + _ ≤ if other < radio.scan.requests + 1 then 1 else 0
      rw [beq_eq_decide]
      split at hle <;> split <;> split <;> simp only [decide_eq_true_eq] at * <;> omega }
  have hscan : ScanConsistent config ((radio.mapScan EnergyScan.countRequest).otPlatRadioEnergyScan
      config rail iid radio.scan.requests aScanChannel aScanDuration).2 [] :=
    hcounted.otPlatRadioEnergyScan hclean
  obtain ⟨_, heq⟩ := radio.energyScan_eq config iid aScanChannel aScanDuration rail
  rw [heq]
  exact hscan.of_eq rfl rfl rfl

theorem returnRssi (h : ScanConsistent config radio inHand) {rssi : ℤ} {before : EnergyScanStatus}
    (hbefore : before = radio.scan.sEnergyScanStatus) :
    ScanConsistent config (radio.mapScan fun scan ↦ scan.returnRssi rssi before) inHand :=
  { h with
    rssi_restores := by
      intro reading hreading
      rcases List.mem_append.mp hreading with hold | hnew
      · exact h.rssi_restores reading hold
      · obtain rfl := List.mem_singleton.mp hnew
        exact hbefore.symm
    requests := h.requests }

theorem otPlatRadioGetRssi (h : ScanConsistent config radio [])
    (hclean : config.canAccessPal = true →
      getInternalFlag radio.tx.flags [.ongoingTxData] = false →
        radio.scan.sEnergyScanStatus = .idle →
          radio.scan.StartsCleanly config rail radio.rx.sReceiveChannel) :
    ScanConsistent config (radio.otPlatRadioGetRssi config rail) [] := by
  unfold Driver.otPlatRadioGetRssi
  simp only
  split
  case isTrue => exact h.returnRssi rfl
  case isFalse hallowed =>
    rw [not_or, Bool.not_eq_false, Bool.not_eq_true] at hallowed
    by_cases hidle : radio.scan.sEnergyScanStatus = .idle
    · have hstart := hclean hallowed.1 hallowed.2 hidle
      have hcounter := h.counter (by rw [hidle]; nofun)
      rw [EnergyScan.efr32StartEnergyScan_clean radio.scan hstart hcounter, if_pos rfl]
      have hstarted : ScanConsistent config
          { radio.mapScan fun scan ↦ scan.started config .sync config.rssiAveragingTime with
            rssiCall := some radio.scan.sEnergyScanStatus } [] := {
        inProgress_iff := ⟨fun _ ↦ rfl, fun _ ↦ rfl⟩
        refused_idle := h.refused_idle
        rssi_restores := h.rssi_restores
        counter := fun hne ↦ absurd rfl hne
        rssiCall := fun before hbefore ↦ (Option.some.inj hbefore).symm.trans hidle
        canAccessPal := fun hno ↦ absurd hallowed.1 (by rw [hno]; decide)
        requests := by
          have hrunning : (radio.scan.started config .sync config.rssiAveragingTime).running =
              radio.scan.running := by
            rw [EnergyScan.running_idle hidle]
            exact if_neg fun hrunning ↦ EnergyScanMode.noConfusion hrunning.2
          refine h.requests_le (fun other ↦ Nat.le_of_eq ?_) rfl
          simp only [scanRequests, EnergyScan.usedRequests, mapScan, hrunning]
          rfl }
      split <;> exact hstarted.of_eq rfl rfl rfl
    · rw [EnergyScan.efr32StartEnergyScan_busy radio.scan hidle, if_neg nofun]
      have hsame : ScanConsistent config (Driver.mapScan (if radio.scan.startsRx config rail
          radio.rx.sReceiveChannel then radio.tuneTo radio.rx.sReceiveChannel else radio)
            fun _ ↦ radio.scan) [] := by
        split <;> exact h.of_eq rfl rfl rfl
      exact hsame.returnRssi rfl

theorem endRssiWait {before : EnergyScanStatus} (h : ScanConsistent config radio [])
    (hcall : radio.rssiCall = some before)
    (hended : radio.scan.sEnergyScanStatus ≠ .inProgress) :
    ScanConsistent config
      { radio.mapScan fun scan ↦ scan.finishRssi before with rssiCall := none } [] where
  inProgress_iff := by
    have harmed : radio.scan.timerArmed ≠ true := fun harmed ↦
      hended (h.inProgress_iff.mpr harmed)
    exact ⟨nofun, fun hnow ↦ absurd hnow harmed⟩
  refused_idle := h.refused_idle
  rssi_restores := by
    intro reading hreading
    rcases List.mem_append.mp hreading with hold | hnew
    · exact h.rssi_restores reading hold
    · obtain rfl := List.mem_singleton.mp hnew
      exact (h.rssiCall before hcall).symm
  counter := fun _ ↦ h.counter hended
  rssiCall := nofun
  canAccessPal := fun _ ↦ rfl
  requests := by
    refine h.requests_le (fun other ↦ ?_) rfl
    rw [List.append_nil, List.append_nil, count_scanRequests, count_scanRequests,
      EnergyScan.count_usedRequests, EnergyScan.count_usedRequests]
    have hrunning : (radio.scan.finishRssi before).running = [] := EnergyScan.running_idle rfl
    simp only [mapScan, hrunning, List.count_nil]
    change (radio.scan.energyScanDones.map EnergyScanDone.request).count other +
      ((radio.scan.refused.map RefusedScan.request).count other + 0) + _ ≤ _
    omega

/-! ## The dwell timer and the main loop -/

theorem efr32ScanTimerHandler (h : ScanConsistent config radio [])
    (harmed : radio.scan.timerArmed = true)
    (hrearm : radio.scan.sScanFrameCounter ≠ 0 → rail.setMultiTimer = true)
    (currentRSSIQuarterdBm : Option ℤ) :
    ScanConsistent config
      (radio.mapScan fun scan ↦ scan.efr32ScanTimerHandler rail currentRSSIQuarterdBm) [] := by
  have hprogress := h.inProgress_iff.mpr harmed
  have hbusy : radio.scan.sEnergyScanStatus ≠ .idle := by
    rw [hprogress]
    nofun
  by_cases hcounter : radio.scan.sScanFrameCounter = 0
  · obtain ⟨sEnergyReadsMax, hnext⟩ := EnergyScan.efr32ScanTimerHandler_complete rail
      hcounter currentRSSIQuarterdBm
    simp only [mapScan, hnext]
    exact { h with
      inProgress_iff := ⟨nofun, nofun⟩
      counter := fun _ ↦ hcounter
      canAccessPal := fun hno ↦ absurd (h.canAccessPal hno) hbusy
      requests := by
        refine h.requests_le (fun other ↦ Nat.le_of_eq ?_) rfl
        exact congrArg (fun used ↦ (used ++ _ ++ []).count other)
          (EnergyScan.usedRequests_eq hbusy EnergyScanStatus.noConfusion rfl rfl rfl rfl) }
  · obtain ⟨sEnergyReadsMax, hnext⟩ := EnergyScan.efr32ScanTimerHandler_dwell rail
      hcounter currentRSSIQuarterdBm
    simp only [mapScan, hnext]
    exact { h with
      inProgress_iff := ⟨fun _ ↦ hrearm hcounter, fun _ ↦ hprogress⟩
      counter := fun hne ↦ absurd hprogress hne
      canAccessPal := h.canAccessPal
      requests := by
        refine h.requests_le (fun other ↦ Nat.le_of_eq ?_) rfl
        exact congrArg (fun used ↦ (used ++ _ ++ []).count other)
          (EnergyScan.usedRequests_eq hbusy hbusy rfl rfl rfl rfl) }

theorem report (h : ScanConsistent config radio []) (hreport : radio.scan.isReportable = true) :
    ScanConsistent config (radio.mapScan EnergyScan.report) [] := by
  rw [EnergyScan.isReportable, Bool.and_eq_true, beq_iff_eq, beq_iff_eq] at hreport
  obtain ⟨hmode, hcompleted⟩ := hreport
  exact {
    inProgress_iff := by
      have harmed : radio.scan.timerArmed ≠ true := by
        rw [Ne, ← h.inProgress_iff, hcompleted]
        nofun
      exact ⟨nofun, fun hnow ↦ absurd hnow harmed⟩
    refused_idle := h.refused_idle
    rssi_restores := h.rssi_restores
    counter := fun _ ↦ h.counter (by rw [hcompleted]; nofun)
    rssiCall := h.rssiCall
    canAccessPal := fun _ ↦ rfl
    requests := by
      refine h.requests_le (fun other ↦ Nat.le_of_eq ?_) rfl
      have hbefore : radio.scan.running = [radio.scan.owner] := by
        refine if_pos ⟨?_, hmode⟩
        rw [hcompleted]
        nofun
      have hafter : radio.scan.report.running = [] := EnergyScan.running_idle rfl
      have hdones : radio.scan.report.energyScanDones.map EnergyScanDone.request =
          radio.scan.energyScanDones.map EnergyScanDone.request ++ [radio.scan.owner] :=
        List.map_append
      rw [List.append_nil, List.append_nil, count_scanRequests, count_scanRequests,
        EnergyScan.count_usedRequests, EnergyScan.count_usedRequests, hbefore]
      simp only [mapScan, hafter, hdones, List.count_append, List.count_nil]
      change _ + _ + ((radio.scan.refused.map RefusedScan.request).count other + 0) + _ = _
      omega }

theorem dequeue {command : PendingCommand} {rest : List PendingCommand}
    (h : ScanConsistent config radio [])
    (hqueue : radio.sPendingCommandQueue = command :: rest) :
    ScanConsistent config { radio with sPendingCommandQueue := rest }
      command.request.scanRequest.toList :=
  { h with
    requests := by
      refine h.requests_le (fun other ↦ Nat.le_of_eq ?_) rfl
      rw [scanRequests, scanRequests, hqueue]
      simp only [List.count_append, List.append_nil]
      cases hrequest : command.request.scanRequest with
      | none => simp [hrequest]
      | some request =>
        simp only [List.filterMap_cons, hrequest, Option.toList_some, List.count_cons,
          List.count_nil]
        omega }

end ScanConsistent

/-! ## The exact condition -/

/-- A request that reaches the start of the scan there finds the scan idle and passes every
check. -/
def ScanStarts (config : Config) (rail : RailResults) (radio : Driver) (aScanChannel : ℕ) : Prop :=
  config.canAccessPal = true →
    (config.multipan && radio.isRadioTransmittingOrScanning) = false →
      radio.scan.StartsCleanly config rail aScanChannel

instance (rail : RailResults) (radio : Driver) (aScanChannel : ℕ) :
    Decidable (radio.ScanStarts config rail aScanChannel) :=
  inferInstanceAs (Decidable (_ → _ → _))

end Driver

/-- The steps that keep the law of the energy scan. -/
def ScanCondition (config : Config) (radio : Driver) : RadioEvent → Prop
  | .energyScan _ aScanChannel _ rail => radio.ScanStarts config rail aScanChannel
  | .process rail _ =>
    ∀ command, radio.dueCommand config = some command →
      ∀ scanChannel scanDuration request,
        command.request = .energyScan scanChannel scanDuration request →
          radio.ScanStarts config rail scanChannel
  | .getRssi rail =>
    config.canAccessPal = true → getInternalFlag radio.tx.flags [.ongoingTxData] = false →
      radio.scan.sEnergyScanStatus = .idle →
        radio.scan.StartsCleanly config rail radio.rx.sReceiveChannel
  | .endRssiWait _ => radio.scan.sEnergyScanStatus ≠ .inProgress
  | .scanTimer _ rail => radio.scan.sScanFrameCounter ≠ 0 → rail.setMultiTimer = true
  | _ => True

instance (config : Config) (radio : Driver) (rail : RailResults) :
    ∀ command : PendingCommand, Decidable (∀ scanChannel scanDuration request,
      command.request = .energyScan scanChannel scanDuration request →
        radio.ScanStarts config rail scanChannel)
  | ⟨.transmit .., _⟩ => .isTrue fun _ _ _ hrequest ↦ nomatch hrequest
  | ⟨.energyScan scanChannel _ _, _⟩ => decidable_of_iff (radio.ScanStarts config rail scanChannel)
      ⟨fun h _ _ _ hrequest ↦ (PendingRequest.energyScan.inj hrequest).1 ▸ h,
        fun h ↦ h _ _ _ rfl⟩

instance (config : Config) : ∀ radio event, Decidable (ScanCondition config radio event)
  | radio, .energyScan _ aScanChannel _ rail =>
    inferInstanceAs (Decidable (radio.ScanStarts config rail aScanChannel))
  | radio, .process rail _ => inferInstanceAs (Decidable (∀ command ∈ radio.dueCommand config,
      ∀ scanChannel scanDuration request,
        command.request = .energyScan scanChannel scanDuration request →
          radio.ScanStarts config rail scanChannel))
  | _, .getRssi _ => inferInstanceAs (Decidable (_ → _ → _ → EnergyScan.StartsCleanly _ _ _ _))
  | _, .endRssiWait _ => inferInstanceAs (Decidable (_ ≠ _))
  | _, .scanTimer .. => inferInstanceAs (Decidable (_ → _ = true))
  | _, .writeFrame .. | _, .transmit .. | _, .receive .. | _, .receiveAt .. | _, .sleep
  | _, .setChannelMaxTransmitPower .. | _, .setTransmitPower .. | _, .setPanId ..
  | _, .setPromiscuous _ | _, .setMacFrameCounterIfLarger .. | _, .setMacKey _ | _, .setMacKeyStep
  | _, .railEvents _ => .isTrue trivial

namespace Driver

variable {config : Config} {radio : Driver} {rail : RailResults}

theorem ProcessPart.scanConsistent {gpBuffers : Bool} {next : Driver}
    (hpart : ProcessPart config rail gpBuffers radio next) (h : ScanConsistent config radio [])
    (hclean : ScanCondition config radio (.process rail gpBuffers)) :
    ScanConsistent config next [] := by
  cases hpart with
  | scanReport hlocation hreportable => exact (h.report hreportable).of_eq rfl rfl rfl
  | scanReported => exact { h with }
  | @transmit iid txFrame request rest hdue hqueue =>
    exact ((h.dequeue hqueue).otPlatRadioTransmit gpBuffers iid txFrame request).of_eq rfl rfl rfl
  | @energyScan iid scanChannel scanDuration request rest hdue hqueue =>
    have hscan : ScanConsistent config
        ({ radio with sPendingCommandQueue := rest }.otPlatRadioEnergyScan config rail iid request
          scanChannel scanDuration).2 [] :=
      (h.dequeue hqueue).otPlatRadioEnergyScan (hclean _ hdue _ _ _ rfl)
    exact hscan.of_eq rfl rfl rfl
  | _ => exact h.of_eq rfl rfl rfl

theorem radioStep_scanConsistent {event : RadioEvent} {next : Driver}
    (h : ScanConsistent config radio []) (hcondition : ScanCondition config radio event)
    (hstep : radioStep config radio event = some next) : ScanConsistent config next [] := by
  cases step_of_radioStep hstep with
  | railEvents =>
    obtain ⟨tx, rx, security, heq⟩ := railCbGeneric_eq radio config _
    rw [heq]
    exact h.of_eq rfl rfl rfl
  | scanTimer harmed => exact h.efr32ScanTimerHandler harmed hcondition _
  | endRssiWait hcall => exact h.endRssiWait hcall hcondition
  | setMacKeyStep => exact h.of_eq rfl rfl rfl
  | main hcall hmain =>
    cases hmain with
    | @transmit iid rail gpBuffers =>
      have hcounted : ScanConsistent config
          (radio.mapTx Transmitter.countRequest) [] := h.of_eq rfl rfl rfl
      have htransmit : ScanConsistent config
          ((radio.mapTx Transmitter.countRequest).otPlatRadioTransmit config rail gpBuffers iid
            (txBufIndex iid) radio.tx.requests).2 [] :=
        hcounted.otPlatRadioTransmit gpBuffers iid (txBufIndex iid) radio.tx.requests
      obtain ⟨_, heq⟩ := radio.transmit_eq config iid rail gpBuffers
      rw [heq]
      exact htransmit.of_eq rfl rfl rfl
    | energyScan => exact h.energyScan hcondition
    | getRssi => exact h.otPlatRadioGetRssi hcondition
    | @receive aChannel rail =>
      obtain ⟨_, _, _, _, heq⟩ := radio.otPlatRadioReceive_eq config rail aChannel
      rw [heq]
      exact h.of_eq rfl rfl rfl
    | @receiveAt aChannel rail =>
      obtain ⟨_, _, _, _, heq⟩ := radio.otPlatRadioReceiveAt_eq config rail aChannel
      rw [heq]
      exact h.of_eq rfl rfl rfl
    | sleep =>
      obtain ⟨_, heq⟩ := radio.otPlatRadioSleep_eq
      rw [heq]
      exact h.of_eq rfl rfl rfl
    | writeFrame | setChannelMaxTransmitPower | setTransmitPower | setPanId | setPromiscuous
      | setMacFrameCounterIfLarger | setMacKey => exact h.of_eq rfl rfl rfl
    | refused => exact h
    | process => exact (radio.processPart config _ _).scanConsistent h hcondition

/-! ## Steps that break the law -/

theorem not_scanLaw_of_refused {scan : EnergyScan}
    (h : ∃ call ∈ scan.refused, call.status ≠ .idle) :
    ¬ scan.ScanLaw := by
  rintro hlaw
  obtain ⟨call, hcall, hstatus⟩ := h
  exact hstatus (hlaw.refused_idle call hcall)

theorem otPlatRadioEnergyScan_break (radio : Driver) {aScanChannel : ℕ}
    (h : ¬ radio.ScanStarts config rail aScanChannel) (iid request aScanDuration : ℕ) :
    ¬ (radio.otPlatRadioEnergyScan config rail iid request aScanChannel
      aScanDuration).2.scan.ScanLaw := by
  simp only [ScanStarts, Classical.not_imp] at h
  obtain ⟨hpal, hfree, hunclean⟩ := h
  unfold otPlatRadioEnergyScan
  rw [if_neg (by rw [hpal]; decide), if_neg (by rw [hfree]; decide)]
  exact not_scanLaw_of_refused (EnergyScan.startRequest_unclean hunclean)

theorem getRssi_break (hcondition : ¬ ScanCondition config radio (.getRssi rail)) :
    ¬ (radio.otPlatRadioGetRssi config rail).scan.ScanLaw := by
  simp only [ScanCondition, Classical.not_imp] at hcondition
  obtain ⟨hpal, hidleTx, hidle, hunclean⟩ := hcondition
  obtain ⟨herror, hstatus⟩ := EnergyScan.efr32StartEnergyScan_unclean radio.scan hidle hunclean
    .sync config.rssiAveragingTime
  unfold otPlatRadioGetRssi
  simp only
  rw [if_neg (by rw [hpal, hidleTx]; decide), if_neg herror]
  intro hlaw
  have hrestores := hlaw.rssi_restores _ (List.mem_append_right _ List.mem_cons_self)
  exact hstatus (hrestores.trans hidle)

theorem radioStep_breaks_scanLaw {event : RadioEvent} {next : Driver}
    (h : ScanConsistent config radio []) (hcondition : ¬ ScanCondition config radio event)
    (hstep : radioStep config radio event = some next) : ¬ next.scan.ScanLaw := by
  cases step_of_radioStep hstep with
  | railEvents | setMacKeyStep => exact absurd trivial hcondition
  | @scanTimer currentRSSIQuarterdBm rail harmed =>
    simp only [ScanCondition, Classical.not_imp, Bool.not_eq_true] at hcondition
    obtain ⟨hcounter, hfails⟩ := hcondition
    obtain ⟨sEnergyReadsMax, hnext⟩ := EnergyScan.efr32ScanTimerHandler_dwell rail
      hcounter currentRSSIQuarterdBm
    simp only [mapScan, hnext]
    intro hlaw
    have harmed' := hlaw.inProgress_iff.mp (h.inProgress_iff.mpr harmed)
    rw [hfails] at harmed'
    contradiction
  | endRssiWait hcall =>
    have hprogress := not_not.mp hcondition
    intro hlaw
    exact absurd (hlaw.inProgress_iff.mpr (h.inProgress_iff.mp hprogress)) nofun
  | main hcall hmain =>
    cases hmain with
    | @energyScan iid aScanChannel aScanDuration rail =>
      have hbreak := otPlatRadioEnergyScan_break (radio.mapScan EnergyScan.countRequest)
        hcondition iid radio.scan.requests aScanDuration
      obtain ⟨_, heq⟩ := radio.energyScan_eq config iid aScanChannel aScanDuration rail
      rw [heq]
      exact hbreak
    | getRssi => exact getRssi_break hcondition
    | @process rail gpBuffers =>
      simp only [ScanCondition, not_forall] at hcondition
      obtain ⟨command, hdue, scanChannel, scanDuration, request, hrequest, hunclean⟩ := hcondition
      obtain ⟨rest, -, heq⟩ := efr32RadioProcess_energyScan hdue hrequest rail gpBuffers
      rw [heq]
      exact otPlatRadioEnergyScan_break { radio with sPendingCommandQueue := rest } hunclean _ _ _
    | refused hpal hsetting =>
      cases event <;> first | exact absurd trivial hcondition | contradiction
    | _ => exact absurd trivial hcondition

theorem efr32RadioInit_scanConsistent (config : Config) :
    ScanConsistent config (efr32RadioInit config) [] where
  inProgress_iff := ⟨nofun, nofun⟩
  refused_idle := nofun
  rssi_restores := nofun
  counter := fun _ ↦ rfl
  rssiCall := nofun
  canAccessPal := fun _ ↦ rfl
  requests := fun _ ↦ Nat.zero_le _

end Driver

/-! ## Runs -/

/-- The law of the energy scan holds in every state of a run exactly when every step of the run
meets the condition. -/
theorem scanLaw_iff (config : Config) (labels : List RadioEvent) (final : Driver)
    (hrun : exec (radioStep config) (efr32RadioInit config) labels = some final) :
    Throughout (radioStep config) (fun radio ↦ radio.scan.ScanLaw) (efr32RadioInit config) labels ↔
      Along (radioStep config) (ScanCondition config) (efr32RadioInit config) labels :=
  throughout_iff_along (fun _ h ↦ Driver.ScanConsistent.scanLaw h)
    (fun _ _ _ h hcondition hstep ↦ Driver.radioStep_scanConsistent h hcondition hstep)
    (fun _ _ _ h hcondition hstep ↦ Driver.radioStep_breaks_scanLaw h hcondition hstep)
    (Driver.efr32RadioInit_scanConsistent config) hrun

/-- A scan of one reading, reported, and a reading of the RSSI while the radio is receiving. -/
def scanAndRssi : List RadioEvent :=
  [.energyScan 0 11 0 {}, .scanTimer (some (-320)) {}, .process {} false, .process {} false,
    .process {} false, .process {} false, .process {} false, .process {} false,
    .receive 15 {}, .getRssi {}, .scanTimer (some (-320)) {}, .scanTimer none {},
    .endRssiWait false]

theorem scanLaw_iff_scanAndRssi :
    ((exec (radioStep .singlePan) (efr32RadioInit .singlePan) scanAndRssi).map fun radio ↦
      (radio.scan.energyScanDones, radio.scan.rssiReadings)) =
        some ([⟨0, -80, 0⟩], [⟨-80, .idle, .idle⟩]) ∧
    Throughout (radioStep .singlePan) (fun radio ↦ radio.scan.ScanLaw) (efr32RadioInit .singlePan)
      scanAndRssi :=
  ⟨by decide, (scanLaw_iff .singlePan scanAndRssi _ (Option.some_get (by decide)).symm).mpr
    (by decide)⟩

/-- A scan on channel 27, above `SL_CHANNEL_MAX`, returns `OT_ERROR_INVALID_ARGS` and leaves the
status in progress. -/
theorem not_scanLaw_invalid_channel :
    ¬ ∀ config labels, Throughout (radioStep config) (fun radio ↦ radio.scan.ScanLaw)
      (efr32RadioInit config) labels := by
  intro h
  have hlaw := h .singlePan [.energyScan 0 27 100 {}]
  revert hlaw
  decide

end OtEfr32.Radio
