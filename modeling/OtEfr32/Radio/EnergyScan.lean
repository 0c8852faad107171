import OtEfr32.Platform.Error
import OtEfr32.Radio.Config

/-!
# Energy scan

The energy-scan variables of `radio.c` with the dwell timer, and the functions that change them.
A scan of the stack carries the number of its request, so that the history can say which request a
report belongs to.
-/

namespace OtEfr32.Radio

/-- `energyScanStatus`. -/
inductive EnergyScanStatus where
  | idle
  | inProgress
  | completed
  deriving DecidableEq, Repr

/-- `energyScanMode`. -/
inductive EnergyScanMode where
  | sync
  | async
  deriving DecidableEq, Repr

/-- A call of `otPlatRadioEnergyScanDone`. -/
structure EnergyScanDone where
  iid : ℕ
  energyScanResultDbm : ℤ
  /-- History: the request that started the scan. -/
  request : ℕ
  deriving DecidableEq, Repr

/-- A call of `otPlatRadioEnergyScan` that returned an error. -/
structure RefusedScan where
  request : ℕ
  error : OtError
  /-- `sEnergyScanStatus` as the call left it. -/
  status : EnergyScanStatus
  deriving DecidableEq, Repr

/-- A call of `otPlatRadioGetRssi` that has returned. -/
structure RssiReading where
  rssi : ℤ
  /-- `sEnergyScanStatus` when the call was made. -/
  before : EnergyScanStatus
  /-- `sEnergyScanStatus` when it returned. -/
  after : EnergyScanStatus
  deriving DecidableEq, Repr

/-- The state of the energy scan. -/
structure EnergyScan where
  sEnergyScanStatus : EnergyScanStatus := .idle
  sEnergyScanMode : EnergyScanMode := .sync
  sEnergyScanActiveInterface : ℕ := invalidInterfaceIndex
  sEnergyScanResultDbm : ℤ := 0
  sScanFrameCounter : ℕ := 0
  sScanFrameCounterMax : ℕ := 0
  sEnergyReadsMax : ℤ := -128
  /-- `rail_timer` is running. -/
  timerArmed : Bool := false
  /-- History: the number of requests so far. -/
  requests : ℕ := 0
  /-- History: the request that published the scan in progress. -/
  owner : ℕ := 0
  /-- History. -/
  refused : List RefusedScan := []
  /-- History. -/
  energyScanDones : List EnergyScanDone := []
  /-- History. -/
  rssiReadings : List RssiReading := []

namespace EnergyScan

variable (scan : EnergyScan)

/-- Give the next number to a request. -/
def countRequest : EnergyScan := { scan with requests := scan.requests + 1 }

/-- `energyScanComplete`. -/
def energyScanComplete (scanResultDbm : ℤ) : EnergyScan :=
  { scan with sEnergyScanResultDbm := scanResultDbm, sEnergyScanStatus := .completed }

/-- `efr32ScanDwell`: the timer is cancelled and, if RAIL succeeds, started again. -/
def efr32ScanDwell (rail : RailResults) : Bool × EnergyScan :=
  (rail.setMultiTimer, { scan with timerArmed := rail.setMultiTimer })

/-- The first statements of `efr32StartEnergyScan`: the status is published before anything is
checked. -/
def publish (aMode : EnergyScanMode) : EnergyScan :=
  { scan with sEnergyScanStatus := .inProgress, sEnergyScanMode := aMode }

/-- The number of readings and the reset of the readings in `efr32StartEnergyScan`. -/
def resetReadings (config : Config) (aAveragingTimeUs : ℕ) : EnergyScan :=
  { scan with
    sEnergyReadsMax := -128
    sScanFrameCounterMax := aAveragingTimeUs / (config.symbolDurationUs * 8)
    sScanFrameCounter := aAveragingTimeUs / (config.symbolDurationUs * 8) }

/-- `efr32StartEnergyScan`. -/
def efr32StartEnergyScan (config : Config) (rail : RailResults) (aMode : EnergyScanMode)
    (aChannel aAveragingTimeUs : ℕ) : OtError × EnergyScan :=
  if scan.sEnergyScanStatus ≠ .idle then (.busy, scan)
  else if config.hasBandConfig aChannel = false then (.invalidArgs, scan.publish aMode)
  else if scan.sScanFrameCounter ≠ 0 then (.failed, scan.publish aMode)
  else if rail.configRxOptions = false then
    (.failed,
      ((scan.publish aMode).resetReadings config aAveragingTimeUs).energyScanComplete
        otRadioRssiInvalid)
  else if rail.startRx = false then
    -- `status` is still that of the call before, so the scan is not completed here
    (.failed, (scan.publish aMode).resetReadings config aAveragingTimeUs)
  else
    match ((scan.publish aMode).resetReadings config aAveragingTimeUs).efr32ScanDwell rail with
    | (true, scan) => (.none, scan)
    | (false, scan) => (.failed, scan.energyScanComplete otRadioRssiInvalid)

/-- `efr32StartEnergyScan` passes every check up to the start of the receiver. -/
def startsRx (config : Config) (rail : RailResults) (aChannel : ℕ) : Bool :=
  scan.sEnergyScanStatus == .idle && config.hasBandConfig aChannel &&
    scan.sScanFrameCounter == 0 && rail.configRxOptions && rail.startRx

/-- The reading of `efr32ScanTimerHandler`: RAIL gives quarters of a dBm, or no value. -/
def readRssi (currentRSSIQuarterdBm : Option ℤ) : EnergyScan :=
  match currentRSSIQuarterdBm with
  | none => scan
  | some quarterDbm =>
    { scan with sEnergyReadsMax := max scan.sEnergyReadsMax ((quarterDbm.tdiv 4).bmod 256) }

/-- `efr32ScanTimerHandler`, called when the dwell timer has expired. -/
def efr32ScanTimerHandler (rail : RailResults) (currentRSSIQuarterdBm : Option ℤ) : EnergyScan :=
  let scan := readRssi { scan with timerArmed := false } currentRSSIQuarterdBm
  if scan.sScanFrameCounter ≠ 0 then
    { (scan.efr32ScanDwell rail).2 with sScanFrameCounter := scan.sScanFrameCounter - 1 }
  else scan.energyScanComplete scan.sEnergyReadsMax

/-- `otPlatRadioEnergyScan` sets the active interface; the history learns the request. -/
def claim (iid request : ℕ) : EnergyScan :=
  { scan with
    sEnergyScanActiveInterface := iid
    owner := if scan.sEnergyScanStatus = .idle then request else scan.owner }

/-- Put a request on record that `otPlatRadioEnergyScan` answers with an error. -/
def refuse (request : ℕ) (error : OtError) : EnergyScan :=
  { scan with refused := scan.refused ++ [⟨request, error, scan.sEnergyScanStatus⟩] }

/-- `otPlatRadioEnergyScan` behind the check for a busy radio. -/
def startRequest (config : Config) (rail : RailResults) (iid request aScanChannel : ℕ)
    (aScanDuration : ℕ) : OtError × EnergyScan :=
  let result := (scan.claim iid request).efr32StartEnergyScan config rail .async aScanChannel
    (aScanDuration * 1000)
  if result.1 = .none then result else (result.1, result.2.refuse request result.1)

/-- The return of `otPlatRadioGetRssi` with the value `rssi`. -/
def returnRssi (rssi : ℤ) (before : EnergyScanStatus) : EnergyScan :=
  { scan with rssiReadings := scan.rssiReadings ++ [⟨rssi, before, scan.sEnergyScanStatus⟩] }

/-- The end of `otPlatRadioGetRssi`, once its loop has been left. -/
def finishRssi (before : EnergyScanStatus) : EnergyScan :=
  let rssi := if scan.sEnergyScanStatus = .completed then scan.sEnergyScanResultDbm
    else otRadioRssiInvalid
  returnRssi { scan with sEnergyScanStatus := .idle } rssi before

/-- The scan check of `efr32RadioProcess` finds a completed scan to report. -/
def isReportable : Bool :=
  scan.sEnergyScanMode == .async && scan.sEnergyScanStatus == .completed

/-- `efr32RadioProcess` up to the return of `otPlatRadioEnergyScanDone`. -/
def report : EnergyScan :=
  { scan with
    sEnergyScanStatus := .idle
    energyScanDones := scan.energyScanDones ++
      [⟨scan.sEnergyScanActiveInterface, scan.sEnergyScanResultDbm, scan.owner⟩] }

/-- The statement behind `otPlatRadioEnergyScanDone` in `efr32RadioProcess`. -/
def clearActiveInterface : EnergyScan :=
  { scan with sEnergyScanActiveInterface := invalidInterfaceIndex }

/-! ## What an expiry of the dwell timer does -/

variable {scan : EnergyScan} {rail : RailResults}

theorem readRssi_eq (scan : EnergyScan) (currentRSSIQuarterdBm : Option ℤ) :
    ∃ sEnergyReadsMax, scan.readRssi currentRSSIQuarterdBm = { scan with sEnergyReadsMax } := by
  cases currentRSSIQuarterdBm with
  | none => exact ⟨scan.sEnergyReadsMax, rfl⟩
  | some quarterDbm => exact ⟨_, rfl⟩

/-- An expiry with readings left arms the timer again, if RAIL succeeds. -/
theorem efr32ScanTimerHandler_dwell (rail : RailResults) (h : scan.sScanFrameCounter ≠ 0)
    (currentRSSIQuarterdBm : Option ℤ) :
    ∃ sEnergyReadsMax, scan.efr32ScanTimerHandler rail currentRSSIQuarterdBm =
      { scan with
        sEnergyReadsMax
        timerArmed := rail.setMultiTimer
        sScanFrameCounter := scan.sScanFrameCounter - 1 } := by
  obtain ⟨sEnergyReadsMax, hread⟩ :=
    readRssi_eq { scan with timerArmed := false } currentRSSIQuarterdBm
  refine ⟨sEnergyReadsMax, ?_⟩
  simp only [efr32ScanTimerHandler, hread]
  exact if_pos h

/-- The last expiry completes the scan. -/
theorem efr32ScanTimerHandler_complete (rail : RailResults) (h : scan.sScanFrameCounter = 0)
    (currentRSSIQuarterdBm : Option ℤ) :
    ∃ sEnergyReadsMax, scan.efr32ScanTimerHandler rail currentRSSIQuarterdBm =
      { scan with
        sEnergyReadsMax
        timerArmed := false
        sEnergyScanStatus := .completed
        sEnergyScanResultDbm := sEnergyReadsMax } := by
  obtain ⟨sEnergyReadsMax, hread⟩ :=
    readRssi_eq { scan with timerArmed := false } currentRSSIQuarterdBm
  refine ⟨sEnergyReadsMax, ?_⟩
  simp only [efr32ScanTimerHandler, hread]
  exact if_neg (not_not_intro h)

/-! ## What a start does -/

variable {config : Config} {aChannel aScanDuration aAveragingTimeUs iid request : ℕ}
  {aMode : EnergyScanMode}

/-- The scan is idle and a start passes every check. -/
def StartsCleanly (config : Config) (rail : RailResults) (aChannel : ℕ) (scan : EnergyScan) :
    Prop :=
  scan.sEnergyScanStatus = .idle ∧ config.hasBandConfig aChannel = true ∧
    rail.configRxOptions = true ∧ rail.startRx = true ∧ rail.setMultiTimer = true

instance (rail : RailResults) (aChannel : ℕ) (scan : EnergyScan) :
    Decidable (scan.StartsCleanly config rail aChannel) :=
  inferInstanceAs (Decidable (_ ∧ _ ∧ _ ∧ _ ∧ _))

/-- The scan behind a start that passes every check. -/
def started (config : Config) (aMode : EnergyScanMode) (aAveragingTimeUs : ℕ)
    (scan : EnergyScan) : EnergyScan :=
  { (scan.publish aMode).resetReadings config aAveragingTimeUs with timerArmed := true }

theorem efr32StartEnergyScan_clean (scan : EnergyScan)
    (h : scan.StartsCleanly config rail aChannel)
    (hcounter : scan.sScanFrameCounter = 0) :
    scan.efr32StartEnergyScan config rail aMode aChannel aAveragingTimeUs =
      (.none, scan.started config aMode aAveragingTimeUs) := by
  obtain ⟨hidle, hband, hoptions, hrx, htimer⟩ := h
  simp [efr32StartEnergyScan, hidle, hband, hcounter, hoptions, hrx, htimer, efr32ScanDwell,
    started]

theorem efr32StartEnergyScan_busy (scan : EnergyScan) (h : scan.sEnergyScanStatus ≠ .idle) :
    scan.efr32StartEnergyScan config rail aMode aChannel aAveragingTimeUs = (.busy, scan) :=
  if_pos h

/-- A start from the idle state that fails a check returns an error and does not leave the scan
idle. -/
theorem efr32StartEnergyScan_unclean (scan : EnergyScan)
    (hidle : scan.sEnergyScanStatus = .idle)
    (h : ¬ scan.StartsCleanly config rail aChannel) (aMode : EnergyScanMode)
    (aAveragingTimeUs : ℕ) :
    (scan.efr32StartEnergyScan config rail aMode aChannel aAveragingTimeUs).1 ≠ .none ∧
      (scan.efr32StartEnergyScan config rail aMode aChannel
        aAveragingTimeUs).2.sEnergyScanStatus ≠ .idle := by
  unfold efr32StartEnergyScan
  rw [if_neg (not_not_intro hidle)]
  split
  · exact ⟨nofun, nofun⟩
  split
  · exact ⟨nofun, nofun⟩
  split
  · exact ⟨nofun, nofun⟩
  split
  · exact ⟨nofun, nofun⟩
  case isFalse hband _ hoptions hrx =>
    have htimer : rail.setMultiTimer = false := by
      refine Bool.of_not_eq_true fun htimer ↦ h ⟨hidle, ?_, ?_, ?_, htimer⟩
      · exact Bool.of_not_eq_false hband
      · exact Bool.of_not_eq_false hoptions
      · exact Bool.of_not_eq_false hrx
    rw [efr32ScanDwell, htimer]
    exact ⟨nofun, nofun⟩

theorem startRequest_clean (h : scan.StartsCleanly config rail aChannel)
    (hcounter : scan.sScanFrameCounter = 0) :
    scan.startRequest config rail iid request aChannel aScanDuration =
      (.none, (scan.claim iid request).started config .async (aScanDuration * 1000)) := by
  have hstart : (scan.claim iid request).efr32StartEnergyScan config rail .async aChannel
      (aScanDuration * 1000) =
        (.none, (scan.claim iid request).started config .async (aScanDuration * 1000)) :=
    efr32StartEnergyScan_clean (scan.claim iid request) h hcounter
  simp only [startRequest, hstart, ↓reduceIte]

/-- A request that does not start cleanly is refused, and the scan is not left idle. -/
theorem startRequest_unclean (h : ¬ scan.StartsCleanly config rail aChannel) :
    ∃ call ∈ (scan.startRequest config rail iid request aChannel aScanDuration).2.refused,
      call.status ≠ .idle := by
  have hfails : ((scan.claim iid request).efr32StartEnergyScan config rail .async aChannel
        (aScanDuration * 1000)).1 ≠ .none ∧
      ((scan.claim iid request).efr32StartEnergyScan config rail .async aChannel
        (aScanDuration * 1000)).2.sEnergyScanStatus ≠ .idle := by
    by_cases hidle : scan.sEnergyScanStatus = .idle
    · exact efr32StartEnergyScan_unclean (scan.claim iid request) hidle h _ _
    · rw [efr32StartEnergyScan_busy (scan.claim iid request) hidle]
      exact ⟨nofun, hidle⟩
  simp only [startRequest, if_neg hfails.1]
  exact ⟨_, List.mem_append_right _ List.mem_cons_self, hfails.2⟩

end EnergyScan

end OtEfr32.Radio
