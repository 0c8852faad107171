import OtEfr32.Radio.ScanLaw

/-!
# Length and result of an energy scan

A scan takes one reading at each expiry of its dwell timer, and one more than the counter says.
While it is in progress, no other event changes its counter or its maximum, so that the number of
its expiries and its result depend on the averaging time, the symbol rate and the readings only.
-/

namespace OtEfr32.Radio

open Transition

/-- `efr32GetSymbolDurationUs`, for the rate that `sl_rail_get_symbol_rate` returns. -/
def efr32GetSymbolDurationUs (symbolRate : ℕ) : ℕ :=
  let symbolRate := if symbolRate ≠ 0 then 1000000 / symbolRate % 2 ^ 16 else symbolRate
  if symbolRate > 0 then symbolRate % 2 ^ 16 else 1

/-- RAIL reports a symbol rate. -/
def Config.withSymbolRate (config : Config) (symbolRate : ℕ) : Config :=
  { config with symbolDurationUs := efr32GetSymbolDurationUs symbolRate }

/-- `sl_rail_get_rssi` as `efr32ScanTimerHandler` reads it: the value `SL_RAIL_RSSI_INVALID` is no
reading. -/
def slRailGetRssi (slRailRssiInvalid currentRSSIQuarterdBm : ℤ) : Option ℤ :=
  if currentRSSIQuarterdBm ≠ slRailRssiInvalid then some currentRSSIQuarterdBm else none

/-- The result of a scan: the largest of -128 and the valid readings in dBm. -/
def energyMax (slRailRssiInvalid : ℤ) (readings : List ℤ) : ℤ :=
  ((readings.filter (· ≠ slRailRssiInvalid)).map (Int.tdiv · 4)).foldl max (-128)

theorem efr32GetSymbolDurationUs_pos (symbolRate : ℕ) :
    1 ≤ efr32GetSymbolDurationUs symbolRate := by
  unfold efr32GetSymbolDurationUs
  by_cases hrate : symbolRate = 0
  · simp [hrate]
  -- a rate other than 0 has been reduced to 16 bits when it is compared
  · simp only [ne_eq, hrate, not_false_eq_true, ↓reduceIte]
    split <;> omega

variable {slRailRssiInvalid : ℤ}

theorem energyMax_append (readings : List ℤ) (currentRSSIQuarterdBm : ℤ) :
    energyMax slRailRssiInvalid (readings ++ [currentRSSIQuarterdBm]) =
      if currentRSSIQuarterdBm ≠ slRailRssiInvalid then
        max (energyMax slRailRssiInvalid readings) (currentRSSIQuarterdBm.tdiv 4)
      else energyMax slRailRssiInvalid readings := by
  unfold energyMax
  split
  case isTrue h => simp [List.filter_append, h]
  case isFalse h => simp [List.filter_append, h]

/-! ## The readings of a run -/

/-- The readings at the expiries of the dwell timer. -/
def expiries (labels : List RadioEvent) : List (Option ℤ) :=
  labels.filterMap fun
    | .scanTimer currentRSSIQuarterdBm _ => some currentRSSIQuarterdBm
    | _ => none

/-- RAIL starts the dwell timer again, and a call of `otPlatRadioGetRssi` waits for its result. -/
def RadioEvent.LetsScanRun : RadioEvent → Prop
  | .scanTimer _ rail => rail.setMultiTimer = true
  | .endRssiWait timedOut => timedOut = false
  | _ => True

namespace EnergyScan

variable {scan next : EnergyScan} {readings : List ℤ} {count : ℕ} {rail : RailResults}

/-- The part of the scan on which its length and its result depend. -/
structure SameScan (scan next : EnergyScan) : Prop where
  sEnergyScanStatus : next.sEnergyScanStatus = scan.sEnergyScanStatus
  timerArmed : next.timerArmed = scan.timerArmed
  sScanFrameCounter : next.sScanFrameCounter = scan.sScanFrameCounter
  sEnergyReadsMax : next.sEnergyReadsMax = scan.sEnergyReadsMax

theorem SameScan.rfl : SameScan scan scan := ⟨Eq.refl _, Eq.refl _, Eq.refl _, Eq.refl _⟩

/-- A scan of `count` readings is in progress and has taken `readings`. -/
structure Running (slRailRssiInvalid : ℤ) (count : ℕ) (readings : List ℤ) (scan : EnergyScan) :
    Prop where
  inProgress : scan.sEnergyScanStatus = .inProgress
  timerArmed : scan.timerArmed = true
  counter : readings.length + scan.sScanFrameCounter + 1 = count
  max : scan.sEnergyReadsMax = energyMax slRailRssiInvalid readings

/-- The scan has been completed with a result. -/
structure CompletedWith (result : ℤ) (scan : EnergyScan) : Prop where
  completed : scan.sEnergyScanStatus = .completed
  timer_off : scan.timerArmed = false
  result_eq : scan.sEnergyScanResultDbm = result
  counter_zero : scan.sScanFrameCounter = 0

theorem Running.of_sameScan (h : scan.Running slRailRssiInvalid count readings)
    (hsame : scan.SameScan next) : next.Running slRailRssiInvalid count readings where
  inProgress := hsame.sEnergyScanStatus.trans h.inProgress
  timerArmed := hsame.timerArmed.trans h.timerArmed
  counter := hsame.sScanFrameCounter ▸ h.counter
  max := hsame.sEnergyReadsMax.trans h.max

/-- A reading within the range of the radio survives the conversion to `int8_t`. -/
theorem readRssi_max (scan : EnergyScan) {currentRSSIQuarterdBm : ℤ}
    (hmin : -512 ≤ currentRSSIQuarterdBm) (hmax : currentRSSIQuarterdBm ≤ 511)
    (h : scan.sEnergyReadsMax = energyMax slRailRssiInvalid readings) :
    (scan.readRssi (slRailGetRssi slRailRssiInvalid currentRSSIQuarterdBm)).sEnergyReadsMax =
      energyMax slRailRssiInvalid (readings ++ [currentRSSIQuarterdBm]) := by
  rw [energyMax_append, slRailGetRssi]
  split
  case isFalse => exact h
  case isTrue =>
    have hbounds : -128 ≤ currentRSSIQuarterdBm.tdiv 4 ∧ currentRSSIQuarterdBm.tdiv 4 ≤ 127 := by
      rw [Int.tdiv_eq_ediv, show Int.sign 4 = 1 from rfl]
      split <;> omega
    have hexact : (currentRSSIQuarterdBm.tdiv 4).bmod 256 = currentRSSIQuarterdBm.tdiv 4 :=
      Int.bmod_eq_of_le (by omega) (by omega)
    change max scan.sEnergyReadsMax ((currentRSSIQuarterdBm.tdiv 4).bmod 256) = _
    rw [hexact, h]

/-- An expiry before the last one. -/
theorem Running.efr32ScanTimerHandler (h : scan.Running slRailRssiInvalid count readings)
    {currentRSSIQuarterdBm : ℤ} (hmin : -512 ≤ currentRSSIQuarterdBm)
    (hmax : currentRSSIQuarterdBm ≤ 511) (hrail : rail.setMultiTimer = true)
    (hmore : readings.length + 1 < count) :
    (scan.efr32ScanTimerHandler rail
      (slRailGetRssi slRailRssiInvalid currentRSSIQuarterdBm)).Running slRailRssiInvalid count
        (readings ++ [currentRSSIQuarterdBm]) := by
  have hcounter := h.counter
  have hread := readRssi_max { scan with timerArmed := false } hmin hmax h.max
  obtain ⟨sEnergyReadsMax, hreads⟩ := readRssi_eq { scan with timerArmed := false }
    (slRailGetRssi slRailRssiInvalid currentRSSIQuarterdBm)
  rw [hreads] at hread
  unfold EnergyScan.efr32ScanTimerHandler
  simp only [hreads]
  rw [if_pos (by omega)]
  exact {
    inProgress := h.inProgress
    timerArmed := hrail
    counter := by
      simp only [List.length_append, List.length_singleton]
      omega
    max := hread }

/-- The last expiry. -/
theorem Running.complete (h : scan.Running slRailRssiInvalid count readings)
    {currentRSSIQuarterdBm : ℤ} (hmin : -512 ≤ currentRSSIQuarterdBm)
    (hmax : currentRSSIQuarterdBm ≤ 511) (hlast : readings.length + 1 = count) :
    (scan.efr32ScanTimerHandler rail
      (slRailGetRssi slRailRssiInvalid currentRSSIQuarterdBm)).CompletedWith
        (energyMax slRailRssiInvalid (readings ++ [currentRSSIQuarterdBm])) := by
  have hcounter := h.counter
  have hread := readRssi_max { scan with timerArmed := false } hmin hmax h.max
  obtain ⟨sEnergyReadsMax, hreads⟩ := readRssi_eq { scan with timerArmed := false }
    (slRailGetRssi slRailRssiInvalid currentRSSIQuarterdBm)
  rw [hreads] at hread
  have hzero : scan.sScanFrameCounter = 0 := by omega
  unfold EnergyScan.efr32ScanTimerHandler
  simp only [hreads]
  rw [if_neg (not_not_intro hzero)]
  exact ⟨rfl, rfl, hread, hzero⟩

end EnergyScan

/-! ## Events that leave a scan in progress alone -/

namespace Driver

variable {config : Config} {radio : Driver} {rail : RailResults}

theorem otPlatRadioEnergyScan_sameScan (radio : Driver)
    (h : radio.scan.sEnergyScanStatus = .inProgress) (iid request aScanChannel aScanDuration : ℕ) :
    radio.scan.SameScan (radio.otPlatRadioEnergyScan config rail iid request aScanChannel
      aScanDuration).2.scan := by
  unfold otPlatRadioEnergyScan
  split
  case isTrue => exact ⟨rfl, rfl, rfl, rfl⟩
  split
  case isTrue =>
    obtain ⟨_, _, heq⟩ := pushPendingCommand_eq radio config
      (.energyScan aScanChannel aScanDuration request) iid
    rw [heq]
    exact .rfl
  case isFalse =>
    have hclaimed : (radio.scan.claim iid request).sEnergyScanStatus ≠ .idle := by
      change radio.scan.sEnergyScanStatus ≠ .idle
      rw [h]
      nofun
    have hbusy : (radio.scan.claim iid request).efr32StartEnergyScan config rail .async aScanChannel
        (aScanDuration * 1000) = (.busy, radio.scan.claim iid request) :=
      EnergyScan.efr32StartEnergyScan_busy _ hclaimed
    simp only [EnergyScan.startRequest, hbusy]
    exact ⟨rfl, rfl, rfl, rfl⟩

theorem otPlatRadioGetRssi_sameScan (h : radio.scan.sEnergyScanStatus = .inProgress) :
    radio.scan.SameScan (radio.otPlatRadioGetRssi config rail).scan := by
  have hbusy : radio.scan.efr32StartEnergyScan config rail .sync radio.rx.sReceiveChannel
      config.rssiAveragingTime = (.busy, radio.scan) :=
    EnergyScan.efr32StartEnergyScan_busy _ (by rw [h]; nofun)
  unfold otPlatRadioGetRssi
  simp only
  split
  case isTrue => exact ⟨rfl, rfl, rfl, rfl⟩
  case isFalse =>
    rw [hbusy]
    exact ⟨rfl, rfl, rfl, rfl⟩

theorem ProcessPart.sameScan {gpBuffers : Bool} {next : Driver}
    (hpart : ProcessPart config rail gpBuffers radio next)
    (h : radio.scan.sEnergyScanStatus = .inProgress) : radio.scan.SameScan next.scan := by
  have hbusy : radio.isRadioTransmittingOrScanning = true := by
    simp [isRadioTransmittingOrScanning, h]
  have hunreported : radio.scan.isReportable = false := by simp [EnergyScan.isReportable, h]
  cases hpart with
  | scanReport hlocation hreportable =>
    rw [hunreported] at hreportable
    contradiction
  | scanReported => exact ⟨rfl, rfl, rfl, rfl⟩
  | transmit hdue | energyScan hdue =>
    obtain ⟨_, _, hfree⟩ := guards_of_dueCommand hdue
    rw [hbusy] at hfree
    contradiction
  | _ => exact .rfl

/-- A step other than an expiry of the dwell timer. -/
theorem step_sameScan {event : RadioEvent} {next : Driver}
    (h : radio.scan.sEnergyScanStatus = .inProgress) (hruns : event.LetsScanRun)
    (hother : ∀ currentRSSIQuarterdBm rail, event ≠ .scanTimer currentRSSIQuarterdBm rail)
    (hstep : radioStep config radio event = some next) : radio.scan.SameScan next.scan := by
  cases step_of_radioStep hstep with
  | railEvents =>
    obtain ⟨tx, rx, security, heq⟩ := railCbGeneric_eq radio config _
    rw [heq]
    exact .rfl
  | scanTimer => exact absurd rfl (hother _ _)
  | endRssiWait hcall hended => exact absurd (hended h) (Bool.eq_false_iff.mp hruns)
  | setMacKeyStep => exact .rfl
  | main hcall hmain =>
    cases hmain with
    | @transmit iid rail gpBuffers =>
      obtain ⟨_, htransmit⟩ := radio.transmit_eq config iid rail gpBuffers
      obtain ⟨_, _, _, _, _, _, _, heq⟩ := otPlatRadioTransmit_eq
        (radio.mapTx Transmitter.countRequest) config rail gpBuffers iid (txBufIndex iid)
        radio.tx.requests
      rw [htransmit, heq]
      exact .rfl
    | @energyScan iid aScanChannel aScanDuration rail =>
      have hcounted : (radio.mapScan EnergyScan.countRequest).scan.SameScan
          ((radio.mapScan EnergyScan.countRequest).otPlatRadioEnergyScan config rail iid
            radio.scan.requests aScanChannel aScanDuration).2.scan :=
        otPlatRadioEnergyScan_sameScan (radio.mapScan EnergyScan.countRequest) h iid
          radio.scan.requests aScanChannel aScanDuration
      obtain ⟨hstatus, harmed, hcounter, hmax⟩ := hcounted
      obtain ⟨_, heq⟩ := radio.energyScan_eq config iid aScanChannel aScanDuration rail
      rw [heq]
      exact ⟨hstatus, harmed, hcounter, hmax⟩
    | getRssi => exact otPlatRadioGetRssi_sameScan h
    | @receive aChannel rail =>
      obtain ⟨_, _, _, _, heq⟩ := radio.otPlatRadioReceive_eq config rail aChannel
      rw [heq]
      exact .rfl
    | @receiveAt aChannel rail =>
      obtain ⟨_, _, _, _, heq⟩ := radio.otPlatRadioReceiveAt_eq config rail aChannel
      rw [heq]
      exact .rfl
    | sleep =>
      obtain ⟨_, heq⟩ := radio.otPlatRadioSleep_eq
      rw [heq]
      exact .rfl
    | process => exact (radio.processPart config _ _).sameScan h
    | _ => exact .rfl

end Driver

/-! ## Runs -/

variable {config : Config} {radio : Driver} {count : ℕ}

theorem expiries_cons_scanTimer (currentRSSIQuarterdBm : Option ℤ) (rail : RailResults)
    (labels : List RadioEvent) :
    expiries (.scanTimer currentRSSIQuarterdBm rail :: labels) =
      currentRSSIQuarterdBm :: expiries labels := rfl

theorem expiries_cons_other {event : RadioEvent}
    (hother : ∀ currentRSSIQuarterdBm rail, event ≠ .scanTimer currentRSSIQuarterdBm rail)
    (labels : List RadioEvent) : expiries (event :: labels) = expiries labels := by
  cases event with
  | scanTimer currentRSSIQuarterdBm rail => exact absurd rfl (hother _ _)
  | _ => rfl

/-- Up to the last expiry of the scan, the run takes one reading at each expiry. -/
theorem running_of_exec {taken readings : List ℤ} {labels : List RadioEvent} {final : Driver}
    (h : radio.scan.Running slRailRssiInvalid count taken)
    (hrun : exec (radioStep config) radio labels = some final)
    (hruns : ∀ label ∈ labels, label.LetsScanRun)
    (hrange : ∀ quarterDbm ∈ readings, -512 ≤ quarterDbm ∧ quarterDbm ≤ 511)
    (hreadings : expiries labels = readings.map (slRailGetRssi slRailRssiInvalid))
    (hmore : taken.length + readings.length < count) :
    final.scan.Running slRailRssiInvalid count (taken ++ readings) := by
  induction labels generalizing radio taken readings with
  | nil =>
    obtain rfl : radio = final := by simpa using hrun
    obtain rfl : readings = [] := List.map_eq_nil_iff.mp hreadings.symm
    rwa [List.append_nil]
  | cons event labels ih =>
    obtain ⟨next, hstep, hrest⟩ := (exec_cons_eq_some _).mp hrun
    obtain ⟨hevent, hlabels⟩ := List.forall_mem_cons.mp hruns
    by_cases hexpiry : ∃ currentRSSIQuarterdBm rail, event = .scanTimer currentRSSIQuarterdBm rail
    · obtain ⟨currentRSSIQuarterdBm, rail, rfl⟩ := hexpiry
      rw [expiries_cons_scanTimer] at hreadings
      obtain ⟨quarterDbm, others, rfl, hfirst, hothers⟩ := List.map_eq_cons_iff.mp hreadings.symm
      obtain ⟨hquarter, hrange⟩ := List.forall_mem_cons.mp hrange
      rw [List.length_cons] at hmore
      have hnext : next.scan.Running slRailRssiInvalid count (taken ++ [quarterDbm]) := by
        cases Driver.step_of_radioStep hstep with
        | scanTimer harmed =>
          rw [← hfirst]
          exact h.efr32ScanTimerHandler hquarter.1 hquarter.2 hevent (by omega)
        | main hcall hmain => cases hmain; contradiction
      have hfinal := ih hnext hrest hlabels hrange hothers.symm (by
        rw [List.length_append, List.length_singleton]
        omega)
      rwa [List.append_assoc, List.singleton_append] at hfinal
    · simp only [not_exists] at hexpiry
      rw [expiries_cons_other hexpiry] at hreadings
      have hsame := Driver.step_sameScan h.inProgress hevent hexpiry hstep
      exact ih (h.of_sameScan hsame) hrest hlabels hrange hreadings hmore

/-- A start that meets no failure is accepted. -/
def EnergyScan.AcceptsNext (config : Config) (scan : EnergyScan) : Prop :=
  ∀ rail aMode aChannel aAveragingTimeUs, scan.StartsCleanly config rail aChannel →
    (scan.efr32StartEnergyScan config rail aMode aChannel aAveragingTimeUs).1 = .none

theorem EnergyScan.acceptsNext (scan : EnergyScan) (h : scan.sScanFrameCounter = 0) :
    scan.AcceptsNext config := by
  intro rail aMode aChannel aAveragingTimeUs hclean
  rw [efr32StartEnergyScan_clean scan hclean h]

/-- The scan in progress is completed by expiry number `count` of its dwell timer, whatever happens
in between, with the largest of its readings; behind its report the next scan is accepted. -/
def CompletesAfter (config : Config) (slRailRssiInvalid : ℤ) (count : ℕ) (radio : Driver) : Prop :=
  ∀ labels final readings, exec (radioStep config) radio labels = some final →
    (∀ label ∈ labels, label.LetsScanRun) →
    (∀ quarterDbm ∈ readings, -512 ≤ quarterDbm ∧ quarterDbm ≤ 511) →
    expiries labels = readings.map (slRailGetRssi slRailRssiInvalid) →
      (readings.length < count →
        final.scan.sEnergyScanStatus = .inProgress ∧ final.scan.timerArmed = true) ∧
      ∀ front currentRSSIQuarterdBm rail,
        labels = front ++ [.scanTimer currentRSSIQuarterdBm rail] → readings.length = count →
          final.scan.CompletedWith (energyMax slRailRssiInvalid readings) ∧
            final.scan.report.AcceptsNext config ∧
            ∀ before, (final.scan.finishRssi before).AcceptsNext config

theorem completesAfter_of_running
    (h : radio.scan.Running slRailRssiInvalid count []) :
    CompletesAfter config slRailRssiInvalid count radio := by
  intro labels final readings hrun hruns hrange hreadings
  refine ⟨fun hmore ↦ ?_, fun front currentRSSIQuarterdBm rail hlabels hlast ↦ ?_⟩
  · have hfinal := running_of_exec h hrun hruns hrange hreadings (by simpa using hmore)
    exact ⟨hfinal.inProgress, hfinal.timerArmed⟩
  · subst hlabels
    obtain ⟨middle, hfront, hend⟩ := (exec_append_eq_some _).mp hrun
    obtain ⟨next, hstep, hnil⟩ := (exec_cons_eq_some _).mp hend
    obtain rfl : next = final := by simpa using hnil
    have hexpiries : expiries (front ++ [.scanTimer currentRSSIQuarterdBm rail]) =
        expiries front ++ [currentRSSIQuarterdBm] := List.filterMap_append
    rw [hexpiries] at hreadings
    obtain ⟨before, ending, rfl, hbefore, hending⟩ := List.map_eq_append_iff.mp hreadings.symm
    obtain ⟨quarterDbm, rfl, hquarter⟩ := List.map_eq_singleton_iff.mp hending
    rw [List.length_append, List.length_singleton] at hlast
    have hmiddle : middle.scan.Running slRailRssiInvalid count before := by
      refine running_of_exec h hfront (fun label hlabel ↦ hruns label ?_)
        (fun other hother ↦ hrange other ?_) hbefore.symm ?_
      · exact List.mem_append_left _ hlabel
      · exact List.mem_append_left _ hother
      · rw [List.length_nil]
        omega
    have hlastRange := hrange quarterDbm (List.mem_append_right _ List.mem_cons_self)
    have hdone : next.scan.CompletedWith
        (energyMax slRailRssiInvalid (before ++ [quarterDbm])) := by
      cases Driver.step_of_radioStep hstep with
      | scanTimer harmed =>
        rw [← hquarter]
        exact hmiddle.complete hlastRange.1 hlastRange.2 hlast
      | main hcall hmain => cases hmain; contradiction
    exact ⟨hdone, EnergyScan.acceptsNext _ hdone.counter_zero,
      fun _ ↦ EnergyScan.acceptsNext _ hdone.counter_zero⟩

/-- Every scan that starts from the idle state on a valid channel with the help of RAIL is completed
by expiry number `T / (8 * d) + 1` of its dwell timer, with the largest of its readings. -/
theorem completesAfter_start (config : Config) (slRailRssiInvalid : ℤ) (symbolRate : ℕ)
    (aMode : EnergyScanMode) (aChannel aAveragingTimeUs : ℕ) (rail : RailResults) (radio : Driver)
    (hclean : radio.scan.StartsCleanly (config.withSymbolRate symbolRate) rail aChannel)
    (hcounter : radio.scan.sScanFrameCounter = 0) :
    1 ≤ efr32GetSymbolDurationUs symbolRate ∧
      ∃ scan, radio.scan.efr32StartEnergyScan (config.withSymbolRate symbolRate) rail aMode aChannel
          aAveragingTimeUs = (.none, scan) ∧
        CompletesAfter (config.withSymbolRate symbolRate) slRailRssiInvalid
          (aAveragingTimeUs / (8 * efr32GetSymbolDurationUs symbolRate) + 1)
          (radio.mapScan fun _ ↦ scan) := by
  refine ⟨efr32GetSymbolDurationUs_pos symbolRate, _,
    EnergyScan.efr32StartEnergyScan_clean radio.scan hclean hcounter, ?_⟩
  refine completesAfter_of_running ⟨rfl, rfl, ?_, rfl⟩
  change 0 + aAveragingTimeUs / (efr32GetSymbolDurationUs symbolRate * 8) + 1 = _
  rw [Nat.zero_add, Nat.mul_comm]

/-- RAIL reports 62500 symbols a second, and the scan of 128 us takes two readings. -/
theorem completesAfter_start_twoReadings :
    ∃ scan, (efr32RadioInit .singlePan).scan.efr32StartEnergyScan (Config.singlePan.withSymbolRate
        62500) {} .async 11 128 = (.none, scan) ∧
      CompletesAfter (Config.singlePan.withSymbolRate 62500) (-512) 2
        ((efr32RadioInit .singlePan).mapScan fun _ ↦ scan) :=
  (completesAfter_start .singlePan (-512) 62500 .async 11 128 {} (efr32RadioInit .singlePan)
    ⟨rfl, rfl, rfl, rfl, rfl⟩ rfl).2

/-- The idle state of a scan is reached in every run in which nothing fails: outside a scan its
counter is 0. -/
theorem counter_of_exec (config : Config) (labels : List RadioEvent) (final : Driver)
    (hrun : exec (radioStep config) (efr32RadioInit config) labels = some final)
    (hcondition : Along (radioStep config) (ScanCondition config) (efr32RadioInit config) labels)
    (hidle : final.scan.sEnergyScanStatus = .idle) : final.scan.sScanFrameCounter = 0 := by
  have hconsistent := Throughout.last (Along.throughout
    (fun _ _ _ h hcondition hstep ↦ Driver.radioStep_scanConsistent h hcondition hstep)
    (Driver.efr32RadioInit_scanConsistent config) hcondition) hrun
  exact hconsistent.counter (by rw [hidle]; nofun)

end OtEfr32.Radio
