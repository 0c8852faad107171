import OtEfr32.Radio.Conservation
import OtEfr32.Radio.WorkLeft

/-!
# The waiting ends

Hosts that keep asking can make a request wait without a bound.  When they pause, the waiting ends:
every turn of the one the driver waits for, RAIL with its answer to a transmission or a scan and
else the main loop with the next part of `efr32RadioProcess`, brings it nearer to the state in which
every request that it has accepted is reported.  What else happens in between does not matter, and
the number of turns is bounded by what there is to do.
-/

namespace OtEfr32.Radio

open Data Transition

variable {config : Config} {radio next : Driver} {rail : RailResults} {event : RadioEvent}

/-! ## Turns -/

/-- The place in `efr32RadioProcess`, as a number. -/
def ProcessLocation.index : ProcessLocation → ℕ
  | .outside => 0
  | .processRxPackets => 1
  | .processTxComplete => 2
  | .energyScanCheck => 3
  | .energyScanReported => 4
  | .processPendingCommands => 5

/-- The parts of `efr32RadioProcess` from a place to another. -/
def ProcessLocation.partsTo (location goal : ProcessLocation) : ℕ :=
  (goal.index + 6 - location.index) % 6

/-- The turns for some work: one round of `efr32RadioProcess` for each step, and the parts up to the
first. -/
def countdown (work backlog parts : ℕ) : ℕ :=
  if work = 0 then 0 else 6 * (work + backlog - 1) + parts + 1

/-- A step that does some of the work takes a turn from the rest. -/
theorem countdown_of_work {work backlog parts work' backlog' parts' : ℕ} (hwork : work' ≤ work)
    (htotal : work' + backlog' < work + backlog) (hparts : parts' ≤ 5) :
    countdown work' backlog' parts' ≤ countdown work backlog parts - 1 := by
  unfold countdown
  split_ifs <;> omega

/-- A step that comes nearer to the work takes a turn from the rest. -/
theorem countdown_of_parts {work backlog parts parts' : ℕ} (hparts : parts' < parts) :
    countdown work backlog parts' ≤ countdown work backlog parts - 1 := by
  unfold countdown
  split_ifs <;> omega

theorem work_of_countdown {work backlog parts : ℕ} (h : countdown work backlog parts = 0) :
    work = 0 := by
  unfold countdown at h
  split_ifs at h with hwork
  exact hwork

namespace Driver

/-- The driver waits for RAIL: for the end of a transmission, or for the dwell timer. -/
def awaitsRail (radio : Driver) : Bool :=
  getInternalFlag radio.tx.flags [.ongoingTxData] || radio.scan.timerArmed

/-- The work for the requests that were accepted. -/
def workLeft (config : Config) (radio : Driver) : ℕ :=
  (radio.sPendingCommandQueue.map (PendingCommand.workLeft config)).sum + radio.tx.workLeft +
    radio.scan.workLeft

/-- The part of `efr32RadioProcess` that does the next step. -/
def nextPart (radio : Driver) : ProcessLocation :=
  if radio.tx.workLeft = 1 then .processTxComplete
  else if radio.scan.isReportable then .energyScanCheck else .processPendingCommands

/-- The parts of `efr32RadioProcess` up to the next step. -/
def partsLeft (radio : Driver) : ℕ :=
  if 1 < radio.tx.workLeft ∨ radio.scan.timerArmed = true then 5
  else radio.location.partsTo radio.nextPart

/-- The turns that are left until every request is reported. -/
def turnsLeft (config : Config) (radio : Driver) : ℕ :=
  countdown (radio.workLeft config) (radio.rx.workLeft config) radio.partsLeft

/-- The step is one that the driver waits for: an answer of RAIL, or the next part of
`efr32RadioProcess` if no answer is due. -/
def isTurn (radio : Driver) : RadioEvent → Bool
  | .railEvents aEvents => radio.tx.isAnsweredBy aEvents
  | .scanTimer .. => true
  | .process .. => !radio.awaitsRail
  | _ => false

theorem partsLeft_le (radio : Driver) : radio.partsLeft ≤ 5 := by
  unfold partsLeft ProcessLocation.partsTo
  split
  · exact le_rfl
  · exact Nat.le_of_lt_succ (Nat.mod_lt _ (by decide))

theorem partsLeft_congr (hlocation : next.location = radio.location)
    (htx : next.tx.workLeft = radio.tx.workLeft) (hscan : next.scan = radio.scan) :
    next.partsLeft = radio.partsLeft := by
  rw [partsLeft, partsLeft, nextPart, nextPart, hlocation, htx, hscan]

theorem turnsLeft_congr (hqueue : next.sPendingCommandQueue = radio.sPendingCommandQueue)
    (hlocation : next.location = radio.location) (htx : next.tx.workLeft = radio.tx.workLeft)
    (hscan : next.scan = radio.scan) (hrx : next.rx.workLeft config = radio.rx.workLeft config) :
    next.turnsLeft config = radio.turnsLeft config := by
  rw [turnsLeft, turnsLeft, partsLeft_congr hlocation htx hscan, workLeft, workLeft, hqueue, htx,
    hscan, hrx]

theorem awaitsRail_eq_false :
    radio.awaitsRail = false ↔ ¬ (1 < radio.tx.workLeft ∨ radio.scan.timerArmed = true) := by
  have hongoing : getInternalFlag radio.tx.flags [.ongoingTxData] = true ↔
      1 < radio.tx.workLeft := by
    unfold Transmitter.workLeft
    split_ifs <;> simp_all
  rw [awaitsRail, Bool.or_eq_false_iff, ← hongoing, not_or, Bool.not_eq_true, Bool.not_eq_true]

theorem partsLeft_of_free (radio : Driver) (hfree : radio.awaitsRail = false) :
    radio.partsLeft = radio.location.partsTo radio.nextPart :=
  if_neg (awaitsRail_eq_false.mp hfree)

/-- A step that does some of the work. -/
theorem turnsLeft_of_work (hwork : next.workLeft config ≤ radio.workLeft config)
    (htotal : next.workLeft config + next.rx.workLeft config <
      radio.workLeft config + radio.rx.workLeft config) (turn : Bool) :
    next.turnsLeft config ≤ radio.turnsLeft config - turn.toNat :=
  (countdown_of_work hwork htotal next.partsLeft_le).trans
    (Nat.sub_le_sub_left turn.toNat_le _)

/-- While RAIL is to answer, the place in `efr32RadioProcess` does not count. -/
theorem turnsLeft_moveTo_of_awaits (radio : Driver) (config : Config)
    (hawaits : radio.awaitsRail = true) (location : ProcessLocation) :
    (radio.moveTo location).turnsLeft config = radio.turnsLeft config := by
  have hwaits : 1 < radio.tx.workLeft ∨ radio.scan.timerArmed = true := by
    by_contra hnot
    exact Bool.false_ne_true ((awaitsRail_eq_false.mpr hnot).symm.trans hawaits)
  have hparts : (radio.moveTo location).partsLeft = radio.partsLeft :=
    (if_pos hwaits).trans (if_pos hwaits).symm
  exact congrArg (countdown (radio.workLeft config) (radio.rx.workLeft config)) hparts

/-- `efr32RadioProcess` goes on to its next part. -/
theorem turnsLeft_moveTo (radio : Driver) (config : Config) (location : ProcessLocation)
    (hnear : location.partsTo radio.nextPart < radio.location.partsTo radio.nextPart) :
    (radio.moveTo location).turnsLeft config ≤
      radio.turnsLeft config - (!radio.awaitsRail).toNat := by
  cases hfree : radio.awaitsRail with
  | true => exact (turnsLeft_moveTo_of_awaits radio config hfree location).le
  | false =>
    have hparts : (radio.moveTo location).partsLeft < radio.partsLeft := by
      rw [radio.partsLeft_of_free hfree, (radio.moveTo location).partsLeft_of_free hfree]
      exact hnear
    exact countdown_of_parts hparts

theorem nextPart_cases (radio : Driver) :
    radio.nextPart = .processTxComplete ∨ radio.nextPart = .energyScanCheck ∨
      radio.nextPart = .processPendingCommands := by
  unfold nextPart
  split_ifs <;> simp

theorem ended_of_nextPart (h : radio.nextPart = .processTxComplete) : radio.tx.workLeft = 1 := by
  unfold nextPart at h
  split_ifs at h with hended
  exact hended

theorem reportable_of_nextPart (h : radio.nextPart = .energyScanCheck) :
    radio.scan.isReportable = true := by
  unfold nextPart at h
  split_ifs at h with hended hreportable
  exact hreportable

/-- When the main loop finds no command although nothing else is to be done, no command waits. -/
theorem workLeft_of_noCommand (hmultipan : config.multipan = true) (hlive : radio.scan.IsLive)
    (hlocation : radio.location = .processPendingCommands)
    (hdue : radio.dueCommand config = none) (hfree : radio.awaitsRail = false)
    (hnext : radio.nextPart = .processPendingCommands) : radio.workLeft config = 0 := by
  have hquiet := not_or.mp (awaitsRail_eq_false.mp hfree)
  obtain ⟨hended, hreportable⟩ : radio.tx.workLeft ≠ 1 ∧ radio.scan.isReportable ≠ true := by
    unfold nextPart at hnext
    split_ifs at hnext with hended hreportable
    exact ⟨hended, hreportable⟩
  have htx : radio.tx.workLeft = 0 := by omega
  have hscan : radio.scan.workLeft = 0 := by
    rw [EnergyScan.workLeft, if_neg hquiet.2, if_neg hreportable]
  have hidle : radio.scan.sEnergyScanStatus = .idle := by
    by_contra hbusy
    exact (hlive hbusy).elim hquiet.2 hreportable
  have hqueue : radio.sPendingCommandQueue = [] := by
    rw [dueCommand, if_pos ⟨hlocation, hmultipan, isRadioTransmittingOrScanning_eq_false.mpr
      ⟨hidle, Transmitter.workLeft_eq_zero htx⟩⟩] at hdue
    exact List.head?_eq_none_iff.mp hdue
  rw [workLeft, hqueue, htx, hscan]
  rfl

theorem processTxComplete_same {phase : TxPhase} (h : radio.tx.InPhase config phase)
    (hended : radio.tx.workLeft ≠ 1) : radio.tx.processTxComplete = radio.tx := by
  rw [h.workLeft_eq] at hended
  unfold Transmitter.processTxComplete
  rw [h.events.getInternalFlag fun _ ↦ TxPhase.event_mem]
  cases phase with
  | ended cause => exact absurd rfl hended
  | _ => rfl

/-- A command that is due is done with, but for the steps of its transmission. -/
theorem otPlatRadioTransmit_workLeft (rail : RailResults) (hmultipan : config.multipan = true)
    (hpal : config.canAccessPal = true) (hfree : radio.isRadioTransmittingOrScanning = false)
    {iid txFrame request : ℕ} {rest : List PendingCommand}
    (hqueue : radio.sPendingCommandQueue = ⟨.transmit txFrame request, iid⟩ :: rest) :
    ({ radio with sPendingCommandQueue := rest }.otPlatRadioTransmit config rail false iid txFrame
        request).2.workLeft config < radio.workLeft config := by
  rw [otPlatRadioTransmit_free { radio with sPendingCommandQueue := rest } hmultipan hpal hfree]
  obtain ⟨tx, security, power, railChannel, transmissionStarts, hnow⟩ := transmitNow_eq
    (mapTx { radio with sPendingCommandQueue := rest } fun tx ↦ tx.acceptFrame config iid txFrame)
    config rail iid txFrame request
  have hle := tx.workLeft_le
  rw [hnow, workLeft, workLeft, hqueue, List.map_cons, List.sum_cons]
  change (rest.map _).sum + tx.workLeft + radio.scan.workLeft <
    4 + (rest.map _).sum + radio.tx.workLeft + radio.scan.workLeft
  omega

theorem otPlatRadioEnergyScan_workLeft (rail : RailResults) (hpal : config.canAccessPal = true)
    (hfree : radio.isRadioTransmittingOrScanning = false)
    (hunarmed : radio.scan.timerArmed = false) {iid scanChannel scanDuration request : ℕ}
    {rest : List PendingCommand}
    (hqueue : radio.sPendingCommandQueue =
      ⟨.energyScan scanChannel scanDuration request, iid⟩ :: rest) :
    ({ radio with sPendingCommandQueue := rest }.otPlatRadioEnergyScan config rail iid request
        scanChannel scanDuration).2.workLeft config < radio.workLeft config := by
  obtain ⟨railChannel, hscan⟩ := otPlatRadioEnergyScan_free
    { radio with sPendingCommandQueue := rest } rail hpal hfree iid request scanChannel scanDuration
  have hle := EnergyScan.startRequest_workLeft hunarmed config rail iid request scanChannel
    scanDuration
  rw [hscan, workLeft, workLeft, hqueue, List.map_cons, List.sum_cons]
  change (rest.map _).sum + radio.tx.workLeft + (radio.scan.startRequest config rail iid request
      scanChannel scanDuration).2.workLeft <
    scanDuration * 1000 / (config.symbolDurationUs * 8) + 3 + (rest.map _).sum +
      radio.tx.workLeft + radio.scan.workLeft
  omega

/-- `processTxComplete` reports the end of a transmission, or has nothing to report. -/
theorem processTxComplete_turnsLeft (htx : TxConsistent config radio)
    (hlocation : radio.location = .processTxComplete) :
    ((radio.mapTx Transmitter.processTxComplete).moveTo .energyScanCheck).turnsLeft config ≤
      radio.turnsLeft config - (!radio.awaitsRail).toNat := by
  obtain ⟨phase, hphase⟩ := htx.phase
  by_cases hended : radio.tx.workLeft = 1
  · have hreported : radio.tx.processTxComplete.workLeft < radio.tx.workLeft := by
      rw [(Transmitter.processTxComplete_inPhase hphase).workLeft_eq, hended]
      rw [hphase.workLeft_eq] at hended
      rcases phase with - | (_ | _) | cause
      case ended => exact Nat.zero_lt_one
      all_goals contradiction
    have hwork : (((radio.mapTx Transmitter.processTxComplete).moveTo
        .energyScanCheck).workLeft config) < radio.workLeft config :=
      Nat.add_lt_add_right (Nat.add_lt_add_left hreported _) _
    exact turnsLeft_of_work hwork.le (Nat.add_lt_add_right hwork _) _
  · have hsame : radio.mapTx Transmitter.processTxComplete = radio := by
      rw [mapTx, processTxComplete_same hphase hended]
    rw [hsame]
    apply turnsLeft_moveTo
    rcases radio.nextPart_cases with hnext | hnext | hnext
    · exact absurd (ended_of_nextPart hnext) hended
    all_goals
      rw [hlocation, hnext]
      decide

/-- The report of a scan is some of the work. -/
theorem scanReport_turnsLeft (h : RequestsConsistent config radio)
    (hreportable : radio.scan.isReportable = true) (turn : Bool) :
    ((radio.mapScan EnergyScan.report).moveTo .energyScanReported).turnsLeft config ≤
      radio.turnsLeft config - turn.toNat := by
  have hunarmed : radio.scan.timerArmed = false := by
    apply h.unarmed
    rw [EnergyScan.isReportable, Bool.and_eq_true, beq_iff_eq, beq_iff_eq] at hreportable
    rw [hreportable.2]
    decide
  have hreported : radio.scan.report.workLeft < radio.scan.workLeft := by
    rw [EnergyScan.report_workLeft hunarmed]
    simp [EnergyScan.workLeft, hunarmed, hreportable]
  have hwork : ((radio.mapScan EnergyScan.report).moveTo .energyScanReported).workLeft config <
      radio.workLeft config := Nat.add_lt_add_left hreported _
  exact turnsLeft_of_work hwork.le (Nat.add_lt_add_right hwork _) _

/-- `processPendingCommands` finds nothing to execute: something else is next, or all is done. -/
theorem noCommand_turnsLeft (hmultipan : config.multipan = true) (hlive : radio.scan.IsLive)
    (hlocation : radio.location = .processPendingCommands)
    (hdue : radio.dueCommand config = none) :
    (radio.moveTo .outside).turnsLeft config ≤
      radio.turnsLeft config - (!radio.awaitsRail).toNat := by
  rcases radio.nextPart_cases with hnext | hnext | hnext
  case inr.inr =>
    cases hfree : radio.awaitsRail with
    | true => exact (turnsLeft_moveTo_of_awaits radio config hfree .outside).le
    | false =>
      have hdone : (radio.moveTo .outside).turnsLeft config = 0 :=
        if_pos (workLeft_of_noCommand hmultipan hlive hlocation hdue hfree hnext)
      exact hdone.le.trans (Nat.zero_le _)
  all_goals
    apply turnsLeft_moveTo
    rw [hlocation, hnext]
    decide

/-- A part of `efr32RadioProcess` is a turn, unless RAIL is to answer. -/
theorem ProcessPart.turnsLeft (hpart : ProcessPart config rail false radio next)
    (h : RequestsConsistent config radio) (htx : TxConsistent config radio)
    (hlive : radio.scan.IsLive) (hmultipan : config.multipan = true)
    (hcondition : ConservationCondition config radio (.process rail false)) :
    next.turnsLeft config ≤ radio.turnsLeft config - (!radio.awaitsRail).toNat := by
  cases hpart with
  | enter hlocation =>
    apply turnsLeft_moveTo
    rcases radio.nextPart_cases with hnext | hnext | hnext <;> rw [hlocation, hnext] <;> decide
  | visit hlocation hvisit =>
    apply turnsLeft_of_work
    · exact le_rfl
    · exact Nat.add_lt_add_left (radio.rx.visitStep_workLeft hvisit) _
  | startVisit hlocation hvisit hqueue =>
    apply turnsLeft_of_work
    · exact le_rfl
    · exact Nat.add_lt_add_left (radio.rx.startVisit_workLeft _ hvisit hqueue) _
  | rxDone hlocation =>
    apply turnsLeft_moveTo
    rcases radio.nextPart_cases with hnext | hnext | hnext <;> rw [hlocation, hnext] <;> decide
  | txComplete hlocation => exact processTxComplete_turnsLeft htx hlocation
  | scanReport hlocation hreportable => exact scanReport_turnsLeft h hreportable _
  | noReport hlocation hreportable =>
    apply turnsLeft_moveTo
    rcases radio.nextPart_cases with hnext | hnext | hnext
    case inr.inl =>
      exact absurd (hreportable.symm.trans (reportable_of_nextPart hnext)) Bool.false_ne_true
    all_goals
      rw [hlocation, hnext]
      decide
  | scanReported hlocation =>
    apply turnsLeft_moveTo (radio.mapScan EnergyScan.clearActiveInterface)
    have hsame : (radio.mapScan EnergyScan.clearActiveInterface).nextPart = radio.nextPart := rfl
    have hstays : (radio.mapScan EnergyScan.clearActiveInterface).location =
      .energyScanReported := hlocation
    rw [hsame, hstays]
    rcases radio.nextPart_cases with hnext | hnext | hnext <;> rw [hnext] <;> decide
  | noCommand hlocation hdue => exact noCommand_turnsLeft hmultipan hlive hlocation hdue
  | @transmit iid txFrame request rest hdue hqueue =>
    obtain ⟨_, hmultipan, hfree⟩ := guards_of_dueCommand hdue
    obtain ⟨hpal, _⟩ := hcondition.1 _ hdue
    have hwork := otPlatRadioTransmit_workLeft rail hmultipan hpal hfree hqueue
    apply turnsLeft_of_work
    · exact hwork.le
    · change _ + Receiver.workLeft config (otPlatRadioTransmit _ _ _ _ _ _ _).2.rx < _
      rw [otPlatRadioTransmit_rx]
      exact Nat.add_lt_add_right hwork _
  | @energyScan iid scanChannel scanDuration request rest hdue hqueue =>
    obtain ⟨_, _, hfree⟩ := guards_of_dueCommand hdue
    obtain ⟨hpal, _⟩ := hcondition.1 _ hdue
    have hidle := (isRadioTransmittingOrScanning_eq_false.mp hfree).1
    have hunarmed := h.unarmed (by rw [hidle]; decide)
    have hwork := otPlatRadioEnergyScan_workLeft rail hpal hfree hunarmed hqueue
    apply turnsLeft_of_work
    · exact hwork.le
    · change _ + Receiver.workLeft config (otPlatRadioEnergyScan _ _ _ _ _ _ _).2.rx < _
      rw [otPlatRadioEnergyScan_rx]
      exact Nat.add_lt_add_right hwork _

/-! ## Scans that go on -/

theorem energyScan_isLive (h : RequestsConsistent config radio) (hlive : radio.scan.IsLive)
    (hmultipan : config.multipan = true) {iid aScanChannel aScanDuration : ℕ}
    (hexecutes : config.canAccessPal = true → radio.isRadioTransmittingOrScanning = false →
      radio.scan.StartExecutes config rail aScanChannel) :
    (radio.energyScan config iid aScanChannel aScanDuration rail).scan.IsLive := by
  cases hpal : config.canAccessPal with
  | false =>
    unfold energyScan otPlatRadioEnergyScan
    simp only [hpal, ↓reduceIte]
    exact hlive
  | true =>
  cases hbusy : radio.isRadioTransmittingOrScanning with
  | true =>
    rw [energyScan_busy hmultipan hpal hbusy]
    obtain ⟨sPendingCommandQueue, pendingOverflows, hpush⟩ := pushPendingCommand_eq
      (radio.mapScan EnergyScan.countRequest) config
      (.energyScan aScanChannel aScanDuration radio.scan.requests) iid
    rw [hpush]
    exact hlive
  | false =>
    have hidle := (isRadioTransmittingOrScanning_eq_false.mp hbusy).1
    have hunarmed := h.unarmed (by rw [hidle]; decide)
    have hstarted : (radio.scan.countRequest.startRequest config rail iid radio.scan.requests
        aScanChannel aScanDuration).2.IsLive :=
      radio.scan.countRequest.startRequest_isLive hidle hunarmed (hexecutes hpal hbusy) _ _ _
    obtain ⟨railChannel, hscan⟩ := otPlatRadioEnergyScan_free
      (radio.mapScan EnergyScan.countRequest) rail hpal hbusy iid radio.scan.requests aScanChannel
      aScanDuration
    unfold energyScan
    simp only [hscan]
    split <;> exact hstarted

theorem ProcessPart.isLive (hpart : ProcessPart config rail false radio next)
    (h : RequestsConsistent config radio) (hlive : radio.scan.IsLive)
    (hcondition : ConservationCondition config radio (.process rail false)) :
    next.scan.IsLive := by
  cases hpart with
  | scanReport => exact fun hbusy ↦ absurd rfl hbusy
  | @transmit iid txFrame request rest =>
    obtain ⟨_, _, _, _, _, _, _, heq⟩ := otPlatRadioTransmit_eq
      { radio with sPendingCommandQueue := rest } config rail false iid txFrame request
    rw [heq]
    exact hlive
  | @energyScan iid scanChannel scanDuration request rest hdue hqueue =>
    obtain ⟨_, _, hfree⟩ := guards_of_dueCommand hdue
    obtain ⟨hpal, hexecutes⟩ := hcondition.1 _ hdue
    have hidle := (isRadioTransmittingOrScanning_eq_false.mp hfree).1
    obtain ⟨railChannel, hscan⟩ := otPlatRadioEnergyScan_free
      { radio with sPendingCommandQueue := rest } rail hpal hfree iid request scanChannel
      scanDuration
    have hstarted := radio.scan.startRequest_isLive hidle (h.unarmed (by rw [hidle]; decide))
      hexecutes iid request scanDuration
    rw [hscan]
    exact hstarted
  | _ => exact hlive

end Driver

/-- A scan that finds the radio free starts, or is completed at once. -/
def ScansExecute (config : Config) (radio : Driver) : RadioEvent → Prop
  | .energyScan _ aScanChannel _ rail =>
    config.canAccessPal = true → radio.isRadioTransmittingOrScanning = false →
      radio.scan.StartExecutes config rail aScanChannel
  | _ => True

instance : ∀ radio event, Decidable (ScansExecute config radio event)
  | radio, .energyScan _ aScanChannel _ rail =>
    inferInstanceAs (Decidable (_ → _ → radio.scan.StartExecutes config rail aScanChannel))
  | _, .writeFrame .. | _, .transmit .. | _, .getRssi _ | _, .endRssiWait _ | _, .receive ..
  | _, .receiveAt .. | _, .sleep | _, .setChannelMaxTransmitPower .. | _, .setTransmitPower ..
  | _, .setPanId .. | _, .setPromiscuous _ | _, .setMacFrameCounterIfLarger .. | _, .setMacKey _
  | _, .setMacKeyStep | _, .scanTimer .. | _, .railEvents _ | _, .process .. => .isTrue trivial

/-- What the stack and RAIL respect while requests are reported: the stack keeps its contract, no
request is lost, and every scan goes on. -/
structure ReportingContract (config : Config) (radio : Driver) (event : RadioEvent) : Prop where
  contract : RequestContract config radio event
  conservation : ConservationCondition config radio event
  scans : ScansExecute config radio event

instance (event : RadioEvent) : Decidable (ReportingContract config radio event) :=
  decidable_of_iff (RequestContract config radio event ∧
      ConservationCondition config radio event ∧ ScansExecute config radio event)
    ⟨fun h ↦ ⟨h.1, h.2.1, h.2.2⟩, fun h ↦ ⟨h.contract, h.conservation, h.scans⟩⟩

namespace Driver

/-- What is true of the driver between the steps. -/
structure IsReporting (config : Config) (radio : Driver) : Prop where
  requests : RequestsConsistent config radio
  tx : TxConsistent config radio
  scan : radio.scan.IsLive

theorem radioStep_isReporting (h : IsReporting config radio) (hmultipan : config.multipan = true)
    (hcontract : ReportingContract config radio event)
    (hstep : radioStep config radio event = some next) : IsReporting config next where
  requests := radioStep_requestsConsistent h.requests h.tx hmultipan hcontract.contract
    hcontract.conservation hstep
  tx := radioStep_txConsistent h.tx hcontract.contract.1 hstep
  scan := by
    cases step_of_radioStep hstep with
    | railEvents =>
      obtain ⟨tx, rx, security, heq⟩ := railCbGeneric_eq radio config _
      rw [heq]
      exact h.scan
    | scanTimer harmed =>
      obtain ⟨-, request, -, hscanning⟩ := h.requests.armed harmed
      exact EnergyScan.efr32ScanTimerHandler_isLive (radio.scan.mode_of_scanning hscanning)
        hcontract.conservation _
    | endRssiWait hcall =>
      have hnone := h.requests.rssiCall.symm.trans hcall
      contradiction
    | setMacKeyStep => exact h.scan
    | main hcall hmain =>
      cases hmain with
      | @transmit iid rail gpBuffers =>
        obtain ⟨_, heq⟩ := radio.transmit_eq config iid rail gpBuffers
        obtain ⟨_, _, _, _, _, _, _, hsame⟩ := otPlatRadioTransmit_eq
          (radio.mapTx Transmitter.countRequest) config rail gpBuffers iid (txBufIndex iid)
          radio.tx.requests
        rw [heq, hsame]
        exact h.scan
      | energyScan => exact energyScan_isLive h.requests h.scan hmultipan hcontract.scans
      | getRssi => exact absurd hcontract.contract.2 Bool.false_ne_true
      | @receive aChannel rail =>
        obtain ⟨_, _, _, _, heq⟩ := radio.otPlatRadioReceive_eq config rail aChannel
        rw [heq]
        exact h.scan
      | @receiveAt aChannel rail =>
        obtain ⟨_, _, _, _, heq⟩ := radio.otPlatRadioReceiveAt_eq config rail aChannel
        rw [heq]
        exact h.scan
      | sleep =>
        obtain ⟨_, heq⟩ := radio.otPlatRadioSleep_eq
        rw [heq]
        exact h.scan
      | writeFrame | setChannelMaxTransmitPower | setTransmitPower | setPanId | setPromiscuous
        | setMacFrameCounterIfLarger | setMacKey | refused => exact h.scan
      | @process rail gpBuffers =>
        obtain rfl : gpBuffers = false := (Bool.not_eq_true' _).mp hcontract.contract.2
        exact (radio.processPart config rail false).isLive h.requests h.scan
          hcontract.conservation

end Driver

/-! ## Runs -/

/-- The event brings no new work: it is no request, and RAIL receives nothing but
acknowledgments. -/
def RadioEvent.isQuiet : RadioEvent → Bool
  | .transmit .. | .energyScan .. => false
  | .railEvents aEvents => aEvents.rxPacketReceived.all RxPacket.isAck
  | _ => true

namespace Driver

/-- RAIL's answer is a turn, and whatever else RAIL reports is no new work. -/
theorem railCbGeneric_turnsLeft (htx : TxConsistent config radio) (aEvents : RailEvents)
    (hquiet : (RadioEvent.railEvents aEvents).isQuiet = true) :
    (radio.railCbGeneric config aEvents).turnsLeft config ≤
      radio.turnsLeft config - (radio.tx.isAnsweredBy aEvents).toNat := by
  have hanswer := railCbGeneric_workLeft htx aEvents
  have hrx := radio.railCbGeneric_rx config fun packet hpacket ↦ by
    rw [RadioEvent.isQuiet, hpacket] at hquiet
    exact hquiet
  obtain ⟨tx, rx, security, heq⟩ := railCbGeneric_eq radio config aEvents
  rw [heq] at hanswer hrx ⊢
  subst hrx
  change tx.workLeft ≤ _ at hanswer
  rcases Nat.lt_or_eq_of_le (hanswer.trans (Nat.sub_le _ _)) with hlower | hsame
  · have hwork : workLeft config { radio with tx, security } < radio.workLeft config :=
      Nat.add_lt_add_right (Nat.add_lt_add_left hlower _) _
    exact turnsLeft_of_work hwork.le (Nat.add_lt_add_right hwork _) _
  · have hunanswered : radio.tx.isAnsweredBy aEvents = false := by
      refine Bool.of_not_eq_true fun hanswered ↦ ?_
      have hpos := radio.tx.workLeft_pos_of_answer hanswered
      rw [hanswered, hsame] at hanswer
      exact absurd hanswer (Nat.not_le_of_lt (Nat.sub_one_lt_of_lt hpos))
    rw [hunanswered]
    have hturns : turnsLeft config { radio with tx, security } = radio.turnsLeft config :=
      turnsLeft_congr rfl rfl hsame rfl rfl
    exact hturns.le

/-- An expiry of the dwell timer is a turn. -/
theorem efr32ScanTimerHandler_turnsLeft (harmed : radio.scan.timerArmed = true)
    (rail : RailResults) (currentRSSIQuarterdBm : Option ℤ) (turn : Bool) :
    (radio.mapScan fun scan ↦ scan.efr32ScanTimerHandler rail
        currentRSSIQuarterdBm).turnsLeft config ≤ radio.turnsLeft config - turn.toNat := by
  have hlower : (radio.scan.efr32ScanTimerHandler rail currentRSSIQuarterdBm).workLeft <
      radio.scan.workLeft := by
    have hle := EnergyScan.efr32ScanTimerHandler_workLeft harmed rail currentRSSIQuarterdBm
    have hpos : 0 < radio.scan.workLeft := by
      rw [EnergyScan.workLeft, if_pos harmed]
      exact Nat.succ_pos _
    omega
  have hwork : (radio.mapScan fun scan ↦ scan.efr32ScanTimerHandler rail
      currentRSSIQuarterdBm).workLeft config < radio.workLeft config :=
    Nat.add_lt_add_left hlower _
  exact turnsLeft_of_work hwork.le (Nat.add_lt_add_right hwork _) _

theorem otPlatRadioReceive_turnsLeft (radio : Driver) (config : Config) (rail : RailResults)
    (aChannel : ℕ) :
    (radio.otPlatRadioReceive config rail aChannel).2.turnsLeft config ≤
      radio.turnsLeft config := by
  unfold otPlatRadioReceive
  split_ifs
  case neg =>
    exact (turnsLeft_congr rfl rfl (radio.tx.setFlag_workLeft false (by decide)) rfl rfl).le
  all_goals exact le_rfl

theorem otPlatRadioReceiveAt_turnsLeft (radio : Driver) (config : Config) (rail : RailResults)
    (aChannel : ℕ) :
    (radio.otPlatRadioReceiveAt config rail aChannel).2.turnsLeft config ≤
      radio.turnsLeft config := by
  unfold otPlatRadioReceiveAt
  split_ifs
  case neg =>
    exact (turnsLeft_congr rfl rfl (radio.tx.setFlag_workLeft true (by decide)) rfl rfl).le
  case pos =>
    have hset : (radio.tx.setFlag [.scheduledRxPending] true).workLeft = radio.tx.workLeft :=
      radio.tx.setFlag_workLeft true (by decide)
    have hcleared : ((radio.tx.setFlag [.scheduledRxPending] true).setFlag
        [.scheduledRxPending] false).workLeft = radio.tx.workLeft :=
      (Transmitter.setFlag_workLeft _ false (by decide)).trans hset
    exact (turnsLeft_congr rfl rfl hcleared rfl rfl).le
  all_goals exact le_rfl

theorem otPlatRadioSetPanId_turnsLeft (radio : Driver) (config : Config) (iid aPanId : ℕ) :
    (radio.mapRx fun rx ↦ rx.otPlatRadioSetPanId config iid aPanId).turnsLeft config =
      radio.turnsLeft config := by
  have hrx : (radio.rx.otPlatRadioSetPanId config iid aPanId).workLeft config =
      radio.rx.workLeft config := by
    unfold Receiver.otPlatRadioSetPanId
    split <;> rfl
  exact turnsLeft_congr rfl rfl rfl rfl hrx

/-- A step that brings no new work keeps the turns that are left, and a turn takes one of them. -/
theorem radioStep_turnsLeft (h : IsReporting config radio) (hmultipan : config.multipan = true)
    (hcontract : ReportingContract config radio event) (hquiet : event.isQuiet = true)
    (hstep : radioStep config radio event = some next) :
    next.turnsLeft config ≤ radio.turnsLeft config - (radio.isTurn event).toNat := by
  cases step_of_radioStep hstep with
  | @railEvents aEvents => exact railCbGeneric_turnsLeft h.tx aEvents hquiet
  | @scanTimer currentRSSIQuarterdBm rail harmed =>
    exact efr32ScanTimerHandler_turnsLeft harmed rail currentRSSIQuarterdBm _
  | endRssiWait hcall =>
    have hnone := h.requests.rssiCall.symm.trans hcall
    contradiction
  | setMacKeyStep => exact le_rfl
  | main hcall hmain =>
    cases hmain with
    | transmit | energyScan => contradiction
    | getRssi => exact absurd hcontract.contract.2 Bool.false_ne_true
    | @receive aChannel rail => exact radio.otPlatRadioReceive_turnsLeft config rail aChannel
    | @receiveAt aChannel rail => exact radio.otPlatRadioReceiveAt_turnsLeft config rail aChannel
    | sleep =>
      unfold otPlatRadioSleep
      split
      · exact le_rfl
      · exact (turnsLeft_congr rfl rfl (radio.tx.setFlag_workLeft false (by decide)) rfl rfl).le
    | @setPanId iid aPanId => exact (radio.otPlatRadioSetPanId_turnsLeft config iid aPanId).le
    | writeFrame | setChannelMaxTransmitPower | setTransmitPower | setPromiscuous
      | setMacFrameCounterIfLarger | setMacKey => exact le_rfl
    | refused hpal hsetting => cases event <;> first | exact le_rfl | contradiction
    | @process rail gpBuffers =>
      obtain rfl : gpBuffers = false := (Bool.not_eq_true' _).mp hcontract.contract.2
      exact (radio.processPart config rail false).turnsLeft h.requests h.tx h.scan hmultipan
        hcontract.conservation

/-- When no work is left, no command waits, no scan is running and nothing is unreported. -/
theorem places_of_done (hwork : radio.workLeft config = 0) : radio.places = radio.reported := by
  rw [workLeft, Nat.add_eq_zero_iff, Nat.add_eq_zero_iff] at hwork
  obtain ⟨⟨hsum, htx⟩, hscan⟩ := hwork
  have hqueue : radio.sPendingCommandQueue = [] := by
    refine List.eq_nil_iff_forall_not_mem.mpr fun command hcommand ↦ ?_
    have hmem : command.workLeft config ∈
        radio.sPendingCommandQueue.map (PendingCommand.workLeft config) :=
      List.mem_map_of_mem hcommand
    have hzero := List.sum_eq_zero_iff_forall_eq_nat.mp hsum _ hmem
    exact absurd hzero (command.workLeft_pos config).ne'
  have htransmitting : radio.tx.transmitting = [] := by
    rw [Transmitter.transmitting, Transmitter.workLeft_eq_zero htx]
    rfl
  rw [places, waiting, hqueue, Transmitter.begun, htransmitting, EnergyScan.begun,
    EnergyScan.workLeft_eq_zero hscan, List.append_nil, List.append_nil]
  rfl

theorem efr32RadioInit_isReporting (config : Config) :
    IsReporting config (efr32RadioInit config) where
  requests := efr32RadioInit_requestsConsistent config
  tx := efr32RadioInit_txConsistent config
  scan := fun hbusy ↦ absurd rfl hbusy

end Driver

/-- In every run of a multipan build that meets the contract and from every state of it: when the
stack pauses, every request that was accepted is reported once, as soon as there were `turnsLeft`
turns, whatever else happened in between. -/
theorem reported_of_turns (config : Config) (hmultipan : config.multipan = true)
    (labels later : List RadioEvent) (radio final : Driver)
    (hcontract : Along (radioStep config) (ReportingContract config) (efr32RadioInit config)
      (labels ++ later))
    (hrun : exec (radioStep config) (efr32RadioInit config) labels = some radio)
    (hquiet : ∀ event ∈ later, event.isQuiet = true)
    (hlater : exec (radioStep config) radio later = some final)
    (hturns : radio.turnsLeft config ≤ turns (radioStep config) Driver.isTurn radio later) :
    Conserved final.accepted final.reported := by
  have hkeep : ∀ radio event next, Driver.IsReporting config radio →
      ReportingContract config radio event → radioStep config radio event = some next →
        Driver.IsReporting config next :=
    fun _ _ _ h hcontract hstep ↦ Driver.radioStep_isReporting h hmultipan hcontract hstep
  obtain ⟨hfront, hback⟩ := hcontract.append hrun
  have hpaused : Driver.IsReporting config radio :=
    (hfront.throughout hkeep (Driver.efr32RadioInit_isReporting config)).last hrun
  have hfinal : Driver.IsReporting config final := (hback.throughout hkeep hpaused).last hlater
  have hle : final.turnsLeft config ≤
      radio.turnsLeft config - turns (radioStep config) Driver.isTurn radio later :=
    measure_le_sub_turns
      (fun _ _ _ h hcontract hstep ↦ hkeep _ _ _ h hcontract.1 hstep)
      (fun _ _ _ h hcontract hstep ↦
        Driver.radioStep_turnsLeft h hmultipan hcontract.1 hcontract.2 hstep)
      hpaused (hback.and (along_of_mem hquiet)) hlater
  have hdone : final.turnsLeft config = 0 := by omega
  have hreported := Driver.places_of_done (work_of_countdown hdone)
  exact hreported ▸ hfinal.requests.conserved

/-- Host 2 asks for a transmission while that of host 1 is under way. -/
def waitingHost : List RadioEvent :=
  [.writeFrame 1 { mPsdu := [0x41, 0x88, 1], mChannel := 11 }, .transmit 1 {} false,
    .writeFrame 2 { mPsdu := [0x41, 0x88, 2], mChannel := 15 }, .transmit 2 {} false]

/-- The hosts pause, RAIL sends the two packets, and the main loop goes on. -/
def pausingHosts : List RadioEvent :=
  .railEvents { tx := { txPacketSent := true } } :: List.replicate 6 (.process {} false) ++
    .railEvents { tx := { txPacketSent := true } } :: List.replicate 37 (.process {} false)

theorem reported_of_turns_pausingHosts :
    ∃ radio final,
      exec (radioStep .twoHosts) (efr32RadioInit .twoHosts) waitingHost = some radio ∧
      exec (radioStep .twoHosts) radio pausingHosts = some final ∧
      radio.waiting = [⟨.transmit, 2, 1⟩] ∧ Conserved final.accepted final.reported :=
  ⟨(exec (radioStep .twoHosts) (efr32RadioInit .twoHosts) waitingHost).get (by decide),
    (exec (radioStep .twoHosts) ((exec (radioStep .twoHosts) (efr32RadioInit .twoHosts)
      waitingHost).get (by decide)) pausingHosts).get (by decide +kernel),
    (Option.some_get _).symm, (Option.some_get _).symm, by decide,
    reported_of_turns .twoHosts rfl waitingHost pausingHosts _ _ (by decide +kernel)
      (Option.some_get _).symm (by decide) (Option.some_get _).symm (by decide +kernel)⟩

end OtEfr32.Radio
