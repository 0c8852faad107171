import OtEfr32.Radio.Requests
import OtEfr32.Radio.TransmitPath

/-!
# Transmissions granted by the arbiter

With coexistence a packet goes to RAIL when the packet traffic arbiter allows it.  Whatever the
arbiter does, the transmitter stays in a phase.  `coexLaw_iff` says when its grants are in turn:
then, and only then, no assertion fails and no packet is handed to RAIL twice.
-/

namespace OtEfr32.Radio

open Transition

variable {config : Config} {path : TransmitPath} {phase : TxPhase}

/-! ## Phases -/

theorem Transmitter.txCurrentPacket_inPhase_of {tx : Transmitter} (h : tx.InPhase config phase)
    (rail : RailResults) :
    ∃ after, after.isIdle = phase.isIdle ∧ (tx.txCurrentPacket rail).InPhase config after := by
  have hprepared : (if getInternalFlag tx.flags [.scheduledRxPending] then
      tx.setFlag [.scheduledRxPending, .scheduledRxStarted] false else tx).InPhase config
        phase := by
    split
    · exact h.setFlag _ _ (by decide)
    · exact h
  unfold Transmitter.txCurrentPacket
  generalize (if getInternalFlag tx.flags [.scheduledRxPending] then
    tx.setFlag [.scheduledRxPending, .scheduledRxStarted] false else tx) = prepared at hprepared
  simp only
  unfold Transmitter.txStartResult
  split
  case isTrue =>
    refine ⟨phase, rfl, ?_⟩
    split
    · exact hprepared
    · exact hprepared.setFlag _ _ (by decide)
  case isFalse =>
    exact ⟨_, TxPhase.finish_isIdle _ _, Transmitter.txFailedCallback_inPhase hprepared rfl⟩

namespace TransmitPath

theorem packetReceivedCallback_inPhase (h : path.tx.InPhase config phase) (packet : RxPacket)
    (stored : Bool) :
    ∃ after, after.isIdle = phase.isIdle ∧
      (path.packetReceivedCallback packet stored).tx.InPhase config after := by
  unfold packetReceivedCallback
  split
  · exact ⟨phase, rfl, h⟩
  split
  · split
    · rw [ackReceived_tx]
      exact Transmitter.ackReceived_inPhase h packet
    · exact ⟨phase, rfl, h⟩
  split
  · refine ⟨phase, rfl, ?_⟩
    split
    · exact h.setFlag _ _ (by decide)
    · rw [yieldPendingData_tx]
      exact h
  · exact ⟨phase, rfl, h⟩

/-- The RAIL events of a call may end a transmission, but neither start nor report one. -/
theorem railCbGeneric_inPhase (h : path.tx.InPhase config phase) (aEvents : TxEvents)
    (rxPacketReceived : Option (RxPacket × Bool)) :
    ∃ after, after.isIdle = phase.isIdle ∧
      (path.railCbGeneric aEvents rxPacketReceived).tx.InPhase config after := by
  obtain ⟨completed, hcompleted, hphase⟩ := Transmitter.completionEvents_inPhase h aEvents
  obtain ⟨scheduled, hscheduled, hphase⟩ := Transmitter.scheduledEvents_inPhase hphase aEvents
  have hidle := hscheduled.trans hcompleted
  rw [← completionEvents_tx, ← scheduledEvents_tx] at hphase
  unfold railCbGeneric
  simp only [schedulerEvent_tx, ackTimeoutEvent_tx, txackEvents_tx]
  cases rxPacketReceived with
  | none =>
    obtain ⟨after, hafter, hlate⟩ := lateEvents_inPhase hphase aEvents
    exact ⟨after, hafter.trans hidle, hlate⟩
  | some received =>
    obtain ⟨during, hduring, hphase⟩ :=
      packetReceivedCallback_inPhase hphase received.1 received.2
    obtain ⟨after, hafter, hlate⟩ := lateEvents_inPhase hphase aEvents
    exact ⟨after, hafter.trans (hduring.trans hidle), hlate⟩

theorem onPtaGrantTx_inPhase (h : path.tx.InPhase config phase) (grant : PtaGrant) :
    ∃ after, after.isIdle = phase.isIdle ∧ (path.onPtaGrantTx grant).tx.InPhase config after := by
  unfold onPtaGrantTx
  split
  · exact ⟨phase, rfl, h⟩
  · simp only [txCurrentPacket_tx, mapTx_tx, otAssert_tx]
    exact Transmitter.txCurrentPacket_inPhase_of (h.setFlag _ _ (by decide)) _

theorem grants_inPhase (grants : List PtaGrant) (h : path.tx.InPhase config phase) :
    ∃ after, after.isIdle = phase.isIdle ∧
      (grants.foldl onPtaGrantTx path).tx.InPhase config after := by
  induction grants generalizing path phase with
  | nil => exact ⟨phase, rfl, h⟩
  | cons grant grants ih =>
    obtain ⟨granted, hgranted, hphase⟩ := onPtaGrantTx_inPhase h grant
    obtain ⟨after, hafter, hlast⟩ := ih hphase
    exact ⟨after, hafter.trans hgranted, hlast⟩

theorem tryTxCurrentPacket_inPhase (h : path.tx.InPhase config phase) (pta : PtaAnswer)
    (rail : RailResults) :
    ∃ after, after.isIdle = phase.isIdle ∧
      (path.tryTxCurrentPacket pta rail).tx.InPhase config after := by
  have hasked : (handlePhyStackEvent { path.otAssert .ongoingTxData
      (getInternalFlag path.tx.flags [.ongoingTxData]) with ptaGntEventReported := false }
        (.txPendedMac pta.status)).tx.InPhase config phase := by
    rw [handlePhyStackEvent_tx, otAssert_tx]
    exact h
  obtain ⟨granted, hgranted, hphase⟩ := grants_inPhase pta.grants hasked
  unfold tryTxCurrentPacket
  simp only
  split
  · rw [txCurrentPacket_tx]
    obtain ⟨after, hafter, hlast⟩ := Transmitter.txCurrentPacket_inPhase_of hphase rail
    exact ⟨after, hafter.trans hgranted, hlast⟩
  · exact ⟨granted, hgranted, hphase⟩
  · exact ⟨granted, hgranted, hphase⟩
  · rw [txFailedCallback_tx]
    exact ⟨_, (TxPhase.finish_isIdle _ _).trans hgranted,
      Transmitter.txFailedCallback_inPhase hphase rfl⟩

theorem startTransmission_inPhase {iid : ℕ} (h : Transmitter.Ready config path.tx iid)
    (pta : PtaAnswer) (rail : RailResults) :
    ∃ after, after.isIdle = false ∧
      (path.startTransmission pta rail).tx.InPhase config after := by
  have hbegun : (path.mapTx fun tx ↦ { tx with
      started := tx.started ++ [tx.currentPacket.iid] }.setFlag [.ongoingTxData] true).tx.InPhase
        config (.ongoing false) := h.begin
  obtain ⟨after, hidle, hafter⟩ := tryTxCurrentPacket_inPhase hbegun pta rail
  refine ⟨after, hidle, ?_⟩
  unfold startTransmission
  simp only
  split
  · exact { hafter with }
  · exact hafter

theorem otPlatRadioTransmit_inPhase (h : path.tx.InPhase config phase) {iid : ℕ}
    (hiid : config.isIid iid = true) (hsingle : config.multipan = false → phase = .idle)
    (around : Surroundings) :
    ∃ after, (path.otPlatRadioTransmit config iid around).tx.InPhase config after := by
  have hcounted : (path.mapTx Transmitter.countRequest).tx.InPhase config phase := { h with }
  have haccepted := Transmitter.acceptFrame_inPhase hcounted hiid
  unfold otPlatRadioTransmit
  split
  · exact ⟨phase, hcounted⟩
  split
  · exact ⟨phase, hcounted⟩
  simp only
  split
  case isTrue => exact ⟨phase, haccepted⟩
  case isFalse hfree =>
    have hidle : phase = .idle := by
      cases hmultipan : config.multipan with
      | false => exact hsingle hmultipan
      | true =>
        rw [hmultipan, Bool.true_and, mapTx_tx, haccepted.isBusy] at hfree
        cases phase with
        | idle => rfl
        | _ => simp [TxPhase.isIdle] at hfree
    subst hidle
    split
    · have hready := (Transmitter.makeCurrent_ready haccepted hiid path.tx.requests).setSecurity
        around.mSecurity
      generalize hcurrent : (((path.mapTx Transmitter.countRequest).mapTx fun tx ↦
        tx.acceptFrame config iid (txBufIndex iid)).mapTx fun tx ↦
          (tx.makeCurrent iid path.tx.requests).setSecurity around.mSecurity) = current
      have hready : Transmitter.Ready config current.tx iid := hcurrent ▸ hready
      obtain ⟨after, -, hafter⟩ := startTransmission_inPhase hready around.pta around.rail
      exact ⟨after, hafter⟩
    · exact ⟨.idle, haccepted⟩

end TransmitPath

/-- What the stack respects, as for the driver without coexistence. -/
def StackContract (config : Config) (path : TransmitPath) : PathEvent → Prop
  | .writeFrame iid _ => path.tx.IsReported iid
  | .transmit iid _ => config.multipan = false → path.tx.IsReported iid
  | _ => True

instance : ∀ path event, Decidable (StackContract config path event)
  | path, .writeFrame iid _ => inferInstanceAs (Decidable (path.tx.IsReported iid))
  | path, .transmit iid _ =>
    inferInstanceAs (Decidable (config.multipan = false → path.tx.IsReported iid))
  | _, .scheduleRx _ | _, .ptaGrant _ | _, .railEvents .. | _, .processTxComplete => .isTrue trivial

/-- The transmitter is in a phase. -/
def TransmitPath.IsPhased (config : Config) (path : TransmitPath) : Prop :=
  ∃ phase, path.tx.InPhase config phase

/-- Whatever the arbiter and RAIL do, the transmitter stays in a phase. -/
theorem pathStep_isPhased {event : PathEvent} {next : TransmitPath}
    (h : path.IsPhased config) (hcontract : StackContract config path event)
    (hstep : pathStep config path event = some next) : next.IsPhased config := by
  obtain ⟨phase, hphase⟩ := h
  cases event with
  | writeFrame iid aFrame =>
    obtain ⟨hiid, hnext⟩ := Option.ite_none_right_eq_some.mp hstep
    obtain rfl := Option.some.inj hnext
    have hwritten : (path.tx.updateBuffer (txBufIndex iid) fun packet ↦
        { packet with frame := aFrame }).InPhase config phase := by
      refine hphase.updateBuffer (fun _ ↦ rfl) fun hne hindex ↦ ?_
      obtain hidle | hother := hphase.idle_or_ne hcontract
      · exact absurd hidle hne
      · obtain ⟨hcurrent, heq⟩ := hphase.current hne
        have := config.txBufIndex_inj hcurrent hiid (Option.some.inj (heq.symm.trans hindex))
        exact absurd this hother
    exact ⟨phase, hwritten⟩
  | transmit iid around =>
    obtain ⟨hiid, hnext⟩ := Option.ite_none_right_eq_some.mp hstep
    obtain rfl := Option.some.inj hnext
    refine TransmitPath.otPlatRadioTransmit_inPhase hphase hiid (fun hsingle ↦ ?_) around
    obtain hidle | hother := hphase.idle_or_ne (hcontract hsingle)
    · exact hidle
    · by_contra hne
      have hcurrent := (hphase.current hne).1
      rw [Config.isIid_single hsingle] at hcurrent hiid
      exact hother (hcurrent.trans hiid.symm)
  | scheduleRx pending =>
    obtain rfl := Option.some.inj hstep
    exact ⟨phase, hphase.setFlag _ _ (by decide)⟩
  | ptaGrant grant =>
    obtain rfl := Option.some.inj hstep
    obtain ⟨after, -, hafter⟩ := TransmitPath.onPtaGrantTx_inPhase hphase grant
    exact ⟨after, hafter⟩
  | railEvents aEvents rxPacketReceived =>
    obtain rfl := Option.some.inj hstep
    obtain ⟨after, -, hafter⟩ :=
      TransmitPath.railCbGeneric_inPhase hphase aEvents rxPacketReceived
    exact ⟨after, hafter⟩
  | processTxComplete =>
    obtain rfl := Option.some.inj hstep
    refine ⟨phase.report, ?_⟩
    rw [TransmitPath.processTxComplete_tx]
    exact Transmitter.processTxComplete_inPhase hphase

theorem initial_isPhased (config : Config) : ({} : TransmitPath).IsPhased config :=
  (efr32RadioInit_txConsistent config).phase

/-! ## What only the arbiter changes -/

namespace TransmitPath

/-- The part of the transmit path that no RAIL event changes. -/
def ptaPart (path : TransmitPath) : Bool × List ℕ × List CoexAssertion :=
  (path.ptaGntEventReported, path.railStarts, path.failedAsserts)

@[simp]
theorem mapTx_ptaPart (path : TransmitPath) (change : Transmitter → Transmitter) :
    (path.mapTx change).ptaPart = path.ptaPart := rfl

@[simp]
theorem count_ptaPart (path : TransmitPath) (change : RailDebugCounters → RailDebugCounters) :
    (path.count change).ptaPart = path.ptaPart := rfl

@[simp]
theorem handlePhyStackEvent_ptaPart (path : TransmitPath) (stackEvent : StackEvent) :
    (path.handlePhyStackEvent stackEvent).ptaPart = path.ptaPart := rfl

@[simp]
theorem yieldRadio_ptaPart (path : TransmitPath) : path.yieldRadio.ptaPart = path.ptaPart := rfl

@[simp]
theorem yieldPendingData_ptaPart (path : TransmitPath) :
    path.yieldPendingData.ptaPart = path.ptaPart := by
  unfold yieldPendingData
  split <;> rfl

@[simp]
theorem packetSentCallback_ptaPart (path : TransmitPath) (isAck : Bool) :
    (path.packetSentCallback isAck).ptaPart = path.ptaPart := by
  simp [packetSentCallback, apply_ite ptaPart]

@[simp]
theorem txFailedCallback_ptaPart (path : TransmitPath) (isAck : Bool) (status : Flag)
    (cause : TxEnd) : (path.txFailedCallback isAck status cause).ptaPart = path.ptaPart := by
  simp [txFailedCallback, countFailure, apply_ite ptaPart]

@[simp]
theorem ackTimeoutCallback_ptaPart (path : TransmitPath) :
    path.ackTimeoutCallback.ptaPart = path.ptaPart := rfl

@[simp]
theorem schedulerEventCallback_ptaPart (path : TransmitPath) :
    path.schedulerEventCallback.ptaPart = path.ptaPart := by
  simp [schedulerEventCallback, apply_ite ptaPart]

@[simp]
theorem ackReceived_ptaPart (path : TransmitPath) (packet : RxPacket) :
    (path.ackReceived packet).ptaPart = path.ptaPart := by
  have haccept : ∀ path : TransmitPath, (path.acceptAck packet).ptaPart = path.ptaPart := by
    intro path
    unfold acceptAck
    simp only
    split <;> rfl
  simp [ackReceived, haccept, apply_ite ptaPart]

@[simp]
theorem packetReceivedCallback_ptaPart (path : TransmitPath) (packet : RxPacket)
    (stored : Bool) : (path.packetReceivedCallback packet stored).ptaPart = path.ptaPart := by
  simp [packetReceivedCallback, apply_ite ptaPart]

@[simp]
theorem preCompletionEvents_ptaPart (path : TransmitPath) (aEvents : TxEvents) :
    (path.preCompletionEvents aEvents).ptaPart = path.ptaPart := by
  simp [preCompletionEvents, apply_ite ptaPart]

theorem railCbGeneric_ptaPart (path : TransmitPath) (aEvents : TxEvents)
    (rxPacketReceived : Option (RxPacket × Bool)) :
    (path.railCbGeneric aEvents rxPacketReceived).ptaPart = path.ptaPart := by
  have hearly : ∀ path : TransmitPath,
      ((path.completionEvents aEvents).scheduledEvents aEvents).ptaPart = path.ptaPart := by
    intro path
    simp [completionEvents, scheduledEvents, apply_ite ptaPart]
  have hlate : ∀ path : TransmitPath, (((path.txackEvents aEvents).ackTimeoutEvent
      aEvents).schedulerEvent aEvents).ptaPart = path.ptaPart := by
    intro path
    simp [txackEvents, ackTimeoutEvent, schedulerEvent, apply_ite ptaPart]
  unfold railCbGeneric
  simp only [hlate]
  cases rxPacketReceived with
  | none => exact hearly path
  | some received => exact (packetReceivedCallback_ptaPart ..).trans (hearly path)

theorem processTxComplete_ptaPart (path : TransmitPath) :
    path.processTxComplete.ptaPart = path.ptaPart := by
  simp [processTxComplete, apply_ite ptaPart]

/-! ## Handing a packet to RAIL -/

theorem otAssert_failedAsserts (path : TransmitPath) (assertion : CoexAssertion)
    (holds : Bool) : (path.otAssert assertion holds).failedAsserts = [] ↔
      path.failedAsserts = [] ∧ holds = true := by
  unfold otAssert
  split <;> simp_all

@[simp]
theorem txStartResult_ptaPart (path : TransmitPath) (rail : RailResults) :
    (path.txStartResult rail).ptaPart = path.ptaPart := by
  simp [txStartResult, apply_ite ptaPart]

/-- What a call of `txCurrentPacket` adds. -/
theorem txCurrentPacket_ptaPart (path : TransmitPath) (rail : RailResults) :
    (path.txCurrentPacket rail).ptaPart =
      (path.ptaGntEventReported, path.railStarts ++ [path.tx.currentRequest],
        ((path.otAssert .ongoingTxData (getInternalFlag path.tx.flags
          [.ongoingTxData])).otAssert .currentTxPacket
            path.tx.sCurrentTxPacket.isSome).failedAsserts) := by
  have hassert : ∀ (path : TransmitPath) assertion holds,
      (path.otAssert assertion holds).ptaGntEventReported = path.ptaGntEventReported ∧
        (path.otAssert assertion holds).railStarts = path.railStarts := by
    intro path assertion holds
    unfold otAssert
    split <;> exact ⟨rfl, rfl⟩
  unfold txCurrentPacket
  simp only [txStartResult_ptaPart]
  split <;> simp [ptaPart, mapTx, Transmitter.setFlag, count, handlePhyStackEvent, hassert]

theorem txCurrentPacket_reported (path : TransmitPath) (rail : RailResults) :
    (path.txCurrentPacket rail).ptaGntEventReported = path.ptaGntEventReported :=
  congrArg Prod.fst (path.txCurrentPacket_ptaPart rail)

theorem txCurrentPacket_railStarts (path : TransmitPath) (rail : RailResults) :
    (path.txCurrentPacket rail).railStarts = path.railStarts ++ [path.tx.currentRequest] :=
  congrArg (fun part ↦ part.2.1) (path.txCurrentPacket_ptaPart rail)

theorem txCurrentPacket_failedAsserts (path : TransmitPath) (rail : RailResults) :
    (path.txCurrentPacket rail).failedAsserts = [] ↔
      path.failedAsserts = [] ∧ getInternalFlag path.tx.flags [.ongoingTxData] = true ∧
        path.tx.sCurrentTxPacket.isSome = true := by
  have hfailed := congrArg (fun part ↦ part.2.2) (path.txCurrentPacket_ptaPart rail)
  rw [← and_assoc, ← otAssert_failedAsserts, ← otAssert_failedAsserts]
  exact Eq.congr_left hfailed

/-- The first grant hands the current packet to RAIL. -/
theorem onPtaGrantTx_railStarts (path : TransmitPath) (grant : PtaGrant)
    (hfirst : path.ptaGntEventReported = false) :
    (path.onPtaGrantTx grant).railStarts = path.railStarts ++ [path.tx.currentRequest] := by
  unfold onPtaGrantTx
  rw [if_neg (by simp [hfirst])]
  simp only [txCurrentPacket_railStarts]
  unfold otAssert
  split <;> rfl

/-- The assertions that the first grant meets. -/
theorem onPtaGrantTx_failedAsserts (path : TransmitPath) (grant : PtaGrant)
    (hfirst : path.ptaGntEventReported = false) :
    (path.onPtaGrantTx grant).failedAsserts = [] ↔
      (path.failedAsserts = [] ∧ grant.granted = true) ∧
        getInternalFlag path.tx.flags [.ongoingTxData] = true ∧
          path.tx.sCurrentTxPacket.isSome = true := by
  unfold onPtaGrantTx
  rw [if_neg (by simp [hfirst]), txCurrentPacket_failedAsserts]
  have hasserted := otAssert_failedAsserts { path with ptaGntEventReported := true } .ptaStatus
    grant.granted
  refine and_congr hasserted (and_congr ?_ ?_)
  · simp [Transmitter.setFlag]
  · simp [Transmitter.setFlag]

theorem onPtaGrantTx_reported (path : TransmitPath) (grant : PtaGrant) :
    (path.onPtaGrantTx grant).ptaGntEventReported = true := by
  unfold onPtaGrantTx
  split
  case isTrue hreported => exact hreported
  case isFalse =>
    simp only [txCurrentPacket_reported]
    unfold otAssert
    split <;> rfl

/-- Further grants are ignored. -/
theorem grants_of_reported {path : TransmitPath} (h : path.ptaGntEventReported = true)
    (grants : List PtaGrant) : grants.foldl onPtaGrantTx path = path := by
  induction grants with
  | nil => rfl
  | cons grant grants ih =>
    rw [List.foldl_cons]
    have hignored : path.onPtaGrantTx grant = path := if_pos h
    rw [hignored]
    exact ih

end TransmitPath

/-- What the arbiter respects while `TX_PENDED_MAC` is handled: it calls `onPtaGrantTx` only if it
answers `CB_PENDING`, and only with a grant. -/
structure PtaAnswer.IsValid (pta : PtaAnswer) : Prop where
  pending : pta.grants ≠ [] → pta.status = .cbPending
  granted : ∀ grant ∈ pta.grants, grant.granted = true

instance (pta : PtaAnswer) : Decidable pta.IsValid :=
  decidable_of_iff ((pta.grants ≠ [] → pta.status = .cbPending) ∧
    ∀ grant ∈ pta.grants, grant.granted = true) ⟨fun h ↦ ⟨h.1, h.2⟩, fun h ↦ ⟨h.1, h.2⟩⟩

namespace TransmitPath

/-- A packet is handed to RAIL at most once while the arbiter is asked. -/
theorem tryTxCurrentPacket_once (path : TransmitPath) {pta : PtaAnswer} (hpta : pta.IsValid)
    (rail : RailResults) (hfailed : path.failedAsserts = [])
    (hongoing : getInternalFlag path.tx.flags [.ongoingTxData] = true)
    (hcurrent : path.tx.sCurrentTxPacket.isSome = true) :
    (path.tryTxCurrentPacket pta rail).failedAsserts = [] ∧
      ((path.tryTxCurrentPacket pta rail).railStarts = path.railStarts ∨
        (path.tryTxCurrentPacket pta rail).railStarts =
          path.railStarts ++ [path.tx.currentRequest]) := by
  have hasserted : path.otAssert .ongoingTxData
      (getInternalFlag path.tx.flags [.ongoingTxData]) = path := if_pos hongoing
  unfold tryTxCurrentPacket
  simp only [hasserted]
  generalize hasked : handlePhyStackEvent { path with ptaGntEventReported := false }
    (.txPendedMac pta.status) = asked
  have hfirst : asked.ptaGntEventReported = false := hasked ▸ rfl
  have htx : asked.tx = path.tx := hasked ▸ rfl
  have hstarts : asked.railStarts = path.railStarts := hasked ▸ rfl
  have hnone : asked.failedAsserts = [] := hasked ▸ hfailed
  rw [← htx] at hongoing hcurrent
  rw [← hstarts, ← htx]
  cases hgrants : pta.grants with
  | nil =>
    rw [List.foldl_nil]
    cases pta.status with
    | success =>
      exact ⟨(asked.txCurrentPacket_failedAsserts rail).mpr ⟨hnone, hongoing, hcurrent⟩,
        .inr (asked.txCurrentPacket_railStarts rail)⟩
    | cbPending => exact ⟨hnone, .inl rfl⟩
    | other => exact ⟨hnone, .inl rfl⟩
    | holdoff =>
      have hkept := asked.txFailedCallback_ptaPart false .txFailed .startFailed
      exact ⟨(congrArg (fun part ↦ part.2.2) hkept).trans hnone,
        .inl (congrArg (fun part ↦ part.2.1) hkept)⟩
  | cons grant grants =>
    have hpending := hpta.pending (by simp [hgrants])
    have hgranted := hpta.granted grant (by simp [hgrants])
    rw [List.foldl_cons, grants_of_reported (asked.onPtaGrantTx_reported grant), hpending]
    exact ⟨(asked.onPtaGrantTx_failedAsserts grant hfirst).mpr
        ⟨⟨hnone, hgranted⟩, hongoing, hcurrent⟩,
      .inr (asked.onPtaGrantTx_railStarts grant hfirst)⟩

@[simp]
theorem onPtaGrantTx_withoutEvents (path : TransmitPath) (grant : PtaGrant) :
    (path.onPtaGrantTx grant).tx.withoutEvents = path.tx.withoutEvents := by
  unfold onPtaGrantTx
  split
  · rfl
  · simp

theorem tryTxCurrentPacket_withoutEvents (path : TransmitPath) (pta : PtaAnswer)
    (rail : RailResults) :
    (path.tryTxCurrentPacket pta rail).tx.withoutEvents = path.tx.withoutEvents := by
  have hgrants : ∀ (grants : List PtaGrant) (path : TransmitPath),
      (grants.foldl onPtaGrantTx path).tx.withoutEvents = path.tx.withoutEvents := by
    intro grants
    induction grants with
    | nil => exact fun _ ↦ rfl
    | cons grant grants ih => exact fun path ↦ (ih _).trans (onPtaGrantTx_withoutEvents path grant)
  unfold tryTxCurrentPacket
  simp only
  split <;> simp [hgrants]

theorem railCbGeneric_withoutEvents (path : TransmitPath) (aEvents : TxEvents)
    (rxPacketReceived : Option (RxPacket × Bool)) :
    (path.railCbGeneric aEvents rxPacketReceived).tx.withoutEvents = path.tx.withoutEvents := by
  have hreceived : ∀ (path : TransmitPath) packet stored,
      (path.packetReceivedCallback packet stored).tx.withoutEvents = path.tx.withoutEvents := by
    intro path packet stored
    simp [packetReceivedCallback, apply_ite tx, apply_ite Transmitter.withoutEvents]
  unfold railCbGeneric
  simp only [schedulerEvent_tx, ackTimeoutEvent_tx, txackEvents_tx]
  rw [Transmitter.lateEvents_withoutEvents]
  have hearly : ((path.completionEvents aEvents).scheduledEvents aEvents).tx.withoutEvents =
      path.tx.withoutEvents := by simp
  cases rxPacketReceived with
  | none => exact hearly
  | some received => exact (hreceived _ received.1 received.2).trans hearly

end TransmitPath

/-! ## Grants in turn -/

/-- The numbers of the requests: all that were made, and the one of the current packet. -/
def Transmitter.numbers (tx : Transmitter) : ℕ × ℕ := (tx.requests, tx.currentRequest)

theorem Transmitter.numbers_of_withoutEvents {tx next : Transmitter}
    (h : next.withoutEvents = tx.withoutEvents) : next.numbers = tx.numbers :=
  (congrArg numbers h :)

theorem Transmitter.acceptFrame_current (tx : Transmitter) (config : Config) (iid aFrame : ℕ) :
    (tx.acceptFrame config iid aFrame).currentRequest = tx.currentRequest := by
  unfold acceptFrame otAssert
  simp only
  split_ifs <;> rfl

theorem Transmitter.makeCurrent_requests (tx : Transmitter) (iid request : ℕ) :
    (tx.makeCurrent iid request).requests = tx.requests := by
  unfold makeCurrent otAssert
  simp only
  split <;> rfl

/-- The transmitter is in a phase, no assertion has failed, and the packets of different requests
were handed to RAIL. -/
structure CoexConsistent (config : Config) (path : TransmitPath) : Prop where
  phased : path.IsPhased config
  current : path.tx.isBusy = true → path.tx.currentRequest < path.tx.requests
  starts : ∀ request ∈ path.railStarts, request < path.tx.requests
  nodup : path.railStarts.Nodup
  failedAsserts : path.failedAsserts = []

namespace CoexConsistent

/-- A step that starts no transmission and hands nothing to RAIL. -/
theorem of_ptaPart {next : TransmitPath} (h : CoexConsistent config path)
    (hphased : next.IsPhased config) (hbusy : next.tx.isBusy = true → path.tx.isBusy = true)
    (hnumbers : next.tx.numbers = path.tx.numbers) (hpart : next.ptaPart = path.ptaPart) :
    CoexConsistent config next := by
  have hrequests : next.tx.requests = path.tx.requests := congrArg Prod.fst hnumbers
  have hcurrent : next.tx.currentRequest = path.tx.currentRequest := congrArg Prod.snd hnumbers
  have hstarts : next.railStarts = path.railStarts := congrArg (fun part ↦ part.2.1) hpart
  have hfailed : next.failedAsserts = path.failedAsserts := congrArg (fun part ↦ part.2.2) hpart
  exact {
    phased := hphased
    current := fun hnext ↦ by
      rw [hrequests, hcurrent]
      exact h.current (hbusy hnext)
    starts := by
      rw [hrequests, hstarts]
      exact h.starts
    nodup := hstarts ▸ h.nodup
    failedAsserts := hfailed.trans h.failedAsserts }

theorem railEvents (h : CoexConsistent config path) (aEvents : TxEvents)
    (rxPacketReceived : Option (RxPacket × Bool)) :
    CoexConsistent config (path.railCbGeneric aEvents rxPacketReceived) := by
  obtain ⟨phase, hphase⟩ := h.phased
  obtain ⟨after, hidle, hafter⟩ :=
    TransmitPath.railCbGeneric_inPhase hphase aEvents rxPacketReceived
  refine h.of_ptaPart ⟨after, hafter⟩ (fun hbusy ↦ ?_)
    (Transmitter.numbers_of_withoutEvents (path.railCbGeneric_withoutEvents _ _))
    (path.railCbGeneric_ptaPart aEvents rxPacketReceived)
  rw [hafter.isBusy, hidle] at hbusy
  rw [hphase.isBusy]
  exact hbusy

theorem processTxComplete (h : CoexConsistent config path) :
    CoexConsistent config path.processTxComplete := by
  obtain ⟨phase, hphase⟩ := h.phased
  have hafter := Transmitter.processTxComplete_inPhase hphase
  rw [← TransmitPath.processTxComplete_tx] at hafter
  refine h.of_ptaPart ⟨_, hafter⟩ (fun hbusy ↦ ?_) ?_ path.processTxComplete_ptaPart
  · rw [hafter.isBusy] at hbusy
    rw [hphase.isBusy]
    cases phase <;> first | exact hbusy | rfl
  · rw [TransmitPath.processTxComplete_tx]
    unfold Transmitter.processTxComplete
    split <;> rfl

/-- The current packet is handed to RAIL for the first time. -/
theorem ptaGrant (h : CoexConsistent config path) {grant : PtaGrant}
    (hfirst : path.ptaGntEventReported = false) (hgranted : grant.granted = true)
    (hongoing : getInternalFlag path.tx.flags [.ongoingTxData] = true)
    (hnew : path.tx.currentRequest ∉ path.railStarts) :
    CoexConsistent config (path.onPtaGrantTx grant) := by
  obtain ⟨phase, hphase⟩ := h.phased
  obtain ⟨after, hidle, hafter⟩ := TransmitPath.onPtaGrantTx_inPhase hphase grant
  have hbusy : path.tx.isBusy = true := by
    rw [Transmitter.isBusy, hongoing, Bool.true_or]
  have hcurrent : path.tx.sCurrentTxPacket.isSome = true := by
    have hne : phase ≠ .idle := by
      rintro rfl
      rw [hphase.isBusy] at hbusy
      cases hbusy
    rw [(hphase.current hne).2]
    rfl
  have hnumbers := Transmitter.numbers_of_withoutEvents (path.onPtaGrantTx_withoutEvents grant)
  have hrequests : (path.onPtaGrantTx grant).tx.requests = path.tx.requests :=
    congrArg Prod.fst hnumbers
  have hrequest : (path.onPtaGrantTx grant).tx.currentRequest = path.tx.currentRequest :=
    congrArg Prod.snd hnumbers
  exact {
    phased := ⟨after, hafter⟩
    current := fun _ ↦ by
      rw [hrequests, hrequest]
      exact h.current hbusy
    starts := by
      rw [hrequests, path.onPtaGrantTx_railStarts grant hfirst]
      intro request hrequest
      rcases List.mem_append.mp hrequest with hold | hnew
      · exact h.starts request hold
      · rw [List.mem_singleton.mp hnew]
        exact h.current hbusy
    nodup := by
      rw [path.onPtaGrantTx_railStarts grant hfirst]
      exact (List.perm_append_singleton _ _).nodup_iff.mpr (List.nodup_cons.mpr ⟨hnew, h.nodup⟩)
    failedAsserts := (path.onPtaGrantTx_failedAsserts grant hfirst).mpr
      ⟨⟨h.failedAsserts, hgranted⟩, hongoing, hcurrent⟩ }

/-- A transmission is started while there is none. -/
theorem startTransmission {iid : ℕ} (hready : Transmitter.Ready config path.tx iid)
    (hcurrent : path.tx.currentRequest < path.tx.requests)
    (hstarts : ∀ request ∈ path.railStarts, request < path.tx.currentRequest)
    (hnodup : path.railStarts.Nodup) (hfailed : path.failedAsserts = []) {pta : PtaAnswer}
    (hpta : pta.IsValid) (rail : RailResults) :
    CoexConsistent config (path.startTransmission pta rail) := by
  obtain ⟨after, hidle, hafter⟩ := TransmitPath.startTransmission_inPhase hready pta rail
  generalize hbegun : (path.mapTx fun tx ↦ { tx with
    started := tx.started ++ [tx.currentPacket.iid] }.setFlag [.ongoingTxData] true) = begun
  have hstarted : begun.railStarts = path.railStarts := hbegun ▸ rfl
  have hrequest : begun.tx.currentRequest = path.tx.currentRequest := hbegun ▸ rfl
  obtain ⟨hnone, honce⟩ := begun.tryTxCurrentPacket_once hpta rail (hbegun ▸ hfailed)
    (hbegun ▸ rfl) (hbegun ▸ congrArg Option.isSome hready.index_eq)
  have hnumbers : (begun.tryTxCurrentPacket pta rail).tx.numbers = path.tx.numbers :=
    (Transmitter.numbers_of_withoutEvents
      (begun.tryTxCurrentPacket_withoutEvents pta rail)).trans (hbegun ▸ rfl)
  have htried : (path.startTransmission pta rail).ptaPart =
      (begun.tryTxCurrentPacket pta rail).ptaPart ∧
        (path.startTransmission pta rail).tx.numbers = path.tx.numbers := by
    unfold TransmitPath.startTransmission
    simp only [hbegun]
    split
    · exact ⟨rfl, hnumbers⟩
    · exact ⟨rfl, hnumbers⟩
  have hrequests : (path.startTransmission pta rail).tx.requests = path.tx.requests :=
    congrArg Prod.fst htried.2
  have hsame : (path.startTransmission pta rail).tx.currentRequest = path.tx.currentRequest :=
    congrArg Prod.snd htried.2
  have hrail : (path.startTransmission pta rail).railStarts =
      (begun.tryTxCurrentPacket pta rail).railStarts := congrArg (fun part ↦ part.2.1) htried.1
  rw [hstarted, hrequest, ← hrail] at honce
  exact {
    phased := ⟨after, hafter⟩
    current := fun _ ↦ by
      rw [hrequests, hsame]
      exact hcurrent
    starts := by
      rw [hrequests]
      intro request hmem
      rcases honce with hold | hnew
      · exact (hstarts request (hold ▸ hmem)).trans hcurrent
      · rw [hnew, List.mem_append, List.mem_singleton] at hmem
        rcases hmem with hmem | rfl
        · exact (hstarts request hmem).trans hcurrent
        · exact hcurrent
    nodup := by
      rcases honce with hold | hnew
      · rw [hold]
        exact hnodup
      · rw [hnew]
        have hfresh : path.tx.currentRequest ∉ path.railStarts :=
          fun hmem ↦ lt_irrefl _ (hstarts _ hmem)
        exact (List.perm_append_singleton _ _).nodup_iff.mpr
          (List.nodup_cons.mpr ⟨hfresh, hnodup⟩)
    failedAsserts := (congrArg (fun part ↦ part.2.2) htried.1).trans hnone }

theorem otPlatRadioTransmit (h : CoexConsistent config path) {iid : ℕ}
    (hiid : config.isIid iid = true) (hsingle : config.multipan = false → path.tx.isBusy = false)
    {around : TransmitPath.Surroundings} (hpta : around.pta.IsValid) :
    CoexConsistent config (path.otPlatRadioTransmit config iid around) := by
  obtain ⟨phase, hphase⟩ := h.phased
  have hcounted : CoexConsistent config (path.mapTx Transmitter.countRequest) := {
    phased := ⟨phase, { hphase with }⟩
    current := fun hbusy ↦ Nat.lt_succ_of_lt (h.current hbusy)
    starts := fun request hrequest ↦ Nat.lt_succ_of_lt (h.starts request hrequest)
    nodup := h.nodup
    failedAsserts := h.failedAsserts }
  have hidle : (path.mapTx Transmitter.countRequest).tx.InPhase config phase := { hphase with }
  have haccepted := Transmitter.acceptFrame_inPhase hidle hiid
  generalize htaken : ((path.mapTx Transmitter.countRequest).mapTx fun tx ↦
    tx.acceptFrame config iid (txBufIndex iid)) = taken
  have hkept : CoexConsistent config taken := by
    refine hcounted.of_ptaPart (htaken ▸ ⟨phase, haccepted⟩) (fun hbusy ↦ ?_) ?_ (htaken ▸ rfl)
    · rw [← htaken, TransmitPath.mapTx_tx, haccepted.isBusy] at hbusy
      rw [hidle.isBusy]
      exact hbusy
    · rw [← htaken, TransmitPath.mapTx_tx]
      exact Prod.ext (Transmitter.acceptFrame_requests ..) (Transmitter.acceptFrame_current ..)
  unfold TransmitPath.otPlatRadioTransmit
  simp only [htaken]
  split
  · exact hcounted
  split
  · exact hcounted
  split
  · exact hkept
  case isFalse hfree =>
    have hphase : phase = .idle := by
      have hbusy : taken.tx.isBusy = !phase.isIdle := htaken ▸ haccepted.isBusy
      cases hmultipan : config.multipan with
      | false =>
        have hnot := hsingle hmultipan
        rw [hphase.isBusy] at hnot
        cases phase <;> first | rfl | cases hnot
      | true =>
        rw [hmultipan, Bool.true_and, hbusy] at hfree
        cases phase <;> first | rfl | simp [TxPhase.isIdle] at hfree
    subst hphase
    split
    · have hready := (Transmitter.makeCurrent_ready (htaken ▸ haccepted : taken.tx.InPhase config
        .idle) hiid path.tx.requests).setSecurity around.mSecurity
      have hrequests : taken.tx.requests = path.tx.requests + 1 := by
        rw [← htaken, TransmitPath.mapTx_tx, Transmitter.acceptFrame_requests]
        rfl
      have hstarts : ∀ request ∈ taken.railStarts, request < path.tx.requests := by
        rw [← htaken]
        exact h.starts
      generalize hmade : (taken.mapTx fun tx ↦
        (tx.makeCurrent iid path.tx.requests).setSecurity around.mSecurity) = made
      have hready : Transmitter.Ready config made.tx iid := hmade ▸ hready
      have hnumber : made.tx.currentRequest = path.tx.requests := hmade ▸ rfl
      have hlater : made.tx.requests = path.tx.requests + 1 := by
        rw [← hmade]
        exact (taken.tx.makeCurrent_requests iid path.tx.requests).trans hrequests
      refine startTransmission hready (by omega) ?_ (hmade ▸ hkept.nodup)
        (hmade ▸ hkept.failedAsserts) hpta around.rail
      rw [hnumber, ← hmade]
      exact hstarts
    · exact hkept

end CoexConsistent

/-- What the arbiter respects while it is asked. -/
def ArbiterContract (_ : TransmitPath) : PathEvent → Prop
  | .transmit _ around => around.pta.IsValid
  | _ => True

instance : ∀ path event, Decidable (ArbiterContract path event)
  | _, .transmit _ around => inferInstanceAs (Decidable around.pta.IsValid)
  | _, .writeFrame .. | _, .scheduleRx _ | _, .ptaGrant _ | _, .railEvents ..
  | _, .processTxComplete => .isTrue trivial

/-- A later call of `onPtaGrantTx` is in turn: another one came before it, or it is a grant, and the
packet of the transmission under way has not been handed to RAIL. -/
def GrantInTurn (path : TransmitPath) : PathEvent → Prop
  | .ptaGrant grant => path.ptaGntEventReported = true ∨ grant.granted = true ∧
      getInternalFlag path.tx.flags [.ongoingTxData] = true ∧
        path.tx.currentRequest ∉ path.railStarts
  | _ => True

instance : ∀ path event, Decidable (GrantInTurn path event)
  | path, .ptaGrant grant => inferInstanceAs (Decidable (path.ptaGntEventReported = true ∨
      grant.granted = true ∧ getInternalFlag path.tx.flags [.ongoingTxData] = true ∧
        path.tx.currentRequest ∉ path.railStarts))
  | _, .writeFrame .. | _, .transmit .. | _, .scheduleRx _ | _, .railEvents ..
  | _, .processTxComplete => .isTrue trivial

/-- The transmit path behaves with coexistence: the transmitter does, no assertion of
`txCurrentPacket` or `onPtaGrantTx` has failed, and no packet was handed to RAIL twice. -/
structure CoexLaw (path : TransmitPath) : Prop where
  txLaw : path.tx.TxLaw
  failedAsserts : path.failedAsserts = []
  nodup : path.railStarts.Nodup

theorem CoexConsistent.coexLaw (h : CoexConsistent config path) : CoexLaw path where
  txLaw := h.phased.elim fun _ hphase ↦ hphase.txLaw
  failedAsserts := h.failedAsserts
  nodup := h.nodup

theorem pathStep_coexConsistent {event : PathEvent} {next : TransmitPath}
    (h : CoexConsistent config path) (hstack : StackContract config path event)
    (harbiter : ArbiterContract path event) (hturn : GrantInTurn path event)
    (hstep : pathStep config path event = some next) : CoexConsistent config next := by
  have hphased := pathStep_isPhased h.phased hstack hstep
  cases event with
  | writeFrame iid aFrame =>
    obtain ⟨hiid, hnext⟩ := Option.ite_none_right_eq_some.mp hstep
    obtain rfl := Option.some.inj hnext
    exact h.of_ptaPart hphased id rfl rfl
  | transmit iid around =>
    obtain ⟨hiid, hnext⟩ := Option.ite_none_right_eq_some.mp hstep
    obtain rfl := Option.some.inj hnext
    refine h.otPlatRadioTransmit hiid (fun hsingle ↦ ?_) harbiter
    obtain ⟨phase, hphase⟩ := h.phased
    obtain hidle | hother := hphase.idle_or_ne (hstack hsingle)
    · rw [hphase.isBusy, hidle]
      rfl
    · by_contra hbusy
      have hne : phase ≠ .idle := by
        rintro rfl
        exact hbusy (by rw [hphase.isBusy]; rfl)
      have hcurrent := (hphase.current hne).1
      rw [Config.isIid_single hsingle] at hcurrent hiid
      exact hother (hcurrent.trans hiid.symm)
  | scheduleRx pending =>
    obtain rfl := Option.some.inj hstep
    refine h.of_ptaPart hphased (fun hbusy ↦ ?_) rfl rfl
    rw [← hbusy]
    exact (Transmitter.isBusy_congr fun flag hflag ↦
      if_neg (by revert hflag; revert flag; decide)).symm
  | ptaGrant grant =>
    obtain rfl := Option.some.inj hstep
    cases hreported : path.ptaGntEventReported with
    | true =>
      have hignored : path.onPtaGrantTx grant = path := if_pos hreported
      rw [hignored]
      exact h
    | false =>
      obtain hbefore | ⟨hgranted, hongoing, hnew⟩ := hturn
      · rw [hreported] at hbefore
        cases hbefore
      · exact h.ptaGrant hreported hgranted hongoing hnew
  | railEvents aEvents rxPacketReceived =>
    obtain rfl := Option.some.inj hstep
    exact h.railEvents aEvents rxPacketReceived
  | processTxComplete =>
    obtain rfl := Option.some.inj hstep
    exact h.processTxComplete

/-- A grant out of turn breaks the law at once. -/
theorem not_coexLaw_of_grant {event : PathEvent} {next : TransmitPath}
    (hturn : ¬ GrantInTurn path event) (hstep : pathStep config path event = some next) :
    ¬ CoexLaw next := by
  intro hlaw
  cases event with
  | ptaGrant grant =>
    obtain rfl := Option.some.inj hstep
    obtain ⟨hfirst, hnot⟩ := not_or.mp hturn
    rw [Bool.not_eq_true] at hfirst
    obtain ⟨⟨-, hgranted⟩, hongoing, -⟩ :=
      (path.onPtaGrantTx_failedAsserts grant hfirst).mp hlaw.failedAsserts
    have hnodup := hlaw.nodup
    rw [path.onPtaGrantTx_railStarts grant hfirst,
      (List.perm_append_singleton _ _).nodup_iff, List.nodup_cons] at hnodup
    exact hnot ⟨hgranted, hongoing, hnodup.1⟩
  | _ => exact hturn trivial

theorem initial_coexConsistent (config : Config) : CoexConsistent config {} where
  phased := initial_isPhased config
  current := nofun
  starts := nofun
  nodup := List.nodup_nil
  failedAsserts := rfl

/-- **Grants of the arbiter.**  If the stack and the arbiter respect their contracts, the transmit
path behaves in every state of a run exactly if every later grant is in turn. -/
theorem coexLaw_iff (config : Config) {events : List PathEvent} {final : TransmitPath}
    (hcontract : Along (pathStep config) (fun path event ↦
      StackContract config path event ∧ ArbiterContract path event) {} events)
    (hrun : exec (pathStep config) {} events = some final) :
    Throughout (pathStep config) CoexLaw {} events ↔
      Along (pathStep config) GrantInTurn {} events :=
  throughout_iff_along_of (fun _ h ↦ h.coexLaw)
    (fun _ _ _ h hassumed hturn hstep ↦
      pathStep_coexConsistent h hassumed.1 hassumed.2 hturn hstep)
    (fun _ _ _ _ _ hturn hstep ↦ not_coexLaw_of_grant hturn hstep)
    (initial_coexConsistent config) hcontract hrun

/-- Three packets: one granted later and a second time behind that, one granted while the arbiter is
asked, one held off. -/
def grantedRun : List PathEvent :=
  let aFrame : OtRadioFrame := { mPsdu := [0x41, 0x88, 7], mChannel := 11 }
  let sent : PathEvent := .railEvents { txPacketSent := true } none
  [.writeFrame 0 aFrame, .transmit 0 { pta := { status := .cbPending } }, .ptaGrant {},
    .ptaGrant {}, sent, .processTxComplete,
    .transmit 0 { pta := { status := .cbPending, grants := [{}, {}] } }, sent, .processTxComplete,
    .transmit 0 { pta := { status := .holdoff } }, .processTxComplete]

theorem coexLaw_iff_grantedRun :
    ((exec (pathStep .singlePan) {} grantedRun).map fun path ↦
      (path.railStarts, path.tx.txDones.map TxDone.aError)) =
        some ([0, 1], [.none, .none, .abort]) ∧
    Throughout (pathStep .singlePan) CoexLaw {} grantedRun :=
  ⟨by decide, (coexLaw_iff .singlePan (by decide) (Option.some_get (by decide)).symm).mpr
    (by decide)⟩

end OtEfr32.Radio
