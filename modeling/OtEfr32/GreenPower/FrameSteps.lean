import OtEfr32.GreenPower.GpDriver
import OtEfr32.Radio.PowerLimit
import OtEfr32.Radio.RequestPlaces

/-!
# Frames in the driver

What a step of the driver does to the frame that it passes to `otPlatRadioTransmit`: the frame gets
its number from the stack's call or leaves `sPendingCommandQueue`, it is queued while the radio is
busy, and it may be started on the air.
-/

namespace OtEfr32.GreenPower

open Radio Transition

/-- The number of a queued frame. -/
def frameRequest (command : PendingCommand) : Option ℕ :=
  match command.request with
  | .transmit _ request => some request
  | .energyScan .. => none

/-- The numbers of the frames in `sPendingCommandQueue`. -/
def queuedRequests (radio : Driver) : List ℕ := radio.sPendingCommandQueue.filterMap frameRequest

/-- The transmit buffer that an event of the driver passes to `otPlatRadioTransmit`, with the
answers of RAIL. -/
def passedBuffer (config : Config) (radio : Driver) : RadioEvent → Option (ℕ × RailResults)
  | .transmit iid rail _ => some (txBufIndex iid, rail)
  | .process rail _ =>
    match radio.dueCommand config with
    | some ⟨.transmit txFrame _, _⟩ => some (txFrame, rail)
    | _ => none
  | _ => none

/-- The event starts the frame that it passes to `otPlatRadioTransmit` on the air. -/
def StartsPassed (config : Config) (radio : Driver) (gpBuffers : Bool) (event : RadioEvent) :
    Prop :=
  ∃ buffer ∈ passedBuffer config radio event,
    radio.StartsTransmission config buffer.2 gpBuffers buffer.1

instance (config : Config) (radio : Driver) (gpBuffers : Bool) :
    DecidablePred (StartsPassed config radio gpBuffers) := fun event ↦
  inferInstanceAs (Decidable (∃ buffer ∈ passedBuffer config radio event,
    radio.StartsTransmission config buffer.2 gpBuffers buffer.1))

variable {config : Config} {radio next : Driver} {rail : RailResults}

theorem pushPendingCommand_queued (radio : Driver) (config : Config) (request : PendingRequest)
    (iid : ℕ) :
    queuedRequests (radio.pushPendingCommand config request iid) = queuedRequests radio ∨
      queuedRequests (radio.pushPendingCommand config request iid) =
        queuedRequests radio ++ (frameRequest ⟨request, iid % 4⟩).toList := by
  unfold Driver.pushPendingCommand
  split
  · refine .inr ?_
    simp only [queuedRequests, List.filterMap_append]
    cases hrequest : frameRequest ⟨request, iid % 4⟩ <;> simp [hrequest]
  · exact .inl rfl

theorem transmitNow_requests (radio : Driver) (config : Config) (rail : RailResults)
    (iid aFrame request : ℕ) :
    (radio.transmitNow config rail iid aFrame request).2.tx.requests = radio.tx.requests := by
  unfold Driver.transmitNow
  simp only
  split
  · obtain ⟨railChannel, transmissionStarts, heq⟩ := Driver.recordStart_eq
      ((((radio.efr32RadioLoadChannelConfig (radio.slGetTxPowerForCurrentChannel config)).mapTx
        fun tx ↦ tx.makeCurrent iid request).secureCurrentPacket config iid).mapTx
          fun tx ↦ tx.startTransmission rail) config rail
      (radio.tx.sTransmitBuffer aFrame).frame.mChannel
    rw [heq]
    exact (Transmitter.startTransmission_sameRequest ..).requests.trans
      (Transmitter.makeCurrent_eq radio.tx iid request).1
  · rfl

theorem otPlatRadioTransmit_requests (radio : Driver) (config : Config) (rail : RailResults)
    (gpBuffers : Bool) (iid aFrame request : ℕ) :
    (radio.otPlatRadioTransmit config rail gpBuffers iid aFrame request).2.tx.requests =
      radio.tx.requests := by
  have haccepted := radio.tx.acceptFrame_requests config iid aFrame
  unfold Driver.otPlatRadioTransmit
  split
  · rfl
  split
  · rfl
  simp only
  split
  · obtain ⟨_, _, heq⟩ := Driver.pushPendingCommand_eq
      (radio.mapTx fun tx ↦ tx.acceptFrame config iid aFrame) config (.transmit aFrame request) iid
    rw [heq]
    exact haccepted
  · exact (transmitNow_requests (radio.mapTx fun tx ↦ tx.acceptFrame config iid aFrame) config rail
      iid aFrame request).trans haccepted

theorem otPlatRadioTransmit_queued (radio : Driver) (config : Config) (rail : RailResults)
    (gpBuffers : Bool) (iid aFrame request : ℕ) :
    let next := (radio.otPlatRadioTransmit config rail gpBuffers iid aFrame request).2
    queuedRequests next = queuedRequests radio ∨
      (radio.isRadioTransmittingOrScanning = true ∧ (config.multipan && gpBuffers) = false ∧
        queuedRequests next = queuedRequests radio ++ [request]) := by
  unfold Driver.otPlatRadioTransmit
  split
  · exact .inl rfl
  split
  · exact .inl rfl
  simp only [Driver.acceptFrame_isBusy]
  split
  case isTrue hgp hbusy =>
    rcases pushPendingCommand_queued (radio.mapTx fun tx ↦ tx.acceptFrame config iid aFrame) config
      (.transmit aFrame request) iid with hsame | hpushed
    · exact .inl hsame
    · exact .inr ⟨((Bool.and_eq_true _ _).mp hbusy).2, Bool.of_not_eq_true hgp, hpushed⟩
  case isFalse =>
    obtain ⟨_, _, _, _, _, heq⟩ := Driver.transmitNow_eq
      (radio.mapTx fun tx ↦ tx.acceptFrame config iid aFrame) config rail iid aFrame request
    rw [heq]
    exact .inl rfl

theorem otPlatRadioTransmit_started (radio : Driver) (config : Config) (rail : RailResults)
    (gpBuffers : Bool) (iid aFrame request : ℕ) :
    let next := (radio.otPlatRadioTransmit config rail gpBuffers iid aFrame request).2
    radio.transmissionStarts.length < next.transmissionStarts.length ↔
      radio.StartsTransmission config rail gpBuffers aFrame := by
  simp only [Driver.otPlatRadioTransmit_starts, List.length_append]
  split
  case isTrue hstarts => simp [hstarts]
  case isFalse hstarts => simp [hstarts]

/-! ## Steps of the driver -/

/-- What a step of the driver does to the passed frame. -/
inductive FrameStep (config : Config) (radio : Driver) (event : RadioEvent) (gpBuffers : Bool)
    (next : Driver) : Prop
  | quiet (hpassed : passedFrame config radio event = none)
      (hrequests : next.tx.requests = radio.tx.requests)
      (hqueued : queuedRequests next = queuedRequests radio)
  /-- The stack passes a frame, which gets the next number. -/
  | transmit {frame : PassedFrame} (hpassed : passedFrame config radio event = some frame)
      (hnumber : frame.request = radio.tx.requests)
      (hrequests : next.tx.requests = radio.tx.requests + 1)
      (hqueued : queuedRequests next = queuedRequests radio ∨
        (config.multipan && gpBuffers) = false ∧
          queuedRequests next = queuedRequests radio ++ [frame.request])
      (hstarts : radio.transmissionStarts.length < next.transmissionStarts.length ↔
        StartsPassed config radio gpBuffers event)
  /-- A frame from the queue is passed. -/
  | execute {frame : PassedFrame} (hpassed : passedFrame config radio event = some frame)
      (hrequests : next.tx.requests = radio.tx.requests)
      (hqueued : queuedRequests radio = frame.request :: queuedRequests next)
      (hstarts : radio.transmissionStarts.length < next.transmissionStarts.length ↔
        StartsPassed config radio gpBuffers event)

theorem transmit_frameStep (radio : Driver) (config : Config) (iid : ℕ) (rail : RailResults)
    (gpBuffers gpBuffers' : Bool) :
    FrameStep config radio (.transmit iid rail gpBuffers') gpBuffers
      (radio.transmit config iid rail gpBuffers) := by
  have hrequests := otPlatRadioTransmit_requests (radio.mapTx Transmitter.countRequest) config rail
    gpBuffers iid (txBufIndex iid) radio.tx.requests
  have hqueued := otPlatRadioTransmit_queued (radio.mapTx Transmitter.countRequest) config rail
    gpBuffers iid (txBufIndex iid) radio.tx.requests
  have hstarted : _ ↔ radio.StartsTransmission config rail gpBuffers (txBufIndex iid) :=
    otPlatRadioTransmit_started (radio.mapTx Transmitter.countRequest) config rail gpBuffers iid
      (txBufIndex iid) radio.tx.requests
  have hpassed : StartsPassed config radio gpBuffers (.transmit iid rail gpBuffers') ↔
      radio.StartsTransmission config rail gpBuffers (txBufIndex iid) := by
    simp [StartsPassed, passedBuffer]
  rw [← hpassed] at hstarted
  obtain ⟨_, heq⟩ := radio.transmit_eq config iid rail gpBuffers
  rw [heq]
  exact .transmit rfl rfl hrequests (hqueued.imp id And.right) hstarted

/-- A scan in the queue is not a frame. -/
theorem otPlatRadioEnergyScan_queued (radio : Driver) (config : Config) (rail : RailResults)
    (iid request aScanChannel aScanDuration : ℕ) :
    queuedRequests (radio.otPlatRadioEnergyScan config rail iid request aScanChannel
      aScanDuration).2 = queuedRequests radio := by
  unfold Driver.otPlatRadioEnergyScan
  split
  · rfl
  split
  · rcases pushPendingCommand_queued radio config (.energyScan aScanChannel aScanDuration request)
      iid with hsame | hpushed
    · exact hsame
    · exact hpushed.trans (List.append_nil _)
  · simp only
    split <;> rfl

theorem frameStep_of_processPart {rail : RailResults} {gpBuffers : Bool} (gpBuffers' : Bool)
    (hpart : Driver.ProcessPart config rail gpBuffers radio next) :
    FrameStep config radio (.process rail gpBuffers') gpBuffers next := by
  have hnone (hdue : radio.dueCommand config = none) :
      passedFrame config radio (.process rail gpBuffers') = none := by
    simp only [passedFrame, hdue]
  cases hpart with
  | txComplete hlocation =>
    exact .quiet (hnone (Driver.dueCommand_elsewhere config (by simp [hlocation])))
      radio.tx.processTxComplete_requests rfl
  | @transmit iid txFrame request rest hdue hqueue =>
    obtain ⟨_, _, hfree⟩ := Driver.guards_of_dueCommand hdue
    have hqueued := otPlatRadioTransmit_queued { radio with sPendingCommandQueue := rest }
      config rail gpBuffers iid txFrame request
    have hrest : queuedRequests radio =
        request :: queuedRequests { radio with sPendingCommandQueue := rest } := by
      simp [queuedRequests, hqueue, frameRequest]
    have hpassed : passedFrame config radio (.process rail gpBuffers') =
        some (frameIn radio iid txFrame request) := by
      simp [passedFrame, hdue]
    refine .execute hpassed ?_ ?_ ?_
    · exact otPlatRadioTransmit_requests _ config rail gpBuffers iid txFrame request
    · rcases hqueued with hsame | hbusy
      · exact hrest.trans (congrArg _ hsame.symm)
      · exact absurd hbusy.1 (ne_true_of_eq_false hfree)
    · have hstarted := otPlatRadioTransmit_started { radio with sPendingCommandQueue := rest }
        config rail gpBuffers iid txFrame request
      simp only [StartsPassed, passedBuffer, hdue, Option.mem_def, Option.some.injEq,
        exists_eq_left']
      exact hstarted
  | @energyScan iid scanChannel scanDuration request rest hdue hqueue =>
    refine .quiet ?_ ?_ ?_
    · simp [passedFrame, hdue]
    · exact congrArg Transmitter.requests (Driver.otPlatRadioEnergyScan_tx ..)
    · apply (otPlatRadioEnergyScan_queued ..).trans
      simp only [queuedRequests, hqueue]
      rfl
  | noCommand hlocation hdue => exact .quiet (hnone hdue) rfl rfl
  | enter hlocation | visit hlocation | startVisit hlocation | rxDone hlocation
    | scanReport hlocation | noReport hlocation | scanReported hlocation =>
    exact .quiet (hnone (Driver.dueCommand_elsewhere config (by simp [hlocation]))) rfl rfl

/-- The other events pass no frame. -/
theorem quiet_of_step {event : RadioEvent} (hstep : Driver.Step config radio event next)
    (htransmit : ∀ iid rail gpBuffers, event ≠ .transmit iid rail gpBuffers)
    (hprocess : ∀ rail gpBuffers, event ≠ .process rail gpBuffers) :
    next.tx.requests = radio.tx.requests ∧ queuedRequests next = queuedRequests radio := by
  cases hstep with
  | @railEvents aEvents =>
    have hsame := railCbGeneric_sameRequest radio config aEvents
    obtain ⟨_, _, _, heq⟩ := radio.railCbGeneric_eq config aEvents
    rw [heq] at hsame ⊢
    exact ⟨hsame.requests, rfl⟩
  | scanTimer | endRssiWait | setMacKeyStep => exact ⟨rfl, rfl⟩
  | main hcall hmain =>
    cases hmain with
    | transmit => exact absurd rfl (htransmit _ _ _)
    | process => exact absurd rfl (hprocess _ _)
    | @energyScan iid aScanChannel aScanDuration rail =>
      have htx := Driver.otPlatRadioEnergyScan_tx (radio.mapScan EnergyScan.countRequest) config
        rail iid radio.scan.requests aScanChannel aScanDuration
      have hqueued := otPlatRadioEnergyScan_queued (radio.mapScan EnergyScan.countRequest) config
        rail iid radio.scan.requests aScanChannel aScanDuration
      obtain ⟨_, heq⟩ := radio.energyScan_eq config iid aScanChannel aScanDuration rail
      rw [heq]
      exact ⟨congrArg Transmitter.requests htx, hqueued⟩
    | @getRssi rail =>
      obtain ⟨_, _, _, heq⟩ := radio.otPlatRadioGetRssi_eq config rail
      rw [heq]
      exact ⟨rfl, rfl⟩
    | @receive aChannel rail =>
      obtain ⟨_, _, _, _, heq⟩ := radio.otPlatRadioReceive_eq config rail aChannel
      rw [heq]
      exact ⟨rfl, rfl⟩
    | @receiveAt aChannel rail =>
      obtain ⟨_, _, _, _, heq⟩ := radio.otPlatRadioReceiveAt_eq config rail aChannel
      rw [heq]
      exact ⟨rfl, rfl⟩
    | sleep =>
      obtain ⟨_, heq⟩ := radio.otPlatRadioSleep_eq
      rw [heq]
      exact ⟨rfl, rfl⟩
    | writeFrame | setChannelMaxTransmitPower | setTransmitPower | setPanId | setPromiscuous
      | setMacFrameCounterIfLarger | setMacKey | refused => exact ⟨rfl, rfl⟩

/-- A step of the driver, with the decision of the interface. -/
theorem frameStep_of_radioStep {event : RadioEvent} {gpBuffers : Bool}
    (hstep : radioStep config radio (withGpBuffers gpBuffers event) = some next) :
    FrameStep config radio event gpBuffers next := by
  cases event with
  | transmit iid rail gpBuffers' =>
    cases Driver.step_of_radioStep hstep with
    | main hcall hmain =>
      cases hmain with
      | transmit => exact transmit_frameStep radio config iid rail gpBuffers gpBuffers'
      | refused _ hsetting => contradiction
  | process rail gpBuffers' =>
    rw [← Driver.radioStep_process hstep]
    exact frameStep_of_processPart gpBuffers' (radio.processPart config rail gpBuffers)
  | _ =>
    obtain ⟨hrequests, hqueued⟩ := quiet_of_step (Driver.step_of_radioStep hstep)
      (fun _ _ _ heq ↦ nomatch heq) (fun _ _ heq ↦ nomatch heq)
    exact .quiet rfl hrequests hqueued

end OtEfr32.GreenPower
