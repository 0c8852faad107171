import OtEfr32.Data.Numbering
import OtEfr32.GreenPower.Conservation
import OtEfr32.GreenPower.FrameSteps
import OtEfr32.GreenPower.Slot

/-!
# The response window

A Channel Configuration or a Commissioning Reply should be started on the air only behind a request
for it, and not before the offset that the device expects; once it is due it should not be held back
again.  The check of `otPlatRadioTransmit` is made on the state of the interface, which may be due
to the frame of another instance or have changed while the frame waited for the radio, and a request
is compared with the transmit buffer of the instance that receives it.  `windowLaw_iff` is the exact
condition for whole runs.
-/

namespace OtEfr32.GreenPower

open Data Radio Transition

/-- The request was made for the frame, and its response may be on the air. -/
def Release.Answers (platform : GpPlatform) (release : Release) (request clock : ℕ) : Prop :=
  release.frame.request = request ∧
    platform.isRequestFor release.psdu release.frame.mPsdu = true ∧
    release.mTimestamp + platform.gpRxOffset ≤ clock

instance (platform : GpPlatform) (release : Release) (request clock : ℕ) :
    Decidable (release.Answers platform request clock) :=
  inferInstanceAs (Decidable (_ ∧ _ ∧ _))

namespace GpDriver

variable (config : Config) (platform : GpPlatform) (state : GpDriver)

/-- Every start of a response answers a request, and no frame that `efr32GpProcess` has handed to
the radio was held back twice. -/
def WindowLaw : Prop :=
  (∀ start ∈ state.starts, ∃ release ∈ state.releases,
      release.Answers platform start.frame.request start.clock) ∧
    ∀ frame ∈ state.handed, (state.diverted.map PassedFrame.request).count frame.request ≤ 1

/-- A request for the frame was matched while the frame was waiting. -/
def Requested (request : ℕ) : Prop :=
  ∃ release ∈ state.releases, release.frame.request = request ∧
    platform.isRequestFor release.psdu release.frame.mPsdu = true

/-- While a frame is due, an instance starts no response, and `sPendingCommandQueue` only one that
has been requested; the frame that is due is started only if the request was one for it; and no
frame is held back that `efr32GpProcess` has handed to the radio. -/
def WindowCondition : GpEvent → Prop
  | .radio event _ =>
    (∀ frame ∈ state.divertedFrame config platform event,
      frame.request ∉ state.handed.map PassedFrame.request) ∧
    (state.gp.gpState = .sendResponse → StartsPassed config state.radio false event →
      ∀ frame ∈ passedFrame config state.radio event, platform.isResponse frame.mPsdu = true →
        isProcess event = true ∧ state.Requested platform frame.request)
  | .gpProcess rail =>
    state.gp.gpState = .sendResponse → state.gp.gpStateTimeOut ≤ state.clock →
      ∀ iid ∈ state.gp.sBufferedTxInstance,
        state.radio.StartsTransmission config rail false (txBufIndex iid) →
          platform.isResponse (state.dueFrame iid).mPsdu = true →
            state.Requested platform (state.dueFrame iid).request
  | .txDoneReturns | .elapse _ => True

instance (platform : GpPlatform) : DecidablePred (WindowLaw platform) := fun _ ↦
  inferInstanceAs (Decidable (_ ∧ _))

instance (platform : GpPlatform) (state : GpDriver) : DecidablePred (Requested platform state) :=
  fun request ↦ inferInstanceAs (Decidable (∃ release ∈ state.releases,
    release.frame.request = request ∧
      platform.isRequestFor release.psdu release.frame.mPsdu = true))

instance (config : Config) (platform : GpPlatform) :
    DecidableRel (WindowCondition config platform) :=
  fun state event ↦
    match event with
    | .radio event _ => inferInstanceAs (Decidable (_ ∧ (_ → _ →
        ∀ frame ∈ passedFrame config state.radio event, platform.isResponse frame.mPsdu = true →
          isProcess event = true ∧ state.Requested platform frame.request)))
    | .gpProcess _ => inferInstanceAs (Decidable (_ → _ → ∀ iid ∈ state.gp.sBufferedTxInstance,
        _ → platform.isResponse (state.dueFrame iid).mPsdu = true →
          state.Requested platform (state.dueFrame iid).request))
    | .txDoneReturns | .elapse _ => .isTrue trivial

variable {config : Config} {platform : GpPlatform} {state next : GpDriver} {event : GpEvent}

/-! ## Passed frames -/

/-- A part of `efr32RadioProcess` that passes a frame shows none. -/
theorem shownVisit_of_passed {radio : Driver} {event : RadioEvent} {frame : PassedFrame}
    (hpassed : passedFrame config radio event = some frame) :
    shownVisit config radio event = none := by
  cases event with
  | process rail gpBuffers =>
    apply if_neg
    rintro ⟨_, hlocation⟩
    simp [passedFrame, Driver.dueCommand, hlocation] at hpassed
  | _ => rfl

/-- A passed frame is held back, outside `SL_GP_STATE_SEND_RESPONSE`, or goes to the radio. -/
theorem interfaceStep_of_passed (platform : GpPlatform) (state : GpDriver) {event : RadioEvent}
    {frame : PassedFrame} (hpassed : passedFrame config state.radio event = some frame)
    (mTimestamp : ℕ) :
    (state.divertedFrame config platform event = some frame ∧ config.multipan = true ∧
        state.gp.gpState ≠ .sendResponse ∧
        state.interfaceStep config platform event mTimestamp = state.bufferPkt platform frame) ∨
      (state.divertedFrame config platform event = none ∧
        state.interfaceStep config platform event mTimestamp = state) := by
  cases hdiverted : state.divertedFrame config platform event with
  | none =>
    refine .inr ⟨rfl, ?_⟩
    unfold interfaceStep
    rw [hdiverted, shownVisit_of_passed hpassed]
  | some diverted =>
    obtain ⟨hmem, hcheck⟩ := Option.filter_eq_some_iff.mp hdiverted
    obtain rfl := Option.some.inj (hpassed.symm.trans hmem)
    simp only [Bool.and_eq_true, bne_iff_ne] at hcheck
    refine .inl ⟨rfl, hcheck.1.1.2, hcheck.1.2, ?_⟩
    unfold interfaceStep
    rw [hdiverted]

/-- A frame that is held back is not started. -/
theorem not_startsPassed_of_diverted {event : RadioEvent} {frame : PassedFrame}
    (hdiverted : state.divertedFrame config platform event = some frame)
    (hmultipan : config.multipan = true) :
    ¬ StartsPassed config state.radio (state.divertedFrame config platform event).isSome event := by
  rintro ⟨buffer, _, _, hfree, _⟩
  simp [hdiverted, hmultipan] at hfree

/-- Only a new frame is passed outside `efr32RadioProcess`. -/
theorem isProcess_or_new {radio : Driver} {event : RadioEvent} {frame : PassedFrame}
    (hpassed : passedFrame config radio event = some frame) :
    isProcess event = true ∨ frame.request = radio.tx.requests := by
  cases event with
  | transmit =>
    obtain rfl := Option.some.inj hpassed
    exact .inr rfl
  | process => exact .inl rfl
  | _ => exact absurd hpassed (Option.some_ne_none frame).symm

/-- While a frame is due, no other one is held back. -/
theorem divertedFrame_of_sendResponse (config : Config) (platform : GpPlatform)
    (hstate : state.gp.gpState = .sendResponse) (event : RadioEvent) :
    state.divertedFrame config platform event = none := by
  simp [divertedFrame, hstate]

/-- Only while a frame is due, a response that is passed is started. -/
theorem sendResponse_of_starts (hmultipan : config.multipan = true) {event : RadioEvent}
    {frame : PassedFrame} (hpassed : passedFrame config state.radio event = some frame)
    (hresponse : platform.isResponse frame.mPsdu = true) {gpBuffers : Bool}
    (hstarts : StartsPassed config state.radio gpBuffers event)
    (hdiverted : state.divertedFrame config platform event = none) :
    state.gp.gpState = .sendResponse := by
  obtain ⟨buffer, _, hpal, _⟩ := hstarts
  by_contra hstate
  rw [divertedFrame, hpassed, Option.filter_eq_none_iff] at hdiverted
  apply hdiverted frame rfl
  rw [state.gp.slGpIntfShouldBufferPkt_tx platform frame.mPsdu frame.mPsdu 0]
  simp [hpal, hmultipan, hstate, hresponse]

theorem divertedFrame_of_none {event : RadioEvent}
    (hpassed : passedFrame config state.radio event = none) :
    state.divertedFrame config platform event = none := by
  unfold divertedFrame
  rw [hpassed]
  rfl

/-- An event that passes no frame leaves the slot and its histories alone. -/
theorem interfaceStep_of_quiet (platform : GpPlatform) (state : GpDriver) {event : RadioEvent}
    (hpassed : passedFrame config state.radio event = none) (mTimestamp : ℕ) :
    let next := state.interfaceStep config platform event mTimestamp
    next.buffered = state.buffered ∧ next.handed = state.handed ∧
      next.diverted = state.diverted := by
  unfold interfaceStep
  rw [divertedFrame_of_none hpassed]
  cases shownVisit config state.radio event <;> exact ⟨rfl, rfl, rfl⟩

theorem sendDueFrame_started (config : Config) (platform : GpPlatform) (state : GpDriver)
    (rail : RailResults) (iid : ℕ) :
    state.radio.transmissionStarts.length <
        (state.sendDueFrame config platform rail iid).radio.transmissionStarts.length ↔
      state.radio.StartsTransmission config rail false (txBufIndex iid) := by
  -- Without CSMA, the frame is on the same channel, and the radio as busy as before.
  let radio := state.radio.mapTx fun tx ↦ tx.updateBuffer (txBufIndex iid) fun packet ↦
    { packet with frame := { packet.frame with mCsmaCaEnabled := false } }
  have hchannel : (radio.tx.sTransmitBuffer (txBufIndex iid)).frame.mChannel =
      (state.radio.tx.sTransmitBuffer (txBufIndex iid)).frame.mChannel := by
    simp [radio, Driver.mapTx, Transmitter.updateBuffer]
  have hbusy : radio.isRadioTransmittingOrScanning = state.radio.isRadioTransmittingOrScanning :=
    rfl
  have hsame : radio.StartsTransmission config rail false (txBufIndex iid) ↔
      state.radio.StartsTransmission config rail false (txBufIndex iid) := by
    unfold Driver.StartsTransmission
    rw [hchannel, hbusy]
  exact (otPlatRadioTransmit_started radio config rail false iid (txBufIndex iid)
    (state.dueFrame iid).request).trans hsame

/-! ## Requests and their time -/

/-- What holds of the starts and the requests in every state of a run that meets the condition: a
request is for the frame that is due, or for one that was handed over behind its offset. -/
structure Timely (platform : GpPlatform) (state : GpDriver) : Prop where
  starts : ∀ start ∈ state.starts, ∃ release ∈ state.releases,
    release.Answers platform start.frame.request start.clock
  releases : ∀ release ∈ state.releases,
    release.mTimestamp + platform.gpRxOffset ≤ state.clock ∨
      state.buffered = some release.frame ∧ state.gp.gpState = .sendResponse ∧
        state.gp.gpStateTimeOut = release.mTimestamp + platform.gpRxOffset

namespace Timely

/-- A requested frame may be on the air, if it is not the one that is not yet due. -/
theorem answers (h : state.Timely platform) {request : ℕ}
    (hrequested : state.Requested platform request)
    (hdue : ∀ frame, state.buffered = some frame → frame.request = request →
      state.gp.gpState = .sendResponse → state.gp.gpStateTimeOut ≤ state.clock) :
    ∃ release ∈ state.releases, release.Answers platform request state.clock := by
  obtain ⟨release, hmem, hrequest, hfor⟩ := hrequested
  refine ⟨release, hmem, hrequest, hfor, ?_⟩
  rcases h.releases release hmem with hpast | ⟨hbuffered, hstate, htimeOut⟩
  · exact hpast
  · exact htimeOut ▸ hdue release.frame hbuffered hrequest hstate

/-- Outside `SL_GP_STATE_SEND_RESPONSE`, all requests are past their offset. -/
theorem past (h : state.Timely platform) (hstate : state.gp.gpState ≠ .sendResponse) :
    ∀ release ∈ state.releases, release.mTimestamp + platform.gpRxOffset ≤ state.clock :=
  fun release hmem ↦ (h.releases release hmem).resolve_right fun hcurrent ↦ hstate hcurrent.2.1

theorem of_past (h : state.Timely platform)
    (hpast : ∀ release ∈ state.releases,
      release.mTimestamp + platform.gpRxOffset ≤ state.clock)
    (hstarts : next.starts = state.starts) (hreleases : next.releases = state.releases)
    (hclock : state.clock = next.clock) : next.Timely platform where
  starts := by
    rw [hstarts, hreleases]
    exact h.starts
  releases := by
    intro release hmem
    rw [hreleases] at hmem
    exact .inl (hclock ▸ hpast release hmem)

theorem bufferPkt (h : state.Timely platform) (hstate : state.gp.gpState ≠ .sendResponse)
    (frame : PassedFrame) : (state.bufferPkt platform frame).Timely platform :=
  h.of_past (h.past hstate) rfl rfl rfl

/-- A request is matched while the frame waits, which is due then. -/
theorem showFrame (h : state.Timely platform) (visit : Visit) (mTimestamp : ℕ) :
    (state.showFrame platform visit mTimestamp).Timely platform := by
  unfold GpDriver.showFrame
  simp only [GpInterface.slGpIntfShouldBufferPkt_rx]
  split
  case isTrue hmatched =>
    rw [if_pos ⟨hmatched.1, rfl⟩]
    have hpast := h.past (by rw [hmatched.1]; decide)
    constructor
    case starts =>
      intro start hstart
      obtain ⟨release, hmem, hanswers⟩ := h.starts start hstart
      exact ⟨release, List.mem_append_left _ hmem, hanswers⟩
    case releases =>
      intro release hmem
      rcases List.mem_append.mp hmem with hold | hnew
      · exact .inl (hpast release hold)
      · obtain ⟨frame, hbuffered, rfl⟩ := List.mem_map.mp hnew
        exact .inr ⟨Option.mem_toList.mp hbuffered, rfl, rfl⟩
  case isFalse =>
    have hsame : ¬ (state.gp.gpState = .waitingForPkt ∧ state.gp.gpState = .sendResponse) :=
      fun hboth ↦ nomatch hboth.1.symm.trans hboth.2
    rw [if_neg hsame]
    exact ⟨h.starts, h.releases⟩

theorem advanceTo (h : state.Timely platform) (frame : Option PassedFrame) (radio : Driver)
    (hstart : state.radio.transmissionStarts.length < radio.transmissionStarts.length →
      ∀ passed ∈ frame, platform.isResponse passed.mPsdu = true →
        ∃ release ∈ state.releases, release.Answers platform passed.request state.clock) :
    (state.advanceTo platform frame radio).Timely platform := by
  refine ⟨fun start hmem ↦ ?_, h.releases⟩
  simp only [GpDriver.advanceTo] at hmem
  split at hmem
  case isTrue hstarted =>
    rcases List.mem_append.mp hmem with hold | hnew
    · exact h.starts start hold
    · obtain ⟨passed, hpassed, rfl⟩ := List.mem_map.mp hnew
      obtain ⟨hframe, hresponse⟩ := Option.mem_filter_iff.mp (Option.mem_toList.mp hpassed)
      exact hstart hstarted passed hframe hresponse
  case isFalse => exact h.starts start hmem

theorem interfaceStep_of_quiet (h : state.Timely platform) {event : RadioEvent}
    (hpassed : passedFrame config state.radio event = none) (mTimestamp : ℕ) :
    (state.interfaceStep config platform event mTimestamp).Timely platform := by
  unfold interfaceStep
  rw [divertedFrame_of_none hpassed]
  cases shownVisit config state.radio event with
  | none => exact h
  | some visit => exact h.showFrame visit mTimestamp

/-- A passed frame that is not the one in the slot is started behind its request. -/
theorem interfaceStep_of_passed (h : state.Timely platform) (hmultipan : config.multipan = true)
    {event : RadioEvent} {mTimestamp : ℕ}
    {radio : Driver} (hcondition : WindowCondition config platform state (.radio event mTimestamp))
    {frame : PassedFrame} (hpassed : passedFrame config state.radio event = some frame)
    (hstarts : state.radio.transmissionStarts.length < radio.transmissionStarts.length ↔
      StartsPassed config state.radio (state.divertedFrame config platform event).isSome event)
    (hother : ∀ buffered, state.buffered = some buffered → buffered.request ≠ frame.request) :
    ((state.interfaceStep config platform event mTimestamp).advanceTo platform
      (passedFrame config state.radio event) radio).Timely platform := by
  rcases GpDriver.interfaceStep_of_passed platform state hpassed mTimestamp with
    ⟨hdiverted, _, hstate, hstep⟩ | ⟨hdiverted, hstep⟩
  · rw [hstep]
    refine (h.bufferPkt hstate frame).advanceTo _ _ fun hstarted ↦ ?_
    exact absurd (hstarts.mp hstarted) (not_startsPassed_of_diverted hdiverted hmultipan)
  · rw [hstep]
    rw [hdiverted] at hstarts
    refine h.advanceTo _ _ fun hstarted passed hmem hresponse ↦ ?_
    obtain rfl := Option.some.inj (hpassed.symm.trans hmem)
    have hpassedStarts := hstarts.mp hstarted
    have hstate := sendResponse_of_starts hmultipan hpassed hresponse hpassedStarts hdiverted
    have hrequested := (hcondition.2 hstate hpassedStarts frame hmem hresponse).2
    exact h.answers hrequested fun buffered hbuffered heq ↦ absurd heq (hother buffered hbuffered)

/-- The due frame is handed over at its time. -/
theorem sendDueFrame (h : state.Timely platform) (hdue : state.gp.gpStateTimeOut ≤ state.clock)
    {rail : RailResults} {iid : ℕ}
    (hstart : state.radio.StartsTransmission config rail false (txBufIndex iid) →
      platform.isResponse (state.dueFrame iid).mPsdu = true →
        state.Requested platform (state.dueFrame iid).request) :
    (state.sendDueFrame config platform rail iid).Timely platform := by
  have hpast : ∀ release ∈ state.releases,
      release.mTimestamp + platform.gpRxOffset ≤ state.clock := by
    intro release hmem
    rcases h.releases release hmem with hpast | ⟨_, _, htimeOut⟩
    · exact hpast
    · exact htimeOut ▸ hdue
  have hstarted := sendDueFrame_started config platform state rail iid
  have hadvance := h.advanceTo (some (state.dueFrame iid)) _
      fun hlength passed hpassed hresponse ↦ by
    obtain rfl := Option.mem_some.mp hpassed
    exact h.answers (hstart (hstarted.mp hlength) hresponse) fun _ _ _ _ ↦ hdue
  exact ⟨hadvance.starts, fun release hmem ↦ .inl (hpast release hmem)⟩

theorem abortFrame (h : state.Timely platform) (hstate : state.gp.gpState = .waitingForPkt)
    (iid : ℕ) : (state.abortFrame iid).Timely platform :=
  h.of_past (h.past (by rw [hstate]; decide)) rfl rfl rfl

theorem endAbort (h : state.Timely platform) (hstate : state.gp.gpState = .waitingForPkt) :
    state.endAbort.Timely platform :=
  h.of_past (h.past (by rw [hstate]; decide)) rfl rfl rfl

theorem elapse (h : state.Timely platform) (duration : ℕ) :
    Timely platform { state with clock := state.clock + duration } where
  starts := h.starts
  releases := by
    intro release hmem
    exact (h.releases release hmem).imp_left fun hpast ↦
      hpast.trans (Nat.le_add_right state.clock duration)

end Timely

/-! ## The numbers of the frames -/

/-- The numbers of the frames on their way, in the slot and in `sPendingCommandQueue`. -/
def Numbers (state : GpDriver) : Prop :=
  Numbered (state.buffered.toList.map PassedFrame.request)
    (state.handed.map PassedFrame.request) (state.diverted.map PassedFrame.request)
    (queuedRequests state.radio) state.radio.tx.requests

namespace Numbers

/-- The frame that an event of the driver passes is held back, queued or started. -/
theorem interfaceStep {event : RadioEvent} {mTimestamp : ℕ} {radio : Driver} (h : state.Numbers)
    (hcondition : WindowCondition config platform state (.radio event mTimestamp))
    (hframe : FrameStep config state.radio event
      (state.divertedFrame config platform event).isSome radio) :
    Numbers { state.interfaceStep config platform event mTimestamp with radio } := by
  unfold Numbers at h ⊢
  cases hframe with
  | quiet hpassed hrequests hqueued =>
    obtain ⟨hbuffered, hhanded, hdiverted⟩ :=
      interfaceStep_of_quiet platform state hpassed mTimestamp
    rw [hbuffered, hhanded, hdiverted, hrequests, hqueued]
    exact h
  | @transmit frame hpassed hnumber hrequests hqueued _ =>
    rw [hrequests]
    rcases interfaceStep_of_passed platform state hpassed mTimestamp with
      ⟨hdiverted, hmultipan, _, hstep⟩ | ⟨hdiverted, hstep⟩
    · -- The number is new, and the frame is not queued as well.
      obtain ⟨_, hhanded, hknown, hold⟩ := h.fresh
      have hsame : queuedRequests radio = queuedRequests state.radio := by
        simpa [hdiverted, hmultipan] using hqueued
      rw [hstep, hsame]
      have hnext := h.advance.divert (Nat.lt_succ_self _) hhanded hknown hold
      simpa [bufferPkt, hnumber] using hnext
    · rw [hstep]
      rcases hqueued with hsame | ⟨_, hpushed⟩
      · rw [hsame]
        exact h.advance
      · rw [hpushed, hnumber]
        exact h.enqueue
  | @execute frame hpassed hrequests hqueued _ =>
    rw [hrequests]
    rw [hqueued] at h
    rcases interfaceStep_of_passed platform state hpassed mTimestamp with
      ⟨hdiverted, _, _, hstep⟩ | ⟨hdiverted, hstep⟩
    · have hhanded := hcondition.1 frame hdiverted
      rw [hstep]
      simpa [bufferPkt] using h.executeDivert hhanded
    · rw [hstep]
      exact h.execute

/-- The due frame is started, or queued while the radio is busy. -/
theorem sendDueFrame (h : state.Numbers) {frame : PassedFrame}
    (hbuffered : state.buffered = some frame) (rail : RailResults) (iid : ℕ) :
    (state.sendDueFrame config platform rail iid).Numbers := by
  let radio := state.radio.mapTx fun tx ↦ tx.updateBuffer (txBufIndex iid) fun packet ↦
    { packet with frame := { packet.frame with mCsmaCaEnabled := false } }
  have hrequest : (state.dueFrame iid).request = frame.request := by
    simp [dueFrame, frameIn, hbuffered]
  have hrequests := otPlatRadioTransmit_requests radio config rail false iid (txBufIndex iid)
    (state.dueFrame iid).request
  have hqueued := otPlatRadioTransmit_queued radio config rail false iid (txBufIndex iid)
    (state.dueFrame iid).request
  change Numbered [] ((state.handed ++ state.buffered.toList).map PassedFrame.request)
    (state.diverted.map PassedFrame.request) (queuedRequests (radio.otPlatRadioTransmit config rail
      false iid (txBufIndex iid) (state.dueFrame iid).request).2) (radio.otPlatRadioTransmit config
        rail false iid (txBufIndex iid) (state.dueFrame iid).request).2.tx.requests
  unfold Numbers at h
  rw [hbuffered] at h
  rw [hrequests, hbuffered, List.map_append]
  rcases hqueued with hsame | ⟨_, _, hpushed⟩
  · rw [hsame]
    exact h.hand
  · rw [hpushed, hrequest]
    exact h.handToQueue

end Numbers

/-! ## Runs -/

/-- The invariant behind `WindowLaw`; a request is for a frame that has been held back. -/
structure InWindow (platform : GpPlatform) (state : GpDriver) : Prop where
  slot : state.Slot
  timely : state.Timely platform
  numbers : state.Numbers
  known : ∀ release ∈ state.releases,
    release.frame.request ∈ state.diverted.map PassedFrame.request

theorem InWindow.law (h : state.InWindow platform) : state.WindowLaw platform := by
  refine ⟨h.timely.starts, fun frame hframe ↦ h.numbers.once frame.request ?_⟩
  exact List.mem_append_right _ (List.mem_map_of_mem hframe)

/-- A request is matched for the frame in the slot. -/
theorem InWindow.interfaceStep_known (h : state.InWindow platform) (event : RadioEvent)
    (mTimestamp : ℕ) :
    ∀ release ∈ (state.interfaceStep config platform event mTimestamp).releases,
      release.frame.request ∈
        (state.interfaceStep config platform event mTimestamp).diverted.map
          PassedFrame.request := by
  unfold GpDriver.interfaceStep
  cases state.divertedFrame config platform event with
  | some frame =>
    intro release hmem
    simp only [GpDriver.bufferPkt, List.map_append]
    exact List.mem_append_left _ (h.known release hmem)
  | none =>
    cases shownVisit config state.radio event with
    | none => exact h.known
    | some visit =>
      intro release hmem
      simp only [GpDriver.showFrame] at hmem ⊢
      split at hmem
      case isTrue =>
        rcases List.mem_append.mp hmem with hold | hnew
        · exact h.known release hold
        · obtain ⟨frame, hbuffered, rfl⟩ := List.mem_map.mp hnew
          have hslot := List.mem_map_of_mem (f := PassedFrame.request) hbuffered
          exact h.numbers.known frame.request (List.mem_append_left _ hslot)
      case isFalse => exact h.known release hmem

/-- A new frame has not been requested. -/
theorem InWindow.not_requested_new (h : state.InWindow platform) :
    ¬ state.Requested platform state.radio.tx.requests := by
  rintro ⟨release, hmem, hrequest, _⟩
  exact h.numbers.fresh.2.2.1 (hrequest ▸ h.known release hmem)

/-- A start behind a request is in time: a frame that is not yet due is in the slot, and neither new
nor in `sPendingCommandQueue`. -/
theorem InWindow.interfaceStep_timely (h : state.InWindow platform)
    (hmultipan : config.multipan = true) {event : RadioEvent} {mTimestamp : ℕ} {radio : Driver}
    (hcondition : WindowCondition config platform state (.radio event mTimestamp))
    (hframe : FrameStep config state.radio event
      (state.divertedFrame config platform event).isSome radio) :
    ((state.interfaceStep config platform event mTimestamp).advanceTo platform
      (passedFrame config state.radio event) radio).Timely platform := by
  have hnumbers := h.numbers
  unfold Numbers at hnumbers
  cases hframe with
  | quiet hnone =>
    rw [hnone]
    exact (h.timely.interfaceStep_of_quiet hnone mTimestamp).advanceTo _ _ fun _ _ ↦ nofun
  | @transmit frame hpassed hnumber _ _ hstarts =>
    refine h.timely.interfaceStep_of_passed hmultipan hcondition hpassed hstarts
      fun buffered hbuffered heq ↦ ?_
    apply hnumbers.fresh.1
    simp [hbuffered, heq, hnumber]
  | @execute frame hpassed _ hqueued hstarts =>
    refine h.timely.interfaceStep_of_passed hmultipan hcondition hpassed hstarts
      fun buffered hbuffered heq ↦ ?_
    have hnodup := hnumbers.nodup
    simp [hbuffered, hqueued, heq] at hnodup

theorem InWindow.step (hmultipan : config.multipan = true) (h : state.InWindow platform)
    (hcondition : WindowCondition config platform state event)
    (hstep : gpStep config platform state event = some next) : next.InWindow platform := by
  have hgp := h.slot.gpStep hstep
  have hslot := h.slot.step hgp
  cases hgp with
  | radio hprocess hradio =>
    have hframe := frameStep_of_radioStep hradio
    exact ⟨hslot, h.interfaceStep_timely hmultipan hcondition hframe,
      h.numbers.interfaceStep hcondition hframe, h.interfaceStep_known _ _⟩
  | gpProcess hout hprocess =>
    cases hprocess with
    | start hstate =>
      exact ⟨hslot, h.timely.of_past (h.timely.past (by rw [hstate]; decide)) rfl rfl rfl,
        h.numbers, h.known⟩
    | @send hstate hdue frame hbuffered =>
      exact ⟨hslot, h.timely.sendDueFrame hdue
        (hcondition hstate hdue frame.iid (h.slot.frame frame hbuffered)),
        h.numbers.sendDueFrame hbuffered _ _, h.known⟩
    | @abort hstate frame hbuffered =>
      exact ⟨hslot, h.timely.abortFrame hstate _, h.numbers.drop, h.known⟩
    | wait => exact h
  | txDoneReturns htxDone =>
    exact ⟨hslot, h.timely.endAbort (h.slot.waiting htxDone), h.numbers.drop, h.known⟩
  | elapse => exact ⟨hslot, h.timely.elapse _, h.numbers, h.known⟩

/-- A frame that is held back again is in the history twice. -/
theorem InWindow.not_handed_of_law (h : state.InWindow platform) {event : RadioEvent}
    {mTimestamp : ℕ} {radio : Driver}
    (hlaw : ((state.interfaceStep config platform event mTimestamp).advanceTo platform
      (passedFrame config state.radio event) radio).WindowLaw platform) :
    ∀ frame ∈ state.divertedFrame config platform event,
      frame.request ∉ state.handed.map PassedFrame.request := by
  intro frame hdiverted hhanded
  have hstep : state.interfaceStep config platform event mTimestamp =
      state.bufferPkt platform frame := by
    unfold GpDriver.interfaceStep
    rw [Option.mem_def.mp hdiverted]
  rw [hstep] at hlaw
  obtain ⟨twice, htwice, heq⟩ := List.mem_map.mp hhanded
  have honce : ((state.diverted ++ [frame]).map PassedFrame.request).count twice.request ≤ 1 :=
    hlaw.2 twice htwice
  have hknown : frame.request ∈ state.diverted.map PassedFrame.request :=
    h.numbers.known frame.request (List.mem_append_right _ hhanded)
  have hpositive := List.count_pos_iff.mpr hknown
  rw [List.map_append, List.count_append, heq] at honce
  simp at honce
  omega

/-- A start that the law allows has been requested. -/
theorem requested_of_law {frame : PassedFrame} {radio : Driver}
    (hlaw : ∀ start ∈ (state.advanceTo platform (some frame) radio).starts,
      ∃ release ∈ state.releases, release.Answers platform start.frame.request start.clock)
    (hstarted : state.radio.transmissionStarts.length < radio.transmissionStarts.length)
    (hresponse : platform.isResponse frame.mPsdu = true) :
    state.Requested platform frame.request := by
  have hstart : ⟨frame, state.clock⟩ ∈
      (state.advanceTo platform (some frame) radio).starts := by
    simp [advanceTo, hstarted, hresponse]
  obtain ⟨release, hmem, hrequest, hfor, _⟩ := hlaw _ hstart
  exact ⟨release, hmem, hrequest, hfor⟩

/-- A step that misses the condition breaks the law: a second time held back, or started without a
request. -/
theorem InWindow.condition_of_law (h : state.InWindow platform)
    (hstep : gpStep config platform state event = some next)
    (hlaw : next.WindowLaw platform) : WindowCondition config platform state event := by
  cases h.slot.gpStep hstep with
  | @radio event mTimestamp radio hprocess hradio =>
    refine ⟨h.not_handed_of_law hlaw, fun hstate hstarts frame hpassed hresponse ↦ ?_⟩
    have hdiverted := divertedFrame_of_sendResponse config platform hstate event
    have hframe := frameStep_of_radioStep hradio
    rw [hdiverted] at hframe
    have hstarted : state.radio.transmissionStarts.length < radio.transmissionStarts.length := by
      cases hframe with
      | quiet hnone => exact absurd (hnone.symm.trans hpassed) nofun
      | transmit _ _ _ _ hstarted | execute _ _ _ hstarted => exact hstarted.mpr hstarts
    rw [Option.mem_def.mp hpassed] at hlaw
    have hrequested : state.Requested platform frame.request := by
      rcases interfaceStep_of_passed platform state hpassed mTimestamp with
        ⟨_, _, hother, _⟩ | ⟨_, hquiet⟩
      · exact absurd hstate hother
      · rw [hquiet] at hlaw
        exact requested_of_law hlaw.1 hstarted hresponse
    refine ⟨(isProcess_or_new hpassed).resolve_right fun hnew ↦ ?_, hrequested⟩
    exact h.not_requested_new (hnew ▸ hrequested)
  | @gpProcess rail _ hout hprocess =>
    intro hstate hdue iid hiid hstarts hresponse
    cases hprocess with
    | @send _ _ frame hbuffered =>
      obtain rfl := Option.some.inj (hiid.symm.trans (h.slot.frame frame hbuffered))
      have hstarted := (sendDueFrame_started config platform state rail frame.iid).mpr hstarts
      exact requested_of_law hlaw.1 hstarted hresponse
    | wait hwait => exact absurd hdue (hwait hstate)
    | start hinit => exact nomatch hstate.symm.trans hinit
    | abort hwaiting => exact nomatch hstate.symm.trans hwaiting
  | txDoneReturns | elapse => trivial

theorem gpInit_inWindow (config : Config) (platform : GpPlatform) :
    (gpInit config).InWindow platform := by
  refine ⟨gpInit_slot config, ⟨?_, ?_⟩, Numbered.empty _, ?_⟩
  all_goals exact fun _ hmem ↦ absurd hmem List.not_mem_nil

end GpDriver

open GpDriver

/-- In every state of a run the responses were started behind their requests and handed over for
good, exactly when no other frame takes the way of the one that is due and none is held back
again. -/
theorem windowLaw_iff (config : Config) (hmultipan : config.multipan = true)
    (platform : GpPlatform) (labels : List GpEvent) (final : GpDriver)
    (hrun : exec (gpStep config platform) (gpInit config) labels = some final) :
    Throughout (gpStep config platform) (WindowLaw platform) (gpInit config) labels ↔
      Along (gpStep config platform) (WindowCondition config platform) (gpInit config) labels :=
  throughout_iff_along (fun _ h ↦ InWindow.law h)
    (fun _ _ _ h hcondition hstep ↦ h.step hmultipan hcondition hstep)
    (fun _ _ _ h hnot hstep hlaw ↦ hnot (h.condition_of_law hstep hlaw))
    (gpInit_inWindow config platform) hrun

/-- A Channel Request. -/
def channelRequest : RxPacket := {
  psdu := [0x01, 0x08, 2, 0xFF, 0xFF, 0xFF, 0xFF, 0x0D, 0xE3], filterMask := 2 }

/-- Host 1 transmits a Channel Configuration, and a request for it is received. -/
def requestRun : List GpEvent :=
  .radio (.setPanId 1 0x1234) 0 :: transmitConfiguration 1 ++
    .radio (.railEvents { rxPacketReceived := some channelRequest }) 0 ::
      List.replicate 8 (.radio (.process {} false) 0)

/-- The frame is started behind its offset. -/
def responseRun : List GpEvent := requestRun ++ [.elapse 20500, .gpProcess {}]

theorem windowLaw_iff_responseRun :
    ((exec (gpStep .twoHosts shortAddressPlatform) (gpInit .twoHosts) responseRun).map
      fun state ↦ state.starts.map fun start ↦ (start.frame.iid, start.clock)) =
        some [(1, 20500)] ∧
    Throughout (gpStep .twoHosts shortAddressPlatform) (WindowLaw shortAddressPlatform)
      (gpInit .twoHosts) responseRun :=
  ⟨by decide, (windowLaw_iff .twoHosts rfl shortAddressPlatform responseRun _
    (Option.some_get (by decide)).symm).mpr (by decide)⟩

/-- While the frame of host 1 is due, that of host 2 is started without a request. -/
theorem not_windowLaw_secondHost :
    ¬ ∀ config : Config, config.multipan = true → ∀ platform labels,
      Throughout (gpStep config platform) (WindowLaw platform) (gpInit config) labels := by
  intro h
  have hlaw := h .twoHosts rfl shortAddressPlatform (requestRun ++ transmitConfiguration 2)
  revert hlaw
  decide

end OtEfr32.GreenPower

