import OtEfr32.GreenPower.GpDriver

/-!
# The slot of the Green Power interface

`sBufferedTxInstance` and the state of the interface agree in every state of every run, whatever the
stack does: the instance is set exactly while a frame is held back, so that the assertions of
`efr32GpProcess` hold, and the calls that `efr32GpProcess` makes are for the instance of the frame.
With this, a step has one of a few results, which `GpStep` lists.
-/

namespace OtEfr32.GreenPower

open Radio Transition

namespace GpDriver

/-- What holds of the slot in every state: outside `otPlatRadioTxDone`, `sBufferedTxInstance` stands
for the frame that is held back. -/
structure Slot (state : GpDriver) : Prop where
  frame : ∀ frame ∈ state.buffered, state.gp.sBufferedTxInstance = some frame.iid
  holding : state.gp.sBufferedTxInstance.isSome = state.gp.isHolding
  buffered : state.inTxDone = false →
    state.buffered.isSome = state.gp.sBufferedTxInstance.isSome
  waiting : state.inTxDone = true → state.gp.gpState = .waitingForPkt
  transmits : state.transmits = state.handed.map PassedFrame.iid
  txDones : state.txDones = state.aborted.map PassedFrame.iid
  failedAsserts : state.failedAsserts = 0

theorem isHolding_of_waiting {gp : GpInterface} (h : gp.gpState = .waitingForPkt) :
    gp.isHolding = true := by
  simp [GpInterface.isHolding, h]

theorem isHolding_of_sendResponse {gp : GpInterface} (h : gp.gpState = .sendResponse) :
    gp.isHolding = true := by
  simp [GpInterface.isHolding, h]

variable {config : Config} {platform : GpPlatform} {state next : GpDriver} {event : GpEvent}

namespace Slot

theorem bufferPkt (h : state.Slot) (frame : PassedFrame) :
    (state.bufferPkt platform frame).Slot where
  frame := by
    intro buffered hbuffered
    obtain rfl := Option.mem_some.mp hbuffered
    rfl
  holding := rfl
  buffered := fun _ ↦ rfl
  waiting := fun _ ↦ rfl
  transmits := h.transmits
  txDones := h.txDones
  failedAsserts := h.failedAsserts

/-- A request can make the frame due; it stays in the slot. -/
theorem showFrame (h : state.Slot) (hout : state.inTxDone = false) (visit : Visit)
    (mTimestamp : ℕ) : (state.showFrame platform visit mTimestamp).Slot := by
  unfold GpDriver.showFrame
  simp only [GpInterface.slGpIntfShouldBufferPkt_rx]
  split
  case isTrue hmatched =>
    exact { h with
      holding := h.holding.trans (isHolding_of_waiting hmatched.1)
      waiting := fun htxDone ↦ absurd (hout.symm.trans htxDone) Bool.false_ne_true }
  case isFalse => exact { h with }

theorem interfaceStep (h : state.Slot) {event : RadioEvent}
    (hprocess : ¬ (state.inTxDone && isProcess event) = true) (mTimestamp : ℕ) :
    (state.interfaceStep config platform event mTimestamp).Slot := by
  unfold GpDriver.interfaceStep
  split
  case h_1 frame _ => exact h.bufferPkt frame
  case h_2 =>
    split
    case h_1 visit hvisit =>
      -- Only a part of `efr32RadioProcess` shows a frame, and it does not run inside the callback.
      have hout : state.inTxDone = false := by
        cases event <;> first | contradiction | simpa [isProcess] using hprocess
      exact h.showFrame hout visit mTimestamp
    case h_2 => exact h

/-- The frame that `efr32GpProcess` finds in the slot. -/
theorem exists_buffered (h : state.Slot) (hout : state.inTxDone = false)
    (hholding : state.gp.isHolding = true) : ∃ frame, state.buffered = some frame :=
  Option.isSome_iff_exists.mp ((h.buffered hout).trans (h.holding.trans hholding))

/-- While a frame is held back, the assertion of `efr32GpProcess` holds, and the frame is that of
the instance. -/
theorem withBufferedTxInstance (h : state.Slot) {frame : PassedFrame}
    (hbuffered : state.buffered = some frame) (next : ℕ → GpDriver) :
    state.withBufferedTxInstance next = next frame.iid := by
  unfold GpDriver.withBufferedTxInstance
  rw [h.frame frame hbuffered]

theorem sendDueFrame (h : state.Slot) (hout : state.inTxDone = false) {frame : PassedFrame}
    (hbuffered : state.buffered = some frame) (rail : RailResults) :
    (state.sendDueFrame config platform rail frame.iid).Slot where
  frame := fun _ ↦ nofun
  holding := rfl
  buffered := fun _ ↦ rfl
  waiting := fun htxDone ↦ absurd (hout.symm.trans htxDone) Bool.false_ne_true
  transmits := by
    change state.transmits ++ [frame.iid] =
      (state.handed ++ state.buffered.toList).map PassedFrame.iid
    rw [hbuffered, h.transmits, List.map_append]
    rfl
  txDones := h.txDones
  failedAsserts := h.failedAsserts

theorem abortFrame (h : state.Slot) (hstate : state.gp.gpState = .waitingForPkt)
    {frame : PassedFrame} (hbuffered : state.buffered = some frame) :
    (state.abortFrame frame.iid).Slot where
  frame := fun _ ↦ nofun
  holding := h.holding
  buffered := fun hout ↦ nomatch hout
  waiting := fun _ ↦ hstate
  transmits := h.transmits
  txDones := by
    change state.txDones ++ [frame.iid] =
      (state.aborted ++ state.buffered.toList).map PassedFrame.iid
    rw [hbuffered, h.txDones, List.map_append]
    rfl
  failedAsserts := h.failedAsserts

theorem endAbort (h : state.Slot) : state.endAbort.Slot where
  frame := fun _ ↦ nofun
  holding := rfl
  buffered := fun _ ↦ rfl
  waiting := fun htxDone ↦ nomatch htxDone
  transmits := h.transmits
  txDones := h.txDones
  failedAsserts := h.failedAsserts

end Slot

/-! ## Steps -/

/-- What a call of `efr32GpProcess` does. -/
inductive ProcessStep (config : Config) (platform : GpPlatform) (state : GpDriver)
    (rail : RailResults) : GpDriver → Prop
  | start (hstate : state.gp.gpState = .init) :
      ProcessStep config platform state rail
        { state with gp := { state.gp with gpState := .idle } }
  | send (hstate : state.gp.gpState = .sendResponse)
      (hdue : state.gp.gpStateTimeOut ≤ state.clock) {frame : PassedFrame}
      (hbuffered : state.buffered = some frame) :
      ProcessStep config platform state rail (state.sendDueFrame config platform rail frame.iid)
  | abort (hstate : state.gp.gpState = .waitingForPkt) {frame : PassedFrame}
      (hbuffered : state.buffered = some frame) :
      ProcessStep config platform state rail (state.abortFrame frame.iid)
  | wait (hwait : state.gp.gpState = .sendResponse → ¬ state.gp.gpStateTimeOut ≤ state.clock) :
      ProcessStep config platform state rail state

theorem Slot.processStep (h : state.Slot) (hout : state.inTxDone = false) (rail : RailResults) :
    ProcessStep config platform state rail (state.efr32GpProcess config platform rail) := by
  unfold efr32GpProcess
  split
  case h_1 hstate => exact .start hstate
  case h_2 hstate =>
    obtain ⟨frame, hbuffered⟩ := h.exists_buffered hout (isHolding_of_sendResponse hstate)
    rw [h.withBufferedTxInstance hbuffered]
    split
    case isTrue hdue => exact .send hstate hdue hbuffered
    case isFalse hwait => exact .wait fun _ ↦ hwait
  case h_3 hstate =>
    obtain ⟨frame, hbuffered⟩ := h.exists_buffered hout (isHolding_of_waiting hstate)
    rw [h.withBufferedTxInstance hbuffered]
    split
    case isTrue => exact .abort hstate hbuffered
    case isFalse => exact .wait fun hsend ↦ nomatch hstate.symm.trans hsend
  case h_4 hstate => exact .wait fun hsend ↦ nomatch hstate.symm.trans hsend

/-- The steps, with their results. -/
inductive GpStep (config : Config) (platform : GpPlatform) (state : GpDriver) :
    GpEvent → GpDriver → Prop
  | radio {event : RadioEvent} {mTimestamp : ℕ} {radio : Driver}
      (hprocess : ¬ (state.inTxDone && isProcess event) = true)
      (hstep : radioStep config state.radio (withGpBuffers
        (state.divertedFrame config platform event).isSome event) = some radio) :
      GpStep config platform state (.radio event mTimestamp)
        ((state.interfaceStep config platform event mTimestamp).advanceTo platform
          (passedFrame config state.radio event) radio)
  | gpProcess {rail : RailResults} {next : GpDriver} (hout : state.inTxDone = false)
      (hprocess : ProcessStep config platform state rail next) :
      GpStep config platform state (.gpProcess rail) next
  | txDoneReturns (htxDone : state.inTxDone = true) :
      GpStep config platform state .txDoneReturns state.endAbort
  | elapse {duration : ℕ} :
      GpStep config platform state (.elapse duration)
        { state with clock := state.clock + duration }

theorem Slot.gpStep (h : state.Slot) (hstep : gpStep config platform state event = some next) :
    GpStep config platform state event next := by
  cases event with
  | radio event mTimestamp =>
    simp only [GreenPower.gpStep] at hstep
    obtain ⟨hprocess, hstep⟩ := Option.ite_none_left_eq_some.mp hstep
    obtain ⟨radio, hradio, rfl⟩ := Option.map_eq_some_iff.mp hstep
    exact .radio hprocess hradio
  | gpProcess rail =>
    simp only [GreenPower.gpStep] at hstep
    obtain ⟨⟨_, _, _, hout⟩, hnext⟩ := Option.ite_none_right_eq_some.mp hstep
    obtain rfl := Option.some.inj hnext
    exact .gpProcess hout (h.processStep hout rail)
  | txDoneReturns =>
    simp only [GreenPower.gpStep] at hstep
    obtain ⟨⟨htxDone, _⟩, hnext⟩ := Option.ite_none_right_eq_some.mp hstep
    obtain rfl := Option.some.inj hnext
    exact .txDoneReturns htxDone
  | elapse duration =>
    obtain rfl := Option.some.inj hstep
    exact .elapse

theorem Slot.step (h : state.Slot) (hstep : GpStep config platform state event next) :
    next.Slot := by
  cases hstep with
  | radio hprocess => exact { h.interfaceStep hprocess _ with }
  | gpProcess hout hprocess =>
    cases hprocess with
    | start hstate =>
      have hempty : state.gp.isHolding = false := by simp [GpInterface.isHolding, hstate]
      exact { h with
        holding := h.holding.trans hempty
        waiting := fun htxDone ↦ absurd (hout.symm.trans htxDone) Bool.false_ne_true }
    | send _ _ hbuffered => exact h.sendDueFrame hout hbuffered _
    | abort hstate hbuffered => exact h.abortFrame hstate hbuffered
    | wait => exact h
  | txDoneReturns => exact h.endAbort
  | elapse => exact { h with }

theorem gpInit_slot (config : Config) : (gpInit config).Slot where
  frame := fun _ ↦ nofun
  holding := rfl
  buffered := fun _ ↦ rfl
  waiting := fun htxDone ↦ nomatch htxDone
  transmits := rfl
  txDones := rfl
  failedAsserts := rfl

end GpDriver

end OtEfr32.GreenPower
