import Mathlib.Data.List.Basic
import OtEfr32.GreenPower.Slot
import OtEfr32.Radio.TxCompletion

/-!
# Conservation of Green Power frames

Every frame that `otPlatRadioTransmit` gives to `sl_gp_intf_buffer_pkt` should be the buffered one,
be handed to the radio, or be reported as aborted once.  The interface has one slot for all
instances and fills it without a look at it, and it empties the slot after `otPlatRadioTxDone` has
returned.  `frameLaw_iff` is the exact condition for whole runs.  A due frame is handed to the radio
also where `otPlatRadioTransmit` refuses it, of which `efr32GpProcess` learns nothing.
-/

namespace OtEfr32.GreenPower

open Radio Transition

namespace GpDriver

/-- Every frame that was held back is in one place, each call of `efr32GpProcess` is for the
instance of its frame, and `sBufferedTxInstance` is set exactly while a frame is held back. -/
def FrameLaw (state : GpDriver) : Prop :=
  (state.buffered.toList ++ state.handed ++ state.aborted).Perm state.diverted ∧
    state.transmits = state.handed.map PassedFrame.iid ∧
    state.txDones = state.aborted.map PassedFrame.iid ∧
    (∀ frame ∈ state.buffered, state.gp.sBufferedTxInstance = some frame.iid) ∧
    state.gp.sBufferedTxInstance.isSome = state.gp.isHolding ∧
    state.failedAsserts = 0

instance : DecidablePred FrameLaw := fun _ ↦
  inferInstanceAs (Decidable (_ ∧ _ ∧ _ ∧ _ ∧ _ ∧ _))

/-- No frame is held back while another one is and has not been reported, and none is when
`otPlatRadioTxDone` returns to `efr32GpProcess`. -/
def SlotFree (config : Config) (platform : GpPlatform) (state : GpDriver) : GpEvent → Prop
  | .radio event _ =>
    (state.divertedFrame config platform event).isSome = true → state.buffered = none
  | .txDoneReturns => state.buffered = none
  | .gpProcess _ | .elapse _ => True

instance (config : Config) (platform : GpPlatform) : DecidableRel (SlotFree config platform) :=
  fun state event ↦
    match event with
    | .radio event _ => inferInstanceAs (Decidable
        ((state.divertedFrame config platform event).isSome = true → state.buffered = none))
    | .txDoneReturns => inferInstanceAs (Decidable (state.buffered = none))
    | .gpProcess _ | .elapse _ => .isTrue trivial

variable {config : Config} {platform : GpPlatform} {state next : GpDriver} {event : GpEvent}

/-! ## Steps -/

/-- The invariant behind `FrameLaw`. -/
structure Accounted (state : GpDriver) : Prop where
  slot : state.Slot
  places : (state.buffered.toList ++ state.handed ++ state.aborted).Perm state.diverted

theorem Accounted.law (h : state.Accounted) : state.FrameLaw :=
  ⟨h.places, h.slot.transmits, h.slot.txDones, h.slot.frame, h.slot.holding, h.slot.failedAsserts⟩

theorem interfaceStep_places (hplaces : (state.buffered.toList ++ state.handed ++
      state.aborted).Perm state.diverted) (event : RadioEvent) (mTimestamp : ℕ)
    (hfree : (state.divertedFrame config platform event).isSome = true → state.buffered = none) :
    let next := state.interfaceStep config platform event mTimestamp
    (next.buffered.toList ++ next.handed ++ next.aborted).Perm next.diverted := by
  unfold interfaceStep
  split
  case h_1 frame hdiverted =>
    rw [hfree (by simp [hdiverted])] at hplaces
    exact (hplaces.cons frame).trans (List.perm_append_singleton frame state.diverted).symm
  case h_2 => split <;> exact hplaces

/-- A frame that leaves the slot for the places behind it. -/
theorem places_of_leave {frame : PassedFrame} {diverted places rest : List PassedFrame}
    (h : ([frame] ++ places ++ rest).Perm diverted) :
    (places ++ [frame] ++ rest).Perm diverted :=
  ((List.perm_append_singleton frame places).append_right rest).trans h

theorem processStep_places (hplaces : (state.buffered.toList ++ state.handed ++
      state.aborted).Perm state.diverted) {rail : RailResults}
    (hprocess : ProcessStep config platform state rail next) :
    (next.buffered.toList ++ next.handed ++ next.aborted).Perm next.diverted := by
  cases hprocess with
  | start | wait => exact hplaces
  | @send _ _ frame hbuffered =>
    change (state.handed ++ state.buffered.toList ++ state.aborted).Perm state.diverted
    rw [hbuffered] at hplaces ⊢
    exact places_of_leave hplaces
  | @abort _ frame hbuffered =>
    change (state.handed ++ (state.aborted ++ state.buffered.toList)).Perm state.diverted
    rw [hbuffered] at hplaces ⊢
    rw [← List.append_assoc]
    exact (List.perm_append_singleton frame _).trans hplaces

/-- The requests that the driver started, the ones it reported as started and as done, and the
number of its calls that start a transmission. -/
def transmissions (radio : Driver) : List ℕ × List ℕ × List TxDone × ℕ :=
  (radio.tx.started, radio.tx.txStarteds, radio.tx.txDones, radio.transmissionStarts.length)

theorem otPlatRadioTransmit_of_refused (radio : Driver) (rail : RailResults)
    (iid aFrame request : ℕ)
    (hrefused : config.canAccessPal = false ∨ radio.isRadioTransmittingOrScanning = false ∧
      config.hasBandConfig (radio.tx.sTransmitBuffer aFrame).frame.mChannel = false) :
    transmissions (radio.otPlatRadioTransmit config rail false iid aFrame request).2 =
      transmissions radio := by
  have haccepted : transmissions (radio.mapTx fun tx ↦ tx.acceptFrame config iid aFrame) =
      transmissions radio := by
    unfold transmissions Driver.mapTx Transmitter.acceptFrame Transmitter.otAssert
    dsimp only
    split_ifs <;> rfl
  unfold Driver.otPlatRadioTransmit
  by_cases hpal : config.canAccessPal = false
  · rw [if_pos hpal]
  · obtain ⟨hfree, hband⟩ := hrefused.resolve_left hpal
    have hstill : (radio.mapTx fun tx ↦
        tx.acceptFrame config iid aFrame).isRadioTransmittingOrScanning = false :=
      (radio.acceptFrame_isBusy config iid aFrame).trans hfree
    have hchannel : config.hasBandConfig ((radio.mapTx fun tx ↦
        tx.acceptFrame config iid aFrame).tx.sTransmitBuffer aFrame).frame.mChannel = false := by
      rw [Driver.mapTx, radio.tx.acceptFrame_frame]
      exact hband
    simp only [hpal, hstill, Driver.transmitNow, hchannel, Bool.and_false, Bool.false_eq_true,
      if_false]
    exact haccepted

/-- A due frame that `otPlatRadioTransmit` refuses counts as handed to the radio: it leaves the
slot, and nothing is started for it or reported. -/
theorem sendDueFrame_of_refused (rail : RailResults) (iid : ℕ)
    (hrefused : config.canAccessPal = false ∨
      state.radio.isRadioTransmittingOrScanning = false ∧ config.hasBandConfig
        (state.radio.tx.sTransmitBuffer (txBufIndex iid)).frame.mChannel = false) :
    (state.sendDueFrame config platform rail iid).buffered = none ∧
      (state.sendDueFrame config platform rail iid).handed =
        state.handed ++ state.buffered.toList ∧
      transmissions (state.sendDueFrame config platform rail iid).radio =
        transmissions state.radio := by
  refine ⟨rfl, rfl, ?_⟩
  have hdue := otPlatRadioTransmit_of_refused (state.radio.mapTx fun tx ↦
    tx.updateBuffer (txBufIndex iid) fun packet ↦
      { packet with frame := { packet.frame with mCsmaCaEnabled := false } }) rail iid
    (txBufIndex iid) (state.dueFrame iid).request
    (hrefused.imp_right fun h ↦ ⟨h.1, by simpa [Driver.mapTx, Transmitter.updateBuffer] using h.2⟩)
  exact hdue

theorem Accounted.step (h : state.Accounted) (hfree : SlotFree config platform state event)
    (hstep : gpStep config platform state event = some next) : next.Accounted := by
  have hgp := h.slot.gpStep hstep
  refine ⟨h.slot.step hgp, ?_⟩
  cases hgp with
  | radio => exact interfaceStep_places h.places _ _ hfree
  | gpProcess _ hprocess => exact processStep_places h.places hprocess
  | txDoneReturns =>
    have hplaces := h.places
    rw [show state.buffered = none from hfree] at hplaces
    exact hplaces
  | elapse => exact h.places

/-- A frame that is in the slot has no place once the slot is filled again or emptied. -/
theorem Accounted.not_frameLaw_of_not (h : state.Accounted)
    (hnot : ¬ SlotFree config platform state event)
    (hstep : gpStep config platform state event = some next) : ¬ next.FrameLaw := by
  have hlength := h.places.length_eq
  intro hlaw
  have hnext := hlaw.1.length_eq
  cases h.slot.gpStep hstep with
  | @radio event mTimestamp radio =>
    simp only [SlotFree, not_forall] at hnot
    obtain ⟨hdiverted, hfull⟩ := hnot
    obtain ⟨frame, hframe⟩ := Option.isSome_iff_exists.mp hdiverted
    obtain ⟨lost, hlost⟩ := Option.ne_none_iff_exists'.mp hfull
    simp only [interfaceStep, hframe, advanceTo, bufferPkt] at hnext
    simp [hlost] at hlength hnext
    omega
  | txDoneReturns =>
    obtain ⟨lost, hlost⟩ := Option.ne_none_iff_exists'.mp hnot
    simp only [endAbort] at hnext
    simp [hlost] at hlength hnext
    omega
  | gpProcess | elapse => exact absurd trivial hnot

theorem gpInit_accounted (config : Config) : (gpInit config).Accounted :=
  ⟨gpInit_slot config, .refl _⟩

end GpDriver

open GpDriver

/-- In every state of a run every frame that was held back is accounted for, and the assertions of
`efr32GpProcess` hold, exactly when the slot is free wherever the run needs it. -/
theorem frameLaw_iff (config : Config) (platform : GpPlatform) (labels : List GpEvent)
    (final : GpDriver) (hrun : exec (gpStep config platform) (gpInit config) labels = some final) :
    Throughout (gpStep config platform) FrameLaw (gpInit config) labels ↔
      Along (gpStep config platform) (SlotFree config platform) (gpInit config) labels :=
  throughout_iff_along (fun _ h ↦ Accounted.law h) (fun _ _ _ h hfree hstep ↦ h.step hfree hstep)
    (fun _ _ _ h hnot hstep ↦ h.not_frameLaw_of_not hnot hstep) (gpInit_accounted config) hrun

/-- The stack's functions, on data frames with short addresses and a compressed PAN id. -/
def shortAddressPlatform : GpPlatform where
  efr32GetPayload := fun psdu ↦ if psdu.take 2 = [0x01, 0x08] then some 7 else none
  efr32GetFrameVersion := fun psdu ↦ psdu.getD 1 0 >>> 4 &&& 0x3
  otMacFrameGetSrcAddr := fun _ ↦ List.replicate 8 0
  otMacFrameGetDstAddr := fun psdu ↦ (psdu.drop 5).take 2 ++ List.replicate 6 0

/-- A Channel Configuration. -/
def channelConfiguration : OtRadioFrame where
  mPsdu := [0x01, 0x08, 1, 0xFF, 0xFF, 0xFF, 0xFF, 0x0D, 0xF3, 0x00]
  mChannel := 11

/-- An instance transmits a Channel Configuration. -/
def transmitConfiguration (iid : ℕ) : List GpEvent :=
  [.radio (.writeFrame iid channelConfiguration) 0, .radio (.transmit iid {} false) 0]

/-- The frame of one host is held back, and reported when no request comes. -/
def timeoutRun : List GpEvent :=
  transmitConfiguration 1 ++ [.elapse 5000000, .gpProcess {}, .txDoneReturns]

theorem frameLaw_iff_timeoutRun :
    ((exec (gpStep .twoHosts shortAddressPlatform) (gpInit .twoHosts) timeoutRun).map
      fun state ↦ state.txDones) = some [1] ∧
    Throughout (gpStep .twoHosts shortAddressPlatform) FrameLaw (gpInit .twoHosts) timeoutRun :=
  ⟨by decide, (frameLaw_iff .twoHosts shortAddressPlatform timeoutRun _
    (Option.some_get (by decide)).symm).mpr (by decide)⟩

/-- A second host transmits a Channel Configuration while that of the first is held back. -/
theorem not_frameLaw_secondHost :
    ¬ ∀ config platform labels,
      Throughout (gpStep config platform) FrameLaw (gpInit config) labels := by
  intro h
  have hlaw := h .twoHosts shortAddressPlatform (transmitConfiguration 1 ++ transmitConfiguration 2)
  revert hlaw
  decide

end OtEfr32.GreenPower
