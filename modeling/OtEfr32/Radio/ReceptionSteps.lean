import OtEfr32.Radio.AckedReception
import OtEfr32.Radio.NonceUniqueness
import OtEfr32.Radio.Reception
import OtEfr32.Radio.TxCompletion

/-!
# Steps of the receive path

What a step of the driver does to the queue of received packets and to the packet that is being
handed up, and which key id and frame counter it stores for the ACKs of an interface.
-/

namespace OtEfr32.Radio

open Transition

/-! ## The queue and the visit -/

namespace Receiver

variable {config : Config} {rx after : Receiver}

/-- Nothing is queued, dequeued or handed up; a visit goes on, or ends. -/
structure Quiet (rx after : Receiver) : Prop where
  sRxPacketQueue : after.sRxPacketQueue = rx.sRxPacketQueue
  queued : after.queued = rx.queued
  dequeued : after.dequeued = rx.dequeued
  receiveDones : after.receiveDones = rx.receiveDones
  visit : ∀ visit', after.visit = some visit' →
    ∃ visit, rx.visit = some visit ∧ visit'.frame = visit.frame

/-- The frame of a visit is handed up. -/
structure Hands (rx after : Receiver) (visit : Visit) : Prop where
  sRxPacketQueue : after.sRxPacketQueue = rx.sRxPacketQueue
  queued : after.queued = rx.queued
  dequeued : after.dequeued = rx.dequeued
  receiveDones : ∃ iid mChannel rxPacketBuf, after.receiveDones =
    rx.receiveDones ++ [⟨iid, { visit.frame with mChannel }, rxPacketBuf⟩]
  visit : ∀ visit', after.visit = some visit' → visit'.frame = visit.frame

theorem Quiet.refl (rx : Receiver) : rx.Quiet rx :=
  ⟨rfl, rfl, rfl, rfl, fun visit' hvisit ↦ ⟨visit', hvisit, rfl⟩⟩

theorem Quiet.of_eq (hqueue : after.sRxPacketQueue = rx.sRxPacketQueue)
    (hqueued : after.queued = rx.queued) (hdequeued : after.dequeued = rx.dequeued)
    (hdones : after.receiveDones = rx.receiveDones) (hvisit : after.visit = rx.visit) :
    rx.Quiet after :=
  ⟨hqueue, hqueued, hdequeued, hdones, fun visit' hvisit' ↦ ⟨visit', hvisit ▸ hvisit', rfl⟩⟩

theorem nextInterface_quiet {visit : Visit} (hvisit : rx.visit = some visit) :
    rx.Quiet (rx.nextInterface config visit) := by
  unfold nextInterface
  split
  · refine ⟨rfl, rfl, rfl, rfl, fun visit' hvisit' ↦ ⟨visit, hvisit, ?_⟩⟩
    obtain rfl := Option.some.inj hvisit'
    rfl
  · exact ⟨rfl, rfl, rfl, rfl, nofun⟩

theorem receiveDone_hands {visit : Visit} (hvisit : rx.visit = some visit)
    (hquiet : (rx.receiveDone visit).Quiet after) : rx.Hands after visit where
  sRxPacketQueue := hquiet.sRxPacketQueue
  queued := hquiet.queued
  dequeued := hquiet.dequeued
  receiveDones := ⟨_, _, _, hquiet.receiveDones⟩
  visit := by
    intro visit' hvisit'
    obtain ⟨old, hold, hframe⟩ := hquiet.visit visit' hvisit'
    obtain rfl : visit = old := Option.some.inj (hvisit.symm.trans hold)
    exact hframe

end Receiver

namespace Driver

variable {config : Config} {radio next : Driver}

/-- What a part of `efr32RadioProcess` does to the receive path. -/
inductive ProcessRx (config : Config) (radio : Driver) (after : Receiver) : Prop
  | quiet (hhands : radio.handsUp config = false) (hquiet : radio.rx.Quiet after)
  | start (hhands : radio.handsUp config = false) {rxPacketBuf : RxBuffer} {rest : List RxBuffer}
      (hqueue : radio.rx.sRxPacketQueue = rxPacketBuf :: rest)
      (hafter : after = radio.rx.startVisit radio.security.sMacKeys rxPacketBuf rest)
  | hand (hhands : radio.handsUp config = true) {visit : Visit}
      (hvisit : radio.rx.visit = some visit) (hafter : radio.rx.Hands after visit)

theorem handsUp_of_visit (config : Config) {visit : Visit}
    (hlocation : radio.location = .processRxPackets)
    (hvisit : radio.rx.visit = some visit) :
    radio.handsUp config = (Receiver.hasInstance config visit.interfaceId &&
      !(visit.handedOnce && Receiver.leavesForGp config visit.frame.mPsdu)) := by
  simp [handsUp, hlocation, hvisit]

theorem visitStep_processRx {visit : Visit} (hlocation : radio.location = .processRxPackets)
    (hvisit : radio.rx.visit = some visit) :
    ProcessRx config radio (radio.rx.visitStep config visit) := by
  have hhands := handsUp_of_visit config hlocation hvisit
  unfold Receiver.visitStep
  split
  case isTrue hinstance =>
    rw [hinstance, Bool.false_and] at hhands
    exact .quiet hhands (Receiver.nextInterface_quiet hvisit)
  case isFalse hinstance =>
    rw [Bool.of_not_eq_false hinstance, Bool.true_and] at hhands
    split
    case isTrue honce =>
      rw [honce, Bool.false_and] at hhands
      refine .hand hhands hvisit (Receiver.receiveDone_hands hvisit ?_)
      refine ⟨rfl, rfl, rfl, rfl, fun visit' hvisit' ↦ ⟨visit, hvisit, ?_⟩⟩
      obtain rfl := Option.some.inj hvisit'
      rfl
    case isFalse honce =>
      rw [Bool.of_not_eq_false honce, Bool.true_and] at hhands
      split
      case isTrue hgp =>
        rw [hgp] at hhands
        exact .quiet hhands ⟨rfl, rfl, rfl, rfl, nofun⟩
      case isFalse hgp =>
        rw [Bool.of_not_eq_true hgp] at hhands
        have hdone : (radio.rx.receiveDone visit).visit = some visit := hvisit
        exact .hand hhands hvisit
          (Receiver.receiveDone_hands hvisit (Receiver.nextInterface_quiet hdone))

theorem ProcessPart.processRx {rail : RailResults} {gpBuffers : Bool}
    (hpart : ProcessPart config rail gpBuffers radio next) : ProcessRx config radio next.rx := by
  have helsewhere : radio.location ≠ .processRxPackets → radio.handsUp config = false := by
    intro hne
    simp [handsUp, hne]
  cases hpart with
  | visit hlocation hvisit => exact visitStep_processRx hlocation hvisit
  | startVisit hlocation hvisit hqueue =>
    have hhands : radio.handsUp config = false := by simp [handsUp, hvisit]
    exact .start hhands hqueue rfl
  | rxDone hlocation hvisit =>
    have hhands : radio.handsUp config = false := by simp [handsUp, hvisit]
    exact .quiet hhands (Receiver.Quiet.refl _)
  | transmit hdue =>
    have hlocation := (guards_of_dueCommand hdue).1
    simp only [moveTo, otPlatRadioTransmit_rx]
    exact .quiet (helsewhere (by simp [hlocation])) (Receiver.Quiet.refl _)
  | energyScan hdue =>
    have hlocation := (guards_of_dueCommand hdue).1
    simp only [moveTo, otPlatRadioEnergyScan_rx]
    exact .quiet (helsewhere (by simp [hlocation])) (Receiver.Quiet.refl _)
  | enter hlocation | txComplete hlocation | scanReport hlocation | noReport hlocation
    | scanReported hlocation | noCommand hlocation =>
    exact .quiet (helsewhere (by simp [hlocation])) (Receiver.Quiet.refl _)

/-- Outside interrupts and `efr32RadioProcess`, the queue of received packets does not move. -/
theorem radioStep_quiet {event : RadioEvent} (hrail : event.isRailEvents = false)
    (hprocess : ∀ rail gpBuffers, event ≠ .process rail gpBuffers)
    (hstep : radioStep config radio event = some next) : radio.rx.Quiet next.rx := by
  have hrx := receiverStep_of_radioStep hstep
  generalize next.rx = after at hrx ⊢
  cases hrx with
  | kept => exact Receiver.Quiet.refl _
  | queued => exact absurd hrail (Bool.false_ne_true ·.symm)
  | setReceiveChannel | setPromiscuous => exact Receiver.Quiet.of_eq rfl rfl rfl rfl rfl
  | setPanId =>
    unfold Receiver.otPlatRadioSetPanId
    split
    · exact Receiver.Quiet.of_eq rfl rfl rfl rfl rfl
    · exact Receiver.Quiet.refl _
  | process => exact absurd rfl (hprocess _ _)

end Driver

/-! ## The stored key id and counter -/

namespace MacSecurity

variable {config : Config} (security : MacSecurity)

/-- The key id and counter that are stored for the ACKs of an interface. -/
def storedAck (iid : ℕ) : ℕ × ℕ :=
  ((security.sMacKeys iid).ackKeyId, (security.sMacKeys iid).ackFrameCounter)

theorem assignCounter_storedAck (isAck : Bool) (iid keyId : ℕ) (aFrame : FrameSecurity) :
    (security.assignCounter isAck iid keyId aFrame).2.storedAck =
      Function.update security.storedAck iid
        (if isAck then (keyId, (security.sMacKeys iid).macFrameCounter)
          else security.storedAck iid) := by
  funext other
  by_cases hother : other = iid
  · subst hother
    cases isAck <;> simp [storedAck, assignCounter]
  · simp [storedAck, assignCounter, update_of_ne _ hother, hother]

theorem encrypted_storedAck (iid : ℕ) (slot : MacKeySlot) (aFrame : FrameSecurity) :
    (security.efr32PlatProcessTransmitAesCcm iid slot aFrame).2.storedAck = security.storedAck :=
  rfl

/-- The header of a frame that has been assigned a counter and encrypted. -/
theorem encrypted_header (isAck : Bool) (iid keyId : ℕ) (slot : MacKeySlot)
    (aFrame : FrameSecurity) :
    let assigned := security.assignCounter isAck iid keyId aFrame
    let secured := (assigned.2.efr32PlatProcessTransmitAesCcm iid slot assigned.1).1
    secured.mIsHeaderUpdated = true ∧ secured.keyId = keyId ∧
      secured.frameCounter = (security.sMacKeys iid).macFrameCounter :=
  ⟨rfl, rfl, rfl⟩

/-- Securing a frame stores what it writes into the header of an ACK, and nothing else. -/
theorem radioProcessTransmitSecurity_storedAck (isAck : Bool) (aFrame : FrameSecurity)
    (iid : ℕ) :
    (security.radioProcessTransmitSecurity config isAck aFrame iid).2.2.storedAck =
      Function.update security.storedAck iid
        ((if isAck then security.headerWritten config true aFrame iid else none).getD
          (security.storedAck iid)) := by
  have hheader : (security.radioProcessTransmitSecurity config isAck aFrame iid).2.2.storedAck =
      Function.update security.storedAck iid
        ((if isAck then security.headerWritten config isAck aFrame iid else none).getD
          (security.storedAck iid)) := by
    unfold headerWritten radioProcessTransmitSecurity
    split
    case isFalse => simp
    case isTrue =>
      cases hselect : selectKey isAck aFrame (security.sMacKeys iid) with
      | error error => simp
      | ok selected =>
        simp only
        cases hupdated : aFrame.mIsHeaderUpdated with
        | true => simp [encrypted_storedAck]
        | false =>
          have hassigned := security.assignCounter_storedAck isAck iid selected.1 aFrame
          have hframe := security.encrypted_header isAck iid selected.1 selected.2 aFrame
          cases isAck <;> simp [encrypted_storedAck, hassigned, hframe]
  cases isAck with
  | false => exact hheader
  | true => exact hheader

theorem setMacKeyStep_storedAck (call : SetMacKeyArgs) (location : SetMacKeyLocation) :
    (security.setMacKeyStep call location).storedAck = security.storedAck := by
  have hupdate (change : SecurityMaterial → SecurityMaterial)
      (hchange : ∀ material, ((change material).ackKeyId, (change material).ackFrameCounter) =
        (material.ackKeyId, material.ackFrameCounter)) :
      (security.update call.iid change).storedAck = security.storedAck := by
    funext other
    by_cases hother : other = call.iid
    · subst hother
      simpa [storedAck] using hchange (security.sMacKeys call.iid)
    · simp only [storedAck, update_of_ne _ hother]
  cases location with
  | resetCounter =>
    exact hupdate (fun material ↦
      { material with macFrameCounter := 0, epoch := material.epoch + 1 }) fun _ ↦ rfl
  | setKeyId => exact hupdate (fun material ↦ { material with keyId := call.aKeyId }) fun _ ↦ rfl
  | copyKey slot =>
    have hcopied : (security.copyKey call slot).storedAck = security.storedAck :=
      hupdate (fun material ↦
        { material with keys := Function.update material.keys slot (call.key slot) }) fun _ ↦ rfl
    cases slot <;> exact hcopied

theorem otPlatRadioSetMacFrameCounterIfLarger_storedAck (iid aMacFrameCounter : ℕ) :
    (security.otPlatRadioSetMacFrameCounterIfLarger iid aMacFrameCounter).storedAck =
      security.storedAck := by
  funext other
  unfold otPlatRadioSetMacFrameCounterIfLarger
  by_cases hother : other = iid
  · subst hother
    simp only [storedAck, update_self]
    split <;> rfl
  · simp only [storedAck, update_of_ne _ hother]

end MacSecurity

/-- The stored key ids and counters once an ACK is secured. -/
def storeAck (stored : ℕ → ℕ × ℕ) : Option (ℕ × ℕ × ℕ) → ℕ → ℕ × ℕ
  | some (iid, header) => Function.update stored iid header
  | none => stored

namespace Driver

variable {config : Config} {radio next : Driver}

theorem transmitNow_storedAck (radio : Driver) (config : Config) (rail : RailResults)
    (iid aFrame request : ℕ) :
    (radio.transmitNow config rail iid aFrame request).2.security.storedAck =
      storeAck radio.security.storedAck
        ((radio.transmitNowAck config iid aFrame).map fun header ↦ (iid, header)) := by
  by_cases hband : config.hasBandConfig (radio.tx.sTransmitBuffer aFrame).frame.mChannel = true
  · rw [(radio.transmitNow_secured hband rail iid request).1,
      MacSecurity.radioProcessTransmitSecurity_storedAck]
    simp only [transmitNowAck, hband, Bool.true_and]
    cases hheader : if (radio.tx.sTransmitBuffer (txBufIndex iid)).frame.isAck = true then
        radio.security.headerWritten config true
          (radio.tx.sTransmitBuffer (txBufIndex iid)).frame.mSecurity iid
      else none with
    | none => exact Function.update_eq_self iid _
    | some header => rfl
  · simp [transmitNow, transmitNowAck, hband, storeAck]

theorem otPlatRadioTransmit_storedAck (radio : Driver) (config : Config) (rail : RailResults)
    (gpBuffers : Bool) (iid aFrame request : ℕ) :
    (radio.otPlatRadioTransmit config rail gpBuffers iid aFrame request).2.security.storedAck =
      storeAck radio.security.storedAck
        ((radio.transmitAck config gpBuffers iid aFrame).map fun header ↦ (iid, header)) := by
  have hframe := radio.tx.acceptFrame_frame config iid aFrame
  have hack : (radio.mapTx fun tx ↦ tx.acceptFrame config iid aFrame).transmitNowAck config iid
      aFrame = radio.transmitNowAck config iid aFrame := by
    simp only [transmitNowAck]
    change (if config.hasBandConfig ((radio.tx.acceptFrame config iid aFrame).sTransmitBuffer
        aFrame).frame.mChannel && ((radio.tx.acceptFrame config iid aFrame).sTransmitBuffer
          (txBufIndex iid)).frame.isAck then
      radio.security.headerWritten config true ((radio.tx.acceptFrame config iid
        aFrame).sTransmitBuffer (txBufIndex iid)).frame.mSecurity iid else none) = _
    rw [hframe, hframe]
  unfold otPlatRadioTransmit
  split
  case isTrue hpal =>
    rw [transmitAck, if_pos (Or.inl hpal)]
    rfl
  split
  case isTrue hpal hgp =>
    rw [transmitAck, if_pos (Or.inr (Or.inl hgp))]
    rfl
  simp only [acceptFrame_isBusy]
  split
  case isTrue hpal hgp hbusy =>
    obtain ⟨_, _, heq⟩ := pushPendingCommand_eq
      (radio.mapTx fun tx ↦ tx.acceptFrame config iid aFrame) config (.transmit aFrame request) iid
    rw [heq, transmitAck, if_pos (Or.inr (Or.inr hbusy))]
    rfl
  case isFalse hpal hgp hidle =>
    have hnow : ¬ (config.canAccessPal = false ∨ (config.multipan && gpBuffers) = true ∨
        (config.multipan && radio.isRadioTransmittingOrScanning) = true) :=
      not_or.mpr ⟨hpal, not_or.mpr ⟨hgp, hidle⟩⟩
    rw [transmitNow_storedAck, hack, transmitAck, if_neg hnow]
    rfl

theorem ProcessPart.storedAck_eq {rail : RailResults} {gpBuffers : Bool}
    (hpart : ProcessPart config rail gpBuffers radio next) :
    next.security.storedAck =
      storeAck radio.security.storedAck
        (radio.securesAck config (.process rail gpBuffers)) := by
  have hnone (hdue : radio.dueCommand config = none) :
      radio.securesAck config (.process rail gpBuffers) = none := by
    simp only [securesAck, hdue]
  cases hpart with
  | @transmit iid txFrame request rest hdue =>
    have hsecures : radio.securesAck config (.process rail gpBuffers) =
        (radio.transmitAck config gpBuffers iid txFrame).map fun header ↦ (iid, header) := by
      simp only [securesAck, hdue]
    rw [hsecures]
    exact otPlatRadioTransmit_storedAck { radio with sPendingCommandQueue := rest } config rail
      gpBuffers iid txFrame request
  | energyScan hdue =>
    have hsecures : radio.securesAck config (.process rail gpBuffers) = none := by
      simp only [securesAck, hdue]
    rw [hsecures]
    exact congrArg MacSecurity.storedAck (otPlatRadioEnergyScan_security ..)
  | noCommand hlocation hdue =>
    rw [hnone hdue]
    rfl
  | enter hlocation | visit hlocation | startVisit hlocation | rxDone hlocation
    | txComplete hlocation | scanReport hlocation | noReport hlocation | scanReported hlocation =>
    rw [hnone (dueCommand_elsewhere config (by simp [hlocation]))]
    rfl

/-- The ACK that an event secures is the one whose key id and counter are stored behind it. -/
theorem radioStep_storedAck {event : RadioEvent} (hrail : event.isRailEvents = false)
    (hstep : radioStep config radio event = some next) :
    next.security.storedAck =
      storeAck radio.security.storedAck (radio.securesAck config event) := by
  cases step_of_radioStep hstep with
  | railEvents => exact absurd hrail (Bool.false_ne_true ·.symm)
  | scanTimer | endRssiWait => rfl
  | setMacKeyStep => exact radio.security.setMacKeyStep_storedAck _ _
  | main hcall hmain =>
    cases hmain with
    | @transmit iid rail gpBuffers =>
      have htransmit := otPlatRadioTransmit_storedAck (radio.mapTx Transmitter.countRequest) config
        rail gpBuffers iid (txBufIndex iid) radio.tx.requests
      obtain ⟨_, heq⟩ := radio.transmit_eq config iid rail gpBuffers
      rw [heq]
      exact htransmit
    | energyScan =>
      obtain ⟨_, _, _, _, _, heq⟩ := radio.energyScan_frame config _ _ _ _
      rw [heq]
      rfl
    | @getRssi rail =>
      obtain ⟨_, _, _, heq⟩ := otPlatRadioGetRssi_eq radio config rail
      rw [heq]
      rfl
    | @receive aChannel rail =>
      obtain ⟨_, _, _, _, heq⟩ := otPlatRadioReceive_eq radio config rail aChannel
      rw [heq]
      rfl
    | @receiveAt aChannel rail =>
      obtain ⟨_, _, _, _, heq⟩ := otPlatRadioReceiveAt_eq radio config rail aChannel
      rw [heq]
      rfl
    | sleep =>
      obtain ⟨_, heq⟩ := radio.otPlatRadioSleep_eq
      rw [heq]
      rfl
    | setMacFrameCounterIfLarger =>
      exact radio.security.otPlatRadioSetMacFrameCounterIfLarger_storedAck _ _
    | writeFrame | setChannelMaxTransmitPower | setTransmitPower | setPanId | setPromiscuous
      | setMacKey => rfl
    | refused hpal hsetting =>
      cases event <;> first | rfl | contradiction
    | process => exact (radio.processPart config _ _).storedAck_eq

end Driver

end OtEfr32.Radio
