import Mathlib.Data.List.Nodup
import OtEfr32.Radio.Steps

/-!
# Delivery of received frames

The interrupt handler adds frames to `sRxPacketQueue`, and `processNextRxPacket` hands each of them
to the instances it is for.  The law: every queued frame is handed once to each of its addressees,
in the order of reception, and nothing else is handed up.  The source calls `otPlatRadioReceiveDone`
before its check for Green Power frames and again behind it, so the law holds exactly as long as no
frame gets beyond the first call.
-/

namespace OtEfr32.Radio

open Transition

namespace Receiver

variable {config : Config} {rx next : Receiver}

/-! ## The law -/

/-- The interfaces that a frame is for. -/
def interfaces (config : Config) (rxPacketBuf : RxBuffer) : List ℕ :=
  if rxPacketBuf.iid = radioBcastIid then List.range config.radioInterfaceCount
  else [rxPacketBuf.iid]

/-- The addressees of a frame: the instances of its interfaces, or none for a Green Power frame in
a single-PAN build. -/
def addressees (config : Config) (rxPacketBuf : RxBuffer) : List ℕ :=
  if leavesForGp config (clearReservedBits rxPacketBuf.psdu) then []
  else (interfaces config rxPacketBuf).filter (hasInstance config ·)

/-- What is to be handed up for a frame. -/
def deliveries (config : Config) (rxPacketBuf : RxBuffer) : List (ℕ × RxBuffer) :=
  (addressees config rxPacketBuf).map (·, rxPacketBuf)

/-- What was handed up. -/
def handed (rx : Receiver) : List (ℕ × RxBuffer) :=
  rx.receiveDones.map fun done ↦ (done.iid, done.rxPacketBuf)

/-- Received frames are handed to their addressees, in order and once. -/
structure ReceiveLaw (config : Config) (rx : Receiver) : Prop where
  queued : rx.queued = rx.dequeued ++ rx.sRxPacketQueue
  handed : rx.handed <+: rx.dequeued.flatMap (deliveries config)
  /-- While no frame is being handed up, every dequeued frame has been handed up. -/
  rest : rx.visit = none → rx.handed = rx.dequeued.flatMap (deliveries config)
  frames : ∀ done ∈ rx.receiveDones, done.aFrame.mPsdu = clearReservedBits done.rxPacketBuf.psdu

theorem receiveLaw_iff_and : rx.ReceiveLaw config ↔
    rx.queued = rx.dequeued ++ rx.sRxPacketQueue ∧
    rx.handed <+: rx.dequeued.flatMap (deliveries config) ∧
    (rx.visit = none → rx.handed = rx.dequeued.flatMap (deliveries config)) ∧
    ∀ done ∈ rx.receiveDones, done.aFrame.mPsdu = clearReservedBits done.rxPacketBuf.psdu :=
  ⟨fun h ↦ ⟨h.queued, h.handed, h.rest, h.frames⟩, fun ⟨h₁, h₂, h₃, h₄⟩ ↦ ⟨h₁, h₂, h₃, h₄⟩⟩

instance : DecidablePred (ReceiveLaw config) := fun _ ↦ decidable_of_iff' _ receiveLaw_iff_and

theorem nextInterface_eq (rx : Receiver) (config : Config) (visit : Visit) :
    (rx.nextInterface config visit).dequeued = rx.dequeued ∧
      (rx.nextInterface config visit).handed = rx.handed := by
  unfold nextInterface
  split <;> exact ⟨rfl, rfl⟩

/-! ## The loop over the interfaces -/

/-- The interfaces that the loop visits behind `interfaceId`. -/
def interfacesAfter (config : Config) (rxPacketBuf : RxBuffer) (interfaceId : ℕ) : List ℕ :=
  if rxPacketBuf.iid = radioBcastIid then
    List.range' (interfaceId + 1) (config.radioInterfaceCount - (interfaceId + 1))
  else []

theorem interfaces_eq (config : Config) (rxPacketBuf : RxBuffer) :
    interfaces config rxPacketBuf =
      rxPacketBuf.iid :: interfacesAfter config rxPacketBuf rxPacketBuf.iid := by
  unfold interfaces interfacesAfter
  split
  case isTrue hbroadcast =>
    have hcount : config.radioInterfaceCount = config.radioInterfaceCount - 1 + 1 := by
      unfold Config.radioInterfaceCount
      split <;> omega
    rw [hbroadcast, List.range_eq_range', hcount, List.range'_succ]
    rfl
  case isFalse => rfl

theorem interfacesAfter_next {rxPacketBuf : RxBuffer} {interfaceId : ℕ}
    (h : rxPacketBuf.iid = radioBcastIid ∧ interfaceId + 1 < config.radioInterfaceCount) :
    interfacesAfter config rxPacketBuf interfaceId =
      (interfaceId + 1) :: interfacesAfter config rxPacketBuf (interfaceId + 1) := by
  have hcount : config.radioInterfaceCount - (interfaceId + 1) =
      config.radioInterfaceCount - (interfaceId + 2) + 1 := by omega
  rw [interfacesAfter, interfacesAfter, if_pos h.1, if_pos h.1, hcount, List.range'_succ]

theorem interfacesAfter_last {rxPacketBuf : RxBuffer} {interfaceId : ℕ}
    (h : ¬ (rxPacketBuf.iid = radioBcastIid ∧ interfaceId + 1 < config.radioInterfaceCount)) :
    interfacesAfter config rxPacketBuf interfaceId = [] := by
  unfold interfacesAfter
  split
  case isTrue hbroadcast =>
    rw [Nat.sub_eq_zero_of_le (Nat.le_of_not_lt fun hlt ↦ h ⟨hbroadcast, hlt⟩)]
    rfl
  case isFalse => rfl

/-- The place of a visit: it has found no instance before the interface it is at. -/
structure VisitAt (config : Config) (visit : Visit) : Prop where
  frame : visit.frame.mPsdu = clearReservedBits visit.rxPacketBuf.psdu
  interface : ∃ front, interfaces config visit.rxPacketBuf =
      front ++ visit.interfaceId :: interfacesAfter config visit.rxPacketBuf visit.interfaceId ∧
    ∀ interfaceId ∈ front, hasInstance config interfaceId = false
  handedOnce : visit.handedOnce = true → hasInstance config visit.interfaceId = true

/-- What a visit has handed up. -/
def handedBy (visit : Visit) : List (ℕ × RxBuffer) :=
  if visit.handedOnce then [(visit.interfaceId, visit.rxPacketBuf)] else []

/-- The invariant of the receive path. -/
structure ReceiveConsistent (config : Config) (rx : Receiver) : Prop where
  law : rx.ReceiveLaw config
  visit : ∀ visit, rx.visit = some visit → VisitAt config visit ∧
    ∃ front, rx.dequeued = front ++ [visit.rxPacketBuf] ∧
      rx.handed = front.flatMap (deliveries config) ++ handedBy visit

/-- The first addressee that a visit finds. -/
theorem VisitAt.deliveries_eq {visit : Visit} (h : VisitAt config visit)
    (hinstance : hasInstance config visit.interfaceId = true)
    (hgp : leavesForGp config visit.frame.mPsdu = false) :
    deliveries config visit.rxPacketBuf = (visit.interfaceId, visit.rxPacketBuf) ::
      ((interfacesAfter config visit.rxPacketBuf visit.interfaceId).filter
        (hasInstance config ·)).map (·, visit.rxPacketBuf) := by
  obtain ⟨front, hinterfaces, hfront⟩ := h.interface
  have hskipped : front.filter (hasInstance config ·) = [] :=
    List.filter_eq_nil_iff.mpr fun interfaceId hmem ↦ by simp [hfront interfaceId hmem]
  rw [deliveries, addressees, ← h.frame, hgp, hinterfaces]
  simp [hskipped, hinstance]

/-- Without an instance for its last interface, a frame has no addressee. -/
theorem VisitAt.deliveries_nil {visit : Visit} (h : VisitAt config visit)
    (hinstance : hasInstance config visit.interfaceId = false)
    (hlast : interfacesAfter config visit.rxPacketBuf visit.interfaceId = []) :
    deliveries config visit.rxPacketBuf = [] := by
  obtain ⟨front, hinterfaces, hfront⟩ := h.interface
  have hskipped : front.filter (hasInstance config ·) = [] :=
    List.filter_eq_nil_iff.mpr fun interfaceId hmem ↦ by simp [hfront interfaceId hmem]
  rw [deliveries, addressees, hinterfaces, hlast]
  split
  · rfl
  · simp [hskipped, hinstance]

theorem deliveries_gp {rxPacketBuf : RxBuffer}
    (hgp : leavesForGp config (clearReservedBits rxPacketBuf.psdu) = true) :
    deliveries config rxPacketBuf = [] := by
  rw [deliveries, addressees, if_pos hgp]
  rfl

theorem nodup_deliveries (config : Config) (rxPacketBuf : RxBuffer) :
    (deliveries config rxPacketBuf).Nodup := by
  have hnodup : (addressees config rxPacketBuf).Nodup := by
    unfold addressees interfaces
    split
    · exact List.nodup_nil
    · apply List.Nodup.filter _
      split
      · exact List.nodup_range
      · exact List.nodup_singleton _
  exact hnodup.map fun interfaceId interfaceId' heq ↦ (Prod.mk.inj heq).1

namespace ReceiveConsistent

/-- A change that does not concern the queue and the visit. -/
theorem of_eq (h : ReceiveConsistent config rx) (hqueue : next.sRxPacketQueue = rx.sRxPacketQueue)
    (hvisit : next.visit = rx.visit) (hqueued : next.queued = rx.queued)
    (hdequeued : next.dequeued = rx.dequeued) (hdones : next.receiveDones = rx.receiveDones) :
    ReceiveConsistent config next where
  law := by
    have hhanded : next.handed = rx.handed := by rw [Receiver.handed, Receiver.handed, hdones]
    constructor
    · rw [hqueued, hdequeued, hqueue]
      exact h.law.queued
    · rw [hhanded, hdequeued]
      exact h.law.handed
    · rw [hhanded, hdequeued, hvisit]
      exact h.law.rest
    · rw [hdones]
      exact h.law.frames
  visit := by
    rw [hvisit, hdequeued, Receiver.handed, hdones]
    exact h.visit

theorem enqueue (h : ReceiveConsistent config rx) (rxPacketBuf : RxBuffer) :
    ReceiveConsistent config (rx.enqueue rxPacketBuf) where
  law := { h.law with
    queued := by
      change rx.queued ++ [rxPacketBuf] = rx.dequeued ++ (rx.sRxPacketQueue ++ [rxPacketBuf])
      rw [h.law.queued, List.append_assoc] }
  visit := h.visit

theorem startVisit (h : ReceiveConsistent config rx) (hvisit : rx.visit = none)
    {rxPacketBuf : RxBuffer} {rest : List RxBuffer}
    (hqueue : rx.sRxPacketQueue = rxPacketBuf :: rest) (sMacKeys : ℕ → SecurityMaterial) :
    ReceiveConsistent config (rx.startVisit sMacKeys rxPacketBuf rest) where
  law := {
    queued := by
      change rx.queued = rx.dequeued ++ [rxPacketBuf] ++ rest
      rw [h.law.queued, hqueue, List.append_assoc]
      rfl
    handed := by
      change rx.handed <+: (rx.dequeued ++ [rxPacketBuf]).flatMap _
      rw [h.law.rest hvisit, List.flatMap_append]
      exact List.prefix_append _ _
    rest := nofun
    frames := h.law.frames }
  visit := by
    rintro visit hstarted
    obtain rfl := Option.some.inj hstarted
    refine ⟨⟨rfl, ⟨[], interfaces_eq config rxPacketBuf, nofun⟩, nofun⟩, rx.dequeued, rfl, ?_⟩
    exact (h.law.rest hvisit).trans (List.append_nil _).symm

/-- The loop turns to the next interface, or ends, without having found an instance. -/
theorem nextInterface (h : ReceiveConsistent config rx) {visit : Visit}
    (hvisit : rx.visit = some visit)
    (hinstance : hasInstance config visit.interfaceId = false) :
    ReceiveConsistent config (rx.nextInterface config visit) := by
  obtain ⟨hat, front, hdequeued, hhanded⟩ := h.visit visit hvisit
  have hnone : handedBy visit = [] :=
    if_neg fun honce ↦ Bool.false_ne_true (hinstance.symm.trans (hat.handedOnce honce))
  rw [hnone, List.append_nil] at hhanded
  unfold Receiver.nextInterface
  split
  case isTrue hnext =>
    refine ⟨{ h.law with rest := nofun }, ?_⟩
    rintro visit' hstarted
    obtain rfl := Option.some.inj hstarted
    obtain ⟨skipped, hinterfaces, hskipped⟩ := hat.interface
    refine ⟨⟨hat.frame, ⟨skipped ++ [visit.interfaceId], ?_, ?_⟩, nofun⟩, front, hdequeued, ?_⟩
    · rw [List.append_assoc, hinterfaces, interfacesAfter_next hnext]
      rfl
    · intro interfaceId hmem
      rcases List.mem_append.mp hmem with hold | hnew
      · exact hskipped interfaceId hold
      · rw [List.mem_singleton.mp hnew]
        exact hinstance
    · exact hhanded.trans (List.append_nil _).symm
  case isFalse hlast =>
    refine ⟨{ h.law with rest := fun _ ↦ ?_ }, nofun⟩
    change rx.handed = rx.dequeued.flatMap _
    rw [hhanded, hdequeued, List.flatMap_append, List.flatMap_singleton,
      hat.deliveries_nil hinstance (interfacesAfter_last hlast), List.append_nil]

/-- The first call of `otPlatRadioReceiveDone` for a frame. -/
theorem receiveDone (h : ReceiveConsistent config rx) {visit : Visit}
    (hvisit : rx.visit = some visit) (hinstance : hasInstance config visit.interfaceId = true)
    (honce : visit.handedOnce = false) (hgp : leavesForGp config visit.frame.mPsdu = false) :
    ReceiveConsistent config
      ((rx.receiveDone visit).setVisit { visit with handedOnce := true }) := by
  obtain ⟨hat, front, hdequeued, hhanded⟩ := h.visit visit hvisit
  have hnone : handedBy visit = [] := if_neg (ne_true_of_eq_false honce)
  rw [hnone, List.append_nil] at hhanded
  have hafter : ((rx.receiveDone visit).setVisit { visit with handedOnce := true }).handed =
      front.flatMap (deliveries config) ++ [(visit.interfaceId, visit.rxPacketBuf)] := by
    rw [← hhanded]
    exact List.map_append
  refine ⟨⟨h.law.queued, ?_, nofun, ?_⟩, ?_⟩
  · rw [hafter]
    change _ <+: rx.dequeued.flatMap _
    rw [hdequeued, List.flatMap_append, List.flatMap_singleton, hat.deliveries_eq hinstance hgp]
    exact (List.prefix_append_right_inj _).mpr (List.prefix_append [_] _)
  · intro done hdone
    rcases List.mem_append.mp hdone with hold | hnew
    · exact h.law.frames done hold
    · obtain rfl := List.mem_singleton.mp hnew
      exact hat.frame
  · rintro visit' hstarted
    obtain rfl := Option.some.inj hstarted
    exact ⟨⟨hat.frame, hat.interface, fun _ ↦ hinstance⟩, front, hdequeued, hafter⟩

/-- A call of `otPlatRadioReceiveDone` for a Green Power frame breaks the law, and so does a second
call for any frame. -/
theorem visitStep_break (h : ReceiveConsistent config rx) {visit : Visit}
    (hvisit : rx.visit = some visit) (hinstance : hasInstance config visit.interfaceId = true)
    (hbeyond : ¬ (visit.handedOnce = false ∧ leavesForGp config visit.frame.mPsdu = false)) :
    ¬ (rx.visitStep config visit).ReceiveLaw config := by
  obtain ⟨hat, front, hdequeued, hhanded⟩ := h.visit visit hvisit
  -- the step hands the frame up, or ends a visit that has handed up a Green Power frame
  have hprefix : ∀ (next : Receiver) (more : List (ℕ × RxBuffer)), next.dequeued = rx.dequeued →
      next.handed = rx.handed ++ more → next.ReceiveLaw config →
        handedBy visit ++ more <+: deliveries config visit.rxPacketBuf := by
    intro next more hsame hmore hlaw
    have hle := hlaw.handed
    rw [hmore, hsame, hhanded, hdequeued, List.flatMap_append, List.flatMap_singleton,
      List.append_assoc] at hle
    exact (List.prefix_append_right_inj _).mp hle
  have hdone : (rx.receiveDone visit).handed =
      rx.handed ++ [(visit.interfaceId, visit.rxPacketBuf)] := List.map_append
  unfold visitStep
  rw [if_neg (by rw [hinstance]; decide)]
  cases hgp : leavesForGp config visit.frame.mPsdu with
  | true =>
    rw [hat.frame] at hgp
    rw [deliveries_gp hgp] at hprefix
    cases honce : visit.handedOnce with
    | false =>
      rw [if_pos rfl]
      intro hlaw
      have hle := hprefix ((rx.receiveDone visit).setVisit { visit with handedOnce := true })
        [(visit.interfaceId, visit.rxPacketBuf)] rfl hdone hlaw
      rw [List.prefix_nil, List.append_eq_nil_iff] at hle
      exact absurd hle.2 (List.cons_ne_nil _ _)
    | true =>
      rw [if_neg nofun, if_pos rfl]
      intro hlaw
      have hle := hprefix rx.finishVisit [] rfl (List.append_nil _).symm hlaw
      rw [handedBy, if_pos honce, List.prefix_nil] at hle
      exact absurd hle (List.cons_ne_nil _ _)
  | false =>
    have honce : visit.handedOnce = true := Bool.of_not_eq_false fun hno ↦ hbeyond ⟨hno, hgp⟩
    rw [honce, if_neg nofun, if_neg nofun]
    intro hlaw
    have hnext := nextInterface_eq (rx.receiveDone visit) config visit
    have hle := hprefix _ _ hnext.1 (hnext.2.trans hdone) hlaw
    rw [handedBy, if_pos honce] at hle
    have hnodup := hle.sublist.nodup (nodup_deliveries config visit.rxPacketBuf)
    simp at hnodup

/-! ## Steps of the driver -/

theorem visitStep (h : ReceiveConsistent config rx) {visit : Visit}
    (hvisit : rx.visit = some visit)
    (hfirst : hasInstance config visit.interfaceId = true →
      visit.handedOnce = false ∧ leavesForGp config visit.frame.mPsdu = false) :
    ReceiveConsistent config (rx.visitStep config visit) := by
  unfold Receiver.visitStep
  split
  case isTrue hinstance => exact h.nextInterface hvisit hinstance
  case isFalse hinstance =>
    have hinstance := Bool.of_not_eq_false hinstance
    obtain ⟨honce, hgp⟩ := hfirst hinstance
    rw [if_pos honce]
    exact h.receiveDone hvisit hinstance honce hgp

end ReceiveConsistent

end Receiver

/-! ## The exact condition -/

/-- The steps that keep the delivery law: no call of `processNextRxPacket` gets beyond its first
call of `otPlatRadioReceiveDone`, and none gets there for a frame that it will leave as one of Green
Power. -/
def ReceiveCondition (config : Config) (radio : Driver) : RadioEvent → Prop
  | .process .. =>
    ∀ visit, radio.location = .processRxPackets → radio.rx.visit = some visit →
      Receiver.hasInstance config visit.interfaceId = true →
        visit.handedOnce = false ∧ Receiver.leavesForGp config visit.frame.mPsdu = false
  | _ => True

instance (config : Config) : ∀ radio event, Decidable (ReceiveCondition config radio event)
  | radio, .process .. => decidable_of_iff (radio.location = .processRxPackets →
      ∀ visit ∈ radio.rx.visit, Receiver.hasInstance config visit.interfaceId = true →
        visit.handedOnce = false ∧ Receiver.leavesForGp config visit.frame.mPsdu = false)
      ⟨fun h visit hlocation ↦ h hlocation visit, fun h hlocation visit ↦ h visit hlocation⟩
  | _, .writeFrame .. | _, .transmit .. | _, .energyScan .. | _, .getRssi _ | _, .endRssiWait _
  | _, .receive .. | _, .receiveAt .. | _, .sleep | _, .setChannelMaxTransmitPower ..
  | _, .setTransmitPower .. | _, .setPanId .. | _, .setPromiscuous _
  | _, .setMacFrameCounterIfLarger .. | _, .setMacKey _ | _, .setMacKeyStep | _, .scanTimer ..
  | _, .railEvents _ => .isTrue trivial

namespace Driver

variable {config : Config} {radio : Driver} {rail : RailResults}

theorem ProcessPart.receiveConsistent {gpBuffers : Bool} {next : Driver}
    (hpart : ProcessPart config rail gpBuffers radio next) (h : radio.rx.ReceiveConsistent config)
    (hcondition : ReceiveCondition config radio (.process rail gpBuffers)) :
    next.rx.ReceiveConsistent config := by
  cases hpart with
  | @visit visit hlocation hvisit =>
    exact h.visitStep hvisit (hcondition visit hlocation hvisit)
  | startVisit hlocation hvisit hqueue => exact h.startVisit hvisit hqueue _
  | transmit =>
    simp only [moveTo, otPlatRadioTransmit_rx]
    exact h
  | energyScan =>
    simp only [moveTo, otPlatRadioEnergyScan_rx]
    exact h
  | _ => exact h

theorem radioStep_receiveConsistent {event : RadioEvent} {next : Driver}
    (h : radio.rx.ReceiveConsistent config) (hcondition : ReceiveCondition config radio event)
    (hstep : radioStep config radio event = some next) :
    next.rx.ReceiveConsistent config := by
  have hrx := receiverStep_of_radioStep hstep
  generalize next.rx = after at hrx ⊢
  cases hrx with
  | kept => exact h
  | queued => exact h.enqueue _
  | setReceiveChannel | setPromiscuous => exact h.of_eq rfl rfl rfl rfl rfl
  | setPanId =>
    unfold Receiver.otPlatRadioSetPanId
    split
    · exact h.of_eq rfl rfl rfl rfl rfl
    · exact h
  | process => exact (radio.processPart config _ _).receiveConsistent h hcondition

theorem radioStep_breaks_receiveLaw {event : RadioEvent} {next : Driver}
    (h : radio.rx.ReceiveConsistent config) (hcondition : ¬ ReceiveCondition config radio event)
    (hstep : radioStep config radio event = some next) : ¬ next.rx.ReceiveLaw config := by
  cases step_of_radioStep hstep with
  | railEvents | scanTimer | endRssiWait | setMacKeyStep => exact absurd trivial hcondition
  | main hcall hmain =>
    cases hmain with
    | process =>
      simp only [ReceiveCondition, not_forall] at hcondition
      obtain ⟨visit, hlocation, hvisit, hinstance, hbeyond⟩ := hcondition
      unfold efr32RadioProcess
      rw [hlocation]
      simp only
      rw [hvisit]
      exact h.visitStep_break hvisit hinstance hbeyond
    | refused hpal hsetting =>
      cases event <;> first | exact absurd trivial hcondition | contradiction
    | _ => exact absurd trivial hcondition

theorem efr32RadioInit_receiveConsistent (config : Config) :
    (efr32RadioInit config).rx.ReceiveConsistent config where
  law := ⟨rfl, List.prefix_rfl, fun _ ↦ rfl, nofun⟩
  visit := nofun

end Driver

/-! ## Runs -/

/-- Received frames are handed to their addressees once and in order, in every state of a run,
exactly when every step of the run meets the condition. -/
theorem receiveLaw_iff (config : Config) (labels : List RadioEvent) (final : Driver)
    (hrun : exec (radioStep config) (efr32RadioInit config) labels = some final) :
    Throughout (radioStep config) (fun radio ↦ radio.rx.ReceiveLaw config) (efr32RadioInit config)
        labels ↔
      Along (radioStep config) (ReceiveCondition config) (efr32RadioInit config) labels :=
  throughout_iff_along (fun _ h ↦ Receiver.ReceiveConsistent.law h)
    (fun _ _ _ h hcondition hstep ↦ Driver.radioStep_receiveConsistent h hcondition hstep)
    (fun _ _ _ h hcondition hstep ↦ Driver.radioStep_breaks_receiveLaw h hcondition hstep)
    (Driver.efr32RadioInit_receiveConsistent config) hrun

/-- A multipan build in which only interface 1 has an instance. -/
def oneOfTwoHosts : Config := { Config.twoHosts with iidHasInstance := (· == 1) }

/-- A frame for interface 2 has no instance, and a frame for interface 1 is handed up for the first
time. -/
def firstCallRun : List RadioEvent :=
  [.setPanId 1 0x1234, .setPanId 2 0x5678,
    .railEvents { rxPacketReceived := some { psdu := [0x41, 0x88, 1, 0, 0], filterMask := 4 } },
    .railEvents { rxPacketReceived := some { psdu := [0x41, 0x88, 2, 0, 0], filterMask := 2 } },
    .process {} false, .process {} false, .process {} false, .process {} false, .process {} false]

theorem receiveLaw_iff_firstCallRun :
    ((exec (radioStep oneOfTwoHosts) (efr32RadioInit oneOfTwoHosts) firstCallRun).map fun radio ↦
      (radio.rx.dequeued.map RxBuffer.iid, radio.rx.receiveDones.map ReceiveDone.iid)) =
        some ([2, 1], [1]) ∧
    Throughout (radioStep oneOfTwoHosts) (fun radio ↦ radio.rx.ReceiveLaw oneOfTwoHosts)
      (efr32RadioInit oneOfTwoHosts) firstCallRun :=
  ⟨by decide, (receiveLaw_iff oneOfTwoHosts firstCallRun _
    (Option.some_get (by decide)).symm).mpr (by decide)⟩

/-- A frame received in a single-PAN build is handed up twice. -/
theorem not_receiveLaw_one_frame :
    ¬ ∀ config labels, Throughout (radioStep config) (fun radio ↦ radio.rx.ReceiveLaw config)
      (efr32RadioInit config) labels := by
  intro h
  have hlaw := h .singlePan
    [.railEvents { rxPacketReceived := some { psdu := [0x41, 0x88, 1, 0, 0] } }, .process {} false,
      .process {} false, .process {} false, .process {} false]
  revert hlaw
  decide

end OtEfr32.Radio
