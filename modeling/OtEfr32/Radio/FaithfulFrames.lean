import OtEfr32.Radio.HandoffHistory

/-!
# Faithful received frames

A received frame should reach the stack with the bytes received over the air, and should say whether
its ACK had frame pending set and whether a secured enhanced ACK was sent for it.  The driver passes
the two answers to the main loop in bits 2 and 7 of the frame's first byte.  A peer may set these
bits itself, and the driver sets them before it knows that RAIL accepts the ACK.  `faithfulLaw_iff`
is the exact condition for whole runs.
-/

namespace OtEfr32.Radio

open Transition

namespace Incoming

variable (item : Incoming)

/-- The bits that `dataRequestCommandCallback` has set in the first byte of the packet. -/
def marks : ℕ := (item.ack.map AckResult.marks).getD 0

/-- The driver has set frame pending in the ACK of the packet. -/
def framePending : Bool := item.ack.any AckResult.framePending

/-- `sl_rail_ieee802154_write_enh_ack` has accepted a secured ACK for the packet. -/
def securedEnhAck : Bool := item.ack.any AckResult.securedEnhAck

/-- The peer has left the bits clear that the driver uses, and no step of the acknowledgment failed
that the driver's marks do not tell. -/
def Unambiguous : Prop := item.airPsdu.headD 0 &&& 0x84 = 0 ∧ item.ackFails = false

instance : Decidable item.Unambiguous := inferInstanceAs (Decidable (_ ∧ _))

end Incoming

/-- The frame has the bytes of the packet and tells the truth about its ACK. -/
def Faithful (visiting : Visiting) (frame : ReceiveFrame) : Prop :=
  frame.mPsdu = visiting.item.airPsdu ∧
    frame.mAckedWithFramePending = visiting.item.framePending ∧
    frame.mAckedWithSecEnhAck = visiting.item.securedEnhAck

instance : DecidableRel Faithful := fun _ _ ↦ inferInstanceAs (Decidable (_ ∧ _ ∧ _))

/-! ## The marks -/

/-- What is known of a packet and its marks. -/
structure Marked (item : Incoming) : Prop where
  bytes : ∀ byte ∈ item.airPsdu, byte < 256
  psdu : item.packet.psdu = item.airPsdu.modifyHead (· ||| item.marks)
  marks : item.marks ∈ [0, 0x04, 0x80, 0x84]
  empty : item.airPsdu = [] → item.marks = 0
  outcome : item.ackFails = false ↔
    (item.marks &&& framePendingSetInOutgoingAck != 0) = item.framePending ∧
      (item.marks &&& securedOutgoingEnhancedAck != 0) = item.securedEnhAck

/-- A result tells the truth by its marks exactly when `fails` is false. -/
def Tells (result : AckResult) (fails : Bool) : Prop :=
  result.marks ∈ [0, 0x04, 0x80, 0x84] ∧
    (fails = false ↔
      (result.marks &&& framePendingSetInOutgoingAck != 0) = result.framePending ∧
        (result.marks &&& securedOutgoingEnhancedAck != 0) = result.securedEnhAck)

instance : DecidableRel Tells := fun _ _ ↦ inferInstanceAs (Decidable (_ ∧ (_ ↔ _)))

theorem tells_default : Tells {} false := by
  decide

theorem writeGeneratedEnhAck_tells (config : Config) (security : MacSecurity) (iid : ℕ)
    (setFramePending : Bool) (ack : FrameSecurity) (calls : AckCalls) :
    Tells (writeGeneratedEnhAck config security iid setFramePending ack calls)
      (!(ack.isSecurityEnabled &&
          (security.radioProcessTransmitSecurity config true ack iid).1 != .none) &&
        calls.skipRxPacketLengthBytes && (ack.isSecurityEnabled || setFramePending) &&
        !calls.writeEnhAck) := by
  unfold writeGeneratedEnhAck
  simp only
  split
  case isTrue hrefused =>
    rw [hrefused]
    exact tells_default
  case isFalse haccepted =>
    rw [Bool.of_not_eq_true haccepted]
    cases calls.skipRxPacketLengthBytes with
    | false => exact tells_default
    | true =>
      -- The marks are set now; whether they are right depends on RAIL.
      cases calls.writeEnhAck <;> cases ack.isSecurityEnabled <;> cases setFramePending <;>
        simp [Tells, securedOutgoingEnhancedAck, framePendingSetInOutgoingAck]

theorem setImmediateAckFramePending_tells (config : Config) (matching : SrcMatching)
    (iid macFcf : ℕ) (calls : AckCalls) :
    Tells (setImmediateAckFramePending config matching iid macFcf calls)
      (matching.togglesFramePending config iid calls.sourceAddress macFcf &&
        calls.toggleFramePending && !calls.skipRxPacketLengthBytes) := by
  unfold setImmediateAckFramePending
  split
  case isTrue htoggled =>
    rw [htoggled]
    cases calls.skipRxPacketLengthBytes <;>
      simp [Tells, securedOutgoingEnhancedAck, framePendingSetInOutgoingAck]
  case isFalse hnot =>
    rw [Bool.of_not_eq_true hnot]
    exact tells_default

/-- The marks tell what the ACK says, unless a step fails behind them. -/
theorem dataRequestCommandCallback_tells (config : Config) (security : MacSecurity)
    (matching : SrcMatching) (iid macFcf : ℕ) (calls : AckCalls) :
    Tells (dataRequestCommandCallback config security matching iid macFcf calls)
      (calls.fails config security matching iid macFcf) := by
  unfold dataRequestCommandCallback writeIeee802154EnhancedAck AckCalls.fails
  by_cases hbytes : calls.initialPktReadBytes = 0
  · simp only [hbytes, if_true]
    exact tells_default
  have hread : (calls.initialPktReadBytes != 0) = true := bne_iff_ne.mpr hbytes
  rw [hread, if_neg hbytes, Bool.true_and]
  cases hversion : calls.otMacFrameIsVersion2015 with
  | false => exact setImmediateAckFramePending_tells config matching iid macFcf calls
  | true =>
    simp only [Bool.true_eq_false, if_false, if_true]
    cases calls.otMacFrameGenerateEnhAck with
    | none => exact tells_default
    | some ack => exact writeGeneratedEnhAck_tells config security iid _ ack calls

theorem marked_invariant (config : Config) :
    AckedReception.PacketInvariant config Marked where
  arrive := by
    intro packet hbytes
    constructor
    case bytes => simpa using hbytes
    case psdu => cases hpsdu : packet.psdu <;> simp [Incoming.marks]
    case marks => exact tells_default.1
    case empty => exact fun _ ↦ rfl
    case outcome => exact tells_default.2
  acknowledge := by
    intro item security matching iid calls h hack hlength
    have htells := dataRequestCommandCallback_tells config security matching iid
      (item.airPsdu.headD 0) calls
    have hpsdu : item.packet.psdu = item.airPsdu := by
      rw [h.psdu]
      cases item.airPsdu <;> simp [Incoming.marks, hack]
    constructor
    case bytes => exact h.bytes
    case psdu =>
      simp only [Incoming.acknowledge, Incoming.marks, hpsdu, Option.map_some, Option.getD_some]
    case marks => exact htells.1
    case empty =>
      intro hempty
      rw [show item.airPsdu = [] from hempty] at hlength
      exact absurd hlength (by decide)
    case outcome => exact htells.2

/-- A mark in a byte that the peer has left clear is read back, and cleared. -/
theorem clear_or_marks : ∀ byte < 256, ∀ marks ∈ [0, 0x04, 0x80, 0x84],
    ((byte ||| marks) &&& 0x7B = byte ↔ byte &&& 0x84 = 0) ∧
      (byte &&& 0x84 = 0 →
        ((byte ||| marks) &&& framePendingSetInOutgoingAck =
          marks &&& framePendingSetInOutgoingAck ∧
        (byte ||| marks) &&& securedOutgoingEnhancedAck =
          marks &&& securedOutgoingEnhancedAck)) := by
  decide +kernel

/-- What is shown for a packet is faithful exactly when the packet is unambiguous. -/
theorem faithful_iff {visiting : Visiting} {frame : ReceiveFrame} (hmarked : Marked visiting.item)
    (hshows : Shows visiting frame) : Faithful visiting frame ↔ visiting.item.Unambiguous := by
  unfold Faithful Incoming.Unambiguous
  rw [hshows.mPsdu, hshows.mAckedWithFramePending, hshows.mAckedWithSecEnhAck, hmarked.psdu,
    hmarked.outcome, Receiver.clearReservedBits]
  cases hair : visiting.item.airPsdu with
  | nil =>
    have hmarks : visiting.item.marks = 0 := hmarked.empty hair
    simp [hmarks]
  | cons byte rest =>
    have hbyte : byte < 256 := hmarked.bytes byte (by simp [hair])
    obtain ⟨hclear, hread⟩ := clear_or_marks byte hbyte visiting.item.marks hmarked.marks
    simp only [List.modifyHead_cons, List.headD_cons, List.cons.injEq, and_true, hclear]
    refine and_congr_right fun hreserved ↦ ?_
    rw [(hread hreserved).1, (hread hreserved).2]

/-! ## Runs -/

/-- Every frame that is handed up is faithful, in every state of a run, exactly when the run hands
up unambiguous packets only. -/
theorem faithfulLaw_iff (config : Config) (labels : List AckedReceptionEvent)
    (final : AckedReception)
    (hrun : exec (ackedReceptionStep config) (ackedReceptionInit config) labels = some final) :
    Throughout (ackedReceptionStep config) (AckedReception.HandoffLaw Faithful)
        (ackedReceptionInit config) labels ↔
      Along (ackedReceptionStep config)
        (AckedReception.HandoffCondition config fun visiting ↦ visiting.item.Unambiguous)
        (ackedReceptionInit config) labels :=
  AckedReception.handoffLaw_iff (marked_invariant config)
    (fun visiting frame hmarked hshows ↦ @faithful_iff visiting frame hmarked hshows) hrun

/-- A secured data frame of version 2015 that requests an ACK. -/
def securedDataFrame : RxPacket := { psdu := [0x69, 0xA8, 1, 0x34, 0x12], filterMask := 1 }

/-- The frame is received and acknowledged with a secured enhanced ACK, which RAIL accepts or
refuses, and handed up. -/
def enhAckRun (writeEnhAck : Bool) : List AckedReceptionEvent :=
  [.radio (.setMacKey ⟨0, 1, 10, 11, 12⟩), .radio .setMacKeyStep, .radio .setMacKeyStep,
    .radio .setMacKeyStep, .radio .setMacKeyStep, .radio .setMacKeyStep,
    .arrive securedDataFrame,
    .railEvents (some {
      index := 0
      matching := ⟨SourceMatch.init 0 1, true⟩
      calls := {
        otMacFrameIsVersion2015 := true
        otMacFrameGenerateEnhAck := some { isSecurityEnabled := true, keyId := 1 }
        writeEnhAck } }) {} none,
    .railEvents none {} (some 0),
    .radio (.process {} false), .radio (.process {} false), .readAckFrameCounter,
    .radio (.process {} false)]

theorem faithfulLaw_iff_enhAckRun :
    ((exec (ackedReceptionStep .singlePan) (ackedReceptionInit .singlePan) (enhAckRun true)).map
      fun state ↦ state.handoffs.map fun handoff ↦ handoff.done.aFrame.mAckedWithSecEnhAck) =
        some [true] ∧
    Throughout (ackedReceptionStep .singlePan) (AckedReception.HandoffLaw Faithful)
      (ackedReceptionInit .singlePan) (enhAckRun true) :=
  ⟨by decide, (faithfulLaw_iff .singlePan (enhAckRun true) _
    (Option.some_get (by decide)).symm).mpr (by decide)⟩

/-- RAIL refuses the ACK, and the frame is handed up as acknowledged with it. -/
theorem not_faithfulLaw_refusedAck :
    ¬ ∀ config labels, Throughout (ackedReceptionStep config)
      (AckedReception.HandoffLaw Faithful) (ackedReceptionInit config) labels := by
  intro h
  have hlaw := h .singlePan (enhAckRun false)
  revert hlaw
  decide

end OtEfr32.Radio
