import OtEfr32.Radio.FaithfulFrames

/-!
# The metadata of enhanced ACKs

`radioProcessTransmitSecurity` stores the key id and the frame counter of an ACK for the interface,
and `prepareNextRxPacketforCb` reads them, one after the other, when the frame is dequeued, which
may be after further frames have been acknowledged.  `ackMetadataLaw_iff` is the exact condition for
whole runs.
-/

namespace OtEfr32.Radio

open Transition

/-- The key id and the frame counter that were written into the secured ACK of a packet. -/
def Incoming.written (item : Incoming) : Option (ℕ × ℕ) := item.ack.bind AckResult.written

/-- The frame is given what was written into the ACK of its packet. -/
def GivesMetadata (visiting : Visiting) (frame : ReceiveFrame) : Prop :=
  ∀ header ∈ visiting.item.written, (frame.mAckKeyId, frame.mAckFrameCounter) = header

/-- The ACKs last secured for the interface, when the key id and then the frame counter were read,
had those of the packet's ACK. -/
def Visiting.Latest (visiting : Visiting) : Prop :=
  ∀ header ∈ visiting.item.written,
    visiting.lastKeyId = some header.1 ∧ visiting.lastCounter.getD 0 = header.2

instance : DecidableRel GivesMetadata := fun visiting frame ↦
  inferInstanceAs (Decidable (∀ header ∈ visiting.item.written,
    (frame.mAckKeyId, frame.mAckFrameCounter) = header))

instance : DecidablePred Visiting.Latest := fun visiting ↦
  inferInstanceAs (Decidable (∀ header ∈ visiting.item.written,
    visiting.lastKeyId = some header.1 ∧ visiting.lastCounter.getD 0 = header.2))

/-! ## Key ids of ACKs -/

/-- An ACK is never secured for key id 0. -/
theorem selectKey_ack_ne_zero {aFrame : FrameSecurity} {material : SecurityMaterial}
    {selected : ℕ × MacKeySlot} (h : MacSecurity.selectKey true aFrame material = .ok selected) :
    selected.1 ≠ 0 := by
  unfold MacSecurity.selectKey at h
  simp only [if_true] at h
  by_cases hzero : aFrame.keyId = 0
  case pos =>
    rw [if_pos hzero] at h
    contradiction
  case neg =>
    have hkeyId : selected.1 = aFrame.keyId := by
      split_ifs at h
      all_goals exact (congrArg Prod.fst (Except.ok.inj h)).symm
    rw [hkeyId]
    exact hzero

theorem headerWritten_ne_zero {config : Config} {security : MacSecurity} {aFrame : FrameSecurity}
    {iid : ℕ} {header : ℕ × ℕ} (h : security.headerWritten config true aFrame iid = some header) :
    header.1 ≠ 0 := by
  unfold MacSecurity.headerWritten MacSecurity.radioProcessTransmitSecurity at h
  split at h
  case isFalse => simp at h
  case isTrue =>
    cases hselect : MacSecurity.selectKey true aFrame (security.sMacKeys iid) with
    | error error => simp [hselect] at h
    | ok selected =>
      cases hupdated : aFrame.mIsHeaderUpdated with
      | true => simp [hselect, hupdated] at h
      | false =>
        obtain ⟨_, hkeyId, _⟩ := security.encrypted_header true iid selected.1 selected.2 aFrame
        simp only [hselect, hupdated, Bool.false_eq_true, if_false, Bool.not_false,
          Bool.and_true] at h
        obtain ⟨_, hheader⟩ := Option.ite_none_right_eq_some.mp h
        obtain rfl := Option.some.inj hheader
        rw [hkeyId]
        exact selectKey_ack_ne_zero hselect

/-- What an ACK has written into it is the header that `radioProcessTransmitSecurity` made. -/
theorem dataRequestCommandCallback_written {config : Config} {security : MacSecurity}
    {matching : SrcMatching} {iid macFcf : ℕ} {calls : AckCalls} {header : ℕ × ℕ}
    (h : (dataRequestCommandCallback config security matching iid macFcf calls).written =
      some header) :
    ∃ ack, security.headerWritten config true ack iid = some header := by
  unfold dataRequestCommandCallback writeIeee802154EnhancedAck setImmediateAckFramePending
    writeGeneratedEnhAck at h
  grind

theorem written_invariant (config : Config) :
    AckedReception.PacketInvariant config fun item ↦ ∀ header ∈ item.written, header.1 ≠ 0 where
  arrive := by
    intro packet _ header hheader
    exact absurd hheader (Option.not_mem_none header)
  acknowledge := by
    intro item security matching iid calls _ _ _ header hheader
    obtain ⟨ack, hwritten⟩ := dataRequestCommandCallback_written hheader
    exact headerWritten_ne_zero hwritten

/-- A packet is shown with the metadata of its ACK exactly when no other ACK with another key id or
frame counter has been secured for the interface in between. -/
theorem givesMetadata_iff {visiting : Visiting} {frame : ReceiveFrame}
    (hwritten : ∀ header ∈ visiting.item.written, header.1 ≠ 0) (hshows : Shows visiting frame) :
    GivesMetadata visiting frame ↔ visiting.Latest := by
  apply forall₂_congr
  intro header hheader
  rw [hshows.mAckKeyId, hshows.mAckFrameCounter, Prod.ext_iff]
  apply and_congr_left'
  cases visiting.lastKeyId with
  | some lastKeyId => simp
  | none =>
    -- The stored key id is still 0, which no ACK is secured for.
    refine iff_of_false ?_ (Option.some_ne_none header.1).symm
    intro hzero
    exact hwritten header hheader hzero.symm

/-! ## Runs -/

/-- Every frame that is handed up is given the key id and the frame counter of its own secured ACK,
in every state of a run, exactly when none is handed up for which another ACK was the last. -/
theorem ackMetadataLaw_iff (config : Config) (labels : List AckedReceptionEvent)
    (final : AckedReception)
    (hrun : exec (ackedReceptionStep config) (ackedReceptionInit config) labels = some final) :
    Throughout (ackedReceptionStep config) (AckedReception.HandoffLaw GivesMetadata)
        (ackedReceptionInit config) labels ↔
      Along (ackedReceptionStep config)
        (AckedReception.HandoffCondition config Visiting.Latest)
        (ackedReceptionInit config) labels :=
  AckedReception.handoffLaw_iff (written_invariant config)
    (fun visiting frame hwritten hshows ↦ @givesMetadata_iff visiting frame hwritten hshows) hrun

/-- The reception of a secured data frame that is acknowledged with a secured enhanced ACK. -/
def receiveSecured : List AckedReceptionEvent :=
  [.arrive securedDataFrame,
    .railEvents (some {
      index := 0
      matching := ⟨SourceMatch.init 0 1, true⟩
      calls := {
        otMacFrameIsVersion2015 := true
        otMacFrameGenerateEnhAck := some { isSecurityEnabled := true, keyId := 1 } } }) {} none,
    .railEvents none {} (some 0)]

/-- The keys are set, `frames` frames are received, and the first is handed up. -/
def ackedRun (frames : ℕ) : List AckedReceptionEvent :=
  [.radio (.setMacKey ⟨0, 1, 10, 11, 12⟩), .radio .setMacKeyStep, .radio .setMacKeyStep,
    .radio .setMacKeyStep, .radio .setMacKeyStep, .radio .setMacKeyStep] ++
    (List.replicate frames receiveSecured).flatten ++
    [.radio (.process {} false), .radio (.process {} false), .readAckFrameCounter,
      .radio (.process {} false)]

theorem ackMetadataLaw_iff_ackedRun :
    ((exec (ackedReceptionStep .singlePan) (ackedReceptionInit .singlePan) (ackedRun 1)).map
      fun state ↦ state.handoffs.map fun handoff ↦ handoff.visiting.item.written) =
        some [some (1, 0)] ∧
    Throughout (ackedReceptionStep .singlePan) (AckedReception.HandoffLaw GivesMetadata)
      (ackedReceptionInit .singlePan) (ackedRun 1) :=
  ⟨by decide, (ackMetadataLaw_iff .singlePan (ackedRun 1) _
    (Option.some_get (by decide)).symm).mpr (by decide)⟩

/-- Two frames are acknowledged before the first is handed up, which is given the counter of the
second ACK. -/
theorem not_ackMetadataLaw_ackedRun :
    ¬ ∀ config labels, Throughout (ackedReceptionStep config)
      (AckedReception.HandoffLaw GivesMetadata) (ackedReceptionInit config) labels := by
  intro h
  have hlaw := h .singlePan (ackedRun 2)
  revert hlaw
  decide

end OtEfr32.Radio
