import OtEfr32.Radio.Steps
import OtEfr32.Radio.FrameCounters
import OtEfr32.Radio.TxPhase

/-!
# Uniqueness of frame counters

Frames are secured when they are transmitted and when an enhanced ACK is prepared.  Where the calls
of `otPlatRadioSetMacKey` follow a rotation and the frames with an updated header are
retransmissions, a frame counter names a frame of an instance between two resets, and the key and
counter of a plain encryption name it among all plain encryptions with keys of its slot in the whole
run.  A key that has moved to another slot, an ACK during a running `otPlatRadioSetMacKey` and a
frame retransmitted behind one may bring a key and a counter back.
-/

namespace OtEfr32.Radio

open Transition

namespace Transmitter

variable {config : Config} (tx : Transmitter)

/-! ## The transmit buffers -/

/-- The security header of the frame in a transmit buffer. -/
def mSecurity (index : ℕ) : FrameSecurity := (tx.sTransmitBuffer index).frame.mSecurity

theorem acceptFrame_mSecurity (config : Config) (iid aFrame : ℕ) :
    (tx.acceptFrame config iid aFrame).mSecurity = tx.mSecurity := by
  funext index
  rw [mSecurity, mSecurity, acceptFrame_frame]

theorem processTxComplete_mSecurity : tx.processTxComplete.mSecurity = tx.mSecurity :=
  tx.processTxComplete_inBuffers (fun packet ↦ packet.frame.mSecurity) fun _ _ _ ↦ rfl

theorem startTransmission_mSecurity (rail : RailResults) :
    (tx.startTransmission rail).mSecurity = tx.mSecurity :=
  tx.startTransmission_inBuffers (fun packet ↦ packet.frame.mSecurity) rail

/-- The frame that becomes the current packet. -/
theorem makeCurrent_frame (iid request : ℕ) :
    (tx.makeCurrent iid request).currentPacket.frame =
      (tx.sTransmitBuffer (txBufIndex iid)).frame := by
  change (Function.update (tx.otAssert .noOngoingTx _).sTransmitBuffer (txBufIndex iid) _
    (txBufIndex iid)).frame = _
  rw [Function.update_self]
  unfold otAssert
  split <;> rfl

theorem makeCurrent_mSecurity (iid request : ℕ) :
    (tx.makeCurrent iid request).mSecurity = tx.mSecurity :=
  tx.makeCurrent_inBuffers (fun packet ↦ packet.frame.mSecurity) (fun _ _ ↦ rfl) iid request

theorem setSecurity_mSecurity (iid request : ℕ) (secured : FrameSecurity) :
    ((tx.makeCurrent iid request).setSecurity secured).mSecurity =
      Function.update tx.mSecurity (txBufIndex iid) secured := by
  funext index
  by_cases hindex : index = txBufIndex iid
  · subst hindex
    simp [setSecurity, updateBuffer, mSecurity, makeCurrent, setFlag]
  · rw [Function.update_of_ne hindex, ← makeCurrent_mSecurity tx iid request]
    simp [setSecurity, updateBuffer, mSecurity, makeCurrent, setFlag, hindex]

end Transmitter

/-- The iids that have a PAN index in a multipan build are those of the instances. -/
theorem Config.isIid_of_panIndex {config : Config} (hmultipan : config.multipan = true) {iid : ℕ}
    (hpan : (config.efr32GetPanIndexFromIid iid).isSome = true) : config.isIid iid = true := by
  unfold Config.efr32GetPanIndexFromIid at hpan
  rw [if_pos hmultipan] at hpan
  split at hpan
  case isTrue hiid =>
    rw [Bool.and_eq_true, decide_eq_true_eq, bne_iff_ne] at hiid
    rw [Config.isIid, if_pos hmultipan, Bool.and_eq_true, decide_eq_true_eq, decide_eq_true_eq]
    exact ⟨Nat.one_le_iff_ne_zero.mpr hiid.2, hiid.1⟩
  case isFalse => contradiction

namespace Driver

variable {config : Config} {sequence : KeySequence} {radio next : Driver} {rail : RailResults}

/-! ## The invariant -/

/-- The invariant of the security state and the transmit buffers. -/
structure SecurityConsistent (config : Config) (sequence : KeySequence) (radio : Driver) :
    Prop where
  security : radio.security.NonceConsistent sequence
  buffers : ∀ iid, config.isIid iid = true →
    radio.security.Carries iid (radio.tx.mSecurity (txBufIndex iid))

namespace SecurityConsistent

/-- The security state moves on while the transmit buffers stay. -/
theorem of_security (h : SecurityConsistent config sequence radio)
    (hsecurity : next.security.NonceConsistent sequence)
    (hencryptions : radio.security.encryptions ⊆ next.security.encryptions)
    (htx : next.tx.mSecurity = radio.tx.mSecurity) : SecurityConsistent config sequence next :=
  ⟨hsecurity, fun iid hiid ↦ htx ▸ (h.buffers iid hiid).mono hencryptions⟩

theorem of_eq (h : SecurityConsistent config sequence radio)
    (hsecurity : next.security = radio.security) (htx : next.tx.mSecurity = radio.tx.mSecurity) :
    SecurityConsistent config sequence next :=
  h.of_security (hsecurity ▸ h.security) (hsecurity ▸ List.Subset.refl _) htx

end SecurityConsistent

/-! ## Transmissions -/

/-- What a transmission does to the security state and to the transmit buffers. -/
theorem transmitNow_secured (radio : Driver) {config : Config} {aFrame : ℕ}
    (hband : config.hasBandConfig (radio.tx.sTransmitBuffer aFrame).frame.mChannel = true)
    (rail : RailResults) (iid request : ℕ) :
    let frame := (radio.tx.sTransmitBuffer (txBufIndex iid)).frame
    let secured :=
      radio.security.radioProcessTransmitSecurity config frame.isAck frame.mSecurity iid
    let after := (radio.transmitNow config rail iid aFrame request).2
    after.security = secured.2.2 ∧
      after.tx.mSecurity = Function.update radio.tx.mSecurity (txBufIndex iid) secured.2.1 := by
  simp only [transmitNow]
  rw [if_pos hband]
  obtain ⟨_, _, hrecorded⟩ := recordStart_eq
    ((((radio.efr32RadioLoadChannelConfig (radio.slGetTxPowerForCurrentChannel config)).mapTx
      fun tx ↦ tx.makeCurrent iid request).secureCurrentPacket config iid).mapTx
        fun tx ↦ tx.startTransmission rail) config rail
    (radio.tx.sTransmitBuffer aFrame).frame.mChannel
  rw [hrecorded]
  have hframe := radio.tx.makeCurrent_frame iid request
  constructor
  · change (radio.security.radioProcessTransmitSecurity config
      (radio.tx.makeCurrent iid request).currentPacket.frame.isAck
      (radio.tx.makeCurrent iid request).currentPacket.frame.mSecurity iid).2.2 = _
    rw [hframe]
  · change (((radio.tx.makeCurrent iid request).setSecurity
      (radio.security.radioProcessTransmitSecurity config
        (radio.tx.makeCurrent iid request).currentPacket.frame.isAck
        (radio.tx.makeCurrent iid request).currentPacket.frame.mSecurity
        iid).2.1).startTransmission rail).mSecurity = _
    rw [Transmitter.startTransmission_mSecurity, Transmitter.setSecurity_mSecurity, hframe]

namespace SecurityConsistent

theorem transmitNow (h : SecurityConsistent config sequence radio) {iid : ℕ}
    (hiid : (config.efr32GetPanIndexFromIid iid).isSome = true → config.isIid iid = true)
    (aFrame request : ℕ) :
    SecurityConsistent config sequence (radio.transmitNow config rail iid aFrame request).2 := by
  by_cases hband : config.hasBandConfig (radio.tx.sTransmitBuffer aFrame).frame.mChannel = true
  case neg =>
    simp only [Driver.transmitNow]
    rw [if_neg hband]
    exact h
  obtain ⟨hsecurity, htx⟩ := radio.transmitNow_secured hband rail iid request
  by_cases hpan : (config.efr32GetPanIndexFromIid iid).isSome = true
  case neg =>
    rw [radio.security.radioProcessTransmitSecurity_invalid (Bool.of_not_eq_true hpan)]
      at hsecurity htx
    refine h.of_eq hsecurity (htx.trans ?_)
    exact Function.update_eq_self (txBufIndex iid) radio.tx.mSecurity
  have hcarries := h.buffers iid (hiid hpan)
  refine ⟨?_, fun other hother ↦ ?_⟩
  · rw [hsecurity]
    exact MacSecurity.radioProcessTransmitSecurity_nonceConsistent h.security hcarries _
  · rw [hsecurity, htx]
    by_cases hindex : txBufIndex other = txBufIndex iid
    · obtain rfl := config.txBufIndex_inj hother (hiid hpan) hindex
      rw [Function.update_self]
      exact MacSecurity.radioProcessTransmitSecurity_carries hcarries _
    · rw [Function.update_of_ne hindex]
      exact (h.buffers other hother).mono
        (MacSecurity.radioProcessTransmitSecurity_encryptions ..)

theorem otPlatRadioTransmit (h : SecurityConsistent config sequence radio) {iid : ℕ}
    (hiid : (config.efr32GetPanIndexFromIid iid).isSome = true → config.isIid iid = true)
    (gpBuffers : Bool) (aFrame request : ℕ) :
    SecurityConsistent config sequence
      (radio.otPlatRadioTransmit config rail gpBuffers iid aFrame request).2 := by
  have haccepted : SecurityConsistent config sequence
      (radio.mapTx fun tx ↦ tx.acceptFrame config iid aFrame) :=
    h.of_eq rfl (radio.tx.acceptFrame_mSecurity config iid aFrame)
  unfold Driver.otPlatRadioTransmit
  split
  · exact h
  split
  · exact h
  simp only
  split
  · obtain ⟨_, _, heq⟩ := pushPendingCommand_eq
      (radio.mapTx fun tx ↦ tx.acceptFrame config iid aFrame) config (.transmit aFrame request) iid
    exact haccepted.of_eq (by rw [heq]) (by rw [heq])
  · exact haccepted.transmitNow hiid aFrame request

/-- The stack writes a frame into the buffer of an instance. -/
theorem writeFrame (h : SecurityConsistent config sequence radio) {iid : ℕ}
    (hiid : config.isIid iid = true) {aFrame : OtRadioFrame}
    (hcarries : radio.security.Carries iid aFrame.mSecurity) :
    SecurityConsistent config sequence (radio.mapTx fun tx ↦
      tx.updateBuffer (txBufIndex iid) fun packet ↦ { packet with frame := aFrame }) := by
  refine ⟨h.security, fun other hother ↦ ?_⟩
  by_cases hindex : txBufIndex other = txBufIndex iid
  · obtain rfl := config.txBufIndex_inj hother hiid hindex
    simpa [Driver.mapTx, Transmitter.mSecurity, Transmitter.updateBuffer] using hcarries
  · simpa [Driver.mapTx, Transmitter.mSecurity, Transmitter.updateBuffer, hindex]
      using h.buffers other hother

/-- A call of `otPlatRadioTransmit` by the stack. -/
theorem transmit (h : SecurityConsistent config sequence radio) {iid : ℕ}
    (hiid : config.isIid iid = true) (gpBuffers : Bool) :
    SecurityConsistent config sequence (radio.transmit config iid rail gpBuffers) := by
  have hcounted : SecurityConsistent config sequence (radio.mapTx Transmitter.countRequest) :=
    h.of_eq rfl rfl
  have htransmitted : SecurityConsistent config sequence
      ((radio.mapTx Transmitter.countRequest).otPlatRadioTransmit config rail gpBuffers iid
        (txBufIndex iid) radio.tx.requests).2 :=
    hcounted.otPlatRadioTransmit (fun _ ↦ hiid) gpBuffers (txBufIndex iid) radio.tx.requests
  obtain ⟨_, heq⟩ := radio.transmit_eq config iid rail gpBuffers
  rw [heq]
  exact htransmitted.of_eq rfl rfl

/-- A call of `otPlatRadioEnergyScan` by the stack. -/
theorem energyScan (h : SecurityConsistent config sequence radio)
    (iid aScanChannel aScanDuration : ℕ) :
    SecurityConsistent config sequence
      (radio.energyScan config iid aScanChannel aScanDuration rail) := by
  obtain ⟨_, _, _, _, _, heq⟩ := radio.energyScan_frame config iid aScanChannel aScanDuration rail
  rw [heq]
  exact h.of_eq rfl rfl

theorem processPart (h : SecurityConsistent config sequence radio) {gpBuffers : Bool}
    {next : Driver} (hpart : Driver.ProcessPart config rail gpBuffers radio next) :
    SecurityConsistent config sequence next := by
  cases hpart with
  | txComplete => exact h.of_eq rfl radio.tx.processTxComplete_mSecurity
  | @transmit iid txFrame request rest hdue =>
    obtain ⟨_, hmultipan, _⟩ := guards_of_dueCommand hdue
    have hdequeued : SecurityConsistent config sequence
        { radio with sPendingCommandQueue := rest } := h.of_eq rfl rfl
    exact (hdequeued.otPlatRadioTransmit (Config.isIid_of_panIndex hmultipan) gpBuffers txFrame
      request).of_eq rfl rfl
  | energyScan =>
    refine h.of_eq (otPlatRadioEnergyScan_security ..) ?_
    exact congrArg Transmitter.mSecurity (otPlatRadioEnergyScan_tx ..)
  | _ => exact h.of_eq rfl rfl

/-! ## Interrupts -/

/-- An enhanced ACK is secured with a new counter. -/
theorem writeIeee802154EnhancedAck (h : SecurityConsistent config sequence radio) {ack : EnhAck}
    (hack : ack.mSecurity.mIsHeaderUpdated = false) :
    SecurityConsistent config sequence (radio.writeIeee802154EnhancedAck config ack) := by
  unfold Driver.writeIeee802154EnhancedAck
  split
  case isTrue =>
    refine h.of_security ?_ ?_ rfl
    · refine MacSecurity.radioProcessTransmitSecurity_nonceConsistent h.security ?_ true
      exact fun hupdated ↦ absurd hupdated (ne_true_of_eq_false hack)
    · exact MacSecurity.radioProcessTransmitSecurity_encryptions ..
  case isFalse => exact h

theorem railCbGeneric (h : SecurityConsistent config sequence radio) {aEvents : RailEvents}
    (hacks : ∀ ack ∈ aEvents.dataRequestCommand, ack.mSecurity.mIsHeaderUpdated = false) :
    SecurityConsistent config sequence (radio.railCbGeneric config aEvents) := by
  have hacked : SecurityConsistent config sequence
      (radio.dataRequestCommandCallback config aEvents.dataRequestCommand) := by
    cases hcommand : aEvents.dataRequestCommand with
    | some ack => exact h.writeIeee802154EnhancedAck (hacks ack hcommand)
    | none => exact h
  apply hacked.of_eq (radio.railCbGeneric_security config aEvents)
  obtain ⟨security, hsame⟩ := radio.dataRequestCommandCallback_eq config aEvents.dataRequestCommand
  rw [hsame]
  exact radio.tx.inBuffers_of_withoutEvents (fun packet ↦ packet.frame.mSecurity)
    (radio.railCbGeneric_withoutEvents config aEvents)

end SecurityConsistent

/-! ## Steps -/

/-- What the caller and the stack promise.  The calls of `otPlatRadioSetMacKey` follow the sequence
of keys, a frame with an updated header is a retransmission, and `otMacFrameGenerateEnhAck` makes
ACKs that have no counter yet. -/
def NonceContract (config : Config) (sequence : KeySequence) (radio : Driver) :
    RadioEvent → Prop
  | .setMacKey call => config.canAccessPal = true → call.Follows sequence radio.security
  | .writeFrame iid aFrame => radio.security.Carries iid aFrame.mSecurity
  | .railEvents aEvents =>
    ∀ ack ∈ aEvents.dataRequestCommand, ack.mSecurity.mIsHeaderUpdated = false
  | _ => True

instance : ∀ radio event, Decidable (NonceContract config sequence radio event)
  | radio, .setMacKey call =>
    inferInstanceAs (Decidable (_ → call.Follows sequence radio.security))
  | radio, .writeFrame iid aFrame =>
    inferInstanceAs (Decidable (radio.security.Carries iid aFrame.mSecurity))
  | _, .railEvents aEvents =>
    inferInstanceAs (Decidable (∀ ack ∈ aEvents.dataRequestCommand, _ = false))
  | _, .transmit .. | _, .energyScan .. | _, .getRssi _ | _, .endRssiWait _ | _, .receive ..
  | _, .receiveAt .. | _, .sleep | _, .setChannelMaxTransmitPower .. | _, .setTransmitPower ..
  | _, .setPanId .. | _, .setPromiscuous _ | _, .setMacFrameCounterIfLarger .. | _, .setMacKeyStep
  | _, .scanTimer .. | _, .process .. => .isTrue trivial

theorem radioStep_securityConsistent {event : RadioEvent}
    (h : SecurityConsistent config sequence radio)
    (hcontract : NonceContract config sequence radio event)
    (hstep : radioStep config radio event = some next) :
    SecurityConsistent config sequence next := by
  cases step_of_radioStep hstep with
  | railEvents => exact h.railCbGeneric hcontract
  | scanTimer => exact h.of_eq rfl rfl
  | endRssiWait => exact h.of_eq rfl rfl
  | @setMacKeyStep call location hcall =>
    refine h.of_security (h.security.setMacKeyStep hcall) ?_ rfl
    change _ ⊆ (radio.security.setMacKeyStep call location).encryptions
    rw [MacSecurity.setMacKeyStep_encryptions]
    exact List.Subset.refl _
  | main hcall hmain =>
    cases hmain with
    | @writeFrame iid aFrame hiid => exact h.writeFrame hiid hcontract
    | @transmit iid rail gpBuffers hiid => exact h.transmit hiid gpBuffers
    | energyScan hiid => exact h.energyScan ..
    | @getRssi rail =>
      obtain ⟨_, _, _, heq⟩ := otPlatRadioGetRssi_eq radio config rail
      exact h.of_eq (by rw [heq]) (by rw [heq])
    | @receive aChannel rail =>
      obtain ⟨_, _, _, _, heq⟩ := radio.otPlatRadioReceive_eq config rail aChannel
      exact h.of_eq (by rw [heq]) (by rw [heq]; rfl)
    | @receiveAt aChannel rail =>
      obtain ⟨_, _, _, _, heq⟩ := radio.otPlatRadioReceiveAt_eq config rail aChannel
      exact h.of_eq (by rw [heq]) (by rw [heq]; rfl)
    | sleep =>
      obtain ⟨_, heq⟩ := radio.otPlatRadioSleep_eq
      rw [heq]
      exact h.of_eq rfl rfl
    | setChannelMaxTransmitPower | setTransmitPower | setPanId | setPromiscuous | refused =>
      exact h.of_eq rfl rfl
    | setMacFrameCounterIfLarger =>
      exact h.of_security (h.security.otPlatRadioSetMacFrameCounterIfLarger _ _)
        (List.Subset.refl _) rfl
    | setMacKey hiid hpal =>
      have hrest : radio.security.setMacKey = none := by
        have hcall := (Bool.or_eq_false_iff.mp hcall).2
        exact Option.isSome_eq_false_iff.mp hcall |> Option.isNone_iff_eq_none.mp
      exact h.of_security (h.security.otPlatRadioSetMacKey hrest (hcontract hpal))
        (List.Subset.refl _) rfl
    | process => exact h.processPart (radio.processPart config _ _)

theorem efr32RadioInit_securityConsistent (config : Config) (sequence : KeySequence) :
    SecurityConsistent config sequence (efr32RadioInit config) where
  security :=
    { issued := fun _ iid ↦ by
        have hgiven : (efr32RadioInit config).security.given iid = ∅ := by
          simp [MacSecurity.given, efr32RadioInit]
        rw [hgiven]
        exact Data.issued_empty _
      plain := nofun
      installed := fun iid _ slot ↦ (sequence.inSlot_zero iid slot).symm
      rotating := nofun }
  buffers _ _ := nofun

end Driver

/-! ## Runs -/

/-- As long as no counter wraps, a frame counter is used once between two resets, and a key and a
counter once by the plain encryptions of a slot, in every state of a run that meets the
contract. -/
theorem nonceLaw_throughout (config : Config) (sequence : KeySequence) (labels : List RadioEvent)
    (hcontract : Along (radioStep config) (Driver.NonceContract config sequence)
      (efr32RadioInit config) labels) :
    Throughout (radioStep config)
      (fun radio ↦ radio.security.wraps = 0 → radio.security.NonceLaw) (efr32RadioInit config)
      labels :=
  Throughout.mono (fun _ h ↦ h.security.nonceLaw)
    (hcontract.throughout
      (fun _ _ _ h hcontract hstep ↦ Driver.radioStep_securityConsistent h hcontract hstep)
      (Driver.efr32RadioInit_securityConsistent config sequence))

/-- Key number `n` of each instance is `n + 1`. -/
def exampleKeys : KeySequence where
  key _ number := number + 1
  injective _ := Nat.succ_injective
  ne_unset _ number := Nat.succ_ne_zero number

/-- A complete call of `otPlatRadioSetMacKey` with keys of `exampleKeys`. -/
def rotation (aKeyId firstKey : ℕ) : List RadioEvent :=
  .setMacKey ⟨0, aKeyId, firstKey, firstKey + 1, firstKey + 2⟩ :: List.replicate 5 .setMacKeyStep

/-- A secured data frame. -/
def securedFrame : OtRadioFrame :=
  { mPsdu := [0x49, 0x98, 1], mChannel := 15, mSecurity := { isSecurityEnabled := true } }

/-- The stack transmits a frame, and RAIL sends it. -/
def transmission (aFrame : OtRadioFrame) : List RadioEvent :=
  [.writeFrame 0 aFrame, .transmit 0 {} false, .railEvents { tx := { txPacketSent := true } }]

/-- A secured enhanced ACK is prepared. -/
def enhancedAck (keyId : ℕ) : RadioEvent :=
  .railEvents {
    dataRequestCommand := some {
      filterMask := 0x11
      mSecurity := { isSecurityEnabled := true, keyId } } }

/-- A frame is transmitted, the keys rotate, and an ACK uses the previous key. -/
def previousKeyRun : List RadioEvent :=
  rotation 5 1 ++ transmission securedFrame ++ rotation 6 2 ++ [enhancedAck 5]

theorem nonceLaw_throughout_previousKeyRun :
    ((exec (radioStep .singlePan) (efr32RadioInit .singlePan) previousKeyRun).map fun radio ↦
      radio.security.encryptions.map fun encryption ↦
        (encryption.slot, encryption.key, encryption.frameCounter, encryption.plain)) =
      some [(.current, 2, 0, true), (.prev, 2, 0, true)] ∧
    Throughout (radioStep .singlePan)
      (fun radio ↦ radio.security.wraps = 0 → radio.security.NonceLaw) (efr32RadioInit .singlePan)
      previousKeyRun :=
  ⟨by decide, nonceLaw_throughout .singlePan exampleKeys previousKeyRun (by decide)⟩

/-- The ACK shares its key and its counter with the transmitted frame. -/
theorem not_noncesDistinct_previousKeyRun :
    ¬ ∀ config sequence labels,
      Along (radioStep config) (Driver.NonceContract config sequence) (efr32RadioInit config)
          labels →
        Throughout (radioStep config)
          (fun radio ↦ radio.security.wraps = 0 → radio.security.NoncesDistinct)
          (efr32RadioInit config) labels := by
  intro h
  have hdistinct := h .singlePan exampleKeys previousKeyRun (by decide)
  revert hdistinct
  decide

/-- The keys and counters that a run uses in a single-PAN build. -/
def nonces (labels : List RadioEvent) : Option (List (MacKey × ℕ)) :=
  (exec (radioStep .singlePan) (efr32RadioInit .singlePan) labels).map fun radio ↦
    radio.security.encryptions.map fun encryption ↦ (encryption.key, encryption.frameCounter)

-- an ACK between the reset of the counter and the copy of the keys
example : nonces (rotation 5 1 ++ transmission securedFrame ++
    (rotation 6 2).take 2 ++ [enhancedAck 5]) = some [(2, 0), (2, 0)] := by decide

-- a frame that keeps its counter, but is encrypted again with the new key
example : nonces (rotation 5 1 ++ transmission securedFrame ++ rotation 6 2 ++
    transmission securedFrame ++ transmission { securedFrame with
      mSecurity := { isSecurityEnabled := true, mIsHeaderUpdated := true, epoch := 1 } }) =
    some [(2, 0), (3, 0), (3, 0)] := by decide

end OtEfr32.Radio
