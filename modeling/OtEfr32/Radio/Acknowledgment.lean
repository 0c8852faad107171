import OtEfr32.Radio.Security
import OtEfr32.Radio.SourceMatch

/-!
# The acknowledgment of a received frame

While a frame that requests an ACK is still being received, `dataRequestCommandCallback` decides
what the ACK says.  It writes an enhanced ACK for a version-2015 frame, and otherwise sets the
frame pending bit of RAIL's immediate ACK.  What it decided is left for the main loop in two bits of
the frame's first byte, in RAIL's receive FIFO.

The functions of the stack and of RAIL that the callback calls have their results as parameters.
-/

namespace OtEfr32.Radio

/-- `otMacAddress`. -/
inductive OtMacAddress where
  | none
  | short (mShortAddress : UInt16)
  | extended (mExtAddress : OtExtAddress)
  deriving DecidableEq, Repr

/-- `sl_rail_ieee802154_address_t`. -/
inductive RailAddress where
  | short (short_address : UInt16)
  | long (long_address : OtExtAddress)
  deriving DecidableEq, Repr

/-- The bytes of an extended address in the opposite order. -/
def OtExtAddress.bytesReversed (address : OtExtAddress) : OtExtAddress :=
  Vector.ofFn fun i ↦ address.get i.rev

/-- `IEEE802154_SECURED_OUTGOING_ENHANCED_ACK`. -/
def securedOutgoingEnhancedAck : ℕ := 0x04

/-- `IEEE802154_FRAME_PENDING_SET_IN_OUTGOING_ACK`. -/
def framePendingSetInOutgoingAck : ℕ := 0x80

/-- The tables with `sIsSrcMatchEnabled`. -/
structure SrcMatching where
  table : SourceMatch
  sIsSrcMatchEnabled : Bool := false

/-- `otPlatRadioEnableSrcMatch`. -/
def SrcMatching.otPlatRadioEnableSrcMatch (matching : SrcMatching) (config : Config)
    (aEnable : Bool) : SrcMatching :=
  if config.canAccessPal then { matching with sIsSrcMatchEnabled := aEnable } else matching

namespace SrcMatching

variable (config : Config) (matching : SrcMatching) (iid : ℕ)

/-- `setFramePending` of `writeIeee802154EnhancedAck`. -/
def setFramePending (aSrcAddress : OtMacAddress) : Bool :=
  matching.sIsSrcMatchEnabled &&
    match aSrcAddress with
    | .none => false
    | .extended mExtAddress =>
      (matching.table.utilsSoftSrcMatchExtFindEntry config iid mExtAddress).isSome
    | .short mShortAddress =>
      (matching.table.utilsSoftSrcMatchShortFindEntry config iid mShortAddress).isSome

/-- `dataRequestCommandCallback` calls `sl_rail_ieee802154_toggle_frame_pending`; `sourceAddress` is
the result of `sl_rail_ieee802154_get_address`, and `macFcf` the first byte of the frame. -/
def togglesFramePending (sourceAddress : Option RailAddress) (macFcf : ℕ) : Bool :=
  if matching.sIsSrcMatchEnabled then
    match sourceAddress with
    | none => false
    | some (.long long_address) =>
      (matching.table.utilsSoftSrcMatchExtFindEntry config iid long_address).isSome
    | some (.short short_address) =>
      (matching.table.utilsSoftSrcMatchShortFindEntry config iid short_address).isSome
  else macFcf &&& 0x7 != 0x1

end SrcMatching

/-! ## The callback -/

/-- The results of the calls that the callback makes for a frame. -/
structure AckCalls where
  /-- `packet_bytes` of the packet info: the bytes received so far, with the PHY header. -/
  packet_bytes : ℕ := 43
  otMacFrameIsVersion2015 : Bool := false
  /-- `otMacFrameGetSrcAddr`. -/
  aSrcAddress : OtMacAddress := .none
  /-- The security header of the ACK, or `none` where `otMacFrameGenerateEnhAck` fails. -/
  otMacFrameGenerateEnhAck : Option FrameSecurity := some {}
  /-- `skipRxPacketLengthBytes` returns `OT_ERROR_NONE`. -/
  skipRxPacketLengthBytes : Bool := true
  /-- `sl_rail_ieee802154_write_enh_ack` accepts the ACK. -/
  writeEnhAck : Bool := true
  /-- `sl_rail_ieee802154_get_address`. -/
  sourceAddress : Option RailAddress := none
  /-- `sl_rail_ieee802154_toggle_frame_pending` succeeds. -/
  toggleFramePending : Bool := true
  deriving DecidableEq, Repr

/-- `readInitialPacketData` for 43 bytes, of which 3 have to be there. -/
def AckCalls.initialPktReadBytes (calls : AckCalls) : ℕ :=
  if 3 ≤ calls.packet_bytes then min calls.packet_bytes 43 else 0

/-- What becomes of the acknowledgment of a frame. -/
structure AckResult where
  /-- The bits that the callback sets in the first byte of the frame. -/
  marks : ℕ := 0
  /-- The driver has set frame pending in the ACK. -/
  framePending : Bool := false
  /-- `sl_rail_ieee802154_write_enh_ack` has accepted a secured ACK. -/
  securedEnhAck : Bool := false
  /-- The key id and the frame counter that `radioProcessTransmitSecurity` wrote into that ACK. -/
  written : Option (ℕ × ℕ) := none
  deriving DecidableEq, Repr

/-- The key id and the frame counter that `radioProcessTransmitSecurity` writes into a frame; `none`
where it leaves the header as it is. -/
def MacSecurity.headerWritten (security : MacSecurity) (config : Config) (isAck : Bool)
    (aFrame : FrameSecurity) (iid : ℕ) : Option (ℕ × ℕ) :=
  let secured := (security.radioProcessTransmitSecurity config isAck aFrame iid).2.1
  if secured.mIsHeaderUpdated && !aFrame.mIsHeaderUpdated then
    some (secured.keyId, secured.frameCounter)
  else none

/-- `writeIeee802154EnhancedAck` behind `otMacFrameGenerateEnhAck`, for an ACK with the security
header `ack`. -/
def writeGeneratedEnhAck (config : Config) (security : MacSecurity) (iid : ℕ)
    (setFramePending : Bool) (ack : FrameSecurity) (calls : AckCalls) : AckResult :=
  let error := (security.radioProcessTransmitSecurity config true ack iid).1
  if ack.isSecurityEnabled && error != .none then {}
  else if calls.skipRxPacketLengthBytes = false then {}
  else
    let marks := (if ack.isSecurityEnabled then securedOutgoingEnhancedAck else 0) |||
      (if setFramePending then framePendingSetInOutgoingAck else 0)
    if calls.writeEnhAck then
      { marks
        framePending := setFramePending
        securedEnhAck := ack.isSecurityEnabled
        written := if ack.isSecurityEnabled then security.headerWritten config true ack iid
          else none }
    else { marks }

/-- `writeIeee802154EnhancedAck`; `none` where it returns false, for an immediate ACK. -/
def writeIeee802154EnhancedAck (config : Config) (security : MacSecurity) (matching : SrcMatching)
    (iid : ℕ) (calls : AckCalls) : Option AckResult :=
  if calls.initialPktReadBytes = 0 then some {}
  else if calls.otMacFrameIsVersion2015 = false then none
  else
    let setFramePending := matching.setFramePending config iid calls.aSrcAddress
    match calls.otMacFrameGenerateEnhAck with
    | none => some {}
    | some ack => some (writeGeneratedEnhAck config security iid setFramePending ack calls)

/-- `dataRequestCommandCallback` behind `writeIeee802154EnhancedAck`. -/
def setImmediateAckFramePending (config : Config) (matching : SrcMatching) (iid macFcf : ℕ)
    (calls : AckCalls) : AckResult :=
  if matching.togglesFramePending config iid calls.sourceAddress macFcf &&
      calls.toggleFramePending then
    { marks := if calls.skipRxPacketLengthBytes then framePendingSetInOutgoingAck else 0
      framePending := true }
  else {}

/-- `dataRequestCommandCallback` for a frame with the first byte `macFcf`. -/
def dataRequestCommandCallback (config : Config) (security : MacSecurity) (matching : SrcMatching)
    (iid macFcf : ℕ) (calls : AckCalls) : AckResult :=
  match writeIeee802154EnhancedAck config security matching iid calls with
  | some result => result
  | none => setImmediateAckFramePending config matching iid macFcf calls

/-- The ACK whose security `writeIeee802154EnhancedAck` gets to. -/
def AckCalls.generatedAck (calls : AckCalls) : Option FrameSecurity :=
  if calls.initialPktReadBytes = 0 then none
  else if calls.otMacFrameIsVersion2015 = false then none
  else calls.otMacFrameGenerateEnhAck

/-! ## Frame pending on the two paths -/

/-- The stack and RAIL name the same sender: the stack has the bytes of an extended address in the
opposite order. -/
def SameSender : OtMacAddress → RailAddress → Prop
  | .short mShortAddress, .short short_address => mShortAddress = short_address
  | .extended mExtAddress, .long long_address =>
      mExtAddress = OtExtAddress.bytesReversed long_address
  | _, _ => False

instance : DecidableRel SameSender
  | .short _, .short _ => inferInstanceAs (Decidable (_ = _))
  | .extended _, .long _ => inferInstanceAs (Decidable (_ = _))
  | .none, .short _ | .none, .long _ | .short _, .long _ | .extended _, .short _ =>
    .isFalse nofun

/-- For an extended address, the table holds the checksum of its bytes and of its bytes reversed, or
neither. -/
def AgreesReversed (config : Config) (table : SourceMatch) (iid : ℕ) : RailAddress → Prop
  | .short _ => True
  | .long long_address =>
    let panIndex := SourceMatch.panIndexOf config iid
    (config.multipan && iid == 0) = true ∨
      (extChecksum (table.sPanId panIndex) (OtExtAddress.bytesReversed long_address) ∈
          heldChecksums (table.srcMatchExtEntry panIndex) ↔
        extChecksum (table.sPanId panIndex) long_address ∈
          heldChecksums (table.srcMatchExtEntry panIndex))

instance (config : Config) (table : SourceMatch) (iid : ℕ) :
    DecidablePred (AgreesReversed config table iid)
  | .short _ => .isTrue trivial
  | .long _ => inferInstanceAs (Decidable (_ ∨ _))

theorem extFindEntry_eq_iff (config : Config) (table : SourceMatch) (iid : ℕ)
    (long_address : OtExtAddress) :
    (table.utilsSoftSrcMatchExtFindEntry config iid
        (OtExtAddress.bytesReversed long_address)).isSome =
        (table.utilsSoftSrcMatchExtFindEntry config iid long_address).isSome ↔
      AgreesReversed config table iid (.long long_address) := by
  unfold SourceMatch.utilsSoftSrcMatchExtFindEntry AgreesReversed
  cases hbroadcast : config.multipan && iid == 0 with
  | true => simp
  | false =>
    simp only [Bool.false_eq_true, ↓reduceIte, false_or]
    rw [Bool.eq_iff_iff, isSome_srcMatchFindEntry, isSome_srcMatchFindEntry]

/-- Both paths decide alike about the frame pending bit for a command frame exactly when source
matching is enabled and the table does not tell an extended address from its reverse. -/
theorem framePending_eq_iff (config : Config) (matching : SrcMatching) (iid macFcf : ℕ)
    (aSrcAddress : OtMacAddress) (sourceAddress : RailAddress)
    (hsender : SameSender aSrcAddress sourceAddress) (hcommand : macFcf &&& 0x7 = 0x3) :
    matching.setFramePending config iid aSrcAddress =
        matching.togglesFramePending config iid (some sourceAddress) macFcf ↔
      matching.sIsSrcMatchEnabled = true ∧
        AgreesReversed config matching.table iid sourceAddress := by
  cases henabled : matching.sIsSrcMatchEnabled with
  | false =>
    simp [SrcMatching.setFramePending, SrcMatching.togglesFramePending, henabled, hcommand]
  | true =>
    cases sourceAddress with
    | short short_address =>
      cases aSrcAddress with
      | short mShortAddress =>
        obtain rfl : mShortAddress = short_address := hsender
        simp [SrcMatching.setFramePending, SrcMatching.togglesFramePending, henabled,
          AgreesReversed]
      | _ => exact hsender.elim
    | long long_address =>
      cases aSrcAddress with
      | extended mExtAddress =>
        obtain rfl : mExtAddress = OtExtAddress.bytesReversed long_address := hsender
        simp only [SrcMatching.setFramePending, SrcMatching.togglesFramePending, henabled,
          Bool.true_and, if_true, true_and]
        exact extFindEntry_eq_iff config matching.table iid long_address
      | _ => exact hsender.elim

/-- A table of one extended entry for the address 1, 2, …, 8. -/
def oneChild : SourceMatch :=
  ((SourceMatch.init 0 1).otPlatRadioAddSrcMatchExtEntry .singlePan 0 #v[1, 2, 3, 4, 5, 6, 7, 8]).2

theorem framePending_eq_iff_stranger :
    SrcMatching.setFramePending .singlePan ⟨oneChild, true⟩ 0
        (.extended #v[9, 9, 9, 9, 1, 1, 1, 1]) =
      SrcMatching.togglesFramePending .singlePan ⟨oneChild, true⟩ 0
        (some (.long #v[1, 1, 1, 1, 9, 9, 9, 9])) 0x63 :=
  (framePending_eq_iff .singlePan ⟨oneChild, true⟩ 0 0x63 _ _ (by decide) (by decide)).mpr
    (by decide)

/-- A data request of the one child: the immediate ACK has frame pending set, an enhanced ACK has
not. -/
theorem not_framePending_eq_oneChild :
    SameSender (.extended #v[8, 7, 6, 5, 4, 3, 2, 1]) (.long #v[1, 2, 3, 4, 5, 6, 7, 8]) ∧
      SrcMatching.setFramePending .singlePan ⟨oneChild, true⟩ 0
          (.extended #v[8, 7, 6, 5, 4, 3, 2, 1]) ≠
        SrcMatching.togglesFramePending .singlePan ⟨oneChild, true⟩ 0
          (some (.long #v[1, 2, 3, 4, 5, 6, 7, 8])) 0x63 := by
  decide

end OtEfr32.Radio
