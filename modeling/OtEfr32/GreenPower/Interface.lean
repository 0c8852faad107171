import Mathlib.Tactic.SplitIfs
import OtEfr32.Radio.Frame

/-!
# The Green Power interface

`sl_gp_interface.c` intercepts the Channel Configuration and Commissioning Reply frames that an
instance transmits, holds one of them back until a request of the Green Power device is received,
and transmits it a fixed time behind the request.  It is part of a multipan build only; the build
has no diagnostics mode.

The frames are given by their PSDUs, without the two bytes of the checksum; a byte behind the end
of a PSDU is read as 0.
-/

namespace OtEfr32.GreenPower

/-- `sl_gp_state_t`. -/
inductive SlGpState where
  | init
  | idle
  | waitingForPkt
  | sendResponse
  deriving DecidableEq, Repr

/-- The functions of the stack and the constants that the interface uses. -/
structure GpPlatform where
  /-- `efr32GetPayload`: the index of the first byte of the payload in the PSDU. -/
  efr32GetPayload : List ℕ → Option ℕ
  /-- `efr32GetFrameVersion`. -/
  efr32GetFrameVersion : List ℕ → ℕ
  /-- The eight bytes of `mAddress.mExtAddress` that `otMacFrameGetSrcAddr` leaves. -/
  otMacFrameGetSrcAddr : List ℕ → List ℕ
  /-- The eight bytes of `mAddress.mExtAddress` that `otMacFrameGetDstAddr` leaves. -/
  otMacFrameGetDstAddr : List ℕ → List ℕ
  /-- `GP_TX_MAX_TIMEOUT_IN_MICRO_SECONDS`. -/
  gpTxMaxTimeout : ℕ := 5000000
  /-- `GP_RX_OFFSET_IN_MICRO_SECONDS`. -/
  gpRxOffset : ℕ := 20500

/-- The variables of the interface; an instance is named by its iid. -/
structure GpInterface where
  gpState : SlGpState := .init
  gpStateTimeOut : ℕ := 0
  sBufferedTxInstance : Option ℕ := none
  deriving DecidableEq, Repr

/-! ## Frames -/

/-- `aFrame->mLength`. -/
def mLength (psdu : List ℕ) : ℕ := psdu.length + 2

/-- `GP_NWK_PROTOCOL_VERSION_CHECK`. -/
def gpNwkProtocolVersionCheck (nwkFc : ℕ) : Bool := nwkFc >>> 2 &&& 0x0F == 3 && nwkFc &&& 0x3 ≤ 1

/-- `GP_NWK_FRAME_TYPE_MAINTENANCE_WITHOUT_EXTD_FC`. -/
def gpNwkFrameTypeMaintenance (nwkFc : ℕ) : Bool := nwkFc &&& 0xC3 == 0x01

/-- `GP_NWK_FRAME_TYPE_DATA_WITH_EXTD_FC`. -/
def gpNwkFrameTypeData (nwkFc : ℕ) : Bool := nwkFc &&& 0xC3 == 0x80

/-- `GP_NWK_UNSECURED_RX_DATA_FRAME` for a received frame, and `GP_NWK_UNSECURED_TX_DATA_FRAME` for
a frame to transmit. -/
def gpNwkUnsecuredDataFrame (isRxFrame : Bool) (nwkExntdFc : ℕ) : Bool :=
  nwkExntdFc &&& 0xF8 == if isRxFrame then 0x40 else 0x80

/-- The command ids of the requests that a Commissioning Reply answers. -/
def isCommissioningCmdId (cmdId : ℕ) : Bool :=
  cmdId == 0xE0 || (0xE4 ≤ cmdId && cmdId ≤ 0xEF) || (0xB0 ≤ cmdId && cmdId ≤ 0xBF)

/-- `memcmp` of `length` bytes of two PSDUs gives 0. -/
def sameBytes (length : ℕ) (psdu : List ℕ) (start : ℕ) (psdu' : List ℕ) (start' : ℕ) : Bool :=
  (List.range length).all fun i ↦ psdu.getD (start + i) 0 == psdu'.getD (start' + i) 0

namespace GpPlatform

variable (platform : GpPlatform)

/-- `sl_gp_intf_is_gp_pkt`. -/
def slGpIntfIsGpPkt (psdu : List ℕ) : Bool :=
  match platform.efr32GetPayload psdu with
  | none => false
  | some gpFrameStart =>
    10 ≤ mLength psdu && gpNwkProtocolVersionCheck (psdu.getD gpFrameStart 0) &&
      platform.efr32GetFrameVersion psdu == 0

/-- The comparison of the source id of a request with the frame in a transmit buffer. -/
def sameSrcId (psdu : List ℕ) (gpFrameStart : ℕ) (aTxFrame : List ℕ) : Bool :=
  sameBytes 4 psdu (gpFrameStart + 2) aTxFrame 9

/-- The comparison of the extended address and the endpoint. -/
def sameEui64 (psdu : List ℕ) (gpFrameStart : ℕ) (aTxFrame : List ℕ) : Bool :=
  platform.otMacFrameGetDstAddr aTxFrame == platform.otMacFrameGetSrcAddr psdu &&
    psdu.getD (gpFrameStart + 2) 0 == aTxFrame.getD 15 0

end GpPlatform

/-! ## The functions of the interface -/

namespace GpInterface

variable (gp : GpInterface) (platform : GpPlatform)

/-- A request has been matched: the buffered frame is to be sent `gpRxOffset` behind it. -/
def sendResponse (mTimestamp : ℕ) : GpInterface :=
  { gp with
    gpState := .sendResponse
    gpStateTimeOut := mTimestamp + platform.gpRxOffset }

/-- `sl_gp_intf_should_buffer_pkt` for a maintenance frame with the command `cmdId`. -/
def shouldBufferMaintenance (cmdId mTimestamp : ℕ) (isRxFrame : Bool) : Bool × GpInterface :=
  if cmdId = 0xE3 ∧ isRxFrame = true ∧ gp.gpState = .waitingForPkt then
    (false, gp.sendResponse platform mTimestamp)
  else (cmdId == 0xF3 && !isRxFrame, gp)

/-- `sl_gp_intf_should_buffer_pkt` for a data frame with the command `cmdId`; `matched` is the
comparison with the transmit buffer of the instance. -/
def shouldBufferData (cmdId mTimestamp : ℕ) (isRxFrame : Bool) (matched : Bool) :
    Bool × GpInterface :=
  if cmdId = 0xF0 ∧ isRxFrame = false then (true, gp)
  else if isCommissioningCmdId cmdId = true ∧ isRxFrame = true ∧ gp.gpState = .waitingForPkt then
    (false, if matched then gp.sendResponse platform mTimestamp else gp)
  else (false, gp)

/-- `sl_gp_intf_should_buffer_pkt`, for an instance whose transmit buffer holds `aTxFrame`. -/
def slGpIntfShouldBufferPkt (aTxFrame psdu : List ℕ) (mTimestamp : ℕ) (isRxFrame : Bool) :
    Bool × GpInterface :=
  match platform.efr32GetPayload psdu with
  | none => (false, gp)
  | some gpFrameStart =>
    let fc := psdu.getD gpFrameStart 0
    if platform.slGpIntfIsGpPkt psdu = false then (false, gp)
    else if gpNwkFrameTypeMaintenance fc then
      gp.shouldBufferMaintenance platform (psdu.getD (gpFrameStart + 1) 0) mTimestamp isRxFrame
    else if gpNwkFrameTypeData fc && 14 ≤ mLength psdu then
      let extFc := psdu.getD (gpFrameStart + 1) 0
      if gpNwkUnsecuredDataFrame isRxFrame extFc = false then (false, gp)
      else if extFc &&& 0x07 = 0 then
        gp.shouldBufferData platform (psdu.getD (gpFrameStart + 6) 0) mTimestamp isRxFrame
          (GpPlatform.sameSrcId psdu gpFrameStart aTxFrame)
      else if extFc &&& 0x07 = 2 then
        gp.shouldBufferData platform (psdu.getD (gpFrameStart + 3) 0) mTimestamp isRxFrame
          (platform.sameEui64 psdu gpFrameStart aTxFrame)
      else (false, gp)
    else (false, gp)

/-- `sl_gp_intf_buffer_pkt`; `now` is the result of `otPlatTimeGet`. -/
def slGpIntfBufferPkt (aInstance now : ℕ) : GpInterface :=
  { gpStateTimeOut := now + platform.gpTxMaxTimeout
    gpState := .waitingForPkt
    sBufferedTxInstance := some aInstance }

/-- The end of a response or of its wait in `efr32GpProcess`. -/
def reset : GpInterface := { gp with gpState := .idle, sBufferedTxInstance := none }

/-- The interface holds a frame of an instance back. -/
def isHolding : Bool := gp.gpState == .waitingForPkt || gp.gpState == .sendResponse

end GpInterface

/-! ## Requests and responses -/

namespace GpPlatform

variable (platform : GpPlatform)

/-- The frame is a Channel Configuration or a Commissioning Reply, as
`sl_gp_intf_should_buffer_pkt` decides it for a frame to transmit. -/
def isResponse (psdu : List ℕ) : Bool :=
  (GpInterface.slGpIntfShouldBufferPkt {} platform psdu psdu 0 false).1

/-- A received frame is a request for a frame to transmit, as `sl_gp_intf_should_buffer_pkt` decides
it while a frame is waiting. -/
def isRequestFor (psdu aTxFrame : List ℕ) : Bool :=
  let waiting : GpInterface := { gpState := .waitingForPkt }
  (waiting.slGpIntfShouldBufferPkt platform aTxFrame psdu 0 true).2.gpState == .sendResponse

end GpPlatform

/-- A maintenance frame with `GP_CHANNEL_CONFIGURATION_CMD_ID`, with its payload at
`gpFrameStart`. -/
structure IsChannelConfiguration (psdu : List ℕ) (gpFrameStart : ℕ) : Prop where
  maintenance : gpNwkFrameTypeMaintenance (psdu.getD gpFrameStart 0) = true
  command : psdu.getD (gpFrameStart + 1) 0 = 0xF3

/-- An unsecured data frame with `GP_COMMISSIONING_REPLY_CMD_ID`, behind a source id or behind an
endpoint. -/
structure IsCommissioningReply (psdu : List ℕ) (gpFrameStart : ℕ) : Prop where
  data : gpNwkFrameTypeData (psdu.getD gpFrameStart 0) = true
  length : 14 ≤ mLength psdu
  unsecured : gpNwkUnsecuredDataFrame false (psdu.getD (gpFrameStart + 1) 0) = true
  command : psdu.getD (gpFrameStart + 1) 0 &&& 0x07 = 0 ∧ psdu.getD (gpFrameStart + 6) 0 = 0xF0 ∨
    psdu.getD (gpFrameStart + 1) 0 &&& 0x07 = 2 ∧ psdu.getD (gpFrameStart + 3) 0 = 0xF0

/-- A frame has one type. -/
theorem gpNwkFrameTypeData_of_maintenance {nwkFc : ℕ}
    (hmaintenance : gpNwkFrameTypeMaintenance nwkFc = true) : gpNwkFrameTypeData nwkFc = false := by
  rw [gpNwkFrameTypeMaintenance, beq_iff_eq] at hmaintenance
  rw [gpNwkFrameTypeData, hmaintenance]
  rfl

theorem GpInterface.shouldBufferMaintenance_tx (gp : GpInterface) (platform : GpPlatform)
    (cmdId mTimestamp : ℕ) :
    gp.shouldBufferMaintenance platform cmdId mTimestamp false = (cmdId == 0xF3, gp) := by
  simp [shouldBufferMaintenance]

theorem GpInterface.shouldBufferData_tx (gp : GpInterface) (platform : GpPlatform)
    (cmdId mTimestamp : ℕ) (matched : Bool) :
    gp.shouldBufferData platform cmdId mTimestamp false matched = (cmdId == 0xF0, gp) := by
  by_cases hcmdId : cmdId = 0xF0 <;> simp [shouldBufferData, hcmdId]

/-- What the frames to hold back look like. -/
theorem GpPlatform.isResponse_iff {platform : GpPlatform} {psdu : List ℕ} :
    platform.isResponse psdu = true ↔ platform.slGpIntfIsGpPkt psdu = true ∧
      ∃ gpFrameStart, platform.efr32GetPayload psdu = some gpFrameStart ∧
        (IsChannelConfiguration psdu gpFrameStart ∨ IsCommissioningReply psdu gpFrameStart) := by
  unfold isResponse GpInterface.slGpIntfShouldBufferPkt
  cases hpayload : platform.efr32GetPayload psdu with
  | none => simp
  | some gpFrameStart =>
    simp only [Option.some.injEq, exists_eq_left', GpInterface.shouldBufferMaintenance_tx,
      GpInterface.shouldBufferData_tx]
    by_cases hgp : platform.slGpIntfIsGpPkt psdu = true
    case neg => simp [hgp]
    rw [if_neg (ne_false_of_eq_true hgp), and_iff_right hgp]
    by_cases hmaintenance : gpNwkFrameTypeMaintenance (psdu.getD gpFrameStart 0) = true
    · have hnot : ¬ IsCommissioningReply psdu gpFrameStart := fun h ↦
        Bool.false_ne_true ((gpNwkFrameTypeData_of_maintenance hmaintenance).symm.trans h.data)
      rw [or_iff_left hnot, if_pos hmaintenance]
      exact ⟨fun h ↦ ⟨hmaintenance, beq_iff_eq.mp h⟩, fun h ↦ beq_iff_eq.mpr h.command⟩
    · rw [or_iff_right fun h ↦ hmaintenance h.maintenance, if_neg hmaintenance]
      constructor
      · intro h
        split_ifs at h with hdata hsecured hsource hendpoint
        · rw [Bool.and_eq_true, decide_eq_true_iff] at hdata
          exact ⟨hdata.1, hdata.2, Bool.of_not_eq_false hsecured,
            .inl ⟨hsource, beq_iff_eq.mp h⟩⟩
        · rw [Bool.and_eq_true, decide_eq_true_iff] at hdata
          exact ⟨hdata.1, hdata.2, Bool.of_not_eq_false hsecured,
            .inr ⟨hendpoint, beq_iff_eq.mp h⟩⟩
      · intro h
        have hdata : (gpNwkFrameTypeData (psdu.getD gpFrameStart 0) && 14 ≤ mLength psdu) = true :=
          Bool.and_eq_true_iff.mpr ⟨h.data, decide_eq_true h.length⟩
        rw [if_pos hdata, if_neg (ne_false_of_eq_true h.unsecured)]
        obtain ⟨hsource, hcommand⟩ | ⟨hendpoint, hcommand⟩ := h.command
        · rw [if_pos hsource]
          exact beq_iff_eq.mpr hcommand
        · rw [if_neg (by omega), if_pos hendpoint]
          exact beq_iff_eq.mpr hcommand

namespace GpInterface

variable {gp : GpInterface} {platform : GpPlatform}

/-- The function lets a waiting frame become due, or not, and does nothing else. -/
def Releases (platform : GpPlatform) (matched : Bool)
    (function : GpInterface → ℕ → Bool × GpInterface) : Prop :=
  ∀ gp mTimestamp, function gp mTimestamp =
    (false, if gp.gpState = .waitingForPkt ∧ matched = true then
        gp.sendResponse platform mTimestamp
      else gp)

theorem releases_false : Releases platform false fun gp _ ↦ (false, gp) := by
  intro gp mTimestamp
  simp

theorem shouldBufferMaintenance_releases (cmdId : ℕ) :
    Releases platform (cmdId == 0xE3) fun gp mTimestamp ↦
      gp.shouldBufferMaintenance platform cmdId mTimestamp true := by
  intro gp mTimestamp
  unfold shouldBufferMaintenance
  by_cases hcmdId : cmdId = 0xE3 <;> by_cases hstate : gp.gpState = .waitingForPkt <;>
    simp [hcmdId, hstate]

theorem shouldBufferData_releases (cmdId : ℕ) (matched : Bool) :
    Releases platform (isCommissioningCmdId cmdId && matched) fun gp mTimestamp ↦
      gp.shouldBufferData platform cmdId mTimestamp true matched := by
  intro gp mTimestamp
  unfold shouldBufferData
  cases isCommissioningCmdId cmdId <;> by_cases hstate : gp.gpState = .waitingForPkt <;>
    simp [hstate]

/-- For a received frame, the function looks at the frames first and at its state last. -/
theorem exists_releases (platform : GpPlatform) (aTxFrame psdu : List ℕ) :
    ∃ matched, Releases platform matched fun gp mTimestamp ↦
      gp.slGpIntfShouldBufferPkt platform aTxFrame psdu mTimestamp true := by
  unfold slGpIntfShouldBufferPkt
  cases platform.efr32GetPayload psdu with
  | none => exact ⟨false, releases_false⟩
  | some gpFrameStart =>
    simp only
    split_ifs
    all_goals
      first
      | exact ⟨_, shouldBufferMaintenance_releases _⟩
      | exact ⟨_, shouldBufferData_releases _ _⟩
      | exact ⟨false, releases_false⟩

/-- A waiting frame becomes due exactly on a request that matches the transmit buffer of the
receiving instance. -/
theorem slGpIntfShouldBufferPkt_rx (gp : GpInterface) (platform : GpPlatform)
    (aTxFrame psdu : List ℕ) (mTimestamp : ℕ) :
    gp.slGpIntfShouldBufferPkt platform aTxFrame psdu mTimestamp true =
      (false, if gp.gpState = .waitingForPkt ∧ platform.isRequestFor psdu aTxFrame = true then
          gp.sendResponse platform mTimestamp
        else gp) := by
  obtain ⟨matched, hreleases⟩ := exists_releases platform aTxFrame psdu
  have hmatched : platform.isRequestFor psdu aTxFrame = matched := by
    unfold GpPlatform.isRequestFor
    simp only [hreleases { gpState := .waitingForPkt } 0]
    cases matched <;> rfl
  rw [hmatched]
  exact hreleases gp mTimestamp

/-- For a frame to transmit, the answer does not depend on the state, and leaves it alone. -/
theorem slGpIntfShouldBufferPkt_tx (gp : GpInterface) (platform : GpPlatform)
    (aTxFrame psdu : List ℕ) (mTimestamp : ℕ) :
    gp.slGpIntfShouldBufferPkt platform aTxFrame psdu mTimestamp false =
      (platform.isResponse psdu, gp) := by
  simp only [GpPlatform.isResponse, slGpIntfShouldBufferPkt, shouldBufferMaintenance,
    shouldBufferData]
  grind

end GpInterface

end OtEfr32.GreenPower
