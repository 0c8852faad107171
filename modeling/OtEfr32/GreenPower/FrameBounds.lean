import Mathlib.Tactic.SplitIfs
import OtEfr32.Data.Reads
import OtEfr32.GreenPower.Interface

/-!
# Reading Green Power frames

The Green Power interface checks the length of the whole MAC frame, and reads the payload at fixed
offsets from its start, which depends on the MAC header.  Here its functions are programs that read
single bytes of the memory behind `mPsdu`.  They stay in front of the checksum exactly if the
payload is as long as the branch that is taken needs it; then they are those of `GpInterface`.
-/

namespace OtEfr32.GreenPower

open Data

/-- A frame in memory: the bytes from `mPsdu` on, and `mLength` of them with the checksum. -/
structure GpFrame where
  mPsdu : ℕ → ℕ
  mLength : ℕ

namespace GpFrame

variable (frame : GpFrame) (platform : GpPlatform) (gp : GpInterface) (aTxFrame : List ℕ)
  (mTimestamp : ℕ) (isRxFrame : Bool)

/-- The position of the checksum. -/
def fcsPosition : ℕ := frame.mLength - 2

/-- The frame without its checksum. -/
def psdu : List ℕ := (List.range frame.fcsPosition).map frame.mPsdu

/-- `sl_gp_intf_is_gp_pkt`. -/
def slGpIntfIsGpPkt : Reads ℕ Bool :=
  match platform.efr32GetPayload frame.psdu with
  | none => pure false
  | some gpFrameStart => do
    let fc ← Reads.cellAt gpFrameStart
    pure (10 ≤ frame.mLength && gpNwkProtocolVersionCheck fc &&
      platform.efr32GetFrameVersion frame.psdu == 0)

/-- The comparison of the source id with the frame in the transmit buffer. -/
def sameSrcId (gpFrameStart : ℕ) : Reads ℕ Bool := do
  let srcId ← Reads.cellsAt (gpFrameStart + 2) 4
  pure (srcId == (List.range 4).map fun i ↦ aTxFrame.getD (9 + i) 0)

/-- The comparison of the extended address and the endpoint. -/
def sameEui64 (gpFrameStart : ℕ) : Reads ℕ Bool :=
  if platform.otMacFrameGetDstAddr aTxFrame = platform.otMacFrameGetSrcAddr frame.psdu then do
    let endpoint ← Reads.cellAt (gpFrameStart + 2)
    pure (endpoint == aTxFrame.getD 15 0)
  else pure false

/-- `sl_gp_intf_should_buffer_pkt` for a data frame, whose command is at `commandIndex`; the frame
is compared with the transmit buffer only if it is a request and a frame is waiting. -/
def shouldBufferData (commandIndex : ℕ) (compare : Reads ℕ Bool) :
    Reads ℕ (Bool × GpInterface) := do
  let cmdId ← Reads.cellAt commandIndex
  if isCommissioningCmdId cmdId = true ∧ isRxFrame = true ∧ gp.gpState = .waitingForPkt then do
    let matched ← compare
    pure (gp.shouldBufferData platform cmdId mTimestamp isRxFrame matched)
  else pure (gp.shouldBufferData platform cmdId mTimestamp isRxFrame false)

/-- `sl_gp_intf_should_buffer_pkt`. -/
def slGpIntfShouldBufferPkt : Reads ℕ (Bool × GpInterface) :=
  match platform.efr32GetPayload frame.psdu with
  | none => pure (false, gp)
  | some gpFrameStart => do
    let fc ← Reads.cellAt gpFrameStart
    let isGpPkt ← frame.slGpIntfIsGpPkt platform
    if isGpPkt = false then pure (false, gp)
    else if gpNwkFrameTypeMaintenance fc then do
      let cmdId ← Reads.cellAt (gpFrameStart + 1)
      pure (gp.shouldBufferMaintenance platform cmdId mTimestamp isRxFrame)
    else if gpNwkFrameTypeData fc && 14 ≤ frame.mLength then do
      let extFc ← Reads.cellAt (gpFrameStart + 1)
      if gpNwkUnsecuredDataFrame isRxFrame extFc = false then pure (false, gp)
      else if extFc &&& 0x07 = 0 then
        shouldBufferData platform gp mTimestamp isRxFrame (gpFrameStart + 6)
          (sameSrcId aTxFrame gpFrameStart)
      else if extFc &&& 0x07 = 2 then
        shouldBufferData platform gp mTimestamp isRxFrame (gpFrameStart + 3)
          (frame.sameEui64 platform aTxFrame gpFrameStart)
      else pure (false, gp)
    else pure (false, gp)

/-! ## The payload that is needed -/

/-- The frame passes the checks of `sl_gp_intf_is_gp_pkt` with its first byte of payload. -/
def isGpPkt (gpFrameStart : ℕ) : Bool :=
  10 ≤ frame.mLength && gpNwkProtocolVersionCheck (frame.mPsdu gpFrameStart) &&
    platform.efr32GetFrameVersion frame.psdu == 0

/-- The number of bytes of payload that the branch for a frame needs. -/
def neededPayload (gpFrameStart : ℕ) : ℕ :=
  let fc := frame.mPsdu gpFrameStart
  let extFc := frame.mPsdu (gpFrameStart + 1)
  if frame.isGpPkt platform gpFrameStart = false then 1
  else if gpNwkFrameTypeMaintenance fc then 2
  else if gpNwkFrameTypeData fc && 14 ≤ frame.mLength then
    if gpNwkUnsecuredDataFrame isRxFrame extFc = false then 2
    else if extFc &&& 0x07 = 0 then 7
    else if extFc &&& 0x07 = 2 then 4
    else 2
  else 1

/-- The payload has the bytes that the branch for the frame needs, or there is no payload. -/
def PayloadFits : Prop :=
  ∀ gpFrameStart, platform.efr32GetPayload frame.psdu = some gpFrameStart →
    gpFrameStart + frame.neededPayload platform isRxFrame gpFrameStart ≤ frame.fcsPosition

/-- A function reads a frame only in front of its checksum, and returns the same for all frames that
are the same up to there. -/
structure StaysInside {α : Type} (function : GpFrame → Reads ℕ α) : Prop where
  within : (function frame).Within frame.fcsPosition frame.mPsdu
  independent : ∀ other : GpFrame, other.mLength = frame.mLength →
    (∀ position < frame.fcsPosition, other.mPsdu position = frame.mPsdu position) →
      (function other).run other.mPsdu = (function frame).run frame.mPsdu

variable {frame platform gp aTxFrame mTimestamp isRxFrame} {gpFrameStart : ℕ}

/-! ## The footprints -/

theorem within_slGpIntfIsGpPkt
    (hpayload : platform.efr32GetPayload frame.psdu = some gpFrameStart) :
    (frame.slGpIntfIsGpPkt platform).Within frame.fcsPosition frame.mPsdu ↔
      gpFrameStart < frame.fcsPosition := by
  simp only [slGpIntfIsGpPkt, hpayload, Reads.within_bind, Reads.within_cellAt, Reads.within_pure,
    and_true]

theorem run_slGpIntfIsGpPkt (hpayload : platform.efr32GetPayload frame.psdu = some gpFrameStart) :
    (frame.slGpIntfIsGpPkt platform).run frame.mPsdu = frame.isGpPkt platform gpFrameStart := by
  simp only [slGpIntfIsGpPkt, hpayload, Reads.run_bind, Reads.run_cellAt, Reads.run_pure, isGpPkt]

/-- What is compared lies in front of the command. -/
theorem within_sameSrcId (hfits : gpFrameStart + 6 < frame.fcsPosition) :
    (sameSrcId aTxFrame gpFrameStart).Within frame.fcsPosition frame.mPsdu := by
  simp only [sameSrcId, Reads.within_bind, Reads.within_pure, and_true]
  exact Reads.within_cellsAt (by omega)

theorem within_sameEui64 (hfits : gpFrameStart + 3 < frame.fcsPosition) :
    (frame.sameEui64 platform aTxFrame gpFrameStart).Within frame.fcsPosition frame.mPsdu := by
  unfold sameEui64
  split
  · simp only [Reads.within_bind, Reads.within_cellAt, Reads.within_pure, and_true]
    omega
  · exact Reads.within_pure false

theorem within_shouldBufferData {commandIndex : ℕ} {compare : Reads ℕ Bool}
    (hcompare : commandIndex < frame.fcsPosition →
      compare.Within frame.fcsPosition frame.mPsdu) :
    (shouldBufferData platform gp mTimestamp isRxFrame commandIndex compare).Within
        frame.fcsPosition frame.mPsdu ↔ commandIndex < frame.fcsPosition := by
  simp only [shouldBufferData, Reads.within_bind, Reads.within_cellAt, Reads.run_cellAt]
  constructor
  · exact And.left
  · intro hcommand
    refine ⟨hcommand, ?_⟩
    split
    · simp only [Reads.within_bind, Reads.within_pure, and_true]
      exact hcompare hcommand
    · exact Reads.within_pure _

/-- The footprint of `sl_gp_intf_should_buffer_pkt`, branch by branch. -/
theorem within_slGpIntfShouldBufferPkt :
    (frame.slGpIntfShouldBufferPkt platform gp aTxFrame mTimestamp isRxFrame).Within
        frame.fcsPosition frame.mPsdu ↔ frame.PayloadFits platform isRxFrame := by
  unfold PayloadFits
  cases hpayload : platform.efr32GetPayload frame.psdu with
  | none => simp [slGpIntfShouldBufferPkt, hpayload]
  | some gpFrameStart =>
    have hfits : (∀ start, some gpFrameStart = some start →
        start + frame.neededPayload platform isRxFrame start ≤ frame.fcsPosition) ↔
          gpFrameStart + frame.neededPayload platform isRxFrame gpFrameStart ≤
            frame.fcsPosition := by
      simp
    rw [hfits]
    simp only [slGpIntfShouldBufferPkt, hpayload, Reads.within_bind, Reads.within_cellAt,
      Reads.run_cellAt, within_slGpIntfIsGpPkt hpayload, run_slGpIntfIsGpPkt hpayload]
    unfold neededPayload
    dsimp only
    by_cases hgp : frame.isGpPkt platform gpFrameStart = false
    · simp only [if_pos hgp, Reads.within_pure, and_true]
      omega
    simp only [if_neg hgp]
    by_cases hmaintenance : gpNwkFrameTypeMaintenance (frame.mPsdu gpFrameStart) = true
    · simp only [if_pos hmaintenance, Reads.within_bind, Reads.within_cellAt, Reads.within_pure,
        and_true]
      omega
    simp only [if_neg hmaintenance]
    by_cases hdata : (gpNwkFrameTypeData (frame.mPsdu gpFrameStart) && 14 ≤ frame.mLength) = true
    case neg =>
      simp only [if_neg hdata, Reads.within_pure, and_true]
      omega
    simp only [if_pos hdata, Reads.within_bind, Reads.within_cellAt, Reads.run_cellAt]
    by_cases hdirection :
        gpNwkUnsecuredDataFrame isRxFrame (frame.mPsdu (gpFrameStart + 1)) = false
    · simp only [if_pos hdirection, Reads.within_pure, and_true]
      omega
    simp only [if_neg hdirection]
    by_cases hsrcId : frame.mPsdu (gpFrameStart + 1) &&& 0x07 = 0
    · simp only [if_pos hsrcId, within_shouldBufferData within_sameSrcId]
      omega
    simp only [if_neg hsrcId]
    by_cases heui64 : frame.mPsdu (gpFrameStart + 1) &&& 0x07 = 2
    · simp only [if_pos heui64, within_shouldBufferData within_sameEui64]
      omega
    · simp only [if_neg heui64, Reads.within_pure, and_true]
      omega

/-! ## Frames that are the same up to the checksum -/

theorem psdu_congr {other : GpFrame} (hlength : other.mLength = frame.mLength)
    (hsame : ∀ position < frame.fcsPosition, other.mPsdu position = frame.mPsdu position) :
    other.psdu = frame.psdu := by
  have hend : other.fcsPosition = frame.fcsPosition := by rw [fcsPosition, hlength, fcsPosition]
  rw [psdu, hend]
  exact List.map_congr_left fun position hposition ↦ hsame position (List.mem_range.mp hposition)

theorem slGpIntfIsGpPkt_congr {other : GpFrame} (hlength : other.mLength = frame.mLength)
    (hpsdu : other.psdu = frame.psdu) :
    other.slGpIntfIsGpPkt platform = frame.slGpIntfIsGpPkt platform := by
  simp only [slGpIntfIsGpPkt, hlength, hpsdu]

theorem slGpIntfShouldBufferPkt_congr {other : GpFrame} (hlength : other.mLength = frame.mLength)
    (hpsdu : other.psdu = frame.psdu) :
    other.slGpIntfShouldBufferPkt platform gp aTxFrame mTimestamp isRxFrame =
      frame.slGpIntfShouldBufferPkt platform gp aTxFrame mTimestamp isRxFrame := by
  simp only [slGpIntfShouldBufferPkt, sameEui64, slGpIntfIsGpPkt_congr hlength hpsdu, hlength,
    hpsdu]

/-- A function that is determined by the frame up to its checksum stays inside if its footprint
does. -/
theorem staysInside_iff {α : Type} {function : GpFrame → Reads ℕ α}
    (hfunction : ∀ other : GpFrame, other.mLength = frame.mLength → other.psdu = frame.psdu →
      function other = function frame) :
    frame.StaysInside function ↔ (function frame).Within frame.fcsPosition frame.mPsdu := by
  refine ⟨StaysInside.within, fun hwithin ↦ ⟨hwithin, fun other hlength hsame ↦ ?_⟩⟩
  rw [hfunction other hlength (psdu_congr hlength hsame)]
  exact hwithin.run_eq hsame

/-- Both functions stay in front of the checksum exactly if the payload has the bytes that the
branch for the frame needs. -/
theorem staysInside_iff_payloadFits (frame : GpFrame) (platform : GpPlatform) (gp : GpInterface)
    (aTxFrame : List ℕ) (mTimestamp : ℕ) (isRxFrame : Bool) :
    (frame.StaysInside (fun frame ↦ frame.slGpIntfIsGpPkt platform) ∧
      frame.StaysInside fun frame ↦
        frame.slGpIntfShouldBufferPkt platform gp aTxFrame mTimestamp isRxFrame) ↔
    frame.PayloadFits platform isRxFrame := by
  rw [staysInside_iff fun _ ↦ slGpIntfIsGpPkt_congr,
    staysInside_iff fun _ ↦ slGpIntfShouldBufferPkt_congr, within_slGpIntfShouldBufferPkt]
  refine and_iff_right_of_imp fun hfits ↦ ?_
  cases hpayload : platform.efr32GetPayload frame.psdu with
  | none => simp [slGpIntfIsGpPkt, hpayload]
  | some gpFrameStart =>
    rw [within_slGpIntfIsGpPkt hpayload]
    have hneeded := hfits gpFrameStart hpayload
    have hpos : 0 < frame.neededPayload platform isRxFrame gpFrameStart := by
      unfold neededPayload
      dsimp only
      split_ifs <;> omega
    omega

/-- A data frame with two extended addresses and one PAN id, and a payload of one byte, the control
field of a maintenance frame.  The checksum begins with 0xF3. -/
def longHeaderFrame : GpFrame where
  mPsdu position :=
    List.getD [0x41, 0xCC, 7, 0xFF, 0xFF, 1, 1, 1, 1, 1, 1, 1, 1, 2, 2, 2, 2, 2, 2, 2, 2, 0x0D,
      0xF3, 0] position 0
  mLength := 24

/-- The functions of the stack for frames with such a header. -/
def longHeaderPlatform : GpPlatform where
  efr32GetPayload _ := some 21
  efr32GetFrameVersion _ := 0
  otMacFrameGetSrcAddr psdu := (psdu.drop 13).take 8
  otMacFrameGetDstAddr psdu := (psdu.drop 5).take 8

/-- The byte of the command is one of the checksum. -/
theorem not_staysInside_longHeader :
    ¬ ((longHeaderFrame.StaysInside fun frame ↦ frame.slGpIntfIsGpPkt longHeaderPlatform) ∧
      longHeaderFrame.StaysInside fun frame ↦
        frame.slGpIntfShouldBufferPkt longHeaderPlatform {} [] 0 false) := by
  rintro ⟨-, hinside⟩
  have hcommand := hinside.within 22 (by decide)
  exact absurd hcommand (by decide)

/-! ## The functions of the interface -/

theorem getD_psdu {position : ℕ} (h : position < frame.fcsPosition) :
    frame.psdu.getD position 0 = frame.mPsdu position := by
  simp [psdu, List.getD, h]

theorem le_mLength_psdu {length : ℕ} (hpos : 2 < length) :
    length ≤ GreenPower.mLength frame.psdu ↔ length ≤ frame.mLength := by
  simp only [GreenPower.mLength, psdu, fcsPosition, List.length_map, List.length_range]
  omega

theorem isGpPkt_eq (hpayload : platform.efr32GetPayload frame.psdu = some gpFrameStart)
    (hstart : gpFrameStart < frame.fcsPosition) :
    platform.slGpIntfIsGpPkt frame.psdu = frame.isGpPkt platform gpFrameStart := by
  simp only [GpPlatform.slGpIntfIsGpPkt, hpayload, isGpPkt, getD_psdu hstart,
    le_mLength_psdu (by decide : 2 < 10)]

theorem run_sameSrcId (hfits : gpFrameStart + 6 < frame.fcsPosition) :
    (sameSrcId aTxFrame gpFrameStart).run frame.mPsdu =
      GpPlatform.sameSrcId frame.psdu gpFrameStart aTxFrame := by
  have hbytes (i : ℕ) (hi : i < 4) :
      frame.psdu.getD (gpFrameStart + 2 + i) 0 = frame.mPsdu (gpFrameStart + 2 + i) :=
    getD_psdu (by omega)
  rw [sameSrcId, Reads.run_bind, Reads.run_cellsAt, Reads.run_pure, GpPlatform.sameSrcId, sameBytes,
    Bool.eq_iff_iff, beq_iff_eq, List.map_inj_left, List.all_eq_true]
  refine forall_congr' fun i ↦ ?_
  rw [List.mem_range, beq_iff_eq]
  exact forall_congr' fun hi ↦ by rw [hbytes i hi]

theorem run_sameEui64 (hfits : gpFrameStart + 3 < frame.fcsPosition) :
    (frame.sameEui64 platform aTxFrame gpFrameStart).run frame.mPsdu =
      platform.sameEui64 frame.psdu gpFrameStart aTxFrame := by
  have hendpoint : frame.psdu.getD (gpFrameStart + 2) 0 = frame.mPsdu (gpFrameStart + 2) :=
    getD_psdu (by omega)
  rw [GpPlatform.sameEui64, hendpoint]
  unfold sameEui64
  split
  case isTrue hsame =>
    rw [beq_iff_eq.mpr hsame, Bool.true_and, Reads.run_bind, Reads.run_cellAt, Reads.run_pure]
  case isFalse hdiffers =>
    rw [beq_false_of_ne hdiffers, Bool.false_and, Reads.run_pure]

theorem run_shouldBufferData {commandIndex : ℕ} {compare : Reads ℕ Bool} :
    (shouldBufferData platform gp mTimestamp isRxFrame commandIndex compare).run frame.mPsdu =
      gp.shouldBufferData platform (frame.mPsdu commandIndex) mTimestamp isRxFrame
        (compare.run frame.mPsdu) := by
  simp only [shouldBufferData, Reads.run_bind, Reads.run_cellAt]
  split
  · rw [Reads.run_bind, Reads.run_pure]
  case isFalse hskip =>
    rw [Reads.run_pure, GpInterface.shouldBufferData, GpInterface.shouldBufferData, if_neg hskip,
      if_neg hskip]

/-- A frame whose payload fits is handled as its bytes without the checksum are. -/
theorem run_slGpIntfShouldBufferPkt (hfits : frame.PayloadFits platform isRxFrame) :
    (frame.slGpIntfShouldBufferPkt platform gp aTxFrame mTimestamp isRxFrame).run frame.mPsdu =
      gp.slGpIntfShouldBufferPkt platform aTxFrame frame.psdu mTimestamp isRxFrame := by
  unfold slGpIntfShouldBufferPkt GpInterface.slGpIntfShouldBufferPkt
  cases hpayload : platform.efr32GetPayload frame.psdu with
  | none => rfl
  | some gpFrameStart =>
    have hneeded := hfits gpFrameStart hpayload
    unfold neededPayload at hneeded
    dsimp only at hneeded
    have hstart : gpFrameStart < frame.fcsPosition := by
      split_ifs at hneeded <;> omega
    simp only [Reads.run_bind, Reads.run_cellAt, run_slGpIntfIsGpPkt hpayload, getD_psdu hstart,
      isGpPkt_eq hpayload hstart, le_mLength_psdu (by decide : 2 < 14)]
    by_cases hgp : frame.isGpPkt platform gpFrameStart = false
    · simp only [if_pos hgp, Reads.run_pure]
    simp only [if_neg hgp] at hneeded ⊢
    by_cases hmaintenance : gpNwkFrameTypeMaintenance (frame.mPsdu gpFrameStart) = true
    · simp only [if_pos hmaintenance] at hneeded ⊢
      rw [Reads.run_bind, Reads.run_cellAt, Reads.run_pure, getD_psdu (by omega)]
    simp only [if_neg hmaintenance] at hneeded ⊢
    by_cases hdata : (gpNwkFrameTypeData (frame.mPsdu gpFrameStart) && 14 ≤ frame.mLength) = true
    case neg => simp only [if_neg hdata, Reads.run_pure]
    simp only [if_pos hdata] at hneeded ⊢
    have hextFc : gpFrameStart + 1 < frame.fcsPosition := by
      split_ifs at hneeded <;> omega
    simp only [Reads.run_bind, Reads.run_cellAt, getD_psdu hextFc]
    by_cases hdirection :
        gpNwkUnsecuredDataFrame isRxFrame (frame.mPsdu (gpFrameStart + 1)) = false
    · simp only [if_pos hdirection, Reads.run_pure]
    simp only [if_neg hdirection] at hneeded ⊢
    by_cases hsrcId : frame.mPsdu (gpFrameStart + 1) &&& 0x07 = 0
    · simp only [if_pos hsrcId] at hneeded ⊢
      rw [run_shouldBufferData, run_sameSrcId (by omega), getD_psdu (by omega)]
    simp only [if_neg hsrcId] at hneeded ⊢
    by_cases heui64 : frame.mPsdu (gpFrameStart + 1) &&& 0x07 = 2
    · simp only [if_pos heui64] at hneeded ⊢
      rw [run_shouldBufferData, run_sameEui64 (by omega), getD_psdu (by omega)]
    · simp only [if_neg heui64, Reads.run_pure]

end GpFrame

end OtEfr32.GreenPower
