import OtEfr32.Crypto.CcmOpening
import OtEfr32.Packet.HardwarePaths

/-!
# Secured frames at the receiver

`efr32PlatProcessTransmitAesCcm` is one half of a format: what it leaves in a frame is for a
receiver that opens the frame with CCM*, by the security level in its header.  `recoverable_iff`
says which frames reach this receiver as they were before they were secured.
-/

namespace OtEfr32.Packet

open OtEfr32.Crypto OtEfr32.Data

namespace SecuredFrame

variable (frame : SecuredFrame) (psdu : List UInt8)

/-- The header of a PSDU of this kind. -/
def headerOf : List UInt8 := psdu.take frame.lengths.mHeader.toNat

/-- The payload field and the integrity code of a PSDU of this kind. -/
def securedOf : CcmStar where
  payload := (psdu.drop frame.lengths.mHeader.toNat).take frame.lengths.mPayload.toNat
  mic := ((psdu.drop frame.lengths.mHeader.toNat).drop frame.lengths.mPayload.toNat).take
    frame.securityLevel.micLength

variable (memory : Memory) (address : ℕ) {secured : CcmStar}

theorem headerOf_bytesWith :
    frame.headerOf (frame.bytesWith memory address secured) = frame.header memory address := by
  have hheader : (frame.header memory address).length = frame.lengths.mHeader.toNat :=
    Memory.length_read ..
  rw [headerOf, bytesWith, List.append_assoc, List.append_assoc, ← hheader, List.take_left]

theorem securedOf_bytesWith (hpayload : secured.payload.length = frame.lengths.mPayload.toNat)
    (hmic : secured.mic.length = frame.securityLevel.micLength) :
    frame.securedOf (frame.bytesWith memory address secured) = secured := by
  have hheader : (frame.header memory address).length = frame.lengths.mHeader.toNat :=
    Memory.length_read ..
  rw [securedOf, bytesWith, List.append_assoc, List.append_assoc, ← hheader, List.drop_left,
    ← hpayload, List.take_left, List.drop_left, ← hmic, List.take_left]

end SecuredFrame

section Receiver

variable (platform : CcmPlatform) (frame : SecuredFrame) (frameCounter : UInt32) (key : Block)
  (aExtAddress : UInt64)

/-- What a receiver with the key makes of a PSDU of this kind. -/
def unsecure (psdu : List UInt8) : Option (List UInt8) :=
  ccmStarOpen (platform.aes key) frame.securityLevel.encrypts frame.securityLevel.micLength 2
    (frameNonce platform frame frameCounter aExtAddress) (frame.headerOf psdu)
    (frame.securedOf psdu)

/-- The receiver takes the PSDUs that CCM* makes of a payload behind their header, and no others. -/
theorem unsecure_eq_some_iff {psdu payload : List UInt8} :
    unsecure platform frame frameCounter key aExtAddress psdu = some payload ↔
      frame.securedOf psdu = ccmStar (platform.aes key) frame.securityLevel.encrypts
        frame.securityLevel.micLength 2 (frameNonce platform frame frameCounter aExtAddress)
        (frame.headerOf psdu) payload :=
  ccmStarOpen_eq_some_iff ..

end Receiver

/-- Whatever hardware secures a frame of this kind, the receiver gets the payload that it had. -/
def Recoverable (frame : SecuredFrame) : Prop :=
  ∀ platform : CcmPlatform, platform.ComputesCcm →
    ∀ (memory : Memory) (psdu : ℕ) (frameCounter : UInt32) (key : Block) (processed : Bool)
      (aExtAddress : UInt64) (path : HardwarePath),
      (securedBytes platform frame memory psdu frameCounter key processed aExtAddress path).bind
          (unsecure platform frame frameCounter key aExtAddress) =
        some (frame.payload memory psdu)

variable {frame : SecuredFrame}

section Opening

variable {platform : CcmPlatform} {memory : Memory} {psdu : ℕ} {frameCounter : UInt32}
  {key : Block} {aExtAddress : UInt64} {encrypts : Bool}

/-- The receiver finds in a secured frame what CCM* has made, at whichever kind of level. -/
theorem securedOf_ccmStar {nonce header : List UInt8} :
    frame.securedOf (frame.bytesWith memory psdu (ccmStar (platform.aes key) encrypts
        frame.securityLevel.micLength 2 nonce header (frame.payload memory psdu))) =
      ccmStar (platform.aes key) encrypts frame.securityLevel.micLength 2 nonce header
        (frame.payload memory psdu) := by
  have hpayload : (frame.payload memory psdu).length = frame.lengths.mPayload.toNat :=
    Memory.length_read ..
  have hmic := frame.tagLength_valid.2.2
  apply SecuredFrame.securedOf_bytesWith
  · cases encrypts with
    | true => rw [ccmStar, if_pos rfl, Ccm.length_ciphertext, hpayload]
    | false => exact hpayload
  · cases encrypts with
    | true => exact Ccm.length_tag _ _ _ _ _ _ hmic
    | false => exact Ccm.length_tag _ _ _ _ _ _ hmic

/-- The PSDU of CCM* opens. -/
theorem unsecure_ccmStarBytes :
    unsecure platform frame frameCounter key aExtAddress
        (ccmStarBytes frame memory psdu frameCounter key aExtAddress platform) =
      some (frame.payload memory psdu) := by
  rw [unsecure_eq_some_iff, ccmStarBytes, securedOf_ccmStar, SecuredFrame.headerOf_bytesWith]

/-- A payload that has been encrypted at a level that does not encrypt comes out as it was sent only
if the key stream is zero all along it. -/
theorem keyStream_eq_zero_of_recovered {packetSecurityHandler : TxSecurityProcessing}
    {processed : Bool} (hclear : frame.securityLevel.encrypts = false)
    (hrecovered : (securedBytes platform frame memory psdu frameCounter key processed aExtAddress
        (.radioAes packetSecurityHandler)).bind
          (unsecure platform frame frameCounter key aExtAddress) =
      some (frame.payload memory psdu)) :
    ∀ j < frame.lengths.mPayload.toNat, Ccm.keyStream (platform.aes key) 2
      (frameNonce platform frame frameCounter aExtAddress) j = 0 := by
  rw [securedBytes_radioAes, Option.bind_some, unsecure_eq_some_iff, securedOf_ccmStar,
    hclear] at hrecovered
  have hpayload : Ccm.ciphertext (platform.aes key) 2
      (frameNonce platform frame frameCounter aExtAddress) (frame.payload memory psdu) =
        frame.payload memory psdu := congrArg CcmStar.payload hrecovered
  have hzero := (Ccm.ciphertext_eq_self_iff _ _ _ _).mp hpayload
  rwa [SecuredFrame.payload, Memory.length_read] at hzero

end Opening

/-- A secured frame reaches the receiver exactly if its level encrypts or it has no payload. -/
theorem recoverable_iff (frame : SecuredFrame) :
    Recoverable frame ↔ frame.securityLevel.encrypts = true ∨ frame.lengths.mPayload = 0 := by
  constructor
  · intro hrecoverable
    by_contra hother
    rw [not_or, Bool.not_eq_true] at hother
    obtain ⟨hclear, hpayload⟩ := hother
    have hpos : 0 < frame.lengths.mPayload.toNat :=
      UInt16.lt_iff_toNat_lt.mp (UInt16.pos_iff_ne_zero.mpr hpayload)
    have hrecovered := hrecoverable (platformOf fun _ ↦ incrementBytes)
      (platformOf_computesCcm _) (fun _ ↦ 0) 0 0 (Block.ofBytes []) false 0 (.radioAes zeroStack)
    have hzero := keyStream_eq_zero_of_recovered hclear hrecovered 0 hpos
    have htwo : (2 : UInt8) = 0 := (keyStream_incrementBytes _).symm.trans hzero
    exact absurd htwo (by decide)
  · intro hlevel platform hccm memory psdu frameCounter key processed aExtAddress path
    have hagree : PathsAgree frame := by
      rcases hlevel with hencrypts | hempty
      · exact pathsAgree_of_encrypts hencrypts
      · exact pathsAgree_of_payload_nil hempty
    rw [hagree platform hccm, Option.bind_some, unsecure_ccmStarBytes]

end OtEfr32.Packet
