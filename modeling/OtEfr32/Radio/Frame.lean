import Mathlib.Data.Int.Notation
import OtEfr32.Radio.Config

/-!
# Frames

Transmitted frames as the stack hands them over, and received packets as RAIL holds them and as the
driver queues them.  A transmitted frame keeps the auxiliary security header of its PSDU parsed: the
fields stand for what `otMacFrameIsSecurityEnabled` and its siblings read and write.
-/

namespace OtEfr32.Radio

/-- Key material: `otMacKeyMaterial`. -/
abbrev MacKey := ℕ

/-- `IEEE802154_FRAME_FLAG_ACK_REQUIRED`, a bit of the first byte of a PSDU. -/
def ackRequiredIn (psdu : List ℕ) : Bool := psdu.getD 0 0 &&& 0x20 != 0

/-- The frame type bits of a PSDU are `IEEE802154_FRAME_TYPE_ACK`. -/
def isAckIn (psdu : List ℕ) : Bool := psdu.getD 0 0 &&& 0x7 == 0x2

/-- The byte of a PSDU at `IEEE802154_DSN_OFFSET`. -/
def dsnIn (psdu : List ℕ) : ℕ := psdu.getD 2 0

/-- The auxiliary security header, and the security part of `mTxInfo`. -/
structure FrameSecurity where
  /-- `otMacFrameIsSecurityEnabled`. -/
  isSecurityEnabled : Bool := false
  /-- `otMacFrameIsKeyIdMode1`. -/
  isKeyIdMode1 : Bool := true
  keyId : ℕ := 0
  frameCounter : ℕ := 0
  mIsHeaderUpdated : Bool := false
  mIsSecurityProcessed : Bool := false
  /-- History: which assignment of a frame counter gave the frame its counter. -/
  assignment : ℕ := 0
  /-- History: how often the counter had been reset at that assignment. -/
  epoch : ℕ := 0
  deriving DecidableEq, Repr

/-- `otRadioFrame` of a transmit request. -/
structure OtRadioFrame where
  mPsdu : List ℕ
  mChannel : ℕ
  mIsARetx : Bool := false
  mCsmaCaEnabled : Bool := true
  mTxDelay : ℕ := 0
  mTxDelayBaseTime : ℕ := 0
  mSecurity : FrameSecurity := {}
  deriving DecidableEq, Repr

/-- `otMacFrameIsAck`. -/
def OtRadioFrame.isAck (aFrame : OtRadioFrame) : Bool := isAckIn aFrame.mPsdu

/-- `radioFrame`: a transmit buffer of the driver. -/
structure RadioFrame where
  frame : OtRadioFrame
  iid : ℕ
  currentRadioTxPriority : ℕ
  deriving DecidableEq, Repr

/-- A packet that RAIL has received, and the outcome of the checks made on it. -/
structure RxPacket where
  psdu : List ℕ
  filterMask : ℕ := 0x11
  channel : ℕ := 11
  lqi : ℕ := 0
  rssi : ℤ := 0
  isAck : Bool := false
  /-- The packet is ready, and `validatePacketDetails` and `skipRxPacketLengthBytes` succeed. -/
  valid : Bool := true
  /-- `validatePacketTimestamp`. -/
  timestampValid : Bool := true
  deriving DecidableEq, Repr

/-- `rxBuffer`: a received packet that waits for the main loop. -/
structure RxBuffer where
  psdu : List ℕ
  channel : ℕ
  lqi : ℕ
  rssi : ℤ
  iid : ℕ
  deriving DecidableEq, Repr

end OtEfr32.Radio
