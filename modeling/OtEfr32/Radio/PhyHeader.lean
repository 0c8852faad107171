import OtEfr32.Radio.RxPortions

/-!
# Frames over the air

A frame leaves the driver as the bytes of a PHY header and of the PSDU without its checksum, through
the transmit FIFO or, if it is an enhanced ACK, through the ACK buffer of RAIL.  The driver at the
other end reads the length out of this header and the PSDU from behind it.
`frame_overTheAir` is the round trip, at every length of a frame and every split of the packet.
-/

namespace OtEfr32.Radio

open Data

/-! ## RAIL -/

/-- `RAIL_TX_FIFO_SIZE`. -/
def railTxFifoSize : ℕ := 128

/-- The functions of RAIL that a frame goes through. -/
structure RailFunctions where
  /-- `sl_rail_write_tx_fifo`, with the contents of the FIFO before and after. -/
  slRailWriteTxFifo : (txFifo data : List UInt8) → (reset : Bool) → List UInt8
  /-- The packet that RAIL sends of the bytes that were written, without the checksum, which is
  RAIL's own. -/
  packetOnAir : (written : List UInt8) → List UInt8
  slRailCopyRxPacket : Memory → RxPacketInfo → List UInt8

/-- What RAIL promises: a write that fits is a write of all the data, RAIL sends as many bytes as
the PHY header says, and copies whole packets. -/
structure RailFunctions.Documented (rail : RailFunctions) (subGhz : Bool) : Prop where
  write_reset : ∀ txFifo data, data.length ≤ railTxFifoSize →
    rail.slRailWriteTxFifo txFifo data true = data
  write_behind : ∀ txFifo data, txFifo.length + data.length ≤ railTxFifoSize →
    rail.slRailWriteTxFifo txFifo data false = txFifo ++ data
  sends : ∀ written, encodedLength subGhz written + phyHeaderSize subGhz - 2 ≤ written.length →
    rail.packetOnAir written =
      written.take (encodedLength subGhz written + phyHeaderSize subGhz - 2)
  copies : CopiesPackets rail.slRailCopyRxPacket

/-! ## The sender -/

/-- `PHRByte1`: a checksum of two bytes, and whitening. -/
def phrByte1 : UInt8 := 0x08 ||| 0x10

section Source

variable (rail : RailFunctions) (subGhz : Bool) (memory : Memory)

/-- The writes of `txCurrentPacket` to the transmit FIFO, for a frame with its PSDU at `mPsdu`. -/
def writeCurrentPacket (txFifo : List UInt8) (mLength : UInt16) (mPsdu : ℕ) : List UInt8 :=
  let frameLength := mLength.toUInt8
  let txFifo :=
    if phyHeaderSize subGhz = 1 then rail.slRailWriteTxFifo txFifo [frameLength] true
    else
      let phrByte2 := UInt8.ofNat (reversedByte frameLength)
      rail.slRailWriteTxFifo (rail.slRailWriteTxFifo txFifo [phrByte1] true) [phrByte2] false
  -- the count is an `uint16_t`, `frameLength - 2` an `int`
  let count := (frameLength.toNat + 2 ^ 16 - 2) % 2 ^ 16
  rail.slRailWriteTxFifo txFifo (memory.read mPsdu count) false

/-- What `writeIeee802154EnhancedAck` gives to `sl_rail_ieee802154_write_enh_ack`: the first
`mLength` bytes of `enhAckPsdu`, which holds the PSDU at `mPsdu` behind the PHY header. -/
def writeEnhAckPsdu (mLength : UInt16) (mPsdu : ℕ) : List UInt8 :=
  let header :=
    if phyHeaderSize subGhz = 2 then [phrByte1, UInt8.ofNat (reversedByte mLength.toUInt8)]
    else [mLength.toUInt8]
  (header ++ memory.read mPsdu (127 - phyHeaderSize subGhz)).take mLength.toNat

end Source

/-- The two ways into the air. -/
inductive Outgoing where
  /-- The transmit FIFO, which may still hold another frame. -/
  | currentPacket (txFifo : List UInt8)
  | enhAck
  deriving DecidableEq, Repr

/-- The bytes that RAIL gets of a frame. -/
def Outgoing.written (rail : RailFunctions) (subGhz : Bool) (memory : Memory) (mLength : UInt16)
    (mPsdu : ℕ) : Outgoing → List UInt8
  | .currentPacket txFifo => writeCurrentPacket rail subGhz memory txFifo mLength mPsdu
  | .enhAck => writeEnhAckPsdu subGhz memory mLength mPsdu

/-! ## The receiver -/

/-- A packet in the receive FIFO, with the bits that `dataRequestCommandCallback` and
`writeIeee802154EnhancedAck` may set in the first byte of its PSDU. -/
def markPacket (subGhz : Bool) (marks : UInt8) (packet : List UInt8) : List UInt8 :=
  packet.modify (phyHeaderSize subGhz) (· ||| marks)

/-- What `packetReceivedCallback` learns about a packet from RAIL, the queue and the pool. -/
structure RxCircumstances where
  /-- The packet handle is valid, and the packet was received. -/
  ready : Bool := true
  /-- `sl_rail_get_rx_packet_details` succeeds. -/
  detailsOk : Bool := true
  isAck : Bool := false
  sPromiscuous : Bool := false
  /-- `validatePacketTimestamp`. -/
  timestampValid : Bool := true
  queueIsFull : Bool := false
  /-- `sl_memory_pool_alloc` finds a block. -/
  blockAllocated : Bool := true
  isRxPacketQueued : Bool := true

/-- Where `packetReceivedCallback` leaves a packet. -/
inductive StoredPacket where
  /-- In `sReceiveAck.frame`. -/
  | sReceiveAck (mLength : ℕ) (mPsdu : List UInt8)
  /-- In a block that is added to `sRxPacketQueue`. -/
  | sRxPacketQueue (length : UInt8) (psdu : List UInt8)
  | dropped
  deriving DecidableEq, Repr

namespace RxCircumstances

variable (circumstances : RxCircumstances)

/-- The checks of `packetReceivedCallback` on a packet that is not an ACK. -/
def acceptsData (length : ℕ) : Bool :=
  (circumstances.sPromiscuous || decide (5 ≤ length)) && circumstances.timestampValid &&
    !circumstances.queueIsFull && circumstances.blockAllocated && circumstances.isRxPacketQueued

/-- `packetReceivedCallback`, with `none` when it reads through a null pointer.  An ACK is stored
before the driver looks at its sequence number and its time stamp. -/
def packetReceivedCallback (slRailCopyRxPacket : Memory → RxPacketInfo → List UInt8)
    (subGhz multipan : Bool) (memory : Memory) (packetInfo : RxPacketInfo) : Option StoredPacket :=
  if circumstances.ready then
    match validatePacketDetails subGhz multipan memory packetInfo circumstances.detailsOk 0 with
    | none => none
    | some (false, _) => some .dropped
    | some (true, length) =>
      let (error, packetInfo) := skipRxPacketLengthBytes subGhz packetInfo
      if error = .none then
        ((macFcfPointer packetInfo).map memory).map fun macFcf ↦
          if circumstances.isAck then
            if 4 ≤ length ∧ macFcf &&& 0x07 = 0x02 then
              .sReceiveAck length (slRailCopyRxPacket memory packetInfo)
            else .dropped
          else if circumstances.acceptsData length then
            .sRxPacketQueue (UInt8.ofNat length) (slRailCopyRxPacket memory packetInfo)
          else .dropped
      else some .dropped
  else some .dropped

end RxCircumstances

/-- The PSDU that `prepareNextRxPacketforCb` makes of a block's: the first byte without
`IEEE802154_SECURED_OUTGOING_ENHANCED_ACK` and `IEEE802154_FRAME_PENDING_SET_IN_OUTGOING_ACK`. -/
def clearMarks (psdu : List UInt8) : List UInt8 := psdu.modify 0 fun macFcf ↦
  macFcf &&& ~~~0x04 &&& ~~~0x80

/-! ## The round trip -/

/-- To reverse the bits of a byte twice changes nothing. -/
theorem reverse_reversedByte (byte : UInt8) :
    (UInt8.ofNat (reversedByte byte)).toBitVec.reverse.toNat = byte.toNat := by
  have hbyte : (UInt8.ofNat (reversedByte byte)).toBitVec = byte.toBitVec.reverse := by
    rw [reversedByte_eq]
    apply BitVec.eq_of_toNat_eq
    have hlt : byte.toBitVec.reverse.toNat < 2 ^ 8 := BitVec.isLt _
    exact Nat.mod_eq_of_lt hlt
  rw [hbyte, BitVec.reverse_reverse_eq]
  rfl

/-- The PHY header of a frame. -/
def phyHeader (subGhz : Bool) (frameLength : UInt8) : List UInt8 :=
  if subGhz then [phrByte1, UInt8.ofNat (reversedByte frameLength)] else [frameLength]

theorem length_phyHeader (subGhz : Bool) (frameLength : UInt8) :
    (phyHeader subGhz frameLength).length = phyHeaderSize subGhz := by
  cases subGhz <;> rfl

theorem encodedLength_phyHeader (subGhz : Bool) (frameLength : UInt8) (psdu : List UInt8) :
    encodedLength subGhz (phyHeader subGhz frameLength ++ psdu) = frameLength.toNat := by
  cases subGhz with
  | false => rfl
  | true => exact reverse_reversedByte frameLength

/-- The mark goes to the first byte behind the PHY header. -/
theorem markPacket_phyHeader (subGhz : Bool) (frameLength marks : UInt8) (psdu : List UInt8) :
    markPacket subGhz marks (phyHeader subGhz frameLength ++ psdu) =
      phyHeader subGhz frameLength ++ psdu.modify 0 (· ||| marks) := by
  rw [markPacket, ← length_phyHeader subGhz frameLength, ← Nat.add_zero (phyHeader _ _).length]
  exact List.modifyTailIdx_add _ 0 _ _

/-- What the driver marked in the first byte is gone when it hands the frame up. -/
theorem clearMarks_modify {marks : UInt8} (hmarks : marks &&& 0x7B = 0) (psdu : List UInt8) :
    clearMarks (psdu.modify 0 (· ||| marks)) = clearMarks psdu := by
  have hkept : ∀ byte : UInt8, byte &&& ~~~0x04 &&& ~~~0x80 = byte &&& 0x7B := fun byte ↦
    UInt8.and_assoc byte _ _
  cases psdu with
  | nil => rfl
  | cons macFcf rest =>
    have hmasked : (macFcf ||| marks) &&& 0x7B = macFcf &&& 0x7B ||| marks &&& 0x7B :=
      UInt8.eq_of_toBitVec_eq BitVec.and_or_distrib_right
    simp only [clearMarks, List.modify_zero_cons, hkept]
    rw [hmasked, hmarks, UInt8.or_zero]

section RoundTrip

variable {rail : RailFunctions} {subGhz multipan : Bool} {memory : Memory} {mLength : UInt16}
  {mPsdu : ℕ}

/-- The whole frame fits into the FIFO, whatever it held. -/
theorem writeCurrentPacket_eq (hrail : rail.Documented subGhz) (txFifo : List UInt8)
    (hmin : 4 ≤ mLength.toNat) (hmax : mLength.toNat ≤ 127) :
    writeCurrentPacket rail subGhz memory txFifo mLength mPsdu =
      phyHeader subGhz mLength.toUInt8 ++ memory.read mPsdu (mLength.toNat - 2) := by
  have hbyte : mLength.toUInt8.toNat = mLength.toNat := by
    rw [UInt16.toNat_toUInt8]
    omega
  have hcount : (mLength.toNat + 2 ^ 16 - 2) % 2 ^ 16 = mLength.toNat - 2 := by omega
  have hheader : (if phyHeaderSize subGhz = 1 then
        rail.slRailWriteTxFifo txFifo [mLength.toUInt8] true
      else rail.slRailWriteTxFifo (rail.slRailWriteTxFifo txFifo [phrByte1] true)
        [UInt8.ofNat (reversedByte mLength.toUInt8)] false) = phyHeader subGhz mLength.toUInt8 := by
    cases subGhz with
    | false => exact hrail.write_reset txFifo [mLength.toUInt8] (by decide : 1 ≤ 128)
    | true =>
      rw [if_neg (by decide), hrail.write_reset txFifo [phrByte1] (by decide : 1 ≤ 128)]
      exact hrail.write_behind [phrByte1] [_] (by decide : 2 ≤ 128)
  have hsize : phyHeaderSize subGhz ≤ 2 := by cases subGhz <;> decide
  simp only [writeCurrentPacket]
  rw [hheader, hbyte, hcount]
  apply hrail.write_behind
  rw [length_phyHeader, Memory.length_read, railTxFifoSize]
  omega

/-- RAIL sends the PHY header and the PSDU without its checksum, on either way. -/
theorem packetOnAir_eq (hrail : rail.Documented subGhz) (outgoing : Outgoing)
    (hmin : 4 ≤ mLength.toNat) (hmax : mLength.toNat ≤ 127) :
    rail.packetOnAir (outgoing.written rail subGhz memory mLength mPsdu) =
      phyHeader subGhz mLength.toUInt8 ++ memory.read mPsdu (mLength.toNat - 2) := by
  have hbyte : mLength.toUInt8.toNat = mLength.toNat := by
    rw [UInt16.toNat_toUInt8]
    omega
  have hsize : phyHeaderSize subGhz = 1 ∨ phyHeaderSize subGhz = 2 := by
    cases subGhz <;> decide
  have hheader := length_phyHeader subGhz mLength.toUInt8
  -- What is behind the PSDU without its checksum stays away.
  have hsent : ∀ count, mLength.toNat - 2 ≤ count →
      rail.packetOnAir (phyHeader subGhz mLength.toUInt8 ++ memory.read mPsdu count) =
        phyHeader subGhz mLength.toUInt8 ++ memory.read mPsdu (mLength.toNat - 2) := by
    intro count hcount
    have hlength : mLength.toNat + phyHeaderSize subGhz - 2 =
        (phyHeader subGhz mLength.toUInt8).length + (mLength.toNat - 2) := by omega
    have hencoded : encodedLength subGhz
        (phyHeader subGhz mLength.toUInt8 ++ memory.read mPsdu count) = mLength.toNat := by
      rw [encodedLength_phyHeader, hbyte]
    have henough : mLength.toNat + phyHeaderSize subGhz - 2 ≤
        (phyHeader subGhz mLength.toUInt8 ++ memory.read mPsdu count).length := by
      rw [List.length_append, Memory.length_read]
      omega
    rw [← hencoded] at henough
    rw [hrail.sends _ henough, hencoded, hlength, List.take_length_add_append, Memory.take_read,
      Nat.min_eq_left hcount]
  cases outgoing with
  | currentPacket txFifo =>
    rw [Outgoing.written, writeCurrentPacket_eq hrail txFifo hmin hmax]
    exact hsent _ (Nat.le_refl _)
  | enhAck =>
    have hwritten : writeEnhAckPsdu subGhz memory mLength mPsdu =
        phyHeader subGhz mLength.toUInt8 ++
          memory.read mPsdu (mLength.toNat - phyHeaderSize subGhz) := by
      have hphr : (if phyHeaderSize subGhz = 2 then
            [phrByte1, UInt8.ofNat (reversedByte mLength.toUInt8)]
          else [mLength.toUInt8]) = phyHeader subGhz mLength.toUInt8 := by
        cases subGhz <;> rfl
      have hlength : mLength.toNat = (phyHeader subGhz mLength.toUInt8).length +
          (mLength.toNat - phyHeaderSize subGhz) := by omega
      rw [writeEnhAckPsdu, hphr, hlength, List.take_length_add_append, Memory.take_read, ← hlength]
      congr 2
      omega
    rw [Outgoing.written, hwritten]
    exact hsent _ (by omega)

variable {circumstances : RxCircumstances} {rxMemory : Memory} {info : RxPacketInfo}

/-- What becomes of a packet that begins with the PHY header of a frame. -/
theorem packetReceivedCallback_eq {slRailCopyRxPacket : Memory → RxPacketInfo → List UInt8}
    (hcopy : CopiesPackets slRailCopyRxPacket) {stored : List UInt8}
    (hmin : 4 ≤ mLength.toNat) (hmax : mLength.toNat ≤ 127)
    (hstored : stored.length = mLength.toNat - 2)
    (hinfo : info.Describes rxMemory (phyHeader subGhz mLength.toUInt8 ++ stored))
    (hfirst : 1 ≤ info.firstPortionBytes)
    (hmask : isFilterMaskValid multipan info.filterMask = true)
    (hready : circumstances.ready = true) (hdetails : circumstances.detailsOk = true) :
    circumstances.packetReceivedCallback slRailCopyRxPacket subGhz multipan rxMemory info =
      some (
        if circumstances.isAck then
          if stored.headD 0 &&& 0x07 = 0x02 then .sReceiveAck mLength.toNat stored else .dropped
        else if circumstances.acceptsData mLength.toNat then
          .sRxPacketQueue mLength.toUInt8 stored
        else .dropped) := by
  have hbyte : mLength.toUInt8.toNat = mLength.toNat := by
    rw [UInt16.toNat_toUInt8]
    omega
  have hsize : phyHeaderSize subGhz ≤ 2 := by cases subGhz <;> decide
  have hheader := length_phyHeader subGhz mLength.toUInt8
  generalize hpacket : phyHeader subGhz mLength.toUInt8 ++ stored = packet at hinfo
  have hlength : packet.length = phyHeaderSize subGhz + (mLength.toNat - 2) := by
    rw [← hpacket, List.length_append, hheader, hstored]
  have hencoded : encodedLength subGhz packet = mLength.toNat := by
    rw [← hpacket, encodedLength_phyHeader, hbyte]
  have hdropped : packet.drop (phyHeaderSize subGhz) = stored := by
    rw [← hpacket, ← hheader, List.drop_left]
  have hvalid : validatePacketDetails subGhz multipan rxMemory info true 0 =
      some (true, mLength.toNat) := by
    rw [validatePacketDetails_eq hinfo hfirst (by omega) (by omega) hmask, hencoded]
    congr 2
    · rw [decide_eq_true_iff]
      omega
    · omega
  obtain ⟨herror, hskipped⟩ :=
    skipRxPacketLengthBytes_describes hinfo hfirst (by omega : phyHeaderSize subGhz + 2 ≤ _)
      (by omega)
  rw [hdropped] at hskipped
  have hmacFcf : (macFcfPointer (skipRxPacketLengthBytes subGhz info).2).map rxMemory =
      some (stored.headD 0) := by
    rw [hskipped.macFcfPointer (by omega)]
    cases stored with
    | nil =>
      rw [List.length_nil] at hstored
      omega
    | cons macFcf rest => rfl
  rw [RxCircumstances.packetReceivedCallback, if_pos hready, hdetails, hvalid]
  simp only [herror, if_true, hmacFcf, Option.map_some, hcopy _ _ _ hskipped, hmin, true_and]
  rfl

/-- A frame of any length that 802.15.4 has arrives with its length and all of its bytes but the
checksum, however RAIL splits the packet at the other end: an ACK in `sReceiveAck`, any other frame
that passes the checks in the queue.  What the driver marked meanwhile is gone when it hands the
frame up. -/
theorem frame_overTheAir (hrail : rail.Documented subGhz) (outgoing : Outgoing)
    (hmin : 4 ≤ mLength.toNat) (hmax : mLength.toNat ≤ 127) {psdu : List UInt8}
    (hpsdu : memory.read mPsdu (mLength.toNat - 2) = psdu) {marks : UInt8}
    (hmarks : marks &&& 0x7B = 0)
    (hinfo : info.Describes rxMemory (markPacket subGhz marks
      (rail.packetOnAir (outgoing.written rail subGhz memory mLength mPsdu))))
    (hfirst : 1 ≤ info.firstPortionBytes)
    (hmask : isFilterMaskValid multipan info.filterMask = true)
    (hready : circumstances.ready = true) (hdetails : circumstances.detailsOk = true) :
    ∃ stored, stored = psdu.modify 0 (· ||| marks) ∧ clearMarks stored = clearMarks psdu ∧
      circumstances.packetReceivedCallback rail.slRailCopyRxPacket subGhz multipan rxMemory info =
        some (
          if circumstances.isAck then
            if stored.headD 0 &&& 0x07 = 0x02 then .sReceiveAck mLength.toNat stored else .dropped
          else if circumstances.acceptsData mLength.toNat then
            .sRxPacketQueue mLength.toUInt8 stored
          else .dropped) := by
  subst hpsdu
  rw [packetOnAir_eq hrail outgoing hmin hmax, markPacket_phyHeader] at hinfo
  refine ⟨_, rfl, clearMarks_modify hmarks _, ?_⟩
  apply packetReceivedCallback_eq hrail.copies hmin hmax _ hinfo hfirst hmask hready hdetails
  rw [List.length_modify, Memory.length_read]

end RoundTrip

/-- A RAIL that writes what fits. -/
def fittingRail (subGhz : Bool) : RailFunctions where
  slRailWriteTxFifo txFifo data reset :=
    let txFifo := if reset then [] else txFifo
    txFifo ++ data.take (railTxFifoSize - txFifo.length)
  packetOnAir written := written.take (encodedLength subGhz written + phyHeaderSize subGhz - 2)
  slRailCopyRxPacket := copyPortions

theorem fittingRail_documented (subGhz : Bool) : (fittingRail subGhz).Documented subGhz where
  write_reset _ data hfits := List.take_of_length_le hfits
  write_behind txFifo data hfits := by
    have hle : data.length ≤ railTxFifoSize - txFifo.length := by omega
    exact congrArg (txFifo ++ ·) (List.take_of_length_le hle)
  sends _ _ := rfl
  copies := copyPortions_copiesPackets

/-- The memory of a sender with the six bytes of an enhanced ACK at address 40. -/
def ackMemory : Memory := Memory.write (fun _ ↦ 0) 40 [0x02, 0x20, 0x07, 0x05, 0xAA, 0xBB]

/-- The ACK in a sub-GHz build, in two portions that are split within the PHY header. -/
def splitAck : RxPacketInfo where
  packetBytes := 6
  firstPortionBytes := 1
  firstPortionData := 511
  lastPortionData := some 0
  filterMask := 0x11

theorem frame_overTheAir_splitAck :
    ∃ stored, stored = [0x02, 0x20, 0x07, 0x05] ∧
      clearMarks stored = clearMarks [0x02, 0x20, 0x07, 0x05] ∧
      RxCircumstances.packetReceivedCallback { isAck := true } copyPortions true true
        (Memory.write (Memory.write (fun _ ↦ 0) 511 [0x18]) 0 [0x60, 0x02, 0x20, 0x07, 0x05])
        splitAck = some (.sReceiveAck 6 stored) := by
  have hrail := fittingRail_documented true
  have hpacket : markPacket true 0 ((fittingRail true).packetOnAir
      (Outgoing.enhAck.written (fittingRail true) true ackMemory 6 40)) =
      [0x18, 0x60, 0x02, 0x20, 0x07, 0x05] := by
    rw [packetOnAir_eq hrail .enhAck (by decide) (by decide)]
    decide +kernel
  have hinfo : splitAck.Describes
      (Memory.write (Memory.write (fun _ ↦ 0) 511 [0x18]) 0 [0x60, 0x02, 0x20, 0x07, 0x05])
      (markPacket true 0 ((fittingRail true).packetOnAir
        (Outgoing.enhAck.written (fittingRail true) true ackMemory 6 40))) := by
    rw [hpacket]
    exact ⟨rfl, by decide, by decide, fun _ ↦ ⟨0, rfl, by decide⟩⟩
  obtain ⟨stored, hstored, hclear, hreceived⟩ :=
    frame_overTheAir hrail .enhAck (by decide) (by decide)
      (by decide : ackMemory.read 40 (6 - 2) = [0x02, 0x20, 0x07, 0x05]) (by decide) hinfo
      (by decide) (by decide : isFilterMaskValid true splitAck.filterMask = true)
      (rfl : RxCircumstances.ready { isAck := true } = true) rfl
  refine ⟨stored, hstored, hclear, hreceived.trans ?_⟩
  subst hstored
  rfl

end OtEfr32.Radio
