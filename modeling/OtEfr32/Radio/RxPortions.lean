import OtEfr32.Data.Memory
import OtEfr32.Platform.Error
import Mathlib.Algebra.Group.Nat.Defs

/-!
# Packets in two portions

RAIL hands out a received packet where it lies in the receive FIFO: a first portion, and a last
portion if the packet wraps around the end of the FIFO.  `Describes` says that the two portions are
those of a packet.  The functions that look into a packet in place treat a split within and right
behind the PHY header on their own; `splitPacket_readsLikePacket` says what they see.
-/

namespace OtEfr32.Radio

open Data

/-- `sl_rail_rx_packet_info_t`, with addresses for pointers, of which the first is not `NULL`. -/
structure RxPacketInfo where
  packetBytes : ℕ
  firstPortionBytes : ℕ
  firstPortionData : ℕ
  lastPortionData : Option ℕ
  filterMask : UInt8 := 0
  deriving DecidableEq, Repr

/-- The portions are those of `packet`.  Without a last portion its pointer may be anything. -/
structure RxPacketInfo.Describes (memory : Memory) (info : RxPacketInfo) (packet : List UInt8) :
    Prop where
  packet_bytes : info.packetBytes = packet.length
  first_portion_le : info.firstPortionBytes ≤ packet.length
  first_portion : memory.read info.firstPortionData info.firstPortionBytes =
    packet.take info.firstPortionBytes
  last_portion : info.firstPortionBytes < packet.length →
    ∃ lastPortionData, info.lastPortionData = some lastPortionData ∧
      memory.read lastPortionData (packet.length - info.firstPortionBytes) =
        packet.drop info.firstPortionBytes

/-- What `sl_rail_copy_rx_packet` stores: the whole packet, in one piece. -/
def CopiesPackets (slRailCopyRxPacket : Memory → RxPacketInfo → List UInt8) : Prop :=
  ∀ memory info packet, info.Describes memory packet → slRailCopyRxPacket memory info = packet

/-- `PHY_HEADER_SIZE`, by `RADIO_CONFIG_SUBGHZ_SUPPORT`. -/
def phyHeaderSize (subGhz : Bool) : ℕ := if subGhz then 2 else 1

/-- `__RBIT(byte) >> 24`. -/
def reversedByte (byte : UInt8) : ℕ := ((byte.toBitVec.setWidth 32).reverse >>> 24).toNat

/-- `isFilterMaskValid`. -/
def isFilterMaskValid (multipan : Bool) (mask : UInt8) : Bool :=
  if multipan then
    (mask &&& 0x01) != 0 || (mask &&& 0x10) != 0 ||
      ((mask &&& 0x0E) &&& ((mask &&& 0xF0) >>> (4 : UInt8))) != 0 ||
      (mask &&& 0x0F) == 0 || (mask &&& 0xF0) == 0
  else true

section Source

variable (slRailCopyRxPacket : Memory → RxPacketInfo → List UInt8) (subGhz multipan : Bool)
  (memory : Memory) (packetInfo : RxPacketInfo)

/-- `readInitialPacketData`, behind its call of `sl_rail_get_rx_incoming_packet_info`: the number it
returns and what it stores in the buffer. -/
def readInitialPacketData (expectedDataBytesMax expectedDataBytesMin : UInt8) : ℕ × List UInt8 :=
  if packetInfo.packetBytes < expectedDataBytesMin.toNat then (0, [])
  else
    let adjustedPacketInfo :=
      if expectedDataBytesMax.toNat < packetInfo.packetBytes then
        let adjustedPacketInfo := { packetInfo with packetBytes := expectedDataBytesMax.toNat }
        if expectedDataBytesMax.toNat ≤ packetInfo.firstPortionBytes then
          { adjustedPacketInfo with
            firstPortionBytes := expectedDataBytesMax.toNat
            lastPortionData := none }
        else adjustedPacketInfo
      else packetInfo
    (adjustedPacketInfo.packetBytes % 2 ^ 8, slRailCopyRxPacket memory adjustedPacketInfo)

/-- The length in the PHY header as `validatePacketDetails` reads it, with `none` when it reads
through a null pointer. -/
def headerLength : Option ℕ :=
  if phyHeaderSize subGhz = 1 then some (memory packetInfo.firstPortionData).toNat
  else
    let lengthByte :=
      if 1 < packetInfo.firstPortionBytes then some (memory (packetInfo.firstPortionData + 1))
      else packetInfo.lastPortionData.map memory
    lengthByte.map reversedByte

/-- `validatePacketDetails`: the result, and `packetLength` afterwards.  `detailsOk` says that
`sl_rail_get_rx_packet_details` succeeds. -/
def validatePacketDetails (detailsOk : Bool) (packetLength : ℕ) : Option (Bool × ℕ) :=
  if detailsOk = false ∨ isFilterMaskValid multipan packetInfo.filterMask = false then
    some (false, packetLength)
  else
    let packetLength := (packetInfo.packetBytes + 2 - phyHeaderSize subGhz) % 2 ^ 16
    (headerLength subGhz memory packetInfo).map fun length ↦
      (decide (packetLength = length ∧ 4 ≤ packetLength ∧ packetLength ≤ 127), packetLength)

/-- `skipRxPacketLengthBytes`; the counts are 16 bits wide. -/
def skipRxPacketLengthBytes : OtError × RxPacketInfo :=
  if packetInfo.firstPortionBytes = 0 then (.failed, packetInfo)
  else
    let skipped :=
      { packetInfo with
        firstPortionData := packetInfo.firstPortionData + phyHeaderSize subGhz
        packetBytes := (packetInfo.packetBytes + 2 ^ 16 - phyHeaderSize subGhz) % 2 ^ 16 }
    if phyHeaderSize subGhz = 1 ∨ 1 < packetInfo.firstPortionBytes then
      (.none,
        { skipped with firstPortionBytes :=
            (packetInfo.firstPortionBytes + 2 ^ 16 - phyHeaderSize subGhz) % 2 ^ 16 })
    else
      match packetInfo.lastPortionData with
      | none => (.failed, { skipped with firstPortionBytes := 0 })
      | some lastPortionData =>
        (.none,
          { skipped with firstPortionBytes := 0, lastPortionData := some (lastPortionData + 1) })

/-- Where `packetReceivedCallback`, and the callbacks that mark the packet, find the first byte of
the frame control field. -/
def macFcfPointer : Option ℕ :=
  if packetInfo.firstPortionBytes = 0 then packetInfo.lastPortionData
  else some packetInfo.firstPortionData

end Source

/-! ## The packet -/

/-- The length that the PHY header of a packet encodes: its only byte, or its second one with the
bits reversed. -/
def encodedLength (subGhz : Bool) (packet : List UInt8) : ℕ :=
  if subGhz then (packet.getD 1 0).toBitVec.reverse.toNat else (packet.getD 0 0).toNat

/-- To reverse a byte is to reverse it as a word and to shift it down. -/
theorem reversedByte_eq (byte : UInt8) : reversedByte byte = byte.toBitVec.reverse.toNat := by
  have hword : (byte.toBitVec.setWidth 32).reverse >>> 24 = byte.toBitVec.reverse.setWidth 32 := by
    ext i hi
    simp only [BitVec.getElem_ushiftRight, BitVec.getElem_setWidth, BitVec.getLsbD_reverse,
      BitVec.getMsbD_eq_getLsbD, BitVec.getLsbD_setWidth]
    by_cases hbyte : i < 8
    · have hindex : 32 - 1 - (24 + i) = 8 - 1 - i := by omega
      have hbit : 24 + i < 32 := by omega
      have hlow : 8 - 1 - i < 32 := by omega
      simp [hindex, hbit, hlow, hbyte]
    · simp [hbyte]
      omega
  rw [reversedByte, hword, BitVec.toNat_setWidth]
  omega

namespace RxPacketInfo.Describes

variable {memory : Memory} {info : RxPacketInfo} {packet : List UInt8}

/-- A byte of the first portion. -/
theorem first_byte (h : info.Describes memory packet) {i : ℕ} (hi : i < info.firstPortionBytes) :
    packet[i]? = some (memory (info.firstPortionData + i)) := by
  calc
    packet[i]? = (packet.take info.firstPortionBytes)[i]? := (List.getElem?_take_of_lt hi).symm
    _ = (memory.read info.firstPortionData info.firstPortionBytes)[i]? := by
      rw [h.first_portion]
    _ = some (memory (info.firstPortionData + i)) := Memory.getElem?_read memory hi

/-- A byte of the last portion. -/
theorem last_byte (h : info.Describes memory packet) {i : ℕ} (hfirst : info.firstPortionBytes ≤ i)
    (hi : i < packet.length) :
    ∃ lastPortionData, info.lastPortionData = some lastPortionData ∧
      packet[i]? = some (memory (lastPortionData + (i - info.firstPortionBytes))) := by
  obtain ⟨lastPortionData, hpointer, hlast⟩ := h.last_portion (by omega)
  refine ⟨lastPortionData, hpointer, ?_⟩
  have hindex : i - info.firstPortionBytes < packet.length - info.firstPortionBytes := by omega
  calc
    packet[i]? = (packet.drop info.firstPortionBytes)[i - info.firstPortionBytes]? := by
      rw [List.getElem?_drop, Nat.add_sub_cancel' hfirst]
    _ = (memory.read lastPortionData
          (packet.length - info.firstPortionBytes))[i - info.firstPortionBytes]? := by
      rw [hlast]
    _ = some (memory (lastPortionData + (i - info.firstPortionBytes))) :=
      Memory.getElem?_read memory hindex

/-- The first byte of a packet is where the callers look for it. -/
theorem macFcfPointer (h : info.Describes memory packet) (hpos : 0 < packet.length) :
    (Radio.macFcfPointer info).map memory = packet[0]? := by
  unfold Radio.macFcfPointer
  split
  case isTrue hempty =>
    obtain ⟨lastPortionData, hpointer, hbyte⟩ := h.last_byte (Nat.le_of_eq hempty) hpos
    rw [hempty, Nat.sub_zero, Nat.add_zero] at hbyte
    rw [hpointer, hbyte]
    rfl
  case isFalse hsome => exact (h.first_byte (Nat.pos_of_ne_zero hsome)).symm

/-- The front of a packet, with its last portion shortened. -/
theorem shorten_last (h : info.Describes memory packet) {count : ℕ}
    (hcount : count ≤ packet.length) (hfirst : info.firstPortionBytes < count) :
    { info with packetBytes := count }.Describes memory (packet.take count) := by
  have hlength : (packet.take count).length = count := List.length_take_of_le hcount
  constructor
  case packet_bytes => exact hlength.symm
  case first_portion_le => exact hlength.symm ▸ Nat.le_of_lt hfirst
  case first_portion => rw [h.first_portion, List.take_take, Nat.min_eq_left (Nat.le_of_lt hfirst)]
  case last_portion =>
    intro _
    obtain ⟨lastPortionData, hpointer, hlast⟩ := h.last_portion (by omega)
    refine ⟨lastPortionData, hpointer, ?_⟩
    have hmin : min (count - info.firstPortionBytes) (packet.length - info.firstPortionBytes) =
        count - info.firstPortionBytes := by omega
    rw [hlength]
    calc
      memory.read lastPortionData (count - info.firstPortionBytes) =
          (memory.read lastPortionData (packet.length - info.firstPortionBytes)).take
            (count - info.firstPortionBytes) := by
        rw [Memory.take_read, hmin]
      _ = (packet.drop info.firstPortionBytes).take (count - info.firstPortionBytes) := by
        rw [hlast]
      _ = (packet.take count).drop info.firstPortionBytes := List.drop_take.symm

/-- The front of a packet that lies in the first portion. -/
theorem shorten_first (h : info.Describes memory packet) {count : ℕ}
    (hfirst : count ≤ info.firstPortionBytes) :
    { info with
      packetBytes := count
      firstPortionBytes := count
      lastPortionData := none }.Describes memory (packet.take count) := by
  have hlength : (packet.take count).length = count :=
    List.length_take_of_le (Nat.le_trans hfirst h.first_portion_le)
  constructor
  case packet_bytes => exact hlength.symm
  case first_portion_le => exact Nat.le_of_eq hlength.symm
  case first_portion =>
    calc
      memory.read info.firstPortionData count =
          (memory.read info.firstPortionData info.firstPortionBytes).take count := by
        rw [Memory.take_read, Nat.min_eq_left hfirst]
      _ = (packet.take info.firstPortionBytes).take count := by rw [h.first_portion]
      _ = (packet.take count).take count := by
        rw [List.take_take, List.take_take, Nat.min_eq_left hfirst, Nat.min_self]
  case last_portion => exact fun hlt ↦ absurd hlt (by rw [hlength]; exact Nat.lt_irrefl _)

/-- The packet behind some bytes of the first portion. -/
theorem skip_first (h : info.Describes memory packet) {count : ℕ}
    (hfirst : count ≤ info.firstPortionBytes) :
    { info with
      firstPortionData := info.firstPortionData + count
      packetBytes := info.packetBytes - count
      firstPortionBytes := info.firstPortionBytes - count }.Describes memory
        (packet.drop count) := by
  have hle := h.first_portion_le
  have hlength : (packet.drop count).length = packet.length - count := List.length_drop
  constructor
  case packet_bytes => rw [h.packet_bytes, hlength]
  case first_portion_le => exact hlength.symm ▸ Nat.sub_le_sub_right hle count
  case first_portion =>
    rw [← Memory.drop_read, h.first_portion, List.drop_take]
  case last_portion =>
    rw [hlength]
    intro hlt
    change info.firstPortionBytes - count < packet.length - count at hlt
    obtain ⟨lastPortionData, hpointer, hlast⟩ := h.last_portion (by omega)
    refine ⟨lastPortionData, hpointer, ?_⟩
    have hbytes : packet.length - count - (info.firstPortionBytes - count) =
        packet.length - info.firstPortionBytes := by omega
    have hskipped : count + (info.firstPortionBytes - count) = info.firstPortionBytes := by omega
    calc
      memory.read lastPortionData
          (packet.length - count - (info.firstPortionBytes - count)) =
          packet.drop info.firstPortionBytes := by
        rw [hbytes, hlast]
      _ = (packet.drop count).drop (info.firstPortionBytes - count) := by
        rw [List.drop_drop, hskipped]

/-- The packet behind its first portion of one byte and the first byte of the last portion. -/
theorem skip_both (h : info.Describes memory packet) (hfirst : info.firstPortionBytes = 1)
    {lastPortionData : ℕ} (hpointer : info.lastPortionData = some lastPortionData)
    (hlength : 2 ≤ packet.length) (address : ℕ) :
    { info with
      firstPortionData := address
      packetBytes := info.packetBytes - 2
      firstPortionBytes := 0
      lastPortionData := some (lastPortionData + 1) }.Describes memory (packet.drop 2) := by
  obtain ⟨other, hother, hlast⟩ := h.last_portion (by omega)
  obtain rfl := Option.some.inj (hpointer.symm.trans hother)
  have hdropped : (packet.drop 2).length = packet.length - 2 := List.length_drop
  constructor
  case packet_bytes => rw [h.packet_bytes, hdropped]
  case first_portion_le => exact Nat.zero_le _
  case first_portion => rfl
  case last_portion =>
    intro _
    refine ⟨lastPortionData + 1, rfl, ?_⟩
    rw [hfirst] at hlast
    calc
      memory.read (lastPortionData + 1) ((packet.drop 2).length - 0) =
          (memory.read lastPortionData (packet.length - 1)).drop 1 := by
        rw [Memory.drop_read, hdropped]
        rfl
      _ = (packet.drop 1).drop 1 := by rw [hlast]
      _ = (packet.drop 2).drop 0 := by rw [List.drop_drop, List.drop_zero]

end RxPacketInfo.Describes

/-! ## What the functions see -/

section Results

variable {slRailCopyRxPacket : Memory → RxPacketInfo → List UInt8} {subGhz multipan : Bool}
  {memory : Memory} {info : RxPacketInfo} {packet : List UInt8}

/-- `readInitialPacketData` reads the front of the packet. -/
theorem readInitialPacketData_eq (hcopy : CopiesPackets slRailCopyRxPacket)
    (h : info.Describes memory packet) (most least : UInt8) :
    readInitialPacketData slRailCopyRxPacket memory info most least =
      if packet.length < least.toNat then (0, [])
      else (min most.toNat packet.length, packet.take most.toNat) := by
  have hbyte : most.toNat < 2 ^ 8 := UInt8.toNat_lt most
  unfold readInitialPacketData
  rw [h.packet_bytes]
  split
  case isTrue => rfl
  case isFalse =>
    by_cases hlong : most.toNat < packet.length
    · rw [if_pos hlong, Nat.min_eq_left (Nat.le_of_lt hlong)]
      by_cases hfirst : most.toNat ≤ info.firstPortionBytes
      · simp only [if_pos hfirst]
        rw [hcopy _ _ _ (h.shorten_first hfirst), Nat.mod_eq_of_lt hbyte]
      · simp only [if_neg hfirst]
        rw [hcopy _ _ _ (h.shorten_last (Nat.le_of_lt hlong) (Nat.not_le.mp hfirst)),
          Nat.mod_eq_of_lt hbyte]
    · have hshort : packet.length ≤ most.toNat := Nat.not_lt.mp hlong
      have hcount : packet.length < 2 ^ 8 := Nat.lt_of_le_of_lt hshort hbyte
      simp only [if_neg hlong]
      rw [hcopy _ _ _ h, h.packet_bytes, Nat.mod_eq_of_lt hcount, Nat.min_eq_right hshort,
        List.take_of_length_le hshort]

/-- `validatePacketDetails` finds the length of the PHY header wherever the packet is split. -/
theorem headerLength_eq (h : info.Describes memory packet) (hfirst : 1 ≤ info.firstPortionBytes)
    (hlength : phyHeaderSize subGhz + 2 ≤ packet.length) :
    headerLength subGhz memory info = some (encodedLength subGhz packet) := by
  cases subGhz with
  | false =>
    have hbyte := h.first_byte hfirst
    simp only [headerLength, encodedLength, phyHeaderSize, Bool.false_eq_true, if_false, if_true,
      List.getD_eq_getElem?_getD, hbyte, Option.getD_some, Nat.add_zero]
  | true =>
    have hbyte : (if 1 < info.firstPortionBytes then some (memory (info.firstPortionData + 1))
        else info.lastPortionData.map memory) = packet[1]? := by
      split
      case isTrue hsecond => exact (h.first_byte hsecond).symm
      case isFalse hsecond =>
        have hone : info.firstPortionBytes = 1 := by omega
        obtain ⟨lastPortionData, hpointer, hbyte⟩ :=
          h.last_byte (Nat.le_of_eq hone) (by omega : 1 < packet.length)
        rw [hone, Nat.sub_self, Nat.add_zero] at hbyte
        rw [hpointer, hbyte]
        rfl
    have hsecond : packet[1]? = some (packet.getD 1 0) := by
      rw [List.getD_eq_getElem?_getD, List.getElem?_eq_getElem (by omega), Option.getD_some]
    simp only [headerLength, encodedLength, phyHeaderSize, if_true]
    rw [hbyte, hsecond, Option.map_some, reversedByte_eq]
    rfl

theorem encodedLength_lt (subGhz : Bool) (packet : List UInt8) :
    encodedLength subGhz packet < 2 ^ 8 := by
  unfold encodedLength
  split
  · exact BitVec.isLt _
  · exact UInt8.toNat_lt _

/-- `validatePacketDetails` accepts the lengths from 4 to 127, if RAIL has received as much. -/
theorem validatePacketDetails_eq (h : info.Describes memory packet)
    (hfirst : 1 ≤ info.firstPortionBytes) (hlength : phyHeaderSize subGhz + 2 ≤ packet.length)
    (hbits : packet.length < 2 ^ 16) (hmask : isFilterMaskValid multipan info.filterMask = true)
    (packetLength : ℕ) :
    validatePacketDetails subGhz multipan memory info true packetLength =
      some (decide (encodedLength subGhz packet = packet.length + 2 - phyHeaderSize subGhz ∧
          4 ≤ encodedLength subGhz packet ∧ encodedLength subGhz packet ≤ 127),
        (packet.length + 2 - phyHeaderSize subGhz) % 2 ^ 16) := by
  have hencoded := encodedLength_lt subGhz packet
  unfold validatePacketDetails
  rw [if_neg (by simp [hmask]), headerLength_eq h hfirst hlength, h.packet_bytes, Option.map_some]
  congr 2
  rw [decide_eq_decide]
  omega

/-- A 16-bit count goes down by the size of the PHY header. -/
theorem count_sub {count size : ℕ} (hcount : count < 2 ^ 16) (hsize : size ≤ count) :
    (count + 2 ^ 16 - size) % 2 ^ 16 = count - size := by
  omega

/-- Behind `skipRxPacketLengthBytes` the portions are those of the packet without its PHY header. -/
theorem skipRxPacketLengthBytes_describes (h : info.Describes memory packet)
    (hfirst : 1 ≤ info.firstPortionBytes) (hlength : phyHeaderSize subGhz + 2 ≤ packet.length)
    (hbits : packet.length < 2 ^ 16) :
    (skipRxPacketLengthBytes subGhz info).1 = .none ∧
      (skipRxPacketLengthBytes subGhz info).2.Describes memory
        (packet.drop (phyHeaderSize subGhz)) := by
  have hle := h.first_portion_le
  have hpacket := h.packet_bytes
  have hpacketBytes : (info.packetBytes + 2 ^ 16 - phyHeaderSize subGhz) % 2 ^ 16 =
      info.packetBytes - phyHeaderSize subGhz := count_sub (by omega) (by omega)
  unfold skipRxPacketLengthBytes
  rw [if_neg (by omega)]
  simp only [hpacketBytes]
  by_cases hinside : phyHeaderSize subGhz ≤ info.firstPortionBytes
  · have hcondition : phyHeaderSize subGhz = 1 ∨ 1 < info.firstPortionBytes := by
      cases subGhz with
      | false => exact .inl rfl
      | true => exact .inr hinside
    rw [if_pos hcondition, count_sub (Nat.lt_of_le_of_lt hle hbits) hinside]
    exact ⟨rfl, h.skip_first hinside⟩
  · obtain ⟨rfl, hone⟩ : subGhz = true ∧ info.firstPortionBytes = 1 := by
      cases subGhz with
      | false => exact absurd hfirst hinside
      | true => exact ⟨rfl, by simp only [phyHeaderSize, if_true] at hinside; omega⟩
    have hlong : 2 ≤ packet.length := by omega
    obtain ⟨lastPortionData, hpointer, -⟩ := h.last_portion (by omega)
    rw [if_neg (by simp [phyHeaderSize, hone]), hpointer]
    exact ⟨rfl, h.skip_both hone hpointer hlong _⟩

/-- What the functions see of a packet in two portions is what they would see of it in one piece. -/
structure ReadsLikePacket (slRailCopyRxPacket : Memory → RxPacketInfo → List UInt8)
    (subGhz multipan : Bool) (memory : Memory) (info : RxPacketInfo) (packet : List UInt8) :
    Prop where
  initial : ∀ most least, readInitialPacketData slRailCopyRxPacket memory info most least =
    if packet.length < least.toNat then (0, [])
    else (min most.toNat packet.length, packet.take most.toNat)
  validated : ∀ packetLength,
    validatePacketDetails subGhz multipan memory info true packetLength =
      some (decide (encodedLength subGhz packet = packet.length + 2 - phyHeaderSize subGhz ∧
          4 ≤ encodedLength subGhz packet ∧ encodedLength subGhz packet ≤ 127),
        (packet.length + 2 - phyHeaderSize subGhz) % 2 ^ 16)
  skipped : (skipRxPacketLengthBytes subGhz info).1 = .none ∧
    (skipRxPacketLengthBytes subGhz info).2.Describes memory (packet.drop (phyHeaderSize subGhz))
  first_byte : ((macFcfPointer (skipRxPacketLengthBytes subGhz info).2).map memory) =
    some (packet.getD (phyHeaderSize subGhz) 0)

/-- The same functions see the same of two splits of a packet. -/
structure ReadsTheSame (slRailCopyRxPacket : Memory → RxPacketInfo → List UInt8)
    (subGhz multipan : Bool) (memory memory' : Memory) (info info' : RxPacketInfo) : Prop where
  initial : readInitialPacketData slRailCopyRxPacket memory info =
    readInitialPacketData slRailCopyRxPacket memory' info'
  validated : validatePacketDetails subGhz multipan memory info true =
    validatePacketDetails subGhz multipan memory' info' true
  first_byte : (macFcfPointer (skipRxPacketLengthBytes subGhz info).2).map memory =
    (macFcfPointer (skipRxPacketLengthBytes subGhz info').2).map memory'

theorem RxPacketInfo.Describes.readsLikePacket (hcopy : CopiesPackets slRailCopyRxPacket)
    (h : info.Describes memory packet) (hfirst : 1 ≤ info.firstPortionBytes)
    (hlength : phyHeaderSize subGhz + 2 ≤ packet.length) (hbits : packet.length < 2 ^ 16)
    (hmask : isFilterMaskValid multipan info.filterMask = true) :
    ReadsLikePacket slRailCopyRxPacket subGhz multipan memory info packet := by
  have hskipped := skipRxPacketLengthBytes_describes h hfirst hlength hbits
  constructor
  case initial => exact readInitialPacketData_eq hcopy h
  case validated => exact validatePacketDetails_eq h hfirst hlength hbits hmask
  case skipped => exact hskipped
  case first_byte =>
    have hpos : 0 < (packet.drop (phyHeaderSize subGhz)).length := by
      rw [List.length_drop]
      omega
    have hheader : phyHeaderSize subGhz < packet.length := by omega
    calc
      (Radio.macFcfPointer (skipRxPacketLengthBytes subGhz info).2).map memory =
          (packet.drop (phyHeaderSize subGhz))[0]? := hskipped.2.macFcfPointer hpos
      _ = packet[phyHeaderSize subGhz]? := by rw [List.getElem?_drop, Nat.add_zero]
      _ = some (packet.getD (phyHeaderSize subGhz) 0) := by
        rw [List.getD_eq_getElem?_getD, List.getElem?_eq_getElem hheader, Option.getD_some]

theorem ReadsLikePacket.same {memory' : Memory} {info' : RxPacketInfo}
    (h : ReadsLikePacket slRailCopyRxPacket subGhz multipan memory info packet)
    (h' : ReadsLikePacket slRailCopyRxPacket subGhz multipan memory' info' packet) :
    ReadsTheSame slRailCopyRxPacket subGhz multipan memory memory' info info' where
  initial := by
    funext most least
    rw [h.initial, h'.initial]
  validated := by
    funext packetLength
    rw [h.validated, h'.validated]
  first_byte := by rw [h.first_byte, h'.first_byte]

/-- A packet of any length is read alike however RAIL splits it into two portions. -/
theorem splitPacket_readsLikePacket (hcopy : CopiesPackets slRailCopyRxPacket)
    (hlength : 4 + phyHeaderSize subGhz - 2 ≤ packet.length) (hbits : packet.length < 2 ^ 16)
    (h : info.Describes memory packet) (hfirst : 1 ≤ info.firstPortionBytes)
    (hmask : isFilterMaskValid multipan info.filterMask = true) :
    ReadsLikePacket slRailCopyRxPacket subGhz multipan memory info packet ∧
      ∀ memory' info', info'.Describes memory' packet → 1 ≤ info'.firstPortionBytes →
        isFilterMaskValid multipan info'.filterMask = true →
          ReadsTheSame slRailCopyRxPacket subGhz multipan memory memory' info info' := by
  have hheader : phyHeaderSize subGhz + 2 ≤ packet.length := by omega
  have hreads := h.readsLikePacket hcopy hfirst hheader hbits hmask
  refine ⟨hreads, fun memory' info' h' hfirst' hmask' ↦ ?_⟩
  exact hreads.same (h'.readsLikePacket hcopy hfirst' hheader hbits hmask')

end Results

/-- `sl_rail_copy_rx_packet` as two copies, the second one if there is a last portion. -/
def copyPortions (memory : Memory) (info : RxPacketInfo) : List UInt8 :=
  memory.read info.firstPortionData info.firstPortionBytes ++
    info.lastPortionData.elim [] fun lastPortionData ↦
      memory.read lastPortionData (info.packetBytes - info.firstPortionBytes)

theorem copyPortions_copiesPackets : CopiesPackets copyPortions := by
  intro memory info packet h
  have hle := h.first_portion_le
  unfold copyPortions
  rw [h.first_portion, h.packet_bytes]
  obtain hall | hsplit := Nat.eq_or_lt_of_le hle
  · rw [hall, Nat.sub_self, List.take_length]
    cases info.lastPortionData <;> exact List.append_nil _
  · obtain ⟨lastPortionData, hpointer, hlast⟩ := h.last_portion hsplit
    rw [hpointer, Option.elim_some, hlast, List.take_append_drop]

/-- A packet that wraps within its two-byte PHY header, around the end of a FIFO of 512 bytes. -/
theorem splitPacket_readsLikePacket_withinHeader :
    ReadsLikePacket copyPortions true false
      (Memory.write (Memory.write (fun _ ↦ 0) 511 [0x18]) 0 [0xA0, 0x02, 0x00, 0x07])
      { packetBytes := 5
        firstPortionBytes := 1
        firstPortionData := 511
        lastPortionData := some 0 }
      [0x18, 0xA0, 0x02, 0x00, 0x07] :=
  (splitPacket_readsLikePacket copyPortions_copiesPackets (by decide) (by decide)
    ⟨rfl, by decide, by decide, fun _ ↦ ⟨0, rfl, by decide⟩⟩ (by decide) rfl).1

end OtEfr32.Radio
