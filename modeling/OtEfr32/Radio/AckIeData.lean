import Mathlib.Algebra.Group.Nat.Defs
import OtEfr32.Data.Memory

/-!
# Information elements of an enhanced ACK

Model of `generateAckIeData` in `radio.c`.  An enhanced ACK carries the CSL IE while the device
samples the channel, and the probing IE if the link metrics of the source have data.  Both are
written to the static buffer `sAckIeData`, which still holds the bytes of earlier ACKs, and only the
length accumulates.  The encoders are those of the stack.
-/

namespace OtEfr32.Radio

open Data

/-- A complete header IE: its length and its element id, and then its content. -/
def IsHeaderIe (elementId : ℕ) (ie : List UInt8) : Prop :=
  ∃ low high content, ie = low :: high :: content ∧ content.length < 128 ∧
    low.toNat + 256 * high.toNat = content.length + 128 * elementId

/-- What `otMacFrameGenerateCslIeTemplate` and `otMacFrameGenerateEnhAckProbingIe` write. -/
structure IeEncoders where
  cslIeTemplate : List UInt8
  enhAckProbingIe : List UInt8 → List UInt8

/-- The encoders write one IE each, of the element ids for CSL and for vendor-specific IEs, and both
fit into a buffer with an 8-bit length, for up to `otEnhProbingIeDataMaxSize` bytes of data. -/
structure IeEncoders.Complete (encoders : IeEncoders) (otEnhProbingIeDataMaxSize : ℕ) : Prop where
  cslIe : IsHeaderIe 0x1A encoders.cslIeTemplate
  probingIe : ∀ data, data.length ≤ otEnhProbingIeDataMaxSize →
    IsHeaderIe 0x00 (encoders.enhAckProbingIe data)
  fit : ∀ data, data.length ≤ otEnhProbingIeDataMaxSize →
    encoders.cslIeTemplate.length + (encoders.enhAckProbingIe data).length < 256
  maxSize : otEnhProbingIeDataMaxSize < 256

/-- `sAckIeData` and `sAckIeDataLength`. -/
structure AckIeBuffer where
  sAckIeData : Memory := fun _ ↦ 0
  sAckIeDataLength : UInt8 := 0

/-- `generateAckIeData`, which returns `offset`. -/
def generateAckIeData (encoders : IeEncoders) (sCslPeriod : UInt32)
    (aLinkMetricsIeData : Option (List UInt8)) (aLinkMetricsIeDataLen : UInt8)
    (sAckIeData : Memory) : Memory × UInt8 :=
  let (sAckIeData, offset) :=
    if sCslPeriod > 0 then
      (sAckIeData.write 0 encoders.cslIeTemplate,
        0 + UInt8.ofNat encoders.cslIeTemplate.length)
    else (sAckIeData, 0)
  match aLinkMetricsIeData with
  | none => (sAckIeData, offset)
  | some data =>
    if aLinkMetricsIeDataLen > 0 then
      let ie := encoders.enhAckProbingIe (data.take aLinkMetricsIeDataLen.toNat)
      (sAckIeData.write 0 ie, offset + UInt8.ofNat ie.length)
    else (sAckIeData, offset)

/-- The part of `writeIeee802154EnhancedAck` that generates the IEs, for the data that
`otLinkMetricsEnhAckGenData` has generated. -/
def writeAckIeData (encoders : IeEncoders) (sCslPeriod : UInt32) (linkMetricsData : List UInt8)
    (buffer : AckIeBuffer) : AckIeBuffer :=
  let linkMetricsDataLen := UInt8.ofNat linkMetricsData.length
  let dataPtr := if linkMetricsDataLen > 0 then some linkMetricsData else none
  let (sAckIeData, sAckIeDataLength) :=
    generateAckIeData encoders sCslPeriod dataPtr linkMetricsDataLen buffer.sAckIeData
  { sAckIeData, sAckIeDataLength }

/-- The bytes that `otMacFrameGenerateEnhAck` gets. -/
def AckIeBuffer.sent (buffer : AckIeBuffer) : List UInt8 :=
  buffer.sAckIeData.read 0 buffer.sAckIeDataLength.toNat

/-- The IEs that an ACK should carry. -/
def ackIes (encoders : IeEncoders) (sCslPeriod : UInt32) (linkMetricsData : List UInt8) :
    List UInt8 :=
  (if sCslPeriod > 0 then encoders.cslIeTemplate else []) ++
    if linkMetricsData ≠ [] then encoders.enhAckProbingIe linkMetricsData else []

variable {encoders : IeEncoders} {otEnhProbingIeDataMaxSize : ℕ} {sCslPeriod : UInt32}
  {linkMetricsData : List UInt8} {buffer : AckIeBuffer}

/-! ## What is written -/

theorem writeAckIeData_nil :
    writeAckIeData encoders sCslPeriod [] buffer =
      if sCslPeriod > 0 then
        ⟨buffer.sAckIeData.write 0 encoders.cslIeTemplate,
          UInt8.ofNat encoders.cslIeTemplate.length⟩
      else ⟨buffer.sAckIeData, 0⟩ := by
  by_cases hperiod : sCslPeriod > 0
  · simp [writeAckIeData, generateAckIeData, hperiod]
  · simp [writeAckIeData, generateAckIeData, hperiod]

theorem writeAckIeData_of_ne_nil (hne : linkMetricsData ≠ [])
    (hlength : linkMetricsData.length < 256) :
    writeAckIeData encoders sCslPeriod linkMetricsData buffer =
      if sCslPeriod > 0 then
        ⟨(buffer.sAckIeData.write 0 encoders.cslIeTemplate).write 0
            (encoders.enhAckProbingIe linkMetricsData),
          UInt8.ofNat encoders.cslIeTemplate.length +
            UInt8.ofNat (encoders.enhAckProbingIe linkMetricsData).length⟩
      else
        ⟨buffer.sAckIeData.write 0 (encoders.enhAckProbingIe linkMetricsData),
          UInt8.ofNat (encoders.enhAckProbingIe linkMetricsData).length⟩ := by
  have htoNat : (UInt8.ofNat linkMetricsData.length).toNat = linkMetricsData.length := by
    rw [UInt8.toNat_ofNat']
    exact Nat.mod_eq_of_lt hlength
  have hpos : UInt8.ofNat linkMetricsData.length > 0 := by
    apply UInt8.lt_iff_toNat_lt.mpr
    rw [htoNat]
    exact List.length_pos_iff.mpr hne
  by_cases hperiod : sCslPeriod > 0
  · simp [writeAckIeData, generateAckIeData, hperiod, hpos, htoNat]
  · simp [writeAckIeData, generateAckIeData, hperiod, hpos, htoNat]

/-- One IE alone is sent as it is written. -/
theorem sent_write {memory : Memory} {ie : List UInt8} (hlength : ie.length < 256) :
    AckIeBuffer.sent ⟨memory.write 0 ie, UInt8.ofNat ie.length⟩ = ie := by
  rw [AckIeBuffer.sent, UInt8.toNat_ofNat', Nat.mod_eq_of_lt hlength]
  exact Memory.read_write memory 0 ie

/-! ## Both elements -/

theorem IsHeaderIe.high {elementId : ℕ} {ie : List UInt8} (h : IsHeaderIe elementId ie) :
    ∃ low high content, ie = low :: high :: content ∧ high.toNat = elementId / 2 := by
  obtain ⟨low, high, content, hie, hlength, hheader⟩ := h
  have hlow := low.toNat_lt
  exact ⟨low, high, content, hie, by omega⟩

/-- The second IE is written over the first one. -/
theorem sent_both_ne (hcomplete : encoders.Complete otEnhProbingIeDataMaxSize)
    (hdata : linkMetricsData.length ≤ otEnhProbingIeDataMaxSize) (memory : Memory) :
    AckIeBuffer.sent
        ⟨(memory.write 0 encoders.cslIeTemplate).write 0
            (encoders.enhAckProbingIe linkMetricsData),
          UInt8.ofNat encoders.cslIeTemplate.length +
            UInt8.ofNat (encoders.enhAckProbingIe linkMetricsData).length⟩ ≠
      encoders.cslIeTemplate ++ encoders.enhAckProbingIe linkMetricsData := by
  have hfit := hcomplete.fit linkMetricsData hdata
  have hlength : (UInt8.ofNat encoders.cslIeTemplate.length +
      UInt8.ofNat (encoders.enhAckProbingIe linkMetricsData).length).toNat =
        (encoders.enhAckProbingIe linkMetricsData).length + encoders.cslIeTemplate.length := by
    rw [UInt8.toNat_add, UInt8.toNat_ofNat', UInt8.toNat_ofNat']
    omega
  rw [AckIeBuffer.sent, hlength, Memory.read_add, Memory.read_write]
  obtain ⟨_, high, _, hcsl, hcslHigh⟩ := hcomplete.cslIe.high
  obtain ⟨_, high', _, hprobing, hprobingHigh⟩ := (hcomplete.probingIe linkMetricsData hdata).high
  rw [hcsl, hprobing]
  intro hsame
  have hhigh : high' = high := (List.cons.inj (List.cons.inj hsame).2).1
  rw [hhigh, hcslHigh] at hprobingHigh
  exact absurd hprobingHigh (by decide)

/-- Whatever earlier ACKs have left in the buffer, an ACK carries the IEs that it should exactly if
there is at most one of them. -/
theorem sent_writeAckIeData_iff (hcomplete : encoders.Complete otEnhProbingIeDataMaxSize)
    (hdata : linkMetricsData.length ≤ otEnhProbingIeDataMaxSize) :
    (writeAckIeData encoders sCslPeriod linkMetricsData buffer).sent =
        ackIes encoders sCslPeriod linkMetricsData ↔
      sCslPeriod = 0 ∨ linkMetricsData = [] := by
  have hfit := hcomplete.fit linkMetricsData hdata
  have hzero : ¬ sCslPeriod > 0 ↔ sCslPeriod = 0 := by
    rw [gt_iff_lt, UInt32.pos_iff_ne_zero, not_not]
  by_cases hempty : linkMetricsData = []
  · rw [hempty, writeAckIeData_nil, ackIes, if_neg (not_not.mpr rfl), List.append_nil]
    refine iff_of_true ?_ (.inr rfl)
    by_cases hperiod : sCslPeriod > 0
    · rw [if_pos hperiod, if_pos hperiod]
      exact sent_write (by omega)
    · rw [if_neg hperiod, if_neg hperiod]
      rfl
  · have hlength := Nat.lt_of_le_of_lt hdata hcomplete.maxSize
    rw [writeAckIeData_of_ne_nil hempty hlength, ackIes, if_pos hempty]
    by_cases hperiod : sCslPeriod > 0
    · rw [if_pos hperiod, if_pos hperiod]
      apply iff_of_false (sent_both_ne hcomplete hdata _)
      exact not_or.mpr ⟨fun h ↦ hzero.mpr h hperiod, hempty⟩
    · rw [if_neg hperiod, if_neg hperiod, List.nil_append]
      refine iff_of_true (sent_write (by omega)) (.inl (hzero.mp hperiod))

/-- The CSL IE with room for phase and period, and the probing IE of the vendor Thread. -/
def threadIeEncoders : IeEncoders where
  cslIeTemplate := [0x04, 0x0D, 0, 0, 0, 0]
  enhAckProbingIe data :=
    UInt8.ofNat (4 + data.length) :: 0 :: 0x9B :: 0xB8 :: 0xEA :: 0 :: data

theorem threadIeEncoders_complete : threadIeEncoders.Complete 2 where
  cslIe := ⟨0x04, 0x0D, [0, 0, 0, 0], rfl, by decide, by decide⟩
  probingIe data hdata := by
    refine ⟨UInt8.ofNat (4 + data.length), 0, 0x9B :: 0xB8 :: 0xEA :: 0 :: data, rfl, ?_, ?_⟩
    · simp only [List.length_cons]
      omega
    · simp only [List.length_cons, UInt8.toNat_ofNat', UInt8.toNat_zero]
      omega
  fit data hdata := by
    simp only [threadIeEncoders, List.length_cons, List.length_nil]
    omega
  maxSize := by decide

theorem sent_writeAckIeData_iff_metricsOnly :
    (writeAckIeData threadIeEncoders 0 [7] {}).sent = ackIes threadIeEncoders 0 [7] :=
  (sent_writeAckIeData_iff threadIeEncoders_complete (by decide)).mpr (.inl rfl)

/-- The probing IE is written over the CSL IE, and behind it the ACK carries bytes of the buffer
that no encoder has written. -/
theorem sent_writeAckIeData_cslAndMetrics :
    (writeAckIeData threadIeEncoders 5 [7] {}).sent ≠ ackIes threadIeEncoders 5 [7] := by
  decide

end OtEfr32.Radio
