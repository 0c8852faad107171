import OtEfr32.Packet.CcmBlocks

/-!
# The streaming encryption is CCM

Whatever pieces header and payload are given in, the calls `Init`, `Header`, `Payload` and
`Finalize` leave in memory the ciphertext and the tag of CCM with a length field of two bytes.  The
loops of `Header` and `Payload` are the byte-wise authentication code and counter mode; a call that
ends its part closes the code, and every other call leaves it in the middle of a block.
-/

namespace OtEfr32.Packet

open OtEfr32.Crypto OtEfr32.Data

namespace TxSecurityProcessing

/-! ## The calls for one frame -/

section Calls

variable (sliAesCryptEcbRadio : Block → Block)

/-- The `Header` calls for consecutive pieces of a header. -/
def headers (self : TxSecurityProcessing) (memory : Memory) :
    (aHeader : ℕ) → List UInt32 → Option TxSecurityProcessing
  | _, [] => some self
  | aHeader, aHeaderLength :: pieces =>
    (self.header sliAesCryptEcbRadio memory aHeader aHeaderLength).bind fun self ↦
      self.headers memory (aHeader + aHeaderLength.toNat) pieces

/-- The `Payload` calls for consecutive pieces of a payload. -/
def payloads (self : TxSecurityProcessing) (memory : Memory) :
    (aPlainText aCipherText : ℕ) → List UInt32 → Option (TxSecurityProcessing × Memory)
  | _, _, [] => some (self, memory)
  | aPlainText, aCipherText, aLength :: pieces =>
    (self.payload sliAesCryptEcbRadio memory aPlainText aCipherText aLength).bind
      fun (self, memory) ↦
        self.payloads memory (aPlainText + aLength.toNat) (aCipherText + aLength.toNat) pieces

theorem headers_singleton (self : TxSecurityProcessing) (memory : Memory) (aHeader : ℕ)
    (aHeaderLength : UInt32) :
    self.headers sliAesCryptEcbRadio memory aHeader [aHeaderLength] =
      self.header sliAesCryptEcbRadio memory aHeader aHeaderLength :=
  Option.bind_fun_some _

theorem payloads_singleton (self : TxSecurityProcessing) (memory : Memory)
    (aPlainText aCipherText : ℕ) (aLength : UInt32) :
    self.payloads sliAesCryptEcbRadio memory aPlainText aCipherText [aLength] =
      self.payload sliAesCryptEcbRadio memory aPlainText aCipherText aLength :=
  Option.bind_fun_some _

/-- The buffers and lengths of a frame: where its header, payload, ciphertext, tag and nonce lie. -/
structure FrameBuffers where
  aHeader : ℕ
  aPlainText : ℕ
  aCipherText : ℕ
  aTag : ℕ
  aNonce : ℕ
  headerLength : UInt32
  plainTextLength : UInt32
  tagLength : ℕ
deriving DecidableEq

namespace FrameBuffers

variable (frame : FrameBuffers) (memory : Memory)

def nonce : List UInt8 := memory.read frame.aNonce 13

def header : List UInt8 := memory.read frame.aHeader frame.headerLength.toNat

def payload : List UInt8 := memory.read frame.aPlainText frame.plainTextLength.toNat

end FrameBuffers

/-- `Init`, then `Header` and `Payload` for the given pieces, then `Finalize`. -/
def encryptFrame (self : TxSecurityProcessing) (limits : TagLimits) (memory : Memory)
    (frame : FrameBuffers) (headerPieces payloadPieces : List UInt32) : Option Memory := do
  let self ← self.init sliAesCryptEcbRadio limits memory frame.headerLength
    frame.plainTextLength frame.tagLength frame.aNonce 13
  let self ← self.headers sliAesCryptEcbRadio memory frame.aHeader headerPieces
  let (self, memory) ← self.payloads sliAesCryptEcbRadio memory frame.aPlainText
    frame.aCipherText payloadPieces
  let (_, memory) ← self.finalize sliAesCryptEcbRadio memory frame.aTag
  return memory

end Calls

/-- Pieces of a part of the given length: no piece is empty, unless the part is. -/
def Pieces (total : UInt32) (pieces : List UInt32) : Prop :=
  if total = 0 then pieces = [0]
  else 0 ∉ pieces ∧ (pieces.map UInt32.toNat).sum = total.toNat

instance (total : UInt32) (pieces : List UInt32) : Decidable (Pieces total pieces) := by
  unfold Pieces
  infer_instance

/-- Pieces as the calls see them: the last one, or one with bytes still to come. -/
inductive Cut : ℕ → List UInt32 → Prop
  | last (piece : UInt32) : Cut piece.toNat [piece]
  | more (piece : UInt32) {rest : ℕ} {pieces : List UInt32} (hrest : 0 < rest)
      (hcut : Cut rest pieces) : Cut (piece.toNat + rest) (piece :: pieces)

theorem Pieces.cut {total : UInt32} {pieces : List UInt32} (h : Pieces total pieces) :
    Cut total.toNat pieces := by
  by_cases hzero : total = 0
  · simp only [Pieces, hzero, if_true] at h
    subst h hzero
    exact Cut.last 0
  · obtain ⟨hpos, hsum⟩ : 0 ∉ pieces ∧ (pieces.map UInt32.toNat).sum = total.toNat := by
      simpa only [Pieces, hzero, if_false] using h
    have htotal : 0 < total.toNat := UInt32.lt_iff_toNat_lt.mp (UInt32.pos_iff_ne_zero.mpr hzero)
    rw [← hsum] at htotal ⊢
    clear hsum h hzero
    induction pieces with
    | nil => exact absurd htotal (by simp)
    | cons piece pieces ih =>
      cases pieces with
      | nil => simpa using Cut.last piece
      | cons next pieces =>
        have hnext : next ≠ 0 := fun heq ↦ hpos (by simp [heq])
        have hrest : 0 < ((next :: pieces).map UInt32.toNat).sum := by
          have hnextPos : 0 < next.toNat :=
            UInt32.lt_iff_toNat_lt.mp (UInt32.pos_iff_ne_zero.mpr hnext)
          simp only [List.map_cons, List.sum_cons]
          omega
        have hlater : 0 ∉ next :: pieces := fun hmem ↦ hpos (List.mem_cons_of_mem _ hmem)
        exact Cut.more piece hrest (ih hlater hrest)

variable {sliAesCryptEcbRadio : Block → Block} {self : TxSecurityProcessing} {memory : Memory}

/-! ## The header -/

/-- The members that make up the authentication code. -/
def mac (self : TxSecurityProcessing) : MacState := ⟨self.mBlock, self.mBlockLength⟩

def setMac (self : TxSecurityProcessing) (mac : MacState) : TxSecurityProcessing :=
  { self with mBlock := mac.block, mBlockLength := mac.length }

theorem macByte_eq (self : TxSecurityProcessing) (byte : UInt8) :
    self.macByte sliAesCryptEcbRadio byte =
      self.setMac (self.mac.absorb sliAesCryptEcbRadio byte) := by
  by_cases hfull : self.mBlockLength = 16
  · simp [macByte, setMac, mac, MacState.absorb, hfull, xorByte_eq_xorAt]
  · simp [macByte, setMac, mac, MacState.absorb, hfull, xorByte_eq_xorAt]

theorem foldl_macByte (self : TxSecurityProcessing) (bytes : List UInt8) :
    bytes.foldl (macByte sliAesCryptEcbRadio) self =
      self.setMac (self.mac.absorbAll sliAesCryptEcbRadio bytes) := by
  induction bytes generalizing self with
  | nil => rfl
  | cons byte bytes ih =>
    rw [List.foldl_cons, ih, macByte_eq]
    rfl

theorem toNat_add_of_le {left right bound : UInt32}
    (hle : left.toNat + right.toNat ≤ bound.toNat) :
    (left + right).toNat = left.toNat + right.toNat := by
  have hbound : bound.toNat < 4294967296 := bound.toNat_lt
  rw [UInt32.toNat_add]
  exact Nat.mod_eq_of_lt (by omega)

/-- A call for a piece with bytes still to come leaves the code open. -/
theorem header_of_lt {aHeader : ℕ} {piece : UInt32}
    (hlt : self.mHeaderCur.toNat + piece.toNat < self.mHeaderLength.toNat) :
    self.header sliAesCryptEcbRadio memory aHeader piece =
      some { self.setMac (self.mac.absorbAll sliAesCryptEcbRadio
        (memory.read aHeader piece.toNat)) with mHeaderCur := self.mHeaderCur + piece } := by
  have hsum := toNat_add_of_le (Nat.le_of_lt hlt)
  have hle : self.mHeaderCur + piece ≤ self.mHeaderLength := by
    rw [UInt32.le_iff_toNat_le, hsum]
    exact Nat.le_of_lt hlt
  have hne : self.mHeaderCur + piece ≠ self.mHeaderLength := by
    intro heq
    rw [← hsum, heq] at hlt
    exact Nat.lt_irrefl _ hlt
  simp only [header, hle, if_true, foldl_macByte, setMac, hne, if_false]

/-- The call for the last piece closes it. -/
theorem header_of_eq {aHeader : ℕ} {piece : UInt32}
    (heq : self.mHeaderCur.toNat + piece.toNat = self.mHeaderLength.toNat) :
    self.header sliAesCryptEcbRadio memory aHeader piece =
      some { self.setMac ⟨(self.mac.absorbAll sliAesCryptEcbRadio
        (memory.read aHeader piece.toNat)).finish sliAesCryptEcbRadio, 0⟩ with
          mHeaderCur := self.mHeaderLength } := by
  have hsum : self.mHeaderCur + piece = self.mHeaderLength := by
    rw [← UInt32.toNat_inj, toNat_add_of_le (Nat.le_of_eq heq), heq]
  simp only [header, hsum, UInt32.le_refl, if_true, foldl_macByte, setMac, MacState.finish]
  split <;> rfl

/-- The `Header` calls for all pieces authenticate the whole header. -/
theorem headers_of_cut {aHeader total : ℕ} {pieces : List UInt32} (hcut : Cut total pieces)
    (htotal : self.mHeaderCur.toNat + total = self.mHeaderLength.toNat) :
    self.headers sliAesCryptEcbRadio memory aHeader pieces =
      some { self.setMac ⟨(self.mac.absorbAll sliAesCryptEcbRadio
        (memory.read aHeader total)).finish sliAesCryptEcbRadio, 0⟩ with
          mHeaderCur := self.mHeaderLength } := by
  induction hcut generalizing self aHeader with
  | last piece => simp [headers, header_of_eq htotal]
  | @more piece rest pieces hrest hcut ih =>
    have hlt : self.mHeaderCur.toNat + piece.toNat < self.mHeaderLength.toNat := by omega
    have hsum := toNat_add_of_le (Nat.le_of_lt hlt)
    have htotal' : (self.mHeaderCur + piece).toNat + rest = self.mHeaderLength.toNat := by omega
    rw [headers, header_of_lt hlt, Option.bind_some, ih htotal', Memory.read_add,
      MacState.absorbAll_append]
    rfl

/-! ## The payload -/

/-- The members that make up the counter mode. -/
def ctr (self : TxSecurityProcessing) : CtrState := ⟨self.mCtr, self.mCtrPad, self.mCtrLength⟩

def setCtr (self : TxSecurityProcessing) (ctr : CtrState) : TxSecurityProcessing :=
  { self with mCtr := ctr.counter, mCtrPad := ctr.pad, mCtrLength := ctr.used }

/-- The members once the loop of `Payload` has passed over the given bytes. -/
def advance (sliAesCryptEcbRadio : Block → Block) (self : TxSecurityProcessing)
    (bytes : List UInt8) : TxSecurityProcessing :=
  (self.setMac (self.mac.absorbAll sliAesCryptEcbRadio bytes)).setCtr
    ((CtrState.next sliAesCryptEcbRadio (incrementCtr self.mNonceLength 15))^[bytes.length]
      self.ctr)

/-- What the loop of `Payload` stores for the given bytes. -/
def encrypted (sliAesCryptEcbRadio : Block → Block) (self : TxSecurityProcessing)
    (bytes : List UInt8) : List UInt8 :=
  self.ctr.encrypt sliAesCryptEcbRadio (incrementCtr self.mNonceLength 15) bytes

theorem refillPad_eq (self : TxSecurityProcessing) :
    self.refillPad sliAesCryptEcbRadio =
      self.setCtr (self.ctr.refill sliAesCryptEcbRadio (incrementCtr self.mNonceLength 15)) := by
  by_cases hfull : self.mCtrLength = 16
  · simp [refillPad, setCtr, ctr, CtrState.refill, hfull]
  · simp [refillPad, setCtr, ctr, CtrState.refill, hfull]

/-- One pass through the loop, without the store. -/
theorem advance_byte (self : TxSecurityProcessing) (byte : UInt8) :
    macByte sliAesCryptEcbRadio
        { self.refillPad sliAesCryptEcbRadio with
          mCtrLength := (self.refillPad sliAesCryptEcbRadio).mCtrLength + 1 } byte =
      self.advance sliAesCryptEcbRadio [byte] := by
  rw [refillPad_eq, macByte_eq]
  rfl

theorem advance_cons (self : TxSecurityProcessing) (byte : UInt8) (bytes : List UInt8) :
    self.advance sliAesCryptEcbRadio (byte :: bytes) =
      (self.advance sliAesCryptEcbRadio [byte]).advance sliAesCryptEcbRadio bytes := by
  simp only [advance, List.length_cons, Function.iterate_succ_apply]
  rfl

theorem encrypted_cons (self : TxSecurityProcessing) (byte : UInt8) (bytes : List UInt8) :
    self.encrypted sliAesCryptEcbRadio (byte :: bytes) =
      (byte ^^^ self.ctr.padByte sliAesCryptEcbRadio (incrementCtr self.mNonceLength 15)) ::
        (self.advance sliAesCryptEcbRadio [byte]).encrypted sliAesCryptEcbRadio bytes :=
  CtrState.encrypt_cons sliAesCryptEcbRadio _ self.ctr byte bytes

/-- The buffers of plaintext and ciphertext are one, or do not get into each other's way. -/
def Apart (aPlainText aCipherText length : ℕ) : Prop :=
  aCipherText ≤ aPlainText ∨ aPlainText + length ≤ aCipherText

theorem payloadLoop_eq {count aPlainText aCipherText : ℕ}
    (hapart : Apart aPlainText aCipherText count) :
    payloadLoop sliAesCryptEcbRadio count aPlainText aCipherText (self, memory) =
      (self.advance sliAesCryptEcbRadio (memory.read aPlainText count),
        memory.write aCipherText
          (self.encrypted sliAesCryptEcbRadio (memory.read aPlainText count))) := by
  induction count generalizing self memory aPlainText aCipherText with
  | zero => rfl
  | succ count ih =>
    have hlater : Apart (aPlainText + 1) (aCipherText + 1) count := by
      rcases hapart with hle | hle
      · exact Or.inl (by omega)
      · exact Or.inr (by omega)
    have hread (byte : UInt8) :
        Memory.read (Function.update memory aCipherText byte) (aPlainText + 1) count =
          memory.read (aPlainText + 1) count := by
      apply Memory.read_congr
      intro i hlow hhigh
      have hne : i ≠ aCipherText := by
        rcases hapart with hle | hle <;> omega
      exact Function.update_of_ne hne byte memory
    simp only [payloadLoop, Memory.read]
    rw [ih hlater, hread, advance_byte, advance_cons, encrypted_cons, refillPad_eq]
    rfl

theorem advance_append (self : TxSecurityProcessing) (left right : List UInt8) :
    self.advance sliAesCryptEcbRadio (left ++ right) =
      (self.advance sliAesCryptEcbRadio left).advance sliAesCryptEcbRadio right := by
  induction left generalizing self with
  | nil => rfl
  | cons byte left ih =>
    calc
      _ = (self.advance sliAesCryptEcbRadio [byte]).advance sliAesCryptEcbRadio (left ++ right) :=
        advance_cons self byte (left ++ right)
      _ = ((self.advance sliAesCryptEcbRadio [byte]).advance sliAesCryptEcbRadio left).advance
          sliAesCryptEcbRadio right := ih _
      _ = (self.advance sliAesCryptEcbRadio (byte :: left)).advance sliAesCryptEcbRadio right := by
        rw [← advance_cons]

theorem encrypted_append (self : TxSecurityProcessing) (left right : List UInt8) :
    self.encrypted sliAesCryptEcbRadio (left ++ right) =
      self.encrypted sliAesCryptEcbRadio left ++
        (self.advance sliAesCryptEcbRadio left).encrypted sliAesCryptEcbRadio right := by
  induction left generalizing self with
  | nil => rfl
  | cons byte left ih =>
    set first := byte ^^^ self.ctr.padByte sliAesCryptEcbRadio (incrementCtr self.mNonceLength 15)
    calc
      _ = first ::
          (self.advance sliAesCryptEcbRadio [byte]).encrypted sliAesCryptEcbRadio (left ++ right) :=
        encrypted_cons self byte (left ++ right)
      _ = first :: ((self.advance sliAesCryptEcbRadio [byte]).encrypted sliAesCryptEcbRadio left ++
          ((self.advance sliAesCryptEcbRadio [byte]).advance sliAesCryptEcbRadio left).encrypted
            sliAesCryptEcbRadio right) := by
        rw [ih]
      _ = self.encrypted sliAesCryptEcbRadio (byte :: left) ++
          (self.advance sliAesCryptEcbRadio (byte :: left)).encrypted sliAesCryptEcbRadio
            right := by
        rw [encrypted_cons, advance_cons self byte left, List.cons_append]

@[simp]
theorem length_encrypted (self : TxSecurityProcessing) (bytes : List UInt8) :
    (self.encrypted sliAesCryptEcbRadio bytes).length = bytes.length :=
  CtrState.length_encrypt _ _ _ _

/-- What the end of the payload adds: the code is closed and the counter set back. -/
def closed (sliAesCryptEcbRadio : Block → Block) (self : TxSecurityProcessing) :
    TxSecurityProcessing :=
  { self with
    mBlock := self.mac.finish sliAesCryptEcbRadio
    mCtr := copyInto self.mCtr (self.mNonceLength + 1)
      (List.replicate (16 - self.mNonceLength - 1) 0)
    mPlainTextCur := self.mPlainTextLength }

theorem payload_of_lt {aPlainText aCipherText : ℕ} {piece : UInt32}
    (hapart : Apart aPlainText aCipherText piece.toNat)
    (hlt : self.mPlainTextCur.toNat + piece.toNat < self.mPlainTextLength.toNat) :
    self.payload sliAesCryptEcbRadio memory aPlainText aCipherText piece =
      some ({ self.advance sliAesCryptEcbRadio (memory.read aPlainText piece.toNat) with
          mPlainTextCur := self.mPlainTextCur + piece },
        memory.write aCipherText
          (self.encrypted sliAesCryptEcbRadio (memory.read aPlainText piece.toNat))) := by
  have hsum := toNat_add_of_le (Nat.le_of_lt hlt)
  have hle : self.mPlainTextCur + piece ≤ self.mPlainTextLength := by
    rw [UInt32.le_iff_toNat_le, hsum]
    exact Nat.le_of_lt hlt
  have hopen : ¬ self.mPlainTextCur + piece ≥ self.mPlainTextLength := by
    rw [ge_iff_le, UInt32.le_iff_toNat_le, hsum]
    exact Nat.not_le.mpr hlt
  simp only [payload, hle, if_true, payloadLoop_eq hapart, advance, setMac, setCtr, hopen,
    if_false]

theorem payload_of_eq {aPlainText aCipherText : ℕ} {piece : UInt32}
    (hapart : Apart aPlainText aCipherText piece.toNat)
    (heq : self.mPlainTextCur.toNat + piece.toNat = self.mPlainTextLength.toNat) :
    self.payload sliAesCryptEcbRadio memory aPlainText aCipherText piece =
      some ((self.advance sliAesCryptEcbRadio (memory.read aPlainText piece.toNat)).closed
          sliAesCryptEcbRadio,
        memory.write aCipherText
          (self.encrypted sliAesCryptEcbRadio (memory.read aPlainText piece.toNat))) := by
  have hsum : self.mPlainTextCur + piece = self.mPlainTextLength := by
    rw [← UInt32.toNat_inj, toNat_add_of_le (Nat.le_of_eq heq), heq]
  simp only [payload, hsum, UInt32.le_refl, ge_iff_le, if_true, payloadLoop_eq hapart]
  set advanced := self.advance sliAesCryptEcbRadio (memory.read aPlainText piece.toNat)
  have hkept : advanced.mPlainTextLength = self.mPlainTextLength := rfl
  have hcur : advanced.mPlainTextCur + piece = self.mPlainTextLength := hsum
  by_cases hopen : advanced.mBlockLength = 0
  · simp [closed, mac, MacState.finish, hopen, hkept, hcur]
  · simp [closed, mac, MacState.finish, hopen, hkept, hcur]

/-- The `Payload` calls for all pieces encrypt and authenticate the whole payload. -/
theorem payloads_of_cut {aPlainText aCipherText total : ℕ} {pieces : List UInt32}
    (hcut : Cut total pieces) (hapart : Apart aPlainText aCipherText total)
    (htotal : self.mPlainTextCur.toNat + total = self.mPlainTextLength.toNat) :
    self.payloads sliAesCryptEcbRadio memory aPlainText aCipherText pieces =
      some ((self.advance sliAesCryptEcbRadio (memory.read aPlainText total)).closed
          sliAesCryptEcbRadio,
        memory.write aCipherText
          (self.encrypted sliAesCryptEcbRadio (memory.read aPlainText total))) := by
  induction hcut generalizing self memory aPlainText aCipherText with
  | last piece => simp [payloads, payload_of_eq hapart htotal]
  | @more piece rest pieces hrest hcut ih =>
    have hlt : self.mPlainTextCur.toNat + piece.toNat < self.mPlainTextLength.toNat := by omega
    have hfirst : Apart aPlainText aCipherText piece.toNat := by
      rcases hapart with hle | hle
      · exact Or.inl hle
      · exact Or.inr (by omega)
    have hlater : Apart (aPlainText + piece.toNat) (aCipherText + piece.toNat) rest := by
      rcases hapart with hle | hle
      · exact Or.inl (by omega)
      · exact Or.inr (by omega)
    have hsum := toNat_add_of_le (Nat.le_of_lt hlt)
    -- The first piece is stored below or above what is still to be read.
    have hread : Memory.read (memory.write aCipherText
          (self.encrypted sliAesCryptEcbRadio (memory.read aPlainText piece.toNat)))
        (aPlainText + piece.toNat) rest = memory.read (aPlainText + piece.toNat) rest := by
      apply Memory.read_congr
      intro i hlow hhigh
      apply Memory.write_of_not_mem
      rw [length_encrypted, Memory.length_read]
      rcases hapart with hle | hle <;> omega
    have htotal' : (self.mPlainTextCur + piece).toNat + rest = self.mPlainTextLength.toNat := by
      omega
    rw [payloads, payload_of_lt hfirst hlt, Option.bind_some]
    simp only
    rw [ih hlater htotal', hread, Memory.read_add, advance_append, encrypted_append,
      Memory.write_append, length_encrypted, Memory.length_read]
    rfl

/-! ## A whole frame -/

section Frame

variable {limits : TagLimits} {headerLength plainTextLength : UInt32} {tagLength aNonce : ℕ}

/-- The flags that `Init` writes into the first block. -/
theorem flags_eq {header : List UInt8} (hheader : header.length = headerLength.toNat)
    (htag : tagLength % 2 = 0 ∧ 4 ≤ tagLength ∧ tagLength ≤ 16) :
    UInt8.ofNat ((if headerLength ≠ 0 then 1 else 0) <<< 6) |||
        UInt8.ofNat (((tagLength - 2) >>> 1) <<< 3) ||| UInt8.ofNat (2 - 1) =
      Ccm.flags tagLength 2 header := by
  have hempty : headerLength ≠ 0 ↔ ¬ header = [] := by
    rw [← List.length_eq_zero_iff, hheader, ne_eq, ← UInt32.toNat_inj]
    rfl
  have hcases : tagLength = 4 ∨ tagLength = 6 ∨ tagLength = 8 ∨ tagLength = 10 ∨
      tagLength = 12 ∨ tagLength = 14 ∨ tagLength = 16 := by omega
  by_cases hnil : header = []
  · have hzero : ¬ headerLength ≠ 0 := fun hne ↦ hempty.mp hne hnil
    simp only [Ccm.flags, hzero, hnil, if_true, if_false]
    rcases hcases with rfl | rfl | rfl | rfl | rfl | rfl | rfl <;> rfl
  · have hpos : headerLength ≠ 0 := hempty.mpr hnil
    simp only [Ccm.flags, hpos, hnil, ne_eq, not_false_eq_true, if_true, if_false]
    rcases hcases with rfl | rfl | rfl | rfl | rfl | rfl | rfl <;> rfl

/-- The members after `Init`: nothing of header and payload has been seen. -/
def started (mac : MacState) (ctr : CtrState) (headerLength plainTextLength : UInt32)
    (tagLength : ℕ) : TxSecurityProcessing where
  mBlock := mac.block
  mCtr := ctr.counter
  mCtrPad := ctr.pad
  mHeaderLength := headerLength
  mHeaderCur := 0
  mPlainTextLength := plainTextLength
  mPlainTextCur := 0
  mBlockLength := mac.length
  mCtrLength := ctr.used
  mNonceLength := 13
  mTagLength := tagLength

/-- `Init` leaves the code after `B_0` and the length of the header, and the counter at `A_0`. -/
theorem init_eq (hlimits : limits = ⟨4, 16⟩) (hlength : plainTextLength.toNat < 65536)
    (htag : tagLength % 2 = 0 ∧ 4 ≤ tagLength ∧ tagLength ≤ 16) {header payload : List UInt8}
    (hheader : header.length = headerLength.toNat)
    (hpayload : payload.length = plainTextLength.toNat) :
    self.init sliAesCryptEcbRadio limits memory headerLength plainTextLength tagLength aNonce 13 =
      some (started
        (MacState.absorbAll sliAesCryptEcbRadio ⟨sliAesCryptEcbRadio
          (Ccm.firstBlock tagLength 2 (memory.read aNonce 13) header payload), 0⟩
            (Ccm.headerLength header.length))
        ⟨Ccm.counterBlock 2 (memory.read aNonce 13) 0, self.mCtrPad, 16⟩
        headerLength plainTextLength tagLength) := by
  have hnonce : (memory.read aNonce 13).length = 13 := Memory.length_read memory aNonce 13
  have hroom : 0 + (Ccm.headerLength header.length).length ≤ 16 := by
    simp only [Ccm.headerLength]
    split_ifs <;> simp
  have hguard : tagLength % 2 = 0 ∧ limits.kMinTagLength ≤ tagLength ∧
      tagLength ≤ limits.kMaxTagLength := by
    rw [hlimits]
    exact htag
  rw [init, if_pos hguard, fieldSizes_of_lt hlength, MacState.absorbAll_of_le _ hroom]
  simp only [flags_eq hheader htag, firstBlock_eq hnonce, xorBytes_eq, headerLengthBytes_eq,
    ← hheader, counterBlock_eq hnonce, Ccm.firstBlock, ← hpayload, started]

/-- The tag that `Finalize` stores. -/
theorem tagBytes_eq (left right : Block) (htag : tagLength ≤ 16) :
    ((List.range tagLength).map fun i ↦ left[i]?.getD 0 ^^^ right[i]?.getD 0) =
      (left.xor right).toList.take tagLength := by
  apply List.ext_getElem
  · simp [htag]
  · intro i hleft hright
    have hi : i < 16 := by
      simp only [List.length_map, List.length_range] at hleft
      omega
    simp [hi]

/-- `Finalize` adds `S_0` to the value of the authentication code. -/
theorem finalize_eq (self : TxSecurityProcessing) (memory : Memory) (aTag : ℕ)
    (hdone : self.mPlainTextCur = self.mPlainTextLength) (htag : self.mTagLength ≤ 16) :
    self.finalize sliAesCryptEcbRadio memory aTag =
      some ({ self with mCtrPad := sliAesCryptEcbRadio self.mCtr }, memory.write aTag
        ((self.mBlock.xor (sliAesCryptEcbRadio self.mCtr)).toList.take self.mTagLength)) := by
  rw [← tagBytes_eq _ _ htag, finalize, if_pos hdone]

/-- At the end of the payload the code is that of `B_0`, header and payload. -/
theorem closed_mBlock {nonce header payload : List UInt8}
    (hmac : self.mac = ⟨MacState.finish sliAesCryptEcbRadio
      (MacState.absorbAll sliAesCryptEcbRadio ⟨sliAesCryptEcbRadio
        (Ccm.firstBlock tagLength 2 nonce header payload), 0⟩
          (Ccm.headerLength header.length ++ header)), 0⟩) :
    ((self.advance sliAesCryptEcbRadio payload).closed sliAesCryptEcbRadio).mBlock =
      Ccm.authValue sliAesCryptEcbRadio tagLength 2 nonce header payload := by
  rw [← Ccm.finish_eq_authValue, ← hmac]
  rfl

/-- With the counter at `A_0`, the loop of `Payload` stores the ciphertext. -/
theorem encrypted_eq_ciphertext {nonce : List UInt8} {pad : Block} (payload : List UInt8)
    (hnonce : nonce.length = 13) (hlength : self.mNonceLength = 13)
    (hctr : self.ctr = ⟨Ccm.counterBlock 2 nonce 0, pad, 16⟩) :
    self.encrypted sliAesCryptEcbRadio payload =
      Ccm.ciphertext sliAesCryptEcbRadio 2 nonce payload := by
  rw [encrypted, hctr, hlength]
  exact Ccm.encrypt_eq_ciphertext _ 2 nonce payload pad (incrementCtr_counterBlock hnonce)

/-- The end of the payload brings the counter back to `A_0`. -/
theorem closed_mCtr {nonce : List UInt8} {pad : Block} (payload : List UInt8)
    (hnonce : nonce.length = 13) (hlength : self.mNonceLength = 13)
    (hctr : self.ctr = ⟨Ccm.counterBlock 2 nonce 0, pad, 16⟩) :
    ((self.advance sliAesCryptEcbRadio payload).closed sliAesCryptEcbRadio).mCtr =
      Ccm.counterBlock 2 nonce 0 := by
  have hiterate (number : ℕ) : (incrementCtr 13 15)^[number] (Ccm.counterBlock 2 nonce 0) =
      Ccm.counterBlock 2 nonce number := by
    induction number with
    | zero => rfl
    | succ number ih =>
      rw [Function.iterate_succ_apply', ih, incrementCtr_counterBlock hnonce]
  have hat : CtrState.At sliAesCryptEcbRadio (incrementCtr 13 15) (Ccm.counterBlock 2 nonce 0)
      payload.length _ := CtrState.at_iterate pad payload.length
  have hcounter := hat.counter
  simp only [closed, advance, setCtr, setMac, hlength, hctr, hcounter, hiterate]
  exact copyInto_counterBlock hnonce _

/-- The calls for a frame whose nonce lies in a memory of its own store the ciphertext and then the
tag of CCM. -/
theorem calls_eq_ccm (sliAesCryptEcbRadio : Block → Block) (self : TxSecurityProcessing)
    (nonceMemory memory : Memory) (frame : FrameBuffers) {headerPieces payloadPieces : List UInt32}
    (hlimits : limits = ⟨4, 16⟩) (hlength : frame.plainTextLength.toNat < 65536)
    (htag : frame.tagLength % 2 = 0 ∧ 4 ≤ frame.tagLength ∧ frame.tagLength ≤ 16)
    (hheader : Cut frame.headerLength.toNat headerPieces)
    (hpayload : Cut frame.plainTextLength.toNat payloadPieces)
    (hapart : Apart frame.aPlainText frame.aCipherText frame.plainTextLength.toNat) :
    (do
      let self ← self.init sliAesCryptEcbRadio limits nonceMemory frame.headerLength
        frame.plainTextLength frame.tagLength frame.aNonce 13
      let self ← self.headers sliAesCryptEcbRadio memory frame.aHeader headerPieces
      let (self, memory) ← self.payloads sliAesCryptEcbRadio memory frame.aPlainText
        frame.aCipherText payloadPieces
      let (_, memory) ← self.finalize sliAesCryptEcbRadio memory frame.aTag
      return memory) =
      some ((memory.write frame.aCipherText
        (Ccm.ciphertext sliAesCryptEcbRadio 2 (frame.nonce nonceMemory)
          (frame.payload memory))).write frame.aTag
            (Ccm.tag sliAesCryptEcbRadio frame.tagLength 2 (frame.nonce nonceMemory)
              (frame.header memory) (frame.payload memory))) := by
  have hnonce : (frame.nonce nonceMemory).length = 13 := Memory.length_read nonceMemory _ 13
  have hheaderLength : (frame.header memory).length = frame.headerLength.toNat :=
    Memory.length_read memory _ _
  have hpayloadLength : (frame.payload memory).length = frame.plainTextLength.toNat :=
    Memory.length_read memory _ _
  let start := started
    (MacState.absorbAll sliAesCryptEcbRadio ⟨sliAesCryptEcbRadio
      (Ccm.firstBlock frame.tagLength 2 (frame.nonce nonceMemory) (frame.header memory)
        (frame.payload memory)), 0⟩ (Ccm.headerLength (frame.header memory).length))
    ⟨Ccm.counterBlock 2 (frame.nonce nonceMemory) 0, self.mCtrPad, 16⟩
    frame.headerLength frame.plainTextLength frame.tagLength
  let authenticated : TxSecurityProcessing :=
    { start.setMac ⟨(start.mac.absorbAll sliAesCryptEcbRadio (frame.header memory)).finish
        sliAesCryptEcbRadio, 0⟩ with mHeaderCur := start.mHeaderLength }
  have hinit : self.init sliAesCryptEcbRadio limits nonceMemory frame.headerLength
      frame.plainTextLength frame.tagLength frame.aNonce 13 = some start :=
    init_eq hlimits hlength htag hheaderLength hpayloadLength
  have hheaders : start.headers sliAesCryptEcbRadio memory frame.aHeader headerPieces =
      some authenticated := headers_of_cut hheader (Nat.zero_add _)
  have hpayloads : authenticated.payloads sliAesCryptEcbRadio memory frame.aPlainText
      frame.aCipherText payloadPieces =
        some ((authenticated.advance sliAesCryptEcbRadio (frame.payload memory)).closed
            sliAesCryptEcbRadio,
          memory.write frame.aCipherText
            (authenticated.encrypted sliAesCryptEcbRadio (frame.payload memory))) :=
    payloads_of_cut hpayload hapart (Nat.zero_add _)
  have hmac : authenticated.mac = ⟨MacState.finish sliAesCryptEcbRadio
      (MacState.absorbAll sliAesCryptEcbRadio ⟨sliAesCryptEcbRadio
        (Ccm.firstBlock frame.tagLength 2 (frame.nonce nonceMemory) (frame.header memory)
          (frame.payload memory)), 0⟩
            (Ccm.headerLength (frame.header memory).length ++ frame.header memory)), 0⟩ := by
    rw [MacState.absorbAll_append]
    rfl
  have hctr : authenticated.ctr =
      ⟨Ccm.counterBlock 2 (frame.nonce nonceMemory) 0, self.mCtrPad, 16⟩ := rfl
  calc
    _ = some ((memory.write frame.aCipherText
          (authenticated.encrypted sliAesCryptEcbRadio (frame.payload memory))).write frame.aTag
            ((((authenticated.advance sliAesCryptEcbRadio (frame.payload memory)).closed
              sliAesCryptEcbRadio).mBlock.xor (sliAesCryptEcbRadio
                ((authenticated.advance sliAesCryptEcbRadio (frame.payload memory)).closed
                  sliAesCryptEcbRadio).mCtr)).toList.take frame.tagLength)) := by
      simp only [hinit, hheaders, hpayloads, Option.bind_eq_bind, Option.bind_some]
      rw [finalize_eq _ _ frame.aTag rfl htag.2.2]
      rfl
    _ = _ := by
      rw [closed_mBlock hmac, closed_mCtr _ hnonce rfl hctr,
        encrypted_eq_ciphertext _ hnonce rfl hctr, Ccm.tag]

/-- For every block cipher, nonce, header and payload, in whatever pieces they are given and also
when the payload is encrypted in place, the calls store the ciphertext and then the tag of CCM. -/
theorem encryptFrame_eq_ccm (sliAesCryptEcbRadio : Block → Block) (self : TxSecurityProcessing)
    (memory : Memory) (frame : FrameBuffers) {headerPieces payloadPieces : List UInt32}
    (hlimits : limits = ⟨4, 16⟩) (hlength : frame.plainTextLength.toNat < 65536)
    (htag : frame.tagLength % 2 = 0 ∧ 4 ≤ frame.tagLength ∧ frame.tagLength ≤ 16)
    (hheader : Pieces frame.headerLength headerPieces)
    (hpayload : Pieces frame.plainTextLength payloadPieces)
    (hapart : Apart frame.aPlainText frame.aCipherText frame.plainTextLength.toNat) :
    encryptFrame sliAesCryptEcbRadio self limits memory frame headerPieces payloadPieces =
      some ((memory.write frame.aCipherText
        (Ccm.ciphertext sliAesCryptEcbRadio 2 (frame.nonce memory) (frame.payload memory))).write
          frame.aTag
            (Ccm.tag sliAesCryptEcbRadio frame.tagLength 2 (frame.nonce memory)
              (frame.header memory) (frame.payload memory))) :=
  calls_eq_ccm sliAesCryptEcbRadio self memory memory frame hlimits hlength htag hheader.cut
    hpayload.cut hapart

/-- A cipher that reverses the bytes of a block and increments each. -/
def reversingCipher (block : Block) : Block := Vector.ofFn fun i ↦ block[15 - i.val] + 1

def countingMemory : Memory := fun address ↦ UInt8.ofNat (3 * address)

/-- A header of nineteen bytes, a payload of twenty encrypted in place, and the tag behind it. -/
def inPlaceFrame : FrameBuffers where
  aHeader := 0
  aPlainText := 19
  aCipherText := 19
  aTag := 39
  aNonce := 50
  headerLength := 19
  plainTextLength := 20
  tagLength := 4

theorem encryptFrame_eq_ccm_inPlaceFrame :
    encryptFrame reversingCipher (started ⟨Block.ofBytes [], 0⟩
        ⟨Block.ofBytes [], Block.ofBytes [], 0⟩ 0 0 0) ⟨4, 16⟩ countingMemory inPlaceFrame
        [16, 3] [1, 15, 4] =
      some ((countingMemory.write inPlaceFrame.aCipherText
        (Ccm.ciphertext reversingCipher 2 (inPlaceFrame.nonce countingMemory)
          (inPlaceFrame.payload countingMemory))).write inPlaceFrame.aTag
            (Ccm.tag reversingCipher inPlaceFrame.tagLength 2 (inPlaceFrame.nonce countingMemory)
              (inPlaceFrame.header countingMemory) (inPlaceFrame.payload countingMemory))) :=
  encryptFrame_eq_ccm reversingCipher _ countingMemory inPlaceFrame rfl (by decide) (by decide)
    (by decide) (by decide) (Or.inl (Nat.le_refl 19))

end Frame

end TxSecurityProcessing

end OtEfr32.Packet
