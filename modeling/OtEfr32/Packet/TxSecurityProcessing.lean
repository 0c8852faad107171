import OtEfr32.Crypto.Ccm
import OtEfr32.Data.Memory

/-!
# The streaming encryption of transmitted frames

`TxSecurityProcessing` is given the lengths and the nonce by `Init`, then the header and the payload
in any number of pieces, and yields the tag in `Finalize`.  `sliAesCryptEcbRadio` is the encryption
of one block under the key that `SetKey` was given.  Buffers lie in a memory, so that a payload may
be encrypted in place; a failed assertion is `none`.
-/

namespace OtEfr32.Packet

open OtEfr32.Crypto OtEfr32.Data

/-- The members of the class but for the key. -/
structure TxSecurityProcessing where
  mBlock : Block
  mCtr : Block
  mCtrPad : Block
  mHeaderLength : UInt32
  mHeaderCur : UInt32
  mPlainTextLength : UInt32
  mPlainTextCur : UInt32
  mBlockLength : ℕ
  mCtrLength : ℕ
  mNonceLength : ℕ
  mTagLength : ℕ
deriving DecidableEq

/-- `Crypto::AesCcm::kMinTagLength` and `kMaxTagLength` of the OpenThread core. -/
structure TagLimits where
  kMinTagLength : ℕ
  kMaxTagLength : ℕ
deriving DecidableEq

/-- `block[index] ^= byte`. -/
def xorByte (block : Block) (index : ℕ) (byte : UInt8) : Block :=
  block.setIfInBounds index (block[index]?.getD 0 ^^^ byte)

/-- `memcpy(&block[index], bytes, bytes.length)`. -/
def copyInto (block : Block) (index : ℕ) (bytes : List UInt8) : Block :=
  Vector.ofFn fun i ↦
    if index ≤ i ∧ i < index + bytes.length then bytes.getD (i - index) 0 else block.get i

namespace TxSecurityProcessing

/-- How often `len` can be shifted by a byte before it is zero. -/
def significantBytes (len : ℕ) : ℕ :=
  if len = 0 then 0 else significantBytes (len / 256) + 1
termination_by len

/-- The sizes `L` and `aNonceLength` that `Init` settles on. -/
def fieldSizes (aPlainTextLength : UInt32) (aNonceLength : ℕ) : ℕ × ℕ :=
  let L := significantBytes aPlainTextLength.toNat
  let L := if L ≤ 1 then 2 else L
  let aNonceLength := if aNonceLength > 13 then 13 else aNonceLength
  let L := if L < 15 - aNonceLength then 15 - aNonceLength else L
  let aNonceLength := if aNonceLength > 15 - L then 15 - L else aNonceLength
  (L, aNonceLength)

/-- Stores `len` at the end of the block, from byte `i` down to the nonce. -/
def writeLength (aNonceLength : ℕ) : (i : ℕ) → (len : UInt32) → Block → Block
  | 0, _, mBlock => mBlock
  | i + 1, len, mBlock =>
    if i + 1 > aNonceLength then
      writeLength aNonceLength i (len >>> 8) (mBlock.setIfInBounds (i + 1) len.toUInt8)
    else mBlock

/-- The bytes that encode the length of the header. -/
def headerLengthBytes (aHeaderLength : UInt32) : List UInt8 :=
  if aHeaderLength > 0 then
    if aHeaderLength < 65536 - 256 then
      [(aHeaderLength >>> 8).toUInt8, aHeaderLength.toUInt8]
    else
      [0xff, 0xfe, (aHeaderLength >>> 24).toUInt8, (aHeaderLength >>> 16).toUInt8,
        (aHeaderLength >>> 8).toUInt8, aHeaderLength.toUInt8]
  else []

/-- `mBlock[blockLength++] ^= byte` for one byte after the other. -/
def xorBytes (mBlock : Block) (blockLength : ℕ) : List UInt8 → Block × ℕ
  | [] => (mBlock, blockLength)
  | byte :: bytes => xorBytes (xorByte mBlock blockLength byte) (blockLength + 1) bytes

/-- Increments the counter from byte `j` down to the nonce, as far as the carry goes. -/
def incrementCtr (mNonceLength : ℕ) : (j : ℕ) → Block → Block
  | 0, mCtr => mCtr
  | j + 1, mCtr =>
    if j + 1 > mNonceLength then
      let byte := mCtr[j + 1]?.getD 0 + 1
      let mCtr := mCtr.setIfInBounds (j + 1) byte
      if byte ≠ 0 then mCtr else incrementCtr mNonceLength j mCtr
    else mCtr

section Operations

variable (sliAesCryptEcbRadio : Block → Block)

/-- `Init`; the members that it does not set keep what they held. -/
def init (self : TxSecurityProcessing) (limits : TagLimits) (memory : Memory)
    (aHeaderLength aPlainTextLength : UInt32) (aTagLength aNonce aNonceLength : ℕ) :
    Option TxSecurityProcessing :=
  if aTagLength % 2 = 0 ∧ limits.kMinTagLength ≤ aTagLength ∧
      aTagLength ≤ limits.kMaxTagLength then
    let (L, aNonceLength) := fieldSizes aPlainTextLength aNonceLength
    let nonceBytes := memory.read aNonce aNonceLength
    let flags : UInt8 := UInt8.ofNat ((if aHeaderLength ≠ 0 then 1 else 0) <<< 6) |||
      UInt8.ofNat (((aTagLength - 2) >>> 1) <<< 3) ||| UInt8.ofNat (L - 1)
    let mBlock := copyInto (self.mBlock.setIfInBounds 0 flags) 1 nonceBytes
    let mBlock := sliAesCryptEcbRadio (writeLength aNonceLength 15 aPlainTextLength mBlock)
    let (mBlock, blockLength) := xorBytes mBlock 0 (headerLengthBytes aHeaderLength)
    let mCtr := copyInto (self.mCtr.setIfInBounds 0 (UInt8.ofNat (L - 1))) 1 nonceBytes
    let mCtr := copyInto mCtr (aNonceLength + 1) (List.replicate (16 - aNonceLength - 1) 0)
    some { self with
      mBlock := mBlock
      mCtr := mCtr
      mNonceLength := aNonceLength
      mHeaderLength := aHeaderLength
      mHeaderCur := 0
      mPlainTextLength := aPlainTextLength
      mPlainTextCur := 0
      mBlockLength := blockLength
      mCtrLength := 16
      mTagLength := aTagLength }
  else none

/-- Adds a byte to the current block of the authentication code. -/
def macByte (self : TxSecurityProcessing) (byte : UInt8) : TxSecurityProcessing :=
  let self := if self.mBlockLength = 16 then
      { self with mBlock := sliAesCryptEcbRadio self.mBlock, mBlockLength := 0 }
    else self
  { self with
    mBlock := xorByte self.mBlock self.mBlockLength byte
    mBlockLength := self.mBlockLength + 1 }

/-- `Header`. -/
def header (self : TxSecurityProcessing) (memory : Memory) (aHeader : ℕ)
    (aHeaderLength : UInt32) : Option TxSecurityProcessing :=
  if self.mHeaderCur + aHeaderLength ≤ self.mHeaderLength then
    let self := (memory.read aHeader aHeaderLength.toNat).foldl (macByte sliAesCryptEcbRadio) self
    let self := { self with mHeaderCur := self.mHeaderCur + aHeaderLength }
    if self.mHeaderCur = self.mHeaderLength then
      let self := if self.mBlockLength ≠ 0 then
          { self with mBlock := sliAesCryptEcbRadio self.mBlock }
        else self
      some { self with mBlockLength := 0 }
    else some self
  else none

/-- Sees to it that the pad has a byte left. -/
def refillPad (self : TxSecurityProcessing) : TxSecurityProcessing :=
  if self.mCtrLength = 16 then
    let mCtr := incrementCtr self.mNonceLength 15 self.mCtr
    { self with mCtr := mCtr, mCtrPad := sliAesCryptEcbRadio mCtr, mCtrLength := 0 }
  else self

/-- The loop of `Payload`: the plaintext byte is read before the ciphertext byte is stored. -/
def payloadLoop : (count plaintextBytes ciphertextBytes : ℕ) →
    TxSecurityProcessing × Memory → TxSecurityProcessing × Memory
  | 0, _, _, state => state
  | count + 1, plaintextBytes, ciphertextBytes, (self, memory) =>
    let self := self.refillPad sliAesCryptEcbRadio
    let byte := memory plaintextBytes
    let memory := Function.update memory ciphertextBytes
      (byte ^^^ self.mCtrPad[self.mCtrLength]?.getD 0)
    let self := { self with mCtrLength := self.mCtrLength + 1 }
    payloadLoop count (plaintextBytes + 1) (ciphertextBytes + 1)
      (self.macByte sliAesCryptEcbRadio byte, memory)

/-- `Payload`. -/
def payload (self : TxSecurityProcessing) (memory : Memory) (aPlainText aCipherText : ℕ)
    (aLength : UInt32) : Option (TxSecurityProcessing × Memory) :=
  if self.mPlainTextCur + aLength ≤ self.mPlainTextLength then
    let (self, memory) :=
      payloadLoop sliAesCryptEcbRadio aLength.toNat aPlainText aCipherText (self, memory)
    let self := { self with mPlainTextCur := self.mPlainTextCur + aLength }
    if self.mPlainTextCur ≥ self.mPlainTextLength then
      let self := if self.mBlockLength ≠ 0 then
          { self with mBlock := sliAesCryptEcbRadio self.mBlock }
        else self
      let zeros := List.replicate (16 - self.mNonceLength - 1) 0
      some ({ self with mCtr := copyInto self.mCtr (self.mNonceLength + 1) zeros }, memory)
    else some (self, memory)
  else none

/-- `Finalize`. -/
def finalize (self : TxSecurityProcessing) (memory : Memory) (aTag : ℕ) :
    Option (TxSecurityProcessing × Memory) :=
  if self.mPlainTextCur = self.mPlainTextLength then
    let self := { self with mCtrPad := sliAesCryptEcbRadio self.mCtr }
    let tagBytes := (List.range self.mTagLength).map fun i ↦
      self.mBlock[i]?.getD 0 ^^^ self.mCtrPad[i]?.getD 0
    some (self, memory.write aTag tagBytes)
  else none

end Operations

end TxSecurityProcessing

end OtEfr32.Packet
