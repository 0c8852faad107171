import OtEfr32.Packet.TxSecurityProcessing

/-!
# The blocks that `Init` writes

With a nonce of thirteen bytes and a payload of less than 65536, `Init` encrypts block `B_0` of
CCM, adds the encoding of the header's length and sets the counter to `A_0`; each increment of the
counter leads from `A_i` to `A_{i+1}`, and the end of the payload leads back to `A_0`.
-/

namespace OtEfr32.Packet

open OtEfr32.Crypto

theorem xorByte_eq_xorAt (block : Block) (index : ℕ) (byte : UInt8) :
    xorByte block index byte = block.xorAt index [byte] := by
  ext i hi
  by_cases hindex : index = i
  · subst hindex
    simp [xorByte, hi]
  · have hzero : (if index ≤ i then [byte].getD (i - index) 0 else 0) = 0 := by
      by_cases hle : index ≤ i
      · have hpos : i - index ≠ 0 := by omega
        obtain ⟨rest, hrest⟩ := Nat.exists_eq_succ_of_ne_zero hpos
        simp [hrest]
      · simp [hle]
    simp only [xorByte, Block.getElem_xorAt, hzero]
    rw [Vector.getElem_setIfInBounds_ne hi hindex]
    simp

namespace TxSecurityProcessing

theorem xorBytes_eq (mBlock : Block) (blockLength : ℕ) (bytes : List UInt8) :
    xorBytes mBlock blockLength bytes =
      (mBlock.xorAt blockLength bytes, blockLength + bytes.length) := by
  induction bytes generalizing mBlock blockLength with
  | nil => simp [xorBytes, Block.xorAt_nil]
  | cons byte bytes ih =>
    rw [xorBytes, ih, xorByte_eq_xorAt, ← Block.xorAt_cons, List.length_cons]
    simp only [Nat.add_assoc, Nat.add_comm 1]

variable {nonce : List UInt8} {high low : UInt8}

/-- The bytes of a block made of a first byte, a nonce and two bytes. -/
theorem getElem_framed (first : UInt8) (hnonce : nonce.length = 13) (i : ℕ) (hi : i < 16) :
    (Block.ofBytes (first :: nonce ++ [high, low]))[i] =
      if i = 0 then first else if i < 14 then nonce.getD (i - 1) 0
      else if i = 14 then high else low := by
  rw [Block.getElem_ofBytes, List.getD_eq_getElem?_getD]
  cases i with
  | zero => simp
  | succ i =>
    simp only [List.cons_append, List.getElem?_cons_succ, Nat.succ_ne_zero, if_false,
      Nat.add_sub_cancel]
    by_cases hlow : i < 13
    · rw [List.getElem?_append_left (by omega)]
      simp [Nat.succ_lt_succ hlow]
    · rw [List.getElem?_append_right (by omega), hnonce]
      have hcases : i = 13 ∨ i = 14 := by omega
      rcases hcases with rfl | rfl <;> simp

theorem significantBytes_of_lt {len : ℕ} (hlen : len < 65536) : significantBytes len ≤ 2 := by
  have hzero : significantBytes 0 = 0 := by
    rw [significantBytes, if_pos rfl]
  have hone (len : ℕ) (hlen : len < 256) : significantBytes len ≤ 1 := by
    rw [significantBytes]
    have hquot : len / 256 = 0 := by omega
    split
    · omega
    · rw [hquot, hzero]
  rw [significantBytes]
  split
  · omega
  · have hquot : significantBytes (len / 256) ≤ 1 := hone _ (by omega)
    omega

/-- A short text leaves two bytes for its length next to a nonce of thirteen bytes. -/
theorem fieldSizes_of_lt {aPlainTextLength : UInt32} (hlen : aPlainTextLength.toNat < 65536) :
    fieldSizes aPlainTextLength 13 = (2, 13) := by
  have hbytes : significantBytes aPlainTextLength.toNat ≤ 2 := significantBytes_of_lt hlen
  have hL : (if significantBytes aPlainTextLength.toNat ≤ 1 then 2
      else significantBytes aPlainTextLength.toNat) = 2 := by
    split
    · rfl
    · omega
  simp [fieldSizes, hL]

/-- The byte of a number that a shift by `k` bytes brings to its end. -/
theorem toUInt8_shiftRight (value shift : UInt32) (k : ℕ) (hk : k < 4)
    (hshift : shift.toNat = 8 * k) :
    (value >>> shift).toUInt8 = UInt8.ofNat (value.toNat / 256 ^ k) := by
  have hpow : 256 ^ k = 2 ^ (8 * k) := by rw [Nat.pow_mul]
  have hsmall : 8 * k % 32 = 8 * k := Nat.mod_eq_of_lt (by omega)
  apply UInt8.toNat_inj.mp
  calc
    (value >>> shift).toUInt8.toNat = value.toNat >>> (8 * k) % 2 ^ 8 := by
      rw [UInt32.toNat_toUInt8, UInt32.toNat_shiftRight, hshift, hsmall]
    _ = value.toNat / 256 ^ k % 2 ^ 8 := by rw [Nat.shiftRight_eq_div_pow, hpow]
    _ = (UInt8.ofNat (value.toNat / 256 ^ k)).toNat := UInt8.toNat_ofNat'.symm

theorem toUInt8_eq_ofNat (value : UInt32) : value.toUInt8 = UInt8.ofNat (value.toNat / 256 ^ 0) :=
  toUInt8_shiftRight value 0 0 (by decide) rfl

theorem headerLengthBytes_eq (aHeaderLength : UInt32) :
    headerLengthBytes aHeaderLength = Ccm.headerLength aHeaderLength.toNat := by
  have hpos : aHeaderLength > 0 ↔ aHeaderLength.toNat ≠ 0 := by
    rw [gt_iff_lt, UInt32.lt_iff_toNat_lt]
    exact Nat.pos_iff_ne_zero
  have hshort : aHeaderLength < 65536 - 256 ↔ aHeaderLength.toNat < 65536 - 256 :=
    UInt32.lt_iff_toNat_lt
  have hlong : aHeaderLength.toNat < 4294967296 := aHeaderLength.toNat_lt
  have hbytes (k : ℕ) (hk : k < 4) (shift : UInt32) (hshift : shift.toNat = 8 * k) :=
    toUInt8_shiftRight aHeaderLength shift k hk hshift
  simp only [headerLengthBytes, Ccm.headerLength, hpos, hshort, hlong, bigEndian, ite_not,
    toUInt8_eq_ofNat aHeaderLength, hbytes 1 (by decide) 8 rfl, hbytes 2 (by decide) 16 rfl,
    hbytes 3 (by decide) 24 rfl, if_true]

theorem eq_framed {block : Block} {first : UInt8} (hnonce : nonce.length = 13)
    (hfirst : block[0] = first)
    (hmiddle : ∀ (i : ℕ) (hi : i < 13), block[i + 1] = nonce.getD i 0)
    (hhigh : block[14] = high) (hlow : block[15] = low) :
    block = Block.ofBytes (first :: nonce ++ [high, low]) := by
  ext i hi
  rw [getElem_framed first hnonce i hi]
  rcases Nat.lt_or_ge i 14 with hlt | hge
  · cases i with
    | zero => simpa using congrArg UInt8.toNat hfirst
    | succ i =>
      rw [if_neg (Nat.succ_ne_zero i), if_pos hlt, hmiddle i (by omega), Nat.add_sub_cancel]
  · have hcases : i = 14 ∨ i = 15 := by omega
    rcases hcases with rfl | rfl
    · simp [hhigh]
    · simp [hlow]

theorem getElem_copyInto (block : Block) (index : ℕ) (bytes : List UInt8) (i : ℕ) (hi : i < 16) :
    (copyInto block index bytes)[i] =
      if index ≤ i ∧ i < index + bytes.length then bytes.getD (i - index) 0 else block[i] := by
  simp only [copyInto, Vector.getElem_ofFn]
  rfl

/-- What `Init` encrypts first. -/
theorem firstBlock_eq {block : Block} {flags : UInt8} {aPlainTextLength : UInt32}
    (hnonce : nonce.length = 13) :
    writeLength 13 15 aPlainTextLength (copyInto (block.setIfInBounds 0 flags) 1 nonce) =
      Block.ofBytes (flags :: nonce ++ bigEndian 2 aPlainTextLength.toNat) := by
  have hloop (block : Block) : writeLength 13 15 aPlainTextLength block =
      (block.setIfInBounds 15 aPlainTextLength.toUInt8).setIfInBounds 14
        (aPlainTextLength >>> 8).toUInt8 := rfl
  rw [hloop, toUInt8_eq_ofNat, toUInt8_shiftRight aPlainTextLength 8 1 (by decide) rfl]
  apply eq_framed hnonce
  case hfirst => simp [getElem_copyInto]
  case hmiddle =>
    intro i hi
    have hlow : 15 ≠ i + 1 := by omega
    have hhigh : 14 ≠ i + 1 := by omega
    rw [Vector.getElem_setIfInBounds_ne _ hhigh, Vector.getElem_setIfInBounds_ne _ hlow,
      getElem_copyInto, hnonce, if_pos (by omega), Nat.add_sub_cancel]
  case hhigh => simp
  case hlow => simp

theorem getElem_counterBlock (hnonce : nonce.length = 13) (number i : ℕ) (hi : i < 16) :
    (Ccm.counterBlock 2 nonce number)[i] =
      if i = 0 then UInt8.ofNat 1 else if i < 14 then nonce.getD (i - 1) 0
      else if i = 14 then UInt8.ofNat (number / 256 ^ 1) else UInt8.ofNat (number / 256 ^ 0) :=
  getElem_framed (UInt8.ofNat 1) hnonce i hi

/-- What the counter is before the first byte of the payload. -/
theorem counterBlock_eq {block : Block} (hnonce : nonce.length = 13) :
    copyInto (copyInto (block.setIfInBounds 0 (UInt8.ofNat 1)) 1 nonce) 14 (List.replicate 2 0) =
      Ccm.counterBlock 2 nonce 0 := by
  apply eq_framed hnonce
  case hfirst => simp [getElem_copyInto]
  case hmiddle =>
    intro i hi
    have hzeros : ¬ (14 ≤ i + 1 ∧ i + 1 < 14 + (List.replicate 2 (0 : UInt8)).length) := by omega
    rw [getElem_copyInto, if_neg hzeros, getElem_copyInto, hnonce, if_pos (by omega),
      Nat.add_sub_cancel]
  case hhigh => simp [getElem_copyInto]
  case hlow => simp [getElem_copyInto]

/-- The zeros that end the payload bring the counter back to its start. -/
theorem copyInto_counterBlock (hnonce : nonce.length = 13) (number : ℕ) :
    copyInto (Ccm.counterBlock 2 nonce number) 14 (List.replicate 2 0) =
      Ccm.counterBlock 2 nonce 0 := by
  ext i hi
  rw [getElem_copyInto, getElem_counterBlock hnonce, getElem_counterBlock hnonce]
  rcases Nat.lt_or_ge i 14 with hlt | hge
  · have hzeros : ¬ (14 ≤ i ∧ i < 14 + (List.replicate 2 (0 : UInt8)).length) := by omega
    rw [if_neg hzeros, if_pos hlt, if_pos hlt]
  · have hcases : i = 14 ∨ i = 15 := by omega
    rcases hcases with rfl | rfl <;> simp

/-- The two counter bytes are incremented with their carry. -/
theorem incrementCtr_counterBlock (hnonce : nonce.length = 13) (number : ℕ) :
    incrementCtr 13 15 (Ccm.counterBlock 2 nonce number) =
      Ccm.counterBlock 2 nonce (number + 1) := by
  have hraw (mCtr : Block) : incrementCtr 13 15 mCtr =
      if mCtr[15]?.getD 0 + 1 ≠ 0 then mCtr.setIfInBounds 15 (mCtr[15]?.getD 0 + 1)
      else
        let mCtr := mCtr.setIfInBounds 15 (mCtr[15]?.getD 0 + 1)
        if mCtr[14]?.getD 0 + 1 ≠ 0 then mCtr.setIfInBounds 14 (mCtr[14]?.getD 0 + 1)
        else mCtr.setIfInBounds 14 (mCtr[14]?.getD 0 + 1) := rfl
  have hbytes (i : ℕ) (hi : i < 16) := getElem_counterBlock hnonce number i hi
  have hlow : (Ccm.counterBlock 2 nonce number)[15]?.getD 0 + 1 = UInt8.ofNat (number + 1) := by
    simp [hbytes 15 (by decide), UInt8.ofNat_add]
  have hhigh : (Ccm.counterBlock 2 nonce number)[14]?.getD 0 = UInt8.ofNat (number / 256) := by
    simp [hbytes 14 (by decide)]
  have hmiddle (i : ℕ) (hi : i < 13) :
      (Ccm.counterBlock 2 nonce number)[i + 1] = nonce.getD i 0 := by
    rw [hbytes (i + 1) (by omega), if_neg (Nat.succ_ne_zero i), if_pos (by omega),
      Nat.add_sub_cancel]
  have hne14 (i : ℕ) (hi : i < 13) : 14 ≠ i + 1 := by omega
  have hne15 (i : ℕ) (hi : i < 13) : 15 ≠ i + 1 := by omega
  have hzero : UInt8.ofNat (number + 1) = 0 ↔ (number + 1) % 256 = 0 := by
    rw [← UInt8.toNat_inj]
    simp
  rw [hraw, hlow]
  by_cases hcarry : UInt8.ofNat (number + 1) = 0
  · have hquot : (number + 1) / 256 = number / 256 + 1 := by
      have := hzero.mp hcarry
      omega
    have hkept : ((Ccm.counterBlock 2 nonce number).setIfInBounds 15
        (UInt8.ofNat (number + 1)))[14]?.getD 0 = UInt8.ofNat (number / 256) := by
      simpa using hhigh
    simp only [ne_eq, hcarry, not_true_eq_false, if_false, ite_self] at hkept ⊢
    rw [hkept]
    apply eq_framed hnonce
    case hfirst => simp [hbytes 0 (by decide)]
    case hmiddle =>
      intro i hi
      rw [Vector.getElem_setIfInBounds_ne _ (hne14 i hi),
        Vector.getElem_setIfInBounds_ne _ (hne15 i hi), hmiddle i hi]
    case hhigh => simp [hquot, UInt8.ofNat_add]
    case hlow => simp [hcarry]
  · have hquot : (number + 1) / 256 = number / 256 := by
      have hne : (number + 1) % 256 ≠ 0 := fun hmod ↦ hcarry (hzero.mpr hmod)
      omega
    simp only [ne_eq, hcarry, not_false_eq_true, if_true]
    apply eq_framed hnonce
    case hfirst => simp [hbytes 0 (by decide)]
    case hmiddle =>
      intro i hi
      rw [Vector.getElem_setIfInBounds_ne _ (hne15 i hi), hmiddle i hi]
    case hhigh => simp [hbytes 14 (by decide), hquot]
    case hlow => simp

end TxSecurityProcessing

end OtEfr32.Packet
