import OtEfr32.Packet.AesCcm

/-!
# The two hardware paths

`efr32PlatProcessTransmitAesCcm` secures a frame in place, with `TxSecurityProcessing` on chips with
RADIOAES and with `sli_crypto_ccm` on those with LPWAES.  The first encrypts the payload at every
security level.  The second takes it as the message of CCM at the levels that encrypt and leaves it
out at the others, also out of the associated data.  The two agree with each other and with CCM*
where the level encrypts or the payload is empty, and on no other kind of frame.
-/

namespace OtEfr32.Packet

open OtEfr32.Crypto OtEfr32.Data

/-- `Mac::Frame::SecurityLevel`. -/
inductive SecurityLevel where
  | kSecurityNone
  | kSecurityMic32
  | kSecurityMic64
  | kSecurityMic128
  | kSecurityEnc
  | kSecurityEncMic32
  | kSecurityEncMic64
  | kSecurityEncMic128
deriving DecidableEq, Repr

namespace SecurityLevel

/-- The number of a level in the auxiliary security header. -/
def value : SecurityLevel → ℕ
  | kSecurityNone => 0
  | kSecurityMic32 => 1
  | kSecurityMic64 => 2
  | kSecurityMic128 => 3
  | kSecurityEnc => 4
  | kSecurityEncMic32 => 5
  | kSecurityEncMic64 => 6
  | kSecurityEncMic128 => 7

/-- The length of the integrity code at a level. -/
def micLength : SecurityLevel → ℕ
  | kSecurityNone => 0
  | kSecurityMic32 => 4
  | kSecurityMic64 => 8
  | kSecurityMic128 => 16
  | kSecurityEnc => 0
  | kSecurityEncMic32 => 4
  | kSecurityEncMic64 => 8
  | kSecurityEncMic128 => 16

/-- `securityLevel >= Mac::Frame::SecurityLevel::kSecurityEnc`. -/
def encrypts (securityLevel : SecurityLevel) : Bool :=
  securityLevel.value ≥ kSecurityEnc.value

end SecurityLevel

/-- `Mac::Frame::Lengths`. -/
structure Lengths where
  mHeader : UInt16
  mPayload : UInt16
  mFooter : UInt16
deriving DecidableEq, Repr

/-- What the function reads of a frame: its members and the results of the accessors, which are
`none` where these return an error. -/
structure TxFrame where
  getSecurityEnabled : Bool
  determineLengths : Option Lengths
  getSecurityLevel : Option SecurityLevel
  getFrameCounter : Option UInt32
  getFcsSize : UInt8
  /-- Where the PSDU begins. -/
  getPsdu : ℕ
  /-- The AES key in `mInfo.mTxInfo.mAesKey`. -/
  mAesKey : Block
  mIsSecurityProcessed : Bool
deriving DecidableEq

/-- The arguments of `sli_crypto_ccm` for encryption, with the key of the descriptor and the bytes
of the nonce. -/
structure CcmArguments where
  key : Block
  dataIn : Option ℕ
  length : ℕ
  dataOut : ℕ
  iv : List UInt8
  aad : ℕ
  aadLength : ℕ
  tag : ℕ
  tagLength : ℕ
deriving DecidableEq

/-- The code that is not part of the repository. -/
structure CcmPlatform where
  /-- `sli_aes_crypt_ecb_radio` for encryption: key and block. -/
  aes : Block → Block → Block
  /-- `sli_crypto_ccm`: whether it returns `SL_STATUS_OK`, and the memory it leaves. -/
  sliCryptoCcm : CcmArguments → Memory → Bool × Memory
  /-- `Nonce::InitFrom`, with the extended address as a number. -/
  nonceInitFrom : UInt64 → UInt32 → SecurityLevel → Vector UInt8 13

/-- What the message is: the bytes at the input, if there is one. -/
def CcmArguments.message (arguments : CcmArguments) (memory : Memory) : List UInt8 :=
  arguments.dataIn.elim [] fun address ↦ memory.read address arguments.length

/-- Arguments of a call that encrypts in place, with a length field of two bytes. -/
structure CcmArguments.InPlace (arguments : CcmArguments) : Prop where
  dataIn : arguments.dataIn = some arguments.dataOut ∨
    arguments.dataIn = none ∧ arguments.length = 0
  length : arguments.length < 65536
  iv : arguments.iv.length = 13
  tagLength : arguments.tagLength % 2 = 0 ∧ 4 ≤ arguments.tagLength ∧ arguments.tagLength ≤ 16

/-- `sli_crypto_ccm` computes CCM of exactly the payload and the associated data it is given. -/
def CcmPlatform.ComputesCcm (platform : CcmPlatform) : Prop :=
  ∀ (arguments : CcmArguments) (memory : Memory), arguments.InPlace →
    platform.sliCryptoCcm arguments memory =
      (true, (memory.write arguments.dataOut
        (Ccm.ciphertext (platform.aes arguments.key) 2 arguments.iv
          (arguments.message memory))).write arguments.tag
            (Ccm.tag (platform.aes arguments.key) arguments.tagLength 2 arguments.iv
              (memory.read arguments.aad arguments.aadLength) (arguments.message memory)))

/-- The variable `nonce` on the stack, at address 0 of a memory of its own. -/
def nonceMemory (nonce : Vector UInt8 13) : Memory := Memory.write (fun _ ↦ 0) 0 nonce.toList

namespace TxFrame

variable (platform : CcmPlatform) (aTxFrame : TxFrame) (memory : Memory)

/-- The path with RADIOAES.  The members of `packetSecurityHandler` that `Init` does not set hold
whatever was on the stack. -/
def radioAes (packetSecurityHandler : TxSecurityProcessing) (lengths : Lengths) (tagLength : UInt8)
    (nonce : Vector UInt8 13) : Option Memory := do
  let E := platform.aes aTxFrame.mAesKey
  let payload := aTxFrame.getPsdu + lengths.mHeader.toNat
  let handler ← packetSecurityHandler.init E ⟨4, 16⟩ (nonceMemory nonce)
    lengths.mHeader.toUInt32 lengths.mPayload.toUInt32 tagLength.toNat 0 13
  let handler ← handler.header E memory aTxFrame.getPsdu lengths.mHeader.toUInt32
  let (handler, memory) ← handler.payload E memory payload payload lengths.mPayload.toUInt32
  let (_, memory) ← handler.finalize E memory (payload + lengths.mPayload.toNat)
  return memory

/-- What the LPWAES path passes to `sli_crypto_ccm`. -/
def ccmArguments (lengths : Lengths) (tagLength : UInt8) (securityLevel : SecurityLevel)
    (nonce : Vector UInt8 13) : CcmArguments where
  key := aTxFrame.mAesKey
  dataIn := if securityLevel.encrypts then
      some (aTxFrame.getPsdu + lengths.mHeader.toNat)
    else none
  length := if securityLevel.encrypts then lengths.mPayload.toNat else 0
  dataOut := aTxFrame.getPsdu + lengths.mHeader.toNat
  iv := nonce.toList
  aad := aTxFrame.getPsdu
  aadLength := lengths.mHeader.toNat
  tag := aTxFrame.getPsdu + lengths.mHeader.toNat + lengths.mPayload.toNat
  tagLength := tagLength.toNat

/-- The path with LPWAES. -/
def lpwAes (lengths : Lengths) (tagLength : UInt8) (securityLevel : SecurityLevel)
    (nonce : Vector UInt8 13) : Option Memory :=
  let (ok, memory) := platform.sliCryptoCcm
    (aTxFrame.ccmArguments lengths tagLength securityLevel nonce) memory
  if ok then some memory else none

end TxFrame

/-- The hardware that a build has. -/
inductive HardwarePath where
  | radioAes (packetSecurityHandler : TxSecurityProcessing)
  | lpwAes
deriving DecidableEq

/-- `efr32PlatProcessTransmitAesCcm`; it is `none` where an assertion fails. -/
def efr32PlatProcessTransmitAesCcm (platform : CcmPlatform) (path : HardwarePath)
    (memory : Memory) (aTxFrame : TxFrame) (aExtAddress : UInt64) : Option (TxFrame × Memory) :=
  if !aTxFrame.getSecurityEnabled then some (aTxFrame, memory)
  else
    match aTxFrame.determineLengths, aTxFrame.getSecurityLevel, aTxFrame.getFrameCounter with
    | some lengths, some securityLevel, some frameCounter =>
      let nonce := platform.nonceInitFrom aExtAddress frameCounter securityLevel
      let tagLength := (lengths.mFooter - aTxFrame.getFcsSize.toUInt16).toUInt8
      let secured := match path with
        | .radioAes packetSecurityHandler =>
          aTxFrame.radioAes platform memory packetSecurityHandler lengths tagLength nonce
        | .lpwAes => aTxFrame.lpwAes platform memory lengths tagLength securityLevel nonce
      secured.map fun memory ↦ ({ aTxFrame with mIsSecurityProcessed := true }, memory)
    | _, _, _ => some (aTxFrame, memory)

/-! ## Secured frames -/

/-- The kind of a frame at a security level with an integrity code: the footer is the code and the
FCS. -/
structure SecuredFrame where
  lengths : Lengths
  securityLevel : SecurityLevel
  fcsSize : UInt8
  footer_eq : lengths.mFooter.toNat = securityLevel.micLength + fcsSize.toNat
  mic_pos : 0 < securityLevel.micLength

namespace SecuredFrame

variable (frame : SecuredFrame)

/-- A frame of this kind with its PSDU at the given place. -/
def txFrame (frameCounter : UInt32) (psdu : ℕ) (key : Block) (processed : Bool) : TxFrame where
  getSecurityEnabled := true
  determineLengths := some frame.lengths
  getSecurityLevel := some frame.securityLevel
  getFrameCounter := some frameCounter
  getFcsSize := frame.fcsSize
  getPsdu := psdu
  mAesKey := key
  mIsSecurityProcessed := processed

section Bytes

variable (memory : Memory) (psdu : ℕ)

def header : List UInt8 := memory.read psdu frame.lengths.mHeader.toNat

def payload : List UInt8 :=
  memory.read (psdu + frame.lengths.mHeader.toNat) frame.lengths.mPayload.toNat

/-- The FCS is left to the radio. -/
def fcs : List UInt8 :=
  memory.read (psdu + frame.lengths.mHeader.toNat + frame.lengths.mPayload.toNat +
    frame.securityLevel.micLength) frame.fcsSize.toNat

/-- The bytes of the whole PSDU. -/
def bytes : List UInt8 :=
  memory.read psdu (frame.lengths.mHeader.toNat + frame.lengths.mPayload.toNat +
    frame.lengths.mFooter.toNat)

/-- The PSDU with the given payload field and integrity code. -/
def bytesWith (secured : CcmStar) : List UInt8 :=
  frame.header memory psdu ++ secured.payload ++ secured.mic ++ frame.fcs memory psdu

end Bytes

variable {frame}

/-- The bytes once the payload field and the integrity code are stored. -/
theorem bytes_write (memory : Memory) (psdu : ℕ) {payload mic : List UInt8}
    (hpayload : payload.length = frame.lengths.mPayload.toNat)
    (hmic : mic.length = frame.securityLevel.micLength) :
    frame.bytes ((memory.write (psdu + frame.lengths.mHeader.toNat) payload).write
        (psdu + frame.lengths.mHeader.toNat + frame.lengths.mPayload.toNat) mic) psdu =
      frame.bytesWith memory psdu ⟨payload, mic⟩ := by
  set H := frame.lengths.mHeader.toNat
  set P := frame.lengths.mPayload.toNat
  set M := frame.securityLevel.micLength
  set F := frame.fcsSize.toNat
  set written := (memory.write (psdu + H) payload).write (psdu + H + P) mic
  have hheader : written.read psdu H = memory.read psdu H := by
    rw [Memory.read_write_of_disjoint _ (Or.inl (Nat.le_add_right (psdu + H) P)),
      Memory.read_write_of_disjoint _ (Or.inl (Nat.le_refl (psdu + H)))]
  have hpayloadField : written.read (psdu + H) P = payload := by
    rw [Memory.read_write_of_disjoint _ (Or.inl (Nat.le_refl (psdu + H + P))), ← hpayload,
      Memory.read_write]
  have hmicField : written.read (psdu + H + P) M = mic := by
    rw [← hmic, Memory.read_write]
  have hfcs : written.read (psdu + H + P + M) F = memory.read (psdu + H + P + M) F := by
    have hbehind : psdu + H + payload.length ≤ psdu + H + P + M := by omega
    rw [Memory.read_write_of_disjoint _ (Or.inr (by rw [hmic])),
      Memory.read_write_of_disjoint _ (Or.inr hbehind)]
  calc
    frame.bytes written psdu = written.read psdu (H + P + (M + F)) := by
      rw [bytes, frame.footer_eq]
    _ = written.read psdu H ++ written.read (psdu + H) P ++ written.read (psdu + H + P) M ++
        written.read (psdu + H + P + M) F := by
      simp only [Memory.read_add, List.append_assoc, Nat.add_assoc]
    _ = frame.bytesWith memory psdu ⟨payload, mic⟩ := by
      rw [hheader, hpayloadField, hmicField, hfcs]
      rfl

/-- The length of the tag is that of the code. -/
theorem tagLength_eq (frame : SecuredFrame) :
    (frame.lengths.mFooter - frame.fcsSize.toUInt16).toUInt8.toNat =
      frame.securityLevel.micLength := by
  have hfooter := frame.footer_eq
  have hmic : frame.securityLevel.micLength ≤ 16 := by
    cases frame.securityLevel <;> decide
  have hle : frame.fcsSize.toUInt16 ≤ frame.lengths.mFooter := by
    rw [UInt16.le_iff_toNat_le, UInt8.toNat_toUInt16]
    omega
  rw [UInt16.toNat_toUInt8, UInt16.toNat_sub_of_le _ _ hle, UInt8.toNat_toUInt16]
  omega

theorem tagLength_valid (frame : SecuredFrame) :
    frame.securityLevel.micLength % 2 = 0 ∧ 4 ≤ frame.securityLevel.micLength ∧
      frame.securityLevel.micLength ≤ 16 := by
  have hpos := frame.mic_pos
  revert hpos
  cases frame.securityLevel <;> decide

end SecuredFrame

/-! ## What the paths leave -/

section Results

variable (platform : CcmPlatform) (frame : SecuredFrame) (memory : Memory) (psdu : ℕ)
  (frameCounter : UInt32) (key : Block) (processed : Bool) (aExtAddress : UInt64)

/-- The PSDU that a path leaves for a frame of the given kind. -/
def securedBytes (path : HardwarePath) : Option (List UInt8) :=
  (efr32PlatProcessTransmitAesCcm platform path memory
    (frame.txFrame frameCounter psdu key processed) aExtAddress).map fun result ↦
      frame.bytes result.2 psdu

/-- The nonce of the frame. -/
def frameNonce : List UInt8 :=
  (platform.nonceInitFrom aExtAddress frameCounter frame.securityLevel).toList

variable {platform}

theorem nonceMemory_read (nonce : Vector UInt8 13) :
    Memory.read (nonceMemory nonce) 0 13 = nonce.toList := by
  have hread : Memory.read (nonceMemory nonce) 0 nonce.toList.length = nonce.toList :=
    Memory.read_write _ 0 nonce.toList
  rwa [Vector.length_toList] at hread

/-- The buffers that the RADIOAES path passes on. -/
def radioAesBuffers : TxSecurityProcessing.FrameBuffers where
  aHeader := psdu
  aPlainText := psdu + frame.lengths.mHeader.toNat
  aCipherText := psdu + frame.lengths.mHeader.toNat
  aTag := psdu + frame.lengths.mHeader.toNat + frame.lengths.mPayload.toNat
  aNonce := 0
  headerLength := frame.lengths.mHeader.toUInt32
  plainTextLength := frame.lengths.mPayload.toUInt32
  tagLength := frame.securityLevel.micLength

/-- RADIOAES encrypts the payload and authenticates header and payload, at every level. -/
theorem securedBytes_radioAes (packetSecurityHandler : TxSecurityProcessing) :
    securedBytes platform frame memory psdu frameCounter key processed aExtAddress
        (.radioAes packetSecurityHandler) =
      some (frame.bytesWith memory psdu (ccmStar (platform.aes key) true
        frame.securityLevel.micLength 2 (frameNonce platform frame frameCounter aExtAddress)
        (frame.header memory psdu) (frame.payload memory psdu))) := by
  set E := platform.aes key
  set nonce := platform.nonceInitFrom aExtAddress frameCounter frame.securityLevel
  have hlength : frame.lengths.mPayload.toUInt32.toNat < 65536 := by
    rw [UInt16.toNat_toUInt32]
    exact frame.lengths.mPayload.toNat_lt
  have hcalls := TxSecurityProcessing.calls_eq_ccm E packetSecurityHandler (nonceMemory nonce)
    memory (radioAesBuffers frame psdu) rfl hlength frame.tagLength_valid (.last _) (.last _)
    (Or.inl (Nat.le_refl _))
  simp only [TxSecurityProcessing.headers_singleton,
    TxSecurityProcessing.payloads_singleton] at hcalls
  have hpath : (frame.txFrame frameCounter psdu key processed).radioAes platform memory
      packetSecurityHandler frame.lengths
        (frame.lengths.mFooter - frame.fcsSize.toUInt16).toUInt8 nonce =
      some ((memory.write (psdu + frame.lengths.mHeader.toNat)
        (Ccm.ciphertext E 2 nonce.toList (frame.payload memory psdu))).write
          (psdu + frame.lengths.mHeader.toNat + frame.lengths.mPayload.toNat)
          (Ccm.tag E frame.securityLevel.micLength 2 nonce.toList (frame.header memory psdu)
            (frame.payload memory psdu))) := by
    have hnonce : (radioAesBuffers frame psdu).nonce (nonceMemory nonce) = nonce.toList :=
      nonceMemory_read nonce
    have hheader : (radioAesBuffers frame psdu).header memory = frame.header memory psdu :=
      congrArg (memory.read psdu) (UInt16.toNat_toUInt32 frame.lengths.mHeader)
    have hpayload : (radioAesBuffers frame psdu).payload memory = frame.payload memory psdu :=
      congrArg (memory.read _) (UInt16.toNat_toUInt32 frame.lengths.mPayload)
    rw [hnonce, hheader, hpayload] at hcalls
    rw [TxFrame.radioAes, frame.tagLength_eq]
    exact hcalls
  have hpayload : (Ccm.ciphertext E 2 nonce.toList (frame.payload memory psdu)).length =
      frame.lengths.mPayload.toNat := by
    rw [Ccm.length_ciphertext, SecuredFrame.payload, Memory.length_read]
  have hmic := Ccm.length_tag E frame.securityLevel.micLength 2 nonce.toList
    (frame.header memory psdu) (frame.payload memory psdu) frame.tagLength_valid.2.2
  calc
    _ = ((frame.txFrame frameCounter psdu key processed).radioAes platform memory
      packetSecurityHandler frame.lengths
        (frame.lengths.mFooter - frame.fcsSize.toUInt16).toUInt8 nonce).map
          fun memory ↦ frame.bytes memory psdu := Option.map_map _ _ _
    _ = _ := by
      rw [hpath, Option.map_some, SecuredFrame.bytes_write memory psdu hpayload hmic]
      rfl

/-- The message of the LPWAES path. -/
def lpwAesMessage : List UInt8 :=
  if frame.securityLevel.encrypts then frame.payload memory psdu else []

theorem ccmArguments_message (tagLength : UInt8) (nonce : Vector UInt8 13) :
    ((frame.txFrame frameCounter psdu key processed).ccmArguments frame.lengths tagLength
      frame.securityLevel nonce).message memory = lpwAesMessage frame memory psdu := by
  cases hencrypts : frame.securityLevel.encrypts with
  | true =>
    simp only [TxFrame.ccmArguments, CcmArguments.message, lpwAesMessage, hencrypts, if_true]
    rfl
  | false =>
    simp only [TxFrame.ccmArguments, CcmArguments.message, lpwAesMessage, hencrypts,
      Bool.false_eq_true, if_false]
    rfl

theorem ccmArguments_inPlace (nonce : Vector UInt8 13) :
    ((frame.txFrame frameCounter psdu key processed).ccmArguments frame.lengths
      (frame.lengths.mFooter - frame.fcsSize.toUInt16).toUInt8 frame.securityLevel
        nonce).InPlace where
  dataIn := by
    cases hencrypts : frame.securityLevel.encrypts with
    | true =>
      apply Or.inl
      simp only [TxFrame.ccmArguments, hencrypts, if_true]
    | false =>
      apply Or.inr
      simp only [TxFrame.ccmArguments, hencrypts, Bool.false_eq_true, if_false, and_self]
  length := by
    have hlt : frame.lengths.mPayload.toNat < 65536 := frame.lengths.mPayload.toNat_lt
    simp only [TxFrame.ccmArguments]
    split <;> omega
  iv := Vector.length_toList
  tagLength := by
    simp only [TxFrame.ccmArguments, frame.tagLength_eq]
    exact frame.tagLength_valid

/-- LPWAES stores the CCM of the message that it passes on. -/
theorem lpwAes_eq (hccm : platform.ComputesCcm) (nonce : Vector UInt8 13) :
    (frame.txFrame frameCounter psdu key processed).lpwAes platform memory frame.lengths
        (frame.lengths.mFooter - frame.fcsSize.toUInt16).toUInt8 frame.securityLevel nonce =
      some ((memory.write (psdu + frame.lengths.mHeader.toNat)
        (Ccm.ciphertext (platform.aes key) 2 nonce.toList
          (lpwAesMessage frame memory psdu))).write
            (psdu + frame.lengths.mHeader.toNat + frame.lengths.mPayload.toNat)
            (Ccm.tag (platform.aes key) frame.securityLevel.micLength 2 nonce.toList
              (frame.header memory psdu) (lpwAesMessage frame memory psdu))) := by
  have hcall := hccm _ memory (ccmArguments_inPlace frame psdu frameCounter key processed nonce)
  rw [ccmArguments_message] at hcall
  rw [TxFrame.lpwAes, hcall]
  simp only [if_true, TxFrame.ccmArguments, frame.tagLength_eq]
  rfl

/-- LPWAES authenticates the header and, at the levels that encrypt, the payload. -/
theorem securedBytes_lpwAes (hccm : platform.ComputesCcm) :
    securedBytes platform frame memory psdu frameCounter key processed aExtAddress .lpwAes =
      some (frame.bytesWith memory psdu
        (if frame.securityLevel.encrypts then
          ccmStar (platform.aes key) true frame.securityLevel.micLength 2
            (frameNonce platform frame frameCounter aExtAddress)
            (frame.header memory psdu) (frame.payload memory psdu)
        else ⟨frame.payload memory psdu, Ccm.tag (platform.aes key)
          frame.securityLevel.micLength 2 (frameNonce platform frame frameCounter aExtAddress)
          (frame.header memory psdu) []⟩)) := by
  set E := platform.aes key
  set nonce := platform.nonceInitFrom aExtAddress frameCounter frame.securityLevel
  have hmic (message : List UInt8) := Ccm.length_tag E frame.securityLevel.micLength 2
    nonce.toList (frame.header memory psdu) message frame.tagLength_valid.2.2
  have hlength : (frame.payload memory psdu).length = frame.lengths.mPayload.toNat :=
    Memory.length_read _ _ _
  calc
    _ = ((frame.txFrame frameCounter psdu key processed).lpwAes platform memory frame.lengths
        (frame.lengths.mFooter - frame.fcsSize.toUInt16).toUInt8 frame.securityLevel nonce).map
          fun memory ↦ frame.bytes memory psdu := Option.map_map _ _ _
    _ = _ := by
      rw [lpwAes_eq frame memory psdu frameCounter key processed hccm, Option.map_some]
      apply congrArg some
      cases hencrypts : frame.securityLevel.encrypts with
      | true =>
        simp only [lpwAesMessage, hencrypts, if_true]
        apply SecuredFrame.bytes_write memory psdu _ (hmic _)
        rw [Ccm.length_ciphertext, hlength]
      | false =>
        -- Nothing is stored at the payload, as if it had been stored as it is.
        have hkept : memory.write (psdu + frame.lengths.mHeader.toNat)
            (frame.payload memory psdu) = memory := Memory.write_read _ _ _
        simp only [lpwAesMessage, hencrypts, Bool.false_eq_true, if_false, Ccm.ciphertext_nil]
        have hbytes := SecuredFrame.bytes_write memory psdu hlength (hmic [])
        rw [hkept] at hbytes
        exact hbytes

/-- The PSDU that CCM* makes of the frame. -/
def ccmStarBytes (platform : CcmPlatform) : List UInt8 :=
  frame.bytesWith memory psdu (ccmStar (platform.aes key) frame.securityLevel.encrypts
    frame.securityLevel.micLength 2 (frameNonce platform frame frameCounter aExtAddress)
    (frame.header memory psdu) (frame.payload memory psdu))

end Results

/-- On frames of a kind the two paths leave the PSDU that CCM* makes of them. -/
def PathsAgree (frame : SecuredFrame) : Prop :=
  ∀ platform : CcmPlatform, platform.ComputesCcm →
    ∀ (memory : Memory) (psdu : ℕ) (frameCounter : UInt32) (key : Block) (processed : Bool)
      (aExtAddress : UInt64) (path : HardwarePath),
      securedBytes platform frame memory psdu frameCounter key processed aExtAddress path =
        some (ccmStarBytes frame memory psdu frameCounter key aExtAddress platform)

/-! ## When the paths agree -/

variable {frame : SecuredFrame}

theorem pathsAgree_of_encrypts (hencrypts : frame.securityLevel.encrypts = true) :
    PathsAgree frame := by
  intro platform hccm memory psdu frameCounter key processed aExtAddress path
  cases path with
  | radioAes packetSecurityHandler =>
    rw [securedBytes_radioAes, ccmStarBytes, hencrypts]
  | lpwAes =>
    rw [securedBytes_lpwAes _ _ _ _ _ _ _ hccm, ccmStarBytes, hencrypts, if_pos rfl]

theorem pathsAgree_of_payload_nil (hempty : frame.lengths.mPayload = 0) : PathsAgree frame := by
  intro platform hccm memory psdu frameCounter key processed aExtAddress path
  have hpayload : frame.payload memory psdu = [] := by
    rw [SecuredFrame.payload, hempty]
    rfl
  cases path with
  | radioAes packetSecurityHandler =>
    rw [securedBytes_radioAes, ccmStarBytes, hpayload, ccmStar_nil, ccmStar_nil]
  | lpwAes =>
    rw [securedBytes_lpwAes _ _ _ _ _ _ _ hccm, ccmStarBytes, hpayload, ccmStar_nil, ccmStar_nil,
      ite_self]

/-- Payload fields of one length can be told apart in the PSDU. -/
theorem SecuredFrame.payload_eq_of_bytesWith {memory : Memory} {psdu : ℕ} {left right : CcmStar}
    (hlength : left.payload.length = right.payload.length)
    (hbytes : frame.bytesWith memory psdu left = frame.bytesWith memory psdu right) :
    left.payload = right.payload := by
  simp only [SecuredFrame.bytesWith, List.append_assoc] at hbytes
  exact (List.append_inj (List.append_cancel_left hbytes) hlength).1

/-- At a level that does not encrypt, RADIOAES leaves the PSDU of CCM* only if the key stream that
it adds to the payload is zero. -/
theorem keyStream_eq_zero_of_radioAes {platform : CcmPlatform} {memory : Memory} {psdu : ℕ}
    {frameCounter : UInt32} {key : Block} {processed : Bool} {aExtAddress : UInt64}
    {packetSecurityHandler : TxSecurityProcessing}
    (hclear : frame.securityLevel.encrypts = false)
    (hsame : securedBytes platform frame memory psdu frameCounter key processed aExtAddress
        (.radioAes packetSecurityHandler) =
      some (ccmStarBytes frame memory psdu frameCounter key aExtAddress platform)) :
    ∀ j < frame.lengths.mPayload.toNat, Ccm.keyStream (platform.aes key) 2
      (frameNonce platform frame frameCounter aExtAddress) j = 0 := by
  rw [securedBytes_radioAes, ccmStarBytes, hclear, Option.some_inj] at hsame
  have hpayload := SecuredFrame.payload_eq_of_bytesWith (Ccm.length_ciphertext _ _ _ _) hsame
  have hzero := (Ccm.ciphertext_eq_self_iff _ _ _ _).mp hpayload
  rwa [SecuredFrame.payload, Memory.length_read] at hzero

/-- A platform with the given block encryption, whose CCM is that of all arguments and whose nonce
ends with counter and level. -/
def platformOf (aes : Block → Block → Block) : CcmPlatform where
  aes
  sliCryptoCcm arguments memory :=
    let E := aes arguments.key
    let message := arguments.message memory
    (true, (memory.write arguments.dataOut (Ccm.ciphertext E 2 arguments.iv message)).write
      arguments.tag (Ccm.tag E arguments.tagLength 2 arguments.iv
        (memory.read arguments.aad arguments.aadLength) message))
  nonceInitFrom aExtAddress frameCounter securityLevel :=
    Vector.ofFn fun i ↦ (bigEndian 8 aExtAddress.toNat ++ bigEndian 4 frameCounter.toNat ++
      [UInt8.ofNat securityLevel.value]).getD i 0

theorem platformOf_computesCcm (aes : Block → Block → Block) : (platformOf aes).ComputesCcm :=
  fun _ _ _ ↦ rfl

/-- A permutation of the blocks that increments each byte. -/
def incrementBytes (block : Block) : Block := block.map (· + 1)

/-- A stack with zeros. -/
def zeroStack : TxSecurityProcessing :=
  TxSecurityProcessing.started ⟨Block.ofBytes [], 0⟩ ⟨Block.ofBytes [], Block.ofBytes [], 0⟩ 0 0 0

theorem keyStream_incrementBytes (nonce : List UInt8) :
    Ccm.keyStream incrementBytes 2 nonce 0 = 2 := by
  simp [Ccm.keyStream, incrementBytes, Ccm.counterBlock]

/-- The paths agree with CCM* exactly on the frames whose level encrypts or whose payload is
empty. -/
theorem pathsAgree_iff (frame : SecuredFrame) :
    PathsAgree frame ↔
      frame.securityLevel.encrypts = true ∨ frame.lengths.mPayload = 0 := by
  constructor
  · intro hagree
    by_contra hother
    rw [not_or, Bool.not_eq_true] at hother
    obtain ⟨hclear, hpayload⟩ := hother
    have hpos : 0 < frame.lengths.mPayload.toNat :=
      UInt16.lt_iff_toNat_lt.mp (UInt16.pos_iff_ne_zero.mpr hpayload)
    have hsame := hagree (platformOf fun _ ↦ incrementBytes) (platformOf_computesCcm _)
      (fun _ ↦ 0) 0 0 (Block.ofBytes []) false 0 (.radioAes zeroStack)
    have hzero := keyStream_eq_zero_of_radioAes hclear hsame 0 hpos
    have htwo : (2 : UInt8) = 0 := (keyStream_incrementBytes _).symm.trans hzero
    exact absurd htwo (by decide)
  · rintro (hencrypts | hempty)
    · exact pathsAgree_of_encrypts hencrypts
    · exact pathsAgree_of_payload_nil hempty

/-! ## A frame with an integrity code only -/

/-- A data frame with short addresses at level 1: fifteen bytes of header, two of payload. -/
def micOnlyFrame : SecuredFrame where
  lengths := ⟨15, 2, 6⟩
  securityLevel := .kSecurityMic32
  fcsSize := 2
  footer_eq := rfl
  mic_pos := by decide

def micOnlyMemory : Memory := Memory.write (fun _ ↦ 0) 0
  [0x69, 0x98, 0x07, 0xce, 0xfa, 0x01, 0x00, 0x02, 0x00, 0x09, 0x01, 0x00, 0x00, 0x00, 0x01,
    0x68, 0x69]

/-- The key `00112233445566778899aabbccddeeff`. -/
def micOnlyKey : Block := Block.ofBytes (bigEndian 16 0x00112233445566778899aabbccddeeff)

/-- What AES-128 makes of the blocks that occur for the frame under that key. -/
def micOnlyTable : List (ℕ × ℕ) := [
  (0x49001122334455667700000001010002, 0x587bc4c8866e279a106667e1443f37d2),
  (0x5874ad5081a0dd9b106467e8453f37d2, 0x17f2fbe4c8b3e7f2594ac5a074037341),
  (0x16f2fbe4c8b3e7f2594ac5a074037341, 0x3d1b0a1f4073a4ce41bee20edf4aa988),
  (0x55720a1f4073a4ce41bee20edf4aa988, 0xcf7f6b717d23fc0a71f18839f192eac9),
  (0x01001122334455667700000001010000, 0x99705744316272f88914cae6e87f1401),
  (0x01001122334455667700000001010001, 0xf952466e616c8b19af952fc5c941ab11),
  (0x49001122334455667700000001010000, 0x81e35d6e4fb763b51154405a3c406626),
  (0x81ec34f6487999b4115640533d406626, 0x5317fff06b47f6f37d7176113bb94ad0),
  (0x5217fff06b47f6f37d7176113bb94ad0, 0xf99a73659730715442f8060392a4c4a2),
  (0x81f234f6487999b4115640533d406626, 0x01908fee5151942c8959e68acf091dc9),
  (0x00f8e6ee5151942c8959e68acf091dc9, 0x9f9b2942c9af01167df4b6102a68b43b)]

def micOnlyCipher (_ block : Block) : Block :=
  Block.ofBytes (bigEndian 16 (((micOnlyTable.find? fun entry ↦
    Block.ofBytes (bigEndian 16 entry.1) == block).map Prod.snd).getD 0))

/-- What both paths and CCM* make of the frame: RADIOAES encrypts the payload, and the three
integrity codes differ. -/
theorem not_pathsAgree_micOnlyFrame :
    ¬ PathsAgree micOnlyFrame ∧
      ccmStarBytes micOnlyFrame micOnlyMemory 0 1 micOnlyKey 0x0011223344556677
          (platformOf micOnlyCipher) =
        [0x69, 0x98, 0x07, 0xce, 0xfa, 0x01, 0x00, 0x02, 0x00, 0x09, 0x01, 0x00, 0x00, 0x00, 0x01,
          0x68, 0x69, 0x06, 0xeb, 0x7e, 0x06, 0x00, 0x00] ∧
      securedBytes (platformOf micOnlyCipher) micOnlyFrame micOnlyMemory 0 1 micOnlyKey false
          0x0011223344556677 (.radioAes zeroStack) =
        some [0x69, 0x98, 0x07, 0xce, 0xfa, 0x01, 0x00, 0x02, 0x00, 0x09, 0x01, 0x00, 0x00, 0x00,
          0x01, 0x91, 0x3b, 0x56, 0x0f, 0x3c, 0x35, 0x00, 0x00] ∧
      securedBytes (platformOf micOnlyCipher) micOnlyFrame micOnlyMemory 0 1 micOnlyKey false
          0x0011223344556677 .lpwAes =
        some [0x69, 0x98, 0x07, 0xce, 0xfa, 0x01, 0x00, 0x02, 0x00, 0x09, 0x01, 0x00, 0x00, 0x00,
          0x01, 0x68, 0x69, 0x60, 0xea, 0x24, 0x21, 0x00, 0x00] := by
  have hlpwAes := securedBytes_lpwAes micOnlyFrame micOnlyMemory 0 1 micOnlyKey false
    0x0011223344556677 (platformOf_computesCcm micOnlyCipher)
  refine ⟨?_, by decide, ?_, ?_⟩
  · intro hagree
    have hsame := hagree (platformOf micOnlyCipher) (platformOf_computesCcm _) micOnlyMemory 0 1
      micOnlyKey false 0x0011223344556677 .lpwAes
    rw [hlpwAes] at hsame
    exact absurd hsame (by decide)
  · rw [securedBytes_radioAes]
    decide
  · rw [hlpwAes]
    decide

end OtEfr32.Packet
