import OtEfr32.Crypto.CounterMode
import Mathlib.Algebra.Group.Nat.Defs
import Mathlib.Algebra.GroupWithZero.Nat

/-!
# Counter with CBC-MAC

The CCM mode of RFC 3610 over any block cipher `E`.  `M` is the length of the tag and `L` the length
of the length field, so a nonce has `15 - L` bytes.  The header is authenticated only, the message
is authenticated and encrypted.
-/

namespace OtEfr32.Crypto

/-- The last `width` bytes of a number, the most significant first. -/
def bigEndian : ℕ → ℕ → List UInt8
  | 0, _ => []
  | width + 1, value => UInt8.ofNat (value / 256 ^ width) :: bigEndian width value

@[simp]
theorem length_bigEndian (width value : ℕ) : (bigEndian width value).length = width := by
  induction width with
  | zero => rfl
  | succ width ih => simp [bigEndian, ih]

namespace Ccm

variable (E : Block → Block) (M L : ℕ) (nonce header message : List UInt8)

/-- The flags of block `B_0`: the `Adata` bit, `(M - 2) / 2` and `L - 1`. -/
def flags : UInt8 :=
  UInt8.ofNat (64 * (if header = [] then 0 else 1) + 8 * ((M - 2) / 2) + (L - 1))

/-- Block `B_0`. -/
def firstBlock : Block :=
  Block.ofBytes (flags M L header :: nonce ++ bigEndian L message.length)

/-- The encoding of the length of the header in front of it. -/
def headerLength (length : ℕ) : List UInt8 :=
  if length = 0 then []
  else if length < 65536 - 256 then bigEndian 2 length
  else if length < 4294967296 then 0xff :: 0xfe :: bigEndian 4 length
  else 0xff :: 0xff :: bigEndian 8 length

/-- The blocks after `B_0`: the header behind its length and then the message, each of them
filled up with zeros. -/
def authBlocks : List Block :=
  blocks (headerLength header.length ++ header) ++ blocks message

/-- The value `T` of the authentication field before its encryption, not yet cut to `M` bytes. -/
def authValue : Block :=
  cbcMac E (firstBlock M L nonce header message) (authBlocks header message)

/-- Counter block `A_i`. -/
def counterBlock (i : ℕ) : Block :=
  Block.ofBytes (UInt8.ofNat (L - 1) :: nonce ++ bigEndian L i)

/-- Byte `j` of the key stream `S_1 ‖ S_2 ‖ …`, where `S_i` is the encryption of `A_i`. -/
def keyStream (j : ℕ) : UInt8 :=
  (E (counterBlock L nonce (j / 16 + 1)))[j % 16]?.getD 0

/-- The encrypted message. -/
def ciphertext : List UInt8 :=
  message.mapIdx fun j byte ↦ byte ^^^ keyStream E L nonce j

/-- The encrypted authentication field: the first `M` bytes of `T` and `S_0` added. -/
def tag : List UInt8 :=
  ((authValue E M L nonce header message).xor (E (counterBlock L nonce 0))).toList.take M

/-- Encryption byte by byte with any step that leads from each counter block to the next. -/
theorem encrypt_eq_ciphertext {step : Block → Block} (pad : Block)
    (hstep : ∀ i, step (counterBlock L nonce i) = counterBlock L nonce (i + 1)) :
    CtrState.encrypt E step ⟨counterBlock L nonce 0, pad, 16⟩ message =
      ciphertext E L nonce message := by
  have hiterate (i : ℕ) : step^[i] (counterBlock L nonce 0) = counterBlock L nonce i := by
    induction i with
    | zero => rfl
    | succ i ih => rw [Function.iterate_succ_apply', ih, hstep]
  simp only [CtrState.encrypt, ciphertext, keyStream, CtrState.padByte_iterate, hiterate]

/-- The code of header and message from a state byte by byte. -/
theorem finish_eq_authValue :
    MacState.finish E (MacState.absorbAll E
      ⟨MacState.finish E (MacState.absorbAll E ⟨E (firstBlock M L nonce header message), 0⟩
        (headerLength header.length ++ header)), 0⟩ message) =
      authValue E M L nonce header message := by
  rw [MacState.finish_absorbAll, MacState.finish_absorbAll, ← chain_append]
  rfl

@[simp]
theorem length_ciphertext : (ciphertext E L nonce message).length = message.length := by
  simp [ciphertext]

theorem length_tag (hM : M ≤ 16) : (tag E M L nonce header message).length = M := by
  simp [tag, hM]

@[simp]
theorem ciphertext_nil : ciphertext E L nonce [] = [] := rfl

/-- Encryption changes a message unless the key stream is zero all along it. -/
theorem ciphertext_eq_self_iff :
    ciphertext E L nonce message = message ↔
      ∀ j < message.length, keyStream E L nonce j = 0 := by
  constructor
  · intro hsame j hj
    have hbyte : message[j] ^^^ keyStream E L nonce j = message[j] := by
      have hget : (ciphertext E L nonce message)[j]? = message[j]? := by rw [hsame]
      simpa [ciphertext, hj] using hget
    exact (UInt8.xor_right_inj message[j]).mp (hbyte.trans UInt8.xor_zero.symm)
  · intro hzero
    apply List.ext_getElem (length_ciphertext E L nonce message)
    intro j hj hj'
    simp [ciphertext, hzero j hj']

end Ccm

/-- What the CCM* mode of 802.15.4 makes of a payload: the payload field and the integrity code. -/
structure CcmStar where
  payload : List UInt8
  mic : List UInt8
deriving DecidableEq

/-- CCM*: with encryption the payload is the message behind the header; without it the message is
empty, and the payload stays in clear and is authenticated with the header. -/
def ccmStar (E : Block → Block) (encrypts : Bool) (M L : ℕ) (nonce header payload : List UInt8) :
    CcmStar :=
  if encrypts then ⟨Ccm.ciphertext E L nonce payload, Ccm.tag E M L nonce header payload⟩
  else ⟨payload, Ccm.tag E M L nonce (header ++ payload) []⟩

/-- Without a payload there is nothing that encryption could change. -/
theorem ccmStar_nil (E : Block → Block) (encrypts : Bool) (M L : ℕ) (nonce header : List UInt8) :
    ccmStar E encrypts M L nonce header [] = ⟨[], Ccm.tag E M L nonce header []⟩ := by
  cases encrypts with
  | true => rfl
  | false => simp [ccmStar]

end OtEfr32.Crypto
