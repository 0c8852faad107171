import OtEfr32.Crypto.Ccm

/-!
# Opening what CCM has sealed

The receiver's side of CCM and CCM*: the message is decrypted and is given out if its code is the
one received.  `ccmStarOpen_eq_some_iff` says that the receiver takes exactly what CCM* makes of a
payload, and that it gets this payload.
-/

namespace OtEfr32.Crypto

namespace Ccm

variable (E : Block → Block) (M L : ℕ) (nonce header : List UInt8)

/-- The key stream comes off by adding it again. -/
@[simp]
theorem ciphertext_ciphertext (message : List UInt8) :
    ciphertext E L nonce (ciphertext E L nonce message) = message := by
  apply List.ext_getElem
  · rw [length_ciphertext, length_ciphertext]
  · intro j hj hj'
    simp only [ciphertext, List.getElem_mapIdx, UInt8.xor_assoc, UInt8.xor_self, UInt8.xor_zero]

theorem ciphertext_eq_comm {left right : List UInt8} :
    left = ciphertext E L nonce right ↔ ciphertext E L nonce left = right := by
  constructor
  · rintro rfl
    exact ciphertext_ciphertext E L nonce right
  · rintro rfl
    exact (ciphertext_ciphertext E L nonce left).symm

/-- Decryption and the check of the tag. -/
def openSealed (encrypted received : List UInt8) : Option (List UInt8) :=
  let message := ciphertext E L nonce encrypted
  if tag E M L nonce header message = received then some message else none

theorem openSealed_eq_some_iff {encrypted received message : List UInt8} :
    openSealed E M L nonce header encrypted received = some message ↔
      encrypted = ciphertext E L nonce message ∧ received = tag E M L nonce header message := by
  unfold openSealed
  rw [Option.ite_none_right_eq_some, Option.some_inj, ciphertext_eq_comm]
  constructor
  · rintro ⟨htag, rfl⟩
    exact ⟨rfl, htag.symm⟩
  · rintro ⟨rfl, htag⟩
    exact ⟨htag.symm, rfl⟩

end Ccm

/-- The CCM* receiver: without encryption the payload is authenticated behind the header. -/
def ccmStarOpen (E : Block → Block) (encrypts : Bool) (M L : ℕ) (nonce header : List UInt8)
    (secured : CcmStar) : Option (List UInt8) :=
  if encrypts then Ccm.openSealed E M L nonce header secured.payload secured.mic
  else (Ccm.openSealed E M L nonce (header ++ secured.payload) [] secured.mic).map fun _ ↦
    secured.payload

/-- The receiver takes what CCM* makes of a payload, nothing else, and gets this payload. -/
theorem ccmStarOpen_eq_some_iff (E : Block → Block) (encrypts : Bool) (M L : ℕ)
    (nonce header payload : List UInt8) (secured : CcmStar) :
    ccmStarOpen E encrypts M L nonce header secured = some payload ↔
      secured = ccmStar E encrypts M L nonce header payload := by
  obtain ⟨field, mic⟩ := secured
  cases encrypts with
  | true =>
    rw [ccmStarOpen, ccmStar, if_pos rfl, if_pos rfl, Ccm.openSealed_eq_some_iff, CcmStar.mk.injEq]
  | false =>
    have hclear : ∀ message, ([] : List UInt8) = Ccm.ciphertext E L nonce message ↔
        message = [] := by
      intro message
      rw [Ccm.ciphertext_eq_comm, Ccm.ciphertext_nil, eq_comm]
    simp only [ccmStarOpen, ccmStar, Bool.false_eq_true, if_false, Option.map_eq_some_iff,
      Ccm.openSealed_eq_some_iff, hclear, CcmStar.mk.injEq]
    constructor
    · rintro ⟨message, ⟨rfl, htag⟩, rfl⟩
      exact ⟨rfl, htag⟩
    · rintro ⟨rfl, htag⟩
      exact ⟨[], ⟨rfl, htag⟩, rfl⟩

end OtEfr32.Crypto
