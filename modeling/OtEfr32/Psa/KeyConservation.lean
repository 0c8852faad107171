import OtEfr32.Psa.Crypto

/-!
# Conservation of live keys

An operation with temporary keys should leave the set of live keys as it found it, but for a key
that it was asked to import.  Each operation does so under a condition on the library calls that
succeed: the jumps to `exit` behind the import of a temporary key do not release it, and
`otPlatCryptoImportKey` imports a key although it could not parse it.
-/

namespace OtEfr32.Psa

open Data

/-- A call of one of the operations. -/
inductive CryptoCall where
  | importKey (arguments : ImportArguments)
  | hmacSha256Start (mKeyRef : ℕ)
  | ecdsaVerify (aPublicKey aHash aSignature : Option (List UInt8))
  | pbkdf2GenerateKey (arguments : Pbkdf2Arguments)
  deriving Repr

/-- What a call leaves: its error, the live keys, and the number of the key it was asked to
import. -/
structure CallResult where
  error : OtError
  live : Finset ℕ
  imported : Option ℕ := none

/-- A call; it is `none` where an assertion fails. -/
def runCall (library : Library) (live : Finset ℕ) : CryptoCall → Option CallResult
  | .importKey arguments =>
    let (error, keyId, live) := otPlatCryptoImportKey library live arguments
    some { error, live, imported := some keyId }
  | .hmacSha256Start mKeyRef =>
    let (error, live) := otPlatCryptoHmacSha256Start library live mKeyRef
    some { error, live }
  | .ecdsaVerify aPublicKey aHash aSignature =>
    (otPlatCryptoEcdsaVerify library live aPublicKey aHash aSignature).map fun (error, live) ↦
      { error, live }
  | .pbkdf2GenerateKey arguments =>
    let (error, live) := otPlatCryptoPbkdf2GenerateKey library live arguments
    some { error, live }

/-- The live keys are those before the call, with the imported one if the call succeeds. -/
structure CallResult.Conserves (result : CallResult) (live : Finset ℕ) : Prop where
  error : result.error ≠ .none → result.live = live
  success : result.error = .none → result.live = result.imported.elim live fun keyId ↦
    insert keyId live

/-- A call that returns conserves the live keys. -/
def KeysConserved (library : Library) (live : Finset ℕ) (call : CryptoCall) : Prop :=
  ∀ result, runCall library live call = some result → result.Conserves live

/-! ## The conditions -/

/-- A key is imported, and is new, although its DER could not be parsed. -/
structure ImportsUnparsed (library : Library) (live : Finset ℕ) (arguments : ImportArguments) :
    Prop where
  keyType : arguments.aKeyType = .ecdsa
  unparsed : library.succeeds .pkSetup = false ∨
    library.succeeds (.pkParseKey (countedDer arguments.aKey)) = false
  imported : library.succeeds (.importKey arguments.attributes arguments.aPrivateKey) = true
  new : arguments.aKeyPersistence = .persistent → arguments.aKeyId ∉ live

/-- The key for the HMAC is exported and imported again. -/
structure ReImported (library : Library) (mKeyRef : ℕ) : Prop where
  getKeyAttributes : library.succeeds (.getKeyAttributes mKeyRef) = true
  exportKey : library.succeeds (.exportKey mKeyRef maxHmacKeySize) = true
  importKey : library.succeeds (.importKey
    { library.attributes mKeyRef with persistence := .volatile } (library.bytes mKeyRef)) = true

/-- The HMAC cannot be started with the key that was imported for it. -/
structure HmacStartFails (library : Library) (live : Finset ℕ) (mKeyRef : ℕ) : Prop where
  reImported : ReImported library mKeyRef
  start : library.succeeds (.hmacStart (library.allocator.next live)) = false

/-- The derivation gets as far as the salt. -/
structure SaltImported (library : Library) (arguments : Pbkdf2Arguments) : Prop where
  setup : library.succeeds (.derivationSetup .pbkdf2AesCmacPrf128) = true
  setCapacity : library.succeeds (.derivationSetCapacity arguments.aKeyLen.toNat) = true
  inputCost : library.succeeds (.derivationInputCost arguments.aIterationCounter.toNat) = true
  importSalt : library.succeeds (.importKey saltKeyAttr arguments.aSalt) = true

/-- All calls behind the import of the salt succeed. -/
structure KeyDerived (library : Library) (live : Finset ℕ) (arguments : Pbkdf2Arguments) :
    Prop where
  inputSalt : library.succeeds (.derivationInputKey .salt (library.allocator.next live)) = true
  importPassword : library.succeeds (.importKey passwordKeyAttr arguments.aPassword) = true
  inputPassword : library.succeeds (.derivationInputKey .password
    (library.allocator.next (library.allocator.opened live))) = true
  outputKey : library.succeeds
    (.derivationOutputKey keyAttrResult (8 * arguments.aKeyLen.toNat)) = true
  exportKey : library.succeeds (.exportKey
    (library.allocator.next (library.allocator.opened (library.allocator.opened live)))
    arguments.aKeyLen.toNat) = true

/-- No library call fails that would leave a temporary key behind. -/
def KeysSafe (library : Library) (live : Finset ℕ) : CryptoCall → Prop
  | .importKey arguments => ¬ ImportsUnparsed library live arguments
  | .hmacSha256Start mKeyRef => ¬ HmacStartFails library live mKeyRef
  | .ecdsaVerify _ _ _ => True
  | .pbkdf2GenerateKey arguments =>
    SaltImported library arguments → KeyDerived library live arguments

/-! ## The operations -/

variable {library : Library} {live : Finset ℕ}

theorem importKey_volatile (keyId : ℕ) {attributes : KeyAttributes}
    (hvolatile : attributes.persistence = .volatile) (key : List UInt8) :
    library.importKey live keyId attributes key =
      if library.succeeds (.importKey attributes key) then
        some (library.allocator.next live, library.allocator.opened live)
      else none := by
  rw [Library.importKey, hvolatile]

/-- An import adds the key whose number it returns. -/
theorem importKey_live {keyId : ℕ} {attributes : KeyAttributes} {key : List UInt8}
    {result : ℕ × Finset ℕ}
    (himport : library.importKey live keyId attributes key = some result) :
    result.2 = insert result.1 live := by
  unfold Library.importKey at himport
  split at himport
  case isFalse => cases himport
  case isTrue =>
    split at himport
    case h_1 =>
      cases himport
      rfl
    case h_2 =>
      cases himport
      rfl

/-- A call without an error conserves the keys that it leaves. -/
theorem keysConserved_iff_of_error {call : CryptoCall} {result : CallResult}
    (hcall : runCall library live call = some result) (herr : result.error ≠ .none) :
    KeysConserved library live call ↔ result.live = live := by
  constructor
  · exact fun h ↦ (h result hcall).error herr
  · intro hlive other hother
    obtain rfl : result = other := Option.some.inj (hcall.symm.trans hother)
    exact ⟨fun _ ↦ hlive, fun hnone ↦ absurd hnone herr⟩

theorem keysConserved_of_success {call : CryptoCall} {result : CallResult}
    (hcall : runCall library live call = some result) (herr : result.error = .none)
    (hlive : result.live = result.imported.elim live fun keyId ↦ insert keyId live) :
    KeysConserved library live call := by
  intro other hother
  obtain rfl : result = other := Option.some.inj (hcall.symm.trans hother)
  exact ⟨fun h ↦ absurd herr h, fun _ ↦ hlive⟩

/-- An import succeeds or fails with its library call. -/
theorem importKey_eq_none_iff {keyId : ℕ} {attributes : KeyAttributes} {key : List UInt8} :
    library.importKey live keyId attributes key = none ↔
      library.succeeds (.importKey attributes key) = false := by
  unfold Library.importKey
  cases library.succeeds (.importKey attributes key) with
  | false => simp
  | true => cases attributes.persistence <;> simp

/-- The number of an imported key is in use already only if a caller asks for it. -/
theorem importKey_notMem_iff {keyId : ℕ} {attributes : KeyAttributes} {key : List UInt8}
    {result : ℕ × Finset ℕ}
    (himport : library.importKey live keyId attributes key = some result) :
    result.1 ∉ live ↔ (attributes.persistence = .default → keyId ∉ live) := by
  unfold Library.importKey at himport
  split at himport
  case isFalse => cases himport
  case isTrue =>
    split at himport
    case h_1 hvolatile =>
      cases himport
      rw [hvolatile]
      exact iff_of_true (library.allocator.next_notMem live)
        fun h ↦ PsaKeyPersistence.noConfusion h
    case h_2 hdefault =>
      cases himport
      rw [hdefault]
      exact (imp_iff_right rfl).symm

theorem getPsaKeyPersistence_eq_default {aKeyPersistence : CryptoKeyStorage} :
    getPsaKeyPersistence aKeyPersistence = .default ↔ aKeyPersistence = .persistent := by
  cases aKeyPersistence <;> simp [getPsaKeyPersistence]

/-- The DER of a key is not parsed. -/
def ImportArguments.Unparsed (library : Library) (arguments : ImportArguments) : Prop :=
  arguments.aKeyType = .ecdsa ∧ (library.succeeds .pkSetup = false ∨
    library.succeeds (.pkParseKey (countedDer arguments.aKey)) = false)

/-- What is imported if the DER is not parsed is what stood in the local buffer. -/
theorem keyToImport_of_unparsed {arguments : ImportArguments}
    (hunparsed : arguments.Unparsed library) :
    (arguments.keyToImport library).1 ≠ .none ∧
      (arguments.keyToImport library).2 = arguments.aPrivateKey := by
  obtain ⟨htype, hfailed⟩ := hunparsed
  rw [ImportArguments.keyToImport, if_pos htype, extractPrivateKeyFromDer]
  cases hsetup : library.succeeds .pkSetup with
  | false => simp
  | true =>
    have hparse := hfailed.resolve_left (by simp [hsetup])
    simp [hparse]

theorem keyToImport_of_parsed {arguments : ImportArguments}
    (hparsed : ¬ arguments.Unparsed library) : (arguments.keyToImport library).1 = .none := by
  rw [ImportArguments.Unparsed, not_and, not_or, Bool.not_eq_false, Bool.not_eq_false] at hparsed
  unfold ImportArguments.keyToImport
  split
  case isTrue htype => simp [extractPrivateKeyFromDer, hparsed htype]
  case isFalse => rfl

/-- `otPlatCryptoImportKey` leaks a key exactly if it imports one that it could not parse. -/
theorem importKey_conserved_iff (arguments : ImportArguments) :
    KeysConserved library live (.importKey arguments) ↔
      ¬ ImportsUnparsed library live arguments := by
  cases himport : library.importKey live arguments.aKeyId arguments.attributes
      (arguments.keyToImport library).2 with
  | none =>
    have hcall : runCall library live (.importKey arguments) =
        some { error := .failed, live, imported := some arguments.aKeyId } := by
      simp only [runCall, otPlatCryptoImportKey, himport]
    rw [keysConserved_iff_of_error hcall (by simp)]
    apply iff_of_true rfl
    intro h
    have hkey := (keyToImport_of_unparsed ⟨h.keyType, h.unparsed⟩).2
    rw [hkey, importKey_eq_none_iff, h.imported] at himport
    exact Bool.false_ne_true himport.symm
  | some result =>
    have hcall : runCall library live (.importKey arguments) =
        some { error := (arguments.keyToImport library).1
               live := result.2
               imported := some result.1 } := by
      simp only [runCall, otPlatCryptoImportKey, himport]
    have hlive := importKey_live himport
    by_cases hunparsed : arguments.Unparsed library
    case neg =>
      apply iff_of_true
      · exact keysConserved_of_success hcall (keyToImport_of_parsed hunparsed) hlive
      · exact fun h ↦ hunparsed ⟨h.keyType, h.unparsed⟩
    case pos =>
      obtain ⟨herr, hkey⟩ := keyToImport_of_unparsed hunparsed
      have hnew : result.1 ∉ live ↔ ImportsUnparsed library live arguments := by
        rw [importKey_notMem_iff himport]
        constructor
        · intro hnew
          refine ⟨hunparsed.1, hunparsed.2, ?_,
            fun h ↦ hnew (getPsaKeyPersistence_eq_default.mpr h)⟩
          rw [← hkey]
          by_contra hfails
          rw [Bool.not_eq_true, ← importKey_eq_none_iff, himport] at hfails
          exact Option.some_ne_none _ hfails
        · exact fun h hdefault ↦ h.new (getPsaKeyPersistence_eq_default.mp hdefault)
      rw [keysConserved_iff_of_error hcall herr, ← hnew, not_not]
      change result.2 = live ↔ result.1 ∈ live
      rw [hlive, Finset.insert_eq_self]

/-- The temporary key of `otPlatCryptoHmacSha256Start`. -/
theorem reImportUnwrapped_eq (library : Library) (live : Finset ℕ) (mKeyRef : ℕ) :
    (¬ ReImported library mKeyRef ∧ reImportUnwrapped library live mKeyRef = none) ∨
      (ReImported library mKeyRef ∧ reImportUnwrapped library live mKeyRef =
        some (library.allocator.next live, library.allocator.opened live)) := by
  unfold reImportUnwrapped
  rw [importKey_volatile 0 rfl]
  split
  case isTrue hattributes =>
    split
    case isTrue hexport =>
      split
      case isTrue himport => exact .inr ⟨⟨hattributes, hexport, himport⟩, rfl⟩
      case isFalse himport => exact .inl ⟨fun h ↦ himport h.importKey, rfl⟩
    case isFalse hexport => exact .inl ⟨fun h ↦ hexport h.exportKey, rfl⟩
  case isFalse hattributes => exact .inl ⟨fun h ↦ hattributes h.getKeyAttributes, rfl⟩

/-- `otPlatCryptoHmacSha256Start` leaks its temporary key exactly if the HMAC does not start. -/
theorem hmacSha256Start_conserved_iff (mKeyRef : ℕ) :
    KeysConserved library live (.hmacSha256Start mKeyRef) ↔
      ¬ HmacStartFails library live mKeyRef := by
  obtain ⟨hfailed, hnone⟩ | ⟨himported, hkey⟩ := reImportUnwrapped_eq library live mKeyRef
  · have hcall : runCall library live (.hmacSha256Start mKeyRef) =
        some { error := .failed, live } := by
      simp only [runCall, otPlatCryptoHmacSha256Start, hnone]
    rw [keysConserved_iff_of_error hcall (by simp)]
    exact iff_of_true rfl fun h ↦ hfailed h.reImported
  · cases hstart : library.succeeds (.hmacStart (library.allocator.next live)) with
    | true =>
      have hcall : runCall library live (.hmacSha256Start mKeyRef) =
          some { error := .none, live } := by
        simp only [runCall, otPlatCryptoHmacSha256Start, hkey, hstart, if_true, destroyKey,
          Allocator.erase_opened]
      apply iff_of_true
      · exact keysConserved_of_success hcall rfl rfl
      · exact fun h ↦ Bool.false_ne_true (h.start.symm.trans hstart)
    | false =>
      have hcall : runCall library live (.hmacSha256Start mKeyRef) =
          some { error := .failed, live := library.allocator.opened live } := by
        simp only [runCall, otPlatCryptoHmacSha256Start, hkey, hstart, if_false,
          Bool.false_eq_true]
      rw [keysConserved_iff_of_error hcall (by simp)]
      apply iff_of_false
      · exact library.allocator.ne_of_next_mem live (library.allocator.next_mem_opened live)
      · exact not_not_intro ⟨himported, hstart⟩

/-- `otPlatCryptoEcdsaVerify` always releases its temporary key. -/
theorem ecdsaVerify_conserved (aPublicKey aHash aSignature : Option (List UInt8)) :
    KeysConserved library live (.ecdsaVerify aPublicKey aHash aSignature) := by
  intro result hresult
  obtain ⟨⟨error, final⟩, hverify, rfl⟩ := Option.map_eq_some_iff.mp hresult
  have hlive : final = live := by
    unfold otPlatCryptoEcdsaVerify at hverify
    split at hverify
    case h_1 =>
      rw [importKey_volatile 0 rfl] at hverify
      split at hverify
      case h_1 => cases hverify
      case h_2 himport =>
        split at himport
        case isFalse => cases himport
        case isTrue =>
          cases himport
          cases hverify
          exact library.allocator.erase_opened live
    case h_2 =>
      cases hverify
      rfl
  exact ⟨fun _ ↦ hlive, fun _ ↦ hlive⟩

/-- The end of the derivation: it releases all three keys, or fails and keeps the salt. -/
theorem pbkdf2Output_cases {saltKeyId passwordKeyId aKeyLen : ℕ} (hsalt : saltKeyId ∈ live) :
    (library.succeeds (.derivationInputKey .password passwordKeyId) = true ∧
      library.succeeds (.derivationOutputKey keyAttrResult (8 * aKeyLen)) = true ∧
      library.succeeds (.exportKey (library.allocator.next live) aKeyLen) = true ∧
      pbkdf2Output library live saltKeyId passwordKeyId aKeyLen =
        (.none, (live.erase saltKeyId).erase passwordKeyId)) ∨
    (¬ (library.succeeds (.derivationInputKey .password passwordKeyId) = true ∧
        library.succeeds (.derivationOutputKey keyAttrResult (8 * aKeyLen)) = true ∧
        library.succeeds (.exportKey (library.allocator.next live) aKeyLen) = true) ∧
      (pbkdf2Output library live saltKeyId passwordKeyId aKeyLen).1 = .failed ∧
      saltKeyId ∈ (pbkdf2Output library live saltKeyId passwordKeyId aKeyLen).2) := by
  unfold pbkdf2Output Library.outputKey
  cases library.succeeds (.derivationInputKey .password passwordKeyId) with
  | false => exact .inr ⟨by simp, rfl, hsalt⟩
  | true =>
    cases library.succeeds (.derivationOutputKey keyAttrResult (8 * aKeyLen)) with
    | false => exact .inr ⟨by simp, rfl, hsalt⟩
    | true =>
      cases hexport : library.succeeds (.exportKey (library.allocator.next live) aKeyLen) with
      | false =>
        refine .inr ⟨by simp, ?_⟩
        simp [hexport, library.allocator.subset_opened live hsalt]
      | true =>
        refine .inl ⟨rfl, rfl, rfl, ?_⟩
        simp [hexport, destroyKey, Allocator.erase_opened]

/-- The derivation behind the import of the salt. -/
theorem pbkdf2Password_cases (library : Library) (live : Finset ℕ) (arguments : Pbkdf2Arguments) :
    (KeyDerived library live arguments ∧
      pbkdf2Password library (library.allocator.opened live) (library.allocator.next live)
        arguments = (.none, live)) ∨
    (¬ KeyDerived library live arguments ∧
      (pbkdf2Password library (library.allocator.opened live) (library.allocator.next live)
        arguments).1 = .failed ∧
      library.allocator.next live ∈ (pbkdf2Password library (library.allocator.opened live)
        (library.allocator.next live) arguments).2) := by
  have hsalt := library.allocator.next_mem_opened live
  unfold pbkdf2Password
  rw [importKey_volatile 0 rfl]
  cases hinput : library.succeeds (.derivationInputKey .salt (library.allocator.next live)) with
  | false => exact .inr ⟨fun h ↦ Bool.false_ne_true (hinput.symm.trans h.inputSalt), rfl, hsalt⟩
  | true =>
    cases hpassword : library.succeeds (.importKey passwordKeyAttr arguments.aPassword) with
    | false =>
      exact .inr ⟨fun h ↦ Bool.false_ne_true (hpassword.symm.trans h.importPassword), rfl, hsalt⟩
    | true =>
      have hkept := library.allocator.subset_opened (library.allocator.opened live) hsalt
      rcases @pbkdf2Output_cases library
          (library.allocator.opened (library.allocator.opened live)) _
          (library.allocator.next (library.allocator.opened live)) arguments.aKeyLen.toNat hkept
        with
        ⟨hinputPassword, houtput, hexport, heq⟩ | ⟨hfails, herr, hmem⟩
      · refine .inl ⟨⟨hinput, hpassword, hinputPassword, houtput, hexport⟩, ?_⟩
        rw [library.allocator.erase_opened_opened] at heq
        exact heq
      · exact .inr ⟨fun h ↦ hfails ⟨h.inputPassword, h.outputKey, h.exportKey⟩, herr, hmem⟩

theorem otPlatCryptoPbkdf2GenerateKey_of_salt {arguments : Pbkdf2Arguments}
    (hsalt : SaltImported library arguments) :
    otPlatCryptoPbkdf2GenerateKey library live arguments =
      pbkdf2Password library (library.allocator.opened live) (library.allocator.next live)
        arguments := by
  rw [otPlatCryptoPbkdf2GenerateKey, importKey_volatile 0 rfl]
  simp [hsalt.setup, hsalt.setCapacity, hsalt.inputCost, hsalt.importSalt]

theorem otPlatCryptoPbkdf2GenerateKey_of_not_salt {arguments : Pbkdf2Arguments}
    (hsalt : ¬ SaltImported library arguments) :
    otPlatCryptoPbkdf2GenerateKey library live arguments = (.failed, live) := by
  rw [otPlatCryptoPbkdf2GenerateKey, importKey_volatile 0 rfl]
  by_cases hsetup : library.succeeds (.derivationSetup .pbkdf2AesCmacPrf128) = true
  case neg => simp [hsetup]
  by_cases hcapacity : library.succeeds (.derivationSetCapacity arguments.aKeyLen.toNat) = true
  case neg => simp [hcapacity]
  by_cases hcost : library.succeeds
      (.derivationInputCost arguments.aIterationCounter.toNat) = true
  case neg => simp [hcost]
  have himport : library.succeeds (.importKey saltKeyAttr arguments.aSalt) = false := by
    by_contra h
    exact hsalt ⟨hsetup, hcapacity, hcost, Bool.not_eq_false _ ▸ h⟩
  simp [himport]

/-- `otPlatCryptoPbkdf2GenerateKey` leaks temporary keys exactly if a call fails behind the import
of the salt. -/
theorem pbkdf2_conserved_iff (arguments : Pbkdf2Arguments) :
    KeysConserved library live (.pbkdf2GenerateKey arguments) ↔
      (SaltImported library arguments → KeyDerived library live arguments) := by
  have hcall : runCall library live (.pbkdf2GenerateKey arguments) =
      some { error := (otPlatCryptoPbkdf2GenerateKey library live arguments).1
             live := (otPlatCryptoPbkdf2GenerateKey library live arguments).2 } := rfl
  by_cases hsalt : SaltImported library arguments
  case neg =>
    rw [otPlatCryptoPbkdf2GenerateKey_of_not_salt hsalt] at hcall
    rw [keysConserved_iff_of_error hcall (by simp)]
    exact iff_of_true rfl fun h ↦ absurd h hsalt
  case pos =>
    rw [otPlatCryptoPbkdf2GenerateKey_of_salt hsalt] at hcall
    rw [imp_iff_right hsalt]
    rcases pbkdf2Password_cases library live arguments with ⟨hderived, heq⟩ | ⟨hfails, herr, hmem⟩
    · rw [heq] at hcall
      exact iff_of_true (keysConserved_of_success hcall rfl rfl) hderived
    · rw [keysConserved_iff_of_error hcall (by simp [herr])]
      exact iff_of_false (library.allocator.ne_of_next_mem live hmem) hfails

/-- An operation conserves the live keys exactly if no library call fails that would leave a
temporary key behind. -/
theorem keysConserved_iff (call : CryptoCall) :
    KeysConserved library live call ↔ KeysSafe library live call := by
  cases call with
  | importKey arguments => exact importKey_conserved_iff arguments
  | hmacSha256Start mKeyRef => exact hmacSha256Start_conserved_iff mKeyRef
  | ecdsaVerify aPublicKey aHash aSignature =>
    exact iff_of_true (ecdsaVerify_conserved aPublicKey aHash aSignature) trivial
  | pbkdf2GenerateKey arguments => exact pbkdf2_conserved_iff arguments

/-- A library in which one step of each operation fails. -/
def failingLibrary : Library where
  succeeds
    | .pkParseKey _ | .hmacStart _ | .derivationOutputKey _ _ => false
    | _ => true
  allocator := Allocator.aboveAll
  privateKey der := der
  attributes _ := { keyType := .hmac, algorithm := .hmacSha256, usage := {} }
  bytes _ := []

/-- An ECDSA key whose DER is not parsed. -/
def unparsedImport : ImportArguments where
  aKeyId := 0
  aKeyType := .ecdsa
  aKeyAlgorithm := .ecdsa
  aKeyUsage := { signHash := true }
  aKeyPersistence := .volatile
  aKey := [0x30]
  aPrivateKey := List.replicate 32 0

def shortDerivation : Pbkdf2Arguments where
  aPassword := [1]
  aSalt := [2]
  aIterationCounter := 1000
  aKeyLen := 16

/-- Three operations that each leave a key behind. -/
theorem not_keysConserved_failingLibrary :
    ¬ KeysConserved failingLibrary ∅ (.importKey unparsedImport) ∧
      ¬ KeysConserved failingLibrary ∅ (.hmacSha256Start 5) ∧
      ¬ KeysConserved failingLibrary ∅ (.pbkdf2GenerateKey shortDerivation) := by
  refine ⟨?_, ?_, ?_⟩
  · rw [importKey_conserved_iff, not_not]
    exact ⟨rfl, .inr rfl, rfl, fun h ↦ CryptoKeyStorage.noConfusion h⟩
  · rw [hmacSha256Start_conserved_iff, not_not]
    exact ⟨⟨rfl, rfl, rfl⟩, rfl⟩
  · rw [pbkdf2_conserved_iff]
    intro h
    have hderived := h ⟨rfl, rfl, rfl, rfl⟩
    exact Bool.false_ne_true hderived.outputKey

end OtEfr32.Psa
