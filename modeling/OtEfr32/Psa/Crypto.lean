import OtEfr32.Psa.Library

/-!
# Operations with temporary keys

The functions of `crypto.c` that import keys, with the set of live keys passed along.  A jump to
`exit` returns at once.
-/

namespace OtEfr32.Psa

/-- `otCryptoKeyType`. -/
inductive CryptoKeyType where
  | raw
  | aes
  | hmac
  | ecdsa
  deriving DecidableEq, Repr

/-- `otCryptoKeyAlgorithm`. -/
inductive CryptoKeyAlgorithm where
  | vendor
  | aesEcb
  | hmacSha256
  | ecdsa
  deriving DecidableEq, Repr

/-- `otCryptoKeyStorage`. -/
inductive CryptoKeyStorage where
  | volatile
  | persistent
  deriving DecidableEq, Repr

/-- The bits of an `aKeyUsage` argument. -/
structure CryptoKeyUsage where
  exportable : Bool := false
  encrypt : Bool := false
  decrypt : Bool := false
  signHash : Bool := false
  verifyHash : Bool := false
  deriving DecidableEq, Repr

/-- `getPsaKeyType`. -/
def getPsaKeyType : CryptoKeyType → PsaKeyType
  | .raw => .rawData
  | .aes => .aes
  | .hmac => .hmac
  | .ecdsa => .eccKeyPairSecpR1

/-- `getPsaAlgorithm`. -/
def getPsaAlgorithm : CryptoKeyAlgorithm → PsaAlgorithm
  | .vendor => .vendorFlag
  | .aesEcb => .ecbNoPadding
  | .hmacSha256 => .hmacSha256
  | .ecdsa => .ecdsaAnyHash

/-- `getPsaKeyUsage`. -/
def getPsaKeyUsage (aKeyUsage : CryptoKeyUsage) : PsaKeyUsage where
  exportable := aKeyUsage.exportable
  encrypt := aKeyUsage.encrypt
  decrypt := aKeyUsage.decrypt
  signHash := aKeyUsage.signHash
  verifyHash := aKeyUsage.verifyHash

/-- `getPsaKeyPersistence`. -/
def getPsaKeyPersistence : CryptoKeyStorage → PsaKeyPersistence
  | .volatile => .volatile
  | .persistent => .default

/-- The bytes of a DER that the parameter `aDerLen`, which is a byte, counts. -/
def countedDer (aDer : List UInt8) : List UInt8 := aDer.take (aDer.length % 2 ^ 8)

/-- `extractPrivateKeyFromDer`, with the buffer `aPrivateKey` that it leaves. -/
def extractPrivateKeyFromDer (library : Library) (aPrivateKey aDer : List UInt8) :
    OtError × List UInt8 :=
  if library.succeeds .pkSetup then
    if library.succeeds (.pkParseKey (countedDer aDer)) then
      (.none, library.privateKey (countedDer aDer))
    else (.parse, aPrivateKey)
  else (.failed, aPrivateKey)

/-- The arguments of `otPlatCryptoImportKey`, and what stands in its local buffer `aPrivateKey`. -/
structure ImportArguments where
  aKeyId : ℕ
  aKeyType : CryptoKeyType
  aKeyAlgorithm : CryptoKeyAlgorithm
  aKeyUsage : CryptoKeyUsage
  aKeyPersistence : CryptoKeyStorage
  aKey : List UInt8
  aPrivateKey : List UInt8
  deriving Repr

/-- The error before the import, and the key material that is imported. -/
def ImportArguments.keyToImport (library : Library) (arguments : ImportArguments) :
    OtError × List UInt8 :=
  if arguments.aKeyType = .ecdsa then
    extractPrivateKeyFromDer library arguments.aPrivateKey arguments.aKey
  else (.none, arguments.aKey)

/-- The attributes that are imported with it. -/
def ImportArguments.attributes (arguments : ImportArguments) : KeyAttributes where
  keyType := getPsaKeyType arguments.aKeyType
  algorithm := getPsaAlgorithm arguments.aKeyAlgorithm
  usage := getPsaKeyUsage arguments.aKeyUsage
  persistence := getPsaKeyPersistence arguments.aKeyPersistence

/-- `otPlatCryptoImportKey`: the error, the key number at `aKeyId`, and the live keys. -/
def otPlatCryptoImportKey (library : Library) (live : Finset ℕ) (arguments : ImportArguments) :
    OtError × ℕ × Finset ℕ :=
  let (error, keyToImport) := arguments.keyToImport library
  match library.importKey live arguments.aKeyId arguments.attributes keyToImport with
  | some (keyId, live) => (error, keyId, live)
  | none => (.failed, arguments.aKeyId, live)

/-- `MAX_HMAC_KEY_SIZE`. -/
def maxHmacKeySize : ℕ := 32

/-- `reImportUnwrapped` in a build with `SEMAILBOX_PRESENT`. -/
def reImportUnwrapped (library : Library) (live : Finset ℕ) (mKeyRef : ℕ) :
    Option (ℕ × Finset ℕ) :=
  if library.succeeds (.getKeyAttributes mKeyRef) then
    if library.succeeds (.exportKey mKeyRef maxHmacKeySize) then
      library.importKey live 0 { library.attributes mKeyRef with persistence := .volatile }
        (library.bytes mKeyRef)
    else none
  else none

/-- `otPlatCryptoHmacSha256Start` in a build with `SEMAILBOX_PRESENT`. -/
def otPlatCryptoHmacSha256Start (library : Library) (live : Finset ℕ) (mKeyRef : ℕ) :
    OtError × Finset ℕ :=
  match reImportUnwrapped library live mKeyRef with
  | none => (.failed, live)
  | some (hmacKeyRef, live) =>
    if library.succeeds (.hmacStart hmacKeyRef) then (.none, destroyKey live hmacKeyRef)
    else (.failed, live)

/-- The attributes of the public key in `otPlatCryptoEcdsaVerify`. -/
def ecdsaVerifyAttributes : KeyAttributes where
  keyType := .eccPublicKeySecpR1
  algorithm := .ecdsaAnyHash
  usage := { verifyHash := true }

/-- `otPlatCryptoEcdsaVerify`, whose arguments may be null; it is `none` where its assertion
fails. -/
def otPlatCryptoEcdsaVerify (library : Library) (live : Finset ℕ)
    (aPublicKey aHash aSignature : Option (List UInt8)) : Option (OtError × Finset ℕ) :=
  match aPublicKey, aHash, aSignature with
  | some publicKey, some hash, some signature =>
    match library.importKey live 0 ecdsaVerifyAttributes (0x04 :: publicKey) with
    | none => none
    | some (aKeyId, live) =>
      let verified := library.succeeds (.verify aKeyId hash signature)
      let live := destroyKey live aKeyId
      some (if verified then .none else .failed, live)
  | _, _, _ => some (.invalidArgs, live)

/-- `saltKeyAttr`. -/
def saltKeyAttr : KeyAttributes where
  keyType := .rawData
  algorithm := .pbkdf2AesCmacPrf128
  usage := { derive := true }

/-- `passwordKeyAttr`. -/
def passwordKeyAttr : KeyAttributes where
  keyType := .password
  algorithm := .pbkdf2AesCmacPrf128
  usage := { derive := true }

/-- `keyAttrResult`. -/
def keyAttrResult : KeyAttributes where
  keyType := .rawData
  algorithm := .ctr
  usage := { exportable := true }

/-- The arguments of `otPlatCryptoPbkdf2GenerateKey`. -/
structure Pbkdf2Arguments where
  aPassword : List UInt8
  aSalt : List UInt8
  aIterationCounter : UInt32
  aKeyLen : UInt16
  deriving Repr

/-- The part of `otPlatCryptoPbkdf2GenerateKey` behind the import of the password. -/
def pbkdf2Output (library : Library) (live : Finset ℕ) (saltKeyId passwordKeyId aKeyLen : ℕ) :
    OtError × Finset ℕ :=
  if ¬ library.succeeds (.derivationInputKey .password passwordKeyId) then (.failed, live) else
  match library.outputKey live keyAttrResult (8 * aKeyLen) with
  | none => (.failed, live)
  | some (keyId, live) =>
    if ¬ library.succeeds (.exportKey keyId aKeyLen) then (.failed, live) else
    (.none, destroyKey (destroyKey (destroyKey live keyId) saltKeyId) passwordKeyId)

/-- The part of `otPlatCryptoPbkdf2GenerateKey` behind the import of the salt. -/
def pbkdf2Password (library : Library) (live : Finset ℕ) (saltKeyId : ℕ)
    (arguments : Pbkdf2Arguments) : OtError × Finset ℕ :=
  if ¬ library.succeeds (.derivationInputKey .salt saltKeyId) then (.failed, live) else
  match library.importKey live 0 passwordKeyAttr arguments.aPassword with
  | none => (.failed, live)
  | some (passwordKeyId, live) =>
    pbkdf2Output library live saltKeyId passwordKeyId arguments.aKeyLen.toNat

/-- `otPlatCryptoPbkdf2GenerateKey`. -/
def otPlatCryptoPbkdf2GenerateKey (library : Library) (live : Finset ℕ)
    (arguments : Pbkdf2Arguments) : OtError × Finset ℕ :=
  if ¬ library.succeeds (.derivationSetup .pbkdf2AesCmacPrf128) then (.failed, live) else
  if ¬ library.succeeds (.derivationSetCapacity arguments.aKeyLen.toNat) then (.failed, live) else
  if ¬ library.succeeds (.derivationInputCost arguments.aIterationCounter.toNat) then
    (.failed, live) else
  match library.importKey live 0 saltKeyAttr arguments.aSalt with
  | none => (.failed, live)
  | some (saltKeyId, live) => pbkdf2Password library live saltKeyId arguments

end OtEfr32.Psa
