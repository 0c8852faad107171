import OtEfr32.Data.Handles
import OtEfr32.Platform.Error

/-!
# The crypto library behind `crypto.c`

The calls that `crypto.c` makes to mbedTLS, to PSA and to the security manager.  Any of them may
fail: `Library.succeeds` says of every call, with its arguments, whether it does.  What matters here
is what a call does to the set of live keys: an import or a derivation that succeeds adds one key,
a removal takes one away, and nothing else changes the set.
-/

namespace OtEfr32.Psa

open Data

/-- `psa_key_type_t`. -/
inductive PsaKeyType where
  | rawData
  | aes
  | hmac
  | eccKeyPairSecpR1
  | eccPublicKeySecpR1
  | password
  deriving DecidableEq, Repr

/-- `psa_algorithm_t`. -/
inductive PsaAlgorithm where
  | vendorFlag
  | ecbNoPadding
  | hmacSha256
  | ecdsaAnyHash
  | pbkdf2AesCmacPrf128
  | ctr
  deriving DecidableEq, Repr

/-- `psa_key_usage_t`, a flag for each bit. -/
structure PsaKeyUsage where
  exportable : Bool := false
  encrypt : Bool := false
  decrypt : Bool := false
  signHash : Bool := false
  verifyHash : Bool := false
  derive : Bool := false
  deriving DecidableEq, Repr

/-- `psa_key_persistence_t`. -/
inductive PsaKeyPersistence where
  | volatile
  | default
  deriving DecidableEq, Repr

/-- What an import says about a key. -/
structure KeyAttributes where
  keyType : PsaKeyType
  algorithm : PsaAlgorithm
  usage : PsaKeyUsage
  persistence : PsaKeyPersistence := .volatile
  deriving DecidableEq, Repr

/-- The steps of a key derivation that take a key. -/
inductive DerivationStep where
  | salt
  | password
  deriving DecidableEq, Repr

/-- A call to the library, by its arguments. -/
inductive LibraryCall where
  /-- `mbedtls_pk_setup`. -/
  | pkSetup
  /-- `mbedtls_pk_parse_key`. -/
  | pkParseKey (der : List UInt8)
  /-- `psa_import_key` and `sl_sec_man_import_key`. -/
  | importKey (attributes : KeyAttributes) (key : List UInt8)
  /-- `sl_sec_man_get_key_attributes`. -/
  | getKeyAttributes (id : ℕ)
  /-- `psa_export_key` and `sl_sec_man_export_key`. -/
  | exportKey (id size : ℕ)
  /-- `sl_sec_man_hmac_start`. -/
  | hmacStart (id : ℕ)
  /-- `sl_sec_man_verify`. -/
  | verify (id : ℕ) (hash signature : List UInt8)
  /-- `psa_key_derivation_setup`. -/
  | derivationSetup (algorithm : PsaAlgorithm)
  /-- `psa_key_derivation_set_capacity`. -/
  | derivationSetCapacity (capacity : ℕ)
  /-- `psa_key_derivation_input_integer` for the cost. -/
  | derivationInputCost (cost : ℕ)
  /-- `psa_key_derivation_input_key`. -/
  | derivationInputKey (step : DerivationStep) (id : ℕ)
  /-- `psa_key_derivation_output_key`. -/
  | derivationOutputKey (attributes : KeyAttributes) (bits : ℕ)
  deriving DecidableEq, Repr

/-- The library: which calls succeed, which numbers new keys get, and the values it computes. -/
structure Library where
  succeeds : LibraryCall → Bool
  allocator : Allocator
  /-- The private key in a key pair that `mbedtls_pk_parse_key` accepts. -/
  privateKey : List UInt8 → List UInt8
  /-- The attributes of a key. -/
  attributes : ℕ → KeyAttributes
  /-- The bytes of a key that may be exported. -/
  bytes : ℕ → List UInt8

/-- `sl_sec_man_import_key`: a persistent key gets the number that the caller asks for. -/
def Library.importKey (library : Library) (live : Finset ℕ) (keyId : ℕ)
    (attributes : KeyAttributes) (key : List UInt8) : Option (ℕ × Finset ℕ) :=
  if library.succeeds (.importKey attributes key) then
    match attributes.persistence with
    | .volatile => some (library.allocator.next live, library.allocator.opened live)
    | .default => some (keyId, insert keyId live)
  else none

/-- `psa_key_derivation_output_key`. -/
def Library.outputKey (library : Library) (live : Finset ℕ) (attributes : KeyAttributes)
    (bits : ℕ) : Option (ℕ × Finset ℕ) :=
  if library.succeeds (.derivationOutputKey attributes bits) then
    some (library.allocator.next live, library.allocator.opened live)
  else none

/-- `psa_destroy_key` and `sl_sec_man_destroy_key`, which succeed. -/
def destroyKey (live : Finset ℕ) (keyId : ℕ) : Finset ℕ := live.erase keyId

end OtEfr32.Psa
