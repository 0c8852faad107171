import OtEfr32.Data.KeyRange
import OtEfr32.Platform.Error
import OtEfr32.Transition.Loop
import Mathlib.Algebra.Group.Nat.Defs
import Mathlib.Data.Int.Notation
import Mathlib.Logic.Function.Basic

/-!
# Settings in nvm3

Model of the nvm3 branch of `flash.c`.  A setting is an nvm3 object; the settings with one
OpenThread key are the objects in the slots `0` to `NUM_INDEXED_SETTINGS` of that key, and an index
counts the occupied slots only.  `otPlatSettingsGet` and `otPlatSettingsDelete` find an index by
enumerating the slots four keys at a time.

Every nvm3 call and every allocation draws the next entry of `failure`, so that any of them may be
made to fail.
-/

namespace OtEfr32.Settings

open Transition

/-! ## The object store -/

/-- Return codes of nvm3; `err` stands for all others. -/
inductive Ecode where
  | ok
  | errKeyNotFound
  | err (code : ℕ)
  deriving DecidableEq, Repr

/-- A data object; its length fits the 16-bit lengths of the settings interface. -/
structure Nvm3Object where
  bytes : List UInt8
  length_lt : bytes.length < 2 ^ 16

/-- The nvm3 instance.  `failure n` is the error code that the environment makes the call number
`n` return, if any. -/
structure Nvm3 where
  objects : ℕ → Option Nvm3Object
  failure : ℕ → Option ℕ := fun _ ↦ none
  calls : ℕ := 0

namespace Nvm3

/-- The store after one more call. -/
def called (nvm : Nvm3) : Nvm3 := { nvm with calls := nvm.calls + 1 }

/-- An object is stored under the key. -/
def occupied (nvm : Nvm3) (key : ℕ) : Bool := (nvm.objects key).isSome

/-- `nvm3_enumObjects`: the lowest keys of the range, as many as the list can take. -/
def enumObjects (nvm : Nvm3) (keyListSize keyMin keyMax : ℕ) : List ℕ :=
  (Data.keysIn nvm.occupied keyMin keyMax).take keyListSize

/-- `nvm3_getObjectInfo`: the length of an object. -/
def getObjectInfo (nvm : Nvm3) (key : ℕ) : Ecode × ℕ × Nvm3 :=
  match nvm.failure nvm.calls, nvm.objects key with
  | some code, _ => (.err code, 0, nvm.called)
  | none, none => (.errKeyNotFound, 0, nvm.called)
  | none, some object => (.ok, object.bytes.length, nvm.called)

/-- `nvm3_readData`: the first `maxLen` bytes of an object that has as many. -/
def readData (nvm : Nvm3) (key maxLen : ℕ) : Ecode × List UInt8 × Nvm3 :=
  match nvm.failure nvm.calls, nvm.objects key with
  | some code, _ => (.err code, [], nvm.called)
  | none, none => (.errKeyNotFound, [], nvm.called)
  | none, some object =>
    if maxLen ≤ object.bytes.length then (.ok, object.bytes.take maxLen, nvm.called)
    else (.err 0, [], nvm.called)

/-- `nvm3_deleteObject`. -/
def deleteObject (nvm : Nvm3) (key : ℕ) : Ecode × Nvm3 :=
  match nvm.failure nvm.calls, nvm.objects key with
  | some code, _ => (.err code, nvm.called)
  | none, none => (.errKeyNotFound, nvm.called)
  | none, some _ => (.ok, { nvm.called with objects := Function.update nvm.objects key none })

/-- `sl_memory_alloc`, which counts as a call here. -/
def memoryAlloc (nvm : Nvm3) : Bool × Nvm3 := ((nvm.failure nvm.calls).isNone, nvm.called)

end Nvm3

/-! ## Local functions -/

/-- `ENUM_NVM3_KEY_LIST_SIZE`. -/
def enumNvm3KeyListSize : ℕ := 4

/-- `NVM3KEY_DOMAIN_OPENTHREAD`. -/
def nvm3KeyDomainOpenThread : ℕ := 0x20000

/-- `makeNvm3ObjKey`. -/
def makeNvm3ObjKey (otSettingsKey : UInt16) (index : ℕ) : ℕ :=
  nvm3KeyDomainOpenThread ||| otSettingsKey.toNat <<< 8 ||| index &&& 0xFF

/-- `mapNvm3Error`. -/
def mapNvm3Error : Ecode → OtError
  | .ok => .none
  | .errKeyNotFound => .notFound
  | .err _ => .failed

/-- `memcpy` of `source` to the start of a buffer. -/
def memcpy (buffer source : List UInt8) : List UInt8 := source ++ buffer.drop source.length

/-- The build's `NUM_INDEXED_SETTINGS`, and `sl_ot_rtos_task_can_access_pal()`. -/
structure Config where
  numIndexedSettings : ℕ
  canAccessPal : Bool := true

/-! ## The search for an index -/

/-- The local variables of `otPlatSettingsGet` and `otPlatSettingsDelete`.  `valueLength` and the
caller's buffer `aValue` are used by the former only.  `exited` is set by the jumps to `exit` and
by the `break` out of the outer loop, behind which `exit` follows. -/
structure Search where
  nvm : Nvm3
  nvm3Key : ℕ
  idx : ℕ := 0
  idxFound : Bool := false
  err : OtError := .notFound
  valueLength : ℕ := 0
  aValue : Option (List UInt8) := none
  exited : Bool := false

/-- `nvm3Key = key`. -/
def Search.moveTo (search : Search) (key : ℕ) : Search := { search with nvm3Key := key }

/-- `++idx`. -/
def Search.count (search : Search) : Search := { search with idx := search.idx + 1 }

/-- The search has found its index or jumped to `exit`. -/
def Search.stopped (search : Search) : Bool := search.idxFound || search.exited

/-- The `for` loop over one list of keys; `visit` is its body up to `++idx`. -/
def searchKeys (visit : Search → Search) : List ℕ → Search → Search
  | [], search => search
  | key :: keys, search =>
    let visited := visit (search.moveTo key)
    if visited.stopped then visited else searchKeys visit keys visited.count

/-- The body of the `while` loop. -/
def searchRound (config : Config) (aKey : UInt16) (visit : Search → Search) (search : Search) :
    Search :=
  let keys := search.nvm.enumObjects enumNvm3KeyListSize search.nvm3Key
    (makeNvm3ObjKey aKey config.numIndexedSettings)
  let searched := searchKeys visit keys search
  if searched.exited then searched
  else if keys.length < enumNvm3KeyListSize then { searched with exited := true }
  else searched.moveTo (searched.nvm3Key + 1)

/-- The condition of the `while` loop; it is left for good by a jump to `exit`. -/
def searchGoesOn (config : Config) (search : Search) : Bool :=
  search.idx ≤ config.numIndexedSettings && !search.stopped

/-- The `while` loop.  It makes at most `NUM_INDEXED_SETTINGS + 2` rounds. -/
def searchIndex (config : Config) (aKey : UInt16) (visit : Search → Search) (search : Search) :
    Option Search :=
  whileLoop (searchGoesOn config) (searchRound config aKey visit)
    (config.numIndexedSettings + 3) search

/-! ## The settings interface -/

/-- The read of an object of `valueLength` bytes through a temporary buffer in
`otPlatSettingsGet`, which takes place if the caller passed both pointers. -/
def readObject (aValueLength : Option ℕ) (search : Search) : Search :=
  match search.aValue, aValueLength with
  | some buffer, some length =>
    let (allocated, nvm) := search.nvm.memoryAlloc
    if allocated then
      let (code, buf, nvm) := nvm.readData search.nvm3Key search.valueLength
      let err := mapNvm3Error code
      if err = .none then
        { search with
          nvm, err, idxFound := true
          aValue := some (memcpy buffer (buf.take (min search.valueLength length))) }
      else { search with nvm, err, exited := true }
    else { search with nvm, err := .failed, exited := true }
  | _, _ => { search with idxFound := true }

/-- What `otPlatSettingsGet` does with the object at `nvm3Key` in its inner loop. -/
def getVisit (aIndex : ℤ) (aValueLength : Option ℕ) (search : Search) : Search :=
  if search.idx = aIndex then
    let (code, objLen, nvm) := search.nvm.getObjectInfo search.nvm3Key
    let err := mapNvm3Error code
    if err = .none then
      readObject aValueLength { search with nvm, err, valueLength := objLen % 2 ^ 16 }
    else { search with nvm, err, idxFound := true }
  else search

/-- What `otPlatSettingsGet` returns, and what it leaves at `aValue` and `aValueLength`. -/
structure GetResult where
  err : OtError
  aValue : Option (List UInt8)
  aValueLength : Option ℕ
  nvm : Nvm3

/-- `otPlatSettingsGet`.  `aValue` is the caller's buffer and `aValueLength` its length; either
pointer may be null. -/
def otPlatSettingsGet (config : Config) (nvm : Nvm3) (aKey : UInt16) (aIndex : ℤ)
    (aValue : Option (List UInt8)) (aValueLength : Option ℕ) : Option GetResult :=
  if config.canAccessPal then
    (searchIndex config aKey (getVisit aIndex aValueLength)
      { nvm, nvm3Key := makeNvm3ObjKey aKey 0, aValue }).map fun search ↦
        { err := search.err
          aValue := search.aValue
          aValueLength := aValueLength.map fun _ ↦ search.valueLength
          nvm := search.nvm }
  else
    some { err := .rejected, aValue, aValueLength := aValueLength.map fun _ ↦ 0, nvm }

/-- The removal of the object at `nvm3Key` in `otPlatSettingsDelete`. -/
def deleteObject (search : Search) : Search :=
  let (code, _, nvm) := search.nvm.getObjectInfo search.nvm3Key
  let err := mapNvm3Error code
  if err = .none then
    let (code, nvm) := nvm.deleteObject search.nvm3Key
    let err := mapNvm3Error code
    if err = .none then { search with nvm, err } else { search with nvm, err, exited := true }
  else { search with nvm, err }

/-- What `otPlatSettingsDelete` does with the object at `nvm3Key` in its inner loop. -/
def deleteVisit (aIndex : ℤ) (search : Search) : Search :=
  if search.idx = aIndex ∨ aIndex = -1 then
    let deleted := deleteObject search
    if aIndex ≠ -1 ∧ ¬ deleted.exited then { deleted with idxFound := true } else deleted
  else search

/-- `otPlatSettingsDelete`. -/
def otPlatSettingsDelete (config : Config) (nvm : Nvm3) (aKey : UInt16) (aIndex : ℤ) :
    Option (OtError × Nvm3) :=
  if config.canAccessPal then
    (searchIndex config aKey (deleteVisit aIndex)
      { nvm, nvm3Key := makeNvm3ObjKey aKey 0 }).map fun search ↦ (search.err, search.nvm)
  else some (.rejected, nvm)

end OtEfr32.Settings
