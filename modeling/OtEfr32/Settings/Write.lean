import OtEfr32.Settings.Flash
import OtEfr32.Transition.Runs
import Mathlib.Algebra.Group.Nat.Defs

/-!
# Writing settings

`addSetting` writes a value to the first free slot of a key.  `otPlatSettingsAdd` is this function,
`otPlatSettingsSet` runs it behind a removal of all values of the key, and `otPlatSettingsWipe`
removes the objects of a fixed range of object keys.  As with the functions that read and remove,
every nvm3 call may fail.
-/

namespace OtEfr32.Settings

open Transition

/-! ## Local functions -/

/-- `nvm3_writeData`: it writes the whole object, or nothing if it fails. -/
def Nvm3.writeData (nvm : Nvm3) (key : ℕ) (object : Nvm3Object) : Ecode × Nvm3 :=
  match nvm.failure nvm.calls with
  | some code => (.err code, nvm.called)
  | none => (.ok, { nvm.called with objects := Function.update nvm.objects key (some object) })

/-- The `aValueLength` bytes at a pointer. -/
def bytesOf (aValue : ℕ → UInt8) (aValueLength : UInt16) : Nvm3Object where
  bytes := (List.range aValueLength.toNat).map aValue
  length_lt := by
    rw [List.length_map, List.length_range]
    exact aValueLength.toNat_lt

/-- The `for` loop of `addSetting` over the slots that are left, with `err` in `state`. -/
def addLoop (aKey : UInt16) (object : Nvm3Object) : List ℕ → OtError × Nvm3 → OtError × Nvm3
  | [], state => state
  | idx :: slots, (_, nvm) =>
    let nvm3Key := makeNvm3ObjKey aKey idx
    let (code, _, nvm) := nvm.getObjectInfo nvm3Key
    let err := mapNvm3Error code
    if err = .notFound then
      let (code, nvm) := nvm.writeData nvm3Key object
      (mapNvm3Error code, nvm)
    else if err ≠ .none then (err, nvm)
    else addLoop aKey object slots (err, nvm)

/-- `addSetting`.  `aValue` is the memory at the caller's pointer, which may be null; `err` has no
value before the loop, which makes at least one round. -/
def addSetting (config : Config) (nvm : Nvm3) (aKey : UInt16) (aValue : Option (ℕ → UInt8))
    (aValueLength : UInt16) : OtError × Nvm3 :=
  match aValue with
  | none => (.invalidArgs, nvm)
  | some value =>
    if aValueLength = 0 then (.invalidArgs, nvm)
    else addLoop aKey (bytesOf value aValueLength) (List.range (config.numIndexedSettings + 1))
      (.none, nvm)

/-! ## The settings interface -/

/-- `otPlatSettingsSet`; it is `none` where the removal does not return. -/
def otPlatSettingsSet (config : Config) (nvm : Nvm3) (aKey : UInt16)
    (aValue : Option (ℕ → UInt8)) (aValueLength : UInt16) : Option (OtError × Nvm3) :=
  if config.canAccessPal then
    (otPlatSettingsDelete config nvm aKey (-1)).map fun (err, nvm) ↦
      if err = .none ∨ err = .notFound then addSetting config nvm aKey aValue aValueLength
      else (err, nvm)
  else some (.rejected, nvm)

/-- `otPlatSettingsAdd`. -/
def otPlatSettingsAdd (config : Config) (nvm : Nvm3) (aKey : UInt16)
    (aValue : Option (ℕ → UInt8)) (aValueLength : UInt16) : OtError × Nvm3 :=
  if config.canAccessPal then addSetting config nvm aKey aValue aValueLength
  else (.rejected, nvm)

/-- `firstNvm3Key` of `otPlatSettingsWipe`. -/
def firstNvm3Key : ℕ := makeNvm3ObjKey 1 0

/-- `LastNvm3Key` of `otPlatSettingsWipe`. -/
def lastNvm3Key : ℕ := makeNvm3ObjKey 0xFF 0xFF

/-- `nvm3_enumObjects` in `otPlatSettingsWipe`. -/
def wipeKeys (nvm : Nvm3) : List ℕ :=
  nvm.enumObjects enumNvm3KeyListSize firstNvm3Key lastNvm3Key

/-- The `for` loop of `otPlatSettingsWipe`; the results of `nvm3_deleteObject` are not read. -/
def wipeRound (nvm : Nvm3) : Nvm3 :=
  (wipeKeys nvm).foldl (fun nvm key ↦ (nvm.deleteObject key).2) nvm

/-- `otPlatSettingsWipe`, if its `while` loop ends within `rounds` rounds. -/
def otPlatSettingsWipe (config : Config) (rounds : ℕ) (nvm : Nvm3) : Option Nvm3 :=
  if config.canAccessPal then
    whileLoop (fun nvm ↦ !(wipeKeys nvm).isEmpty) wipeRound (rounds + 1) nvm
  else some nvm

/-! ## Runs of the interface -/

/-- A call of a function that changes the store; a wipe with the rounds that it makes. -/
inductive SettingsCall where
  | set (aKey : UInt16) (aValue : Option (ℕ → UInt8)) (aValueLength : UInt16)
  | add (aKey : UInt16) (aValue : Option (ℕ → UInt8)) (aValueLength : UInt16)
  | delete (aKey : UInt16) (aIndex : ℤ)
  | wipe (rounds : ℕ)

/-- The store behind a call. -/
def settingsStep (config : Config) (nvm : Nvm3) : SettingsCall → Option Nvm3
  | .set aKey aValue aValueLength =>
    (otPlatSettingsSet config nvm aKey aValue aValueLength).map Prod.snd
  | .add aKey aValue aValueLength =>
    some (otPlatSettingsAdd config nvm aKey aValue aValueLength).2
  | .delete aKey aIndex => (otPlatSettingsDelete config nvm aKey aIndex).map Prod.snd
  | .wipe rounds => otPlatSettingsWipe config rounds nvm

/-- A store without objects, and the failures to come. -/
def emptyStore (failure : ℕ → Option ℕ) : Nvm3 where
  objects _ := none
  failure

/-- A store that the interface has built, under any failures. -/
def ReachableStore (config : Config) (nvm : Nvm3) : Prop :=
  ∃ failure calls, exec (settingsStep config) (emptyStore failure) calls = some nvm

end OtEfr32.Settings
