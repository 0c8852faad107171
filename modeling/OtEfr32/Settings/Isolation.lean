import OtEfr32.Settings.Frame

/-!
# Isolation of settings keys

The domain constant of `makeNvm3ObjKey` is bit 9 of the shifted settings key, so that two settings
keys that differ in this bit only have the same object keys.  Isolation holds for all other pairs
of keys: a write to one of them is a write outside the slots of the other.
-/

namespace OtEfr32.Settings

open Transition

/-- A call of `otPlatSettingsSet`, `otPlatSettingsAdd` or `otPlatSettingsDelete` on a key. -/
def SettingsCall.On (aKey : UInt16) : SettingsCall → Prop
  | .set key _ _ | .add key _ _ | .delete key _ => key = aKey
  | .wipe _ => False

/-- On every store that the interface builds, and under any failures, a sequence of calls on `key`
leaves the reads of `other` as they were. -/
def Isolated (config : Config) (key other : UInt16) : Prop :=
  ∀ nvm, ReachableStore config nvm →
    ∀ calls nvm', (∀ call ∈ calls, SettingsCall.On key call) →
      exec (settingsStep config) nvm calls = some nvm' → SameReads config other nvm nvm'

variable {config : Config} {nvm nvm' : Nvm3} {aKey : UInt16}

theorem settingsStep_sameElsewhere {call : SettingsCall} (hon : SettingsCall.On aKey call)
    (hstep : settingsStep config nvm call = some nvm') : SameElsewhere aKey nvm nvm' := by
  cases call with
  | set key aValue aValueLength =>
    obtain rfl : key = aKey := hon
    obtain ⟨result, hset, rfl⟩ := Option.map_eq_some_iff.mp hstep
    exact otPlatSettingsSet_sameElsewhere hset
  | add key aValue aValueLength =>
    obtain rfl : key = aKey := hon
    cases hstep
    exact otPlatSettingsAdd_sameElsewhere aValue aValueLength
  | delete key aIndex =>
    obtain rfl : key = aKey := hon
    obtain ⟨result, hdelete, rfl⟩ := Option.map_eq_some_iff.mp hstep
    exact otPlatSettingsDelete_sameElsewhere hdelete
  | wipe rounds => exact False.elim hon

/-- A run on one key writes to the slots of this key only. -/
theorem exec_settingsStep_sameElsewhere {calls : List SettingsCall}
    (hon : ∀ call ∈ calls, SettingsCall.On aKey call)
    (hrun : exec (settingsStep config) nvm calls = some nvm') : SameElsewhere aKey nvm nvm' := by
  induction calls generalizing nvm with
  | nil =>
    cases hrun
    exact SameElsewhere.refl
  | cons call calls ih =>
    obtain ⟨next, hstep, hrest⟩ := (exec_cons_eq_some _).mp hrun
    obtain ⟨hcall, hcalls⟩ := List.forall_mem_cons.mp hon
    exact (settingsStep_sameElsewhere hcall hstep).trans (ih hcalls hrest)

theorem isolated_of_ne {key other : UInt16} (hne : key ||| 0x200 ≠ other ||| 0x200) :
    Isolated config key other := fun _ _ _ _ hon hrun ↦
  (exec_settingsStep_sameElsewhere hon hrun).sameReads hne

/-- A caller that may not use the platform changes nothing. -/
theorem isolated_of_noAccess (haccess : config.canAccessPal = false) (key other : UInt16) :
    Isolated config key other := by
  intro nvm _ calls nvm' _ _ failure aIndex aValue aValueLength
  simp [readSetting, otPlatSettingsGet, haccess]

/-- Keys that differ in the domain bit only have the same object keys. -/
theorem makeNvm3ObjKey_eq_of_or {key other : UInt16} (heq : key ||| 0x200 = other ||| 0x200)
    (slot : ℕ) : makeNvm3ObjKey key slot = makeNvm3ObjKey other slot := by
  have hbits : key.toNat ||| 0x200 = other.toNat ||| 0x200 := by
    have := congrArg UInt16.toNat heq
    rwa [UInt16.toNat_or, UInt16.toNat_or] at this
  rw [makeNvm3ObjKey_eq_bits, makeNvm3ObjKey_eq_bits, hbits]

/-- One byte at a pointer. -/
def oneByte : Nvm3Object := bytesOf (fun _ ↦ 7) 1

/-- The first value of a key in an empty store. -/
theorem otPlatSettingsAdd_emptyStore (haccess : config.canAccessPal = true) (aKey : UInt16) :
    otPlatSettingsAdd config (emptyStore fun _ ↦ none) aKey (some fun _ ↦ 7) 1 =
      (.none, { objects := Function.update (fun _ ↦ none) (makeNvm3ObjKey aKey 0) (some oneByte)
                calls := 2 }) := by
  rw [otPlatSettingsAdd, haccess, if_pos rfl, addSetting, List.range_succ_eq_map]
  rfl

theorem slotValues_emptyStore (config : Config) (failure : ℕ → Option ℕ) (aKey : UInt16) :
    slotValues config (emptyStore failure) aKey = [] := by
  simp [slotValues, slotKeys, Data.keysIn, Nvm3.occupied, emptyStore]

/-- A key with an object in its first slot has values. -/
theorem slotValues_ne_nil_of_object {object : Nvm3Object}
    (hobject : nvm.objects (makeNvm3ObjKey aKey 0) = some object) :
    slotValues config nvm aKey ≠ [] := by
  have hfirst : makeNvm3ObjKey aKey 0 ≤ makeNvm3ObjKey aKey config.numIndexedSettings := by
    rw [makeNvm3ObjKey_add aKey config.numIndexedSettings]
    exact Nat.le_add_right _ _
  rw [slotValues, slotKeys, Data.keysIn_step hfirst]
  simp [Nvm3.occupied, hobject]

/-- Keys that differ in the domain bit only are not isolated: a value added to one of them is read
back from the other. -/
theorem not_isolated_of_eq (haccess : config.canAccessPal = true) {key other : UInt16}
    (heq : key ||| 0x200 = other ||| 0x200) : ¬ Isolated config key other := by
  intro hisolated
  have hempty : ReachableStore config (emptyStore fun _ ↦ none) := ⟨_, [], rfl⟩
  have hon : ∀ call ∈ [SettingsCall.add key (some fun _ ↦ 7) 1], SettingsCall.On key call := by
    simp [SettingsCall.On]
  have hrun : exec (settingsStep config) (emptyStore fun _ ↦ none)
      [.add key (some fun _ ↦ 7) 1] = some
        { objects := Function.update (fun _ ↦ none) (makeNvm3ObjKey key 0) (some oneByte)
          calls := 2 } := by
    rw [exec_cons, settingsStep, otPlatSettingsAdd_emptyStore haccess]
    rfl
  have hvalues := (hisolated _ hempty _ _ hon hrun).slotValues_eq haccess
  rw [slotValues_emptyStore] at hvalues
  have hobject : Function.update (fun _ ↦ none) (makeNvm3ObjKey key 0) (some oneByte)
      (makeNvm3ObjKey other 0) = some oneByte := by
    rw [makeNvm3ObjKey_eq_of_or heq]
    exact Function.update_self _ _ _
  exact slotValues_ne_nil_of_object hobject hvalues

/-- Writes to a settings key are invisible to another one exactly when the two differ in more than
bit 9, or the caller may not use the platform. -/
theorem isolated_iff {key other : UInt16} :
    Isolated config key other ↔
      key ||| 0x200 ≠ other ||| 0x200 ∨ config.canAccessPal = false := by
  constructor
  · intro hisolated
    cases haccess : config.canAccessPal with
    | false => exact .inr rfl
    | true => exact .inl fun heq ↦ not_isolated_of_eq haccess heq hisolated
  · rintro (hne | haccess)
    · exact isolated_of_ne hne
    · exact isolated_of_noAccess haccess key other

/-- The first vendor key, and the one that has its objects. -/
theorem not_isolated_vendorKeys : ¬ Isolated { numIndexedSettings := 10 } 0x8000 0x8200 :=
  not_isolated_of_eq rfl (by decide)

end OtEfr32.Settings
