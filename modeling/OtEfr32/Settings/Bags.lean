import Mathlib.Data.Multiset.AddSub
import OtEfr32.Settings.FreeSlot
import OtEfr32.Settings.Isolation
import OtEfr32.Settings.Wipe
import OtEfr32.Transition.Relation

/-!
# The settings store refines bags

What a settings key holds is a bag of values: `otPlatSettingsAdd` fills the first gap, so the order
of the values says nothing.  `BagCall` is the interface on bags, for all settings keys at once.  In
every run without failures each call on the store is such a call on its bags, with the same error
code, and what can be read of a key is its bag.
-/

namespace OtEfr32.Settings

open Data Transition

variable {config : Config} {nvm nvm' : Nvm3} {aKey : UInt16} {bags : UInt16 → Multiset (List UInt8)}

/-! ## The interface on bags -/

/-- The settings key with the domain bit set: keys that differ in this bit only share their
objects. -/
def baseKey (aKey : UInt16) : UInt16 := aKey ||| 0x200

/-- A call on the bags of the settings keys, with its error code.  Each bag has room for `capacity`
values; the caller of a removal does not know which value has the index. -/
inductive BagCall (capacity : ℕ) (bags : UInt16 → Multiset (List UInt8)) :
    SettingsCall × OtError → (UInt16 → Multiset (List UInt8)) → Prop where
  /-- The old values are removed before the arguments are looked at. -/
  | setInvalid (aKey : UInt16) {aValue : Option (ℕ → UInt8)} {aValueLength : UInt16}
      (hinvalid : aValue = none ∨ aValueLength = 0) :
      BagCall capacity bags (.set aKey aValue aValueLength, .invalidArgs)
        (Function.update bags (baseKey aKey) 0)
  | set (aKey : UInt16) (value : ℕ → UInt8) {aValueLength : UInt16}
      (hlength : aValueLength ≠ 0) :
      BagCall capacity bags (.set aKey (some value) aValueLength, .none)
        (Function.update bags (baseKey aKey) {(bytesOf value aValueLength).bytes})
  | addInvalid (aKey : UInt16) {aValue : Option (ℕ → UInt8)} {aValueLength : UInt16}
      (hinvalid : aValue = none ∨ aValueLength = 0) :
      BagCall capacity bags (.add aKey aValue aValueLength, .invalidArgs) bags
  | add (aKey : UInt16) (value : ℕ → UInt8) {aValueLength : UInt16}
      (hlength : aValueLength ≠ 0) (hroom : (bags (baseKey aKey)).card < capacity) :
      BagCall capacity bags (.add aKey (some value) aValueLength, .none)
        (Function.update bags (baseKey aKey)
          ((bytesOf value aValueLength).bytes ::ₘ bags (baseKey aKey)))
  /-- A value for which there is no room is lost without an error. -/
  | addFull (aKey : UInt16) (value : ℕ → UInt8) {aValueLength : UInt16}
      (hlength : aValueLength ≠ 0) (hfull : (bags (baseKey aKey)).card = capacity) :
      BagCall capacity bags (.add aKey (some value) aValueLength, .none) bags
  | deleteAll (aKey : UInt16) :
      BagCall capacity bags
        (.delete aKey (-1), if bags (baseKey aKey) = 0 then .notFound else .none)
        (Function.update bags (baseKey aKey) 0)
  | delete (aKey : UInt16) {aIndex : ℤ} {value : List UInt8} (hlower : 0 ≤ aIndex)
      (hupper : aIndex < (bags (baseKey aKey)).card) (hvalue : value ∈ bags (baseKey aKey)) :
      BagCall capacity bags (.delete aKey aIndex, .none)
        (Function.update bags (baseKey aKey) ((bags (baseKey aKey)).erase value))
  | deleteMissing (aKey : UInt16) {aIndex : ℤ} (hone : aIndex ≠ -1)
      (hindex : aIndex < 0 ∨ (bags (baseKey aKey)).card ≤ aIndex) :
      BagCall capacity bags (.delete aKey aIndex, .notFound) bags
  /-- The bags of the keys in the range of `otPlatSettingsWipe` are emptied. -/
  | wipe (rounds : ℕ) :
      BagCall capacity bags (.wipe rounds, .none)
        fun key ↦ if WipedKey key then 0 else bags key

/-- What a call answers, with the store behind it; `otPlatSettingsWipe` has no result. -/
def answer (config : Config) (nvm : Nvm3) : SettingsCall → Option (OtError × Nvm3)
  | .set aKey aValue aValueLength => otPlatSettingsSet config nvm aKey aValue aValueLength
  | .add aKey aValue aValueLength => some (otPlatSettingsAdd config nvm aKey aValue aValueLength)
  | .delete aKey aIndex => otPlatSettingsDelete config nvm aKey aIndex
  | .wipe rounds => (otPlatSettingsWipe config rounds nvm).map fun nvm ↦ (.none, nvm)

/-- A step with a call and its answer. -/
def answeredStep (config : Config) (nvm : Nvm3) (label : SettingsCall × OtError) : Option Nvm3 :=
  (answer config nvm label.1).bind fun (err, nvm) ↦ if err = label.2 then some nvm else none

/-- What the answer says does not change what the call does. -/
theorem map_answer (config : Config) (nvm : Nvm3) (call : SettingsCall) :
    (answer config nvm call).map Prod.snd = settingsStep config nvm call := by
  cases call with
  | wipe rounds =>
    rw [answer, Option.map_map, settingsStep]
    exact Option.map_id_apply
  | _ => rfl

/-- The call with `rounds` rounds for a wipe. -/
def SettingsCall.within (rounds : ℕ) : SettingsCall → SettingsCall
  | .wipe _ => .wipe rounds
  | call => call

/-- The store has no failures to come, and holds for each key the values of its bag. -/
structure Represents (config : Config) (nvm : Nvm3) (bags : UInt16 → Multiset (List UInt8)) :
    Prop where
  faultless : nvm.Faultless
  values : ∀ aKey, ↑(slotValues config nvm aKey) = bags (baseKey aKey)

/-! ## Failures to come -/

theorem deleteVisit_failure (aIndex : ℤ) (search : Search) :
    (deleteVisit aIndex search).nvm.failure = search.nvm.failure := by
  have hdelete : ∀ (nvm : Nvm3) key, (nvm.deleteObject key).2.failure = nvm.failure := by
    intro nvm key
    unfold Nvm3.deleteObject
    split <;> rfl
  have hobject : (deleteObject search).nvm.failure = search.nvm.failure := by
    unfold deleteObject
    simp only [Nvm3.getObjectInfo_nvm]
    split
    · split <;> exact hdelete _ _
    · rfl
  unfold deleteVisit
  split
  · simp only
    split <;> exact hobject
  · rfl

theorem searchKeys_deleteVisit_failure (aIndex : ℤ) (keys : List ℕ) (search : Search) :
    (searchKeys (deleteVisit aIndex) keys search).nvm.failure = search.nvm.failure := by
  induction keys generalizing search with
  | nil => rfl
  | cons key keys ih =>
    have hhead := deleteVisit_failure aIndex (search.moveTo key)
    cases hstopped : (deleteVisit aIndex (search.moveTo key)).stopped with
    | true =>
      rw [searchKeys_cons_stopped hstopped]
      exact hhead
    | false =>
      rw [searchKeys_cons_running hstopped, ih]
      exact hhead

theorem addLoop_failure (object : Nvm3Object) (slots : List ℕ) (state : OtError × Nvm3) :
    (addLoop aKey object slots state).2.failure = state.2.failure := by
  induction slots generalizing state with
  | nil => rfl
  | cons idx slots ih =>
    simp only [addLoop, Nvm3.getObjectInfo_nvm]
    split
    · unfold Nvm3.writeData
      split <;> rfl
    split
    · rfl
    · exact ih _

theorem addSetting_faultless (hfaultless : nvm.Faultless) (aValue : Option (ℕ → UInt8))
    (aValueLength : UInt16) :
    (addSetting config nvm aKey aValue aValueLength).2.Faultless := by
  intro call
  cases aValue with
  | none => exact hfaultless call
  | some value =>
    simp only [addSetting]
    split
    · exact hfaultless call
    · rw [addLoop_failure]
      exact hfaultless call

theorem otPlatSettingsDelete_faultless (haccess : config.canAccessPal = true)
    (hfaultless : nvm.Faultless) {aIndex : ℤ} {err : OtError}
    (hdelete : otPlatSettingsDelete config nvm aKey aIndex = some (err, nvm')) :
    nvm'.Faultless := by
  rw [otPlatSettingsDelete_eq_deletePass haccess] at hdelete
  cases hdelete
  intro call
  rw [deletePass, searchKeys_deleteVisit_failure]
  exact hfaultless call

/-! ## Calls on one key -/

theorem wipedKey_baseKey (aKey : UInt16) : WipedKey (baseKey aKey) ↔ WipedKey aKey := by
  have hbits : (baseKey aKey).toNat = aKey.toNat ||| 0x200 := UInt16.toNat_or aKey 0x200
  rw [WipedKey, WipedKey, hbits, Nat.or_assoc, Nat.or_self]

/-- The values of a key outside of the range after a wipe. -/
theorem WipedBy.slotValues_eq {count : ℕ} (h : WipedBy count nvm nvm') (hkey : ¬ WipedKey aKey) :
    slotValues config nvm' aKey = slotValues config nvm aKey := by
  rw [slotValues, slotValues, h.slotKeys_eq hkey]
  apply List.map_congr_left
  intro key hmem
  obtain ⟨slot, -, rfl⟩ := exists_slot_of_mem_slotKeys hmem
  have hobject := h.outside _ ((inWipeRange_iff aKey slot).not.mpr hkey)
  rw [Nvm3.valueAt, Nvm3.bytesAt, hobject]
  rfl

theorem slotValues_of_baseKey {other : UInt16} (heq : baseKey aKey = baseKey other) :
    slotValues config nvm aKey = slotValues config nvm other := by
  rw [slotValues, slotKeys, makeNvm3ObjKey_eq_of_or heq, makeNvm3ObjKey_eq_of_or heq]
  rfl

namespace Represents

/-- A call that changes no object. -/
theorem of_objects (h : Represents config nvm bags) (haccess : config.canAccessPal = true)
    (hfaultless : nvm'.Faultless) (hobjects : nvm'.objects = nvm.objects) :
    Represents config nvm' bags where
  faultless := hfaultless
  values aKey := by
    rw [SameReads.slotValues_eq haccess (sameReads_of_objects_eq hobjects)]
    exact h.values aKey

/-- A call that changes the values of one key. -/
theorem update (h : Represents config nvm bags) (haccess : config.canAccessPal = true)
    (hfaultless : nvm'.Faultless) (hother : SameElsewhere aKey nvm nvm')
    {bag : Multiset (List UInt8)} (hbag : ↑(slotValues config nvm' aKey) = bag) :
    Represents config nvm' (Function.update bags (baseKey aKey) bag) where
  faultless := hfaultless
  values key := by
    by_cases hkey : baseKey key = baseKey aKey
    · rw [hkey, Function.update_self, slotValues_of_baseKey hkey]
      exact hbag
    · have hne : aKey ||| 0x200 ≠ key ||| 0x200 := fun heq ↦ hkey heq.symm
      rw [Function.update_of_ne hkey, (hother.sameReads hne).slotValues_eq haccess]
      exact h.values key

theorem card_eq (h : Represents config nvm bags) (aKey : UInt16) :
    (bags (baseKey aKey)).card = (slotKeys config nvm aKey).length := by
  rw [← h.values aKey, Multiset.coe_card, slotValues_length]

end Represents

/-- Every slot is occupied exactly if there are as many values as slots. -/
theorem slotKeys_length_eq_iff (hsettings : config.numIndexedSettings ≤ 0xFF) :
    (slotKeys config nvm aKey).length = config.numIndexedSettings + 1 ↔
      ∀ slot < config.numIndexedSettings + 1, nvm.slotOccupied aKey slot = true := by
  have hmod : config.numIndexedSettings % 2 ^ 8 = config.numIndexedSettings :=
    Nat.mod_eq_of_lt (Nat.lt_succ_of_le hsettings)
  rw [slotKeys_eq_map, hmod, List.length_map]
  nth_rewrite 2 [← List.length_range (n := config.numIndexedSettings + 1)]
  rw [List.length_filter_eq_length_iff]
  refine forall_congr' fun slot ↦ ?_
  rw [List.mem_range]
  refine forall_congr' fun hslot ↦ ?_
  rw [Nvm3.slotOccupied, makeNvm3ObjKey_of_le aKey (show slot ≤ 0xFF by omega)]

/-- What a valid value becomes without failures: it joins the values of its key, or there is no room
for it and nothing changes. -/
theorem addSetting_values (haccess : config.canAccessPal = true)
    (hsettings : config.numIndexedSettings ≤ 0xFF) (hfaultless : nvm.Faultless)
    (value : ℕ → UInt8) {aValueLength : UInt16} (hlength : aValueLength ≠ 0) :
    (addSetting config nvm aKey (some value) aValueLength).1 = .none ∧
      ((slotKeys config nvm aKey).length < config.numIndexedSettings + 1 ∧
        (slotValues config (addSetting config nvm aKey (some value) aValueLength).2 aKey).Perm
          ((bytesOf value aValueLength).bytes :: slotValues config nvm aKey) ∨
      (slotKeys config nvm aKey).length = config.numIndexedSettings + 1 ∧
        (addSetting config nvm aKey (some value) aValueLength).2.objects = nvm.objects) := by
  have houtcome := addSetting_outcome config nvm aKey value hlength
  generalize hadded : addSetting config nvm aKey (some value) aValueLength = added at houtcome ⊢
  obtain ⟨err, after⟩ := added
  generalize hobjects : after.objects = objects at houtcome
  have hslots : (slotKeys config nvm aKey).length = config.numIndexedSettings + 1 ↔
      ∀ slot < config.numIndexedSettings + 1, nvm.slotOccupied aKey slot = true :=
    slotKeys_length_eq_iff hsettings
  simp only at houtcome ⊢
  cases houtcome with
  | full hoccupied _ =>
    simp only [Nat.zero_add] at hoccupied
    exact ⟨rfl, .inr ⟨hslots.mpr hoccupied, rfl⟩⟩
  | failed slot call hslot hoccupied hcall hlast => exact absurd (hfaultless _) hcall
  | added slot hslot hoccupied hfree hcalls =>
    rw [Nat.zero_add] at hfree hobjects
    obtain ⟨value', before, values, hvalue, hbefore, hvalues, hperm⟩ :=
      gained_of_write haccess hsettings hslot hfree value aValueLength hobjects
    obtain rfl := (enumerates_iff haccess).mp hbefore
    obtain rfl := (enumerates_iff haccess).mp hvalues
    obtain rfl := Option.some.inj hvalue
    refine ⟨rfl, .inl ⟨lt_of_le_of_ne slotKeys_length fun hlast ↦ ?_, hperm⟩⟩
    exact Bool.false_ne_true (hfree.symm.trans (hslots.mp hlast slot hslot))

/-- What a removal answers and leaves, as values of its key. -/
theorem otPlatSettingsDelete_values (haccess : config.canAccessPal = true)
    (hsettings : config.numIndexedSettings ≤ 0xFF) (hfaultless : nvm.Faultless) {aIndex : ℤ}
    {err : OtError} (hdelete : otPlatSettingsDelete config nvm aKey aIndex = some (err, nvm')) :
    (err, slotValues config nvm' aKey) =
        IndexedList.delete (slotValues config nvm aKey) aIndex ∧
      (err = .notFound → nvm'.objects = nvm.objects) := by
  have heq : ∃ err nvm', otPlatSettingsDelete config nvm aKey aIndex = some (err, nvm') ∧
      (err, settingsOf config nvm' aKey) =
        IndexedList.delete (settingsOf config nvm aKey) aIndex ∧
      (err = .notFound → nvm'.objects = nvm.objects) ∧
      ∀ key ∉ slotKeys config nvm aKey, nvm'.objects key = nvm.objects key := by
    by_cases hone : aIndex = -1
    · subst hone
      exact otPlatSettingsDelete_all_eq haccess hsettings hfaultless
    · exact otPlatSettingsDelete_index_eq haccess hsettings hfaultless hone
  obtain ⟨err', after, hcall, hvalues, hsame, -⟩ := heq
  rw [hdelete] at hcall
  obtain ⟨rfl, rfl⟩ := Prod.mk.inj (Option.some.inj hcall)
  rw [settingsOf_eq_slotValues hsettings, settingsOf_eq_slotValues hsettings] at hvalues
  exact ⟨hvalues, hsame⟩

/-! ## The refinement -/

namespace Represents

variable (h : Represents config nvm bags) (haccess : config.canAccessPal = true)
  (hsettings : config.numIndexedSettings ≤ 0xFF)

include h haccess hsettings

theorem addSetting (aKey : UInt16) (value : ℕ → UInt8) {aValueLength : UInt16}
    (hlength : aValueLength ≠ 0) :
    ((bags (baseKey aKey)).card < config.numIndexedSettings + 1 ∧
      Represents config (addSetting config nvm aKey (some value) aValueLength).2
        (Function.update bags (baseKey aKey)
          ((bytesOf value aValueLength).bytes ::ₘ bags (baseKey aKey)))) ∨
    ((bags (baseKey aKey)).card = config.numIndexedSettings + 1 ∧
      Represents config (Settings.addSetting config nvm aKey (some value) aValueLength).2
        bags) := by
  have hafter : (Settings.addSetting config nvm aKey (some value) aValueLength).2.Faultless :=
    addSetting_faultless h.faultless (some value) aValueLength
  obtain ⟨-, hcases⟩ := addSetting_values haccess hsettings h.faultless value hlength
  rw [h.card_eq aKey]
  rcases hcases with ⟨hroom, hperm⟩ | ⟨hfull, hobjects⟩
  · refine .inl ⟨hroom, h.update haccess hafter (addSetting_sameElsewhere _ _) ?_⟩
    rw [← h.values aKey, Multiset.cons_coe]
    exact Multiset.coe_eq_coe.mpr hperm
  · exact .inr ⟨hfull, h.of_objects haccess hafter hobjects⟩

theorem delete (aKey : UInt16) {aIndex : ℤ} {err : OtError}
    (hdelete : otPlatSettingsDelete config nvm aKey aIndex = some (err, nvm')) :
    ∃ after, BagCall (config.numIndexedSettings + 1) bags (.delete aKey aIndex, err) after ∧
      Represents config nvm' after := by
  have hafter := otPlatSettingsDelete_faultless haccess h.faultless hdelete
  have hother := otPlatSettingsDelete_sameElsewhere hdelete
  obtain ⟨hvalues, hsame⟩ := otPlatSettingsDelete_values haccess hsettings h.faultless hdelete
  have hcard : (bags (baseKey aKey)).card = (slotValues config nvm aKey).length := by
    rw [← h.values aKey, Multiset.coe_card]
  by_cases hone : aIndex = -1
  · subst hone
    rw [IndexedList.delete, if_pos rfl] at hvalues
    obtain ⟨rfl, hnil⟩ := Prod.mk.inj hvalues
    have hempty : slotValues config nvm aKey = [] ↔ bags (baseKey aKey) = 0 := by
      rw [← h.values aKey, Multiset.coe_eq_zero]
    simp only [hempty]
    exact ⟨_, .deleteAll aKey, h.update haccess hafter hother (by rw [hnil]; rfl)⟩
  · rw [IndexedList.delete, if_neg hone] at hvalues
    cases hlookup : IndexedList.lookup (slotValues config nvm aKey) aIndex with
    | none =>
      rw [hlookup] at hvalues
      obtain ⟨rfl, -⟩ := Prod.mk.inj hvalues
      refine ⟨bags, .deleteMissing aKey hone ?_, h.of_objects haccess hafter (hsame rfl)⟩
      unfold IndexedList.lookup at hlookup
      split at hlookup
      · rw [List.getElem?_eq_none_iff] at hlookup
        rw [hcard]
        omega
      · omega
    | some value =>
      rw [hlookup] at hvalues
      obtain ⟨rfl, herased⟩ := Prod.mk.inj hvalues
      unfold IndexedList.lookup at hlookup
      split at hlookup
      case isFalse => cases hlookup
      case isTrue hlower =>
        obtain ⟨hlt, hvalue⟩ := List.getElem?_eq_some_iff.mp hlookup
        have hmem : value ∈ bags (baseKey aKey) := by
          rw [← h.values aKey, ← hvalue]
          exact Multiset.mem_coe.mpr (List.getElem_mem hlt)
        have hbag : ↑(slotValues config nvm' aKey) = (bags (baseKey aKey)).erase value := by
          have hperm := List.getElem_cons_eraseIdx_perm hlt
          rw [herased, ← h.values aKey, ← Multiset.coe_eq_coe.mpr hperm, ← Multiset.cons_coe,
            hvalue, Multiset.erase_cons_head]
        have hupper : aIndex < (bags (baseKey aKey)).card := by omega
        exact ⟨_, .delete aKey hlower hupper hmem, h.update haccess hafter hother hbag⟩

theorem emptied (aKey : UInt16) {err : OtError}
    (hdelete : otPlatSettingsDelete config nvm aKey (-1) = some (err, nvm')) :
    (err = .none ∨ err = .notFound) ∧
      Represents config nvm' (Function.update bags (baseKey aKey) 0) := by
  obtain ⟨after, hcall, hafter⟩ := h.delete haccess hsettings aKey hdelete
  cases hcall with
  | deleteAll =>
    refine ⟨?_, hafter⟩
    split
    · exact .inr rfl
    · exact .inl rfl
  | delete _ hlower _ _ => omega
  | deleteMissing _ hone _ => exact absurd rfl hone

theorem set (aKey : UInt16) {aValue : Option (ℕ → UInt8)} {aValueLength : UInt16} {err : OtError}
    (hset : otPlatSettingsSet config nvm aKey aValue aValueLength = some (err, nvm')) :
    ∃ after, BagCall (config.numIndexedSettings + 1) bags (.set aKey aValue aValueLength, err)
        after ∧ Represents config nvm' after := by
  rw [otPlatSettingsSet, haccess, if_pos rfl] at hset
  obtain ⟨⟨code, deleted⟩, hdelete, hadd⟩ := Option.map_eq_some_iff.mp hset
  obtain ⟨hcode, hemptied⟩ := h.emptied haccess hsettings aKey hdelete
  simp only [if_pos hcode] at hadd
  by_cases hinvalid : aValue = none ∨ aValueLength = 0
  · rw [addSetting_invalidArgs hinvalid] at hadd
    obtain ⟨rfl, rfl⟩ := Prod.mk.inj hadd
    exact ⟨_, .setInvalid aKey hinvalid, hemptied⟩
  · obtain ⟨hvalue, hlength⟩ := not_or.mp hinvalid
    obtain ⟨value, rfl⟩ := Option.ne_none_iff_exists'.mp hvalue
    have herr : (Settings.addSetting config deleted aKey (some value) aValueLength).1 = .none :=
      (addSetting_values haccess hsettings hemptied.faultless value hlength).1
    rw [hadd] at herr
    subst herr
    have hadded := hemptied.addSetting haccess hsettings aKey value hlength
    rw [hadd, Function.update_self, Function.update_idem] at hadded
    -- There is room in the bag that the removal has emptied.
    rcases hadded with ⟨-, hafter⟩ | ⟨hfull, -⟩
    · exact ⟨_, .set aKey value hlength, hafter⟩
    · rw [Multiset.card_zero] at hfull
      omega

theorem add (aKey : UInt16) (aValue : Option (ℕ → UInt8)) (aValueLength : UInt16) :
    ∃ after, BagCall (config.numIndexedSettings + 1) bags (.add aKey aValue aValueLength,
          (otPlatSettingsAdd config nvm aKey aValue aValueLength).1) after ∧
        Represents config (otPlatSettingsAdd config nvm aKey aValue aValueLength).2 after := by
  rw [otPlatSettingsAdd, haccess, if_pos rfl]
  by_cases hinvalid : aValue = none ∨ aValueLength = 0
  · rw [addSetting_invalidArgs hinvalid]
    exact ⟨bags, .addInvalid aKey hinvalid, h⟩
  · obtain ⟨hvalue, hlength⟩ := not_or.mp hinvalid
    obtain ⟨value, rfl⟩ := Option.ne_none_iff_exists'.mp hvalue
    rw [(addSetting_values haccess hsettings h.faultless value hlength).1]
    rcases h.addSetting haccess hsettings aKey value hlength with ⟨hroom, hafter⟩ | ⟨hfull, hafter⟩
    · exact ⟨_, .add aKey value hlength hroom, hafter⟩
    · exact ⟨bags, .addFull aKey value hlength hfull, hafter⟩

omit hsettings in
theorem wipe {rounds : ℕ} (hwipe : otPlatSettingsWipe config rounds nvm = some nvm') :
    Represents config nvm' fun key ↦ if WipedKey key then 0 else bags key := by
  obtain ⟨hempty, count, hwiped⟩ := otPlatSettingsWipe_wipedBy haccess hwipe
  constructor
  case faultless =>
    intro call
    rw [hwiped.failure]
    exact h.faultless call
  case values =>
    intro aKey
    by_cases hkey : WipedKey aKey
    · have hnil : slotValues config nvm' aKey = [] := by
        rw [slotValues, slotKeys_of_rangeKeys hempty hkey, List.map_nil]
      rw [if_pos ((wipedKey_baseKey aKey).mpr hkey), hnil]
      rfl
    · rw [if_neg ((wipedKey_baseKey aKey).not.mpr hkey), ← h.values aKey,
        hwiped.slotValues_eq hkey]

/-- Every call on the store is one on its bags. -/
theorem step {label : SettingsCall × OtError} (hstep : answeredStep config nvm label = some nvm') :
    ∃ after, BagCall (config.numIndexedSettings + 1) bags label after ∧
      Represents config nvm' after := by
  obtain ⟨call, err⟩ := label
  obtain ⟨⟨err', behind⟩, hanswer, hlabel⟩ := Option.bind_eq_some_iff.mp hstep
  obtain ⟨rfl, hnvm⟩ := Option.ite_none_right_eq_some.mp hlabel
  obtain rfl := Option.some.inj hnvm
  cases call with
  | set aKey aValue aValueLength => exact h.set haccess hsettings aKey hanswer
  | add aKey aValue aValueLength =>
    have hadded := h.add haccess hsettings aKey aValue aValueLength
    rwa [Option.some.inj hanswer] at hadded
  | delete aKey aIndex => exact h.delete haccess hsettings aKey hanswer
  | wipe rounds =>
    obtain ⟨nvm'', hwipe, hpair⟩ := Option.map_eq_some_iff.mp hanswer
    obtain ⟨rfl, rfl⟩ := Prod.mk.inj hpair
    exact ⟨_, .wipe rounds, h.wipe haccess hwipe⟩

end Represents

/-- Every call returns, a wipe behind enough rounds. -/
theorem exists_answer (haccess : config.canAccessPal = true) (hfaultless : nvm.Faultless)
    (call : SettingsCall) :
    ∃ rounds err nvm', answer config nvm (call.within rounds) = some (err, nvm') := by
  have hdelete : ∀ aKey aIndex,
      ∃ err nvm', otPlatSettingsDelete config nvm aKey aIndex = some (err, nvm') :=
    fun aKey aIndex ↦ ⟨_, _, otPlatSettingsDelete_eq_deletePass haccess nvm aKey aIndex⟩
  cases call with
  | set aKey aValue aValueLength =>
    obtain ⟨err, deleted, hremoved⟩ := hdelete aKey (-1)
    have hset : (otPlatSettingsSet config nvm aKey aValue aValueLength).isSome = true := by
      rw [otPlatSettingsSet, haccess, if_pos rfl, hremoved]
      rfl
    obtain ⟨⟨err, nvm'⟩, hanswer⟩ := Option.isSome_iff_exists.mp hset
    exact ⟨0, err, nvm', hanswer⟩
  | add aKey aValue aValueLength => exact ⟨0, _, _, rfl⟩
  | delete aKey aIndex => exact ⟨0, hdelete aKey aIndex⟩
  | wipe _ =>
    have henough : (rangeKeys nvm).length ≤
        successes nvm.failure nvm.calls (rangeKeys nvm).length :=
      (successes_eq_count fun n _ ↦ hfaultless (nvm.calls + n)).ge
    obtain ⟨rounds, nvm', hloop⟩ := exists_whileLoop_of_successes _ henough
    have hwipe : otPlatSettingsWipe config rounds nvm = some nvm' := by
      rw [otPlatSettingsWipe, haccess, if_pos rfl]
      exact hloop
    exact ⟨rounds, .none, nvm', by rw [SettingsCall.within, answer, hwipe, Option.map_some]⟩

theorem represents_emptyStore (config : Config) :
    Represents config (emptyStore fun _ ↦ none) fun _ ↦ 0 where
  faultless _ := rfl
  values aKey := by
    rw [slotValues_emptyStore]
    rfl

/-- One byte of a key, one more, the removal of the first, and one of a value that is not there. -/
def bagCalls : List (SettingsCall × OtError) :=
  [(.add 3 (some fun _ ↦ 7) 1, .none), (.add 3 (some fun _ ↦ 8) 1, .none), (.delete 3 0, .none),
    (.delete 3 1, .notFound)]

end OtEfr32.Settings
