import OtEfr32.Settings.Refinement
import OtEfr32.Settings.Write

/-!
# What the settings functions leave alone

A read depends on the objects in the slots of its key and on the failures it meets, and the
functions that write change the slots of their key only, whichever of their calls fail.  Two stores
are the same to the readers of a key (`SameReads`) if no read of the key can tell them apart.
-/

namespace OtEfr32.Settings

open Data Transition

variable {config : Config} {nvm nvm' : Nvm3} {aKey : UInt16}

/-! ## Reads -/

/-- The store with the failures that the next calls meet. -/
def Nvm3.withFailures (nvm : Nvm3) (failure : ℕ → Option ℕ) : Nvm3 where
  objects := nvm.objects
  failure

/-- What a caller of `otPlatSettingsGet` sees: the error code, its buffer and the length. -/
def readSetting (config : Config) (nvm : Nvm3) (aKey : UInt16) (aIndex : ℤ)
    (aValue : Option (List UInt8)) (aValueLength : Option ℕ) :
    Option (OtError × Option (List UInt8) × Option ℕ) :=
  (otPlatSettingsGet config nvm aKey aIndex aValue aValueLength).map fun result ↦
    (result.err, result.aValue, result.aValueLength)

/-- Every read of a key gives the same on both stores, if it meets the same failures. -/
def SameReads (config : Config) (aKey : UInt16) (nvm nvm' : Nvm3) : Prop :=
  ∀ failure aIndex aValue aValueLength,
    readSetting config (nvm'.withFailures failure) aKey aIndex aValue aValueLength =
      readSetting config (nvm.withFailures failure) aKey aIndex aValue aValueLength

/-- One pass of a read over the occupied slots. -/
def readPass (config : Config) (nvm : Nvm3) (aKey : UInt16) (aIndex : ℤ)
    (aValue : Option (List UInt8)) (aValueLength : Option ℕ) : Search :=
  searchKeys (getVisit aIndex aValueLength) (slotKeys config nvm aKey)
    { nvm, nvm3Key := makeNvm3ObjKey aKey 0, aValue }

theorem readSetting_eq_readPass (haccess : config.canAccessPal = true) (nvm : Nvm3)
    (aKey : UInt16) (aIndex : ℤ) (aValue : Option (List UInt8)) (aValueLength : Option ℕ) :
    readSetting config nvm aKey aIndex aValue aValueLength =
      some ((readPass config nvm aKey aIndex aValue aValueLength).err,
        (readPass config nvm aKey aIndex aValue aValueLength).aValue,
        aValueLength.map fun _ ↦
          (readPass config nvm aKey aIndex aValue aValueLength).valueLength) := by
  obtain ⟨final, hfinal, houtcome⟩ := searchIndex_slotKeys config nvm aKey
    (getVisit_visitFrame aIndex aValueLength) aValue
  simp only [Search.outcome, Prod.mk.injEq] at houtcome
  obtain ⟨-, herr, hlength, hvalue⟩ := houtcome
  rw [readPass, readSetting, otPlatSettingsGet, haccess, if_pos rfl, hfinal, ← herr, ← hlength,
    ← hvalue]
  rfl

/-- Without failures, a reader sees the list of values. -/
theorem readSetting_of_faultless (haccess : config.canAccessPal = true) (aIndex : ℤ)
    (aValue : Option (List UInt8)) (aValueLength : Option ℕ) :
    readSetting config (nvm.withFailures fun _ ↦ none) aKey aIndex aValue aValueLength =
      some (IndexedList.get (slotValues config nvm aKey) aIndex aValue aValueLength) := by
  have hfaultless : (nvm.withFailures fun _ ↦ none).Faultless := fun _ ↦ rfl
  obtain ⟨result, hget, heq, -⟩ :=
    otPlatSettingsGet_slotValues haccess hfaultless aKey aIndex aValue aValueLength
  rw [readSetting, hget, Option.map_some, heq]
  rfl

/-- Readers can tell apart any two lists of values. -/
theorem SameReads.slotValues_eq (haccess : config.canAccessPal = true)
    (hsame : SameReads config aKey nvm nvm') :
    slotValues config nvm' aKey = slotValues config nvm aKey := by
  apply IndexedList.eq_of_get
  intro aIndex aValue aValueLength
  have hread := hsame (fun _ ↦ none) aIndex aValue aValueLength
  rw [readSetting_of_faultless haccess, readSetting_of_faultless haccess] at hread
  exact Option.some.inj hread

/-- The search with other objects in the store. -/
def Search.withObjects (search : Search) (objects : ℕ → Option Nvm3Object) : Search :=
  { search with nvm := { search.nvm with objects } }

/-- A read looks at the object it visits only. -/
theorem getVisit_withObjects (aIndex : ℤ) (aValueLength : Option ℕ) (search : Search)
    {objects : ℕ → Option Nvm3Object}
    (hsame : objects search.nvm3Key = search.nvm.objects search.nvm3Key) :
    getVisit aIndex aValueLength (search.withObjects objects) =
      (getVisit aIndex aValueLength search).withObjects objects := by
  have hinfo : (search.withObjects objects).nvm.getObjectInfo search.nvm3Key =
      ((search.nvm.getObjectInfo search.nvm3Key).1,
        (search.nvm.getObjectInfo search.nvm3Key).2.1,
        { search.nvm.called with objects }) := by
    unfold Nvm3.getObjectInfo Search.withObjects
    simp only [hsame]
    split <;> rfl
  have hread : ∀ maxLen, Nvm3.readData { search.nvm.called.called with objects }
      search.nvm3Key maxLen =
        ((search.nvm.called.called.readData search.nvm3Key maxLen).1,
          (search.nvm.called.called.readData search.nvm3Key maxLen).2.1,
          { search.nvm.called.called.called with objects }) := by
    intro maxLen
    unfold Nvm3.readData Nvm3.called
    simp only [hsame]
    split
    · rfl
    · rfl
    · split <;> rfl
  by_cases hidx : (search.idx : ℤ) = aIndex
  case neg =>
    have hother : ((search.withObjects objects).idx : ℤ) ≠ aIndex := hidx
    rw [getVisit_skip hidx, getVisit_skip hother]
  case pos =>
    have hnvm : (search.nvm.getObjectInfo search.nvm3Key).2.2 = search.nvm.called :=
      Nvm3.getObjectInfo_nvm _ _
    have hkey : (search.withObjects objects).nvm3Key = search.nvm3Key := rfl
    have hindex : ((search.withObjects objects).idx : ℤ) = aIndex := hidx
    simp only [getVisit, if_pos hidx, if_pos hindex, hkey, hinfo, hnvm]
    split
    case isFalse => rfl
    case isTrue =>
      unfold readObject
      cases hvalue : search.aValue with
      | none => simp [Search.withObjects, hvalue]
      | some buffer =>
        cases aValueLength with
        | none => simp [Search.withObjects, hvalue]
        | some length =>
          have halloc : Nvm3.memoryAlloc { search.nvm.called with objects } =
              (search.nvm.called.memoryAlloc.1, { search.nvm.called.called with objects }) := rfl
          have hcalled : search.nvm.called.memoryAlloc.2 = search.nvm.called.called := rfl
          have hbuffer : (search.withObjects objects).aValue = some buffer := hvalue
          simp only [halloc, hcalled, hbuffer, hread, Nvm3.readData_nvm]
          split
          · split <;> rfl
          · rfl

theorem searchKeys_getVisit_withObjects (aIndex : ℤ) (aValueLength : Option ℕ) (keys : List ℕ)
    (search : Search) {objects : ℕ → Option Nvm3Object}
    (hsame : ∀ key ∈ keys, objects key = search.nvm.objects key) :
    searchKeys (getVisit aIndex aValueLength) keys (search.withObjects objects) =
      (searchKeys (getVisit aIndex aValueLength) keys search).withObjects objects := by
  induction keys generalizing search with
  | nil => rfl
  | cons head keys ih =>
    have hvisit : getVisit aIndex aValueLength ((search.withObjects objects).moveTo head) =
        (getVisit aIndex aValueLength (search.moveTo head)).withObjects objects :=
      getVisit_withObjects aIndex aValueLength (search.moveTo head)
        (hsame head List.mem_cons_self)
    have hobjects : (getVisit aIndex aValueLength (search.moveTo head)).nvm.objects =
        search.nvm.objects := (getVisit_frame aIndex aValueLength (search.moveTo head)).objects
    cases hstopped : (getVisit aIndex aValueLength (search.moveTo head)).stopped with
    | true =>
      rw [searchKeys_cons_stopped hstopped,
        searchKeys_cons_stopped (by rw [hvisit]; exact hstopped), hvisit]
    | false =>
      rw [searchKeys_cons_running hstopped,
        searchKeys_cons_running (by rw [hvisit]; exact hstopped), hvisit]
      apply ih (getVisit aIndex aValueLength (search.moveTo head)).count
      intro key hkey
      rw [hsame key (List.mem_cons_of_mem _ hkey)]
      exact (congrFun hobjects key).symm

/-- The object keys that the searches for a settings key go through. -/
def KeyRange (config : Config) (aKey : UInt16) (key : ℕ) : Prop :=
  makeNvm3ObjKey aKey 0 ≤ key ∧ key ≤ makeNvm3ObjKey aKey config.numIndexedSettings

/-- Reads of a key give the same on stores with the same objects in its slots. -/
theorem sameReads_of_objects
    (hsame : ∀ key, KeyRange config aKey key → nvm'.objects key = nvm.objects key) :
    SameReads config aKey nvm nvm' := by
  intro failure aIndex aValue aValueLength
  cases haccess : config.canAccessPal with
  | false => simp [readSetting, otPlatSettingsGet, haccess]
  | true =>
    have hslots : slotKeys config (nvm'.withFailures failure) aKey =
        slotKeys config (nvm.withFailures failure) aKey := by
      apply keysIn_congr
      intro key hlower hupper
      exact congrArg Option.isSome (hsame key ⟨hlower, hupper⟩)
    have hpass : readPass config (nvm'.withFailures failure) aKey aIndex aValue aValueLength =
        (readPass config (nvm.withFailures failure) aKey aIndex aValue aValueLength).withObjects
          nvm'.objects := by
      rw [readPass, hslots]
      apply searchKeys_getVisit_withObjects aIndex aValueLength _
        { nvm := nvm.withFailures failure, nvm3Key := makeNvm3ObjKey aKey 0, aValue }
      intro key hkey
      exact hsame key (mem_keysIn.mp hkey).1
    rw [readSetting_eq_readPass haccess, readSetting_eq_readPass haccess, hpass]
    rfl

theorem sameReads_of_objects_eq (hsame : nvm'.objects = nvm.objects) :
    SameReads config aKey nvm nvm' := sameReads_of_objects fun key _ ↦ congrFun hsame key

/-! ## Writes -/

/-- One pass of a removal over the occupied slots. -/
def deletePass (config : Config) (nvm : Nvm3) (aKey : UInt16) (aIndex : ℤ) : Search :=
  searchKeys (deleteVisit aIndex) (slotKeys config nvm aKey)
    { nvm, nvm3Key := makeNvm3ObjKey aKey 0 }

theorem otPlatSettingsDelete_eq_deletePass (haccess : config.canAccessPal = true) (nvm : Nvm3)
    (aKey : UInt16) (aIndex : ℤ) :
    otPlatSettingsDelete config nvm aKey aIndex =
      some ((deletePass config nvm aKey aIndex).err, (deletePass config nvm aKey aIndex).nvm) := by
  obtain ⟨final, hfinal, houtcome⟩ := searchIndex_slotKeys config nvm aKey
    (deleteVisit_visitFrame aIndex) none
  simp only [Search.outcome, Prod.mk.injEq] at houtcome
  rw [deletePass, otPlatSettingsDelete, haccess, if_pos rfl, hfinal, ← houtcome.1, ← houtcome.2.1]
  rfl

theorem searchKeys_deleteVisit_objects (aIndex : ℤ) (keys : List ℕ) (search : Search) {key : ℕ}
    (hkey : key ∉ keys) :
    (searchKeys (deleteVisit aIndex) keys search).nvm.objects key = search.nvm.objects key := by
  induction keys generalizing search with
  | nil => rfl
  | cons head keys ih =>
    rw [List.mem_cons, not_or] at hkey
    have hhead := (deleteVisit_frame aIndex (search.moveTo head)).objects key hkey.1
    cases hstopped : (deleteVisit aIndex (search.moveTo head)).stopped with
    | true =>
      rw [searchKeys_cons_stopped hstopped]
      exact hhead
    | false =>
      rw [searchKeys_cons_running hstopped, ih _ hkey.2]
      exact hhead

/-- The store `nvm'` has the objects of `nvm`, those of one settings key excepted. -/
def SameElsewhere (aKey : UInt16) (nvm nvm' : Nvm3) : Prop :=
  ∀ key, (∀ slot, key ≠ makeNvm3ObjKey aKey slot) → nvm'.objects key = nvm.objects key

theorem SameElsewhere.refl : SameElsewhere aKey nvm nvm := fun _ _ ↦ rfl

theorem SameElsewhere.trans {nvm'' : Nvm3} (hfirst : SameElsewhere aKey nvm nvm')
    (hsecond : SameElsewhere aKey nvm' nvm'') : SameElsewhere aKey nvm nvm'' := by
  intro key hkey
  rw [hsecond key hkey, hfirst key hkey]

/-- An occupied slot of a settings key is one of its object keys. -/
theorem exists_slot_of_mem_slotKeys {key : ℕ} (hmem : key ∈ slotKeys config nvm aKey) :
    ∃ slot ≤ config.numIndexedSettings % 2 ^ 8, key = makeNvm3ObjKey aKey slot := by
  rw [slotKeys_eq_map, List.mem_map] at hmem
  obtain ⟨slot, hslot, rfl⟩ := hmem
  have hle := Nat.le_of_lt_succ (List.mem_range.mp (List.mem_filter.mp hslot).1)
  refine ⟨slot, hle, (makeNvm3ObjKey_of_le aKey ?_).symm⟩
  have := Nat.mod_lt config.numIndexedSettings (show 0 < 2 ^ 8 by decide)
  omega

theorem otPlatSettingsDelete_sameElsewhere {aIndex : ℤ} {err : OtError}
    (hdelete : otPlatSettingsDelete config nvm aKey aIndex = some (err, nvm')) :
    SameElsewhere aKey nvm nvm' := by
  intro key hkey
  cases haccess : config.canAccessPal with
  | false =>
    rw [otPlatSettingsDelete, haccess, if_neg Bool.false_ne_true] at hdelete
    cases hdelete
    rfl
  | true =>
    rw [otPlatSettingsDelete_eq_deletePass haccess] at hdelete
    cases hdelete
    apply searchKeys_deleteVisit_objects
    intro hmem
    obtain ⟨slot, -, hslot⟩ := exists_slot_of_mem_slotKeys hmem
    exact hkey slot hslot

theorem Nvm3.writeData_objects (nvm : Nvm3) (object : Nvm3Object) {key other : ℕ}
    (hother : other ≠ key) : (nvm.writeData key object).2.objects other = nvm.objects other := by
  unfold Nvm3.writeData
  split
  · rfl
  · exact Function.update_of_ne hother _ _

theorem addLoop_sameElsewhere (object : Nvm3Object) (slots : List ℕ) (state : OtError × Nvm3) :
    SameElsewhere aKey state.2 (addLoop aKey object slots state).2 := by
  induction slots generalizing state with
  | nil => exact SameElsewhere.refl
  | cons idx slots ih =>
    simp only [addLoop, Nvm3.getObjectInfo_nvm]
    split
    case isTrue =>
      intro key hkey
      exact state.2.called.writeData_objects object (hkey idx)
    case isFalse =>
      split
      case isTrue => exact SameElsewhere.refl
      case isFalse => exact ih _

theorem addSetting_sameElsewhere (aValue : Option (ℕ → UInt8)) (aValueLength : UInt16) :
    SameElsewhere aKey nvm (addSetting config nvm aKey aValue aValueLength).2 := by
  cases aValue with
  | none => exact SameElsewhere.refl
  | some value =>
    simp only [addSetting]
    split
    · exact SameElsewhere.refl
    · exact addLoop_sameElsewhere _ _ _

theorem otPlatSettingsAdd_sameElsewhere (aValue : Option (ℕ → UInt8)) (aValueLength : UInt16) :
    SameElsewhere aKey nvm (otPlatSettingsAdd config nvm aKey aValue aValueLength).2 := by
  unfold otPlatSettingsAdd
  split
  · exact addSetting_sameElsewhere aValue aValueLength
  · exact SameElsewhere.refl

theorem otPlatSettingsSet_sameElsewhere {aValue : Option (ℕ → UInt8)} {aValueLength : UInt16}
    {err : OtError}
    (hset : otPlatSettingsSet config nvm aKey aValue aValueLength = some (err, nvm')) :
    SameElsewhere aKey nvm nvm' := by
  unfold otPlatSettingsSet at hset
  split at hset
  case isFalse =>
    cases hset
    exact SameElsewhere.refl
  case isTrue =>
    obtain ⟨⟨code, deleted⟩, hdelete, hadd⟩ := Option.map_eq_some_iff.mp hset
    have hremoved := otPlatSettingsDelete_sameElsewhere hdelete
    simp only at hadd
    split at hadd
    · have hnvm : (addSetting config deleted aKey aValue aValueLength).2 = nvm' :=
        congrArg Prod.snd hadd
      rw [← hnvm]
      exact hremoved.trans (addSetting_sameElsewhere aValue aValueLength)
    · cases hadd
      exact hremoved

/-! ## Other keys -/

/-- Settings keys that differ in more than the domain bit have no object key in common. -/
theorem makeNvm3ObjKey_ne {aKey other : UInt16} (hne : aKey ||| 0x200 ≠ other ||| 0x200)
    (slot slot' : ℕ) : makeNvm3ObjKey aKey slot ≠ makeNvm3ObjKey other slot' := by
  rw [makeNvm3ObjKey_eq_bits, makeNvm3ObjKey_eq_bits]
  intro heq
  apply hne
  apply UInt16.toNat_inj.mp
  rw [UInt16.toNat_or, UInt16.toNat_or]
  change aKey.toNat ||| 0x200 = other.toNat ||| 0x200
  omega

/-- With such a key, no other key sees a write. -/
theorem SameElsewhere.sameReads {other : UInt16} (hsame : SameElsewhere aKey nvm nvm')
    (hne : aKey ||| 0x200 ≠ other ||| 0x200) : SameReads config other nvm nvm' := by
  apply sameReads_of_objects
  intro key hkey
  apply hsame
  intro slot heq
  -- A key of the range of `other` is one of its object keys.
  have hrange := hkey
  rw [KeyRange, makeNvm3ObjKey_add other config.numIndexedSettings] at hrange
  have hmod := Nat.mod_lt config.numIndexedSettings (show 0 < 2 ^ 8 by decide)
  have hslot : makeNvm3ObjKey other (key - makeNvm3ObjKey other 0) = key := by
    rw [makeNvm3ObjKey_of_le other (by omega)]
    omega
  exact makeNvm3ObjKey_ne hne slot _ (heq.symm.trans hslot.symm)

end OtEfr32.Settings
