import OtEfr32.Settings.IndexedList

/-!
# The settings store refines indexed lists

`RefinesList` says of one key that a read and a removal through the settings interface are the
operations of `IndexedList` on the values of that key, and that the slots of all other keys keep
their objects.
-/

namespace OtEfr32.Settings

open Data

variable {config : Config} {nvm : Nvm3} {aKey : UInt16}

/-! ## The list behind the slots -/

/-- The bytes stored under a key, none if it is free. -/
def Nvm3.valueAt (nvm : Nvm3) (key : ℕ) : List UInt8 := (nvm.bytesAt key).getD []

/-- The values in the occupied slots of a key. -/
def slotValues (config : Config) (nvm : Nvm3) (aKey : UInt16) : List (List UInt8) :=
  (slotKeys config nvm aKey).map nvm.valueAt

theorem slotValues_length :
    (slotValues config nvm aKey).length = (slotKeys config nvm aKey).length := by
  rw [slotValues, List.length_map]

theorem settingsOf_eq_slotValues (hsettings : config.numIndexedSettings ≤ 0xFF) :
    settingsOf config nvm aKey = slotValues config nvm aKey := by
  rw [settingsOf_eq_slotKeys hsettings, slotValues, List.filterMap_eq_map_iff_forall_eq_some]
  intro key hmem
  have hoccupied := (mem_keysIn.mp hmem).2
  rw [← bytesAt_isSome] at hoccupied
  obtain ⟨bytes, hbytes⟩ := Option.isSome_iff_exists.mp hoccupied
  rw [Nvm3.valueAt, hbytes]
  rfl

theorem slotKeys_nodup : (slotKeys config nvm aKey).Nodup := keysIn_nodup

/-- The slots that remain occupied when some objects are removed and the others kept. -/
theorem slotKeys_of_removed {nvm' : Nvm3} {removed : ℕ → Bool}
    (hnone : ∀ key, removed key = true → nvm'.objects key = none)
    (hkept : ∀ key, removed key = false → nvm'.objects key = nvm.objects key) :
    slotKeys config nvm' aKey = (slotKeys config nvm aKey).filter fun key ↦ !removed key := by
  rw [slotKeys, slotKeys, keysIn, keysIn, List.filter_filter]
  refine List.filter_congr fun key _ ↦ ?_
  cases hremoved : removed key with
  | true => simp [Nvm3.occupied, hnone key hremoved]
  | false => simp [Nvm3.occupied, hkept key hremoved]

/-- The list of values after a removal. -/
theorem settingsOf_of_removed (hsettings : config.numIndexedSettings ≤ 0xFF)
    {nvm' : Nvm3} {removed : ℕ → Bool}
    (hnone : ∀ key, removed key = true → nvm'.objects key = none)
    (hkept : ∀ key, removed key = false → nvm'.objects key = nvm.objects key) :
    settingsOf config nvm' aKey =
      ((slotKeys config nvm aKey).filter fun key ↦ !removed key).map nvm.valueAt := by
  rw [settingsOf_eq_slotValues hsettings, slotValues, slotKeys_of_removed hnone hkept]
  refine List.map_congr_left fun key hmem ↦ ?_
  have hkeep : removed key = false := by simpa using (List.mem_filter.mp hmem).2
  rw [Nvm3.valueAt, Nvm3.bytesAt, hkept key hkeep]
  rfl

/-- The slot that holds a value of the list. -/
theorem exists_slot_of_lookup {aIndex : ℤ} {value : List UInt8}
    (hlookup : IndexedList.lookup (slotValues config nvm aKey) aIndex = some value) :
    ∃ front key back object, slotKeys config nvm aKey = front ++ key :: back ∧
      ((0 + front.length : ℕ) : ℤ) = aIndex ∧ nvm.objects key = some object ∧
        object.bytes = value := by
  unfold IndexedList.lookup at hlookup
  split at hlookup
  case isFalse => exact absurd hlookup (by simp)
  case isTrue hnonneg =>
    rw [slotValues, List.getElem?_map, Option.map_eq_some_iff] at hlookup
    obtain ⟨key, hget, hvalue⟩ := hlookup
    obtain ⟨hlt, hget⟩ := List.getElem?_eq_some_iff.mp hget
    have hmem : key ∈ slotKeys config nvm aKey := hget ▸ List.getElem_mem hlt
    obtain ⟨object, hobject⟩ := Option.isSome_iff_exists.mp (mem_keysIn.mp hmem).2
    refine ⟨(slotKeys config nvm aKey).take aIndex.toNat, key,
      (slotKeys config nvm aKey).drop (aIndex.toNat + 1), object, ?_, ?_, hobject, ?_⟩
    · rw [← hget, List.getElem_cons_drop, List.take_append_drop]
    · rw [List.length_take, Nat.min_eq_left (Nat.le_of_lt hlt)]
      omega
    · rw [← hvalue, Nvm3.valueAt, Nvm3.bytesAt, hobject]
      rfl

/-- An index outside the list is no position of an occupied slot. -/
theorem not_position_of_lookup {aIndex : ℤ}
    (hlookup : IndexedList.lookup (slotValues config nvm aKey) aIndex = none) :
    ∀ position < (slotKeys config nvm aKey).length, ((0 + position : ℕ) : ℤ) ≠ aIndex := by
  rintro position hposition rfl
  rw [IndexedList.lookup, if_pos (by omega), slotValues, List.getElem?_eq_none_iff,
    List.length_map] at hlookup
  omega

/-! ## The interface on lists -/

/-- The search of a settings function over the occupied slots of its key. -/
theorem searchIndex_slotKeys (config : Config) (nvm : Nvm3) (aKey : UInt16)
    {visit : Search → Search} (hframe : VisitFrame visit) (aValue : Option (List UInt8)) :
    ∃ final, searchIndex config aKey visit { nvm, nvm3Key := makeNvm3ObjKey aKey 0, aValue } =
        some final ∧
      final.outcome = (searchKeys visit (slotKeys config nvm aKey)
        { nvm, nvm3Key := makeNvm3ObjKey aKey 0, aValue }).outcome :=
  searchIndex_outcome hframe rfl slotKeys_length

/-- The settings functions on one key are the operations on the list of its values. -/
structure RefinesList (config : Config) (nvm : Nvm3) (aKey : UInt16) : Prop where
  get : ∀ aIndex aValue aValueLength, ∃ result,
    otPlatSettingsGet config nvm aKey aIndex aValue aValueLength = some result ∧
      (result.err, result.aValue, result.aValueLength) =
        IndexedList.get (settingsOf config nvm aKey) aIndex aValue aValueLength ∧
      result.nvm.objects = nvm.objects
  delete : ∀ aIndex, ∃ err nvm',
    otPlatSettingsDelete config nvm aKey aIndex = some (err, nvm') ∧
      (err, settingsOf config nvm' aKey) =
        IndexedList.delete (settingsOf config nvm aKey) aIndex ∧
      (err = .notFound → nvm'.objects = nvm.objects) ∧
      ∀ other : UInt16, other ≠ aKey → other.toNat ≤ 0xFF → ∀ slot ≤ 0xFF,
        nvm'.objects (makeNvm3ObjKey other slot) = nvm.objects (makeNvm3ObjKey other slot)

/-- Without failures, a read is a read of the list of values, whatever the key. -/
theorem otPlatSettingsGet_slotValues (haccess : config.canAccessPal = true)
    (hfaultless : nvm.Faultless) (aKey : UInt16) (aIndex : ℤ) (aValue : Option (List UInt8))
    (aValueLength : Option ℕ) :
    ∃ result, otPlatSettingsGet config nvm aKey aIndex aValue aValueLength = some result ∧
      (result.err, result.aValue, result.aValueLength) =
        IndexedList.get (slotValues config nvm aKey) aIndex aValue aValueLength ∧
      result.nvm.objects = nvm.objects := by
  obtain ⟨final, hfinal, houtcome⟩ := searchIndex_slotKeys config nvm aKey
    (getVisit_visitFrame aIndex aValueLength) aValue
  refine ⟨⟨final.err, final.aValue, aValueLength.map fun _ ↦ final.valueLength, final.nvm⟩,
    by rw [otPlatSettingsGet, haccess, if_pos rfl, hfinal]; rfl, ?_⟩
  have hskip : ∀ search : Search, (search.idx : ℤ) ≠ aIndex →
      getVisit aIndex aValueLength search = search := fun _ ↦ getVisit_skip
  simp only [Search.outcome, Prod.mk.injEq] at houtcome
  obtain ⟨hnvm, herr, hlength, hvalue⟩ := houtcome
  rw [hnvm, herr, hlength, hvalue, IndexedList.get]
  cases hlookup : IndexedList.lookup (slotValues config nvm aKey) aIndex with
  | none =>
    obtain ⟨key, hsearch⟩ := searchKeys_skip hskip (slotKeys config nvm aKey)
      { nvm, nvm3Key := makeNvm3ObjKey aKey 0, aValue } rfl (not_position_of_lookup hlookup)
    rw [hsearch]
    exact ⟨rfl, rfl⟩
  | some value =>
    obtain ⟨front, key, back, object, hsplit, hidx, hobject, rfl⟩ :=
      exists_slot_of_lookup hlookup
    obtain ⟨hstopped, herr, hlength, hvalue⟩ := getVisit_of_object
      { nvm, nvm3Key := key, idx := 0 + front.length, aValue } aValueLength hfaultless hidx hobject
    rw [hsplit, searchKeys_at hskip { nvm, nvm3Key := makeNvm3ObjKey aKey 0, aValue }
      rfl hidx hstopped, herr, hlength, hvalue, (getVisit_frame _ _ _).objects]
    exact ⟨rfl, rfl⟩

theorem otPlatSettingsGet_eq (haccess : config.canAccessPal = true)
    (hsettings : config.numIndexedSettings ≤ 0xFF) (hfaultless : nvm.Faultless) (aIndex : ℤ)
    (aValue : Option (List UInt8)) (aValueLength : Option ℕ) :
    ∃ result, otPlatSettingsGet config nvm aKey aIndex aValue aValueLength = some result ∧
      (result.err, result.aValue, result.aValueLength) =
        IndexedList.get (settingsOf config nvm aKey) aIndex aValue aValueLength ∧
      result.nvm.objects = nvm.objects := by
  rw [settingsOf_eq_slotValues hsettings]
  exact otPlatSettingsGet_slotValues haccess hfaultless aKey aIndex aValue aValueLength

/-- An object key of another settings key is not among the slots of this one. -/
theorem makeNvm3ObjKey_not_mem_slotKeys (hsettings : config.numIndexedSettings ≤ 0xFF)
    (hkey : aKey.toNat ≤ 0xFF) {other : UInt16} (hne : other ≠ aKey) (hother : other.toNat ≤ 0xFF)
    {slot : ℕ} (hslot : slot ≤ 0xFF) :
    makeNvm3ObjKey other slot ∉ slotKeys config nvm aKey := by
  intro hmem
  obtain ⟨hlower, hupper⟩ := (mem_keysIn.mp hmem).1
  rw [makeNvm3ObjKey_eq hkey (Nat.zero_le _), makeNvm3ObjKey_eq hother hslot] at hlower
  rw [makeNvm3ObjKey_eq hkey hsettings, makeNvm3ObjKey_eq hother hslot] at hupper
  exact hne (UInt16.toNat_inj.mp (by omega))

theorem otPlatSettingsDelete_index_eq (haccess : config.canAccessPal = true)
    (hsettings : config.numIndexedSettings ≤ 0xFF) (hfaultless : nvm.Faultless) {aIndex : ℤ}
    (hone : aIndex ≠ -1) :
    ∃ err nvm', otPlatSettingsDelete config nvm aKey aIndex = some (err, nvm') ∧
      (err, settingsOf config nvm' aKey) =
        IndexedList.delete (settingsOf config nvm aKey) aIndex ∧
      (err = .notFound → nvm'.objects = nvm.objects) ∧
      ∀ key ∉ slotKeys config nvm aKey, nvm'.objects key = nvm.objects key := by
  obtain ⟨final, hfinal, houtcome⟩ := searchIndex_slotKeys config nvm aKey
    (deleteVisit_visitFrame aIndex) none
  refine ⟨final.err, final.nvm, by rw [otPlatSettingsDelete, haccess, if_pos rfl, hfinal]; rfl, ?_⟩
  have hskip : ∀ search : Search, (search.idx : ℤ) ≠ aIndex →
      deleteVisit aIndex search = search := fun _ ↦ deleteVisit_skip hone
  simp only [Search.outcome, Prod.mk.injEq] at houtcome
  obtain ⟨hnvm, herr, -, -⟩ := houtcome
  have hbefore : settingsOf config nvm aKey = slotValues config nvm aKey :=
    settingsOf_eq_slotValues hsettings
  rw [hnvm, herr, IndexedList.delete, if_neg hone, hbefore]
  cases hlookup : IndexedList.lookup (slotValues config nvm aKey) aIndex with
  | none =>
    obtain ⟨key, hsearch⟩ := searchKeys_skip hskip (slotKeys config nvm aKey)
      { nvm, nvm3Key := makeNvm3ObjKey aKey 0 } rfl (not_position_of_lookup hlookup)
    rw [hsearch, ← hbefore]
    exact ⟨rfl, fun _ ↦ rfl, fun _ _ ↦ rfl⟩
  | some value =>
    obtain ⟨front, key, back, object, hsplit, hidx, hobject, -⟩ :=
      exists_slot_of_lookup hlookup
    obtain ⟨hstopped, herr, hobjects⟩ := deleteVisit_of_object
      { nvm, nvm3Key := key, idx := 0 + front.length }
      hfaultless hidx rfl hobject
    have hnodup : (slotKeys config nvm aKey).Nodup := slotKeys_nodup
    rw [hsplit, List.nodup_middle, List.nodup_cons, List.mem_append, not_or] at hnodup
    rw [hsplit, searchKeys_at hskip { nvm, nvm3Key := makeNvm3ObjKey aKey 0 }
      rfl hidx hstopped, herr]
    have hvalues : settingsOf config
        (deleteVisit aIndex { nvm, nvm3Key := key, idx := 0 + front.length }).nvm aKey =
          ((slotKeys config nvm aKey).filter fun other ↦ !decide (other = key)).map
            nvm.valueAt := settingsOf_of_removed hsettings
      (fun other hother ↦ by
        rw [hobjects, of_decide_eq_true hother]
        exact Function.update_self _ _ _)
      (fun other hother ↦ by
        rw [hobjects]
        exact Function.update_of_ne (of_decide_eq_false hother) _ _)
    have hfilter : (front ++ key :: back).filter (fun other ↦ !decide (other = key)) =
        front ++ back := by
      rw [List.filter_append, List.filter_cons_of_neg (by simp)]
      congr 1
      · exact List.filter_eq_self.mpr fun other hother ↦ by
          simpa using fun h : other = key ↦ hnodup.1.1 (h ▸ hother)
      · exact List.filter_eq_self.mpr fun other hother ↦ by
          simpa using fun h : other = key ↦ hnodup.1.2 (h ▸ hother)
    refine ⟨?_, nofun, fun other hother ↦ ?_⟩
    · rw [hvalues, slotValues, hsplit, hfilter]
      have hposition : aIndex.toNat = (front.map nvm.valueAt).length := by
        rw [List.length_map]
        omega
      simp only [List.map_append, List.map_cons, hposition]
      rw [List.eraseIdx_append_of_length_le (Nat.le_refl _), Nat.sub_self]
      rfl
    · rw [hobjects]
      refine Function.update_of_ne (fun h ↦ hother ?_) _ _
      rw [h]
      exact List.mem_append_right _ List.mem_cons_self

theorem otPlatSettingsDelete_all_eq (haccess : config.canAccessPal = true)
    (hsettings : config.numIndexedSettings ≤ 0xFF) (hfaultless : nvm.Faultless) :
    ∃ err nvm', otPlatSettingsDelete config nvm aKey (-1) = some (err, nvm') ∧
      (err, settingsOf config nvm' aKey) =
        IndexedList.delete (settingsOf config nvm aKey) (-1) ∧
      (err = .notFound → nvm'.objects = nvm.objects) ∧
      ∀ key ∉ slotKeys config nvm aKey, nvm'.objects key = nvm.objects key := by
  obtain ⟨final, hfinal, houtcome⟩ := searchIndex_slotKeys config nvm aKey
    (deleteVisit_visitFrame (-1)) none
  refine ⟨final.err, final.nvm, by rw [otPlatSettingsDelete, haccess, if_pos rfl, hfinal]; rfl, ?_⟩
  simp only [Search.outcome, Prod.mk.injEq] at houtcome
  obtain ⟨hnvm, herr, -, -⟩ := houtcome
  obtain ⟨hnone, hkept, hcode⟩ := searchKeys_deleteAll (slotKeys config nvm aKey)
    { nvm, nvm3Key := makeNvm3ObjKey aKey 0 } hfaultless rfl slotKeys_nodup
    fun key hmem ↦ (mem_keysIn.mp hmem).2
  rw [hnvm, herr, hcode, IndexedList.delete, if_pos rfl]
  have hvalues : settingsOf config (searchKeys (deleteVisit (-1)) (slotKeys config nvm aKey)
      { nvm, nvm3Key := makeNvm3ObjKey aKey 0 }).nvm aKey = ((slotKeys config nvm aKey).filter
      fun key ↦ !decide (key ∈ slotKeys config nvm aKey)).map nvm.valueAt :=
    settingsOf_of_removed hsettings
    (fun key h ↦ hnone key (of_decide_eq_true h)) (fun key h ↦ hkept key (of_decide_eq_false h))
  have hfilter : (slotKeys config nvm aKey).filter
      (fun key ↦ !decide (key ∈ slotKeys config nvm aKey)) = [] :=
    List.filter_eq_nil_iff.mpr fun key hmem ↦ by simp [hmem]
  have hempty : settingsOf config nvm aKey = [] ↔ slotKeys config nvm aKey = [] := by
    rw [settingsOf_eq_slotValues hsettings, slotValues, List.map_eq_nil_iff]
  refine ⟨?_, fun hnotfound ↦ ?_, hkept⟩
  · rw [hvalues, hfilter]
    simp only [hempty, List.map_nil]
  · have hnil : slotKeys config nvm aKey = [] := by
      by_contra hne
      rw [if_neg hne] at hnotfound
      exact absurd hnotfound (by decide)
    funext key
    exact hkept key (by rw [hnil]; exact List.not_mem_nil)

/-- With at most 256 slots for a key, the settings store refines indexed lists. -/
theorem settings_refine_lists (haccess : config.canAccessPal = true)
    (hsettings : config.numIndexedSettings ≤ 0xFF) (hfaultless : nvm.Faultless)
    (hkey : aKey.toNat ≤ 0xFF) : RefinesList config nvm aKey where
  get := otPlatSettingsGet_eq haccess hsettings hfaultless
  delete aIndex := by
    have hdelete : ∃ err nvm', otPlatSettingsDelete config nvm aKey aIndex = some (err, nvm') ∧
        (err, settingsOf config nvm' aKey) =
          IndexedList.delete (settingsOf config nvm aKey) aIndex ∧
        (err = .notFound → nvm'.objects = nvm.objects) ∧
        ∀ key ∉ slotKeys config nvm aKey, nvm'.objects key = nvm.objects key := by
      by_cases hone : aIndex = -1
      · subst hone
        exact otPlatSettingsDelete_all_eq haccess hsettings hfaultless
      · exact otPlatSettingsDelete_index_eq haccess hsettings hfaultless hone
    obtain ⟨err, nvm', hcall, hlist, hunchanged, hkept⟩ := hdelete
    refine ⟨err, nvm', hcall, hlist, hunchanged, fun other hne hother slot hslot ↦ hkept _ ?_⟩
    exact makeNvm3ObjKey_not_mem_slotKeys hsettings hkey hne hother hslot

/-- Six children stored in the slots 0, 1, 3, 4, 5 and 9 of a key, over two pages. -/
theorem settings_refine_lists_gaps :
    RefinesList { numIndexedSettings := 10 }
      { objects := fun key ↦
          if key ∈ [0x20500, 0x20501, 0x20503, 0x20504, 0x20505, 0x20509] then
            some ⟨[UInt8.ofNat key, 7], by simp⟩
          else none }
      5 :=
  settings_refine_lists rfl (by decide) (fun _ ↦ rfl) (by decide)

end OtEfr32.Settings
