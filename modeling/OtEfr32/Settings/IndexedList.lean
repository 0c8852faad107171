import OtEfr32.Settings.Search

/-!
# Settings as indexed lists

Read through the settings interface, the objects of a key are a list: its values in ascending slot
order, gaps left out.  `IndexedList.get` and `IndexedList.delete` are the operations of the
interface on such lists, and the functions of `flash.c` compute them whenever nvm3 and the
allocator do not fail.
-/

namespace OtEfr32.Settings

open Data

/-! ## Lists of values -/

namespace IndexedList

/-- The value with an index; there is none for a negative one. -/
def lookup (values : List (List UInt8)) (aIndex : ℤ) : Option (List UInt8) :=
  if 0 ≤ aIndex then values[aIndex.toNat]? else none

/-- The error code, the caller's buffer and the reported length after a read.  The value is cut to
the length of the buffer, and reported in full. -/
def get (values : List (List UInt8)) (aIndex : ℤ) (aValue : Option (List UInt8))
    (aValueLength : Option ℕ) : OtError × Option (List UInt8) × Option ℕ :=
  match lookup values aIndex with
  | none => (.notFound, aValue, aValueLength.map fun _ ↦ 0)
  | some value =>
    (.none,
      aValue.map fun buffer ↦ (aValueLength.map fun length ↦
        memcpy buffer (value.take length)).getD buffer,
      aValueLength.map fun _ ↦ value.length)

/-- The error code and the list after a removal; the index `-1` removes everything. -/
def delete (values : List (List UInt8)) (aIndex : ℤ) : OtError × List (List UInt8) :=
  if aIndex = -1 then (if values = [] then .notFound else .none, [])
  else
    match lookup values aIndex with
    | none => (.notFound, values)
    | some _ => (.none, values.eraseIdx aIndex.toNat)

theorem lookup_natCast (values : List (List UInt8)) (index : ℕ) :
    lookup values index = values[index]? := by
  rw [lookup, if_pos (Int.natCast_nonneg index), Int.toNat_natCast]

/-- Reads determine the list. -/
theorem eq_of_get {values values' : List (List UInt8)}
    (hget : ∀ aIndex aValue aValueLength,
      get values' aIndex aValue aValueLength = get values aIndex aValue aValueLength) :
    values' = values := by
  apply List.ext_getElem?
  intro index
  rw [← lookup_natCast values', ← lookup_natCast values]
  have hread := hget index
  unfold get at hread
  cases hlookup : lookup values index with
  | none =>
    cases hlookup' : lookup values' index with
    | none => rfl
    | some value' => simp [hlookup, hlookup'] at hread
  | some value =>
    cases hlookup' : lookup values' index with
    | none => simp [hlookup, hlookup'] at hread
    | some value' =>
      have hvalue := hread (some []) (some (value.length + value'.length))
      simp only [hlookup, hlookup', Option.map_some, Option.getD_some, memcpy, List.drop_nil,
        List.append_nil, Prod.mk.injEq, Option.some.injEq] at hvalue
      rw [List.take_of_length_le (Nat.le_add_left _ _),
        List.take_of_length_le (Nat.le_add_right _ _)] at hvalue
      rw [hvalue.2.1]

end IndexedList

/-- The bytes of an object. -/
def Nvm3.bytesAt (nvm : Nvm3) (key : ℕ) : Option (List UInt8) :=
  (nvm.objects key).map Nvm3Object.bytes

/-- The values of a key in ascending slot order. -/
def settingsOf (config : Config) (nvm : Nvm3) (aKey : UInt16) : List (List UInt8) :=
  (List.range (config.numIndexedSettings + 1)).filterMap fun slot ↦
    nvm.bytesAt (makeNvm3ObjKey aKey slot)

/-- No call fails. -/
def Nvm3.Faultless (nvm : Nvm3) : Prop := ∀ call, nvm.failure call = none

/-! ## Slots and object keys -/

variable {config : Config} {nvm : Nvm3} {aKey : UInt16}

/-- The domain bit is bit 9 of the settings key, and the slot number takes the low byte. -/
theorem makeNvm3ObjKey_eq_bits (aKey : UInt16) (slot : ℕ) :
    makeNvm3ObjKey aKey slot = (aKey.toNat ||| 0x200) * 2 ^ 8 + slot % 2 ^ 8 := by
  have hmask : slot &&& 0xFF = slot % 2 ^ 8 := Nat.and_two_pow_sub_one_eq_mod slot 8
  have hdomain : nvm3KeyDomainOpenThread ||| aKey.toNat <<< 8 = (aKey.toNat ||| 0x200) <<< 8 := by
    rw [Nat.shiftLeft_or_distrib, Nat.or_comm]
    rfl
  rw [makeNvm3ObjKey, hmask, hdomain, Nat.shiftLeft_eq, Nat.mul_comm,
    Nat.two_pow_add_eq_or_of_lt (Nat.mod_lt _ (by decide))]

/-- The object keys of a settings key start at a multiple of 256. -/
theorem makeNvm3ObjKey_add (aKey : UInt16) (slot : ℕ) :
    makeNvm3ObjKey aKey slot = makeNvm3ObjKey aKey 0 + slot % 2 ^ 8 := by
  rw [makeNvm3ObjKey_eq_bits, makeNvm3ObjKey_eq_bits, Nat.zero_mod, Nat.add_zero]

theorem makeNvm3ObjKey_of_le (aKey : UInt16) {slot : ℕ} (hslot : slot ≤ 0xFF) :
    makeNvm3ObjKey aKey slot = makeNvm3ObjKey aKey 0 + slot := by
  have hmod : slot % 2 ^ 8 = slot := Nat.mod_eq_of_lt (Nat.lt_succ_of_le hslot)
  rw [makeNvm3ObjKey_add, hmod]

/-- A settings key of one byte shares no bits with the domain. -/
theorem makeNvm3ObjKey_eq (hkey : aKey.toNat ≤ 0xFF) {slot : ℕ} (hslot : slot ≤ 0xFF) :
    makeNvm3ObjKey aKey slot = 0x20000 + aKey.toNat * 2 ^ 8 + slot := by
  have hdomain : aKey.toNat ||| 0x200 = 2 ^ 9 * 1 + aKey.toNat := by
    rw [Nat.two_pow_add_eq_or_of_lt (by omega), Nat.or_comm]
  rw [makeNvm3ObjKey_eq_bits, hdomain]
  omega

/-- The occupied slots of a key, as object keys. -/
def slotKeys (config : Config) (nvm : Nvm3) (aKey : UInt16) : List ℕ :=
  keysIn nvm.occupied (makeNvm3ObjKey aKey 0) (makeNvm3ObjKey aKey config.numIndexedSettings)

theorem slotKeys_eq_map :
    slotKeys config nvm aKey =
      ((List.range (config.numIndexedSettings % 2 ^ 8 + 1)).filter fun slot ↦
        nvm.occupied (makeNvm3ObjKey aKey 0 + slot)).map (makeNvm3ObjKey aKey 0 + ·) := by
  rw [slotKeys, makeNvm3ObjKey_add aKey config.numIndexedSettings, keysIn_eq_map]

theorem slotKeys_length :
    (slotKeys config nvm aKey).length ≤ config.numIndexedSettings + 1 := by
  have hmod : config.numIndexedSettings % 2 ^ 8 ≤ config.numIndexedSettings := Nat.mod_le _ _
  rw [slotKeys_eq_map, List.length_map]
  apply (List.length_filter_le _ _).trans
  rw [List.length_range]
  omega

theorem bytesAt_isSome (key : ℕ) : (nvm.bytesAt key).isSome = nvm.occupied key := by
  simp [Nvm3.bytesAt, Nvm3.occupied]

/-- The list of values is read off the occupied slots. -/
theorem settingsOf_eq_slotKeys (hsettings : config.numIndexedSettings ≤ 0xFF) :
    settingsOf config nvm aKey = (slotKeys config nvm aKey).filterMap nvm.bytesAt := by
  have hmod : config.numIndexedSettings % 2 ^ 8 = config.numIndexedSettings :=
    Nat.mod_eq_of_lt (Nat.lt_succ_of_le hsettings)
  rw [slotKeys_eq_map, hmod, List.filterMap_map, List.filterMap_filter]
  refine List.filterMap_congr fun slot hslot ↦ ?_
  rw [List.mem_range] at hslot
  rw [makeNvm3ObjKey_of_le aKey (by omega)]
  simp only [Function.comp_apply]
  cases hbytes : nvm.occupied (makeNvm3ObjKey aKey 0 + slot) with
  | true => rfl
  | false =>
    rw [← bytesAt_isSome, Option.isSome_eq_false_iff, Option.isNone_iff_eq_none] at hbytes
    simpa using hbytes

/-! ## Reading -/

@[simp]
theorem Nvm3.getObjectInfo_nvm (nvm : Nvm3) (key : ℕ) :
    (nvm.getObjectInfo key).2.2 = nvm.called := by
  unfold Nvm3.getObjectInfo
  split <;> rfl

@[simp]
theorem Nvm3.readData_nvm (nvm : Nvm3) (key maxLen : ℕ) :
    (nvm.readData key maxLen).2.2 = nvm.called := by
  unfold Nvm3.readData
  split
  · rfl
  · rfl
  · split <;> rfl

/-- A read changes no object and no loop variable, whether its calls fail or not. -/
structure ReadFrame (search read : Search) : Prop where
  nvm3Key : read.nvm3Key = search.nvm3Key
  idx : read.idx = search.idx
  objects : read.nvm.objects = search.nvm.objects

theorem readObject_frame (aValueLength : Option ℕ) (search : Search) :
    ReadFrame search (readObject aValueLength search) := by
  unfold readObject
  split
  · simp only [Nvm3.readData_nvm]
    split
    · split <;> exact ⟨rfl, rfl, rfl⟩
    · exact ⟨rfl, rfl, rfl⟩
  · exact ⟨rfl, rfl, rfl⟩

theorem getVisit_frame (aIndex : ℤ) (aValueLength : Option ℕ) (search : Search) :
    ReadFrame search (getVisit aIndex aValueLength search) := by
  unfold getVisit
  simp only [Nvm3.getObjectInfo_nvm]
  split
  · split
    · obtain ⟨hkey, hidx, hobjects⟩ := readObject_frame aValueLength
        { search with
          nvm := search.nvm.called
          err := mapNvm3Error (search.nvm.getObjectInfo search.nvm3Key).1
          valueLength := (search.nvm.getObjectInfo search.nvm3Key).2.1 % 2 ^ 16 }
      exact ⟨hkey, hidx, hobjects⟩
    · exact ⟨rfl, rfl, rfl⟩
  · exact ⟨rfl, rfl, rfl⟩

theorem getVisit_skip {aIndex : ℤ} {aValueLength : Option ℕ} {search : Search}
    (h : (search.idx : ℤ) ≠ aIndex) : getVisit aIndex aValueLength search = search := if_neg h

theorem getVisit_visitFrame (aIndex : ℤ) (aValueLength : Option ℕ) :
    VisitFrame (getVisit aIndex aValueLength) where
  nvm3Key search := (getVisit_frame aIndex aValueLength search).nvm3Key
  idx search := (getVisit_frame aIndex aValueLength search).idx
  behind search key _ := by
    rw [Nvm3.occupied, (getVisit_frame aIndex aValueLength search).objects, Nvm3.occupied]

theorem Nvm3.Faultless.called (hfaultless : nvm.Faultless) : nvm.called.Faultless := hfaultless

theorem Nvm3.memoryAlloc_of_faultless (hfaultless : nvm.Faultless) :
    nvm.memoryAlloc = (true, nvm.called) := by
  simp [Nvm3.memoryAlloc, hfaultless _]

theorem Nvm3.getObjectInfo_of_object {key : ℕ} {object : Nvm3Object} (hfaultless : nvm.Faultless)
    (hobject : nvm.objects key = some object) :
    nvm.getObjectInfo key = (.ok, object.bytes.length, nvm.called) := by
  simp [Nvm3.getObjectInfo, hfaultless _, hobject]

theorem Nvm3.readData_of_object {key : ℕ} {object : Nvm3Object} (hfaultless : nvm.Faultless)
    (hobject : nvm.objects key = some object) :
    nvm.readData key object.bytes.length = (.ok, object.bytes, nvm.called) := by
  simp [Nvm3.readData, hfaultless _, hobject]

/-- Without failures, the visit of the wanted index reads its value and ends the search. -/
theorem getVisit_of_object {aIndex : ℤ} (search : Search) (aValueLength : Option ℕ)
    {object : Nvm3Object} (hfaultless : search.nvm.Faultless) (hidx : (search.idx : ℤ) = aIndex)
    (hobject : search.nvm.objects search.nvm3Key = some object) :
    (getVisit aIndex aValueLength search).stopped = true ∧
      (getVisit aIndex aValueLength search).err = .none ∧
      (getVisit aIndex aValueLength search).valueLength = object.bytes.length ∧
      (getVisit aIndex aValueLength search).aValue =
        search.aValue.map fun buffer ↦ (aValueLength.map fun length ↦
          memcpy buffer (object.bytes.take length)).getD buffer := by
  have hlength : object.bytes.length % 2 ^ 16 = object.bytes.length :=
    Nat.mod_eq_of_lt object.length_lt
  have hcalled := Nvm3.memoryAlloc_of_faultless hfaultless.called
  have hread : search.nvm.called.called.readData search.nvm3Key object.bytes.length =
      (.ok, object.bytes, search.nvm.called.called.called) :=
    Nvm3.readData_of_object hfaultless.called.called hobject
  simp only [getVisit, if_pos hidx, Nvm3.getObjectInfo_of_object hfaultless hobject, mapNvm3Error,
    if_true, hlength, readObject]
  cases hvalue : search.aValue with
  | none => simp [Search.stopped]
  | some buffer =>
    cases aValueLength with
    | none => simp [Search.stopped]
    | some length =>
      have htake : object.bytes.take (min object.bytes.length length) =
          object.bytes.take length := by
        rw [Nat.min_comm, ← List.take_take, List.take_length]
      simp [Search.stopped, hcalled, hread, htake]

/-! ## The slot with an index -/

/-- A visitor that acts on one index only passes over the slots before it. -/
theorem searchKeys_skip {visit : Search → Search} {aIndex : ℤ}
    (hskip : ∀ search : Search, (search.idx : ℤ) ≠ aIndex → visit search = search)
    (keys : List ℕ) (search : Search) (hrunning : search.stopped = false)
    (hbefore : ∀ position < keys.length, ((search.idx + position : ℕ) : ℤ) ≠ aIndex) :
    ∃ key, searchKeys visit keys search =
      { search with nvm3Key := key, idx := search.idx + keys.length } := by
  induction keys generalizing search with
  | nil => exact ⟨search.nvm3Key, rfl⟩
  | cons head keys ih =>
    have hvisit : visit (search.moveTo head) = search.moveTo head :=
      hskip _ (hbefore 0 (Nat.zero_lt_succ _))
    rw [searchKeys_cons_running (by rw [hvisit, Search.moveTo_stopped, hrunning]), hvisit]
    obtain ⟨key, hkey⟩ := @ih (search.moveTo head).count hrunning
      fun position hposition ↦ by
        have := hbefore (position + 1) (Nat.succ_lt_succ hposition)
        simpa only [Search.count, Search.moveTo, Nat.add_assoc, Nat.add_comm 1] using this
    refine ⟨key, hkey.trans ?_⟩
    simp only [Search.count, Search.moveTo, List.length_cons, Nat.add_assoc, Nat.add_comm 1]

/-- A pass to an index that exists is the visit of its slot. -/
theorem searchKeys_at {visit : Search → Search} {aIndex : ℤ}
    (hskip : ∀ search : Search, (search.idx : ℤ) ≠ aIndex → visit search = search)
    {front back : List ℕ} {key : ℕ} (search : Search) (hrunning : search.stopped = false)
    (hidx : ((search.idx + front.length : ℕ) : ℤ) = aIndex)
    (hstops : (visit { search with nvm3Key := key, idx := search.idx + front.length }).stopped =
      true) :
    searchKeys visit (front ++ key :: back) search =
      visit { search with nvm3Key := key, idx := search.idx + front.length } := by
  obtain ⟨key', hfront⟩ := searchKeys_skip hskip front search hrunning
    fun position hposition heq ↦ by omega
  rw [searchKeys_append _ _ hrunning, hfront, if_neg (by simpa [Search.stopped] using hrunning)]
  exact searchKeys_cons_stopped hstops

/-! ## Removing -/

/-- The store without the object of one key. -/
def Nvm3.without (nvm : Nvm3) (key : ℕ) : ℕ → Option Nvm3Object :=
  Function.update nvm.objects key none

/-- A removal leaves the loop variables and all other objects alone, whether its calls fail or
not. -/
structure RemoveFrame (search removed : Search) : Prop where
  nvm3Key : removed.nvm3Key = search.nvm3Key
  idx : removed.idx = search.idx
  objects : ∀ key ≠ search.nvm3Key, removed.nvm.objects key = search.nvm.objects key

theorem Nvm3.deleteObject_objects (nvm : Nvm3) {key other : ℕ} (hother : other ≠ key) :
    (nvm.deleteObject key).2.objects other = nvm.objects other := by
  unfold Nvm3.deleteObject
  split
  · rfl
  · rfl
  · exact Function.update_of_ne hother _ _

theorem deleteObject_frame (search : Search) : RemoveFrame search (deleteObject search) := by
  unfold deleteObject
  simp only [Nvm3.getObjectInfo_nvm]
  split
  · split <;> exact ⟨rfl, rfl, fun key hkey ↦ search.nvm.called.deleteObject_objects hkey⟩
  · exact ⟨rfl, rfl, fun _ _ ↦ rfl⟩

theorem deleteVisit_frame (aIndex : ℤ) (search : Search) :
    RemoveFrame search (deleteVisit aIndex search) := by
  have hframe := deleteObject_frame search
  unfold deleteVisit
  split
  · simp only
    split
    · exact ⟨hframe.nvm3Key, hframe.idx, hframe.objects⟩
    · exact hframe
  · exact ⟨rfl, rfl, fun _ _ ↦ rfl⟩

theorem deleteVisit_visitFrame (aIndex : ℤ) : VisitFrame (deleteVisit aIndex) where
  nvm3Key search := (deleteVisit_frame aIndex search).nvm3Key
  idx search := (deleteVisit_frame aIndex search).idx
  behind search key hkey := by
    rw [Nvm3.occupied, (deleteVisit_frame aIndex search).objects key (Nat.ne_of_gt hkey),
      Nvm3.occupied]

/-- What a removal without failures leaves. -/
structure Removed (search removed : Search) : Prop where
  running : removed.stopped = search.stopped
  err : removed.err = .none
  objects : removed.nvm.objects = search.nvm.without search.nvm3Key
  faultless : removed.nvm.Faultless

theorem deleteObject_of_object (search : Search) {object : Nvm3Object}
    (hfaultless : search.nvm.Faultless)
    (hobject : search.nvm.objects search.nvm3Key = some object) :
    Removed search (deleteObject search) := by
  have hdelete : search.nvm.called.deleteObject search.nvm3Key =
      (.ok, { search.nvm.called.called with objects := search.nvm.without search.nvm3Key }) := by
    have hcalled : search.nvm.called.objects search.nvm3Key = some object := hobject
    simp only [Nvm3.deleteObject, hfaultless.called _, hcalled]
    rfl
  simp only [deleteObject, Nvm3.getObjectInfo_of_object hfaultless hobject, mapNvm3Error,
    if_true, hdelete]
  exact ⟨rfl, rfl, rfl, hfaultless⟩

theorem deleteVisit_skip {aIndex : ℤ} (hone : aIndex ≠ -1) {search : Search}
    (h : (search.idx : ℤ) ≠ aIndex) : deleteVisit aIndex search = search :=
  if_neg (not_or.mpr ⟨h, hone⟩)

/-- Without failures, the visit of the wanted index removes its object and ends the search. -/
theorem deleteVisit_of_object {aIndex : ℤ} (search : Search) {object : Nvm3Object}
    (hfaultless : search.nvm.Faultless) (hidx : (search.idx : ℤ) = aIndex)
    (hrunning : search.stopped = false)
    (hobject : search.nvm.objects search.nvm3Key = some object) :
    (deleteVisit aIndex search).stopped = true ∧ (deleteVisit aIndex search).err = .none ∧
      (deleteVisit aIndex search).nvm.objects = search.nvm.without search.nvm3Key := by
  obtain ⟨hstopped, herr, hobjects, -⟩ := deleteObject_of_object search hfaultless hobject
  have hexited : (deleteObject search).exited = false := by
    rw [hrunning] at hstopped
    exact (Bool.or_eq_false_iff.mp hstopped).2
  have hone : aIndex ≠ -1 := by omega
  rw [deleteVisit, if_pos (.inl hidx), if_pos ⟨hone, by simp [hexited]⟩]
  exact ⟨rfl, herr, hobjects⟩

/-- A pass that removes everything: no key of the list is occupied afterwards, and nothing else
has changed. -/
theorem searchKeys_deleteAll (keys : List ℕ) (search : Search)
    (hfaultless : search.nvm.Faultless) (hrunning : search.stopped = false)
    (hnodup : keys.Nodup) (hkeys : ∀ key ∈ keys, search.nvm.occupied key = true) :
    (∀ key ∈ keys, (searchKeys (deleteVisit (-1)) keys search).nvm.objects key = none) ∧
      (∀ key ∉ keys,
        (searchKeys (deleteVisit (-1)) keys search).nvm.objects key = search.nvm.objects key) ∧
      (searchKeys (deleteVisit (-1)) keys search).err =
        if keys = [] then search.err else .none := by
  induction keys generalizing search with
  | nil => exact ⟨nofun, fun _ _ ↦ rfl, rfl⟩
  | cons head keys ih =>
    obtain ⟨object, hobject⟩ := Option.isSome_iff_exists.mp (hkeys head List.mem_cons_self)
    have hvisit : deleteVisit (-1) (search.moveTo head) = deleteObject (search.moveTo head) := by
      rw [deleteVisit, if_pos (.inr rfl), if_neg (fun h ↦ h.1 rfl)]
    obtain ⟨hstopped, herr, hobjects, hfault⟩ :=
      deleteObject_of_object (search.moveTo head) hfaultless hobject
    rw [Search.moveTo_stopped, hrunning] at hstopped
    rw [List.nodup_cons] at hnodup
    have hafter : ∀ key ≠ head,
        (deleteObject (search.moveTo head)).nvm.objects key = search.nvm.objects key := by
      intro key hkey
      rw [hobjects]
      exact Function.update_of_ne hkey _ _
    rw [searchKeys_cons_running (by rw [hvisit, hstopped]), hvisit]
    obtain ⟨hnone, hrest, hcode⟩ := @ih (deleteObject (search.moveTo head)).count
      hfault hstopped hnodup.2 fun key hkey ↦ by
        have hne : key ≠ head := fun h ↦ hnodup.1 (h ▸ hkey)
        have := hkeys key (List.mem_cons_of_mem _ hkey)
        simpa only [Nvm3.occupied, Search.count, hafter key hne] using this
    refine ⟨fun key hkey ↦ ?_, fun key hkey ↦ ?_, ?_⟩
    · rcases List.mem_cons.mp hkey with rfl | hmem
      · rw [hrest _ hnodup.1]
        simp only [Search.count, hobjects]
        exact Function.update_self _ _ _
      · exact hnone key hmem
    · rw [List.mem_cons, not_or] at hkey
      rw [hrest key hkey.2]
      exact hafter key hkey.1
    · rw [hcode]
      simp only [Search.count, herr, ite_self, List.cons_ne_nil, if_false]

end OtEfr32.Settings
