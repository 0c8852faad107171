import OtEfr32.Settings.Frame

/-!
# The search for a free slot

`addSetting` asks nvm3 for the slots of a key in ascending order until one is free, and writes the
value there.  `AddOutcome` lists how its loop can end: it meets a failing call, it writes the value,
or it finds no free slot, which it reports like a success.  The last case is the only one in which
`otPlatSettingsAdd` misreports what became of the value.
-/

namespace OtEfr32.Settings

open Data

variable {config : Config} {nvm nvm' : Nvm3} {aKey : UInt16} {object : Nvm3Object}

/-- An object is stored in a slot of a key. -/
def Nvm3.slotOccupied (nvm : Nvm3) (aKey : UInt16) (slot : ℕ) : Bool :=
  nvm.occupied (makeNvm3ObjKey aKey slot)

/-- The next `count` calls do not fail. -/
def Nvm3.CallsSucceed (nvm : Nvm3) (count : ℕ) : Prop :=
  ∀ call < count, nvm.failure (nvm.calls + call) = none

theorem Nvm3.callsSucceed_zero (nvm : Nvm3) : nvm.CallsSucceed 0 :=
  fun _ hcall ↦ absurd hcall (Nat.not_lt_zero _)

theorem Nvm3.callsSucceed_succ {count : ℕ} (hfirst : nvm.failure nvm.calls = none)
    (hrest : nvm.called.CallsSucceed count) : nvm.CallsSucceed (count + 1) := by
  intro call hcall
  cases call with
  | zero => exact hfirst
  | succ call =>
    have := hrest call (Nat.lt_of_succ_lt_succ hcall)
    rwa [Nvm3.called, Nat.add_assoc, Nat.add_comm 1] at this

/-- The end of the loop of `addSetting` over `count` slots from `start` on: the error code and the
objects that it leaves. -/
inductive AddOutcome (aKey : UInt16) (object : Nvm3Object) (nvm : Nvm3) (start count : ℕ) :
    OtError → (ℕ → Option Nvm3Object) → Prop where
  /-- All slots are occupied. -/
  | full (hoccupied : ∀ slot < count, nvm.slotOccupied aKey (start + slot) = true)
      (hcalls : nvm.CallsSucceed count) : AddOutcome aKey object nvm start count .none nvm.objects
  /-- A call fails, at the latest the write to the first free slot. -/
  | failed (slot call : ℕ) (hslot : slot < count)
      (hoccupied : ∀ before < slot, nvm.slotOccupied aKey (start + before) = true)
      (hcall : nvm.failure (nvm.calls + call) ≠ none)
      (hlast : call ≤ slot ∨
        call = slot + 1 ∧ nvm.slotOccupied aKey (start + slot) = false) :
      AddOutcome aKey object nvm start count .failed nvm.objects
  /-- The value is written to the first free slot. -/
  | added (slot : ℕ) (hslot : slot < count)
      (hoccupied : ∀ before < slot, nvm.slotOccupied aKey (start + before) = true)
      (hfree : nvm.slotOccupied aKey (start + slot) = false)
      (hcalls : nvm.CallsSucceed (slot + 2)) :
      AddOutcome aKey object nvm start count .none
        (Function.update nvm.objects (makeNvm3ObjKey aKey (start + slot)) (some object))

/-- The outcome of the loop behind an occupied slot. -/
theorem AddOutcome.behind {start count : ℕ} {err : OtError} {objects : ℕ → Option Nvm3Object}
    (hoccupied : nvm.slotOccupied aKey start = true) (hcall : nvm.failure nvm.calls = none)
    (h : AddOutcome aKey object nvm.called (start + 1) count err objects) :
    AddOutcome aKey object nvm start (count + 1) err objects := by
  have hshift : ∀ slot, start + 1 + slot = start + (slot + 1) := by omega
  have hall : ∀ {bound}, (∀ slot < bound, nvm.called.slotOccupied aKey (start + 1 + slot) = true) →
      ∀ slot < bound + 1, nvm.slotOccupied aKey (start + slot) = true := by
    intro bound hbehind slot hslot
    cases slot with
    | zero => exact hoccupied
    | succ slot =>
      rw [← hshift]
      exact hbehind slot (Nat.lt_of_succ_lt_succ hslot)
  cases h with
  | full hbehind hcalls => exact .full (hall hbehind) (Nvm3.callsSucceed_succ hcall hcalls)
  | failed slot call hslot hbehind hfail hlast =>
    apply AddOutcome.failed (slot + 1) (call + 1) (Nat.succ_lt_succ hslot) (hall hbehind)
    · rwa [Nvm3.called, Nat.add_assoc, Nat.add_comm 1] at hfail
    · rw [hshift] at hlast
      exact hlast.imp Nat.succ_le_succ (And.imp_left (congrArg Nat.succ))
  | added slot hslot hbehind hfree hcalls =>
    rw [hshift] at hfree ⊢
    exact AddOutcome.added (slot + 1) (Nat.succ_lt_succ hslot) (hall hbehind) hfree
      (Nvm3.callsSucceed_succ hcall hcalls)

/-- `nvm3_getObjectInfo` by the failure it meets and by what it finds. -/
theorem Nvm3.getObjectInfo_err (nvm : Nvm3) (key : ℕ) :
    mapNvm3Error (nvm.getObjectInfo key).1 =
      if nvm.failure nvm.calls ≠ none then .failed
      else if nvm.occupied key then .none else .notFound := by
  unfold Nvm3.getObjectInfo Nvm3.occupied
  cases nvm.failure nvm.calls with
  | some code => rfl
  | none => cases nvm.objects key <;> rfl

theorem addLoop_outcome (start count : ℕ) (nvm : Nvm3) :
    AddOutcome aKey object nvm start count
      (addLoop aKey object (List.range' start count) (.none, nvm)).1
      (addLoop aKey object (List.range' start count) (.none, nvm)).2.objects := by
  induction count generalizing start nvm with
  | zero =>
    exact .full (fun slot hslot ↦ absurd hslot (Nat.not_lt_zero _)) nvm.callsSucceed_zero
  | succ count ih =>
    simp only [List.range'_succ, addLoop, Nvm3.getObjectInfo_err, Nvm3.getObjectInfo_nvm]
    have hnothing : ∀ before < 0, nvm.slotOccupied aKey (start + before) = true :=
      fun before hbefore ↦ absurd hbefore (Nat.not_lt_zero _)
    cases hcall : nvm.failure nvm.calls with
    | some code =>
      apply AddOutcome.failed 0 0 (Nat.succ_pos count) hnothing
      · simp [hcall]
      · exact .inl (Nat.le_refl 0)
    | none =>
      cases hoccupied : nvm.occupied (makeNvm3ObjKey aKey start) with
      | true =>
        have hrest := (ih (start + 1) nvm.called).behind hoccupied hcall
        simpa using hrest
      | false =>
        cases hwrite : nvm.failure (nvm.calls + 1) with
        | some code =>
          have hfailed : nvm.called.writeData (makeNvm3ObjKey aKey start) object =
              (.err code, nvm.called.called) := by
            simp [Nvm3.writeData, Nvm3.called, hwrite]
          simp only [hfailed, ne_eq, not_true_eq_false, if_false, Bool.false_eq_true, if_true]
          apply AddOutcome.failed 0 1 (Nat.succ_pos count) hnothing
          · simp [hwrite]
          · exact .inr ⟨rfl, hoccupied⟩
        | none =>
          have hok : nvm.called.writeData (makeNvm3ObjKey aKey start) object =
              (.ok, { nvm.called.called with
                objects := Function.update nvm.objects (makeNvm3ObjKey aKey start)
                  (some object) }) := by
            simp [Nvm3.writeData, Nvm3.called, hwrite]
          simp only [hok, ne_eq, not_true_eq_false, if_false, Bool.false_eq_true, if_true]
          exact AddOutcome.added 0 (Nat.succ_pos count) hnothing hoccupied
            (Nvm3.callsSucceed_succ hcall
              (Nvm3.callsSucceed_succ hwrite (Nvm3.callsSucceed_zero _)))

theorem addSetting_outcome (config : Config) (nvm : Nvm3) (aKey : UInt16) (value : ℕ → UInt8)
    {aValueLength : UInt16} (hlength : aValueLength ≠ 0) :
    AddOutcome aKey (bytesOf value aValueLength) nvm 0 (config.numIndexedSettings + 1)
      (addSetting config nvm aKey (some value) aValueLength).1
      (addSetting config nvm aKey (some value) aValueLength).2.objects := by
  simp only [addSetting, if_neg hlength, List.range_eq_range']
  exact addLoop_outcome 0 _ nvm

/-- `addSetting` refuses a null pointer and the length zero. -/
theorem addSetting_invalidArgs {aValue : Option (ℕ → UInt8)} {aValueLength : UInt16}
    (hinvalid : aValue = none ∨ aValueLength = 0) :
    addSetting config nvm aKey aValue aValueLength = (.invalidArgs, nvm) := by
  cases aValue with
  | none => rfl
  | some value => exact if_pos (hinvalid.resolve_left (Option.some_ne_none value))

/-- Where a slot is free, a valid value is written exactly if the calls up to the write to the first
free slot succeed. -/
theorem addSetting_eq_none_iff {free : ℕ} (hfree : free ≤ config.numIndexedSettings)
    (hslotfree : nvm.slotOccupied aKey free = false) (value : ℕ → UInt8) {aValueLength : UInt16}
    (hlength : aValueLength ≠ 0) :
    (addSetting config nvm aKey (some value) aValueLength).1 = .none ↔
      ∃ slot ≤ free, (∀ before < slot, nvm.slotOccupied aKey before = true) ∧
        nvm.slotOccupied aKey slot = false ∧ nvm.CallsSucceed (slot + 2) := by
  have hbound : ∀ bound, (∀ slot < bound, nvm.slotOccupied aKey slot = true) → bound ≤ free := by
    intro bound hoccupied
    by_contra hlt
    exact Bool.false_ne_true (hslotfree.symm.trans (hoccupied free (by omega)))
  have houtcome := addSetting_outcome config nvm aKey value hlength
  generalize (addSetting config nvm aKey (some value) aValueLength).1 = err at houtcome ⊢
  generalize (addSetting config nvm aKey (some value) aValueLength).2.objects = objects
    at houtcome
  cases houtcome with
  | full hoccupied _ =>
    simp only [Nat.zero_add] at hoccupied
    have := hbound _ hoccupied
    omega
  | failed slot call hslot hoccupied hcall hlast =>
    simp only [Nat.zero_add] at hoccupied
    apply iff_of_false (by simp)
    rintro ⟨first, -, -, hfirst, hsucceed⟩
    have hslotle : slot ≤ first := by
      by_contra hlt
      exact Bool.false_ne_true (hfirst.symm.trans (hoccupied first (by omega)))
    exact hcall (hsucceed call (by omega))
  | added slot hslot hoccupied hslotfree hsucceed =>
    simp only [Nat.zero_add] at hoccupied hslotfree
    exact iff_of_true rfl ⟨slot, hbound slot hoccupied, hoccupied, hslotfree, hsucceed⟩

/-! ## What a caller is told -/

/-- The values that `otPlatSettingsGet` enumerates for a key. -/
def Enumerates (config : Config) (nvm : Nvm3) (aKey : UInt16) (values : List (List UInt8)) :
    Prop :=
  ∀ aIndex aValue aValueLength,
    readSetting config (nvm.withFailures fun _ ↦ none) aKey aIndex aValue aValueLength =
      some (IndexedList.get values aIndex aValue aValueLength)

/-- From `nvm` to `nvm'`, the enumerated values have gained precisely the given one. -/
def Gained (config : Config) (aKey : UInt16) (aValue : Option (ℕ → UInt8))
    (aValueLength : UInt16) (nvm nvm' : Nvm3) : Prop :=
  ∃ value before after, aValue = some value ∧ Enumerates config nvm aKey before ∧
    Enumerates config nvm' aKey after ∧
    after.Perm ((bytesOf value aValueLength).bytes :: before)

/-- `otPlatSettingsAdd` reports success exactly when the value was added, and otherwise leaves all
keys as they were. -/
structure AddTruthful (config : Config) (nvm : Nvm3) (aKey : UInt16)
    (aValue : Option (ℕ → UInt8)) (aValueLength : UInt16) : Prop where
  success : (otPlatSettingsAdd config nvm aKey aValue aValueLength).1 = .none ↔
    Gained config aKey aValue aValueLength nvm
      (otPlatSettingsAdd config nvm aKey aValue aValueLength).2
  error : (otPlatSettingsAdd config nvm aKey aValue aValueLength).1 ≠ .none →
    ∀ key, SameReads config key nvm (otPlatSettingsAdd config nvm aKey aValue aValueLength).2

/-- A valid value, and a search that asks for all slots and finds none that is free. -/
structure NoFreeSlot (config : Config) (nvm : Nvm3) (aKey : UInt16)
    (aValue : Option (ℕ → UInt8)) (aValueLength : UInt16) : Prop where
  access : config.canAccessPal = true
  value : aValue ≠ none
  length : aValueLength ≠ 0
  occupied : ∀ slot < config.numIndexedSettings + 1, nvm.slotOccupied aKey slot = true
  calls : nvm.CallsSucceed (config.numIndexedSettings + 1)

theorem enumerates_iff (haccess : config.canAccessPal = true) {values : List (List UInt8)} :
    Enumerates config nvm aKey values ↔ values = slotValues config nvm aKey := by
  constructor
  · intro henumerates
    apply IndexedList.eq_of_get
    intro aIndex aValue aValueLength
    have hread := henumerates aIndex aValue aValueLength
    rw [readSetting_of_faultless haccess] at hread
    exact (Option.some.inj hread).symm
  · rintro rfl aIndex aValue aValueLength
    exact readSetting_of_faultless haccess aIndex aValue aValueLength

/-- Nothing is gained where no object is written. -/
theorem not_gained_of_objects {aValue : Option (ℕ → UInt8)} {aValueLength : UInt16}
    (hsame : nvm'.objects = nvm.objects) : ¬ Gained config aKey aValue aValueLength nvm nvm' := by
  rintro ⟨value, before, after, -, hbefore, hafter, hperm⟩
  have heq : after = before := by
    apply IndexedList.eq_of_get
    intro aIndex buffer length
    have hreads : SameReads config aKey nvm nvm' := sameReads_of_objects_eq hsame
    have hread := hreads (fun _ ↦ none) aIndex buffer length
    rw [hafter aIndex buffer length, hbefore aIndex buffer length] at hread
    exact Option.some.inj hread
  have hlength := hperm.length_eq
  rw [heq, List.length_cons] at hlength
  exact Nat.succ_ne_self _ hlength.symm

/-- A value written to a free slot of the key is gained. -/
theorem gained_of_write (haccess : config.canAccessPal = true)
    (hsettings : config.numIndexedSettings ≤ 0xFF) {slot : ℕ}
    (hslot : slot < config.numIndexedSettings + 1) (hfree : nvm.slotOccupied aKey slot = false)
    (value : ℕ → UInt8) (aValueLength : UInt16)
    (hobjects : nvm'.objects =
      Function.update nvm.objects (makeNvm3ObjKey aKey slot) (some (bytesOf value aValueLength))) :
    Gained config aKey (some value) aValueLength nvm nvm' := by
  have hself : nvm'.objects (makeNvm3ObjKey aKey slot) = some (bytesOf value aValueLength) := by
    rw [hobjects]
    exact Function.update_self _ _ _
  have hother : ∀ key ≠ makeNvm3ObjKey aKey slot, nvm'.objects key = nvm.objects key := by
    intro key hkey
    rw [hobjects]
    exact Function.update_of_ne hkey _ _
  have hkeys : (slotKeys config nvm' aKey).Perm
      (makeNvm3ObjKey aKey slot :: slotKeys config nvm aKey) := by
    have hfreeKey : nvm.occupied (makeNvm3ObjKey aKey slot) = false := hfree
    apply keysIn_insert_perm _ hfreeKey
    · intro key
      by_cases hkey : key = makeNvm3ObjKey aKey slot
      · simp [hkey, Nvm3.occupied, hself]
      · simp [hkey, Nvm3.occupied, hother key hkey]
    · rw [makeNvm3ObjKey_of_le aKey (show slot ≤ 0xFF by omega),
        makeNvm3ObjKey_of_le aKey hsettings]
      omega
  have hvalues : (slotKeys config nvm aKey).map nvm'.valueAt = slotValues config nvm aKey := by
    apply List.map_congr_left
    intro key hkey
    have hne : key ≠ makeNvm3ObjKey aKey slot := by
      rintro rfl
      exact Bool.false_ne_true (hfree.symm.trans (mem_keysIn.mp hkey).2)
    rw [Nvm3.valueAt, Nvm3.bytesAt, hother key hne]
    rfl
  have hvalue : nvm'.valueAt (makeNvm3ObjKey aKey slot) = (bytesOf value aValueLength).bytes := by
    rw [Nvm3.valueAt, Nvm3.bytesAt, hself]
    rfl
  refine ⟨value, slotValues config nvm aKey, slotValues config nvm' aKey, rfl,
    (enumerates_iff haccess).mpr rfl, (enumerates_iff haccess).mpr rfl, ?_⟩
  have hperm := hkeys.map nvm'.valueAt
  rwa [List.map_cons, hvalues, hvalue] at hperm

/-- A call that fails and writes nothing is reported truthfully. -/
theorem addTruthful_of_error {aValue : Option (ℕ → UInt8)} {aValueLength : UInt16} (err : OtError)
    (herr : err ≠ .none)
    (hcode : (otPlatSettingsAdd config nvm aKey aValue aValueLength).1 = err)
    (hobjects : (otPlatSettingsAdd config nvm aKey aValue aValueLength).2.objects = nvm.objects) :
    AddTruthful config nvm aKey aValue aValueLength where
  success := iff_of_false (hcode.trans_ne herr) (not_gained_of_objects hobjects)
  error _ _ := sameReads_of_objects_eq hobjects

/-- With at most 256 slots for a key, `otPlatSettingsAdd` tells the truth but for a search that
finds no free slot. -/
theorem addTruthful_iff (hsettings : config.numIndexedSettings ≤ 0xFF)
    (aValue : Option (ℕ → UInt8)) (aValueLength : UInt16) :
    AddTruthful config nvm aKey aValue aValueLength ↔
      ¬ NoFreeSlot config nvm aKey aValue aValueLength := by
  cases haccess : config.canAccessPal with
  | false =>
    have hadd : otPlatSettingsAdd config nvm aKey aValue aValueLength = (.rejected, nvm) := by
      rw [otPlatSettingsAdd, haccess, if_neg Bool.false_ne_true]
    apply iff_of_true
    · exact addTruthful_of_error .rejected (by decide) (congrArg Prod.fst hadd)
        (congrArg (·.2.objects) hadd)
    · exact fun h ↦ Bool.false_ne_true (haccess.symm.trans h.access)
  | true =>
    have hadd : otPlatSettingsAdd config nvm aKey aValue aValueLength =
        addSetting config nvm aKey aValue aValueLength := by
      rw [otPlatSettingsAdd, haccess, if_pos rfl]
    by_cases hinvalid : aValue = none ∨ aValueLength = 0
    case pos =>
      rw [addSetting_invalidArgs hinvalid] at hadd
      apply iff_of_true
      · exact addTruthful_of_error .invalidArgs (by decide) (congrArg Prod.fst hadd)
          (congrArg (·.2.objects) hadd)
      · exact fun h ↦ hinvalid.elim h.value h.length
    case neg =>
      obtain ⟨hvalue, hlength⟩ := not_or.mp hinvalid
      obtain ⟨value, rfl⟩ := Option.ne_none_iff_exists'.mp hvalue
      have houtcome := addSetting_outcome config nvm aKey value hlength
      rw [← hadd] at houtcome
      generalize hcode : (otPlatSettingsAdd config nvm aKey (some value) aValueLength).1 = err
        at houtcome
      generalize hobjects :
        (otPlatSettingsAdd config nvm aKey (some value) aValueLength).2.objects = objects
        at houtcome
      cases houtcome with
      | full hoccupied hcalls =>
        apply iff_of_false
        · exact fun h ↦ not_gained_of_objects hobjects (h.success.mp hcode)
        · simp only [Nat.zero_add] at hoccupied
          exact not_not_intro ⟨haccess, hvalue, hlength, hoccupied, hcalls⟩
      | failed slot call hslot hoccupied hcall hlast =>
        apply iff_of_true
        · exact addTruthful_of_error .failed (by decide) hcode hobjects
        · intro h
          rcases hlast with hearly | ⟨rfl, hfree⟩
          · exact hcall (h.calls call (by omega))
          · rw [Nat.zero_add] at hfree
            exact Bool.false_ne_true (hfree.symm.trans (h.occupied slot hslot))
      | added slot hslot hoccupied hfree hcalls =>
        rw [Nat.zero_add] at hfree hobjects
        apply iff_of_true
        · exact
            { success := iff_of_true hcode
                (gained_of_write haccess hsettings hslot hfree value aValueLength hobjects)
              error := fun herr ↦ absurd hcode herr }
        · exact fun h ↦ Bool.false_ne_true (hfree.symm.trans (h.occupied slot hslot))

/-- The only slot of a key is occupied. -/
def fullStore : Nvm3 where
  objects := Function.update (fun _ ↦ none) 0x20500 (some (bytesOf (fun _ ↦ 7) 1))

theorem addTruthful_iff_freeSlot :
    AddTruthful { numIndexedSettings := 0 } fullStore 6 (some fun _ ↦ 1) 4 :=
  (addTruthful_iff (by decide) _ _).mpr fun h ↦ absurd (h.occupied 0 (by decide)) (by decide)

theorem not_addTruthful_fullStore :
    ¬ AddTruthful { numIndexedSettings := 0 } fullStore 5 (some fun _ ↦ 1) 4 := by
  intro h
  have hcode : (otPlatSettingsAdd { numIndexedSettings := 0 } fullStore 5 (some fun _ ↦ 1) 4).1 =
      .none := by decide
  have hobjects : (otPlatSettingsAdd { numIndexedSettings := 0 } fullStore 5
      (some fun _ ↦ 1) 4).2.objects = fullStore.objects := rfl
  exact not_gained_of_objects hobjects (h.success.mp hcode)

end OtEfr32.Settings
