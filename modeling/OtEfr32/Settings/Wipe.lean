import OtEfr32.Settings.Frame

/-!
# Wiping the store

`otPlatSettingsWipe` enumerates a fixed range of object keys until it is empty, and ignores the
results of the removals.  It therefore returns exactly if as many removals succeed as there are
objects in the range, and it leaves the objects outside of the range, which belong to settings keys
that the other functions accept.
-/

namespace OtEfr32.Settings

open Data Transition

variable {config : Config} {nvm nvm' : Nvm3}

/-- The number of calls that do not fail among the `count` calls from `call` on. -/
def successes (failure : ℕ → Option ℕ) : ℕ → ℕ → ℕ
  | _, 0 => 0
  | call, count + 1 =>
    (if failure call = none then 1 else 0) + successes failure (call + 1) count

theorem successes_add (failure : ℕ → Option ℕ) (call first second : ℕ) :
    successes failure call (first + second) =
      successes failure call first + successes failure (call + first) second := by
  induction first generalizing call with
  | zero => rw [Nat.zero_add, Nat.add_zero, successes, Nat.zero_add]
  | succ first ih =>
    have hcall : call + 1 + first = call + (first + 1) := by omega
    calc
      successes failure call (first + 1 + second) =
          (if failure call = none then 1 else 0) +
            successes failure (call + 1) (first + second) := by
        rw [Nat.succ_add, successes]
      _ = (if failure call = none then 1 else 0) + (successes failure (call + 1) first +
          successes failure (call + (first + 1)) second) := by
        rw [ih, hcall]
      _ = successes failure call (first + 1) +
          successes failure (call + (first + 1)) second := by
        rw [successes, Nat.add_assoc]

theorem successes_eq_count {failure : ℕ → Option ℕ} {call count : ℕ}
    (hcalls : ∀ n < count, failure (call + n) = none) : successes failure call count = count := by
  induction count generalizing call with
  | zero => rfl
  | succ count ih =>
    have hrest : ∀ n < count, failure (call + 1 + n) = none := by
      intro n hn
      have := hcalls (n + 1) (Nat.succ_lt_succ hn)
      rwa [Nat.add_assoc, Nat.add_comm 1]
    have hfirst : failure call = none := hcalls 0 (Nat.succ_pos count)
    rw [successes, if_pos hfirst, ih hrest, Nat.add_comm]

/-! ## The range -/

/-- The object keys that a wipe enumerates. -/
def InWipeRange (key : ℕ) : Prop := firstNvm3Key ≤ key ∧ key ≤ lastNvm3Key

/-- The occupied keys of the range. -/
def rangeKeys (nvm : Nvm3) : List ℕ := keysIn nvm.occupied firstNvm3Key lastNvm3Key

theorem wipeKeys_eq : wipeKeys nvm = (rangeKeys nvm).take enumNvm3KeyListSize := rfl

theorem wipeKeys_isEmpty : (wipeKeys nvm).isEmpty = true ↔ rangeKeys nvm = [] := by
  rw [wipeKeys_eq, List.isEmpty_iff, List.take_eq_nil_iff]
  simp [enumNvm3KeyListSize]

/-- The settings keys whose objects are in the range. -/
def WipedKey (aKey : UInt16) : Prop :=
  0x201 ≤ aKey.toNat ||| 0x200 ∧ aKey.toNat ||| 0x200 ≤ 0x2FF

instance (aKey : UInt16) : Decidable (WipedKey aKey) := by
  unfold WipedKey
  infer_instance

theorem inWipeRange_iff (aKey : UInt16) (slot : ℕ) :
    InWipeRange (makeNvm3ObjKey aKey slot) ↔ WipedKey aKey := by
  have hmod := Nat.mod_lt slot (show 0 < 2 ^ 8 by decide)
  have hfirst : firstNvm3Key = 0x20100 := by decide
  have hlast : lastNvm3Key = 0x2FFFF := by decide
  rw [InWipeRange, WipedKey, makeNvm3ObjKey_eq_bits, hfirst, hlast]
  omega

/-! ## Removals without a look at the result -/

/-- The store `nvm'` is `nvm` after `count` removals of objects of the range, whatever their
results: every removal that succeeds takes one object away, and every one has an object to take. -/
structure WipedBy (count : ℕ) (nvm nvm' : Nvm3) : Prop where
  failure : nvm'.failure = nvm.failure
  calls : nvm'.calls = nvm.calls + count
  removed : (rangeKeys nvm').length + successes nvm.failure nvm.calls count =
    (rangeKeys nvm).length
  needed : ∀ call < count, successes nvm.failure nvm.calls call < (rangeKeys nvm).length
  outside : ∀ key, ¬ InWipeRange key → nvm'.objects key = nvm.objects key

theorem WipedBy.refl : WipedBy 0 nvm nvm where
  failure := rfl
  calls := rfl
  removed := rfl
  needed _ hcall := absurd hcall (Nat.not_lt_zero _)
  outside _ _ := rfl

theorem WipedBy.trans {first second : ℕ} {nvm'' : Nvm3} (hfirst : WipedBy first nvm nvm')
    (hsecond : WipedBy second nvm' nvm'') : WipedBy (first + second) nvm nvm'' where
  failure := hsecond.failure.trans hfirst.failure
  calls := by rw [hsecond.calls, hfirst.calls, Nat.add_assoc]
  removed := by
    have hcount := hsecond.removed
    rw [hfirst.failure, hfirst.calls] at hcount
    rw [successes_add, ← hfirst.removed, ← hcount]
    omega
  needed call hcall := by
    by_cases hearly : call < first
    · exact hfirst.needed call hearly
    · have hneeded := hsecond.needed (call - first) (by omega)
      rw [hfirst.failure, hfirst.calls] at hneeded
      have hsum := successes_add nvm.failure nvm.calls first (call - first)
      rw [Nat.add_sub_cancel' (Nat.le_of_not_lt hearly)] at hsum
      rw [hsum, ← hfirst.removed]
      omega
  outside key hkey := (hsecond.outside key hkey).trans (hfirst.outside key hkey)

/-- One removal. -/
theorem deleteObject_wipedBy {key : ℕ} (hrange : InWipeRange key)
    (hoccupied : nvm.occupied key = true) : WipedBy 1 nvm (nvm.deleteObject key).2 := by
  obtain ⟨object, hobject⟩ := Option.isSome_iff_exists.mp hoccupied
  have hneeded : ∀ call < 1, successes nvm.failure nvm.calls call < (rangeKeys nvm).length := by
    intro call hcall
    rw [Nat.lt_one_iff.mp hcall]
    exact List.length_pos_of_mem (mem_keysIn.mpr ⟨hrange, hoccupied⟩)
  cases hcall : nvm.failure nvm.calls with
  | some code =>
    have hdelete : nvm.deleteObject key = (.err code, nvm.called) := by
      simp [Nvm3.deleteObject, hcall]
    have hnone : successes nvm.failure nvm.calls 1 = 0 := by simp [successes, hcall]
    rw [hdelete]
    exact ⟨rfl, rfl, by rw [hnone]; rfl, hneeded, fun _ _ ↦ rfl⟩
  | none =>
    have hdelete : nvm.deleteObject key =
        (.ok, { nvm.called with objects := nvm.without key }) := by
      simp [Nvm3.deleteObject, hcall, hobject, Nvm3.without]
    have hone : successes nvm.failure nvm.calls 1 = 1 := by simp [successes, hcall]
    have hself : nvm.without key key = none := Function.update_self _ _ _
    have hother : ∀ other ≠ key, nvm.without key other = nvm.objects other :=
      fun other hne ↦ Function.update_of_ne hne _ _
    rw [hdelete]
    constructor
    case failure => rfl
    case calls => rfl
    case removed =>
      have hfree : Nvm3.occupied { nvm.called with objects := nvm.without key } key = false := by
        change (nvm.without key key).isSome = false
        rw [hself]
        rfl
      have hperm : (rangeKeys nvm).Perm
          (key :: rangeKeys { nvm.called with objects := nvm.without key }) := by
        apply keysIn_insert_perm hrange hfree
        intro other
        by_cases hne : other = key
        · simp [hne, hoccupied]
        · simp [hne, Nvm3.occupied, hother other hne]
      rw [hone, hperm.length_eq, List.length_cons]
    case needed => exact hneeded
    case outside =>
      intro other houtside
      exact hother other fun heq ↦ houtside (heq ▸ hrange)

/-- A removal leaves the other keys occupied. -/
theorem deleteObject_occupied {key other : ℕ} (hne : other ≠ key) :
    (nvm.deleteObject key).2.occupied other = nvm.occupied other := by
  rw [Nvm3.occupied, nvm.deleteObject_objects hne, Nvm3.occupied]

theorem foldl_deleteObject_wipedBy (keys : List ℕ) (nvm : Nvm3) (hnodup : keys.Nodup)
    (hkeys : ∀ key ∈ keys, InWipeRange key ∧ nvm.occupied key = true) :
    WipedBy keys.length nvm (keys.foldl (fun nvm key ↦ (nvm.deleteObject key).2) nvm) := by
  induction keys generalizing nvm with
  | nil => exact WipedBy.refl
  | cons key keys ih =>
    obtain ⟨hnew, hnodup⟩ := List.nodup_cons.mp hnodup
    obtain ⟨hrange, hoccupied⟩ := hkeys key List.mem_cons_self
    have hrest := ih (nvm.deleteObject key).2 hnodup fun other hother ↦ by
      have hne : other ≠ key := fun heq ↦ hnew (heq ▸ hother)
      rw [deleteObject_occupied hne]
      exact hkeys other (List.mem_cons_of_mem _ hother)
    rw [List.length_cons, Nat.add_comm, List.foldl_cons]
    exact (deleteObject_wipedBy hrange hoccupied).trans hrest

/-- A round of the loop. -/
theorem wipeRound_wipedBy (nvm : Nvm3) : WipedBy (wipeKeys nvm).length nvm (wipeRound nvm) := by
  apply foldl_deleteObject_wipedBy
  · exact keysIn_nodup.sublist (List.take_sublist _ _)
  · intro key hkey
    exact mem_keysIn.mp (List.mem_of_mem_take hkey)

/-! ## The loop -/

/-- The condition of the `while` loop. -/
def wipeGoesOn (nvm : Nvm3) : Bool := !(wipeKeys nvm).isEmpty

theorem wipeGoesOn_eq_false : wipeGoesOn nvm = false ↔ rangeKeys nvm = [] := by
  rw [wipeGoesOn, Bool.not_eq_false', wipeKeys_isEmpty]

/-- A loop that ended has emptied the range. -/
theorem whileLoop_wipedBy {fuel : ℕ} (hloop : whileLoop wipeGoesOn wipeRound fuel nvm = some nvm') :
    rangeKeys nvm' = [] ∧ ∃ count, WipedBy count nvm nvm' := by
  induction fuel generalizing nvm with
  | zero => exact absurd hloop (by simp [whileLoop])
  | succ fuel ih =>
    cases htest : wipeGoesOn nvm with
    | false =>
      rw [whileLoop_done htest] at hloop
      cases hloop
      exact ⟨wipeGoesOn_eq_false.mp htest, 0, WipedBy.refl⟩
    | true =>
      rw [whileLoop_round htest] at hloop
      obtain ⟨hempty, count, hrest⟩ := ih hloop
      exact ⟨hempty, _, (wipeRound_wipedBy nvm).trans hrest⟩

/-- A loop ends if enough removals succeed. -/
theorem exists_whileLoop_of_successes (count : ℕ)
    (henough : (rangeKeys nvm).length ≤ successes nvm.failure nvm.calls count) :
    ∃ rounds nvm', whileLoop wipeGoesOn wipeRound (rounds + 1) nvm = some nvm' := by
  induction count using Nat.strong_induction_on generalizing nvm with
  | _ count ih =>
    cases htest : wipeGoesOn nvm with
    | false => exact ⟨0, nvm, whileLoop_done htest⟩
    | true =>
      have hround := wipeRound_wipedBy nvm
      have hkeys : (wipeKeys nvm).length ≠ 0 := by
        intro hzero
        rw [wipeGoesOn, List.eq_nil_of_length_eq_zero hzero] at htest
        exact Bool.false_ne_true htest
      have hcount : count ≠ 0 := by
        rintro rfl
        rw [successes, Nat.le_zero, List.length_eq_zero_iff, ← wipeGoesOn_eq_false] at henough
        exact Bool.false_ne_true (henough.symm.trans htest)
      have hleft : (rangeKeys (wipeRound nvm)).length ≤
          successes (wipeRound nvm).failure (wipeRound nvm).calls
            (count - (wipeKeys nvm).length) := by
        have hremoved := hround.removed
        rw [hround.failure, hround.calls]
        by_cases hlast : (wipeKeys nvm).length ≤ count
        · have hsum := successes_add nvm.failure nvm.calls (wipeKeys nvm).length
            (count - (wipeKeys nvm).length)
          rw [Nat.add_sub_cancel' hlast] at hsum
          omega
        · have hsum := successes_add nvm.failure nvm.calls count
            ((wipeKeys nvm).length - count)
          rw [Nat.add_sub_cancel' (by omega)] at hsum
          omega
      obtain ⟨rounds, nvm', hrest⟩ := ih _ (by omega) hleft
      exact ⟨rounds + 1, nvm', by rw [whileLoop_round htest, hrest]⟩

/-! ## What is left -/

/-- The error code of a read. -/
def readError (config : Config) (nvm : Nvm3) (aKey : UInt16) (aIndex : ℤ)
    (aValue : Option (List UInt8)) (aValueLength : Option ℕ) : Option OtError :=
  (readSetting config nvm aKey aIndex aValue aValueLength).map Prod.fst

/-- No read of a key finds a value, whatever failures it meets. -/
def NothingFound (config : Config) (nvm : Nvm3) (aKey : UInt16) : Prop :=
  ∀ failure aIndex aValue aValueLength,
    readError config (nvm.withFailures failure) aKey aIndex aValue aValueLength = some .notFound

theorem nothingFound_iff {aKey : UInt16} :
    NothingFound config nvm aKey ↔
      config.canAccessPal = true ∧ slotKeys config nvm aKey = [] := by
  cases haccess : config.canAccessPal with
  | false =>
    apply iff_of_false
    · intro h
      have hread := h (fun _ ↦ none) 0 none none
      simp [readError, readSetting, otPlatSettingsGet, haccess] at hread
    · exact fun h ↦ Bool.false_ne_true h.1
  | true =>
    rw [eq_self, true_and]
    constructor
    · intro h
      have hread := h (fun _ ↦ none) 0 none none
      rw [readError, readSetting_of_faultless haccess, Option.map_some, Option.some.injEq,
        IndexedList.get] at hread
      cases hvalues : slotValues config nvm aKey with
      | nil => exact List.map_eq_nil_iff.mp hvalues
      | cons value values => simp [hvalues, IndexedList.lookup] at hread
    · intro hempty failure aIndex aValue aValueLength
      have hslots : slotKeys config (nvm.withFailures failure) aKey = [] := hempty
      rw [readError, readSetting_eq_readPass haccess, readPass, hslots]
      rfl

/-- `otPlatSettingsWipe` returns, and if all its removals succeed, no key has a value. -/
def WipeComplete (config : Config) (nvm : Nvm3) : Prop :=
  ∃ rounds nvm', otPlatSettingsWipe config rounds nvm = some nvm' ∧
    ((∀ call, nvm.calls ≤ call → call < nvm'.calls → nvm.failure call = none) →
      ∀ aKey, NothingFound config nvm' aKey)

/-- What a wipe relies on: access, enough removals that succeed, and, where the next removals all
succeed, no value of a key outside of the range. -/
structure WipeCondition (config : Config) (nvm : Nvm3) : Prop where
  access : config.canAccessPal = true
  enough : ∃ count, (rangeKeys nvm).length ≤ successes nvm.failure nvm.calls count
  inside : (∀ call < (rangeKeys nvm).length, nvm.failure (nvm.calls + call) = none) →
    ∀ aKey, ¬ WipedKey aKey → slotKeys config nvm aKey = []

/-- The slots of a key outside of the range after a wipe. -/
theorem WipedBy.slotKeys_eq {count : ℕ} {aKey : UInt16} (h : WipedBy count nvm nvm')
    (hkey : ¬ WipedKey aKey) : slotKeys config nvm' aKey = slotKeys config nvm aKey := by
  have hsame (slot : ℕ) : nvm'.occupied (makeNvm3ObjKey aKey slot) =
      nvm.occupied (makeNvm3ObjKey aKey slot) := by
    have houtside := h.outside (makeNvm3ObjKey aKey slot)
      ((inWipeRange_iff aKey slot).not.mpr hkey)
    rw [Nvm3.occupied, houtside, Nvm3.occupied]
  have hmod := Nat.mod_lt config.numIndexedSettings (show 0 < 2 ^ 8 by decide)
  rw [slotKeys_eq_map, slotKeys_eq_map]
  congr 1
  apply List.filter_congr
  intro slot hslot
  rw [List.mem_range] at hslot
  rw [← makeNvm3ObjKey_of_le aKey (show slot ≤ 0xFF by omega)]
  exact hsame slot

/-- The slots of a key of an empty range. -/
theorem slotKeys_of_rangeKeys {aKey : UInt16} (hempty : rangeKeys nvm = []) (hkey : WipedKey aKey) :
    slotKeys config nvm aKey = [] := by
  apply List.eq_nil_iff_forall_not_mem.mpr
  intro key hmem
  obtain ⟨slot, -, rfl⟩ := exists_slot_of_mem_slotKeys hmem
  have hrange : makeNvm3ObjKey aKey slot ∈ rangeKeys nvm :=
    mem_keysIn.mpr ⟨(inWipeRange_iff aKey slot).mpr hkey, (mem_keysIn.mp hmem).2⟩
  rw [hempty] at hrange
  exact List.not_mem_nil hrange

/-- A wipe that returned has met the failures between its first call and its last. -/
theorem otPlatSettingsWipe_wipedBy (haccess : config.canAccessPal = true) {rounds : ℕ}
    (hwipe : otPlatSettingsWipe config rounds nvm = some nvm') :
    rangeKeys nvm' = [] ∧ ∃ count, WipedBy count nvm nvm' := by
  rw [otPlatSettingsWipe, haccess, if_pos rfl] at hwipe
  exact whileLoop_wipedBy hwipe

/-- A wipe whose removals all succeed makes one for each object of the range. -/
theorem WipedBy.all_succeed_iff {count : ℕ} (h : WipedBy count nvm nvm')
    (hempty : rangeKeys nvm' = []) :
    (∀ call < count, nvm.failure (nvm.calls + call) = none) ↔
      ∀ call < (rangeKeys nvm).length, nvm.failure (nvm.calls + call) = none := by
  have hremoved := h.removed
  rw [hempty, List.length_nil, Nat.zero_add] at hremoved
  constructor
  · intro hcalls call hcall
    rw [successes_eq_count hcalls] at hremoved
    exact hcalls call (hremoved ▸ hcall)
  · intro hcalls call hcall
    apply hcalls
    -- Behind as many removals as there are objects, there is no object to take.
    by_contra hmore
    have hneeded := h.needed (rangeKeys nvm).length (by omega)
    rw [successes_eq_count hcalls] at hneeded
    exact Nat.lt_irrefl _ hneeded

/-- What a wipe that returned leaves to be found. -/
theorem WipedBy.nothingFound_iff {count : ℕ} (haccess : config.canAccessPal = true)
    (h : WipedBy count nvm nvm') (hempty : rangeKeys nvm' = []) :
    (∀ aKey, NothingFound config nvm' aKey) ↔
      ∀ aKey, ¬ WipedKey aKey → slotKeys config nvm aKey = [] := by
  constructor
  · intro hnothing aKey hkey
    rw [← h.slotKeys_eq hkey]
    exact (OtEfr32.Settings.nothingFound_iff.mp (hnothing aKey)).2
  · intro hinside aKey
    apply OtEfr32.Settings.nothingFound_iff.mpr
    by_cases hkey : WipedKey aKey
    · exact ⟨haccess, slotKeys_of_rangeKeys hempty hkey⟩
    · exact ⟨haccess, (h.slotKeys_eq hkey).trans (hinside aKey hkey)⟩

/-- The removals that a wipe made, by their numbers. -/
theorem WipedBy.calls_iff {count : ℕ} (h : WipedBy count nvm nvm') :
    (∀ call, nvm.calls ≤ call → call < nvm'.calls → nvm.failure call = none) ↔
      ∀ call < count, nvm.failure (nvm.calls + call) = none := by
  rw [h.calls]
  constructor
  · exact fun hcalls call hcall ↦ hcalls _ (Nat.le_add_right _ _) (Nat.add_lt_add_left hcall _)
  · intro hcalls call hlower hupper
    obtain ⟨offset, rfl⟩ := Nat.exists_eq_add_of_le hlower
    exact hcalls offset (Nat.lt_of_add_lt_add_left hupper)

theorem WipeComplete.access (h : WipeComplete config nvm) : config.canAccessPal = true := by
  by_contra hno
  rw [Bool.not_eq_true] at hno
  obtain ⟨rounds, nvm', hwipe, hnothing⟩ := h
  rw [otPlatSettingsWipe, hno, if_neg Bool.false_ne_true] at hwipe
  cases hwipe
  have hfound := hnothing (fun call hlower hupper ↦ absurd hlower (Nat.not_le_of_lt hupper)) 1
  exact Bool.false_ne_true (hno.symm.trans (nothingFound_iff.mp hfound).1)

theorem WipeComplete.condition (h : WipeComplete config nvm) : WipeCondition config nvm := by
  have haccess := h.access
  obtain ⟨rounds, nvm', hwipe, hnothing⟩ := h
  obtain ⟨hempty, count, hwiped⟩ := otPlatSettingsWipe_wipedBy haccess hwipe
  rw [hwiped.calls_iff, hwiped.all_succeed_iff hempty, hwiped.nothingFound_iff haccess hempty]
    at hnothing
  have hremoved := hwiped.removed
  rw [hempty, List.length_nil, Nat.zero_add] at hremoved
  exact ⟨haccess, ⟨count, Nat.le_of_eq hremoved.symm⟩, hnothing⟩

theorem WipeCondition.complete (h : WipeCondition config nvm) : WipeComplete config nvm := by
  have haccess := h.access
  obtain ⟨count, henough⟩ := h.enough
  obtain ⟨rounds, nvm', hloop⟩ := exists_whileLoop_of_successes count henough
  have hwipe : otPlatSettingsWipe config rounds nvm = some nvm' := by
    rw [otPlatSettingsWipe, haccess, if_pos rfl]
    exact hloop
  obtain ⟨hempty, made, hwiped⟩ := otPlatSettingsWipe_wipedBy haccess hwipe
  refine ⟨rounds, nvm', hwipe, ?_⟩
  rw [hwiped.calls_iff, hwiped.all_succeed_iff hempty, hwiped.nothingFound_iff haccess hempty]
  exact h.inside

/-- A wipe is complete exactly if the caller has access, as many removals succeed as there are
objects in the range, and no value is stored under a key outside of it. -/
theorem wipeComplete_iff : WipeComplete config nvm ↔ WipeCondition config nvm :=
  ⟨WipeComplete.condition, WipeCondition.complete⟩

/-- One value under the key zero. -/
def keyZeroStore : Nvm3 where
  objects := Function.update (fun _ ↦ none) 0x20000 (some (bytesOf (fun _ ↦ 7) 1))

/-- One value whose removal always fails. -/
def stuckStore : Nvm3 where
  objects := Function.update (fun _ ↦ none) 0x20500 (some (bytesOf (fun _ ↦ 7) 1))
  failure _ := some 1

theorem successes_stuckStore (call count : ℕ) : successes stuckStore.failure call count = 0 := by
  induction count generalizing call with
  | zero => rfl
  | succ count ih => rw [successes, ih]; rfl

/-- A wipe leaves a value of the key zero, and does not return while removals fail. -/
theorem not_wipeComplete_keyZero_stuck :
    ¬ WipeComplete { numIndexedSettings := 10 } keyZeroStore ∧
      ¬ WipeComplete { numIndexedSettings := 10 } stuckStore := by
  constructor
  · intro h
    have hempty := h.condition.inside (fun _ _ ↦ rfl) 0 (by decide)
    have hslots : slotKeys { numIndexedSettings := 10 } keyZeroStore 0 = [0x20000] := by decide
    rw [hslots] at hempty
    exact List.cons_ne_nil _ _ hempty
  · intro h
    obtain ⟨count, henough⟩ := h.condition.enough
    have hmem : 0x20500 ∈ rangeKeys stuckStore := mem_keysIn.mpr ⟨by decide, rfl⟩
    have hpos := List.length_pos_of_mem hmem
    rw [successes_stuckStore] at henough
    omega

end OtEfr32.Settings
