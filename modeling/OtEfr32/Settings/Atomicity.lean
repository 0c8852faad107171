import OtEfr32.Settings.FreeSlot

/-!
# Failing writes of `otPlatSettingsSet`

`otPlatSettingsSet` removes all values of the key before it looks at the new one.  An error is
harmless only where the removal has removed nothing: `RemovesNone` says of the failures that the
removal meets that this is so, and `RemovesLast` that it goes on to the write.
-/

namespace OtEfr32.Settings

open Data

variable {config : Config} {nvm nvm' : Nvm3} {aKey : UInt16}

/-- If the calls from `call` on meet these failures, a removal of `count` objects removes none: the
first call that does not fail, if there is one, asks for an object whose removal fails. -/
def RemovesNone (failure : ℕ → Option ℕ) (call count : ℕ) : Prop :=
  (∀ before < count, failure (call + before) ≠ none) ∨
    ∃ first < count, (∀ before < first, failure (call + before) ≠ none) ∧
      failure (call + first) = none ∧ failure (call + first + 1) ≠ none

/-- If the calls from `call` on meet these failures, a removal of the objects under a list of keys
removes all of them but those in `kept`, whose information it cannot get and among which is not the
last one.  Its calls are those before `next`. -/
inductive RemovesLast (failure : ℕ → Option ℕ) : ℕ → List ℕ → List ℕ → ℕ → Prop where
  | last {call key : ℕ} (hinfo : failure call = none) (hdelete : failure (call + 1) = none) :
      RemovesLast failure call [key] [] (call + 2)
  | removed {call key : ℕ} {keys kept : List ℕ} {next : ℕ} (hinfo : failure call = none)
      (hdelete : failure (call + 1) = none)
      (hrest : RemovesLast failure (call + 2) keys kept next) :
      RemovesLast failure call (key :: keys) kept next
  | kept {call key : ℕ} {keys kept : List ℕ} {next : ℕ} (hinfo : failure call ≠ none)
      (hrest : RemovesLast failure (call + 1) keys kept next) :
      RemovesLast failure call (key :: keys) (key :: kept) next

theorem removesNone_zero (failure : ℕ → Option ℕ) (call : ℕ) : RemovesNone failure call 0 :=
  .inl fun _ hbefore ↦ absurd hbefore (Nat.not_lt_zero _)

/-- The first object of a removal that removes none. -/
theorem removesNone_succ {failure : ℕ → Option ℕ} {call count : ℕ} :
    RemovesNone failure call (count + 1) ↔
      (failure call ≠ none ∧ RemovesNone failure (call + 1) count) ∨
        (failure call = none ∧ failure (call + 1) ≠ none) := by
  have hshift : ∀ before, call + 1 + before = call + (before + 1) := by omega
  have hcons : ∀ {bound}, (∀ before < bound + 1, failure (call + before) ≠ none) ↔
      failure call ≠ none ∧ ∀ before < bound, failure (call + 1 + before) ≠ none := by
    intro bound
    simp only [hshift]
    constructor
    · exact fun h ↦ ⟨h 0 (Nat.succ_pos bound), fun before hbefore ↦ h _ (Nat.succ_lt_succ hbefore)⟩
    · rintro ⟨hfirst, hrest⟩ before hbefore
      cases before with
      | zero => exact hfirst
      | succ before => exact hrest before (Nat.lt_of_succ_lt_succ hbefore)
  constructor
  · rintro (hall | ⟨first, hfirst, hbefore, hinfo, hdelete⟩)
    · obtain ⟨hcall, hrest⟩ := hcons.mp hall
      exact .inl ⟨hcall, .inl hrest⟩
    · cases first with
      | zero => exact .inr ⟨hinfo, hdelete⟩
      | succ first =>
        obtain ⟨hcall, hrest⟩ := hcons.mp hbefore
        rw [← hshift] at hinfo hdelete
        exact .inl ⟨hcall, .inr ⟨first, Nat.lt_of_succ_lt_succ hfirst, hrest, hinfo, hdelete⟩⟩
  · rintro (⟨hcall, hall | ⟨first, hfirst, hbefore, hinfo, hdelete⟩⟩ | ⟨hinfo, hdelete⟩)
    · exact .inl (hcons.mpr ⟨hcall, hall⟩)
    · rw [hshift] at hinfo hdelete
      exact .inr ⟨first + 1, Nat.succ_lt_succ hfirst, hcons.mpr ⟨hcall, hbefore⟩, hinfo, hdelete⟩
    · exact .inr ⟨0, Nat.succ_pos count, fun _ h ↦ absurd h (Nat.not_lt_zero _), hinfo, hdelete⟩

/-! ## One object -/

theorem deleteVisit_all (search : Search) : deleteVisit (-1) search = deleteObject search := by
  rw [deleteVisit, if_pos (.inr rfl), if_neg (fun h ↦ h.1 rfl)]

/-- The information about an object cannot be got. -/
theorem deleteObject_of_info_failed (search : Search)
    (hinfo : search.nvm.failure search.nvm.calls ≠ none) :
    deleteObject search = { search with nvm := search.nvm.called, err := .failed } := by
  have herr : mapNvm3Error (search.nvm.getObjectInfo search.nvm3Key).1 = .failed := by
    rw [Nvm3.getObjectInfo_err, if_pos hinfo]
  simp only [deleteObject, Nvm3.getObjectInfo_nvm, herr]
  rfl

theorem getObjectInfo_of_occupied {search : Search}
    (hinfo : search.nvm.failure search.nvm.calls = none)
    (hoccupied : search.nvm.occupied search.nvm3Key = true) :
    mapNvm3Error (search.nvm.getObjectInfo search.nvm3Key).1 = .none := by
  rw [Nvm3.getObjectInfo_err, if_neg (not_not_intro hinfo), if_pos hoccupied]

/-- An object cannot be removed. -/
theorem deleteObject_of_delete_failed (search : Search)
    (hinfo : search.nvm.failure search.nvm.calls = none)
    (hoccupied : search.nvm.occupied search.nvm3Key = true)
    (hdelete : search.nvm.failure (search.nvm.calls + 1) ≠ none) :
    deleteObject search =
      { search with nvm := search.nvm.called.called, err := .failed, exited := true } := by
  obtain ⟨code, hcode⟩ := Option.ne_none_iff_exists'.mp hdelete
  have hcall : search.nvm.called.deleteObject search.nvm3Key =
      (.err code, search.nvm.called.called) := by
    simp [Nvm3.deleteObject, Nvm3.called, hcode]
  simp only [deleteObject, Nvm3.getObjectInfo_nvm, getObjectInfo_of_occupied hinfo hoccupied,
    if_true, hcall]
  rfl

/-- An object is removed. -/
theorem deleteObject_of_removed (search : Search)
    (hinfo : search.nvm.failure search.nvm.calls = none)
    (hoccupied : search.nvm.occupied search.nvm3Key = true)
    (hdelete : search.nvm.failure (search.nvm.calls + 1) = none) :
    deleteObject search =
      { search with
        nvm := { search.nvm.called.called with objects := search.nvm.without search.nvm3Key }
        err := .none } := by
  obtain ⟨object, hobject⟩ := Option.isSome_iff_exists.mp hoccupied
  have hcall : search.nvm.called.deleteObject search.nvm3Key =
      (.ok, { search.nvm.called.called with objects := search.nvm.without search.nvm3Key }) := by
    simp [Nvm3.deleteObject, Nvm3.called, hdelete, hobject, Nvm3.without]
  simp only [deleteObject, Nvm3.getObjectInfo_nvm, getObjectInfo_of_occupied hinfo hoccupied,
    if_true, hcall]
  rfl

/-! ## All objects -/

theorem RemovesLast.kept_subset {failure : ℕ → Option ℕ} {call next : ℕ} {keys kept : List ℕ}
    (h : RemovesLast failure call keys kept next) : ∀ key ∈ kept, key ∈ keys := by
  induction h with
  | last => exact fun key hkey ↦ absurd hkey List.not_mem_nil
  | removed _ _ _ ih => exact fun key hkey ↦ List.mem_cons_of_mem _ (ih key hkey)
  | kept _ _ ih =>
    intro key hkey
    cases List.mem_cons.mp hkey with
    | inl heq => exact heq ▸ List.mem_cons_self
    | inr hmem => exact List.mem_cons_of_mem _ (ih key hmem)

/-- What is left of the objects of a list of keys when those outside `kept` are removed. -/
structure RemovedBut (keys kept : List ℕ) (nvm nvm' : Nvm3) : Prop where
  removed : ∀ key ∈ keys, key ∉ kept → nvm'.objects key = none
  same : ∀ key, key ∉ keys ∨ key ∈ kept → nvm'.objects key = nvm.objects key

theorem RemovedBut.cons_removed {key : ℕ} {keys kept : List ℕ} {mid : Nvm3}
    (h : RemovedBut keys kept mid nvm') (hmid : mid.objects = nvm.without key)
    (hnew : key ∉ keys) (hkept : key ∉ kept) : RemovedBut (key :: keys) kept nvm nvm' := by
  have hself : nvm'.objects key = none := by
    rw [h.same key (.inl hnew), hmid]
    exact Function.update_self _ _ _
  constructor
  case removed =>
    intro other hother hnotkept
    cases List.mem_cons.mp hother with
    | inl heq => rwa [heq]
    | inr hmem => exact h.removed other hmem hnotkept
  case same =>
    intro other hother
    have hne : other ≠ key := by
      rintro rfl
      exact hother.elim (fun h ↦ h List.mem_cons_self) hkept
    have hrest : other ∉ keys ∨ other ∈ kept :=
      hother.imp_left fun h hmem ↦ h (List.mem_cons_of_mem _ hmem)
    rw [h.same other hrest, hmid]
    exact Function.update_of_ne hne _ _

theorem RemovedBut.cons_kept {key : ℕ} {keys kept : List ℕ} {mid : Nvm3}
    (h : RemovedBut keys kept mid nvm') (hmid : mid.objects = nvm.objects) (hnew : key ∉ keys) :
    RemovedBut (key :: keys) (key :: kept) nvm nvm' := by
  constructor
  case removed =>
    intro other hother hnotkept
    obtain ⟨hne, hnotkept⟩ := not_or.mp (List.mem_cons.not.mp hnotkept)
    exact h.removed other ((List.mem_cons.mp hother).resolve_left hne) hnotkept
  case same =>
    intro other hother
    rw [← hmid]
    apply h.same
    rcases hother with hnotmem | hmem
    · exact .inl fun hmem ↦ hnotmem (List.mem_cons_of_mem _ hmem)
    · cases List.mem_cons.mp hmem with
      | inl heq => exact .inl (heq ▸ hnew)
      | inr hkept => exact .inr hkept

/-- The search behind an object that is kept. -/
def Search.keepAt (search : Search) (key : ℕ) : Search :=
  Search.count { search.moveTo key with nvm := search.nvm.called, err := .failed }

/-- The search behind an object that is removed. -/
def Search.removeAt (search : Search) (key : ℕ) : Search :=
  Search.count { search.moveTo key with
    nvm := { search.nvm.called.called with objects := search.nvm.without key }
    err := .none }

theorem searchKeys_keepAt {key : ℕ} (keys : List ℕ) {search : Search}
    (hrunning : search.stopped = false)
    (hinfo : search.nvm.failure search.nvm.calls ≠ none) :
    searchKeys (deleteVisit (-1)) (key :: keys) search =
      searchKeys (deleteVisit (-1)) keys (search.keepAt key) := by
  have hvisit := deleteObject_of_info_failed (search.moveTo key) hinfo
  rw [← deleteVisit_all] at hvisit
  rw [searchKeys_cons_running (by rw [hvisit]; exact hrunning), hvisit]
  rfl

theorem searchKeys_removeAt {key : ℕ} (keys : List ℕ) {search : Search}
    (hrunning : search.stopped = false)
    (hinfo : search.nvm.failure search.nvm.calls = none)
    (hoccupied : search.nvm.occupied key = true)
    (hdelete : search.nvm.failure (search.nvm.calls + 1) = none) :
    searchKeys (deleteVisit (-1)) (key :: keys) search =
      searchKeys (deleteVisit (-1)) keys (search.removeAt key) := by
  have hvisit := deleteObject_of_removed (search.moveTo key) hinfo hoccupied hdelete
  rw [← deleteVisit_all] at hvisit
  rw [searchKeys_cons_running (by rw [hvisit]; exact hrunning), hvisit]
  rfl

/-- The objects behind a removed one are still there. -/
theorem removeAt_occupied {key : ℕ} {keys : List ℕ} {search : Search} (hnew : key ∉ keys)
    (hkeys : ∀ other ∈ key :: keys, search.nvm.occupied other = true) :
    ∀ other ∈ keys, (search.removeAt key).nvm.occupied other = true := by
  intro other hother
  have hne : other ≠ key := fun h ↦ hnew (h ▸ hother)
  have hobjects : (search.removeAt key).nvm.objects other = search.nvm.objects other :=
    Function.update_of_ne hne _ _
  rw [Nvm3.occupied, hobjects]
  exact hkeys other (List.mem_cons_of_mem _ hother)

/-- A removal under failures that let it go on to the write. -/
theorem searchKeys_of_removesLast {failure : ℕ → Option ℕ} {call next : ℕ} {keys kept : List ℕ}
    (hlast : RemovesLast failure call keys kept next) {search : Search}
    (hrunning : search.stopped = false) (hfailure : search.nvm.failure = failure)
    (hcall : search.nvm.calls = call) (hnodup : keys.Nodup)
    (hkeys : ∀ key ∈ keys, search.nvm.occupied key = true) :
    (searchKeys (deleteVisit (-1)) keys search).err = .none ∧
      (searchKeys (deleteVisit (-1)) keys search).nvm.failure = failure ∧
      (searchKeys (deleteVisit (-1)) keys search).nvm.calls = next ∧
      RemovedBut keys kept search.nvm (searchKeys (deleteVisit (-1)) keys search).nvm := by
  induction hlast generalizing search with
  | @last call key hinfo hdelete =>
    have hnext : (search.removeAt key).nvm.calls = call + 2 := congrArg (· + 2) hcall
    rw [← hfailure, ← hcall] at hinfo hdelete
    rw [searchKeys_removeAt [] hrunning hinfo (hkeys key List.mem_cons_self) hdelete]
    have hnone : RemovedBut [] [] (search.removeAt key).nvm (search.removeAt key).nvm :=
      ⟨fun other hother ↦ absurd hother List.not_mem_nil, fun _ _ ↦ rfl⟩
    exact ⟨rfl, hfailure, hnext, hnone.cons_removed rfl List.not_mem_nil List.not_mem_nil⟩
  | @removed call key keys kept next hinfo hdelete hrest ih =>
    have hnext : (search.removeAt key).nvm.calls = call + 2 := congrArg (· + 2) hcall
    rw [← hfailure, ← hcall] at hinfo hdelete
    obtain ⟨hnew, hnodup⟩ := List.nodup_cons.mp hnodup
    rw [searchKeys_removeAt keys hrunning hinfo (hkeys key List.mem_cons_self) hdelete]
    obtain ⟨herr, hfail, hend, hobjects⟩ :=
      @ih (search.removeAt key) hrunning hfailure hnext hnodup (removeAt_occupied hnew hkeys)
    exact ⟨herr, hfail, hend,
      hobjects.cons_removed rfl hnew fun h ↦ hnew (hrest.kept_subset key h)⟩
  | @kept call key keys kept next hinfo hrest ih =>
    have hnext : (search.keepAt key).nvm.calls = call + 1 := congrArg (· + 1) hcall
    rw [← hfailure, ← hcall] at hinfo
    obtain ⟨hnew, hnodup⟩ := List.nodup_cons.mp hnodup
    rw [searchKeys_keepAt keys hrunning hinfo]
    obtain ⟨herr, hfail, hend, hobjects⟩ := @ih (search.keepAt key) hrunning hfailure hnext hnodup
      fun other hother ↦ hkeys other (List.mem_cons_of_mem _ hother)
    exact ⟨herr, hfail, hend, hobjects.cons_kept rfl hnew⟩

/-- A removal under failures that let it remove nothing. -/
theorem searchKeys_of_removesNone (keys : List ℕ) {search : Search}
    (hrunning : search.stopped = false)
    (hnone : RemovesNone search.nvm.failure search.nvm.calls keys.length)
    (hkeys : ∀ key ∈ keys, search.nvm.occupied key = true) :
    (searchKeys (deleteVisit (-1)) keys search).nvm.objects = search.nvm.objects ∧
      (searchKeys (deleteVisit (-1)) keys search).err =
        if keys = [] then search.err else .failed := by
  induction keys generalizing search with
  | nil => exact ⟨rfl, rfl⟩
  | cons key keys ih =>
    rw [if_neg (List.cons_ne_nil _ _)]
    rcases removesNone_succ.mp hnone with ⟨hinfo, hrest⟩ | ⟨hinfo, hdelete⟩
    · rw [searchKeys_keepAt keys hrunning hinfo]
      obtain ⟨hobjects, herr⟩ := @ih (search.keepAt key) hrunning hrest
        fun other hother ↦ hkeys other (List.mem_cons_of_mem _ hother)
      refine ⟨hobjects, herr.trans ?_⟩
      split <;> rfl
    · have hvisit := deleteObject_of_delete_failed (search.moveTo key) hinfo
        (hkeys key List.mem_cons_self) hdelete
      rw [← deleteVisit_all] at hvisit
      rw [searchKeys_cons_stopped (by rw [hvisit]; simp [Search.stopped]), hvisit]
      exact ⟨rfl, rfl⟩

/-- Under all other failures, the removal removes an object, and fails unless it goes on to the
write. -/
theorem searchKeys_of_not_removesNone (keys : List ℕ) {search : Search}
    (hrunning : search.stopped = false)
    (hsome : ¬ RemovesNone search.nvm.failure search.nvm.calls keys.length) (hnodup : keys.Nodup)
    (hkeys : ∀ key ∈ keys, search.nvm.occupied key = true) :
    (∃ key ∈ keys, (searchKeys (deleteVisit (-1)) keys search).nvm.objects key = none) ∧
      ((∃ kept next, RemovesLast search.nvm.failure search.nvm.calls keys kept next) ∨
        (searchKeys (deleteVisit (-1)) keys search).err = .failed) := by
  induction keys generalizing search with
  | nil => exact absurd (removesNone_zero _ _) hsome
  | cons key keys ih =>
    obtain ⟨hnew, hnodup⟩ := List.nodup_cons.mp hnodup
    rw [List.length_cons, removesNone_succ, not_or, not_and, not_and] at hsome
    by_cases hinfo : search.nvm.failure search.nvm.calls = none
    case neg =>
      rw [searchKeys_keepAt keys hrunning hinfo]
      obtain ⟨⟨removed, hmem, hremoved⟩, hend⟩ :=
        @ih (search.keepAt key) hrunning (hsome.1 hinfo) hnodup
          fun other hother ↦ hkeys other (List.mem_cons_of_mem _ hother)
      refine ⟨⟨removed, List.mem_cons_of_mem _ hmem, hremoved⟩, hend.imp_left ?_⟩
      rintro ⟨kept, next, hlast⟩
      exact ⟨key :: kept, next, .kept hinfo hlast⟩
    case pos =>
      have hdelete := not_not.mp (hsome.2 hinfo)
      have hrest := removeAt_occupied hnew hkeys
      rw [searchKeys_removeAt keys hrunning hinfo (hkeys key List.mem_cons_self) hdelete]
      constructor
      · refine ⟨key, List.mem_cons_self, ?_⟩
        rw [searchKeys_deleteVisit_objects (-1) keys _ hnew]
        exact Function.update_self _ _ _
      · -- The rest of the list may be empty, removed in part, or left alone.
        by_cases hnil : keys = []
        · subst hnil
          exact .inl ⟨[], _, .last hinfo hdelete⟩
        by_cases hnone : RemovesNone (search.removeAt key).nvm.failure
            (search.removeAt key).nvm.calls keys.length
        · have herr :=
            (@searchKeys_of_removesNone keys (search.removeAt key) hrunning hnone hrest).2
          rw [if_neg hnil] at herr
          exact .inr herr
        · apply (@ih (search.removeAt key) hrunning hnone hnodup hrest).2.imp_left
          rintro ⟨kept, next, hlast⟩
          exact ⟨kept, next, .removed hinfo hdelete hlast⟩

/-! ## The write behind the removal -/

/-- `addSetting` writes nothing where it fails. -/
theorem addSetting_objects_of_error {aValue : Option (ℕ → UInt8)} {aValueLength : UInt16}
    (herr : (addSetting config nvm aKey aValue aValueLength).1 ≠ .none) :
    (addSetting config nvm aKey aValue aValueLength).2.objects = nvm.objects := by
  by_cases hinvalid : aValue = none ∨ aValueLength = 0
  case pos => rw [addSetting_invalidArgs hinvalid]
  case neg =>
    obtain ⟨hvalue, hlength⟩ := not_or.mp hinvalid
    obtain ⟨value, rfl⟩ := Option.ne_none_iff_exists'.mp hvalue
    have houtcome := addSetting_outcome config nvm aKey value hlength
    generalize (addSetting config nvm aKey (some value) aValueLength).1 = err at herr houtcome
    generalize (addSetting config nvm aKey (some value) aValueLength).2.objects = objects
      at houtcome ⊢
    cases houtcome with
    | full => rfl
    | failed => rfl
    | added => exact absurd rfl herr

/-- A reader misses a value that was removed. -/
theorem not_sameReads_of_removed (haccess : config.canAccessPal = true)
    (hless : ∀ key, nvm'.objects key = none ∨ nvm'.objects key = nvm.objects key) {key : ℕ}
    (hmem : key ∈ slotKeys config nvm aKey) (hremoved : nvm'.objects key = none) :
    ¬ SameReads config aKey nvm nvm' := by
  intro hsame
  have hslots : slotKeys config nvm' aKey =
      (slotKeys config nvm aKey).filter fun key ↦ !(!nvm'.occupied key) := by
    apply slotKeys_of_removed
    · intro other hother
      simpa [Nvm3.occupied] using hother
    · intro other hother
      apply (hless other).resolve_left
      intro hnone
      simp [Nvm3.occupied, hnone] at hother
  have hlength : (slotKeys config nvm' aKey).length = (slotKeys config nvm aKey).length := by
    rw [← slotValues_length, ← slotValues_length, hsame.slotValues_eq haccess]
  have hsublist : (slotKeys config nvm' aKey).Sublist (slotKeys config nvm aKey) := by
    rw [hslots]
    exact List.filter_sublist
  rw [← hsublist.eq_of_length hlength] at hmem
  have hoccupied := (mem_keysIn.mp hmem).2
  simp [Nvm3.occupied, hremoved] at hoccupied

theorem Nvm3.deleteObject_less (nvm : Nvm3) (key other : ℕ) :
    (nvm.deleteObject key).2.objects other = none ∨
      (nvm.deleteObject key).2.objects other = nvm.objects other := by
  unfold Nvm3.deleteObject
  split
  · exact .inr rfl
  · exact .inr rfl
  · by_cases hother : other = key
    · exact .inl (hother ▸ Function.update_self _ _ _)
    · exact .inr (Function.update_of_ne hother _ _)

theorem deleteObject_less (search : Search) (key : ℕ) :
    (deleteObject search).nvm.objects key = none ∨
      (deleteObject search).nvm.objects key = search.nvm.objects key := by
  unfold deleteObject
  simp only [Nvm3.getObjectInfo_nvm]
  split
  · split <;> exact search.nvm.called.deleteObject_less search.nvm3Key key
  · exact .inr rfl

/-- A removal takes objects away and changes no other. -/
theorem searchKeys_deleteVisit_less (keys : List ℕ) (search : Search) (key : ℕ) :
    (searchKeys (deleteVisit (-1)) keys search).nvm.objects key = none ∨
      (searchKeys (deleteVisit (-1)) keys search).nvm.objects key = search.nvm.objects key := by
  induction keys generalizing search with
  | nil => exact .inr rfl
  | cons head keys ih =>
    have hhead : (deleteVisit (-1) (search.moveTo head)).nvm.objects key = none ∨
        (deleteVisit (-1) (search.moveTo head)).nvm.objects key = search.nvm.objects key := by
      rw [deleteVisit_all]
      exact deleteObject_less (search.moveTo head) key
    cases hstopped : (deleteVisit (-1) (search.moveTo head)).stopped with
    | true =>
      rw [searchKeys_cons_stopped hstopped]
      exact hhead
    | false =>
      rw [searchKeys_cons_running hstopped]
      rcases ih (deleteVisit (-1) (search.moveTo head)).count with hnone | hsame
      · exact .inl hnone
      · rw [hsame]
        exact hhead

/-- The value is valid, and the failures let the removal go on to the write and let the write
succeed: it goes to the first slot that the removal has not kept, behind the questions for the
slots before it. -/
structure WritesBehindRemoval (config : Config) (nvm : Nvm3) (aKey : UInt16)
    (aValue : Option (ℕ → UInt8)) (aValueLength : UInt16) : Prop where
  value : aValue ≠ none
  length : aValueLength ≠ 0
  calls : ∃ kept next slot,
    RemovesLast nvm.failure nvm.calls (slotKeys config nvm aKey) kept next ∧
      (∀ before < slot, makeNvm3ObjKey aKey before ∈ kept) ∧
      makeNvm3ObjKey aKey slot ∉ kept ∧
      ∀ call < slot + 2, nvm.failure (next + call) = none

/-- `otPlatSettingsSet` returns, and if it returns an error, then every read of the key gives what
it gave before. -/
def SetAtomic (config : Config) (nvm : Nvm3) (aKey : UInt16) (aValue : Option (ℕ → UInt8))
    (aValueLength : UInt16) : Prop :=
  ∃ err nvm', otPlatSettingsSet config nvm aKey aValue aValueLength = some (err, nvm') ∧
    (err ≠ .none → SameReads config aKey nvm nvm')

theorem setAtomic_iff_of_eq {aValue : Option (ℕ → UInt8)} {aValueLength : UInt16}
    {result : OtError × Nvm3}
    (hset : otPlatSettingsSet config nvm aKey aValue aValueLength = some result) :
    SetAtomic config nvm aKey aValue aValueLength ↔
      (result.1 ≠ .none → SameReads config aKey nvm result.2) := by
  constructor
  · rintro ⟨err, nvm', hset', hsame⟩
    rw [hset] at hset'
    cases hset'
    exact hsame
  · exact fun h ↦ ⟨result.1, result.2, hset, h⟩

/-- A removal without errors goes on to the write. -/
theorem otPlatSettingsSet_of_removed (haccess : config.canAccessPal = true)
    (aValue : Option (ℕ → UInt8)) (aValueLength : UInt16)
    (herr : (deletePass config nvm aKey (-1)).err = .none ∨
      (deletePass config nvm aKey (-1)).err = .notFound) :
    otPlatSettingsSet config nvm aKey aValue aValueLength =
      some (addSetting config (deletePass config nvm aKey (-1)).nvm aKey aValue aValueLength) := by
  rw [otPlatSettingsSet, haccess, if_pos rfl, otPlatSettingsDelete_eq_deletePass haccess,
    Option.map_some]
  exact congrArg some (if_pos herr)

theorem otPlatSettingsSet_of_failed (haccess : config.canAccessPal = true)
    (aValue : Option (ℕ → UInt8)) (aValueLength : UInt16)
    (herr : (deletePass config nvm aKey (-1)).err = .failed) :
    otPlatSettingsSet config nvm aKey aValue aValueLength =
      some (.failed, (deletePass config nvm aKey (-1)).nvm) := by
  rw [otPlatSettingsSet, haccess, if_pos rfl, otPlatSettingsDelete_eq_deletePass haccess,
    Option.map_some, herr]
  rfl

theorem deletePass_of_removesNone
    (hnone : RemovesNone nvm.failure nvm.calls (slotKeys config nvm aKey).length) :
    (deletePass config nvm aKey (-1)).nvm.objects = nvm.objects ∧
      (deletePass config nvm aKey (-1)).err =
        if slotKeys config nvm aKey = [] then .notFound else .failed :=
  @searchKeys_of_removesNone _ { nvm, nvm3Key := makeNvm3ObjKey aKey 0 } rfl hnone
    fun _ hmem ↦ (mem_keysIn.mp hmem).2

theorem deletePass_of_removesLast {kept : List ℕ} {next : ℕ}
    (hlast : RemovesLast nvm.failure nvm.calls (slotKeys config nvm aKey) kept next) :
    (deletePass config nvm aKey (-1)).err = .none ∧
      (deletePass config nvm aKey (-1)).nvm.failure = nvm.failure ∧
      (deletePass config nvm aKey (-1)).nvm.calls = next ∧
      RemovedBut (slotKeys config nvm aKey) kept nvm (deletePass config nvm aKey (-1)).nvm :=
  @searchKeys_of_removesLast _ _ _ _ _ hlast { nvm, nvm3Key := makeNvm3ObjKey aKey 0 } rfl rfl rfl
    slotKeys_nodup fun _ hmem ↦ (mem_keysIn.mp hmem).2

theorem deletePass_of_not_removesNone
    (hsome : ¬ RemovesNone nvm.failure nvm.calls (slotKeys config nvm aKey).length) :
    (∃ key ∈ slotKeys config nvm aKey, (deletePass config nvm aKey (-1)).nvm.objects key = none) ∧
      ((∃ kept next,
          RemovesLast nvm.failure nvm.calls (slotKeys config nvm aKey) kept next) ∨
        (deletePass config nvm aKey (-1)).err = .failed) :=
  @searchKeys_of_not_removesNone _ { nvm, nvm3Key := makeNvm3ObjKey aKey 0 } rfl hsome
    slotKeys_nodup fun _ hmem ↦ (mem_keysIn.mp hmem).2

theorem deletePass_less (key : ℕ) :
    (deletePass config nvm aKey (-1)).nvm.objects key = none ∨
      (deletePass config nvm aKey (-1)).nvm.objects key = nvm.objects key :=
  searchKeys_deleteVisit_less _ _ key

/-- An error behind a removal that removed nothing. -/
theorem setAtomic_of_removesNone (haccess : config.canAccessPal = true)
    (aValue : Option (ℕ → UInt8)) (aValueLength : UInt16)
    (hnone : RemovesNone nvm.failure nvm.calls (slotKeys config nvm aKey).length) :
    SetAtomic config nvm aKey aValue aValueLength := by
  obtain ⟨hobjects, herr⟩ := deletePass_of_removesNone hnone
  by_cases hempty : slotKeys config nvm aKey = []
  · rw [if_pos hempty] at herr
    rw [setAtomic_iff_of_eq (otPlatSettingsSet_of_removed haccess aValue aValueLength (.inr herr))]
    intro hadd
    apply sameReads_of_objects_eq
    rw [addSetting_objects_of_error hadd]
    exact hobjects
  · rw [if_neg hempty] at herr
    rw [setAtomic_iff_of_eq (otPlatSettingsSet_of_failed haccess aValue aValueLength herr)]
    exact fun _ ↦ sameReads_of_objects_eq hobjects

/-- Readers notice an error behind a removal that removed something. -/
theorem not_sameReads_deletePass (haccess : config.canAccessPal = true)
    (hobjects : nvm'.objects = (deletePass config nvm aKey (-1)).nvm.objects)
    {key : ℕ} (hmem : key ∈ slotKeys config nvm aKey)
    (hremoved : (deletePass config nvm aKey (-1)).nvm.objects key = none) :
    ¬ SameReads config aKey nvm nvm' := by
  rw [← hobjects] at hremoved
  apply not_sameReads_of_removed haccess _ hmem hremoved
  intro other
  rw [hobjects]
  exact deletePass_less other

/-- Behind a removal that kept some objects, the slots up to one that is not kept are occupied
exactly where they are kept. -/
theorem slotOccupied_iff_kept {kept : List ℕ} {slot removed : ℕ}
    (hbut : RemovedBut (slotKeys config nvm aKey) kept nvm nvm')
    (hkept : ∀ key ∈ kept, key ∈ slotKeys config nvm aKey)
    (hremoved : removed ≤ config.numIndexedSettings % 2 ^ 8) (hslot : slot ≤ removed) :
    nvm'.slotOccupied aKey slot = true ↔ makeNvm3ObjKey aKey slot ∈ kept := by
  have hmod := Nat.mod_lt config.numIndexedSettings (show 0 < 2 ^ 8 by decide)
  constructor
  · intro hoccupied
    by_contra hnot
    rw [Nvm3.slotOccupied, Nvm3.occupied] at hoccupied
    by_cases hmem : makeNvm3ObjKey aKey slot ∈ slotKeys config nvm aKey
    · rw [hbut.removed _ hmem hnot] at hoccupied
      exact Bool.false_ne_true hoccupied
    · rw [hbut.same _ (.inl hmem)] at hoccupied
      refine hmem (mem_keysIn.mpr ⟨⟨?_, ?_⟩, hoccupied⟩)
      · rw [makeNvm3ObjKey_add aKey slot]
        exact Nat.le_add_right _ _
      · rw [makeNvm3ObjKey_add aKey config.numIndexedSettings,
          makeNvm3ObjKey_of_le aKey (show slot ≤ 0xFF by omega)]
        omega
  · intro hmem
    rw [Nvm3.slotOccupied, Nvm3.occupied, hbut.same _ (.inr hmem)]
    exact (mem_keysIn.mp (hkept _ hmem)).2

/-- Behind a removal that goes on to the write, an error is one of the value or of a call that
fails. -/
theorem setAtomic_iff_of_removesLast (haccess : config.canAccessPal = true)
    {aValue : Option (ℕ → UInt8)} {aValueLength : UInt16} {kept : List ℕ} {next : ℕ}
    (hlast : RemovesLast nvm.failure nvm.calls (slotKeys config nvm aKey) kept next)
    (hsome : ¬ RemovesNone nvm.failure nvm.calls (slotKeys config nvm aKey).length) :
    SetAtomic config nvm aKey aValue aValueLength ↔
      aValue ≠ none ∧ aValueLength ≠ 0 ∧ ∃ slot,
        (∀ before < slot, makeNvm3ObjKey aKey before ∈ kept) ∧
          makeNvm3ObjKey aKey slot ∉ kept ∧
          ∀ call < slot + 2, nvm.failure (next + call) = none := by
  obtain ⟨herr, hfailure, hcalls, hbut⟩ := deletePass_of_removesLast hlast
  obtain ⟨⟨key, hmem, hgone⟩, -⟩ := deletePass_of_not_removesNone hsome
  obtain ⟨removed, hremoved, rfl⟩ := exists_slot_of_mem_slotKeys hmem
  rw [setAtomic_iff_of_eq (otPlatSettingsSet_of_removed haccess aValue aValueLength (.inl herr))]
  have hmodle : config.numIndexedSettings % 2 ^ 8 ≤ config.numIndexedSettings := Nat.mod_le _ _
  have hiff : ∀ slot ≤ removed,
      (deletePass config nvm aKey (-1)).nvm.slotOccupied aKey slot = true ↔
        makeNvm3ObjKey aKey slot ∈ kept := fun slot hslot ↦
    slotOccupied_iff_kept hbut hlast.kept_subset hremoved hslot
  have hfree : (deletePass config nvm aKey (-1)).nvm.slotOccupied aKey removed = false := by
    rw [Nvm3.slotOccupied, Nvm3.occupied, hgone]
    rfl
  have herror :
      ((addSetting config (deletePass config nvm aKey (-1)).nvm aKey aValue aValueLength).1 ≠
          .none →
        SameReads config aKey nvm
          (addSetting config (deletePass config nvm aKey (-1)).nvm aKey aValue aValueLength).2) ↔
      (addSetting config (deletePass config nvm aKey (-1)).nvm aKey aValue aValueLength).1 =
        .none := by
    constructor
    · intro h
      by_contra hadd
      exact not_sameReads_deletePass haccess (addSetting_objects_of_error hadd) hmem hgone (h hadd)
    · exact fun h hadd ↦ absurd h hadd
  rw [herror]
  by_cases hinvalid : aValue = none ∨ aValueLength = 0
  case pos =>
    rw [addSetting_invalidArgs hinvalid]
    apply iff_of_false
    · exact fun h ↦ OtError.noConfusion h
    · exact fun h ↦ hinvalid.elim h.1 h.2.1
  case neg =>
    obtain ⟨hvalue, hlength⟩ := not_or.mp hinvalid
    obtain ⟨value, rfl⟩ := Option.ne_none_iff_exists'.mp hvalue
    rw [addSetting_eq_none_iff (hremoved.trans hmodle) hfree value hlength]
    unfold Nvm3.CallsSucceed
    rw [hfailure, hcalls]
    constructor
    · rintro ⟨slot, hslot, hoccupied, hslotfree, hsucceed⟩
      refine ⟨hvalue, hlength, slot, fun before hbefore ↦ ?_, ?_, hsucceed⟩
      · exact (hiff before (by omega)).mp (hoccupied before hbefore)
      · rw [← hiff slot hslot, hslotfree]
        exact Bool.false_ne_true
    · rintro ⟨-, -, slot, hbefore, hslotkept, hsucceed⟩
      have hslot : slot ≤ removed := by
        by_contra hlt
        have hkept := (hiff removed (Nat.le_refl _)).mpr (hbefore removed (by omega))
        exact Bool.false_ne_true (hfree.symm.trans hkept)
      refine ⟨slot, hslot, fun before hlt ↦ ?_, ?_, hsucceed⟩
      · exact (hiff before (by omega)).mpr (hbefore before hlt)
      · rw [← Bool.not_eq_true, hiff slot hslot]
        exact hslotkept

/-- An error of `otPlatSettingsSet` leaves the key as it was exactly if the caller has no access,
the removal removes nothing, or the write succeeds, so that there is no error. -/
theorem setAtomic_iff (aValue : Option (ℕ → UInt8)) (aValueLength : UInt16) :
    SetAtomic config nvm aKey aValue aValueLength ↔
      config.canAccessPal = false ∨
        RemovesNone nvm.failure nvm.calls (slotKeys config nvm aKey).length ∨
        WritesBehindRemoval config nvm aKey aValue aValueLength := by
  cases haccess : config.canAccessPal with
  | false =>
    have hset : otPlatSettingsSet config nvm aKey aValue aValueLength = some (.rejected, nvm) := by
      rw [otPlatSettingsSet, haccess, if_neg Bool.false_ne_true]
    rw [setAtomic_iff_of_eq hset]
    exact iff_of_true (fun _ ↦ sameReads_of_objects_eq rfl) (.inl rfl)
  | true =>
    by_cases hnone : RemovesNone nvm.failure nvm.calls (slotKeys config nvm aKey).length
    · exact iff_of_true (setAtomic_of_removesNone haccess aValue aValueLength hnone)
        (.inr (.inl hnone))
    have hcondition : (true = false ∨
        RemovesNone nvm.failure nvm.calls (slotKeys config nvm aKey).length ∨
        WritesBehindRemoval config nvm aKey aValue aValueLength) ↔
          WritesBehindRemoval config nvm aKey aValue aValueLength := by
      simp [hnone]
    rw [hcondition]
    constructor
    · intro hatomic
      obtain ⟨⟨key, hmem, hgone⟩, ⟨kept, next, hlast⟩ | herr⟩ := deletePass_of_not_removesNone hnone
      · obtain ⟨hvalue, hlength, slot, hcalls⟩ :=
          (setAtomic_iff_of_removesLast haccess hlast hnone).mp hatomic
        exact ⟨hvalue, hlength, kept, next, slot, hlast, hcalls⟩
      · rw [setAtomic_iff_of_eq (otPlatSettingsSet_of_failed haccess aValue aValueLength herr)]
          at hatomic
        exact absurd (hatomic (by simp)) (not_sameReads_deletePass haccess rfl hmem hgone)
    · rintro ⟨hvalue, hlength, kept, next, slot, hlast, hcalls⟩
      exact (setAtomic_iff_of_removesLast haccess hlast hnone).mpr ⟨hvalue, hlength, slot, hcalls⟩

/-- One value is stored under a key. -/
def oneValueStore : Nvm3 where
  objects := Function.update (fun _ ↦ none) 0x20500 (some (bytesOf (fun _ ↦ 7) 1))

/-- The value is lost to a call without a value. -/
theorem not_setAtomic_nullPointer :
    ¬ SetAtomic { numIndexedSettings := 10 } oneValueStore 5 none 4 := by
  have hslots : slotKeys { numIndexedSettings := 10 } oneValueStore 5 = [0x20500] := by decide
  have hlast : RemovesLast oneValueStore.failure oneValueStore.calls
      (slotKeys { numIndexedSettings := 10 } oneValueStore 5) [] 2 := by
    rw [hslots]
    exact .last rfl rfl
  have hsome : ¬ RemovesNone oneValueStore.failure oneValueStore.calls
      (slotKeys { numIndexedSettings := 10 } oneValueStore 5).length := by
    rw [hslots]
    rintro (hall | ⟨first, -, -, -, hdelete⟩)
    · exact hall 0 (by decide) rfl
    · exact hdelete rfl
  rw [setAtomic_iff_of_removesLast rfl hlast hsome]
  exact fun h ↦ h.1 rfl

end OtEfr32.Settings
