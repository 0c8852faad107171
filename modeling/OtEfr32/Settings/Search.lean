import OtEfr32.Settings.Flash

/-!
# The paged search

`otPlatSettingsGet` and `otPlatSettingsDelete` search the slots of a key in pages.  This module
removes the pages: for every visitor that changes no slot behind the one it visits, the paged
search ends and does what one pass over the complete list of occupied slots does.
-/

namespace OtEfr32.Settings

open Transition Data

/-- What the settings functions read from their local variables after the loop. -/
def Search.outcome (search : Search) : Nvm3 × OtError × ℕ × Option (List UInt8) :=
  (search.nvm, search.err, search.valueLength, search.aValue)

/-- What the loop relies on: a visit leaves the loop variables alone, and the slots behind the
visited one as they are. -/
structure VisitFrame (visit : Search → Search) : Prop where
  nvm3Key : ∀ search, (visit search).nvm3Key = search.nvm3Key
  idx : ∀ search, (visit search).idx = search.idx
  behind : ∀ search key, search.nvm3Key < key →
    (visit search).nvm.occupied key = search.nvm.occupied key

variable {visit : Search → Search}

/-! ## One pass over a list of keys -/

@[simp]
theorem Search.moveTo_stopped (search : Search) (key : ℕ) :
    (search.moveTo key).stopped = search.stopped := rfl

theorem searchKeys_cons_stopped {key : ℕ} {keys : List ℕ} {search : Search}
    (h : (visit (search.moveTo key)).stopped = true) :
    searchKeys visit (key :: keys) search = visit (search.moveTo key) :=
  if_pos h

theorem searchKeys_cons_running {key : ℕ} {keys : List ℕ} {search : Search}
    (h : (visit (search.moveTo key)).stopped = false) :
    searchKeys visit (key :: keys) search =
      searchKeys visit keys (visit (search.moveTo key)).count :=
  if_neg (by simp [h])

/-- A pass over two lists is a pass over the first, and then over the second unless it stopped. -/
theorem searchKeys_append (front back : List ℕ) {search : Search}
    (hrunning : search.stopped = false) :
    searchKeys visit (front ++ back) search =
      if (searchKeys visit front search).stopped then searchKeys visit front search
      else searchKeys visit back (searchKeys visit front search) := by
  induction front generalizing search with
  | nil => simp [searchKeys, hrunning]
  | cons key front ih =>
    cases hvisit : (visit (search.moveTo key)).stopped with
    | true =>
      rw [List.cons_append, searchKeys_cons_stopped hvisit, searchKeys_cons_stopped hvisit, hvisit]
      rfl
    | false =>
      rw [List.cons_append, searchKeys_cons_running hvisit, searchKeys_cons_running hvisit]
      exact ih hvisit

/-- The key at which a pass starts is overwritten by the first visit. -/
theorem searchKeys_outcome_moveTo (keys : List ℕ) (search : Search) (key : ℕ) :
    (searchKeys visit keys (search.moveTo key)).outcome =
      (searchKeys visit keys search).outcome := by
  cases keys <;> rfl

/-- A pass that does not stop counts its keys, and leaves everything behind them as it was. -/
theorem searchKeys_running (hframe : VisitFrame visit) (keys : List ℕ) {search : Search}
    (hrunning : (searchKeys visit keys search).stopped = false) :
    (searchKeys visit keys search).idx = search.idx + keys.length ∧
      ∀ key, (∀ visited ∈ keys, visited < key) →
        (searchKeys visit keys search).nvm.occupied key = search.nvm.occupied key := by
  induction keys generalizing search with
  | nil => exact ⟨rfl, fun _ _ ↦ rfl⟩
  | cons head keys ih =>
    cases hvisit : (visit (search.moveTo head)).stopped with
    | true =>
      rw [searchKeys_cons_stopped hvisit, hvisit] at hrunning
      exact absurd hrunning (by simp)
    | false =>
      rw [searchKeys_cons_running hvisit] at hrunning ⊢
      obtain ⟨hidx, hbehind⟩ := ih hrunning
      constructor
      · have hcount : (visit (search.moveTo head)).count.idx = search.idx + 1 :=
          congrArg (· + 1) (hframe.idx _)
        rw [hidx, hcount, List.length_cons]
        omega
      · intro key hkeys
        rw [hbehind key fun visited hvisited ↦ hkeys visited (List.mem_cons_of_mem _ hvisited)]
        exact hframe.behind _ key (hkeys head List.mem_cons_self)

/-- A pass that does not stop ends at its last key. -/
theorem searchKeys_running_nvm3Key (hframe : VisitFrame visit) (front : List ℕ) {key : ℕ}
    {search : Search} (hrunning : (searchKeys visit (front ++ [key]) search).stopped = false) :
    (searchKeys visit (front ++ [key]) search).nvm3Key = key := by
  induction front generalizing search with
  | nil =>
    rw [List.nil_append] at hrunning ⊢
    cases hvisit : (visit (search.moveTo key)).stopped with
    | true =>
      rw [searchKeys_cons_stopped hvisit]
      exact hframe.nvm3Key _
    | false =>
      rw [searchKeys_cons_running hvisit]
      exact hframe.nvm3Key _
  | cons head front ih =>
    rw [List.cons_append] at hrunning ⊢
    cases hvisit : (visit (search.moveTo head)).stopped with
    | true =>
      rw [searchKeys_cons_stopped hvisit, hvisit] at hrunning
      exact absurd hrunning (by simp)
    | false =>
      rw [searchKeys_cons_running hvisit] at hrunning ⊢
      exact ih hrunning

/-! ## The paged loop -/

variable {config : Config} {aKey : UInt16}

/-- The occupied slots that a search has still to visit. -/
def Search.remaining (config : Config) (aKey : UInt16) (search : Search) : List ℕ :=
  keysIn search.nvm.occupied search.nvm3Key (makeNvm3ObjKey aKey config.numIndexedSettings)

/-- Between two rounds, the search is over with the outcome `target`, or a pass over the remaining
slots would give that outcome. -/
structure SearchInvariant (config : Config) (aKey : UInt16) (visit : Search → Search)
    (target : Nvm3 × OtError × ℕ × Option (List UInt8)) (search : Search) : Prop where
  ended : search.stopped = true → search.outcome = target
  running : search.stopped = false →
    (search.remaining config aKey).length + search.idx ≤ config.numIndexedSettings + 1 ∧
      (searchKeys visit (search.remaining config aKey) search).outcome = target

/-- A bound on the rounds that the search still makes. -/
def Search.roundsLeft (config : Config) (search : Search) : ℕ :=
  if search.stopped then 0 else config.numIndexedSettings + 2 - search.idx

theorem SearchInvariant.of_stopped {target : Nvm3 × OtError × ℕ × Option (List UInt8)}
    {search : Search} (hstopped : search.stopped = true) (houtcome : search.outcome = target) :
    SearchInvariant config aKey visit target search :=
  ⟨fun _ ↦ houtcome, fun h ↦ absurd (h.symm.trans hstopped) Bool.false_ne_true⟩

theorem Search.roundsLeft_of_stopped {search : Search} (hstopped : search.stopped = true) :
    search.roundsLeft config = 0 := if_pos hstopped

theorem Search.roundsLeft_of_running {search : Search} (hrunning : search.stopped = false) :
    search.roundsLeft config = config.numIndexedSettings + 2 - search.idx :=
  if_neg (by simp [hrunning])

theorem searchRound_eq {search : Search} {keys : List ℕ}
    (hkeys : (search.remaining config aKey).take enumNvm3KeyListSize = keys) :
    searchRound config aKey visit search =
      if (searchKeys visit keys search).exited then searchKeys visit keys search
      else if keys.length < enumNvm3KeyListSize then
        { searchKeys visit keys search with exited := true }
      else (searchKeys visit keys search).moveTo ((searchKeys visit keys search).nvm3Key + 1) := by
  subst hkeys
  rfl

/-- A round is over when its page stops the search, or is not full. -/
theorem searchRound_over (visit : Search → Search) {search : Search} {keys : List ℕ}
    (hkeys : (search.remaining config aKey).take enumNvm3KeyListSize = keys)
    (hover : (searchKeys visit keys search).stopped = true ∨
      keys.length < enumNvm3KeyListSize) :
    (searchRound config aKey visit search).stopped = true ∧
      (searchRound config aKey visit search).outcome =
        (searchKeys visit keys search).outcome := by
  rw [searchRound_eq hkeys]
  split
  case isTrue hexited => exact ⟨by simp [Search.stopped, hexited], rfl⟩
  case isFalse =>
    split
    case isTrue => exact ⟨by simp [Search.stopped], rfl⟩
    case isFalse hfull => exact ⟨hover.resolve_right hfull, rfl⟩

/-- A round with a full page that does not stop the search goes on behind its last key. -/
theorem searchRound_full {search : Search} {keys : List ℕ}
    (hkeys : (search.remaining config aKey).take enumNvm3KeyListSize = keys)
    (hrunning : (searchKeys visit keys search).stopped = false)
    (hfull : ¬ keys.length < enumNvm3KeyListSize) :
    searchRound config aKey visit search =
      (searchKeys visit keys search).moveTo ((searchKeys visit keys search).nvm3Key + 1) := by
  have hexited := (Bool.or_eq_false_iff.mp hrunning).2
  rw [searchRound_eq hkeys, hexited, if_neg Bool.false_ne_true, if_neg hfull]

/-- What remains behind a full page. -/
theorem remaining_after_page (hframe : VisitFrame visit) {search : Search} {front rest : List ℕ}
    {key : ℕ} (hsplit : search.remaining config aKey = front ++ key :: rest)
    (hrunning : (searchKeys visit (front ++ [key]) search).stopped = false) :
    ((searchKeys visit (front ++ [key]) search).moveTo
      ((searchKeys visit (front ++ [key]) search).nvm3Key + 1)).remaining config aKey = rest := by
  have hbefore : ∀ visited ∈ front ++ [key], visited ≤ key := by
    have hsorted : (search.remaining config aKey).Pairwise (· < ·) := keysIn_pairwise
    rw [hsplit, List.pairwise_append] at hsorted
    intro visited hvisited
    rcases List.mem_append.mp hvisited with hfront | hlast
    · exact Nat.le_of_lt (hsorted.2.2 visited hfront key List.mem_cons_self)
    · exact Nat.le_of_eq (List.mem_singleton.mp hlast)
  have hbehind := (searchKeys_running hframe _ hrunning).2
  unfold Search.remaining Search.moveTo
  simp only [searchKeys_running_nvm3Key hframe front hrunning]
  refine (keysIn_congr fun other hother _ ↦ ?_).trans (keysIn_after hsplit)
  exact hbehind other fun visited hvisited ↦
    Nat.lt_of_le_of_lt (hbefore visited hvisited) hother

/-- A round of a search that is not over keeps the invariant and uses up a round. -/
theorem searchRound_invariant (hframe : VisitFrame visit)
    {target : Nvm3 × OtError × ℕ × Option (List UInt8)} {search : Search}
    (hinv : SearchInvariant config aKey visit target search)
    (htest : searchGoesOn config search = true) :
    SearchInvariant config aKey visit target (searchRound config aKey visit search) ∧
      (searchRound config aKey visit search).roundsLeft config < search.roundsLeft config := by
  obtain ⟨hidx, hrunning⟩ : search.idx ≤ config.numIndexedSettings ∧ search.stopped = false := by
    simpa [searchGoesOn] using htest
  obtain ⟨hlength, htarget⟩ := hinv.running hrunning
  obtain ⟨keys, hkeys⟩ :
      ∃ keys, (search.remaining config aKey).take enumNvm3KeyListSize = keys := ⟨_, rfl⟩
  obtain ⟨rest, hrest⟩ :
      ∃ rest, (search.remaining config aKey).drop enumNvm3KeyListSize = rest := ⟨_, rfl⟩
  have hsplit : search.remaining config aKey = keys ++ rest := by
    rw [← hkeys, ← hrest, List.take_append_drop]
  rw [hsplit, searchKeys_append _ _ hrunning] at htarget
  rw [Search.roundsLeft_of_running hrunning]
  by_cases hpage : (searchKeys visit keys search).stopped = true
  · rw [if_pos hpage] at htarget
    obtain ⟨hstopped, houtcome⟩ := searchRound_over visit hkeys (.inl hpage)
    refine ⟨.of_stopped hstopped (houtcome.trans htarget), ?_⟩
    rw [Search.roundsLeft_of_stopped hstopped]
    omega
  · rw [if_neg hpage] at htarget
    rw [Bool.not_eq_true] at hpage
    by_cases hfull : keys.length < enumNvm3KeyListSize
    · obtain ⟨hstopped, houtcome⟩ := searchRound_over visit hkeys (.inr hfull)
      have hnil : rest = [] := by
        rw [← hkeys, List.length_take] at hfull
        rw [← hrest, List.drop_eq_nil_iff]
        omega
      rw [hnil] at htarget
      refine ⟨.of_stopped hstopped (houtcome.trans htarget), ?_⟩
      rw [Search.roundsLeft_of_stopped hstopped]
      omega
    · obtain ⟨front, key, rfl⟩ : ∃ front key, keys = front ++ [key] := by
        rcases List.eq_nil_or_concat keys with rfl | ⟨front, key, h⟩
        · exact absurd (by decide) hfull
        · exact ⟨front, key, by simpa using h⟩
      have hround := searchRound_full hkeys hpage hfull
      have hpagesplit : search.remaining config aKey = front ++ key :: rest := by
        simpa using hsplit
      have hremaining := remaining_after_page hframe hpagesplit hpage
      have hcount := (searchKeys_running hframe _ hpage).1
      have hround_running : (searchRound config aKey visit search).stopped = false := by
        rw [hround, Search.moveTo_stopped, hpage]
      have hround_idx : (searchRound config aKey visit search).idx =
          search.idx + (front ++ [key]).length := by
        rw [hround]
        exact hcount
      refine ⟨⟨fun h ↦ absurd (h.symm.trans hround_running) (by simp), fun _ ↦ ?_⟩, ?_⟩
      · rw [hround_idx, hround, hremaining, searchKeys_outcome_moveTo]
        refine ⟨?_, htarget⟩
        rw [hsplit, List.length_append] at hlength
        omega
      · rw [Search.roundsLeft_of_running hround_running, hround_idx, List.length_append,
          List.length_singleton]
        omega

/-- The paged search ends, and has the outcome of one pass over the occupied slots. -/
theorem searchIndex_outcome (hframe : VisitFrame visit) {search : Search}
    (hrunning : search.stopped = false)
    (hslots : (search.remaining config aKey).length + search.idx ≤
      config.numIndexedSettings + 1) :
    ∃ final, searchIndex config aKey visit search = some final ∧
      final.outcome = (searchKeys visit (search.remaining config aKey) search).outcome := by
  have hinit : SearchInvariant config aKey visit
      (searchKeys visit (search.remaining config aKey) search).outcome search :=
    ⟨fun h ↦ absurd (h.symm.trans hrunning) (by simp), fun _ ↦ ⟨hslots, rfl⟩⟩
  obtain ⟨final, hfinal, hinv, htest⟩ := whileLoop_rule (Search.roundsLeft config)
    (config.numIndexedSettings + 3)
    (fun _ hinv htest ↦ searchRound_invariant hframe hinv htest) hinit
    (by rw [Search.roundsLeft_of_running hrunning]; omega)
  refine ⟨final, hfinal, ?_⟩
  cases hover : final.stopped with
  | true => exact hinv.ended hover
  | false =>
    -- The loop condition failed on the count alone, so that no slot remains.
    obtain ⟨hlength, houtcome⟩ := hinv.running hover
    have hidx : config.numIndexedSettings < final.idx := by
      simpa [searchGoesOn, hover] using htest
    have hnil : final.remaining config aKey = [] := List.eq_nil_of_length_eq_zero (by omega)
    rw [hnil] at houtcome
    exact houtcome

end OtEfr32.Settings
