import OtEfr32.Radio.SourceMatchRuns
import OtEfr32.Transition.Runs
import Mathlib.Data.List.Nodup

/-!
# The short source match table is a set

An entry keeps the PAN id of the time it was written.  While the PAN id of the instance does not
change, the checksums in the table are those of the addresses present, each once, and the table is
an exact set.  A new PAN id leaves the entries as they are, so that they then stand for other
addresses; `shortMatchLaw_iff` says when no harm is done.
-/

namespace OtEfr32.Radio

open Data Transition

/-! ## The law -/

/-- The short table of an instance is the set of the addresses present. -/
structure ShortMatchLaw (config : Config) (shortEntryNum iid : ℕ) (state : SourceMatchState) :
    Prop where
  /-- Each address is recorded once, so that the record can be counted. -/
  nodup : (state.presentShort iid).Nodup
  find_iff : ∀ address,
    (state.table.utilsSoftSrcMatchShortFindEntry config iid address).isSome = true ↔
      address ∈ state.presentShort iid
  clear_present : ∀ address ∈ state.presentShort iid,
    (state.table.otPlatRadioClearSrcMatchShortEntry config iid address).1 = .none
  add_noBufs : ∀ address ∉ state.presentShort iid,
    (state.table.otPlatRadioAddSrcMatchShortEntry config iid address).1 = .noBufs →
      (state.presentShort iid).length = shortEntryNum

/-- The instance adds only addresses that are not present, and clears only such that are. -/
def ShortMatchContract (iid : ℕ) (state : SourceMatchState) (label : ℕ × SourceMatchCall) : Prop :=
  match label.2 with
  | .otPlatRadioAddSrcMatchShortEntry address =>
    label.1 = iid → address ∉ state.presentShort iid
  | .otPlatRadioClearSrcMatchShortEntry address =>
    label.1 = iid → address ∈ state.presentShort iid
  | _ => True

/-- A new PAN id of the instance: the set of the addresses present contains each of them shifted
by the difference of the PAN ids. -/
def ShortMatchCondition (config : Config) (iid : ℕ) (state : SourceMatchState)
    (label : ℕ × SourceMatchCall) : Prop :=
  match label.2 with
  | .otPlatRadioSetPanId aPanId =>
    label.1 = iid → config.canAccessPal = true → ∀ address ∈ state.presentShort iid,
      address + (aPanId - state.table.sPanId (SourceMatch.panIndexOf config iid)) ∈
        state.presentShort iid
  | _ => True

instance (iid : ℕ) : DecidableRel (ShortMatchContract iid)
  | state, (caller, .otPlatRadioAddSrcMatchShortEntry address) =>
    inferInstanceAs (Decidable (caller = iid → address ∉ state.presentShort iid))
  | state, (caller, .otPlatRadioClearSrcMatchShortEntry address) =>
    inferInstanceAs (Decidable (caller = iid → address ∈ state.presentShort iid))
  | _, (_, .otPlatRadioSetPanId _) | _, (_, .otPlatRadioClearSrcMatchShortEntries)
  | _, (_, .otPlatRadioAddSrcMatchExtEntry _) | _, (_, .otPlatRadioClearSrcMatchExtEntry _)
  | _, (_, .otPlatRadioClearSrcMatchExtEntries) => .isTrue trivial

instance (config : Config) (iid : ℕ) : DecidableRel (ShortMatchCondition config iid)
  | state, (caller, .otPlatRadioSetPanId aPanId) =>
    -- The quantifier is over the list, and not over all addresses.
    letI : Decidable (∀ address ∈ state.presentShort iid,
        address + (aPanId - state.table.sPanId (SourceMatch.panIndexOf config iid)) ∈
          state.presentShort iid) := List.decidableBAll ..
    inferInstanceAs (Decidable (caller = iid → config.canAccessPal = true → _))
  | _, (_, .otPlatRadioAddSrcMatchShortEntry _) | _, (_, .otPlatRadioClearSrcMatchShortEntry _)
  | _, (_, .otPlatRadioClearSrcMatchShortEntries) | _, (_, .otPlatRadioAddSrcMatchExtEntry _)
  | _, (_, .otPlatRadioClearSrcMatchExtEntry _) | _, (_, .otPlatRadioClearSrcMatchExtEntries) =>
    .isTrue trivial

/-! ## One table of one instance -/

namespace MatchView

variable {view : MatchView UInt16} {shortEntryNum : ℕ} {address : UInt16}
  (multipan : Bool)

/-- The table holds the checksums of the addresses present, each once. -/
structure Exact (shortEntryNum : ℕ) (view : MatchView UInt16) : Prop where
  nodup : view.present.Nodup
  length : view.entries.length = shortEntryNum
  held : (heldChecksums view.entries).Perm (view.checksums shortChecksum)

theorem shortChecksum_injective (panId : UInt16) : Function.Injective (shortChecksum panId) :=
  fun _ _ heq ↦ (UInt16.add_left_inj panId).mp heq

theorem Exact.mem_held_iff (h : view.Exact shortEntryNum) :
    shortChecksum view.panId address ∈ heldChecksums view.entries ↔ address ∈ view.present := by
  rw [h.held.mem_iff]
  exact List.mem_map_of_injective (shortChecksum_injective view.panId)

theorem Exact.isSome_find_iff (h : view.Exact shortEntryNum) :
    (view.find shortChecksum address).isSome = true ↔ address ∈ view.present := by
  rw [MatchView.find, isSome_srcMatchFindEntry, h.mem_held_iff]

theorem Exact.length_held (h : view.Exact shortEntryNum) :
    (heldChecksums view.entries).length = view.present.length := by
  rw [h.held.length_eq, checksums, List.length_map]

/-- What an `Add` of an absent address does. -/
theorem Exact.add_cases (h : view.Exact shortEntryNum) (habsent : address ∉ view.present) :
    (view.present.length = shortEntryNum ∧
      view.add multipan shortChecksum address = (.noBufs, view.entries)) ∨
    ∃ next, view.add multipan shortChecksum address = (.none, next) ∧
      next.length = shortEntryNum ∧
      (heldChecksums next).Perm (view.checksums shortChecksum ++
        [shortChecksum view.panId address]) := by
  rcases @addSrcMatchEntry_cases view.entries (shortChecksum view.panId address)
      (view.find shortChecksum address) multipan with
    ⟨_, hfound, _⟩ | ⟨_, hfull, hadd⟩ | ⟨_, next, hadd, hlength, hheld⟩
  · exact absurd (h.isSome_find_iff.mp hfound) habsent
  · exact .inl ⟨by rw [← h.length_held, hfull, h.length], hadd⟩
  · refine .inr ⟨next, hadd, hlength.trans h.length, hheld.trans ?_⟩
    exact (h.held.cons _).trans (List.perm_append_singleton _ _).symm

/-- What a `Clear` of a present address does. -/
theorem Exact.clear_eq (h : view.Exact shortEntryNum) (hpresent : address ∈ view.present) :
    ∃ next, view.clear shortChecksum address = (.none, next) ∧ next.length = shortEntryNum ∧
      (view.checksums shortChecksum).Perm
        (shortChecksum view.panId address :: heldChecksums next) := by
  obtain ⟨next, hclear, hlength, hheld⟩ := clearSrcMatchEntry_of_mem (h.mem_held_iff.mpr hpresent)
  exact ⟨next, hclear, hlength.trans h.length, h.held.symm.trans hheld⟩

/-! ## Each call keeps the table exact -/

theorem Exact.call_add (h : view.Exact shortEntryNum) (habsent : address ∉ view.present) :
    (view.call multipan shortChecksum (.add address)).Exact shortEntryNum := by
  rcases h.add_cases multipan habsent with ⟨_, hadd⟩ | ⟨next, hadd, hlength, hheld⟩
  · simp only [MatchView.call, hadd, reduceCtorEq, if_false]
    exact h
  · simp only [MatchView.call, hadd, if_true]
    refine ⟨List.nodup_cons.mpr ⟨habsent, h.nodup⟩, hlength, hheld.trans ?_⟩
    exact List.perm_append_singleton _ _

theorem Exact.call_clear (h : view.Exact shortEntryNum) (hpresent : address ∈ view.present) :
    (view.call multipan shortChecksum (.clear address)).Exact shortEntryNum := by
  obtain ⟨next, hclear, hlength, hheld⟩ := h.clear_eq hpresent
  simp only [MatchView.call, hclear]
  refine ⟨h.nodup.erase address, hlength, ?_⟩
  exact (hheld.symm.trans (view.checksums_perm_erase shortChecksum hpresent)).cons_inv

theorem Exact.call_clearAll (h : view.Exact shortEntryNum) :
    (view.call multipan shortChecksum .clearAll).Exact shortEntryNum where
  nodup := List.nodup_nil
  length := length_clearSrcMatchEntries.trans h.length
  held := by simp [MatchView.call, checksums]

/-- Shifting the addresses present by the difference of the PAN ids permutes them, if it leads to
none but addresses present. -/
theorem Exact.call_setPanId (h : view.Exact shortEntryNum) {aPanId : UInt16}
    (hshift : ∀ address ∈ view.present, address + (aPanId - view.panId) ∈ view.present) :
    (view.call multipan shortChecksum (.setPanId aPanId)).Exact shortEntryNum := by
  refine ⟨h.nodup, h.length, h.held.trans ?_⟩
  have hnodup : (view.present.map (· + (aPanId - view.panId))).Nodup :=
    List.Nodup.map (fun _ _ heq ↦ (UInt16.add_left_inj _).mp heq) h.nodup
  have hsubset : view.present.map (· + (aPanId - view.panId)) ⊆ view.present := by
    intro shifted hshifted
    obtain ⟨address, haddress, rfl⟩ := List.mem_map.mp hshifted
    exact hshift address haddress
  have hperm : (view.present.map (· + (aPanId - view.panId))).Perm view.present :=
    (List.subperm_of_subset hnodup hsubset).perm_of_length_le (by simp)
  have hchecksum : shortChecksum view.panId ∘ (· + (aPanId - view.panId)) =
      shortChecksum aPanId := by
    funext address
    simp only [Function.comp_apply, shortChecksum]
    rw [UInt16.add_assoc, UInt16.sub_add_cancel]
  have hmapped := hperm.map (shortChecksum view.panId)
  rw [List.map_map, hchecksum] at hmapped
  exact hmapped.symm

end MatchView

/-! ## Runs of all instances -/

namespace SourceMatchState

variable {config : Config} {state next : SourceMatchState} {iid shortEntryNum extEntryNum : ℕ}
  {label : ℕ × SourceMatchCall}

/-- The short table of an instance is exact. -/
def ShortExact (config : Config) (shortEntryNum iid : ℕ) (state : SourceMatchState) : Prop :=
  (state.shortView config iid).Exact shortEntryNum

theorem shortExact_init :
    ShortExact config shortEntryNum iid { table := .init shortEntryNum extEntryNum } where
  nodup := List.nodup_nil
  length := by simp [shortView, SourceMatch.init]
  held := by
    simp [shortView, SourceMatch.init, held_replicate, SrcMatchEntry.key, MatchView.checksums]

theorem shortMatchLaw_of_exact (hiid : config.isIid iid = true)
    (h : ShortExact config shortEntryNum iid state) :
    ShortMatchLaw config shortEntryNum iid state where
  nodup := h.nodup
  find_iff address := by rw [shortFindEntry_eq hiid, h.isSome_find_iff]; rfl
  clear_present address hpresent := by
    obtain ⟨next, hclear, -⟩ := h.clear_eq hpresent
    rw [clearShortEntry_eq hiid, hclear]
  add_noBufs address habsent hadd := by
    rcases h.add_cases config.multipan habsent with ⟨hfull, _⟩ | ⟨next, hnext, _⟩
    · exact hfull
    · rw [addShortEntry_eq hiid, hnext] at hadd
      contradiction

theorem exact_of_step (hiid : config.isIid iid = true)
    (h : ShortExact config shortEntryNum iid state)
    (hcontract : ShortMatchContract iid state label)
    (hcondition : ShortMatchCondition config iid state label)
    (hnext : sourceMatchStep config state label = some next) :
    ShortExact config shortEntryNum iid next := by
  obtain ⟨caller, request⟩ := label
  obtain ⟨hcaller, rfl⟩ : config.isIid caller = true ∧ state.call config caller request = next := by
    simpa [sourceMatchStep] using hnext
  by_cases hother : caller = iid
  · subst hother
    rw [ShortExact, shortView_call_self hiid]
    cases request with
    | otPlatRadioSetPanId aPanId =>
      cases haccess : config.canAccessPal with
      | false => simpa [SourceMatchCall.short?, haccess, ShortExact] using h
      | true =>
        have hkept := h.call_setPanId config.multipan (hcondition rfl haccess)
        simpa [SourceMatchCall.short?, haccess] using hkept
    | otPlatRadioAddSrcMatchShortEntry address => exact h.call_add config.multipan (hcontract rfl)
    | otPlatRadioClearSrcMatchShortEntry address =>
      exact h.call_clear config.multipan (hcontract rfl)
    | otPlatRadioClearSrcMatchShortEntries => exact h.call_clearAll config.multipan
    | _ => exact h
  · rw [ShortExact, shortView_call_other hcaller hiid hother]
    exact h

/-- A PAN id that shifts a present address to an absent one breaks the law. -/
theorem not_shortMatchLaw_of_step (hiid : config.isIid iid = true)
    (h : ShortExact config shortEntryNum iid state)
    (hcondition : ¬ ShortMatchCondition config iid state label)
    (hnext : sourceMatchStep config state label = some next) :
    ¬ ShortMatchLaw config shortEntryNum iid next := by
  obtain ⟨caller, request⟩ := label
  obtain ⟨hcaller, rfl⟩ : config.isIid caller = true ∧ state.call config caller request = next := by
    simpa [sourceMatchStep] using hnext
  cases request with
  | otPlatRadioSetPanId aPanId =>
    intro hlaw
    refine hcondition fun hself haccess address haddress ↦ ?_
    obtain rfl : caller = iid := hself
    have hview := @shortView_call_self config state caller hiid (.otPlatRadioSetPanId aPanId)
    simp only [SourceMatchCall.short?, haccess, if_true, Option.map_some, Option.getD_some] at hview
    have hstill : address ∈
        (state.call config caller (.otPlatRadioSetPanId aPanId)).presentShort caller := by
      rwa [← show _ = state.presentShort caller from congrArg MatchView.present hview] at haddress
    have hfound := (hlaw.find_iff address).mpr hstill
    rw [shortFindEntry_eq hiid, hview, MatchView.find, isSome_srcMatchFindEntry] at hfound
    have hshifted : shortChecksum aPanId address ∈
        (state.shortView config caller).checksums shortChecksum := h.held.mem_iff.mp hfound
    obtain ⟨source, hsource, heq⟩ := List.mem_map.mp hshifted
    have hsum : source = address + (aPanId - (state.shortView config caller).panId) := by
      simp only [shortChecksum] at heq
      rw [← UInt16.add_sub_cancel source (state.shortView config caller).panId, heq]
      grind
    exact hsum ▸ hsource
  | _ => exact absurd trivial hcondition

/-- The short table of an instance is an exact set throughout a run of all instances if and only
if every change of its PAN id meets the condition. -/
theorem shortMatchLaw_iff (hiid : config.isIid iid = true) {final : SourceMatchState}
    {labels : List (ℕ × SourceMatchCall)}
    (hcontract : Along (sourceMatchStep config) (ShortMatchContract iid)
      { table := .init shortEntryNum extEntryNum } labels)
    (hrun : exec (sourceMatchStep config) { table := .init shortEntryNum extEntryNum } labels =
      some final) :
    Throughout (sourceMatchStep config) (ShortMatchLaw config shortEntryNum iid)
        { table := .init shortEntryNum extEntryNum } labels ↔
      Along (sourceMatchStep config) (ShortMatchCondition config iid)
        { table := .init shortEntryNum extEntryNum } labels := by
  exact throughout_iff_along_of
    (fun state (h : ShortExact config shortEntryNum iid state) ↦ shortMatchLaw_of_exact hiid h)
    (fun state label next h hassumed hcondition hnext ↦
      exact_of_step hiid h hassumed hcondition hnext)
    (fun state label next h _ hcondition hnext ↦
      not_shortMatchLaw_of_step hiid h hcondition hnext) shortExact_init hcontract hrun

/-- Two hosts with tables of two entries.  The first one changes its PAN id while no address is
present, and its table is full when it adds the third address. -/
def twoHostsMatchRun : List (ℕ × SourceMatchCall) :=
  [(1, .otPlatRadioSetPanId 0x1234), (1, .otPlatRadioAddSrcMatchShortEntry 0x400),
    (2, .otPlatRadioAddSrcMatchShortEntry 0x400), (2, .otPlatRadioSetPanId 0xABCD),
    (1, .otPlatRadioAddSrcMatchShortEntry 0x401), (1, .otPlatRadioAddSrcMatchShortEntry 0x402),
    (1, .otPlatRadioClearSrcMatchShortEntry 0x400)]

theorem shortMatchLaw_iff_twoHostsMatchRun :
    Throughout (sourceMatchStep .twoHosts) (ShortMatchLaw .twoHosts 2 1)
      { table := .init 2 0 } twoHostsMatchRun :=
  (shortMatchLaw_iff (by decide) (by decide) rfl).mpr (by decide)

/-- A single-PAN build whose PAN id changes while an address is present: the address is not found
any more. -/
theorem not_shortMatchLaw_newPanId :
    Along (sourceMatchStep .singlePan) (ShortMatchContract 0) { table := .init 2 0 }
        [(0, .otPlatRadioAddSrcMatchShortEntry 0x400), (0, .otPlatRadioSetPanId 0x1234)] ∧
      ¬ Throughout (sourceMatchStep .singlePan) (ShortMatchLaw .singlePan 2 0)
        { table := .init 2 0 }
        [(0, .otPlatRadioAddSrcMatchShortEntry 0x400), (0, .otPlatRadioSetPanId 0x1234)] := by
  refine ⟨by decide, fun h ↦ ?_⟩
  have hlast := (h.last rfl).find_iff 0x400
  exact absurd hlast (by decide)

end SourceMatchState

end OtEfr32.Radio
