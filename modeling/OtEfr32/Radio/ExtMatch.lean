import OtEfr32.Radio.SourceMatchRuns
import OtEfr32.Transition.Runs
import Mathlib.Data.List.Nodup

/-!
# Addresses with one checksum in the extended source match table

Distinct extended addresses can have the same checksum.  A single-PAN build stores it once for each
of them.  A multipan build takes the second address for a duplicate and does not store it, so that
clearing one of the two loses the other; `extMatchLaw_iff` says that nothing else is lost while the
PAN id stays the same.
-/

namespace OtEfr32.Radio

open Data Transition

/-! ## The law -/

/-- Every extended address present is found and can be cleared. -/
structure ExtMatchLaw (config : Config) (iid : ℕ) (state : SourceMatchState) : Prop where
  find_present : ∀ address ∈ state.presentExt iid,
    (state.table.utilsSoftSrcMatchExtFindEntry config iid address).isSome = true
  clear_present : ∀ address ∈ state.presentExt iid,
    (state.table.otPlatRadioClearSrcMatchExtEntry config iid address).1 = .none

/-- The instance keeps its PAN id, adds only addresses that are not present, and clears only such
that are. -/
def ExtMatchContract (config : Config) (iid : ℕ) (state : SourceMatchState)
    (label : ℕ × SourceMatchCall) : Prop :=
  match label.2 with
  | .otPlatRadioSetPanId aPanId =>
    label.1 = iid → aPanId = state.table.sPanId (SourceMatch.panIndexOf config iid)
  | .otPlatRadioAddSrcMatchExtEntry address => label.1 = iid → address ∉ state.presentExt iid
  | .otPlatRadioClearSrcMatchExtEntry address => label.1 = iid → address ∈ state.presentExt iid
  | _ => True

/-- An address cleared in a multipan build: no other address present has its checksum. -/
def ExtMatchCondition (config : Config) (iid : ℕ) (state : SourceMatchState)
    (label : ℕ × SourceMatchCall) : Prop :=
  match label.2 with
  | .otPlatRadioClearSrcMatchExtEntry address =>
    label.1 = iid → config.multipan = true →
      ∀ other ∈ state.presentExt iid, other ≠ address →
        extAddressSum other ≠ extAddressSum address
  | _ => True

instance (config : Config) (iid : ℕ) : DecidableRel (ExtMatchContract config iid)
  | state, (caller, .otPlatRadioSetPanId aPanId) =>
    inferInstanceAs (Decidable (caller = iid →
      aPanId = state.table.sPanId (SourceMatch.panIndexOf config iid)))
  | state, (caller, .otPlatRadioAddSrcMatchExtEntry address) =>
    inferInstanceAs (Decidable (caller = iid → address ∉ state.presentExt iid))
  | state, (caller, .otPlatRadioClearSrcMatchExtEntry address) =>
    inferInstanceAs (Decidable (caller = iid → address ∈ state.presentExt iid))
  | _, (_, .otPlatRadioAddSrcMatchShortEntry _) | _, (_, .otPlatRadioClearSrcMatchShortEntry _)
  | _, (_, .otPlatRadioClearSrcMatchShortEntries)
  | _, (_, .otPlatRadioClearSrcMatchExtEntries) => .isTrue trivial

instance (config : Config) (iid : ℕ) : DecidableRel (ExtMatchCondition config iid)
  | state, (caller, .otPlatRadioClearSrcMatchExtEntry address) =>
    -- The quantifier is over the list, and not over all addresses.
    letI : Decidable (∀ other ∈ state.presentExt iid, other ≠ address →
        extAddressSum other ≠ extAddressSum address) := List.decidableBAll ..
    inferInstanceAs (Decidable (caller = iid → config.multipan = true → _))
  | _, (_, .otPlatRadioSetPanId _) | _, (_, .otPlatRadioAddSrcMatchShortEntry _)
  | _, (_, .otPlatRadioClearSrcMatchShortEntry _) | _, (_, .otPlatRadioClearSrcMatchShortEntries)
  | _, (_, .otPlatRadioAddSrcMatchExtEntry _) | _, (_, .otPlatRadioClearSrcMatchExtEntries) =>
    .isTrue trivial

/-! ## One table of one instance -/

namespace MatchView

variable {view : MatchView OtExtAddress} {address : OtExtAddress} {multipan : Bool}

/-- The table holds the checksums of the addresses present: in a single-PAN build each as often as
there are addresses with it, in a multipan build each once. -/
structure Covers (multipan : Bool) (view : MatchView OtExtAddress) : Prop where
  nodup : view.present.Nodup
  single : multipan = false → (heldChecksums view.entries).Perm (view.checksums extChecksum)
  once : multipan = true → (heldChecksums view.entries).Nodup
  held : ∀ checksum, checksum ∈ heldChecksums view.entries ↔ checksum ∈ view.checksums extChecksum

theorem extChecksum_eq_iff (panId : UInt16) (other : OtExtAddress) :
    extChecksum panId other = extChecksum panId address ↔
      extAddressSum other = extAddressSum address :=
  UInt16.add_right_inj panId

theorem Covers.mem_held (h : view.Covers multipan) (hpresent : address ∈ view.present) :
    extChecksum view.panId address ∈ heldChecksums view.entries :=
  (h.held _).mpr (List.mem_map_of_mem hpresent)

/-- What a `Clear` of a present address does. -/
theorem Covers.clear_eq (h : view.Covers multipan) (hpresent : address ∈ view.present) :
    ∃ next, view.clear extChecksum address = (.none, next) ∧
      (heldChecksums view.entries).Perm
        (extChecksum view.panId address :: heldChecksums next) := by
  obtain ⟨next, hclear, -, hheld⟩ := clearSrcMatchEntry_of_mem (h.mem_held hpresent)
  exact ⟨next, hclear, hheld⟩

/-! ## What each call does to the table -/

theorem Covers.call_add (h : view.Covers multipan) (habsent : address ∉ view.present) :
    (view.call multipan extChecksum (.add address)).Covers multipan := by
  have hnodup : (address :: view.present).Nodup := List.nodup_cons.mpr ⟨habsent, h.nodup⟩
  rcases @addSrcMatchEntry_cases view.entries (extChecksum view.panId address)
      (view.find extChecksum address) multipan with
    ⟨hmultipan, hfound, hadd⟩ | ⟨_, _, hadd⟩ | ⟨hnew, next, hadd, _, hheld⟩
  · -- the checksum is in the table already, for this address or for another one
    have hmem := isSome_srcMatchFindEntry.mp hfound
    simp only [MatchView.call, MatchView.add, hadd, if_true]
    refine ⟨hnodup, fun hsingle ↦ absurd hmultipan (by simp [hsingle]), h.once, fun checksum ↦ ?_⟩
    rw [h.held, checksums, checksums, List.map_cons, List.mem_cons]
    refine ⟨.inr, fun hchecksum ↦ ?_⟩
    rcases hchecksum with rfl | hchecksum
    · exact (h.held _).mp hmem
    · exact hchecksum
  · simp only [MatchView.call, MatchView.add, hadd, reduceCtorEq, if_false]
    exact h
  · simp only [MatchView.call, MatchView.add, hadd, if_true]
    refine ⟨hnodup, fun hsingle ↦ hheld.trans ((h.single hsingle).cons _), fun hmultipan ↦ ?_,
      fun checksum ↦ ?_⟩
    · have hmissed : extChecksum view.panId address ∉ heldChecksums view.entries :=
        fun hmem ↦ hnew ⟨hmultipan, isSome_srcMatchFindEntry.mpr hmem⟩
      exact hheld.nodup_iff.mpr (List.nodup_cons.mpr ⟨hmissed, h.once hmultipan⟩)
    · rw [hheld.mem_iff, checksums, List.map_cons, List.mem_cons, List.mem_cons, h.held, checksums]

theorem Covers.call_clear (h : view.Covers multipan) (hpresent : address ∈ view.present)
    (hother : multipan = true → ∀ other ∈ view.present, other ≠ address →
      extAddressSum other ≠ extAddressSum address) :
    (view.call multipan extChecksum (.clear address)).Covers multipan := by
  obtain ⟨next, hclear, hheld⟩ := h.clear_eq hpresent
  have hpart := view.checksums_perm_erase extChecksum hpresent
  simp only [MatchView.call, hclear]
  cases multipan with
  | false =>
    have hperm : (heldChecksums next).Perm
        ((view.present.erase address).map (extChecksum view.panId)) :=
      (hheld.symm.trans ((h.single rfl).trans hpart)).cons_inv
    exact ⟨h.nodup.erase address, fun _ ↦ hperm, fun hmulti ↦ absurd hmulti Bool.false_ne_true,
      fun checksum ↦ hperm.mem_iff⟩
  | true =>
    have honce := hheld.nodup_iff.mp (h.once rfl)
    obtain ⟨hgone, hnodup⟩ := List.nodup_cons.mp honce
    refine ⟨h.nodup.erase address, fun hsingle ↦ absurd hsingle.symm Bool.false_ne_true,
      fun _ ↦ hnodup, fun checksum ↦ ?_⟩
    -- the checksum of the cleared address is neither in the table nor that of another address
    have hrest : extChecksum view.panId address ∉
        (view.present.erase address).map (extChecksum view.panId) := by
      intro hmem
      obtain ⟨other, herased, heq⟩ := List.mem_map.mp hmem
      obtain ⟨hne, hmem⟩ := (h.nodup.mem_erase_iff).mp herased
      exact hother rfl other hmem hne ((extChecksum_eq_iff view.panId other).mp heq)
    have hiff := h.held checksum
    rw [hheld.mem_iff, hpart.mem_iff, List.mem_cons, List.mem_cons] at hiff
    by_cases heq : checksum = extChecksum view.panId address
    · subst heq
      exact iff_of_false hgone hrest
    · simpa [heq, checksums] using hiff

theorem covers_call_clearAll :
    (view.call multipan extChecksum .clearAll).Covers multipan := by
  refine ⟨List.nodup_nil, fun _ ↦ ?_, fun _ ↦ ?_, fun checksum ↦ ?_⟩ <;>
    simp [MatchView.call, checksums]

/-- In a multipan build an address that is cleared takes the entry of every other one with its
checksum away. -/
theorem Covers.not_found_of_clear (h : view.Covers true) (hpresent : address ∈ view.present)
    {other : OtExtAddress} (hsum : extAddressSum other = extAddressSum address) :
    ((view.call true extChecksum (.clear address)).find extChecksum other).isSome = false := by
  obtain ⟨next, hclear, hheld⟩ := h.clear_eq hpresent
  have honce := hheld.nodup_iff.mp (h.once rfl)
  have hgone := (List.nodup_cons.mp honce).1
  simp only [MatchView.call, hclear, MatchView.find]
  rw [Bool.eq_false_iff, ne_eq, isSome_srcMatchFindEntry,
    (extChecksum_eq_iff view.panId other).mpr hsum]
  exact hgone

end MatchView

/-! ## Runs of all instances -/

namespace SourceMatchState

variable {config : Config} {state next : SourceMatchState} {iid shortEntryNum extEntryNum : ℕ}
  {label : ℕ × SourceMatchCall}

/-- Empty tables of instances that have their PAN ids. -/
def withPanIds (shortEntryNum extEntryNum : ℕ) (sPanId : ℕ → UInt16) : SourceMatchState where
  table := { SourceMatch.init shortEntryNum extEntryNum with sPanId := sPanId }

/-- The extended table of an instance covers the addresses present. -/
def ExtCovers (config : Config) (iid : ℕ) (state : SourceMatchState) : Prop :=
  (state.extView config iid).Covers config.multipan

theorem extCovers_withPanIds (sPanId : ℕ → UInt16) :
    ExtCovers config iid (withPanIds shortEntryNum extEntryNum sPanId) := by
  refine ⟨List.nodup_nil, fun _ ↦ ?_, fun _ ↦ ?_, fun checksum ↦ ?_⟩ <;>
    simp [extView, withPanIds, SourceMatch.init, held_replicate, SrcMatchEntry.key,
      MatchView.checksums]

theorem extMatchLaw_of_covers (hiid : config.isIid iid = true) (h : ExtCovers config iid state) :
    ExtMatchLaw config iid state where
  find_present address hpresent := by
    rw [extFindEntry_eq hiid, MatchView.find, isSome_srcMatchFindEntry]
    exact h.mem_held hpresent
  clear_present address hpresent := by
    obtain ⟨next, hclear, -⟩ := h.clear_eq hpresent
    rw [clearExtEntry_eq hiid, hclear]

theorem extCovers_of_step (hiid : config.isIid iid = true) (h : ExtCovers config iid state)
    (hcontract : ExtMatchContract config iid state label)
    (hcondition : ExtMatchCondition config iid state label)
    (hnext : sourceMatchStep config state label = some next) : ExtCovers config iid next := by
  obtain ⟨caller, request⟩ := label
  obtain ⟨hcaller, rfl⟩ : config.isIid caller = true ∧ state.call config caller request = next := by
    simpa [sourceMatchStep] using hnext
  by_cases hother : caller = iid
  · subst hother
    rw [ExtCovers, extView_call_self hiid]
    cases request with
    | otPlatRadioSetPanId aPanId =>
      obtain rfl := hcontract rfl
      cases haccess : config.canAccessPal with
      | false => simpa [SourceMatchCall.ext?, haccess, ExtCovers] using h
      | true =>
        simp only [SourceMatchCall.ext?, haccess, if_true, Option.map_some, Option.getD_some]
        exact h
    | otPlatRadioAddSrcMatchExtEntry address => exact h.call_add (hcontract rfl)
    | otPlatRadioClearSrcMatchExtEntry address =>
      exact h.call_clear (hcontract rfl) (hcondition rfl)
    | otPlatRadioClearSrcMatchExtEntries => exact MatchView.covers_call_clearAll
    | _ => exact h
  · rw [ExtCovers, extView_call_other hcaller hiid hother]
    exact h

/-- Clearing one of two addresses with the same checksum loses the other one. -/
theorem not_extMatchLaw_of_step (hiid : config.isIid iid = true) (h : ExtCovers config iid state)
    (hcontract : ExtMatchContract config iid state label)
    (hcondition : ¬ ExtMatchCondition config iid state label)
    (hnext : sourceMatchStep config state label = some next) :
    ¬ ExtMatchLaw config iid next := by
  obtain ⟨caller, request⟩ := label
  obtain ⟨hcaller, rfl⟩ : config.isIid caller = true ∧ state.call config caller request = next := by
    simpa [sourceMatchStep] using hnext
  cases request with
  | otPlatRadioClearSrcMatchExtEntry address =>
    intro hlaw
    refine hcondition fun hself hmultipan other hmem hne hsum ↦ ?_
    obtain rfl : caller = iid := hself
    have hview := @extView_call_self config state caller hiid
      (.otPlatRadioClearSrcMatchExtEntry address)
    simp only [SourceMatchCall.ext?, Option.map_some, Option.getD_some] at hview
    have hstill : other ∈ (state.call config caller
        (.otPlatRadioClearSrcMatchExtEntry address)).presentExt caller := by
      have herased : (state.call config caller
          (.otPlatRadioClearSrcMatchExtEntry address)).presentExt caller =
            (state.presentExt caller).erase address := congrArg MatchView.present hview
      rw [herased]
      exact (List.mem_erase_of_ne hne).mpr hmem
    have hfound := hlaw.find_present other hstill
    rw [ExtCovers, hmultipan] at h
    rw [extFindEntry_eq hiid, hview, hmultipan, h.not_found_of_clear (hcontract rfl) hsum] at hfound
    contradiction
  | _ => exact absurd trivial hcondition

/-- With the PAN id of the instance unchanged, no extended address is lost throughout a run of all
instances if and only if every `Clear` of the instance meets the condition. -/
theorem extMatchLaw_iff (hiid : config.isIid iid = true) (sPanId : ℕ → UInt16)
    {final : SourceMatchState} {labels : List (ℕ × SourceMatchCall)}
    (hcontract : Along (sourceMatchStep config) (ExtMatchContract config iid)
      (withPanIds shortEntryNum extEntryNum sPanId) labels)
    (hrun : exec (sourceMatchStep config) (withPanIds shortEntryNum extEntryNum sPanId) labels =
      some final) :
    Throughout (sourceMatchStep config) (ExtMatchLaw config iid)
        (withPanIds shortEntryNum extEntryNum sPanId) labels ↔
      Along (sourceMatchStep config) (ExtMatchCondition config iid)
        (withPanIds shortEntryNum extEntryNum sPanId) labels := by
  exact throughout_iff_along_of
    (fun state (h : ExtCovers config iid state) ↦ extMatchLaw_of_covers hiid h)
    (fun state label next h hassumed hcondition hnext ↦
      extCovers_of_step hiid h hassumed hcondition hnext)
    (fun state label next h hassumed hcondition hnext ↦
      not_extMatchLaw_of_step hiid h hassumed hcondition hnext)
    (extCovers_withPanIds sPanId) hcontract hrun

/-- An extended address whose words are `low`, 0, 0 and `high`. -/
def extAddressOf (low high : UInt8) : OtExtAddress := #v[low, 0, 0, 0, 0, 0, high, 0]

/-- Two hosts; the first one adds two addresses with one checksum and clears all. -/
def oneChecksumRun : List (ℕ × SourceMatchCall) :=
  [(1, .otPlatRadioAddSrcMatchExtEntry (extAddressOf 1 2)),
    (2, .otPlatRadioAddSrcMatchExtEntry (extAddressOf 1 2)),
    (1, .otPlatRadioAddSrcMatchExtEntry (extAddressOf 2 1)),
    (2, .otPlatRadioClearSrcMatchExtEntry (extAddressOf 1 2)),
    (1, .otPlatRadioClearSrcMatchExtEntries),
    (1, .otPlatRadioAddSrcMatchExtEntry (extAddressOf 1 2)),
    (1, .otPlatRadioAddSrcMatchExtEntry (extAddressOf 3 4)),
    (1, .otPlatRadioClearSrcMatchExtEntry (extAddressOf 1 2))]

theorem extMatchLaw_iff_oneChecksumRun :
    Throughout (sourceMatchStep .twoHosts) (ExtMatchLaw .twoHosts 1)
      (withPanIds 0 2 fun _ ↦ 0x1234) oneChecksumRun :=
  (extMatchLaw_iff (by decide) _ (by decide) rfl).mpr (by decide)

/-- Two addresses with one checksum in a multipan build: with the second one cleared, the first
one is not found. -/
def lostAddressRun : List (ℕ × SourceMatchCall) :=
  [(1, .otPlatRadioAddSrcMatchExtEntry (extAddressOf 1 2)),
    (1, .otPlatRadioAddSrcMatchExtEntry (extAddressOf 2 1)),
    (1, .otPlatRadioClearSrcMatchExtEntry (extAddressOf 2 1))]

theorem not_extMatchLaw_lostAddressRun :
    Along (sourceMatchStep .twoHosts) (ExtMatchContract .twoHosts 1)
        (withPanIds 0 2 fun _ ↦ 0x1234) lostAddressRun ∧
      ¬ Throughout (sourceMatchStep .twoHosts) (ExtMatchLaw .twoHosts 1)
        (withPanIds 0 2 fun _ ↦ 0x1234) lostAddressRun := by
  refine ⟨by decide, fun h ↦ ?_⟩
  have hlast := (h.last rfl).find_present (extAddressOf 1 2)
  exact absurd hlast (by decide)

end SourceMatchState

end OtEfr32.Radio
