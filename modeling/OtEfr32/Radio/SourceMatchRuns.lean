import OtEfr32.Radio.SourceMatch

/-!
# Runs of the source match tables

The calls that instances make on the tables, with a record of the addresses that each of them has
added and not cleared since.  What an instance sees of one table is a `MatchView`.  A call changes
only the views of the instance that makes it, in the same way for both tables.
-/

namespace OtEfr32.Radio

open Data

/-! ## The calls -/

/-- A call of an instance. -/
inductive SourceMatchCall where
  | otPlatRadioSetPanId (aPanId : UInt16)
  | otPlatRadioAddSrcMatchShortEntry (aShortAddress : UInt16)
  | otPlatRadioClearSrcMatchShortEntry (aShortAddress : UInt16)
  | otPlatRadioClearSrcMatchShortEntries
  | otPlatRadioAddSrcMatchExtEntry (aExtAddress : OtExtAddress)
  | otPlatRadioClearSrcMatchExtEntry (aExtAddress : OtExtAddress)
  | otPlatRadioClearSrcMatchExtEntries
  deriving DecidableEq

/-- The tables, and for each instance the addresses that are present: an `Add` returned
`OT_ERROR_NONE` for them and they were not cleared since. -/
structure SourceMatchState where
  table : SourceMatch
  presentShort : ℕ → List UInt16 := fun _ ↦ []
  presentExt : ℕ → List OtExtAddress := fun _ ↦ []

namespace SourceMatchState

variable (config : Config) (state : SourceMatchState) (iid : ℕ)

/-- Give the tables and the present addresses of an instance new values. -/
def record (table : SourceMatch) (presentShort : List UInt16) (presentExt : List OtExtAddress) :
    SourceMatchState where
  table := table
  presentShort := Function.update state.presentShort iid presentShort
  presentExt := Function.update state.presentExt iid presentExt

/-- One call of the instance `iid`. -/
def call : SourceMatchCall → SourceMatchState
  | .otPlatRadioSetPanId aPanId =>
    { state with table := state.table.otPlatRadioSetPanId config iid aPanId }
  | .otPlatRadioAddSrcMatchShortEntry aShortAddress =>
    let (error, table) := state.table.otPlatRadioAddSrcMatchShortEntry config iid aShortAddress
    let present := state.presentShort iid
    state.record iid table (if error = .none then aShortAddress :: present else present)
      (state.presentExt iid)
  | .otPlatRadioClearSrcMatchShortEntry aShortAddress =>
    let (_, table) := state.table.otPlatRadioClearSrcMatchShortEntry config iid aShortAddress
    state.record iid table ((state.presentShort iid).erase aShortAddress) (state.presentExt iid)
  | .otPlatRadioClearSrcMatchShortEntries =>
    state.record iid (state.table.otPlatRadioClearSrcMatchShortEntries config iid) []
      (state.presentExt iid)
  | .otPlatRadioAddSrcMatchExtEntry aExtAddress =>
    let (error, table) := state.table.otPlatRadioAddSrcMatchExtEntry config iid aExtAddress
    let present := state.presentExt iid
    state.record iid table (state.presentShort iid)
      (if error = .none then aExtAddress :: present else present)
  | .otPlatRadioClearSrcMatchExtEntry aExtAddress =>
    let (_, table) := state.table.otPlatRadioClearSrcMatchExtEntry config iid aExtAddress
    state.record iid table (state.presentShort iid) ((state.presentExt iid).erase aExtAddress)
  | .otPlatRadioClearSrcMatchExtEntries =>
    state.record iid (state.table.otPlatRadioClearSrcMatchExtEntries config iid)
      (state.presentShort iid) []

end SourceMatchState

/-- A call of some instance. -/
def sourceMatchStep (config : Config) (state : SourceMatchState) (label : ℕ × SourceMatchCall) :
    Option SourceMatchState :=
  if config.isIid label.1 then some (state.call config label.1 label.2) else none

/-! ## One table of one instance -/

/-- What an instance sees of a table: its PAN id, its entries and the addresses present. -/
structure MatchView (Address : Type) where
  panId : UInt16
  entries : List SrcMatchEntry
  present : List Address

/-- The calls that concern one table. -/
inductive MatchCall (Address : Type) where
  | setPanId (aPanId : UInt16)
  | add (address : Address)
  | clear (address : Address)
  | clearAll
  deriving DecidableEq

namespace MatchView

variable {Address : Type} [BEq Address] (multipan : Bool)
  (checksum : UInt16 → Address → UInt16) (view : MatchView Address)

/-- The entry that matches an address. -/
def find (address : Address) : Option ℕ :=
  srcMatchFindEntry view.entries (checksum view.panId address)

/-- The result of an `Add`, with the entries behind it. -/
def add (address : Address) : OtError × List SrcMatchEntry :=
  addSrcMatchEntry multipan view.entries (view.find checksum address)
    (checksum view.panId address)

/-- The result of a `Clear`, with the entries behind it. -/
def clear (address : Address) : OtError × List SrcMatchEntry :=
  clearSrcMatchEntry view.entries (view.find checksum address)

/-- A call of the instance, seen from one table. -/
def call : MatchCall Address → MatchView Address
  | .setPanId aPanId => { view with panId := aPanId }
  | .add address =>
    { view with
      entries := (view.add multipan checksum address).2
      present := if (view.add multipan checksum address).1 = .none then address :: view.present
        else view.present }
  | .clear address =>
    { view with
      entries := (view.clear checksum address).2
      present := view.present.erase address }
  | .clearAll => { view with entries := clearSrcMatchEntries view.entries, present := [] }

/-- The checksums of the addresses present. -/
def checksums : List UInt16 := view.present.map (checksum view.panId)

theorem checksums_perm_erase [LawfulBEq Address] {address : Address}
    (hpresent : address ∈ view.present) :
    (view.checksums checksum).Perm (checksum view.panId address ::
      (view.present.erase address).map (checksum view.panId)) :=
  (List.perm_cons_erase hpresent).map (checksum view.panId)

end MatchView

/-- A call as the short table sees it; `none` if it does not concern the table. -/
def SourceMatchCall.short? (config : Config) : SourceMatchCall → Option (MatchCall UInt16)
  | .otPlatRadioSetPanId aPanId => if config.canAccessPal then some (.setPanId aPanId) else none
  | .otPlatRadioAddSrcMatchShortEntry aShortAddress => some (.add aShortAddress)
  | .otPlatRadioClearSrcMatchShortEntry aShortAddress => some (.clear aShortAddress)
  | .otPlatRadioClearSrcMatchShortEntries => some .clearAll
  | .otPlatRadioAddSrcMatchExtEntry _ | .otPlatRadioClearSrcMatchExtEntry _
  | .otPlatRadioClearSrcMatchExtEntries => none

/-- A call as the extended table sees it; `none` if it does not concern the table. -/
def SourceMatchCall.ext? (config : Config) : SourceMatchCall → Option (MatchCall OtExtAddress)
  | .otPlatRadioSetPanId aPanId => if config.canAccessPal then some (.setPanId aPanId) else none
  | .otPlatRadioAddSrcMatchExtEntry aExtAddress => some (.add aExtAddress)
  | .otPlatRadioClearSrcMatchExtEntry aExtAddress => some (.clear aExtAddress)
  | .otPlatRadioClearSrcMatchExtEntries => some .clearAll
  | .otPlatRadioAddSrcMatchShortEntry _ | .otPlatRadioClearSrcMatchShortEntry _
  | .otPlatRadioClearSrcMatchShortEntries => none

namespace SourceMatchState

variable (config : Config) (state : SourceMatchState) (iid : ℕ)

/-- What an instance sees of the short table. -/
def shortView : MatchView UInt16 where
  panId := state.table.sPanId (SourceMatch.panIndexOf config iid)
  entries := state.table.srcMatchShortEntry (SourceMatch.panIndexOf config iid)
  present := state.presentShort iid

/-- What an instance sees of the extended table. -/
def extView : MatchView OtExtAddress where
  panId := state.table.sPanId (SourceMatch.panIndexOf config iid)
  entries := state.table.srcMatchExtEntry (SourceMatch.panIndexOf config iid)
  present := state.presentExt iid

variable {config state iid}

/-! ## The functions of the file on a view -/

theorem panIndexOf_inj {other : ℕ} (hiid : config.isIid iid = true)
    (hother : config.isIid other = true)
    (hindex : SourceMatch.panIndexOf config iid = SourceMatch.panIndexOf config other) :
    iid = other := by
  cases hmultipan : config.multipan with
  | false => rw [(Config.isIid_single hmultipan).mp hiid, (Config.isIid_single hmultipan).mp hother]
  | true =>
    have hiid := (Config.isIid_multipan hmultipan).mp hiid
    have hother := (Config.isIid_multipan hmultipan).mp hother
    have hvalid : ∀ {iid}, 1 ≤ iid ∧ iid ≤ config.multipleInstanceNum →
        SourceMatch.panIndexOf config iid = iid - 1 := by
      intro iid hiid
      have hlt : iid < config.multipleInstanceNum + 1 := by omega
      have hne : iid ≠ 0 := by omega
      simp [SourceMatch.panIndexOf, Config.efr32GetPanIndexFromIid, Config.radioInterfaceCount,
        hmultipan, hlt, hne]
    rw [hvalid hiid, hvalid hother] at hindex
    omega

theorem not_broadcast (hiid : config.isIid iid = true) :
    (config.multipan && iid == 0) = false := by
  cases hmultipan : config.multipan with
  | false => rfl
  | true =>
    have := (Config.isIid_multipan hmultipan).mp hiid
    simp only [Bool.true_and, beq_eq_false_iff_ne, ne_eq]
    omega

theorem shortFindEntry_eq (hiid : config.isIid iid = true) (aShortAddress : UInt16) :
    state.table.utilsSoftSrcMatchShortFindEntry config iid aShortAddress =
      (state.shortView config iid).find shortChecksum aShortAddress := by
  simp only [SourceMatch.utilsSoftSrcMatchShortFindEntry, not_broadcast hiid, Bool.false_eq_true,
    ↓reduceIte]
  rfl

theorem extFindEntry_eq (hiid : config.isIid iid = true) (aExtAddress : OtExtAddress) :
    state.table.utilsSoftSrcMatchExtFindEntry config iid aExtAddress =
      (state.extView config iid).find extChecksum aExtAddress := by
  simp only [SourceMatch.utilsSoftSrcMatchExtFindEntry, not_broadcast hiid, Bool.false_eq_true,
    ↓reduceIte]
  rfl

theorem addShortEntry_eq (hiid : config.isIid iid = true) (aShortAddress : UInt16) :
    state.table.otPlatRadioAddSrcMatchShortEntry config iid aShortAddress =
      (((state.shortView config iid).add config.multipan shortChecksum aShortAddress).1,
        state.table.setShortEntry (SourceMatch.panIndexOf config iid)
          ((state.shortView config iid).add config.multipan shortChecksum aShortAddress).2) := by
  rw [SourceMatch.otPlatRadioAddSrcMatchShortEntry, shortFindEntry_eq hiid]
  rfl

theorem clearShortEntry_eq (hiid : config.isIid iid = true) (aShortAddress : UInt16) :
    state.table.otPlatRadioClearSrcMatchShortEntry config iid aShortAddress =
      (((state.shortView config iid).clear shortChecksum aShortAddress).1,
        state.table.setShortEntry (SourceMatch.panIndexOf config iid)
          ((state.shortView config iid).clear shortChecksum aShortAddress).2) := by
  rw [SourceMatch.otPlatRadioClearSrcMatchShortEntry, shortFindEntry_eq hiid]
  rfl

theorem addExtEntry_eq (hiid : config.isIid iid = true) (aExtAddress : OtExtAddress) :
    state.table.otPlatRadioAddSrcMatchExtEntry config iid aExtAddress =
      (((state.extView config iid).add config.multipan extChecksum aExtAddress).1,
        state.table.setExtEntry (SourceMatch.panIndexOf config iid)
          ((state.extView config iid).add config.multipan extChecksum aExtAddress).2) := by
  rw [SourceMatch.otPlatRadioAddSrcMatchExtEntry, extFindEntry_eq hiid]
  rfl

theorem clearExtEntry_eq (hiid : config.isIid iid = true) (aExtAddress : OtExtAddress) :
    state.table.otPlatRadioClearSrcMatchExtEntry config iid aExtAddress =
      (((state.extView config iid).clear extChecksum aExtAddress).1,
        state.table.setExtEntry (SourceMatch.panIndexOf config iid)
          ((state.extView config iid).clear extChecksum aExtAddress).2) := by
  rw [SourceMatch.otPlatRadioClearSrcMatchExtEntry, extFindEntry_eq hiid]
  rfl

/-! ## A call changes only the views of its instance -/

/-- A call of the instance, seen from the short table. -/
theorem shortView_call_self (hiid : config.isIid iid = true) (request : SourceMatchCall) :
    (state.call config iid request).shortView config iid =
      ((request.short? config).map
        ((state.shortView config iid).call config.multipan shortChecksum)).getD
          (state.shortView config iid) := by
  cases request with
  | otPlatRadioSetPanId aPanId =>
    cases haccess : config.canAccessPal <;>
      simp [call, shortView, SourceMatchCall.short?, SourceMatch.otPlatRadioSetPanId, haccess,
        SourceMatch.utilsSoftSrcMatchSetPanId, SourceMatch.setPanIdAt, MatchView.call]
  | otPlatRadioAddSrcMatchShortEntry aShortAddress =>
    simp only [call, addShortEntry_eq hiid]
    simp [shortView, record, SourceMatch.setShortEntry, SourceMatchCall.short?, MatchView.call]
    rfl
  | otPlatRadioClearSrcMatchShortEntry aShortAddress =>
    simp only [call, clearShortEntry_eq hiid]
    simp [shortView, record, SourceMatch.setShortEntry, SourceMatchCall.short?, MatchView.call]
  | otPlatRadioClearSrcMatchShortEntries =>
    simp [call, shortView, record, SourceMatch.otPlatRadioClearSrcMatchShortEntries,
      SourceMatch.setShortEntry, SourceMatchCall.short?, MatchView.call]
  | otPlatRadioAddSrcMatchExtEntry aExtAddress =>
    simp [call, addExtEntry_eq hiid, shortView, record, SourceMatch.setExtEntry,
      SourceMatchCall.short?]
  | otPlatRadioClearSrcMatchExtEntry aExtAddress =>
    simp [call, clearExtEntry_eq hiid, shortView, record, SourceMatch.setExtEntry,
      SourceMatchCall.short?]
  | otPlatRadioClearSrcMatchExtEntries =>
    simp [call, shortView, record, SourceMatch.otPlatRadioClearSrcMatchExtEntries,
      SourceMatch.setExtEntry, SourceMatchCall.short?]

/-- A call of the instance, seen from the extended table. -/
theorem extView_call_self (hiid : config.isIid iid = true) (request : SourceMatchCall) :
    (state.call config iid request).extView config iid =
      ((request.ext? config).map
        ((state.extView config iid).call config.multipan extChecksum)).getD
          (state.extView config iid) := by
  cases request with
  | otPlatRadioSetPanId aPanId =>
    cases haccess : config.canAccessPal <;>
      simp [call, extView, SourceMatchCall.ext?, SourceMatch.otPlatRadioSetPanId, haccess,
        SourceMatch.utilsSoftSrcMatchSetPanId, SourceMatch.setPanIdAt, MatchView.call]
  | otPlatRadioAddSrcMatchExtEntry aExtAddress =>
    simp only [call, addExtEntry_eq hiid]
    simp [extView, record, SourceMatch.setExtEntry, SourceMatchCall.ext?, MatchView.call]
    rfl
  | otPlatRadioClearSrcMatchExtEntry aExtAddress =>
    simp only [call, clearExtEntry_eq hiid]
    simp [extView, record, SourceMatch.setExtEntry, SourceMatchCall.ext?, MatchView.call]
  | otPlatRadioClearSrcMatchExtEntries =>
    simp [call, extView, record, SourceMatch.otPlatRadioClearSrcMatchExtEntries,
      SourceMatch.setExtEntry, SourceMatchCall.ext?, MatchView.call]
  | otPlatRadioAddSrcMatchShortEntry aShortAddress =>
    simp [call, addShortEntry_eq hiid, extView, record, SourceMatch.setShortEntry,
      SourceMatchCall.ext?]
  | otPlatRadioClearSrcMatchShortEntry aShortAddress =>
    simp [call, clearShortEntry_eq hiid, extView, record, SourceMatch.setShortEntry,
      SourceMatchCall.ext?]
  | otPlatRadioClearSrcMatchShortEntries =>
    simp [call, extView, record, SourceMatch.otPlatRadioClearSrcMatchShortEntries,
      SourceMatch.setShortEntry, SourceMatchCall.ext?]

/-- What a call of the instance `iid` leaves of the tables of the others. -/
theorem call_frame (request : SourceMatchCall) :
    (∀ index ≠ SourceMatch.panIndexOf config iid,
      (state.call config iid request).table.sPanId index = state.table.sPanId index ∧
      (state.call config iid request).table.srcMatchShortEntry index =
        state.table.srcMatchShortEntry index ∧
      (state.call config iid request).table.srcMatchExtEntry index =
        state.table.srcMatchExtEntry index) ∧
    ∀ other ≠ iid,
      (state.call config iid request).presentShort other = state.presentShort other ∧
      (state.call config iid request).presentExt other = state.presentExt other := by
  refine ⟨fun index hindex ↦ ?_, fun other hother ↦ ?_⟩
  · cases request with
    | otPlatRadioSetPanId aPanId =>
      cases haccess : config.canAccessPal <;>
        simp [call, SourceMatch.otPlatRadioSetPanId, haccess,
          SourceMatch.utilsSoftSrcMatchSetPanId, SourceMatch.setPanIdAt, hindex]
    | _ => simp [call, record, SourceMatch.otPlatRadioAddSrcMatchShortEntry,
        SourceMatch.otPlatRadioClearSrcMatchShortEntry,
        SourceMatch.otPlatRadioClearSrcMatchShortEntries,
        SourceMatch.otPlatRadioAddSrcMatchExtEntry, SourceMatch.otPlatRadioClearSrcMatchExtEntry,
        SourceMatch.otPlatRadioClearSrcMatchExtEntries, SourceMatch.setShortEntry,
        SourceMatch.setExtEntry, hindex]
  · cases request <;> simp [call, record, hother]

theorem shortView_call_other {other : ℕ} (hiid : config.isIid iid = true)
    (hother : config.isIid other = true) (hne : iid ≠ other) (request : SourceMatchCall) :
    (state.call config iid request).shortView config other = state.shortView config other := by
  have hindex := fun heq ↦ hne (panIndexOf_inj hother hiid heq).symm
  obtain ⟨htable, hpresent⟩ := @call_frame config state iid request
  simp only [shortView, htable _ hindex, hpresent _ (Ne.symm hne)]

theorem extView_call_other {other : ℕ} (hiid : config.isIid iid = true)
    (hother : config.isIid other = true) (hne : iid ≠ other) (request : SourceMatchCall) :
    (state.call config iid request).extView config other = state.extView config other := by
  have hindex := fun heq ↦ hne (panIndexOf_inj hother hiid heq).symm
  obtain ⟨htable, hpresent⟩ := @call_frame config state iid request
  simp only [extView, htable _ hindex, hpresent _ (Ne.symm hne)]

end SourceMatchState

end OtEfr32.Radio
