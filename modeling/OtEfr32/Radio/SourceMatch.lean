import OtEfr32.Data.SlotTable
import OtEfr32.Platform.Error
import OtEfr32.Radio.Config
import Mathlib.Logic.Function.Basic

/-!
# Source match tables

The model of `soft_source_match_table.c`.  Every PAN index has a table of short and one of extended
addresses.  An entry does not store the address but a checksum of it: the sum, modulo `2 ^ 16`, of
the PAN id at the time and the 16-bit words of the address.  The two families of functions differ
in the table they use and in the checksum of an address; the functions behind them have both as
parameters.
-/

namespace OtEfr32.Radio

open Data

/-- `sSrcMatchShortEntry` and `sSrcMatchExtEntry`. -/
structure SrcMatchEntry where
  checksum : UInt16 := 0
  allocated : Bool := false
  deriving DecidableEq, Repr

/-- `otExtAddress`, with the bytes `m8` in memory order. -/
abbrev OtExtAddress := Vector UInt8 8

/-- The static variables of the file, indexed by `panIndex`. -/
structure SourceMatch where
  sPanId : ℕ → UInt16
  srcMatchShortEntry : ℕ → List SrcMatchEntry
  srcMatchExtEntry : ℕ → List SrcMatchEntry

/-- The variables after reset; the arguments are `RADIO_CONFIG_SRC_MATCH_SHORT_ENTRY_NUM` and
`RADIO_CONFIG_SRC_MATCH_EXT_ENTRY_NUM`. -/
def SourceMatch.init (shortEntryNum extEntryNum : ℕ) : SourceMatch where
  sPanId _ := 0
  srcMatchShortEntry _ := List.replicate shortEntryNum {}
  srcMatchExtEntry _ := List.replicate extEntryNum {}

/-! ## One table -/

/-- The search loop of `utilsSoftSrcMatch{Short,Ext}FindEntry`, with `none` for `-1`. -/
def srcMatchFindEntry (entries : List SrcMatchEntry) (checksum : UInt16) : Option ℕ :=
  entries.findIdx? fun entry ↦ checksum == entry.checksum && entry.allocated

/-- `findSrcMatch{Short,Ext}AvailEntry`, with `none` for `-1`. -/
def findSrcMatchAvailEntry (entries : List SrcMatchEntry) : Option ℕ :=
  entries.findIdx? fun entry ↦ !entry.allocated

/-- `addToSrcMatch{Short,Ext}Indirect`. -/
def addToSrcMatchIndirect (entries : List SrcMatchEntry) (entry : ℕ) (checksum : UInt16) :
    List SrcMatchEntry :=
  entries.set entry { checksum := checksum, allocated := true }

/-- `removeFromSrcMatch{Short,Ext}Indirect`. -/
def removeFromSrcMatchIndirect (entries : List SrcMatchEntry) (entry : ℕ) : List SrcMatchEntry :=
  entries.set entry { checksum := 0, allocated := false }

/-- `otPlatRadioAddSrcMatch{Short,Ext}Entry`: `found` is the entry that already matches, which
only the multipan build looks for. -/
def addSrcMatchEntry (multipan : Bool) (entries : List SrcMatchEntry) (found : Option ℕ)
    (checksum : UInt16) : OtError × List SrcMatchEntry :=
  if multipan && found.isSome then (.none, entries)
  else
    match findSrcMatchAvailEntry entries with
    | none => (.noBufs, entries)
    | some entry => (.none, addToSrcMatchIndirect entries entry checksum)

/-- `otPlatRadioClearSrcMatch{Short,Ext}Entry`. -/
def clearSrcMatchEntry (entries : List SrcMatchEntry) (found : Option ℕ) :
    OtError × List SrcMatchEntry :=
  match found with
  | none => (.noAddress, entries)
  | some entry => (.none, removeFromSrcMatchIndirect entries entry)

/-- `otPlatRadioClearSrcMatch{Short,Ext}Entries`: the table is zeroed. -/
def clearSrcMatchEntries (entries : List SrcMatchEntry) : List SrcMatchEntry :=
  entries.map fun _ ↦ {}

/-! ### What the entries hold -/

/-- The checksum that an entry stands for. -/
def SrcMatchEntry.key (entry : SrcMatchEntry) : Option UInt16 :=
  if entry.allocated then some entry.checksum else none

/-- The checksums in a table. -/
abbrev heldChecksums (entries : List SrcMatchEntry) : List UInt16 := held SrcMatchEntry.key entries

section
variable {entries : List SrcMatchEntry} {checksum : UInt16} {found : Option ℕ} {multipan : Bool}

theorem SrcMatchEntry.matches_iff (entry : SrcMatchEntry) :
    (checksum == entry.checksum && entry.allocated) = true ↔ entry.key = some checksum := by
  rw [Bool.and_eq_true, beq_iff_eq, SrcMatchEntry.key, Option.ite_none_right_eq_some,
    Option.some_inj, and_comm, @eq_comm _ checksum]

theorem SrcMatchEntry.key_eq_none_iff (entry : SrcMatchEntry) :
    (!entry.allocated) = true ↔ entry.key = none := by
  simp [SrcMatchEntry.key]

theorem isSome_srcMatchFindEntry :
    (srcMatchFindEntry entries checksum).isSome = true ↔ checksum ∈ heldChecksums entries := by
  rw [srcMatchFindEntry, List.findIdx?_isSome, List.any_eq_true, mem_held]
  simp only [SrcMatchEntry.matches_iff]

theorem key_of_srcMatchFindEntry {entry : ℕ}
    (hfind : srcMatchFindEntry entries checksum = some entry) :
    ∃ hentry : entry < entries.length, entries[entry].key = some checksum := by
  obtain ⟨hentry, hmatch, -⟩ := List.findIdx?_eq_some_iff_getElem.mp hfind
  exact ⟨hentry, (SrcMatchEntry.matches_iff _).mp hmatch⟩

/-- A table without a free entry is full. -/
theorem length_held_of_no_avail (hfind : findSrcMatchAvailEntry entries = none) :
    (heldChecksums entries).length = entries.length := by
  apply length_held_of_full
  intro entry hentry hfree
  have hallocated := List.findIdx?_eq_none_iff.mp hfind entry hentry
  rw [(SrcMatchEntry.key_eq_none_iff entry).mpr hfree] at hallocated
  contradiction

theorem held_addToSrcMatchIndirect {entry : ℕ}
    (hfind : findSrcMatchAvailEntry entries = some entry) :
    (heldChecksums (addToSrcMatchIndirect entries entry checksum)).Perm
      (checksum :: heldChecksums entries) := by
  obtain ⟨hentry, hfree, -⟩ := List.findIdx?_eq_some_iff_getElem.mp hfind
  exact held_set_of_free hentry ((SrcMatchEntry.key_eq_none_iff _).mp hfree) rfl

/-- What `otPlatRadioAddSrcMatch{Short,Ext}Entry` does to a table. -/
theorem addSrcMatchEntry_cases :
    (multipan = true ∧ found.isSome = true ∧
      addSrcMatchEntry multipan entries found checksum = (.none, entries)) ∨
    (¬ (multipan = true ∧ found.isSome = true) ∧
      (heldChecksums entries).length = entries.length ∧
      addSrcMatchEntry multipan entries found checksum = (.noBufs, entries)) ∨
    (¬ (multipan = true ∧ found.isSome = true) ∧
      ∃ next, addSrcMatchEntry multipan entries found checksum = (.none, next) ∧
        next.length = entries.length ∧
        (heldChecksums next).Perm (checksum :: heldChecksums entries)) := by
  unfold addSrcMatchEntry
  by_cases hfound : (multipan && found.isSome) = true
  · exact .inl ⟨by simp_all, by simp_all, if_pos hfound⟩
  · rw [if_neg hfound]
    have hmissed : ¬ (multipan = true ∧ found.isSome = true) := by simpa using hfound
    cases hfind : findSrcMatchAvailEntry entries with
    | none => exact .inr (.inl ⟨hmissed, length_held_of_no_avail hfind, rfl⟩)
    | some entry =>
      refine .inr (.inr ⟨hmissed, _, rfl, ?_, held_addToSrcMatchIndirect hfind⟩)
      simp [addToSrcMatchIndirect]

/-- What `otPlatRadioClearSrcMatch{Short,Ext}Entry` does to a table that holds the checksum. -/
theorem clearSrcMatchEntry_of_mem (hmem : checksum ∈ heldChecksums entries) :
    ∃ next, clearSrcMatchEntry entries (srcMatchFindEntry entries checksum) = (.none, next) ∧
      next.length = entries.length ∧
      (heldChecksums entries).Perm (checksum :: heldChecksums next) := by
  obtain ⟨entry, hfind⟩ := Option.isSome_iff_exists.mp (isSome_srcMatchFindEntry.mpr hmem)
  obtain ⟨hentry, hkey⟩ := key_of_srcMatchFindEntry hfind
  refine ⟨removeFromSrcMatchIndirect entries entry, by rw [hfind]; rfl, ?_, ?_⟩
  · simp [removeFromSrcMatchIndirect]
  · exact held_perm_of_freed hentry hkey rfl

@[simp]
theorem length_clearSrcMatchEntries :
    (clearSrcMatchEntries entries).length = entries.length := by
  simp [clearSrcMatchEntries]

@[simp]
theorem held_clearSrcMatchEntries : heldChecksums (clearSrcMatchEntries entries) = [] := by
  simp [clearSrcMatchEntries, held, SrcMatchEntry.key]

end

/-! ## The functions of the file -/

/-- The checksum of a short address. -/
def shortChecksum (panId aShortAddress : UInt16) : UInt16 := aShortAddress + panId

/-- One 16-bit word of an extended address, low byte first. -/
def extAddressWord (low high : UInt8) : UInt16 := low.toUInt16 ||| high.toUInt16 <<< 8

/-- The sum of the words of an extended address. -/
def extAddressSum (aExtAddress : OtExtAddress) : UInt16 :=
  extAddressWord aExtAddress[0] aExtAddress[1] + extAddressWord aExtAddress[2] aExtAddress[3] +
    extAddressWord aExtAddress[4] aExtAddress[5] + extAddressWord aExtAddress[6] aExtAddress[7]

/-- The checksum of an extended address. -/
def extChecksum (panId : UInt16) (aExtAddress : OtExtAddress) : UInt16 :=
  panId + extAddressSum aExtAddress

namespace SourceMatch

variable (config : Config) (table : SourceMatch)

/-- Write one `sPanId`. -/
def setPanIdAt (panIndex : ℕ) (aPanId : UInt16) : SourceMatch :=
  { table with sPanId := Function.update table.sPanId panIndex aPanId }

/-- Write the short entries of one PAN index. -/
def setShortEntry (panIndex : ℕ) (entries : List SrcMatchEntry) : SourceMatch :=
  { table with
    srcMatchShortEntry := Function.update table.srcMatchShortEntry panIndex entries }

/-- Write the extended entries of one PAN index. -/
def setExtEntry (panIndex : ℕ) (entries : List SrcMatchEntry) : SourceMatch :=
  { table with srcMatchExtEntry := Function.update table.srcMatchExtEntry panIndex entries }

/-- The PAN index that the functions use as an index.  They are called with the iid of an instance
or of a received frame, for which `efr32GetPanIndexFromIid` is valid except for the broadcast iid
of a multipan build. -/
def panIndexOf (iid : ℕ) : ℕ := (config.efr32GetPanIndexFromIid iid).getD invalidInterfaceIndex

/-- `utilsSoftSrcMatchSetPanId`. -/
def utilsSoftSrcMatchSetPanId (iid : ℕ) (aPanId : UInt16) : SourceMatch :=
  table.setPanIdAt (panIndexOf config iid) aPanId

/-- The part of `otPlatRadioSetPanId` that concerns the tables. -/
def otPlatRadioSetPanId (iid : ℕ) (aPanId : UInt16) : SourceMatch :=
  if config.canAccessPal then table.utilsSoftSrcMatchSetPanId config iid aPanId else table

/-- `utilsSoftSrcMatchShortFindEntry`, with `none` for `-1`. -/
def utilsSoftSrcMatchShortFindEntry (iid : ℕ) (aShortAddress : UInt16) : Option ℕ :=
  if config.multipan && iid == 0 then none
  else
    let panIndex := panIndexOf config iid
    srcMatchFindEntry (table.srcMatchShortEntry panIndex)
      (shortChecksum (table.sPanId panIndex) aShortAddress)

/-- `utilsSoftSrcMatchExtFindEntry`, with `none` for `-1`. -/
def utilsSoftSrcMatchExtFindEntry (iid : ℕ) (aExtAddress : OtExtAddress) : Option ℕ :=
  if config.multipan && iid == 0 then none
  else
    let panIndex := panIndexOf config iid
    srcMatchFindEntry (table.srcMatchExtEntry panIndex)
      (extChecksum (table.sPanId panIndex) aExtAddress)

/-- `otPlatRadioAddSrcMatchShortEntry`. -/
def otPlatRadioAddSrcMatchShortEntry (iid : ℕ) (aShortAddress : UInt16) : OtError × SourceMatch :=
  let panIndex := panIndexOf config iid
  let (error, entries) := addSrcMatchEntry config.multipan (table.srcMatchShortEntry panIndex)
    (table.utilsSoftSrcMatchShortFindEntry config iid aShortAddress)
    (shortChecksum (table.sPanId panIndex) aShortAddress)
  (error, table.setShortEntry panIndex entries)

/-- `otPlatRadioClearSrcMatchShortEntry`. -/
def otPlatRadioClearSrcMatchShortEntry (iid : ℕ) (aShortAddress : UInt16) :
    OtError × SourceMatch :=
  let panIndex := panIndexOf config iid
  let (error, entries) := clearSrcMatchEntry (table.srcMatchShortEntry panIndex)
    (table.utilsSoftSrcMatchShortFindEntry config iid aShortAddress)
  (error, table.setShortEntry panIndex entries)

/-- `otPlatRadioClearSrcMatchShortEntries`. -/
def otPlatRadioClearSrcMatchShortEntries (iid : ℕ) : SourceMatch :=
  let panIndex := panIndexOf config iid
  table.setShortEntry panIndex (clearSrcMatchEntries (table.srcMatchShortEntry panIndex))

/-- `otPlatRadioAddSrcMatchExtEntry`. -/
def otPlatRadioAddSrcMatchExtEntry (iid : ℕ) (aExtAddress : OtExtAddress) :
    OtError × SourceMatch :=
  let panIndex := panIndexOf config iid
  let (error, entries) := addSrcMatchEntry config.multipan (table.srcMatchExtEntry panIndex)
    (table.utilsSoftSrcMatchExtFindEntry config iid aExtAddress)
    (extChecksum (table.sPanId panIndex) aExtAddress)
  (error, table.setExtEntry panIndex entries)

/-- `otPlatRadioClearSrcMatchExtEntry`. -/
def otPlatRadioClearSrcMatchExtEntry (iid : ℕ) (aExtAddress : OtExtAddress) :
    OtError × SourceMatch :=
  let panIndex := panIndexOf config iid
  let (error, entries) := clearSrcMatchEntry (table.srcMatchExtEntry panIndex)
    (table.utilsSoftSrcMatchExtFindEntry config iid aExtAddress)
  (error, table.setExtEntry panIndex entries)

/-- `otPlatRadioClearSrcMatchExtEntries`. -/
def otPlatRadioClearSrcMatchExtEntries (iid : ℕ) : SourceMatch :=
  let panIndex := panIndexOf config iid
  table.setExtEntry panIndex (clearSrcMatchEntries (table.srcMatchExtEntry panIndex))

end SourceMatch

end OtEfr32.Radio
