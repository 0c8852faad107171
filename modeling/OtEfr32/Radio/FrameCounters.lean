import OtEfr32.Data.Stamps
import OtEfr32.Radio.Security

/-!
# Frame counters under key rotation

The three keys of an instance share one frame counter, which starts again with every call of
`otPlatRadioSetMacKey`.  The resets of the counter and its value are a stamp, and each frame gets
the stamp of its assignment: no stamp goes to two frames.  A key and a counter name a frame only
where the key tells the epoch of the counter, which is so for the plain encryptions with the keys of
one slot.
-/

namespace OtEfr32.Radio

open Data

/-- A sequence of keys for each instance: the keys of an instance are all different, and none is
the key of a slot that was never set. -/
structure KeySequence where
  key : ℕ → ℕ → MacKey
  injective : ∀ iid, Function.Injective (key iid)
  ne_unset : ∀ iid number, key iid number ≠ 0

/-- The key in a slot of an instance behind a number of calls of `otPlatRadioSetMacKey`. -/
def KeySequence.inSlot (sequence : KeySequence) (iid : ℕ) : MacKeySlot → ℕ → MacKey
  | _, 0 => 0
  | .prev, epoch + 1 => sequence.key iid epoch
  | .current, epoch + 1 => sequence.key iid (epoch + 1)
  | .next, epoch + 1 => sequence.key iid (epoch + 2)

theorem KeySequence.inSlot_succ (sequence : KeySequence) (iid : ℕ) (slot : MacKeySlot) :
    ∃ shift, ∀ epoch, sequence.inSlot iid slot (epoch + 1) = sequence.key iid (epoch + shift) := by
  cases slot with
  | prev => exact ⟨0, fun _ ↦ rfl⟩
  | current => exact ⟨1, fun _ ↦ rfl⟩
  | next => exact ⟨2, fun _ ↦ rfl⟩

@[simp]
theorem KeySequence.inSlot_zero (sequence : KeySequence) (iid : ℕ) (slot : MacKeySlot) :
    sequence.inSlot iid slot 0 = 0 := by
  cases slot <;> rfl

theorem KeySequence.inSlot_injective (sequence : KeySequence) (iid : ℕ) (slot : MacKeySlot) :
    Function.Injective (sequence.inSlot iid slot) := by
  obtain ⟨shift, hkey⟩ := sequence.inSlot_succ iid slot
  intro epoch epoch' heq
  cases epoch with
  | zero =>
    cases epoch' with
    | zero => rfl
    | succ epoch' =>
      rw [inSlot_zero, hkey] at heq
      exact absurd heq.symm (sequence.ne_unset iid (epoch' + shift))
  | succ epoch =>
    cases epoch' with
    | zero =>
      rw [inSlot_zero, hkey] at heq
      exact absurd heq (sequence.ne_unset iid (epoch + shift))
    | succ epoch' =>
      rw [hkey, hkey] at heq
      have hsame := sequence.injective iid heq
      omega

/-- The call follows the rotation: the window of three keys moves along the sequence by one key with
each call, so the previous key is the last current key, the current key is the last next key, and
the next key is fresh. -/
def SetMacKeyArgs.Follows (sequence : KeySequence) (security : MacSecurity)
    (call : SetMacKeyArgs) : Prop :=
  let epoch := (security.sMacKeys call.iid).epoch
  call.aPrevKey = sequence.key call.iid epoch ∧
    call.aCurrKey = sequence.key call.iid (epoch + 1) ∧
    call.aNextKey = sequence.key call.iid (epoch + 2)

instance (sequence : KeySequence) (security : MacSecurity) (call : SetMacKeyArgs) :
    Decidable (call.Follows sequence security) :=
  inferInstanceAs (Decidable (_ ∧ _ ∧ _))

theorem SetMacKeyArgs.Follows.key {sequence : KeySequence} {security : MacSecurity}
    {call : SetMacKeyArgs} (h : call.Follows sequence security) (slot : MacKeySlot) :
    call.key slot =
      sequence.inSlot call.iid slot ((security.sMacKeys call.iid).epoch + 1) := by
  cases slot with
  | prev => exact h.1
  | current => exact h.2.1
  | next => exact h.2.2

/-- The slots that a running `otPlatRadioSetMacKey` has copied before a statement. -/
def SetMacKeyLocation.hasCopied : SetMacKeyLocation → MacKeySlot → Bool
  | .copyKey .current, slot => slot == .prev
  | .copyKey .next, slot => slot != .next
  | _, _ => false

/-- The counter of a frame with its epoch. -/
def Encryption.stamp (encryption : Encryption) : ℕ ×ₗ ℕ :=
  toLex (encryption.epoch, encryption.frameCounter)

namespace MacSecurity

variable {config : Config} {sequence : KeySequence} {security next : MacSecurity} {iid : ℕ}
  {aFrame : FrameSecurity}

/-! ## The law -/

/-- No two frames of an instance share a counter between two resets, and no two frames that an
instance encrypts plainly with keys of the same slot share a key and a counter. -/
structure NonceLaw (security : MacSecurity) : Prop where
  counter : ∀ first ∈ security.encryptions, ∀ second ∈ security.encryptions,
    first.iid = second.iid → first.epoch = second.epoch →
      first.frameCounter = second.frameCounter → first.assignment = second.assignment
  plain : ∀ first ∈ security.encryptions, ∀ second ∈ security.encryptions,
    first.plain = true → second.plain = true → first.slot = second.slot →
      first.iid = second.iid → first.key = second.key →
        first.frameCounter = second.frameCounter → first.assignment = second.assignment

/-- No two frames of an instance are encrypted with the same key and the same counter. -/
def NoncesDistinct (security : MacSecurity) : Prop :=
  ∀ first ∈ security.encryptions, ∀ second ∈ security.encryptions,
    first.iid = second.iid → first.key = second.key →
      first.frameCounter = second.frameCounter → first.assignment = second.assignment

instance : DecidablePred NoncesDistinct := fun security ↦
  inferInstanceAs (Decidable (∀ first ∈ security.encryptions, ∀ second ∈ security.encryptions, _))

/-- A frame whose header is updated carries a counter that the driver assigned to it earlier. -/
def Carries (security : MacSecurity) (iid : ℕ) (aFrame : FrameSecurity) : Prop :=
  aFrame.mIsHeaderUpdated = true → ∃ encryption ∈ security.encryptions,
    encryption.iid = iid ∧ encryption.frameCounter = aFrame.frameCounter ∧
      encryption.assignment = aFrame.assignment ∧ encryption.epoch = aFrame.epoch

instance : Decidable (security.Carries iid aFrame) :=
  inferInstanceAs (Decidable (_ → ∃ encryption ∈ security.encryptions, _))

theorem Carries.mono (h : security.Carries iid aFrame)
    (hsubset : security.encryptions ⊆ next.encryptions) : next.Carries iid aFrame := by
  intro hupdated
  obtain ⟨encryption, hmem, hencryption⟩ := h hupdated
  exact ⟨encryption, hsubset hmem, hencryption⟩

/-! ## The invariant -/

/-- The stamp that the next frame of an instance gets. -/
def stamp (security : MacSecurity) (iid : ℕ) : ℕ ×ₗ ℕ :=
  toLex ((security.sMacKeys iid).epoch, (security.sMacKeys iid).macFrameCounter)

/-- The stamps that an instance has given to frames. -/
def given (security : MacSecurity) (iid : ℕ) : Set ((ℕ ×ₗ ℕ) × ℕ) :=
  {entry | ∃ encryption ∈ security.encryptions,
    encryption.iid = iid ∧ (encryption.stamp, encryption.assignment) = entry}

/-- How far a running `otPlatRadioSetMacKey` has come with the keys. -/
def Rotating (sequence : KeySequence) (security : MacSecurity) (call : SetMacKeyArgs) :
    SetMacKeyLocation → Prop
  | .resetCounter => ∀ slot, call.key slot =
      sequence.inSlot call.iid slot ((security.sMacKeys call.iid).epoch + 1)
  | location => ∀ slot,
      call.key slot = sequence.inSlot call.iid slot (security.sMacKeys call.iid).epoch ∧
        (location.hasCopied slot = true →
          (security.sMacKeys call.iid).keys slot = call.key slot)

/-- The invariant of the security state. -/
structure NonceConsistent (sequence : KeySequence) (security : MacSecurity) : Prop where
  /-- Each stamp went to one frame, until a counter wraps. -/
  issued : security.wraps = 0 → ∀ iid, Issued (security.given iid) (security.stamp iid)
  plain : ∀ encryption ∈ security.encryptions, encryption.plain = true →
    encryption.key = sequence.inSlot encryption.iid encryption.slot encryption.epoch
  installed : ∀ iid, security.isSettingMacKey iid = false → ∀ slot,
    (security.sMacKeys iid).keys slot =
      sequence.inSlot iid slot (security.sMacKeys iid).epoch
  rotating : ∀ call location, security.setMacKey = some (call, location) →
    security.Rotating sequence call location

theorem NonceConsistent.nonceLaw (h : NonceConsistent sequence security)
    (hwraps : security.wraps = 0) : security.NonceLaw where
  counter first hfirst second hsecond hiid hepoch hcounter := by
    have hstamp : second.stamp = first.stamp := by
      rw [Encryption.stamp, Encryption.stamp, hepoch, hcounter]
    exact (h.issued hwraps first.iid).item_eq ⟨first, hfirst, rfl, rfl⟩
      ⟨second, hsecond, hiid.symm, by rw [hstamp]⟩
  plain first hfirst second hsecond hplain hplain' hslot hiid hkey hcounter := by
    have heq : sequence.inSlot first.iid first.slot first.epoch =
        sequence.inSlot first.iid first.slot second.epoch := by
      rw [← h.plain first hfirst hplain, hkey, h.plain second hsecond hplain', hiid, hslot]
    refine (h.issued hwraps first.iid).item_eq_of_key
      (sequence.inSlot_injective first.iid first.slot)
      ⟨first, hfirst, rfl, rfl⟩ ⟨second, hsecond, hiid.symm, ?_⟩ heq
    rw [Encryption.stamp, hcounter]

/-! ## Keys and counters -/

/-- Counters rise, and everything else that the invariant speaks about stays. -/
theorem NonceConsistent.raise (h : NonceConsistent sequence security)
    (hencryptions : next.encryptions = security.encryptions)
    (hrunning : next.setMacKey = security.setMacKey)
    (hkeys : ∀ iid, (next.sMacKeys iid).epoch = (security.sMacKeys iid).epoch ∧
      (next.sMacKeys iid).keys = (security.sMacKeys iid).keys)
    (hstamp : next.wraps = 0 → security.wraps = 0 ∧ ∀ iid, security.stamp iid ≤ next.stamp iid) :
    NonceConsistent sequence next := by
  refine ⟨fun hwraps iid ↦ ?_, fun encryption hmem ↦ ?_, fun iid hiid ↦ ?_,
    fun call location hcall ↦ ?_⟩
  · obtain ⟨hwraps, hle⟩ := hstamp hwraps
    have hgiven : next.given iid = security.given iid := by rw [given, given, hencryptions]
    rw [hgiven]
    exact (h.issued hwraps iid).raise (hle iid)
  · exact h.plain encryption (hencryptions ▸ hmem)
  · rw [(hkeys iid).1, (hkeys iid).2]
    apply h.installed iid
    rw [← hiid, isSettingMacKey, isSettingMacKey, hrunning]
  · have hrotating := h.rotating call location (hrunning ▸ hcall)
    unfold Rotating at hrotating ⊢
    rw [(hkeys call.iid).1, (hkeys call.iid).2]
    exact hrotating

theorem NonceConsistent.otPlatRadioSetMacFrameCounterIfLarger
    (h : NonceConsistent sequence security) (iid aMacFrameCounter : ℕ) :
    NonceConsistent sequence
      (security.otPlatRadioSetMacFrameCounterIfLarger iid aMacFrameCounter) := by
  unfold MacSecurity.otPlatRadioSetMacFrameCounterIfLarger
  refine h.raise rfl rfl (fun other ↦ ?_) fun hwraps ↦ ⟨hwraps, fun other ↦ ?_⟩
  · by_cases hother : other = iid
    · subst hother
      rw [update_self]
      split <;> exact ⟨rfl, rfl⟩
    · rw [update_of_ne _ hother]
      exact ⟨rfl, rfl⟩
  · by_cases hother : other = iid
    · subst hother
      rw [stamp, stamp, update_self, Prod.Lex.toLex_le_toLex]
      split
      case isTrue hlarger => exact .inr ⟨rfl, hlarger.le⟩
      case isFalse => exact .inr ⟨rfl, le_rfl⟩
    · rw [stamp, stamp, update_of_ne _ hother]

theorem isSettingMacKey_some {call : SetMacKeyArgs} {location : SetMacKeyLocation}
    (hcall : security.setMacKey = some (call, location)) (iid : ℕ) :
    security.isSettingMacKey iid = false ↔ iid ≠ call.iid := by
  simpa [isSettingMacKey, hcall] using ne_comm

/-- A call starts. -/
theorem NonceConsistent.otPlatRadioSetMacKey (h : NonceConsistent sequence security)
    (hrest : security.setMacKey = none) {call : SetMacKeyArgs}
    (hcall : call.Follows sequence security) :
    NonceConsistent sequence (security.otPlatRadioSetMacKey call) where
  issued := h.issued
  plain := h.plain
  installed iid _ := h.installed iid (by simp [isSettingMacKey, hrest])
  rotating := by
    rintro _ _ ⟨rfl, rfl⟩
    exact hcall.key

/-- The keys and the running call change, but neither the counters nor the numbers of resets. -/
theorem NonceConsistent.changeKeys (h : NonceConsistent sequence security)
    {call : SetMacKeyArgs} {location : SetMacKeyLocation}
    (hcall : security.setMacKey = some (call, location))
    {change : SecurityMaterial → SecurityMaterial}
    (hstamp : ∀ material, (change material).epoch = material.epoch ∧
      (change material).macFrameCounter = material.macFrameCounter)
    {running : Option (SetMacKeyArgs × SetMacKeyLocation)}
    (hinstalled : running = none → ∀ slot, (change (security.sMacKeys call.iid)).keys slot =
      sequence.inSlot call.iid slot (security.sMacKeys call.iid).epoch)
    (hrotating : ∀ call' location', running = some (call', location') → call' = call ∧
      (security.update call.iid change).Rotating sequence call location') :
    NonceConsistent sequence ((security.update call.iid change).setRunning running) := by
  have hself : ((security.update call.iid change).setRunning running).sMacKeys call.iid =
      change (security.sMacKeys call.iid) := security.update_self call.iid change
  have hother : ∀ iid, iid ≠ call.iid →
      ((security.update call.iid change).setRunning running).sMacKeys iid =
        security.sMacKeys iid := fun iid hiid ↦ security.update_of_ne hiid change
  refine ⟨fun hwraps iid ↦ (h.issued hwraps iid).raise (le_of_eq ?_), h.plain,
    fun iid hiid ↦ ?_, fun call' location' heq ↦ ?_⟩
  · by_cases hsame : iid = call.iid
    · subst hsame
      rw [stamp, stamp, hself, (hstamp _).1, (hstamp _).2]
    · rw [stamp, stamp, hother iid hsame]
  · by_cases hsame : iid = call.iid
    · subst hsame
      rw [hself, (hstamp _).1]
      cases hrest : running with
      | none => exact hinstalled hrest
      | some next =>
        obtain ⟨rfl, -⟩ := hrotating next.1 next.2 hrest
        exact absurd rfl ((isSettingMacKey_some hrest _).mp hiid)
    · rw [hother iid hsame]
      exact h.installed iid ((isSettingMacKey_some hcall iid).mpr hsame)
  · obtain ⟨rfl, hrotating⟩ := hrotating call' location' heq
    exact hrotating

theorem NonceConsistent.resetCounter (h : NonceConsistent sequence security)
    {call : SetMacKeyArgs} (hcall : security.setMacKey = some (call, .resetCounter)) :
    NonceConsistent sequence (security.setMacKeyStep call .resetCounter) := by
  have hself : (security.setMacKeyStep call .resetCounter).sMacKeys call.iid =
      { security.sMacKeys call.iid with
        macFrameCounter := 0, epoch := (security.sMacKeys call.iid).epoch + 1 } := by
    simp [setMacKeyStep, setRunning, otPlatRadioSetMacFrameCounter]
  have hother : ∀ iid, iid ≠ call.iid →
      (security.setMacKeyStep call .resetCounter).sMacKeys iid = security.sMacKeys iid := by
    intro iid hiid
    simp [setMacKeyStep, setRunning, otPlatRadioSetMacFrameCounter, update_of_ne _ hiid]
  refine ⟨fun hwraps iid ↦ (h.issued hwraps iid).raise ?_, h.plain, fun iid hiid ↦ ?_, ?_⟩
  · by_cases hsame : iid = call.iid
    · subst hsame
      rw [stamp, stamp, hself, Prod.Lex.toLex_le_toLex]
      exact .inl (Nat.lt_succ_self _)
    · rw [stamp, stamp, hother iid hsame]
  · have hne : iid ≠ call.iid := (isSettingMacKey_some rfl iid).mp hiid
    rw [hother iid hne]
    exact h.installed iid ((isSettingMacKey_some hcall iid).mpr hne)
  · rintro _ _ ⟨⟩ slot
    rw [hself]
    refine ⟨h.rotating call .resetCounter hcall slot, fun hcopied ↦ ?_⟩
    exact absurd hcopied Bool.false_ne_true

/-- The keys behind the copy into a slot: those of the call where it has copied. -/
theorem Rotating.keys_copyKey {call : SetMacKeyArgs} {slot other : MacKeySlot}
    (h : security.Rotating sequence call (.copyKey slot))
    (hcopied : other ≠ slot → (SetMacKeyLocation.copyKey slot).hasCopied other = true) :
    ((security.copyKey call slot).sMacKeys call.iid).keys other = call.key other := by
  rw [copyKey, update_self]
  by_cases hother : other = slot
  · rw [hother]
    exact Function.update_self slot (call.key slot) (security.sMacKeys call.iid).keys
  · exact (Function.update_of_ne hother _ _).trans ((h other).2 (hcopied hother))

/-- The copy into a slot takes a running call on to the next one. -/
theorem NonceConsistent.copyKey (h : NonceConsistent sequence security) {call : SetMacKeyArgs}
    {slot slot' : MacKeySlot} (hcall : security.setMacKey = some (call, .copyKey slot))
    (hcopied : ∀ other, (SetMacKeyLocation.copyKey slot').hasCopied other = true → other ≠ slot →
      (SetMacKeyLocation.copyKey slot).hasCopied other = true) :
    NonceConsistent sequence
      ((security.copyKey call slot).setRunning (some (call, .copyKey slot'))) := by
  have hrotating := h.rotating call (.copyKey slot) hcall
  apply h.changeKeys hcall
  · exact fun _ ↦ ⟨rfl, rfl⟩
  · exact fun hnone ↦ nomatch hnone
  rintro _ _ ⟨⟩
  refine ⟨rfl, fun other ↦ ⟨?_, fun hbefore ↦ ?_⟩⟩
  · rw [update_self]
    exact (hrotating other).1
  · exact hrotating.keys_copyKey (hcopied other hbefore)

/-- The next statement of a running call. -/
theorem NonceConsistent.setMacKeyStep (h : NonceConsistent sequence security)
    {call : SetMacKeyArgs} {location : SetMacKeyLocation}
    (hcall : security.setMacKey = some (call, location)) :
    NonceConsistent sequence (security.setMacKeyStep call location) := by
  have hrotating := h.rotating call location hcall
  cases location with
  | resetCounter => exact h.resetCounter hcall
  | setKeyId =>
    apply h.changeKeys hcall
    · exact fun _ ↦ ⟨rfl, rfl⟩
    · exact fun hnone ↦ nomatch hnone
    · rintro _ _ ⟨⟩
      refine ⟨rfl, fun slot ↦ ⟨?_, fun hcopied ↦ absurd hcopied Bool.false_ne_true⟩⟩
      rw [update_self]
      exact (hrotating slot).1
  | copyKey slot =>
    cases slot with
    | prev => exact h.copyKey hcall fun _ hcopied hne ↦ absurd (eq_of_beq hcopied) hne
    | current =>
      refine h.copyKey hcall fun other hcopied hne ↦ ?_
      cases other with
      | prev => rfl
      | current => exact absurd rfl hne
      | next => exact absurd hcopied (by decide)
    | next =>
      apply h.changeKeys hcall
      · exact fun _ ↦ ⟨rfl, rfl⟩
      · intro _ slot
        have hkey : ((security.copyKey call .next).sMacKeys call.iid).keys slot = call.key slot :=
          hrotating.keys_copyKey bne_iff_ne.mpr
        rw [MacSecurity.copyKey, update_self] at hkey
        exact hkey.trans (hrotating slot).1
      · rintro _ _ ⟨⟩

theorem setMacKeyStep_encryptions (security : MacSecurity) (call : SetMacKeyArgs)
    (location : SetMacKeyLocation) :
    (security.setMacKeyStep call location).encryptions = security.encryptions := by
  cases location with
  | copyKey slot => cases slot <;> rfl
  | resetCounter | setKeyId => rfl

/-! ## Securing a frame -/

/-- What `radioProcessTransmitSecurity` can do: leave the frame alone, encrypt a frame that has its
counter, or give it a counter and encrypt it. -/
theorem radioProcessTransmitSecurity_cases (security : MacSecurity) (config : Config)
    (isAck : Bool) (aFrame : FrameSecurity) (iid : ℕ) :
    let result := (security.radioProcessTransmitSecurity config isAck aFrame iid).2
    result = (aFrame, security) ∨
      (config.efr32GetPanIndexFromIid iid).isSome = true ∧
        ((∃ slot, aFrame.mIsHeaderUpdated = true ∧
          result = security.efr32PlatProcessTransmitAesCcm iid slot aFrame) ∨
        ∃ slot keyId, result =
          (security.assignCounter isAck iid keyId aFrame).2.efr32PlatProcessTransmitAesCcm iid slot
            (security.assignCounter isAck iid keyId aFrame).1) := by
  unfold radioProcessTransmitSecurity
  split
  case isTrue hguard =>
    have hpan : (config.efr32GetPanIndexFromIid iid).isSome = true :=
      (Bool.and_eq_true_iff.mp hguard).2
    split
    · exact .inl rfl
    case h_2 keyId slot hselected =>
      refine .inr ⟨hpan, ?_⟩
      by_cases hupdated : aFrame.mIsHeaderUpdated = true
      · exact .inl ⟨slot, hupdated, by rw [if_pos hupdated]⟩
      · exact .inr ⟨slot, keyId, by rw [if_neg hupdated]⟩
  case isFalse => exact .inl rfl

theorem efr32PlatProcessTransmitAesCcm_given (security : MacSecurity) (iid : ℕ)
    (slot : MacKeySlot) (aFrame : FrameSecurity) (other : ℕ) :
    (security.efr32PlatProcessTransmitAesCcm iid slot aFrame).2.given other =
      if other = iid then
        insert (toLex (aFrame.epoch, aFrame.frameCounter), aFrame.assignment)
          (security.given other)
      else security.given other := by
  ext entry
  by_cases hother : other = iid
  · subst hother
    simp [given, efr32PlatProcessTransmitAesCcm, Encryption.stamp, or_and_right, exists_or,
      or_comm, eq_comm]
  · simp [given, efr32PlatProcessTransmitAesCcm, hother, or_and_right, exists_or,
      Ne.symm hother]

/-- An encryption keeps the invariant, where the frame has one of the stamps that were given. -/
theorem NonceConsistent.efr32PlatProcessTransmitAesCcm (h : NonceConsistent sequence security)
    (hgiven : security.wraps = 0 →
      Issued (insert (toLex (aFrame.epoch, aFrame.frameCounter), aFrame.assignment)
        (security.given iid)) (security.stamp iid))
    (slot : MacKeySlot) :
    NonceConsistent sequence (security.efr32PlatProcessTransmitAesCcm iid slot aFrame).2 := by
  refine ⟨fun hwraps other ↦ ?_, fun encryption hmem hplain ↦ ?_, h.installed, h.rotating⟩
  · change Issued _ (security.stamp other)
    rw [efr32PlatProcessTransmitAesCcm_given]
    split
    case isTrue hother =>
      subst hother
      exact hgiven hwraps
    case isFalse => exact h.issued hwraps other
  · rcases List.mem_append.mp hmem with hold | hnew
    · exact h.plain encryption hold hplain
    · obtain rfl := List.mem_singleton.mp hnew
      simp only [Bool.and_eq_true, beq_iff_eq, Bool.not_eq_true'] at hplain
      simp only
      rw [h.installed iid hplain.1 slot, hplain.2]

theorem assignCounter_wraps {isAck : Bool} {keyId : ℕ}
    (hwraps : (security.assignCounter isAck iid keyId aFrame).2.wraps = 0) :
    security.wraps = 0 ∧ (security.sMacKeys iid).macFrameCounter + 1 < 2 ^ 32 := by
  change (if (security.sMacKeys iid).macFrameCounter + 1 < 2 ^ 32 then security.wraps
    else security.wraps + 1) = 0 at hwraps
  split at hwraps
  case isTrue hlt => exact ⟨hwraps, hlt⟩
  case isFalse => exact absurd hwraps (Nat.succ_ne_zero _)

theorem assignCounter_sMacKeys (security : MacSecurity) (isAck : Bool) (iid keyId : ℕ)
    (aFrame : FrameSecurity) (other : ℕ) :
    let material := (security.assignCounter isAck iid keyId aFrame).2.sMacKeys other
    material.epoch = (security.sMacKeys other).epoch ∧
      material.keys = (security.sMacKeys other).keys ∧
      material.macFrameCounter =
        if other = iid then ((security.sMacKeys iid).macFrameCounter + 1) % 2 ^ 32
        else (security.sMacKeys other).macFrameCounter := by
  by_cases hother : other = iid
  · subst hother
    simp [MacSecurity.assignCounter]
  · simp [MacSecurity.assignCounter, update_of_ne _ hother, hother]

/-- While no counter wraps, an assignment moves on to a greater stamp. -/
theorem assignCounter_stamp {isAck : Bool} {keyId : ℕ}
    (hwraps : (security.assignCounter isAck iid keyId aFrame).2.wraps = 0) :
    security.stamp iid < (security.assignCounter isAck iid keyId aFrame).2.stamp iid ∧
      ∀ other, security.stamp other ≤
        (security.assignCounter isAck iid keyId aFrame).2.stamp other := by
  have hmaterial := security.assignCounter_sMacKeys isAck iid keyId aFrame
  have hcounter := (hmaterial iid).2.2
  rw [if_pos rfl, Nat.mod_eq_of_lt (assignCounter_wraps hwraps).2] at hcounter
  have hlt : security.stamp iid <
      (security.assignCounter isAck iid keyId aFrame).2.stamp iid := by
    rw [stamp, stamp, Prod.Lex.toLex_lt_toLex, (hmaterial iid).1, hcounter]
    exact .inr ⟨rfl, Nat.lt_succ_self _⟩
  refine ⟨hlt, fun other ↦ ?_⟩
  by_cases hother : other = iid
  · subst hother
    exact hlt.le
  · rw [stamp, stamp, (hmaterial other).1, (hmaterial other).2.2, if_neg hother]

theorem NonceConsistent.assignCounter (h : NonceConsistent sequence security) (isAck : Bool)
    (iid keyId : ℕ) (aFrame : FrameSecurity) :
    NonceConsistent sequence (security.assignCounter isAck iid keyId aFrame).2 := by
  have hmaterial := security.assignCounter_sMacKeys isAck iid keyId aFrame
  refine h.raise rfl rfl (fun other ↦ ⟨(hmaterial other).1, (hmaterial other).2.1⟩) fun hwraps ↦ ?_
  exact ⟨(assignCounter_wraps hwraps).1, (assignCounter_stamp hwraps).2⟩

theorem radioProcessTransmitSecurity_nonceConsistent (h : NonceConsistent sequence security)
    (hcarries : security.Carries iid aFrame) (isAck : Bool) :
    NonceConsistent sequence
      (security.radioProcessTransmitSecurity config isAck aFrame iid).2.2 := by
  obtain heq | ⟨-, ⟨slot, hupdated, heq⟩ | ⟨slot, keyId, heq⟩⟩ :=
    security.radioProcessTransmitSecurity_cases config isAck aFrame iid
  · rw [heq]
    exact h
  · -- the frame keeps a stamp that was given to it
    rw [heq]
    refine h.efr32PlatProcessTransmitAesCcm (fun hwraps ↦ ?_) slot
    obtain ⟨encryption, hmem, hiid, hcounter, hassignment, hepoch⟩ := hcarries hupdated
    have hgiven : (toLex (aFrame.epoch, aFrame.frameCounter), aFrame.assignment) ∈
        security.given iid :=
      ⟨encryption, hmem, hiid, by rw [Encryption.stamp, hcounter, hassignment, hepoch]⟩
    rw [Set.insert_eq_of_mem hgiven]
    exact h.issued hwraps iid
  · -- the frame gets the next stamp
    rw [heq]
    refine (h.assignCounter isAck iid keyId aFrame).efr32PlatProcessTransmitAesCcm
      (fun hwraps ↦ ?_) slot
    exact (h.issued (assignCounter_wraps hwraps).1 iid).issue (assignCounter_stamp hwraps).1 _

theorem radioProcessTransmitSecurity_encryptions (security : MacSecurity) (config : Config)
    (isAck : Bool) (aFrame : FrameSecurity) (iid : ℕ) :
    security.encryptions ⊆
      (security.radioProcessTransmitSecurity config isAck aFrame iid).2.2.encryptions := by
  obtain heq | ⟨-, ⟨slot, -, heq⟩ | ⟨slot, keyId, heq⟩⟩ :=
    security.radioProcessTransmitSecurity_cases config isAck aFrame iid
  · rw [heq]
    exact List.Subset.refl _
  · rw [heq]
    exact List.subset_append_left _ _
  · rw [heq]
    exact List.subset_append_left _ _

/-- A secured frame carries the counter that it was given. -/
theorem radioProcessTransmitSecurity_carries (hcarries : security.Carries iid aFrame)
    (isAck : Bool) :
    (security.radioProcessTransmitSecurity config isAck aFrame iid).2.2.Carries iid
      (security.radioProcessTransmitSecurity config isAck aFrame iid).2.1 := by
  have hsubset := security.radioProcessTransmitSecurity_encryptions config isAck aFrame iid
  obtain heq | ⟨-, ⟨slot, -, heq⟩ | ⟨slot, keyId, heq⟩⟩ :=
    security.radioProcessTransmitSecurity_cases config isAck aFrame iid
  · rw [heq]
    exact hcarries
  · rw [heq] at hsubset ⊢
    exact hcarries.mono hsubset
  · rw [heq]
    exact fun _ ↦ ⟨_, List.mem_append_right _ (List.mem_singleton_self _), rfl, rfl, rfl, rfl⟩

/-- Without a PAN index nothing is secured. -/
theorem radioProcessTransmitSecurity_invalid (security : MacSecurity) {config : Config} {iid : ℕ}
    (hpan : (config.efr32GetPanIndexFromIid iid).isSome = false) (isAck : Bool)
    (aFrame : FrameSecurity) :
    (security.radioProcessTransmitSecurity config isAck aFrame iid).2 = (aFrame, security) := by
  simp [radioProcessTransmitSecurity, hpan]

end MacSecurity

end OtEfr32.Radio
