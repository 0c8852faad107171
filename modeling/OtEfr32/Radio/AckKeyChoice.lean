import OtEfr32.Radio.KeyInstallation

/-!
# The key of an enhanced ACK

Thread numbers its keys by a sequence and names the key of a sequence number by an index from 1 to
128 that starts over.  An ACK is secured with the key that its key id names: the one of the current
sequence number or of a neighbour.  The driver compares the key id with the current one and the
numbers before and behind it, which are not the indices of the neighbours where the index starts
over.
-/

namespace OtEfr32.Radio

open Transition

/-- The key index of a sequence number. -/
def keyIndex (sequence : ℕ) : ℕ := sequence % 128 + 1

/-- The sequence number whose key is in a slot. -/
def neighbour (sequence : ℕ) : MacKeySlot → ℕ
  | .prev => sequence - 1
  | .current => sequence
  | .next => sequence + 1

/-- The call of `otPlatRadioSetMacKey` for a sequence number. -/
def sequenceCall (keys : ℕ → MacKey) (iid sequence : ℕ) : SetMacKeyArgs where
  iid
  aKeyId := keyIndex sequence
  aPrevKey := keys (sequence - 1)
  aCurrKey := keys sequence
  aNextKey := keys (sequence + 1)

theorem sequenceCall_key (keys : ℕ → MacKey) (iid sequence : ℕ) :
    (sequenceCall keys iid sequence).key = fun slot ↦ keys (neighbour sequence slot) := by
  funext slot
  cases slot <;> rfl

/-- A secured frame with key id mode 1 that is not processed yet. -/
structure FrameSecurity.IsPending (aFrame : FrameSecurity) : Prop where
  isSecurityEnabled : aFrame.isSecurityEnabled = true
  isKeyIdMode1 : aFrame.isKeyIdMode1 = true
  mIsSecurityProcessed : aFrame.mIsSecurityProcessed = false

namespace MacSecurity

/-- The ACK is encrypted with a key and keeps its key id. -/
structure Selects (config : Config) (security : MacSecurity) (iid : ℕ) (aFrame : FrameSecurity)
    (key : MacKey) : Prop where
  error : (security.radioProcessTransmitSecurity config true aFrame iid).1 = .none
  keyId : (security.radioProcessTransmitSecurity config true aFrame iid).2.1.keyId = aFrame.keyId
  encryption : ∃ encryption,
    (security.radioProcessTransmitSecurity config true aFrame iid).2.2.encryptions =
      security.encryptions ++ [encryption] ∧ encryption.iid = iid ∧ encryption.key = key

/-- The ACK is refused; frame, counters and keys stay. -/
def Refuses (config : Config) (security : MacSecurity) (iid : ℕ) (aFrame : FrameSecurity) : Prop :=
  security.radioProcessTransmitSecurity config true aFrame iid = (.security, aFrame, security)

variable {config : Config} {security : MacSecurity} {iid : ℕ} {aFrame : FrameSecurity}

/-- Such a frame passes the checks of `radioProcessTransmitSecurity`. -/
theorem guard_of_isPending (hpending : aFrame.IsPending)
    (hpan : (config.efr32GetPanIndexFromIid iid).isSome = true) :
    (aFrame.isSecurityEnabled && aFrame.isKeyIdMode1 && !aFrame.mIsSecurityProcessed &&
      (config.efr32GetPanIndexFromIid iid).isSome) = true := by
  rw [hpending.isSecurityEnabled, hpending.isKeyIdMode1, hpending.mIsSecurityProcessed, hpan]
  rfl

theorem selects_of_selectKey (hpending : aFrame.IsPending)
    (hpan : (config.efr32GetPanIndexFromIid iid).isSome = true) {slot : MacKeySlot}
    (hselect : selectKey true aFrame (security.sMacKeys iid) = .ok (aFrame.keyId, slot)) :
    Selects config security iid aFrame ((security.sMacKeys iid).keys slot) := by
  have hguard := guard_of_isPending hpending hpan
  have hkeys := (security.assignCounter_sMacKeys true iid aFrame.keyId aFrame iid).2.1
  cases hupdated : aFrame.mIsHeaderUpdated with
  | true =>
    have hresult : security.radioProcessTransmitSecurity config true aFrame iid =
        (.none, security.efr32PlatProcessTransmitAesCcm iid slot aFrame) := by
      simp only [radioProcessTransmitSecurity, hguard, hselect, hupdated, if_true]
    exact ⟨by rw [hresult], by rw [hresult]; rfl, _, by rw [hresult]; rfl, rfl, rfl⟩
  | false =>
    have hresult : security.radioProcessTransmitSecurity config true aFrame iid =
        (.none,
          (security.assignCounter true iid aFrame.keyId aFrame).2.efr32PlatProcessTransmitAesCcm
            iid slot (security.assignCounter true iid aFrame.keyId aFrame).1) := by
      simp only [radioProcessTransmitSecurity, hguard, hselect, hupdated, if_true,
        Bool.false_eq_true, if_false]
    exact ⟨by rw [hresult], by rw [hresult]; rfl, _, by rw [hresult]; rfl, rfl,
      congrFun hkeys slot⟩

theorem refuses_of_selectKey (hpending : aFrame.IsPending)
    (hpan : (config.efr32GetPanIndexFromIid iid).isSome = true)
    (hselect : selectKey true aFrame (security.sMacKeys iid) = .error .security) :
    Refuses config security iid aFrame := by
  have hguard := guard_of_isPending hpending hpan
  simp only [Refuses, radioProcessTransmitSecurity, hguard, hselect, if_true]

end MacSecurity

/-- The instances have PAN indices. -/
theorem Config.panIndex_isSome_of_isIid {config : Config} {iid : ℕ}
    (hiid : config.isIid iid = true) : (config.efr32GetPanIndexFromIid iid).isSome = true := by
  cases hmultipan : config.multipan with
  | true =>
    obtain ⟨hlow, hhigh⟩ := (Config.isIid_multipan hmultipan).mp hiid
    have hvalid : (decide (iid < config.radioInterfaceCount) && iid != 0) = true := by
      simp only [radioInterfaceCount, hmultipan, if_true, Bool.and_eq_true, decide_eq_true_eq,
        bne_iff_ne]
      omega
    simp only [efr32GetPanIndexFromIid, hmultipan, hvalid, if_true, Option.isSome_some]
  | false => simp [efr32GetPanIndexFromIid, hmultipan]

/-! ## The law of the choice -/

/-- In every state behind a call of `otPlatRadioSetMacKey` for a sequence number, up to the next one
for the instance, an ACK is secured with the key that its key id names among the three, and refused
if it names none of them. -/
def AckKeyLaw (sequence : ℕ) : Prop :=
  ∀ (config : Config) (keys : ℕ → MacKey) (iid : ℕ) (radio started final : Driver)
    (labels : List RadioEvent) (aFrame : FrameSecurity),
    config.canAccessPal = true →
    radioStep config radio (.setMacKey (sequenceCall keys iid sequence)) = some started →
    (∀ other, .setMacKey other ∈ labels → other.iid ≠ iid) →
    exec (radioStep config) started labels = some final →
    final.security.isSettingMacKey iid = false →
    aFrame.IsPending →
    (∀ slot, aFrame.keyId = keyIndex (neighbour sequence slot) →
      final.security.Selects config iid aFrame (keys (neighbour sequence slot))) ∧
    (aFrame.keyId ≠ 0 → (∀ slot, aFrame.keyId ≠ keyIndex (neighbour sequence slot)) →
      final.security.Refuses config iid aFrame)

/-! ## When the law holds -/

variable {sequence : ℕ} {aFrame : FrameSecurity} {material : SecurityMaterial}

/-- Away from the ends of the index, the neighbours have the numbers before and behind. -/
theorem selectKey_neighbour (hmaterial : material.keyId = keyIndex sequence)
    (hfirst : sequence % 128 ≠ 0) (hlast : sequence % 128 ≠ 127) {slot : MacKeySlot}
    (hkeyId : aFrame.keyId = keyIndex (neighbour sequence slot)) :
    MacSecurity.selectKey true aFrame material = .ok (aFrame.keyId, slot) := by
  simp only [MacSecurity.selectKey, if_true, hmaterial]
  cases slot with
  | prev =>
    have hbefore : aFrame.keyId + 1 = keyIndex sequence := by
      simp only [keyIndex, neighbour] at hkeyId ⊢
      omega
    have hnonzero : aFrame.keyId ≠ 0 := by
      simp only [keyIndex] at hkeyId
      omega
    rw [if_neg hnonzero, if_pos hbefore]
  | current =>
    have hnonzero : aFrame.keyId ≠ 0 := by
      simp only [keyIndex] at hkeyId
      omega
    have hsame : aFrame.keyId = keyIndex sequence := hkeyId
    rw [if_neg hnonzero, if_neg (by omega), if_pos hsame]
  | next =>
    have hbehind : aFrame.keyId = keyIndex sequence + 1 := by
      simp only [keyIndex, neighbour] at hkeyId ⊢
      omega
    rw [if_neg (by omega), if_neg (by omega), if_neg (by omega), if_pos hbehind]

/-- A key id is refused that is neither the current one nor next to it. -/
theorem selectKey_of_far (hnonzero : aFrame.keyId ≠ 0)
    (hbefore : aFrame.keyId + 1 ≠ material.keyId) (hsame : aFrame.keyId ≠ material.keyId)
    (hbehind : aFrame.keyId ≠ material.keyId + 1) :
    MacSecurity.selectKey true aFrame material = .error .security := by
  simp only [MacSecurity.selectKey, if_true]
  rw [if_neg hnonzero, if_neg hbefore, if_neg hsame, if_neg hbehind]

theorem ackKeyLaw_of_inner (hfirst : sequence % 128 ≠ 0) (hlast : sequence % 128 ≠ 127) :
    AckKeyLaw sequence := by
  intro config keys iid radio started final labels aFrame hpal hcall hother hrun hreturned hpending
  have hiid : config.isIid iid = true := by
    cases Driver.step_of_radioStep hcall with
    | main _ hmain =>
      cases hmain with
      | setMacKey hiid => exact hiid
      | refused hrefused => exact absurd (hpal.symm.trans hrefused) (by decide)
  have hpan := Config.panIndex_isSome_of_isIid hiid
  have hinstalled := installed_of_run hpal hcall hother hrun hreturned
  have hkeyId : (final.security.sMacKeys iid).keyId = keyIndex sequence := hinstalled.keyId
  have hkeys : (final.security.sMacKeys iid).keys = fun slot ↦ keys (neighbour sequence slot) :=
    hinstalled.keys.trans (sequenceCall_key keys iid sequence)
  constructor
  · intro slot hslot
    have hselects := MacSecurity.selects_of_selectKey hpending hpan
      (selectKey_neighbour hkeyId hfirst hlast hslot)
    rwa [hkeys] at hselects
  · intro hnonzero hforeign
    have hprev := hforeign .prev
    have hcurrent := hforeign .current
    have hnext := hforeign .next
    simp only [keyIndex, neighbour] at hprev hcurrent hnext
    apply MacSecurity.refuses_of_selectKey hpending hpan
    apply selectKey_of_far hnonzero
    all_goals
      rw [hkeyId, keyIndex]
      omega

/-- A radio whose keys have been set, in a single-PAN build. -/
theorem exists_run_setMacKey (call : SetMacKeyArgs) (hiid : call.iid = 0) :
    ∃ started final, radioStep .singlePan (efr32RadioInit .singlePan) (.setMacKey call) =
        some started ∧
      exec (radioStep .singlePan) started (List.replicate 5 .setMacKeyStep) = some final ∧
      final.security.isSettingMacKey call.iid = false := by
  obtain ⟨iid, aKeyId, aPrevKey, aCurrKey, aNextKey⟩ := call
  obtain rfl : iid = 0 := hiid
  exact ⟨_, _, rfl, rfl, rfl⟩

/-- An ACK with a key id. -/
def ackWithKeyId (keyId : ℕ) : FrameSecurity := { isSecurityEnabled := true, keyId }

theorem ackWithKeyId_isPending (keyId : ℕ) : (ackWithKeyId keyId).IsPending := ⟨rfl, rfl, rfl⟩

/-- The law fails where the key id of a neighbour is not next to the current one. -/
theorem not_ackKeyLaw_of_far {slot : MacKeySlot}
    (hbefore : keyIndex (neighbour sequence slot) + 1 ≠ keyIndex sequence)
    (hsame : keyIndex (neighbour sequence slot) ≠ keyIndex sequence)
    (hbehind : keyIndex (neighbour sequence slot) ≠ keyIndex sequence + 1) :
    ¬ AckKeyLaw sequence := by
  intro hlaw
  set call := sequenceCall id 0 sequence
  obtain ⟨started, final, hcall, hrun, hreturned⟩ := exists_run_setMacKey call rfl
  have hother : ∀ other, RadioEvent.setMacKey other ∈ List.replicate 5 RadioEvent.setMacKeyStep →
      other.iid ≠ 0 := by
    intro other hmem
    cases List.eq_of_mem_replicate hmem
  have hpending := ackWithKeyId_isPending (keyIndex (neighbour sequence slot))
  have hselects := (hlaw .singlePan id 0 _ started final _ _ rfl hcall hother hrun hreturned
    hpending).1 slot rfl
  have hkeyId : (final.security.sMacKeys 0).keyId = keyIndex sequence :=
    (installed_of_run rfl hcall hother hrun hreturned).keyId
  have hrefuses : final.security.Refuses .singlePan 0
      (ackWithKeyId (keyIndex (neighbour sequence slot))) := by
    apply MacSecurity.refuses_of_selectKey hpending rfl
    apply selectKey_of_far (Nat.succ_ne_zero _)
    · rwa [hkeyId]
    · rwa [hkeyId]
    · rwa [hkeyId]
  have herror := hselects.error
  rw [hrefuses] at herror
  cases herror

/-- The law holds of every sequence number but those whose index is the first or the last. -/
theorem ackKeyLaw_iff (hpos : 1 ≤ sequence) :
    AckKeyLaw sequence ↔ sequence % 128 ≠ 0 ∧ sequence % 128 ≠ 127 := by
  constructor
  · intro hlaw
    constructor
    · intro hfirst
      apply @not_ackKeyLaw_of_far sequence .prev _ _ _ hlaw
      all_goals
        simp only [keyIndex, neighbour]
        omega
    · intro hlast
      apply @not_ackKeyLaw_of_far sequence .next _ _ _ hlaw
      all_goals
        simp only [keyIndex, neighbour]
        omega
  · rintro ⟨hfirst, hlast⟩
    exact ackKeyLaw_of_inner hfirst hlast

theorem ackKeyLaw_first : AckKeyLaw 1 := (ackKeyLaw_iff (Nat.le_refl 1)).mpr (by decide)

/-- The next key behind index 128 and the previous one before index 1 are refused. -/
theorem not_ackKeyLaw_wrap : ¬ AckKeyLaw 127 ∧ ¬ AckKeyLaw 128 := by
  constructor
  · exact @not_ackKeyLaw_of_far 127 .next (by decide) (by decide) (by decide)
  · exact @not_ackKeyLaw_of_far 128 .prev (by decide) (by decide) (by decide)

end OtEfr32.Radio
