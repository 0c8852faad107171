import Mathlib.Data.Nat.Bitwise
import OtEfr32.Radio.Acknowledgment
import OtEfr32.Radio.AckKeyChoice

/-!
# The interface of an enhanced ACK

In a multipan build the interface of a received frame is read off RAIL's filter mask, of which
`sRailFilterMask` leaves the broadcast PAN and the PANs of the instances that have set one.  Where
more than one of these bits is set, or the one of the broadcast PAN, or none, it is the interface 0,
which has no PAN index.  `radioProcessTransmitSecurity` asserts that there is one when it is asked
to secure an ACK.
-/

namespace OtEfr32.Radio

open Transition

/-- `RADIO_EXT_ADDR_COUNT`. -/
def Config.radioExtAddrCount (config : Config) : ℕ :=
  if config.multipan then config.radioInterfaceCount - 1 else config.radioInterfaceCount

/-- The broadcast interface has no PAN index. -/
theorem Config.panIndex_zero {config : Config} (hmultipan : config.multipan = true) :
    config.efr32GetPanIndexFromIid 0 = none := by
  simp [efr32GetPanIndexFromIid, hmultipan]

/-- Every PAN index is one of `sExtAddress`. -/
theorem Config.panIndex_lt {config : Config} (hmultipan : config.multipan = true)
    {iid panIndex : ℕ} (hindex : config.efr32GetPanIndexFromIid iid = some panIndex) :
    panIndex < config.radioExtAddrCount := by
  rw [efr32GetPanIndexFromIid, if_pos hmultipan, Option.ite_none_right_eq_some, Bool.and_eq_true,
    decide_eq_true_eq, bne_iff_ne] at hindex
  obtain ⟨⟨hlt, hne⟩, heq⟩ := hindex
  have hpred : iid - 1 = panIndex := Option.some.inj heq
  rw [radioExtAddrCount, if_pos hmultipan]
  omega

/-! ## The filter mask in a run -/

/-- The instance has set a PAN id other than the broadcast one; the broadcast PAN is always
tracked. -/
def PanTracked (config : Config) (labels : List RadioEvent) (iid : ℕ) : Prop :=
  iid = radioBcastIid ∨
    config.canAccessPal = true ∧ ∃ aPanId, aPanId ≠ 0xFFFF ∧ .setPanId iid aPanId ∈ labels

namespace Driver

variable {config : Config} {radio next : Driver}

theorem radioStep_setPanId {iid aPanId : ℕ}
    (hstep : radioStep config radio (.setPanId iid aPanId) = some next) :
    config.isIid iid = true ∧ next.rx =
      if config.canAccessPal then radio.rx.otPlatRadioSetPanId config iid aPanId else radio.rx := by
  obtain ⟨_, hmain⟩ := Option.ite_none_left_eq_some.mp hstep
  obtain ⟨hiid, hnext⟩ := Option.ite_none_right_eq_some.mp hmain
  obtain rfl := Option.some.inj hnext
  refine ⟨hiid, ?_⟩
  split <;> rfl

theorem visitStep_sRailFilterMask (rx : Receiver) (config : Config) (visit : Visit) :
    (rx.visitStep config visit).sRailFilterMask = rx.sRailFilterMask := by
  have hnext (rx : Receiver) :
      (rx.nextInterface config visit).sRailFilterMask = rx.sRailFilterMask := by
    unfold Receiver.nextInterface
    split <;> rfl
  unfold Receiver.visitStep
  split
  · exact hnext rx
  split
  · rfl
  split
  · rfl
  · exact hnext (rx.receiveDone visit)

theorem ProcessPart.sRailFilterMask_eq {rail : RailResults} {gpBuffers : Bool}
    (hpart : ProcessPart config rail gpBuffers radio next) :
    next.rx.sRailFilterMask = radio.rx.sRailFilterMask := by
  cases hpart with
  | visit => exact visitStep_sRailFilterMask radio.rx config _
  | transmit => exact congrArg Receiver.sRailFilterMask (otPlatRadioTransmit_rx ..)
  | energyScan => exact congrArg Receiver.sRailFilterMask (otPlatRadioEnergyScan_rx ..)
  | _ => rfl

/-- Only `otPlatRadioSetPanId` changes the filter mask. -/
theorem radioStep_sRailFilterMask {event : RadioEvent}
    (hevent : ∀ iid aPanId, event ≠ .setPanId iid aPanId)
    (hstep : radioStep config radio event = some next) :
    next.rx.sRailFilterMask = radio.rx.sRailFilterMask := by
  have hrx := receiverStep_of_radioStep hstep
  generalize next.rx = after at hrx ⊢
  cases hrx with
  | kept | queued | setReceiveChannel | setPromiscuous => rfl
  | setPanId => exact absurd rfl (hevent _ _)
  | process => exact (radio.processPart config _ _).sRailFilterMask_eq

/-- The bits of the filter mask behind a step. -/
theorem radioStep_testBit (hmultipan : config.multipan = true) {event : RadioEvent}
    (hstep : radioStep config radio event = some next) (iid : ℕ) :
    next.rx.sRailFilterMask.testBit iid = true ↔
      radio.rx.sRailFilterMask.testBit iid = true ∨
        config.canAccessPal = true ∧ ∃ aPanId, aPanId ≠ 0xFFFF ∧ event = .setPanId iid aPanId := by
  by_cases hevent : ∃ caller aPanId, event = .setPanId caller aPanId
  case neg =>
    have hother : ∀ caller aPanId, event ≠ .setPanId caller aPanId := by
      intro caller aPanId heq
      exact hevent ⟨caller, aPanId, heq⟩
    have hnone : ¬ (config.canAccessPal = true ∧
        ∃ aPanId, aPanId ≠ 0xFFFF ∧ event = .setPanId iid aPanId) := by
      rintro ⟨_, aPanId, _, heq⟩
      exact hother iid aPanId heq
    rw [radioStep_sRailFilterMask hother hstep, or_iff_left hnone]
  case pos =>
    obtain ⟨caller, aPanId, rfl⟩ := hevent
    rw [(radioStep_setPanId hstep).2]
    by_cases hset : config.canAccessPal = true ∧ aPanId ≠ 0xFFFF
    · have hmask : (radio.rx.otPlatRadioSetPanId config caller aPanId).sRailFilterMask =
          radio.rx.sRailFilterMask ||| 2 ^ caller := by
        rw [Receiver.otPlatRadioSetPanId, if_pos ⟨hmultipan, hset.2⟩]
      rw [if_pos hset.1, hmask, Nat.testBit_or, Bool.or_eq_true, Nat.testBit_two_pow]
      simp [hset.1, hset.2]
    · have hkept : (if config.canAccessPal then
          radio.rx.otPlatRadioSetPanId config caller aPanId else radio.rx) = radio.rx := by
        split
        case isTrue hpal =>
          have hbroadcast : ¬ aPanId ≠ 0xFFFF := fun hne ↦ hset ⟨hpal, hne⟩
          exact if_neg fun h ↦ hbroadcast h.2
        case isFalse => rfl
      have hnone : ¬ (config.canAccessPal = true ∧
          ∃ other, other ≠ 0xFFFF ∧ RadioEvent.setPanId caller aPanId = .setPanId iid other) := by
        rintro ⟨hpal, other, hne, heq⟩
        cases heq
        exact hset ⟨hpal, hne⟩
      rw [hkept, or_iff_left hnone]

/-- The bits of the filter mask behind a run: those of the instances that have set a PAN id. -/
theorem exec_testBit (hmultipan : config.multipan = true) {labels : List RadioEvent}
    (hrun : exec (radioStep config) radio labels = some next) (iid : ℕ) :
    next.rx.sRailFilterMask.testBit iid = true ↔
      radio.rx.sRailFilterMask.testBit iid = true ∨
        config.canAccessPal = true ∧
          ∃ aPanId, aPanId ≠ 0xFFFF ∧ .setPanId iid aPanId ∈ labels := by
  induction labels generalizing radio with
  | nil =>
    obtain rfl : radio = next := by simpa using hrun
    simp
  | cons event labels ih =>
    obtain ⟨middle, hstep, hrest⟩ := (exec_cons_eq_some _).mp hrun
    rw [ih hrest, radioStep_testBit hmultipan hstep]
    have hmem (aPanId : ℕ) : .setPanId iid aPanId ∈ event :: labels ↔
        event = .setPanId iid aPanId ∨ .setPanId iid aPanId ∈ labels := by
      rw [List.mem_cons, eq_comm]
    simp only [hmem, and_or_left, exists_or, or_assoc]

/-- The API is called for instances only. -/
theorem isIid_of_mem {labels : List RadioEvent} {iid aPanId : ℕ}
    (hrun : exec (radioStep config) radio labels = some next)
    (hmem : .setPanId iid aPanId ∈ labels) : config.isIid iid = true := by
  induction labels generalizing radio with
  | nil => cases hmem
  | cons event labels ih =>
    obtain ⟨middle, hstep, hrest⟩ := (exec_cons_eq_some _).mp hrun
    rcases List.mem_cons.mp hmem with rfl | hlater
    · exact (radioStep_setPanId hstep).1
    · exact ih hrest hlater

/-- In every state, the filter mask tracks the PANs that have been set. -/
theorem sRailFilterMask_testBit (hmultipan : config.multipan = true) {labels : List RadioEvent}
    (hrun : exec (radioStep config) (efr32RadioInit config) labels = some radio) (iid : ℕ) :
    radio.rx.sRailFilterMask.testBit iid = true ↔ PanTracked config labels iid := by
  have hinit : (efr32RadioInit config).rx.sRailFilterMask.testBit iid = true ↔
      iid = radioBcastIid := by
    change Nat.testBit 1 iid = true ↔ iid = 0
    rw [Nat.testBit_one_eq_true_iff_self_eq_zero]
  rw [exec_testBit hmultipan hrun, hinit, PanTracked]

end Driver

/-! ## The interface of a mask -/

namespace Receiver

variable {rx : Receiver} {config : Config} {mask iid : ℕ}

theorem shiftMask_two_pow (hlt : iid < 8) :
    shiftMask 8 (2 ^ iid) invalidInterfaceIndex = iid := by
  revert hlt iid
  decide

/-- A mask with one tracked bit names its interface. -/
theorem getIidFromFilterMask_of_eq (hmultipan : config.multipan = true) (hlt : iid < 8)
    (hmask : mask &&& rx.sRailFilterMask = 2 ^ iid) :
    rx.getIidFromFilterMask config mask = iid := by
  have hone : 2 ^ iid ≠ 0 ∧ 2 ^ iid &&& (2 ^ iid - 1) = 0 :=
    Nat.ne_zero_and_sub_one_eq_zero_iff_isPowerOfTwo.mpr ⟨iid, rfl⟩
  simp only [getIidFromFilterMask, hmultipan, if_true, hmask]
  rw [if_pos hone, shiftMask_two_pow hlt]

/-- Every other mask is taken for a broadcast. -/
theorem getIidFromFilterMask_of_ne (hmultipan : config.multipan = true)
    (hmask : ∀ iid, mask &&& rx.sRailFilterMask ≠ 2 ^ iid) :
    rx.getIidFromFilterMask config mask = 0 := by
  have hnone : ¬ (mask &&& rx.sRailFilterMask ≠ 0 ∧
      (mask &&& rx.sRailFilterMask) &&& ((mask &&& rx.sRailFilterMask) - 1) = 0) := by
    intro hone
    obtain ⟨iid, heq⟩ := Nat.ne_zero_and_sub_one_eq_zero_iff_isPowerOfTwo.mp hone
    exact hmask iid heq
  simp only [getIidFromFilterMask, hmultipan, if_true]
  rw [if_neg hnone]

end Receiver

/-! ## The ACK to be secured -/

/-- The ACK for which `writeIeee802154EnhancedAck` calls `radioProcessTransmitSecurity`. -/
def AckCalls.ackToSecure (calls : AckCalls) : Option FrameSecurity :=
  if calls.initialPktReadBytes = 0 ∨ calls.otMacFrameIsVersion2015 = false then none
  else calls.otMacFrameGenerateEnhAck.filter FrameSecurity.isSecurityEnabled

namespace MacSecurity

/-- Securing a frame uses a key of its interface. -/
theorem radioProcessTransmitSecurity_key (security : MacSecurity) (config : Config) (isAck : Bool)
    (aFrame : FrameSecurity) (iid : ℕ) {encryption : Encryption}
    (hmem : encryption ∈
      (security.radioProcessTransmitSecurity config isAck aFrame iid).2.2.encryptions) :
    encryption ∈ security.encryptions ∨
      encryption.iid = iid ∧ ∃ slot, encryption.key = (security.sMacKeys iid).keys slot := by
  rcases radioProcessTransmitSecurity_cases security config isAck aFrame iid with
    heq | ⟨_, ⟨slot, _, heq⟩ | ⟨slot, keyId, heq⟩⟩
  · rw [heq] at hmem
    exact Or.inl hmem
  · rw [heq] at hmem
    rcases List.mem_append.mp hmem with hold | hnew
    · exact Or.inl hold
    · obtain rfl := List.mem_singleton.mp hnew
      exact Or.inr ⟨rfl, slot, rfl⟩
  · rw [heq] at hmem
    rcases List.mem_append.mp hmem with hold | hnew
    · exact Or.inl hold
    · obtain rfl := List.mem_singleton.mp hnew
      have hkeys := (security.assignCounter_sMacKeys isAck iid keyId aFrame iid).2.1
      exact Or.inr ⟨rfl, slot, congrFun hkeys slot⟩

end MacSecurity

/-! ## Safety -/

/-- The ACK of a frame is secured for an interface with a PAN index, and with the keys of an
instance whose PAN the frame has matched. -/
structure EnhAckSafe (config : Config) (radio : Driver) (filterMask : ℕ) (ack : FrameSecurity) :
    Prop where
  panIndex : ∃ panIndex, panIndex < config.radioExtAddrCount ∧
    config.efr32GetPanIndexFromIid (radio.rx.getIidFromFilterMask config filterMask) =
      some panIndex
  key : ∀ encryption ∈ (radio.security.radioProcessTransmitSecurity config true ack
      (radio.rx.getIidFromFilterMask config filterMask)).2.2.encryptions,
    encryption ∈ radio.security.encryptions ∨
      config.isIid encryption.iid = true ∧ filterMask.testBit encryption.iid = true ∧
        ∃ slot, encryption.key = (radio.security.sMacKeys encryption.iid).keys slot

/-- `writeIeee802154EnhancedAck` is safe for a frame: if it secures an ACK that passes the checks
of `radioProcessTransmitSecurity`, it does so safely. -/
def AckSafe (config : Config) (radio : Driver) (filterMask : ℕ) (calls : AckCalls) : Prop :=
  ∀ ack, calls.ackToSecure = some ack → ack.IsPending → EnhAckSafe config radio filterMask ack

/-- The frame has matched exactly one of the tracked PANs, and that is the PAN of an instance. -/
def MatchesOnePan (config : Config) (labels : List RadioEvent) (filterMask : ℕ) : Prop :=
  ∃ iid, iid ≠ radioBcastIid ∧
    ∀ other, filterMask.testBit other = true ∧ PanTracked config labels other ↔ other = iid

/-- An ACK that passes the checks is only secured for a frame that has matched one PAN. -/
def AckUnambiguous (config : Config) (labels : List RadioEvent) (filterMask : ℕ)
    (calls : AckCalls) : Prop :=
  ∀ ack, calls.ackToSecure = some ack → ack.IsPending → MatchesOnePan config labels filterMask

section Runs

variable {config : Config} {radio : Driver} {labels : List RadioEvent} {filterMask : ℕ}

/-- One PAN is matched exactly if the tracked part of the mask is the bit of an instance. -/
theorem matchesOnePan_iff (hmultipan : config.multipan = true)
    (hrun : exec (radioStep config) (efr32RadioInit config) labels = some radio) :
    MatchesOnePan config labels filterMask ↔
      ∃ iid, iid ≠ 0 ∧ filterMask &&& radio.rx.sRailFilterMask = 2 ^ iid := by
  have htracked := Driver.sRailFilterMask_testBit hmultipan hrun
  constructor
  · rintro ⟨iid, hiid, hmatch⟩
    refine ⟨iid, hiid, ?_⟩
    apply Nat.eq_of_testBit_eq
    intro other
    rw [Bool.eq_iff_iff]
    calc
      (filterMask &&& radio.rx.sRailFilterMask).testBit other = true ↔
          filterMask.testBit other = true ∧ PanTracked config labels other := by
        rw [Nat.testBit_and, Bool.and_eq_true, htracked]
      _ ↔ other = iid := hmatch other
      _ ↔ _ := by rw [Nat.testBit_two_pow, decide_eq_true_eq, eq_comm]
  · rintro ⟨iid, hiid, heq⟩
    refine ⟨iid, hiid, fun other ↦ ?_⟩
    calc
      filterMask.testBit other = true ∧ PanTracked config labels other ↔
          (filterMask &&& radio.rx.sRailFilterMask).testBit other = true := by
        rw [Nat.testBit_and, Bool.and_eq_true, htracked]
      _ ↔ (2 ^ iid).testBit other = true := by rw [heq]
      _ ↔ other = iid := by rw [Nat.testBit_two_pow, decide_eq_true_eq, eq_comm]

/-- The interface of a frame that has matched one PAN is an instance whose PAN it has matched. -/
theorem getIidFromFilterMask_of_matchesOnePan (hmultipan : config.multipan = true)
    (hrun : exec (radioStep config) (efr32RadioInit config) labels = some radio)
    (hmatch : MatchesOnePan config labels filterMask) :
    let iid := radio.rx.getIidFromFilterMask config filterMask
    config.isIid iid = true ∧ filterMask.testBit iid = true := by
  obtain ⟨iid, hiid, heq⟩ := (matchesOnePan_iff hmultipan hrun).mp hmatch
  have hbit : filterMask.testBit iid = true ∧ radio.rx.sRailFilterMask.testBit iid = true := by
    rw [← Bool.and_eq_true, ← Nat.testBit_and, heq, Nat.testBit_two_pow_self]
  have hinstance : config.isIid iid = true := by
    rcases (Driver.sRailFilterMask_testBit hmultipan hrun iid).mp hbit.2 with
      hbroadcast | ⟨_, aPanId, _, hmem⟩
    · exact absurd hbroadcast hiid
    · exact Driver.isIid_of_mem hrun hmem
  have hlt : iid < 8 := by
    have hrange := ((Config.isIid_multipan hmultipan).mp hinstance).2
    have hcount := config.multipleInstanceNum_le
    omega
  rw [Receiver.getIidFromFilterMask_of_eq hmultipan hlt heq]
  exact ⟨hinstance, hbit.1⟩

theorem enhAckSafe_of_matchesOnePan (hmultipan : config.multipan = true)
    (hrun : exec (radioStep config) (efr32RadioInit config) labels = some radio)
    (hmatch : MatchesOnePan config labels filterMask) (ack : FrameSecurity) :
    EnhAckSafe config radio filterMask ack := by
  obtain ⟨hinstance, hbit⟩ := getIidFromFilterMask_of_matchesOnePan hmultipan hrun hmatch
  set iid := radio.rx.getIidFromFilterMask config filterMask with hiid
  constructor
  case panIndex =>
    obtain ⟨panIndex, hindex⟩ := Option.isSome_iff_exists.mp
      (Config.panIndex_isSome_of_isIid hinstance)
    exact ⟨panIndex, Config.panIndex_lt hmultipan hindex, hindex⟩
  case key =>
    intro encryption hmem
    rcases radio.security.radioProcessTransmitSecurity_key config true ack iid hmem with
      hold | ⟨hinterface, hkey⟩
    · exact Or.inl hold
    · rw [hinterface]
      exact Or.inr ⟨hinstance, hbit, hkey⟩

/-- An interface with a PAN index comes from a frame that has matched one PAN. -/
theorem matchesOnePan_of_panIndex (hmultipan : config.multipan = true)
    (hrun : exec (radioStep config) (efr32RadioInit config) labels = some radio) {panIndex : ℕ}
    (hindex : config.efr32GetPanIndexFromIid
      (radio.rx.getIidFromFilterMask config filterMask) = some panIndex) :
    MatchesOnePan config labels filterMask := by
  rw [matchesOnePan_iff hmultipan hrun]
  by_cases hone : ∃ iid, filterMask &&& radio.rx.sRailFilterMask = 2 ^ iid
  · obtain ⟨iid, heq⟩ := hone
    refine ⟨iid, ?_, heq⟩
    rintro rfl
    rw [Receiver.getIidFromFilterMask_of_eq hmultipan (by decide) heq,
      Config.panIndex_zero hmultipan] at hindex
    cases hindex
  · rw [Receiver.getIidFromFilterMask_of_ne hmultipan fun iid heq ↦ hone ⟨iid, heq⟩,
      Config.panIndex_zero hmultipan] at hindex
    cases hindex

/-- In every state of every run, an enhanced ACK is secured safely exactly if it is not secured for
a frame that has matched the broadcast PAN, the PANs of several instances, or none. -/
theorem ackSafe_iff (hmultipan : config.multipan = true)
    (hrun : exec (radioStep config) (efr32RadioInit config) labels = some radio)
    (filterMask : ℕ) (calls : AckCalls) :
    AckSafe config radio filterMask calls ↔ AckUnambiguous config labels filterMask calls := by
  constructor
  · intro hsafe ack hack hpending
    obtain ⟨panIndex, _, hindex⟩ := (hsafe ack hack hpending).panIndex
    exact matchesOnePan_of_panIndex hmultipan hrun hindex
  · intro hmatch ack hack hpending
    exact enhAckSafe_of_matchesOnePan hmultipan hrun (hmatch ack hack hpending) ack

end Runs

/-- The results of the calls for a version-2015 frame whose ACK is secured. -/
def securedAckCalls : AckCalls where
  otMacFrameIsVersion2015 := true
  otMacFrameGenerateEnhAck := some { isSecurityEnabled := true, keyId := 5 }

/-- Two instances with PANs of their own, and a frame for the first. -/
theorem ackSafe_distinctPans :
    ∃ radio, exec (radioStep .twoHosts) (efr32RadioInit .twoHosts)
        [.setPanId 1 0x1234, .setPanId 2 0x5678] = some radio ∧
      AckSafe .twoHosts radio 0x22 securedAckCalls := by
  refine ⟨_, rfl, ?_⟩
  apply (@ackSafe_iff .twoHosts _ [.setPanId 1 0x1234, .setPanId 2 0x5678] rfl rfl 0x22
    securedAckCalls).mpr
  intro ack _ _
  apply (matchesOnePan_iff rfl rfl).mpr
  exact ⟨1, by decide, rfl⟩

/-- Two instances share a PAN: a frame for it, or one for the broadcast PAN, has the interface 0. -/
theorem not_ackSafe_sharedPan :
    ∃ radio, exec (radioStep .twoHosts) (efr32RadioInit .twoHosts)
        [.setPanId 1 0x1234, .setPanId 2 0x1234] = some radio ∧
      ¬ AckSafe .twoHosts radio 0x66 securedAckCalls ∧
      ¬ AckSafe .twoHosts radio 0x21 securedAckCalls := by
  refine ⟨_, rfl, ?_, ?_⟩
  · intro hsafe
    obtain ⟨panIndex, _, hindex⟩ := (hsafe _ rfl ⟨rfl, rfl, rfl⟩).panIndex
    exact absurd hindex (Option.some_ne_none panIndex).symm
  · intro hsafe
    obtain ⟨panIndex, _, hindex⟩ := (hsafe _ rfl ⟨rfl, rfl, rfl⟩).panIndex
    exact absurd hindex (Option.some_ne_none panIndex).symm

end OtEfr32.Radio
