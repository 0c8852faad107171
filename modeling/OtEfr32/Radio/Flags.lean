import Mathlib.Data.Nat.Notation

/-!
# Internal flags

`miscRadioState` in `radio.c` is a word of flags and of radio events.  The model has one bit for
each constructor of `Flag`; `setInternalFlag` and `getInternalFlag` take a mask as the list of its
bits.
-/

namespace OtEfr32.Radio

/-- The bits of `miscRadioState`: the `FLAG_` values first, then the `EVENT_` values. -/
inductive Flag where
  | ongoingTxData
  | ongoingTxAck
  | waitingForAck
  | currentTxUseCsma
  | scheduledRxPending
  | scheduledTxPending
  | txSuccess
  | txCcaFailed
  | txNoAck
  | txSchedulerError
  | txFailed
  | scheduledRxStarted
  | scheduledTxStarted
  deriving DecidableEq, Repr

/-- `miscRadioState`. -/
abbrev Flags := Flag → Bool

/-- `RADIO_TX_EVENTS`. -/
def radioTxEvents : List Flag :=
  [.txSuccess, .txCcaFailed, .txNoAck, .txSchedulerError, .txFailed]

/-- `setInternalFlag`. -/
def setInternalFlag (flags : Flags) (mask : List Flag) (val : Bool) : Flags :=
  fun flag ↦ if flag ∈ mask then val else flags flag

/-- `getInternalFlag`. -/
def getInternalFlag (flags : Flags) (mask : List Flag) : Bool := mask.any flags

@[simp]
theorem setInternalFlag_apply (flags : Flags) (mask : List Flag) (val : Bool) (flag : Flag) :
    setInternalFlag flags mask val flag = if flag ∈ mask then val else flags flag := rfl

@[simp]
theorem getInternalFlag_singleton (flags : Flags) (flag : Flag) :
    getInternalFlag flags [flag] = flags flag := by
  simp [getInternalFlag]

theorem getInternalFlag_eq_true {flags : Flags} {mask : List Flag} :
    getInternalFlag flags mask = true ↔ ∃ flag ∈ mask, flags flag = true := by
  simp [getInternalFlag]

theorem getInternalFlag_eq_false {flags : Flags} {mask : List Flag} :
    getInternalFlag flags mask = false ↔ ∀ flag ∈ mask, flags flag = false := by
  simp [getInternalFlag]

/-! ## The events that end a transmission -/

/-- Of the bits of `RADIO_TX_EVENTS`, the given one is set, or none. -/
def EventIs (flags : Flags) (event : Option Flag) : Prop :=
  ∀ flag ∈ radioTxEvents, flags flag = (event == some flag)

variable {flags : Flags} {event : Option Flag}

theorem EventIs.set (h : EventIs flags none) (raised : Flag) :
    EventIs (setInternalFlag flags [raised] true) (some raised) := by
  intro flag hflag
  rw [setInternalFlag_apply]
  split
  case isTrue hraised =>
    rw [List.mem_singleton.mp hraised]
    exact (beq_self_eq_true _).symm
  case isFalse hother =>
    rw [h flag hflag]
    exact (beq_false_of_ne fun heq ↦
      hother (List.mem_singleton.mpr (Option.some.inj heq).symm)).symm

theorem EventIs.setOther (h : EventIs flags event) {mask : List Flag} {val : Bool}
    (hmask : ∀ flag ∈ radioTxEvents, flag ∉ mask) :
    EventIs (setInternalFlag flags mask val) event :=
  fun flag hflag ↦ (if_neg (hmask flag hflag)).trans (h flag hflag)

theorem EventIs.clear {raised : Flag} (h : EventIs flags (some raised)) :
    EventIs (setInternalFlag flags [raised] false) none := by
  intro flag hflag
  rw [setInternalFlag_apply]
  split
  case isTrue => rfl
  case isFalse hother =>
    rw [h flag hflag]
    exact beq_false_of_ne fun heq ↦ hother (List.mem_singleton.mpr (Option.some.inj heq).symm)

theorem eventIs_clearAll (flags : Flags) :
    EventIs (setInternalFlag flags radioTxEvents false) none :=
  fun _ hflag ↦ if_pos hflag

theorem EventIs.getInternalFlag (h : EventIs flags event)
    (hevent : ∀ raised, event = some raised → raised ∈ radioTxEvents) :
    Radio.getInternalFlag flags radioTxEvents = event.isSome := by
  cases event with
  | none => exact getInternalFlag_eq_false.mpr fun flag hflag ↦ h flag hflag
  | some raised =>
    refine getInternalFlag_eq_true.mpr ⟨raised, hevent raised rfl, ?_⟩
    rw [h raised (hevent raised rfl)]
    exact beq_self_eq_true _

end OtEfr32.Radio
