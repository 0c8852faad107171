import OtEfr32.Radio.Steps
import OtEfr32.Transition.Recording

/-!
# Priority of transmissions

The scheduler priority of a transmission is kept in its transmit buffer: it starts at the lowest
priority and is raised by one step at each retransmission.  `otPlatRadioTransmit` updates it before
it checks whether the radio is busy, and runs once more for a frame that was deferred.  The
priority is that of the number of retransmissions in every run in which the second update changes
nothing.
-/

namespace OtEfr32.Radio

open Transition

/-! ## The priority of a retransmission -/

/-- One update of the priority of a retransmission. -/
def Config.raisePriority (config : Config) (priority : ℕ) : ℕ :=
  max config.radioPrioTxMax
    (if priority > config.radioPrioTxStep then priority - config.radioPrioTxStep else priority)

/-- The priority of a frame that has been submitted as a retransmission `r` times. -/
def Config.retxPriority (config : Config) (r : ℕ) : ℕ :=
  config.raisePriority^[r] config.radioPrioTxMin

theorem Config.retxPriority_succ (config : Config) (r : ℕ) :
    config.retxPriority (r + 1) = config.raisePriority (config.retxPriority r) :=
  Function.iterate_succ_apply' _ _ _

/-- The constants of the build: `SL_802154_RADIO_PRIO_TX_MAX` is the more urgent one. -/
structure Config.PrioritiesOrdered (config : Config) : Prop where
  max_le_min : config.radioPrioTxMax ≤ config.radioPrioTxMin
  min_le : config.radioPrioTxMin ≤ 255

/-- `-=` on a `uint8_t`. -/
def subU8 (minuend subtrahend : ℕ) : ℕ := (minuend + 2 ^ 8 - subtrahend % 2 ^ 8) % 2 ^ 8

theorem subU8_eq {minuend subtrahend : ℕ} (hminuend : minuend ≤ 255)
    (h : subtrahend ≤ minuend) : (subU8 minuend subtrahend : ℤ) = minuend - subtrahend := by
  unfold subU8
  omega

namespace Transmitter

variable {config : Config} (tx : Transmitter)

/-- The priority in a transmit buffer. -/
def txPriority (index : ℕ) : ℕ := (tx.sTransmitBuffer index).currentRadioTxPriority

theorem nextTxPriority_eq (hconfig : config.PrioritiesOrdered) (packet : RadioFrame) :
    nextTxPriority config packet =
      if packet.frame.mIsARetx then config.raisePriority packet.currentRadioTxPriority
      else config.radioPrioTxMin := by
  have := hconfig.max_le_min
  unfold nextTxPriority Config.raisePriority
  cases packet.frame.mIsARetx with
  | false => simp only [Bool.not_false, ↓reduceIte]; grind
  | true => simp only [Bool.not_true, ↓reduceIte]; grind

theorem nextTxPriority_bounds (hconfig : config.PrioritiesOrdered) {packet : RadioFrame}
    (h : packet.currentRadioTxPriority ≤ config.radioPrioTxMin) :
    config.radioPrioTxMax ≤ nextTxPriority config packet ∧
      nextTxPriority config packet ≤ config.radioPrioTxMin := by
  have := hconfig.max_le_min
  rw [nextTxPriority_eq hconfig, Config.raisePriority]
  grind

/-- The second update changes nothing for a frame that is no retransmission and still has the
lowest priority, and for a retransmission with a step of 0, a priority within one step of 0 or the
highest priority. -/
theorem nextTxPriority_settled (hconfig : config.PrioritiesOrdered) {packet : RadioFrame}
    (hbound : config.radioPrioTxMax ≤ packet.currentRadioTxPriority)
    (hnew : packet.frame.mIsARetx = false →
      packet.currentRadioTxPriority = config.radioPrioTxMin)
    (hretx : packet.frame.mIsARetx = true → config.radioPrioTxStep = 0 ∨
      packet.currentRadioTxPriority ≤ config.radioPrioTxStep ∨
        packet.currentRadioTxPriority = config.radioPrioTxMax) :
    nextTxPriority config packet = packet.currentRadioTxPriority := by
  rw [nextTxPriority_eq hconfig, Config.raisePriority]
  grind

theorem acceptFrame_withoutEvents (config : Config) (iid aFrame : ℕ) :
    (tx.acceptFrame config iid aFrame).withoutEvents =
      (tx.withoutEvents.updateBuffer (txBufIndex iid) fun packet ↦
        { packet with currentRadioTxPriority := nextTxPriority config packet }) := by
  have hassert := (otAssert_withoutEvents (tx.otAssert .txBufIndex
    (decide (txBufIndex iid < config.radioRequestBufferCount))) .transmitBuffer
      (aFrame == txBufIndex iid)).trans (otAssert_withoutEvents tx .txBufIndex _)
  unfold acceptFrame
  rw [otAssert_withoutEvents]
  exact (congrArg (fun next ↦ next.updateBuffer (txBufIndex iid) fun packet ↦
    { packet with currentRadioTxPriority := nextTxPriority config packet }) hassert :)

theorem acceptFrame_txPriority (config : Config) (iid aFrame : ℕ) :
    (tx.acceptFrame config iid aFrame).txPriority =
      Function.update tx.txPriority (txBufIndex iid)
        (nextTxPriority config (tx.sTransmitBuffer (txBufIndex iid))) := by
  have haccepted : (tx.acceptFrame config iid aFrame).txPriority = (tx.withoutEvents.updateBuffer
      (txBufIndex iid) fun packet ↦
        { packet with currentRadioTxPriority := nextTxPriority config packet }).txPriority :=
    (congrArg txPriority (tx.acceptFrame_withoutEvents config iid aFrame) :)
  rw [haccepted]
  funext index
  by_cases hindex : index = txBufIndex iid
  · subst hindex
    simp [txPriority, updateBuffer, withoutEvents]
  · simp [txPriority, updateBuffer, withoutEvents, hindex]

theorem acceptFrame_started (config : Config) (iid aFrame : ℕ) :
    (tx.acceptFrame config iid aFrame).started = tx.started :=
  (congrArg started (tx.acceptFrame_withoutEvents config iid aFrame) :)

theorem setSecurity_txPriority (mSecurity : FrameSecurity) :
    (tx.setSecurity mSecurity).txPriority = tx.txPriority :=
  tx.updateBuffer_inBuffers RadioFrame.currentRadioTxPriority _ fun _ ↦ rfl

theorem startTransmission_sCurrentTxPacket (rail : RailResults) :
    (tx.startTransmission rail).sCurrentTxPacket = tx.sCurrentTxPacket :=
  (congrArg sCurrentTxPacket (tx.startTransmission_withoutEvents rail) :)

theorem processTxComplete_started : tx.processTxComplete.started = tx.started := by
  unfold processTxComplete
  split <;> rfl

end Transmitter

/-! ## What a step does to the priorities -/

/-- What a step does to the priorities: the one of the given buffer may be updated, and then the
transmission of its frame may start. -/
structure PriorityStep (config : Config) (tx : Transmitter) (updated : Option ℕ)
    (next : Transmitter) : Prop where
  txPriority : next.txPriority = match updated with
    | none => tx.txPriority
    | some index => Function.update tx.txPriority index
        (Transmitter.nextTxPriority config (tx.sTransmitBuffer index))
  started : next.started = tx.started ∨ ∃ index, updated = some index ∧
    next.sCurrentTxPacket = some index

namespace Driver

variable {config : Config} {radio : Driver} {rail : RailResults}

/-- `otPlatRadioTransmit` updates the priority of a frame. -/
def updatesPriority (config : Config) (gpBuffers : Bool) : Bool :=
  config.canAccessPal && !(config.multipan && gpBuffers)

theorem transmitNow_txPriority (radio : Driver) (config : Config) (rail : RailResults)
    (iid aFrame request : ℕ) :
    (radio.transmitNow config rail iid aFrame request).2.tx.txPriority = radio.tx.txPriority ∧
      ((radio.transmitNow config rail iid aFrame request).2.tx.started = radio.tx.started ∨
        (radio.transmitNow config rail iid aFrame request).2.tx.sCurrentTxPacket =
          some (txBufIndex iid)) := by
  unfold transmitNow
  simp only
  split
  case isFalse => exact ⟨rfl, .inl rfl⟩
  case isTrue =>
    have hsecured : (((radio.efr32RadioLoadChannelConfig
        (radio.slGetTxPowerForCurrentChannel config)).mapTx fun tx ↦
          tx.makeCurrent iid request).secureCurrentPacket config iid).tx.txPriority =
        radio.tx.txPriority :=
      (Transmitter.setSecurity_txPriority _ _).trans
        (radio.tx.makeCurrent_inBuffers RadioFrame.currentRadioTxPriority (fun _ _ ↦ rfl) iid
          request)
    obtain ⟨_, _, hrecorded⟩ := recordStart_eq
      ((((radio.efr32RadioLoadChannelConfig (radio.slGetTxPowerForCurrentChannel config)).mapTx
        fun tx ↦ tx.makeCurrent iid request).secureCurrentPacket config iid).mapTx
          fun tx ↦ tx.startTransmission rail) config rail
      (radio.tx.sTransmitBuffer aFrame).frame.mChannel
    rw [hrecorded]
    constructor
    · exact (Transmitter.startTransmission_inBuffers _ _ rail).trans hsecured
    · exact .inr (Transmitter.startTransmission_sCurrentTxPacket _ rail)

theorem otPlatRadioTransmit_priorityStep (radio : Driver) (config : Config) (rail : RailResults)
    (gpBuffers : Bool) (iid aFrame request : ℕ) :
    PriorityStep config radio.tx
      (if updatesPriority config gpBuffers then some (txBufIndex iid) else none)
      (radio.otPlatRadioTransmit config rail gpBuffers iid aFrame request).2.tx := by
  by_cases hpal : config.canAccessPal = false
  · have hupdates : updatesPriority config gpBuffers = false := by simp [updatesPriority, hpal]
    unfold otPlatRadioTransmit
    rw [hupdates, if_pos hpal]
    exact ⟨rfl, .inl rfl⟩
  by_cases hbuffered : (config.multipan && gpBuffers) = true
  · have hupdates : updatesPriority config gpBuffers = false := by
      simp [updatesPriority, hbuffered]
    unfold otPlatRadioTransmit
    rw [hupdates, if_neg hpal, if_pos hbuffered]
    exact ⟨rfl, .inl rfl⟩
  · have hupdates : updatesPriority config gpBuffers = true := by
      simp [updatesPriority, Bool.of_not_eq_false hpal, Bool.of_not_eq_true hbuffered]
    have haccepted := radio.tx.acceptFrame_txPriority config iid aFrame
    have hstarted := radio.tx.acceptFrame_started config iid aFrame
    unfold otPlatRadioTransmit
    rw [hupdates, if_neg hpal, if_neg hbuffered, if_pos rfl]
    simp only
    split
    case isTrue =>
      obtain ⟨_, _, hpushed⟩ := pushPendingCommand_eq
        (radio.mapTx fun tx ↦ tx.acceptFrame config iid aFrame) config
        (.transmit aFrame request) iid
      rw [hpushed]
      exact ⟨haccepted, .inl hstarted⟩
    case isFalse =>
      obtain ⟨hpriority, hstart⟩ := transmitNow_txPriority
        (radio.mapTx fun tx ↦ tx.acceptFrame config iid aFrame) config rail iid aFrame request
      refine ⟨hpriority.trans haccepted, ?_⟩
      rcases hstart with hsame | hcurrent
      · exact .inl (hsame.trans hstarted)
      · exact .inr ⟨_, rfl, hcurrent⟩

/-- The transmit buffer whose priority a step updates. -/
def updatedBuffer (config : Config) (radio : Driver) : RadioEvent → Option ℕ
  | .transmit iid _ gpBuffers =>
    if updatesPriority config gpBuffers then some (txBufIndex iid) else none
  | .process _ gpBuffers =>
    match radio.dueCommand config with
    | some ⟨.transmit _ _, iid⟩ =>
      if updatesPriority config gpBuffers then some (txBufIndex iid) else none
    | _ => none
  | _ => none

theorem ProcessPart.priorityStep {rail : RailResults} {gpBuffers : Bool} {next : Driver}
    (hpart : ProcessPart config rail gpBuffers radio next) :
    PriorityStep config radio.tx (radio.updatedBuffer config (.process rail gpBuffers))
      next.tx := by
  have hkept : radio.dueCommand config = none → ∀ next : Transmitter,
      next.txPriority = radio.tx.txPriority → next.started = radio.tx.started →
        PriorityStep config radio.tx (radio.updatedBuffer config (.process rail gpBuffers))
          next := by
    intro hdue next hpriority hstarted
    simp only [updatedBuffer, hdue]
    exact ⟨hpriority, .inl hstarted⟩
  cases hpart with
  | txComplete hlocation =>
    exact hkept (dueCommand_elsewhere config (by simp [hlocation])) _
      (radio.tx.processTxComplete_inBuffers RadioFrame.currentRadioTxPriority fun _ _ _ ↦ rfl)
      radio.tx.processTxComplete_started
  | @transmit iid txFrame request rest hdue =>
    simp only [updatedBuffer, hdue]
    exact otPlatRadioTransmit_priorityStep { radio with sPendingCommandQueue := rest } config rail
      gpBuffers iid txFrame request
  | energyScan hdue =>
    simp only [updatedBuffer, hdue, moveTo, otPlatRadioEnergyScan_tx]
    exact ⟨rfl, .inl rfl⟩
  | noCommand hlocation hdue => exact hkept hdue _ rfl rfl
  | enter hlocation | visit hlocation | startVisit hlocation | rxDone hlocation
    | scanReport hlocation | noReport hlocation | scanReported hlocation =>
    exact hkept (dueCommand_elsewhere config (by simp [hlocation])) _ rfl rfl

theorem radioStep_priorityStep {event : RadioEvent} {next : Driver}
    (hstep : radioStep config radio event = some next) :
    PriorityStep config radio.tx (radio.updatedBuffer config event) next.tx := by
  have hstep := transmitterStep_of_radioStep hstep
  generalize next.tx = after at hstep ⊢
  cases hstep with
  | kept hevent hkept =>
    have hnone : radio.updatedBuffer config event = none := by
      cases event <;> first | rfl | contradiction
    rw [hnone]
    exact ⟨radio.tx.inBuffers_of_withoutEvents RadioFrame.currentRadioTxPriority hkept,
      .inl (congrArg Transmitter.started hkept :)⟩
  | writeFrame hiid =>
    exact ⟨radio.tx.updateBuffer_inBuffers RadioFrame.currentRadioTxPriority _ fun _ ↦ rfl,
      .inl rfl⟩
  | @transmit iid rail gpBuffers hiid =>
    have htransmit := otPlatRadioTransmit_priorityStep (radio.mapTx Transmitter.countRequest)
      config rail gpBuffers iid (txBufIndex iid) radio.tx.requests
    obtain ⟨_, heq⟩ := radio.transmit_eq config iid rail gpBuffers
    rw [heq]
    exact ⟨htransmit.txPriority, htransmit.started⟩
  | process => exact (radio.processPart config _ _).priorityStep

end Driver

/-! ## The history of the submissions -/

/-- The start of a transmission: the priority given to the scheduler, and how often the frame has
been submitted as a retransmission since it was submitted as a new frame. -/
structure TxStart where
  priority : ℕ
  retransmissions : Option ℕ
  deriving DecidableEq, Repr

/-- What the stack has submitted and the driver has started. -/
structure PriorityHistory where
  /-- For each transmit buffer, the number of retransmissions behind the last new frame. -/
  retransmissions : ℕ → Option ℕ := fun _ ↦ none
  starts : List TxStart := []

namespace PriorityHistory

variable (history : PriorityHistory)

/-- Count a frame that the stack submits. -/
def submit (config : Config) (radio : Driver) : RadioEvent → PriorityHistory
  | .transmit iid _ gpBuffers =>
    if Driver.updatesPriority config gpBuffers then
      { history with
        retransmissions := Function.update history.retransmissions (txBufIndex iid)
          (if (radio.tx.sTransmitBuffer (txBufIndex iid)).frame.mIsARetx then
            (history.retransmissions (txBufIndex iid)).map (· + 1)
          else some 0) }
    else history
  | _ => history

/-- Put a transmission on record that the step has started. -/
def recordStart (tx next : Transmitter) : PriorityHistory :=
  if next.started = tx.started then history
  else
    { history with
      starts := history.starts ++ [{
        priority := next.currentPacket.currentRadioTxPriority
        retransmissions := history.retransmissions (next.sCurrentTxPacket.getD 0) }] }

/-- The record of a step. -/
def record (config : Config) (radio : Driver) (event : RadioEvent) (next : Driver)
    (history : PriorityHistory) : PriorityHistory :=
  (history.submit config radio event).recordStart radio.tx next.tx

end PriorityHistory

/-- One step of the driver with the history of the submissions. -/
def priorityStep (config : Config) :
    Driver × PriorityHistory → RadioEvent → Option (Driver × PriorityHistory) :=
  recording (radioStep config) (PriorityHistory.record config)

/-- The law of the priorities: a transmission has the priority of the number of its
retransmissions, within the bounds of the build, and no subtraction underflows. -/
structure PriorityLaw (config : Config) (state : Driver × PriorityHistory) : Prop where
  of_retransmissions : ∀ start ∈ state.2.starts, ∀ r, start.retransmissions = some r →
    start.priority = config.retxPriority r
  bounds : ∀ start ∈ state.2.starts,
    config.radioPrioTxMax ≤ start.priority ∧ start.priority ≤ config.radioPrioTxMin
  no_underflow : ∀ index, config.radioPrioTxStep < state.1.tx.txPriority index →
    (subU8 (state.1.tx.txPriority index) config.radioPrioTxStep : ℤ) =
      state.1.tx.txPriority index - config.radioPrioTxStep

/-- The steps that keep the law: where a deferred frame with a history is executed, the update of
its priority has nothing left to do. -/
def PriorityCondition (config : Config) (state : Driver × PriorityHistory) : RadioEvent → Prop
  | .process rail gpBuffers =>
    ∀ index, state.1.updatedBuffer config (.process rail gpBuffers) = some index →
      ∀ r, state.2.retransmissions index = some r →
        if (state.1.tx.sTransmitBuffer index).frame.mIsARetx then
          config.radioPrioTxStep = 0 ∨ state.1.tx.txPriority index ≤ config.radioPrioTxStep ∨
            state.1.tx.txPriority index = config.radioPrioTxMax
        else state.1.tx.txPriority index = config.radioPrioTxMin
  | _ => True

/-- The invariant of the priorities. -/
structure PriorityConsistent (config : Config) (state : Driver × PriorityHistory) : Prop where
  of_retransmissions : ∀ start ∈ state.2.starts, ∀ r, start.retransmissions = some r →
    start.priority = config.retxPriority r
  bounds : ∀ start ∈ state.2.starts,
    config.radioPrioTxMax ≤ start.priority ∧ start.priority ≤ config.radioPrioTxMin
  le_min : ∀ index, state.1.tx.txPriority index ≤ config.radioPrioTxMin
  submitted : ∀ index r, state.2.retransmissions index = some r →
    state.1.tx.txPriority index = config.retxPriority r

variable {config : Config} {state next : Driver × PriorityHistory} {event : RadioEvent}

theorem Config.retxPriority_bounds (hconfig : config.PrioritiesOrdered) (r : ℕ) :
    config.radioPrioTxMax ≤ config.retxPriority r ∧
      config.retxPriority r ≤ config.radioPrioTxMin := by
  have := hconfig.max_le_min
  induction r with
  | zero => exact ⟨hconfig.max_le_min, Nat.le_refl _⟩
  | succ r ih =>
    rw [Config.retxPriority_succ, Config.raisePriority]
    grind

theorem PriorityConsistent.priorityLaw (h : PriorityConsistent config state)
    (hconfig : config.PrioritiesOrdered) : PriorityLaw config state where
  of_retransmissions := h.of_retransmissions
  bounds := h.bounds
  no_underflow := fun index hstep ↦
    subU8_eq (Nat.le_trans (h.le_min index) hconfig.min_le) (Nat.le_of_lt hstep)

/-! ## What a step keeps -/

/-- Counting a submission does not change what was started. -/
theorem PriorityHistory.submit_starts (history : PriorityHistory) (config : Config)
    (radio : Driver) (event : RadioEvent) :
    (history.submit config radio event).starts = history.starts := by
  cases event with
  | transmit iid rail gpBuffers =>
    rw [submit]
    split <;> rfl
  | _ => rfl

theorem PriorityHistory.submit_of_updatedBuffer (history : PriorityHistory) {radio : Driver}
    (h : radio.updatedBuffer config event = none) :
    history.submit config radio event = history := by
  cases event with
  | transmit iid rail gpBuffers =>
    rw [submit]
    split
    case isTrue hupdates =>
      rw [Driver.updatedBuffer, if_pos hupdates] at h
      contradiction
    case isFalse => rfl
  | _ => rfl

namespace PriorityConsistent

/-- The update of a submission follows the count, and that of a deferred frame changes nothing. -/
theorem submitted_update (h : PriorityConsistent config state)
    (hconfig : config.PrioritiesOrdered) (hcondition : PriorityCondition config state event)
    {index : ℕ} (hupdated : state.1.updatedBuffer config event = some index) {other r : ℕ}
    (hr : (state.2.submit config state.1 event).retransmissions other = some r) :
    Function.update state.1.tx.txPriority index
      (Transmitter.nextTxPriority config (state.1.tx.sTransmitBuffer index)) other =
        config.retxPriority r := by
  cases event with
  | transmit iid rail gpBuffers =>
    obtain ⟨hupdates, hindex⟩ := Option.ite_none_right_eq_some.mp hupdated
    obtain rfl := Option.some.inj hindex
    rw [PriorityHistory.submit, if_pos hupdates] at hr
    simp only at hr
    by_cases hother : other = txBufIndex iid
    · subst hother
      rw [Function.update_self] at hr ⊢
      rw [Transmitter.nextTxPriority_eq hconfig]
      cases hretx : (state.1.tx.sTransmitBuffer (txBufIndex iid)).frame.mIsARetx with
      | false =>
        rw [hretx] at hr
        obtain rfl := Option.some.inj hr
        rfl
      | true =>
        rw [hretx, if_pos rfl] at hr
        obtain ⟨before, hbefore, rfl⟩ := Option.map_eq_some_iff.mp hr
        rw [if_pos rfl, Config.retxPriority_succ, ← h.submitted _ _ hbefore]
        rfl
    · rw [Function.update_of_ne hother] at hr ⊢
      exact h.submitted other r hr
  | process rail gpBuffers =>
    by_cases hother : other = index
    · subst hother
      have hcount : state.2.retransmissions other = some r := hr
      have hsettled := hcondition other hupdated r hcount
      have hpriority := h.submitted other r hcount
      rw [Function.update_self, ← hpriority]
      refine Transmitter.nextTxPriority_settled hconfig ?_ (fun hnew ↦ ?_) fun hretx ↦ ?_
      · change config.radioPrioTxMax ≤ state.1.tx.txPriority other
        rw [hpriority]
        exact (Config.retxPriority_bounds hconfig r).1
      · rw [hnew] at hsettled
        exact hsettled
      · rw [hretx] at hsettled
        exact hsettled
    · rw [Function.update_of_ne hother]
      exact h.submitted other r hr
  | _ => contradiction

/-- The priorities after a step, and the counts with its submission. -/
theorem submitted_step (h : PriorityConsistent config state) (hconfig : config.PrioritiesOrdered)
    (hcondition : PriorityCondition config state event) {after : Driver}
    (hstep : radioStep config state.1 event = some after) {index r : ℕ}
    (hr : (state.2.submit config state.1 event).retransmissions index = some r) :
    after.tx.txPriority index = config.retxPriority r := by
  have hpriority := (Driver.radioStep_priorityStep hstep).txPriority
  cases hupdated : state.1.updatedBuffer config event with
  | none =>
    simp only [hupdated] at hpriority
    rw [PriorityHistory.submit_of_updatedBuffer state.2 hupdated] at hr
    rw [hpriority]
    exact h.submitted index r hr
  | some updated =>
    simp only [hupdated] at hpriority
    rw [hpriority]
    exact h.submitted_update hconfig hcondition hupdated hr

theorem le_min_step (h : PriorityConsistent config state) (hconfig : config.PrioritiesOrdered)
    {after : Driver} (hstep : radioStep config state.1 event = some after) (index : ℕ) :
    after.tx.txPriority index ≤ config.radioPrioTxMin := by
  have hpriority := (Driver.radioStep_priorityStep hstep).txPriority
  cases hupdated : state.1.updatedBuffer config event with
  | none =>
    simp only [hupdated] at hpriority
    exact hpriority ▸ h.le_min index
  | some updated =>
    simp only [hupdated] at hpriority
    rw [hpriority]
    by_cases hindex : index = updated
    · subst hindex
      rw [Function.update_self]
      exact (Transmitter.nextTxPriority_bounds hconfig (h.le_min index)).2
    · rw [Function.update_of_ne hindex]
      exact h.le_min index

/-- The start of a transmission reads the priority that the step has just updated. -/
theorem started_bounds (h : PriorityConsistent config state) (hconfig : config.PrioritiesOrdered)
    {after : Driver} (hstep : radioStep config state.1 event = some after)
    (hstarted : after.tx.started ≠ state.1.tx.started) :
    config.radioPrioTxMax ≤ after.tx.currentPacket.currentRadioTxPriority ∧
      after.tx.currentPacket.currentRadioTxPriority ≤ config.radioPrioTxMin := by
  have hpriorityStep := Driver.radioStep_priorityStep hstep
  obtain ⟨index, hupdated, hcurrent⟩ := hpriorityStep.started.resolve_left hstarted
  have hpriority := congrFun hpriorityStep.txPriority index
  simp only [hupdated, Function.update_self] at hpriority
  have hread : after.tx.currentPacket.currentRadioTxPriority = after.tx.txPriority index := by
    rw [Transmitter.currentPacket, hcurrent]
    rfl
  rw [hread, hpriority]
  exact Transmitter.nextTxPriority_bounds hconfig (h.le_min index)

theorem keep (h : PriorityConsistent config state) (hconfig : config.PrioritiesOrdered)
    (hcondition : PriorityCondition config state event)
    (hstep : priorityStep config state event = some next) : PriorityConsistent config next := by
  obtain ⟨hdriver, hhistory⟩ := recording_eq_some.mp hstep
  have hstarts : ∀ start ∈ next.2.starts, start ∈ state.2.starts ∨
      next.1.tx.started ≠ state.1.tx.started ∧ start = {
        priority := next.1.tx.currentPacket.currentRadioTxPriority
        retransmissions := (state.2.submit config state.1 event).retransmissions
          (next.1.tx.sCurrentTxPacket.getD 0) } := by
    intro start hstart
    rw [hhistory, PriorityHistory.record, PriorityHistory.recordStart] at hstart
    split at hstart
    case isTrue =>
      rw [PriorityHistory.submit_starts] at hstart
      exact .inl hstart
    case isFalse hstarted =>
      rw [PriorityHistory.submit_starts] at hstart
      exact (List.mem_append.mp hstart).imp_right fun hnew ↦ ⟨hstarted, List.mem_singleton.mp hnew⟩
  have hretransmissions : next.2.retransmissions =
      (state.2.submit config state.1 event).retransmissions := by
    rw [hhistory, PriorityHistory.record, PriorityHistory.recordStart]
    split <;> rfl
  exact {
    of_retransmissions := by
      intro start hstart r hr
      rcases hstarts start hstart with hold | ⟨_, rfl⟩
      · exact h.of_retransmissions start hold r hr
      · exact h.submitted_step hconfig hcondition hdriver hr
    bounds := by
      intro start hstart
      rcases hstarts start hstart with hold | ⟨hstarted, rfl⟩
      · exact h.bounds start hold
      · exact h.started_bounds hconfig hdriver hstarted
    le_min := h.le_min_step hconfig hdriver
    submitted := by
      intro index r hr
      rw [hretransmissions] at hr
      exact h.submitted_step hconfig hcondition hdriver hr }

end PriorityConsistent

/-! ## Runs -/

theorem efr32RadioInit_priorityConsistent (config : Config) :
    PriorityConsistent config (efr32RadioInit config, {}) where
  of_retransmissions := nofun
  bounds := nofun
  le_min := fun _ ↦ Nat.zero_le _
  submitted := nofun

/-- In every run in which the second update of a deferred frame has nothing left to do, the priority
of a transmission is that of the number of its retransmissions. -/
theorem priorityLaw_of_condition (config : Config) (hconfig : config.PrioritiesOrdered)
    (labels : List RadioEvent)
    (hcondition : Along (priorityStep config) (PriorityCondition config)
      (efr32RadioInit config, {}) labels) :
    Throughout (priorityStep config) (PriorityLaw config) (efr32RadioInit config, {}) labels :=
  (Along.throughout (fun _ _ _ h hcondition hstep ↦ h.keep hconfig hcondition hstep)
    (efr32RadioInit_priorityConsistent config) hcondition).mono fun _ h ↦ h.priorityLaw hconfig

instance (config : Config) : DecidableRel (PriorityCondition config) := fun state event ↦
  match event with
  | .process rail gpBuffers =>
    have : ∀ index, Decidable (∀ r ∈ state.2.retransmissions index,
        if (state.1.tx.sTransmitBuffer index).frame.mIsARetx then
          config.radioPrioTxStep = 0 ∨ state.1.tx.txPriority index ≤ config.radioPrioTxStep ∨
            state.1.tx.txPriority index = config.radioPrioTxMax
        else state.1.tx.txPriority index = config.radioPrioTxMin) :=
      fun _ ↦ Option.decidableForallMem ..
    Option.decidableForallMem (state.1.updatedBuffer config (.process rail gpBuffers))
  | .transmit .. | .writeFrame .. | .energyScan .. | .getRssi _ | .endRssiWait _ | .receive ..
  | .receiveAt .. | .sleep | .setChannelMaxTransmitPower .. | .setTransmitPower .. | .setPanId ..
  | .setPromiscuous _ | .setMacFrameCounterIfLarger .. | .setMacKey _ | .setMacKeyStep
  | .scanTimer .. | .railEvents _ => .isTrue trivial

/-- A frame that requests no acknowledgment. -/
def plainFrame (mIsARetx : Bool) : OtRadioFrame :=
  { mPsdu := [0x41, 0x88, 1], mChannel := 15, mIsARetx }

/-- A transmission ends, and the main loop runs once. -/
def completeAndProcess : List RadioEvent :=
  .railEvents { tx := { txPacketSent := true } } :: List.replicate 5 (.process {} false)

/-- A frame is deferred, and retransmitted while the radio is free. -/
def deferredThenRetransmitted : List RadioEvent :=
  [.writeFrame 2 (plainFrame false), .transmit 2 {} false, .writeFrame 1 (plainFrame false),
    .transmit 1 {} false] ++ completeAndProcess ++ completeAndProcess ++
    [.writeFrame 1 (plainFrame true), .transmit 1 {} false]

theorem priorityLaw_of_condition_deferredThenRetransmitted :
    ((exec (priorityStep .twoHosts) (efr32RadioInit .twoHosts, {})
      deferredThenRetransmitted).map fun state ↦ state.2.starts) =
        some [⟨255, some 0⟩, ⟨255, some 0⟩, ⟨254, some 1⟩] ∧
    Throughout (priorityStep .twoHosts) (PriorityLaw .twoHosts) (efr32RadioInit .twoHosts, {})
      deferredThenRetransmitted :=
  ⟨by decide, priorityLaw_of_condition .twoHosts ⟨by decide, by decide⟩ deferredThenRetransmitted
    (by decide)⟩

/-- A frame is transmitted while the radio is free, and its retransmission is deferred. -/
def retransmissionDeferred : List RadioEvent :=
  [.writeFrame 1 (plainFrame false), .transmit 1 {} false] ++ completeAndProcess ++
    [.writeFrame 2 (plainFrame false), .transmit 2 {} false, .writeFrame 1 (plainFrame true),
      .transmit 1 {} false] ++ completeAndProcess

/-- A retransmission that was deferred has the priority of the second one. -/
theorem not_priorityLaw_retransmissionDeferred :
    ¬ ∀ config : Config, config.multipan = true → config.PrioritiesOrdered → ∀ labels,
      Throughout (priorityStep config) (PriorityLaw config) (efr32RadioInit config, {}) labels := by
  intro h
  have hlaw := h .twoHosts rfl ⟨by decide, by decide⟩ retransmissionDeferred
  have hrun : exec (priorityStep .twoHosts) (efr32RadioInit .twoHosts, {})
      retransmissionDeferred = some ((exec (priorityStep .twoHosts) (efr32RadioInit .twoHosts, {})
        retransmissionDeferred).get (by decide)) := (Option.some_get (by decide)).symm
  have hstarts : ((exec (priorityStep .twoHosts) (efr32RadioInit .twoHosts, {})
      retransmissionDeferred).get (by decide)).2.starts =
        [⟨255, some 0⟩, ⟨255, some 0⟩, ⟨253, some 1⟩] := by decide
  have hpriority := (hlaw.last hrun).of_retransmissions ⟨253, some 1⟩ (by simp [hstarts]) 1 rfl
  exact absurd hpriority (by decide)

end OtEfr32.Radio
