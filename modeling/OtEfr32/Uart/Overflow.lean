import OtEfr32.Transition.Recording
import OtEfr32.Uart.Delivery

/-!
# Overflow of the receive fifo

`receiveDone` drops the rest of its buffer when the new end of the fifo would be `mHead`, and then
leaves `lastCount` as it is.  A buffer that is dropped as a whole, from an empty fifo, costs no
other byte: the receive path goes on as if the buffer had never arrived.  With a part of the buffer
copied, `lastCount` stays behind and hides as many bytes of the next buffer.
-/

namespace OtEfr32.Uart

open Data Transition

namespace Receiver

/-- `receiveDone` finds space in the fifo. -/
def receiveDoneCopies (uart : Receiver) : Bool :=
  uart.sReceiveFifo.mHead !=
    (uart.sReceiveFifo.mTail + (receiveBufferSize - uart.lastCount)) % kReceiveFifoSize

/-- The number of bytes in the fifo, as `mHead` and `mTail` have it. -/
def inFifo (uart : Receiver) : ℕ :=
  (uart.sReceiveFifo.mTail + kReceiveFifoSize - uart.sReceiveFifo.mHead) % kReceiveFifoSize

/-- The receive path with another stream and another count of the buffers. -/
def withStream (uart : Receiver) (received : List UInt8) (completed target : ℕ) : Receiver :=
  { uart with received, completed, target }

end Receiver

/-- What the buffers that `receiveDone` has served leave of the stream: a buffer that does not fit
leaves the bytes that were copied before. -/
def servedBytes (uart : Receiver) (event : UartEvent) (_next : Receiver)
    (served : List UInt8) : List UInt8 :=
  match event with
  | .receiveDone =>
    served ++ if uart.receiveDoneCopies then uart.active else uart.active.take uart.lastCount
  | _ => served

/-- One step of the receive path with the bytes of the served buffers. -/
def overflowStep : Receiver × List UInt8 → UartEvent → Option (Receiver × List UInt8) :=
  recording uartStep servedBytes

/-- The received stream without the bytes of the buffers that did not fit. -/
def keptBytes (state : Receiver × List UInt8) : List UInt8 :=
  state.2 ++ state.1.active ++ state.1.following

/-- The steps that contain an overflow: a full buffer fits, or nothing of it is copied and the fifo
is empty; a copy of `processReceive` fits. -/
def OverflowCondition (state : Receiver × List UInt8) : UartEvent → Prop
  | .receiveDone => state.1.inFifo < state.1.lastCount ∨
      state.1.lastCount = 0 ∧ state.1.inFifo = 0
  | .processReceive => ∀ aCount, state.1.location = .counted aCount →
      state.1.inFifo + (aCount - state.1.lastCount) ≤ 127
  | _ => True

namespace Receiver

variable {uart : Receiver}

/-! ## A buffer that is dropped as a whole -/

/-- Without a copied byte, the active buffer can be taken out of the stream. -/
theorem Consistent.dropActive (h : uart.Consistent) (henabled : uart.interruptsEnabled = true)
    (hlast : uart.lastCount = 0) {served : List UInt8}
    (hreceived : uart.received = served ++ uart.active ++ uart.following) :
    { uart with
      active := uart.following, following := [],
      received := served ++ uart.following }.Consistent := by
  have hlength := h.length_eq
  have hcopied : uart.copiedCount = served.length := by
    rw [hreceived, List.length_append, List.length_append] at hlength
    unfold copiedCount
    omega
  have htake : (served ++ uart.following).take uart.copiedCount =
      uart.received.take uart.copiedCount := by
    rw [hcopied, hreceived, List.append_assoc, List.take_left, List.take_left]
  have hserved : receiveBufferSize * uart.completed = served.length := by
    unfold copiedCount at hcopied
    omega
  constructor
  case length_eq =>
    simp only [List.length_append, List.length_nil]
    omega
  case buffers =>
    change (served ++ uart.following).drop (receiveBufferSize * uart.completed) =
      uart.following ++ []
    rw [hserved, List.drop_left, List.append_nil]
  case active_le => exact h.following_le
  case following_le => exact Nat.zero_le _
  case in_order => exact fun _ ↦ rfl
  case lastCount_le => exact hlast ▸ Nat.zero_le _
  case mTail_eq => exact h.mTail_eq
  case mHead_eq => exact h.mHead_eq
  case released_le => exact h.released_le
  case released_lt => exact h.released_lt
  case fifo => exact h.fifo.of_take htake
  case in_bounds => exact h.in_bounds
  case delivered_eq =>
    have hhanded := h.handedUp_le
    change uart.delivered = (served ++ uart.following).take uart.handedUp
    rw [h.delivered_eq, ← Nat.min_eq_left hhanded, ← List.take_take, ← List.take_take, htake]
  case at_location =>
    refine h.at_location.mono rfl rfl rfl rfl (Nat.le_refl _) fun aCount hcounted ↦ ?_
    rw [interruptsEnabled, hcounted] at henabled
    exact absurd henabled Bool.false_ne_true

/-! ## Steps without the stream -/

theorem withStream_processReceive (uart : Receiver) (received : List UInt8)
    (completed target : ℕ) :
    ∃ later, (uart.withStream received completed target).processReceive =
      uart.processReceive.withStream received completed later := by
  unfold processReceive
  cases hplace : uart.location with
  | idle =>
    simp only [withStream, hplace]
    split
    · exact ⟨target, rfl⟩
    · exact ⟨target, by rw [hplace]⟩
  | counted aCount =>
    simp only [withStream, hplace]
    split
    · exact ⟨target, rfl⟩
    · exact ⟨target, rfl⟩
  | tailRead tail =>
    simp only [withStream, hplace]
    split
    · exact ⟨target, rfl⟩
    · exact ⟨target, rfl⟩
  | secondPart tail =>
    simp only [withStream, hplace]
    split
    · exact ⟨target, rfl⟩
    · exact ⟨target, rfl⟩
  | entered | copied | unlocked | firstReceived tail | secondReceived tail =>
    simp only [withStream, hplace]
    exact ⟨_, rfl⟩

theorem receiveDone_of_copies (hcopies : uart.receiveDoneCopies = true) :
    uart.receiveDone = { uart.copyToFifo receiveBufferSize with
      lastCount := 0, active := uart.following, following := []
      completed := uart.completed + 1 } := by
  unfold receiveDone
  simp only [if_pos (bne_iff_ne.mp hcopies)]

theorem receiveDone_of_drops (hdrops : uart.receiveDoneCopies = false) :
    uart.receiveDone = { uart with
      active := uart.following, following := [], completed := uart.completed + 1 } := by
  unfold receiveDone
  simp only [if_neg (not_not_intro (bne_eq_false_iff_eq.mp hdrops))]

theorem withStream_receiveDone (hcopies : uart.receiveDoneCopies = true)
    (received : List UInt8) (completed target : ℕ) :
    (uart.withStream received completed target).receiveDone =
      uart.receiveDone.withStream received (completed + 1) target := by
  have hshadow : (uart.withStream received completed target).receiveDoneCopies = true := hcopies
  rw [receiveDone_of_copies hshadow, receiveDone_of_copies hcopies]
  rfl

theorem withStream_arrive {byte : UInt8} {next : Receiver} (hnext : uart.arrive byte = some next)
    (received : List UInt8) (completed target : ℕ) :
    (uart.withStream received completed target).arrive byte =
      some (next.withStream (received ++ [byte]) completed target) := by
  rcases arrive_cases hnext with ⟨hactive, rfl⟩ | ⟨hactive, hfollowing, rfl⟩
  · exact if_pos hactive
  · exact (if_neg hactive).trans (if_pos hfollowing)

/-- The main loop does not touch the buffers. -/
theorem processReceive_buffers (uart : Receiver) :
    uart.processReceive.active = uart.active ∧
      uart.processReceive.following = uart.following := by
  unfold processReceive
  split
  case h_1 | h_3 | h_6 | h_8 => split <;> exact ⟨rfl, rfl⟩
  all_goals exact ⟨rfl, rfl⟩

/-- The steps of the main loop keep space in the fifo. -/
theorem processReceive_hasSpace (hbelow : uart.HasSpace uart.lastCount)
    (hspace : ∀ aCount, uart.location = .counted aCount → uart.lastCount < aCount →
      uart.HasSpace aCount) :
    uart.processReceive.HasSpace uart.processReceive.lastCount := by
  have hreleased : ∀ count, receiveBufferSize * uart.completed + uart.lastCount ≤
      uart.released + count + 127 := fun count ↦
    hbelow.trans (Nat.add_le_add_right (Nat.le_add_right _ _) _)
  unfold processReceive
  cases hplace : uart.location with
  | idle =>
    simp only
    split <;> exact hbelow
  | counted aCount =>
    simp only
    split
    case isTrue hnew => exact hspace aCount hplace hnew
    case isFalse => exact hbelow
  | tailRead tail =>
    simp only
    split <;> exact hbelow
  | secondPart tail =>
    simp only
    split <;> exact hbelow
  | firstReceived tail | secondReceived tail => exact hreleased _
  | entered | copied | unlocked => exact hbelow

end Receiver

/-! ## The invariant -/

/-- The receive path goes on like `shadow`, to which the buffers that did not fit never arrived. -/
structure Contained (state : Receiver × List UInt8) (shadow : Receiver) : Prop where
  shadow_eq : ∃ completed target, shadow = state.1.withStream (keptBytes state) completed target
  consistent : shadow.Consistent
  hasSpace : shadow.HasSpace shadow.lastCount

namespace Contained

variable {state next : Receiver × List UInt8} {shadow : Receiver}

theorem active_le (h : Contained state shadow) :
    state.1.active.length ≤ receiveBufferSize := by
  obtain ⟨completed, target, rfl⟩ := h.shadow_eq
  exact h.consistent.active_le

/-- `mHead` and `mTail` tell how many bytes the fifo has. -/
theorem inFifo_eq (h : Contained state shadow) :
    shadow.released + state.1.inFifo = shadow.copiedCount := by
  obtain ⟨completed, target, rfl⟩ := h.shadow_eq
  have hhead : state.1.sReceiveFifo.mHead = _ := h.consistent.mHead_eq
  have htail : state.1.sReceiveFifo.mTail = _ := h.consistent.mTail_eq
  have hreleased := h.consistent.released_le
  have hspace := h.hasSpace
  simp only [Receiver.HasSpace, Receiver.copiedCount, Receiver.inFifo, Receiver.withStream,
    kReceiveFifoSize, receiveBufferSize] at *
  omega

theorem hasSpace_of_le (h : Contained state shadow) {aCount : ℕ}
    (hlower : state.1.lastCount ≤ aCount)
    (hfits : state.1.inFifo + (aCount - state.1.lastCount) ≤ 127) : shadow.HasSpace aCount := by
  have hcount := h.inFifo_eq
  obtain ⟨completed, target, rfl⟩ := h.shadow_eq
  simp only [Receiver.HasSpace, Receiver.copiedCount, Receiver.withStream] at *
  omega

theorem arrive (h : Contained state shadow) {byte : UInt8} {uart : Receiver}
    (hnext : state.1.arrive byte = some uart) : ∃ later, Contained (uart, state.2) later := by
  obtain ⟨completed, target, rfl⟩ := h.shadow_eq
  have hshadow := Receiver.withStream_arrive hnext (keptBytes state) completed target
  have hkept : keptBytes (uart, state.2) = keptBytes state ++ [byte] := by
    rcases Receiver.arrive_cases hnext with ⟨hactive, rfl⟩ | ⟨-, -, rfl⟩
    · have hfollowing : state.1.following = [] := h.consistent.in_order hactive
      simp [keptBytes, hfollowing]
    · simp [keptBytes]
  have hspace : uart.lastCount = state.1.lastCount ∧ uart.released = state.1.released := by
    rcases Receiver.arrive_cases hnext with ⟨-, rfl⟩ | ⟨-, -, rfl⟩
    · exact ⟨rfl, rfl⟩
    · exact ⟨rfl, rfl⟩
  refine ⟨uart.withStream (keptBytes (uart, state.2)) completed target, ⟨_, _, rfl⟩, ?_, ?_⟩
  · rw [hkept]
    exact h.consistent.arrive hshadow
  · have hbefore := h.hasSpace
    simp only [Receiver.HasSpace, Receiver.withStream, hspace] at hbefore ⊢
    exact hbefore

/-- A full buffer that fits is copied. -/
theorem receiveDone_fits (h : Contained state shadow)
    (henabled : state.1.interruptsEnabled = true)
    (hpending : state.1.active.length = receiveBufferSize)
    (hfits : state.1.inFifo < state.1.lastCount) :
    state.1.receiveDoneCopies = true ∧
      ∃ later, Contained (state.1.receiveDone, state.2 ++ state.1.active) later := by
  have hlast : state.1.lastCount ≤ receiveBufferSize := by
    obtain ⟨completed, target, rfl⟩ := h.shadow_eq
    exact hpending ▸ h.consistent.lastCount_le
  have hspace : shadow.HasSpace receiveBufferSize := by
    apply h.hasSpace_of_le hlast
    simp only [receiveBufferSize] at hlast ⊢
    omega
  obtain ⟨completed, target, rfl⟩ := h.shadow_eq
  have hcopies : state.1.receiveDoneCopies = true :=
    bne_iff_ne.mpr (h.consistent.receiveDone_copies hspace)
  refine ⟨hcopies, _, ⟨completed + 1, target, rfl⟩, ?_, ?_⟩
  · have hdone := h.consistent.receiveDone hspace henabled hpending
    rw [Receiver.withStream_receiveDone hcopies] at hdone
    have hkept : keptBytes (state.1.receiveDone, state.2 ++ state.1.active) = keptBytes state := by
      rw [Receiver.receiveDone_of_copies hcopies]
      exact List.append_nil _
    rw [hkept]
    exact hdone
  · rw [Receiver.receiveDone_of_copies hcopies]
    simp only [Receiver.HasSpace, Receiver.withStream, Receiver.copyToFifo,
      receiveBufferSize] at hspace ⊢
    omega

/-- A full buffer is dropped as a whole. -/
theorem receiveDone_drops (h : Contained state shadow)
    (henabled : state.1.interruptsEnabled = true) (hlast : state.1.lastCount = 0)
    (hempty : state.1.inFifo = 0) :
    state.1.receiveDoneCopies = false ∧
      ∃ later, Contained (state.1.receiveDone, state.2) later := by
  have hcount := h.inFifo_eq
  obtain ⟨completed, target, rfl⟩ := h.shadow_eq
  have hdrops : state.1.receiveDoneCopies = false := by
    have hhead : state.1.sReceiveFifo.mHead = _ := h.consistent.mHead_eq
    have htail : state.1.sReceiveFifo.mTail = _ := h.consistent.mTail_eq
    apply bne_eq_false_iff_eq.mpr
    simp only [Receiver.copiedCount, Receiver.withStream, kReceiveFifoSize,
      receiveBufferSize] at *
    omega
  refine ⟨hdrops, _, ⟨completed, target, rfl⟩, ?_, ?_⟩
  · rw [Receiver.receiveDone_of_drops hdrops]
    have hkept : keptBytes ({ state.1 with
        active := state.1.following, following := [], completed := state.1.completed + 1 },
          state.2) = state.2 ++ state.1.following := List.append_nil _
    rw [hkept]
    exact h.consistent.dropActive henabled hlast rfl
  · rw [Receiver.receiveDone_of_drops hdrops]
    exact h.hasSpace

/-- A step of the main loop, which goes on with a call that no arrival disturbs. -/
theorem processReceive (h : Contained state shadow)
    (hcondition : OverflowCondition state .processReceive)
    (hpending : state.1.interruptsEnabled = true → state.1.active.length < receiveBufferSize) :
    ∃ later, Contained (state.1.processReceive, state.2) later ∧
      (shadow.Drains → later.Drains) := by
  have hspace : ∀ aCount, shadow.location = .counted aCount → shadow.lastCount < aCount →
      shadow.HasSpace aCount := by
    intro aCount hplace hnew
    obtain ⟨completed, target, hshadow⟩ := h.shadow_eq
    rw [hshadow] at hplace hnew
    exact h.hasSpace_of_le (Nat.le_of_lt hnew) (hcondition aCount hplace)
  obtain ⟨completed, target, rfl⟩ := h.shadow_eq
  obtain ⟨later, hlater⟩ :=
    state.1.withStream_processReceive (keptBytes state) completed target
  have hkept : keptBytes (state.1.processReceive, state.2) = keptBytes state := by
    obtain ⟨hactive, hfollowing⟩ := state.1.processReceive_buffers
    simp only [keptBytes, hactive, hfollowing]
  refine ⟨(state.1.withStream (keptBytes state) completed target).processReceive,
    ⟨⟨completed, later, by rw [hkept]; exact hlater⟩, ?_, ?_⟩, fun hdrains ↦ ?_⟩
  · exact h.consistent.processReceive h.hasSpace hspace hpending
  · exact Receiver.processReceive_hasSpace h.hasSpace hspace
  · exact hdrains.processReceive h.consistent h.hasSpace

theorem rxInterrupt (h : Contained state shadow) :
    Contained ({ state.1 with sRxDataReady := true }, state.2)
      { shadow with sRxDataReady := true } := by
  obtain ⟨completed, target, rfl⟩ := h.shadow_eq
  exact ⟨⟨completed, target, rfl⟩, h.consistent.rxInterrupt, h.hasSpace⟩

/-- Every step that meets the condition keeps the invariant, and `receiveDone` leaves no byte of the
next buffer counted. -/
theorem step (h : Contained state shadow) {event : UartEvent}
    (hcondition : OverflowCondition state event) (hstep : overflowStep state event = some next) :
    (∃ later, Contained next later) ∧ (event = .receiveDone → next.1.lastCount = 0) := by
  obtain ⟨uart, served⟩ := next
  obtain ⟨hnext, hserved⟩ := recording_eq_some.mp hstep
  simp only at hnext hserved
  subst hserved
  cases event with
  | arrive byte => exact ⟨h.arrive hnext, fun hdone ↦ by contradiction⟩
  | receiveDone =>
    obtain ⟨hguard, hdone⟩ := Option.ite_none_right_eq_some.mp hnext
    obtain rfl := Option.some.inj hdone
    rw [Bool.and_eq_true, Receiver.receiveDonePending, beq_iff_eq] at hguard
    rcases hcondition with hfits | ⟨hlast, hempty⟩
    · obtain ⟨hcopies, hlater⟩ := h.receiveDone_fits hguard.1 hguard.2 hfits
      rw [servedBytes, if_pos hcopies]
      refine ⟨hlater, fun _ ↦ ?_⟩
      rw [Receiver.receiveDone_of_copies hcopies]
    · obtain ⟨hdrops, hlater⟩ := h.receiveDone_drops hguard.1 hlast hempty
      rw [servedBytes, hdrops, hlast, List.take_zero, if_neg Bool.false_ne_true,
        List.append_nil]
      refine ⟨hlater, fun _ ↦ ?_⟩
      rw [Receiver.receiveDone_of_drops hdrops]
      exact hlast
  | rxInterrupt =>
    obtain ⟨-, hready⟩ := Option.ite_none_right_eq_some.mp hnext
    obtain rfl := Option.some.inj hready
    exact ⟨⟨_, h.rxInterrupt⟩, fun hdone ↦ by contradiction⟩
  | processReceive =>
    obtain ⟨hguard, hprocess⟩ := Option.ite_none_left_eq_some.mp hnext
    obtain rfl := Option.some.inj hprocess
    have hpending : state.1.interruptsEnabled = true →
        state.1.active.length < receiveBufferSize := by
      intro henabled
      rw [henabled, Bool.true_and, Receiver.receiveDonePending, beq_iff_eq] at hguard
      exact Nat.lt_of_le_of_ne h.active_le hguard
    obtain ⟨later, hlater, -⟩ := h.processReceive hcondition hpending
    exact ⟨⟨later, hlater⟩, fun hdone ↦ by contradiction⟩

/-- A step other than an arrival goes on with a call. -/
theorem step_drains (h : Contained state shadow) (hdrains : shadow.Drains) {event : UartEvent}
    (hevent : ∀ byte, event ≠ .arrive byte) (hcondition : OverflowCondition state event)
    (hstep : overflowStep state event = some next) :
    ∃ later, Contained next later ∧ later.Drains := by
  obtain ⟨uart, served⟩ := next
  obtain ⟨hnext, hserved⟩ := recording_eq_some.mp hstep
  simp only at hnext hserved
  subst hserved
  have hactive : state.1.active.length < receiveBufferSize := by
    obtain ⟨completed, target, rfl⟩ := h.shadow_eq
    exact hdrains.1
  cases event with
  | arrive byte => exact absurd rfl (hevent byte)
  | receiveDone =>
    obtain ⟨hguard, -⟩ := Option.ite_none_right_eq_some.mp hnext
    rw [Bool.and_eq_true, Receiver.receiveDonePending, beq_iff_eq] at hguard
    exact absurd hguard.2 (Nat.ne_of_lt hactive)
  | rxInterrupt =>
    obtain ⟨-, hready⟩ := Option.ite_none_right_eq_some.mp hnext
    obtain rfl := Option.some.inj hready
    exact ⟨_, h.rxInterrupt, hdrains⟩
  | processReceive =>
    obtain ⟨-, hprocess⟩ := Option.ite_none_left_eq_some.mp hnext
    obtain rfl := Option.some.inj hprocess
    obtain ⟨later, hlater, hkeeps⟩ := h.processReceive hcondition fun _ ↦ hactive
    exact ⟨later, hlater, hkeeps hdrains⟩

end Contained

/-! ## Runs -/

/-- What is said of overflows over a run from `otPlatUartEnable`. -/
structure OverflowLaw (labels : List UartEvent) : Prop where
  /-- No byte of the buffer that just became active counts as copied. -/
  lastCount_zero : ∀ front back uart next, labels = front ++ .receiveDone :: back →
    exec uartStep otPlatUartEnable front = some uart →
    uartStep uart .receiveDone = some next → next.lastCount = 0
  /-- Nothing but the bytes of the buffers that did not fit is lost. -/
  in_order : Throughout overflowStep (fun state ↦ state.1.delivered <+: keptBytes state)
    (otPlatUartEnable, []) labels
  /-- A call with new data, during which no byte arrives, hands up everything else. -/
  drained : ∀ front back state final, labels = front ++ .processReceive :: back →
    exec overflowStep (otPlatUartEnable, []) front = some state →
    state.1.location = .idle → state.1.sRxDataReady = true → (∀ byte, .arrive byte ∉ back) →
    exec overflowStep state (.processReceive :: back) = some final →
    final.1.location = .idle → final.1.delivered = keptBytes final
  /-- Every call returns when the main loop is left alone. -/
  returns : ∀ front back uart, labels = front ++ back →
    exec uartStep otPlatUartEnable front = some uart →
    uart.active.length < receiveBufferSize →
      ∃ steps final, exec uartStep uart (List.replicate steps .processReceive) = some final ∧
        final.location = .idle

theorem otPlatUartEnable_contained : Contained (otPlatUartEnable, []) otPlatUartEnable where
  shadow_eq := ⟨0, 0, rfl⟩
  consistent := Receiver.otPlatUartEnable_consistent
  hasSpace := Nat.zero_le _

variable {labels : List UartEvent} {state final : Receiver × List UInt8}

theorem contained_throughout
    (hcondition : Along overflowStep OverflowCondition (otPlatUartEnable, []) labels) :
    Throughout overflowStep (fun state ↦ ∃ shadow, Contained state shadow)
      (otPlatUartEnable, []) labels :=
  hcondition.throughout (fun _ _ _ ⟨_, h⟩ hcondition hstep ↦ (h.step hcondition hstep).1)
    ⟨_, otPlatUartEnable_contained⟩

/-- A run without arrivals goes on with the call. -/
theorem exec_overflow_drains {shadow : Receiver} (h : Contained state shadow)
    (hdrains : shadow.Drains) (hcondition : Along overflowStep OverflowCondition state labels)
    (harrive : ∀ byte, .arrive byte ∉ labels)
    (hrun : exec overflowStep state labels = some final) :
    ∃ later, Contained final later ∧ later.Drains := by
  induction labels generalizing state shadow with
  | nil =>
    obtain rfl : state = final := by simpa using hrun
    exact ⟨shadow, h, hdrains⟩
  | cons event labels ih =>
    obtain ⟨next, hstep, hrest⟩ := (exec_cons_eq_some _).mp hrun
    have hevent : ∀ byte, event ≠ .arrive byte := fun byte heq ↦
      harrive byte (heq ▸ List.mem_cons_self)
    obtain ⟨later, hlater, hgoesOn⟩ := h.step_drains hdrains hevent hcondition.1 hstep
    exact ih hlater hgoesOn (hcondition.2 next hstep)
      (fun byte hmem ↦ harrive byte (List.mem_cons_of_mem _ hmem)) hrest

/-- A call with new data enters `processReceive`. -/
theorem Contained.enter {shadow : Receiver} {next : Receiver × List UInt8}
    (h : Contained state shadow) (hidle : state.1.location = .idle)
    (hready : state.1.sRxDataReady = true)
    (hstep : overflowStep state .processReceive = some next) :
    ∃ later, Contained next later ∧ later.Drains := by
  obtain ⟨uart, served⟩ := next
  obtain ⟨hnext, hserved⟩ := recording_eq_some.mp hstep
  simp only at hnext hserved
  subst hserved
  obtain ⟨hguard, hprocess⟩ := Option.ite_none_left_eq_some.mp hnext
  obtain rfl := Option.some.inj hprocess
  have hactive : state.1.active.length < receiveBufferSize := by
    refine Nat.lt_of_le_of_ne h.active_le fun hfull ↦ hguard ?_
    simp [Receiver.interruptsEnabled, hidle, Receiver.receiveDonePending, hfull]
  have hcondition : OverflowCondition state .processReceive := by
    intro aCount hplace
    rw [hidle] at hplace
    contradiction
  obtain ⟨later, hlater, -⟩ := h.processReceive hcondition fun _ ↦ hactive
  have hentered : state.1.processReceive.location = .entered := by
    rw [Receiver.processReceive, hidle]
    simp only [hready, if_true]
  refine ⟨later, hlater, ?_⟩
  obtain ⟨completed, target, rfl⟩ := hlater.shadow_eq
  refine ⟨?_, ?_⟩
  · change state.1.processReceive.active.length < receiveBufferSize
    rw [(state.1.processReceive_buffers).1]
    exact hactive
  · have hplace : ((state.1.processReceive, state.2).1.withStream
        (keptBytes (state.1.processReceive, state.2)) completed target).location = .entered :=
      hentered
    rw [hplace]
    trivial

/-- In every run in which nothing but whole buffers overflows, from an empty fifo, an overflow costs
only the bytes of its buffer. -/
theorem overflowLaw_of_condition {labels : List UartEvent}
    (hcondition : Along overflowStep OverflowCondition (otPlatUartEnable, []) labels) :
    OverflowLaw labels where
  lastCount_zero := by
    rintro front back uart next rfl hfront hstep
    have hrecorded : (exec overflowStep (otPlatUartEnable, []) front).map Prod.fst =
        exec uartStep otPlatUartEnable front := exec_recording otPlatUartEnable [] front
    rw [hfront, Option.map_eq_some_iff] at hrecorded
    obtain ⟨state, hstate, rfl⟩ := hrecorded
    obtain ⟨shadow, h⟩ := ((contained_throughout hcondition).append hstate).head
    have hnow := (hcondition.append hstate).2.1
    have hdone : overflowStep state .receiveDone =
        some (next, servedBytes state.1 .receiveDone next state.2) :=
      recording_eq_some.mpr ⟨hstep, rfl⟩
    exact (h.step hnow hdone).2 rfl
  in_order := (contained_throughout hcondition).mono fun state ⟨shadow, h⟩ ↦ by
    obtain ⟨completed, target, rfl⟩ := h.shadow_eq
    have hdelivered : state.1.delivered = _ := h.consistent.delivered_eq
    rw [hdelivered]
    exact List.take_prefix _ _
  drained := by
    rintro front back state final rfl hfront hidle hready harrive hrun hreturned
    obtain ⟨shadow, h⟩ := ((contained_throughout hcondition).append hfront).head
    obtain ⟨next, hstep, hrest⟩ := (exec_cons_eq_some _).mp hrun
    obtain ⟨entered, hentered, hdrains⟩ := h.enter hidle hready hstep
    have hback := ((hcondition.append hfront).2).2 next hstep
    obtain ⟨later, hlater, hdone⟩ := exec_overflow_drains hentered hdrains hback harrive hrest
    obtain ⟨completed, target, rfl⟩ := hlater.shadow_eq
    exact hdone.delivered_eq hlater.consistent hreturned
  returns _ _ _ _ _ hactive := Receiver.processReceive_returns hactive

/-! ## Two runs -/

instance : DecidableRel OverflowCondition := fun state event ↦
  match event with
  | .receiveDone => inferInstanceAs (Decidable (_ ∨ _))
  | .processReceive =>
    match hplace : state.1.location with
    | .counted aCount =>
      decidable_of_iff (state.1.inFifo + (aCount - state.1.lastCount) ≤ 127)
        ⟨fun h other hother ↦ by
          obtain rfl := Location.counted.inj (hplace.symm.trans hother)
          exact h, fun h ↦ h aCount hplace⟩
    | .idle | .entered | .copied | .unlocked | .tailRead _ | .firstReceived _ | .secondPart _
    | .secondReceived _ =>
      .isTrue fun aCount hother ↦ by
        rw [hplace] at hother
        contradiction
  | .arrive _ | .rxInterrupt => .isTrue trivial

/-- A whole buffer overflows, and two bytes of the next one are handed up. -/
def bufferOverflows : List UartEvent :=
  List.replicate 128 (.arrive 7) ++ [.receiveDone, .arrive 1, .arrive 2, .rxInterrupt] ++
    List.replicate 9 .processReceive

theorem overflowLaw_of_condition_bufferOverflows :
    ((exec overflowStep (otPlatUartEnable, []) bufferOverflows).map fun state ↦
      (state.1.received.length, state.1.delivered)) = some (130, [1, 2]) ∧
    OverflowLaw bufferOverflows :=
  ⟨by decide +kernel, overflowLaw_of_condition (by decide +kernel)⟩

/-- The first byte of a buffer is copied and not yet handed up when the buffer is full. -/
def partOverflows : List UartEvent :=
  [.arrive 1, .rxInterrupt] ++ List.replicate 4 .processReceive ++
    List.replicate 127 (.arrive 7) ++ [.receiveDone]

/-- Of a buffer that overflows behind its first byte, one byte of the next buffer counts as
copied. -/
theorem not_overflowLaw_partOverflows : ¬ ∀ labels, OverflowLaw labels := by
  intro h
  have hrun : ((exec uartStep otPlatUartEnable partOverflows.dropLast).bind fun uart ↦
      uartStep uart .receiveDone).map Receiver.lastCount = some 1 := by decide +kernel
  obtain ⟨next, hnext, hcount⟩ := Option.map_eq_some_iff.mp hrun
  obtain ⟨uart, hfront, hstep⟩ := Option.bind_eq_some_iff.mp hnext
  have hzero := (h partOverflows).lastCount_zero partOverflows.dropLast [] uart next rfl hfront
    hstep
  rw [hcount] at hzero
  contradiction

end OtEfr32.Uart
