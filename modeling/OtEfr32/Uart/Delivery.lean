import OtEfr32.Uart.Stream

/-!
# Delivery of the received stream

The results about whole runs of the receive path, for runs in which no more than 127 received bytes
wait to be released: what is handed up is a prefix of what was received, no copy leaves the fifo,
and a call of `processReceive` that no arrival disturbs hands up everything.
-/

namespace OtEfr32.Uart

open Transition

/-- Every step from a state with room keeps the invariant. -/
theorem uartStep_consistent {uart next : Receiver} {event : UartEvent} (h : uart.Consistent)
    (hroom : uart.Room) (hstep : uartStep uart event = some next) : next.Consistent := by
  cases event with
  | arrive byte => exact h.arrive hstep
  | receiveDone =>
    obtain ⟨hguard, hnext⟩ := Option.ite_none_right_eq_some.mp hstep
    obtain rfl := Option.some.inj hnext
    rw [Bool.and_eq_true, Receiver.receiveDonePending, beq_iff_eq] at hguard
    exact h.receiveDone (h.hasSpace hroom (Nat.le_of_eq hguard.2.symm)) hguard.1 hguard.2
  | rxInterrupt =>
    obtain ⟨-, hnext⟩ := Option.ite_none_right_eq_some.mp hstep
    obtain rfl := Option.some.inj hnext
    exact h.rxInterrupt
  | processReceive =>
    obtain ⟨hguard, hnext⟩ := Option.ite_none_left_eq_some.mp hstep
    obtain rfl := Option.some.inj hnext
    refine h.processReceive (h.hasSpace hroom h.lastCount_le) (fun aCount hplace _ ↦ ?_)
      fun henabled ↦ ?_
    · have hlocation := h.at_location
      rw [Receiver.AtLocation, hplace] at hlocation
      exact h.hasSpace hroom hlocation.2
    rw [henabled, Bool.true_and, Receiver.receiveDonePending, beq_iff_eq] at hguard
    exact Nat.lt_of_le_of_ne h.active_le hguard

/-- In a run with room, the invariant holds in every state. -/
theorem consistent_throughout {labels : List UartEvent}
    (hroom : Throughout uartStep Receiver.Room otPlatUartEnable labels) :
    Throughout uartStep Receiver.Consistent otPlatUartEnable labels :=
  hroom.along.throughout (fun _ _ _ h hroom hstep ↦ uartStep_consistent h hroom hstep)
    Receiver.otPlatUartEnable_consistent

/-! ## Calls without arrivals -/

namespace Receiver

/-- What a call of `processReceive` since whose entry no byte has arrived has achieved. -/
def Drains (uart : Receiver) : Prop :=
  uart.active.length < receiveBufferSize ∧
    match uart.location with
    | .idle => uart.released = uart.received.length
    | .entered => True
    | .counted aCount => aCount = uart.active.length
    | .copied | .unlocked => uart.lastCount = uart.active.length
    | _ => uart.target = uart.received.length

variable {uart : Receiver}

/-- A step of the main loop goes on with the call. -/
theorem Drains.processReceive (hdrains : uart.Drains) (h : uart.Consistent)
    (hbelow : uart.HasSpace uart.lastCount) : uart.processReceive.Drains := by
  obtain ⟨hactive, hprogress⟩ := hdrains
  have hlocation := h.at_location
  unfold AtLocation at hlocation
  unfold Receiver.processReceive
  cases hplace : uart.location with
  | idle =>
    rw [hplace] at hprogress
    simp only
    split
    · exact ⟨hactive, trivial⟩
    · exact ⟨hactive, by rw [hplace]; exact hprogress⟩
  | entered => exact ⟨hactive, rfl⟩
  | counted aCount =>
    rw [hplace] at hprogress hlocation
    simp only
    split
    case isTrue => exact ⟨hactive, hprogress⟩
    case isFalse hold =>
      refine ⟨hactive, ?_⟩
      have := h.lastCount_le
      simp only at hprogress ⊢
      omega
  | copied =>
    rw [hplace] at hprogress
    exact ⟨hactive, hprogress⟩
  | unlocked =>
    rw [hplace] at hprogress
    refine ⟨hactive, ?_⟩
    have hlength := h.length_eq
    rw [h.in_order hactive, List.length_nil] at hlength
    simp only [copiedCount] at hprogress ⊢
    omega
  | tailRead tail =>
    rw [hplace] at hprogress
    simp only
    split <;> exact ⟨hactive, hprogress⟩
  | firstReceived tail =>
    rw [hplace] at hprogress
    exact ⟨hactive, hprogress⟩
  | secondPart tail =>
    rw [hplace] at hprogress hlocation
    obtain ⟨htarget, hstraight⟩ := hlocation
    have hpiece := (htarget.straight h.mHead_eq (htarget.below hbelow) hstraight).1
    simp only
    split
    case isTrue => exact ⟨hactive, hprogress⟩
    case isFalse hdone =>
      refine ⟨hactive, ?_⟩
      simp only at hprogress ⊢
      omega
  | secondReceived tail =>
    rw [hplace] at hprogress hlocation
    obtain ⟨htarget, hstraight⟩ := hlocation
    have hpiece := (htarget.straight h.mHead_eq (htarget.below hbelow)
      (Nat.le_of_lt hstraight)).1
    refine ⟨hactive, ?_⟩
    simp only [advanceHead] at hprogress ⊢
    omega

/-- Whatever happens next other than an arrival goes on with the call. -/
theorem Drains.uartStep (hdrains : uart.Drains) (h : uart.Consistent)
    (hbelow : uart.HasSpace uart.lastCount) {event : UartEvent} {next : Receiver}
    (hevent : ∀ byte, event ≠ .arrive byte) (hstep : uartStep uart event = some next) :
    next.Drains := by
  cases event with
  | arrive byte => exact absurd rfl (hevent byte)
  | receiveDone =>
    obtain ⟨hguard, -⟩ := Option.ite_none_right_eq_some.mp hstep
    rw [Bool.and_eq_true, receiveDonePending, beq_iff_eq] at hguard
    exact absurd hguard.2 (Nat.ne_of_lt hdrains.1)
  | rxInterrupt =>
    obtain ⟨-, hnext⟩ := Option.ite_none_right_eq_some.mp hstep
    obtain rfl := Option.some.inj hnext
    exact hdrains
  | processReceive =>
    obtain ⟨-, hnext⟩ := Option.ite_none_left_eq_some.mp hstep
    obtain rfl := Option.some.inj hnext
    exact hdrains.processReceive h hbelow

/-- A call that has returned without arrivals has handed up everything. -/
theorem Drains.delivered_eq (hdrains : uart.Drains) (h : uart.Consistent)
    (hidle : uart.location = .idle) : uart.delivered = uart.received := by
  have hreleased := hdrains.2
  rw [hidle] at hreleased
  have hhanded : uart.handedUp = uart.received.length := by
    rw [handedUp, hidle]
    exact hreleased
  rw [h.delivered_eq, hhanded, List.take_length]

/-- The steps left until `processReceive` returns. -/
def stepsLeft (uart : Receiver) : ℕ :=
  match uart.location with
  | .idle => 0
  | .entered => 8
  | .counted _ => 7
  | .copied => 6
  | .unlocked => 5
  | .tailRead _ => 4
  | .firstReceived _ => 3
  | .secondPart _ => 2
  | .secondReceived _ => 1

theorem processReceive_stepsLeft (hplace : uart.location ≠ .idle) :
    uart.processReceive.stepsLeft < uart.stepsLeft ∧
      uart.processReceive.active = uart.active := by
  unfold Receiver.processReceive stepsLeft
  cases hlocation : uart.location with
  | idle => exact absurd hlocation hplace
  | counted aCount =>
    by_cases hnew : uart.lastCount < aCount
    · simp only [if_pos hnew]
      exact ⟨by decide, rfl⟩
    · simp only [if_neg hnew]
      exact ⟨by decide, trivial⟩
  | tailRead tail =>
    by_cases hwrap : tail < uart.sReceiveFifo.mHead
    · simp only [if_pos hwrap]
      exact ⟨by decide, rfl⟩
    · simp only [if_neg hwrap]
      exact ⟨by decide, trivial⟩
  | secondPart tail =>
    by_cases hmore : uart.sReceiveFifo.mHead ≠ tail
    · simp only [if_pos hmore]
      exact ⟨by decide, rfl⟩
    · simp only [if_neg hmore]
      exact ⟨by decide, trivial⟩
  | entered | copied | unlocked | firstReceived tail | secondReceived tail =>
    exact ⟨Nat.lt_succ_self _, rfl⟩

/-- Left alone, the main loop leaves `processReceive`. -/
theorem processReceive_returns (hactive : uart.active.length < receiveBufferSize) :
    ∃ steps final, exec Uart.uartStep uart (List.replicate steps .processReceive) = some final ∧
      final.location = .idle := by
  induction hsteps : uart.stepsLeft using Nat.strongRecOn generalizing uart with
  | ind _ ih =>
    subst hsteps
    by_cases hplace : uart.location = .idle
    · exact ⟨0, uart, rfl, hplace⟩
    · obtain ⟨hless, hsame⟩ := processReceive_stepsLeft hplace
      obtain ⟨steps, final, hrun, hidle⟩ := ih _ hless (by rw [hsame]; exact hactive) rfl
      refine ⟨steps + 1, final, (exec_cons_eq_some _).mpr ⟨_, ?_, hrun⟩, hidle⟩
      have hpending : uart.receiveDonePending = false := by
        simpa [receiveDonePending] using Nat.ne_of_lt hactive
      simp [Uart.uartStep, hpending]

end Receiver

/-! ## Runs -/

instance : DecidablePred Receiver.Room := fun _ ↦ inferInstanceAs (Decidable (_ ≤ _))

/-- What is said of the receive path over a run from `otPlatUartEnable`. -/
structure ReceiveLaw (labels : List UartEvent) : Prop where
  /-- Nothing is lost, duplicated or reordered. -/
  in_order : Throughout uartStep (fun uart ↦ uart.delivered <+: uart.received)
    otPlatUartEnable labels
  /-- Every copy stays within the fifo. -/
  in_bounds : Throughout uartStep
    (fun uart ↦ ∀ copy ∈ uart.memcpys, copy.1 + copy.2 ≤ kReceiveFifoSize)
    otPlatUartEnable labels
  /-- A call with new data, during which no byte arrives, hands up everything. -/
  drained : ∀ front back uart final, labels = front ++ .processReceive :: back →
    exec uartStep otPlatUartEnable front = some uart →
    uart.location = .idle → uart.sRxDataReady = true → (∀ byte, .arrive byte ∉ back) →
    exec uartStep uart (.processReceive :: back) = some final → final.location = .idle →
      final.delivered = final.received
  /-- Every call returns when the main loop is left alone. -/
  returns : ∀ front back uart, labels = front ++ back →
    exec uartStep otPlatUartEnable front = some uart →
    uart.active.length < receiveBufferSize →
      ∃ steps final, exec uartStep uart (List.replicate steps .processReceive) = some final ∧
        final.location = .idle

/-- A run without arrivals goes on with the call. -/
theorem exec_drains {uart final : Receiver} {labels : List UartEvent} (hdrains : uart.Drains)
    (h : uart.Consistent) (hroom : Throughout uartStep Receiver.Room uart labels)
    (harrive : ∀ byte, .arrive byte ∉ labels) (hrun : exec uartStep uart labels = some final) :
    final.Drains ∧ final.Consistent := by
  induction labels generalizing uart with
  | nil =>
    obtain rfl : uart = final := by simpa using hrun
    exact ⟨hdrains, h⟩
  | cons event labels ih =>
    obtain ⟨next, hstep, hrest⟩ := (exec_cons_eq_some _).mp hrun
    have hevent : ∀ byte, event ≠ .arrive byte := fun byte heq ↦
      harrive byte (heq ▸ List.mem_cons_self)
    exact ih (hdrains.uartStep h (h.hasSpace hroom.head h.lastCount_le) hevent hstep)
      (uartStep_consistent h hroom.head hstep) (hroom.2 next hstep)
      (fun byte hmem ↦ harrive byte (List.mem_cons_of_mem _ hmem)) hrest

/-- The receive path delivers the received stream in every run that keeps room in the fifo. -/
theorem receive_in_order {labels : List UartEvent}
    (hroom : Throughout uartStep Receiver.Room otPlatUartEnable labels) : ReceiveLaw labels where
  in_order := (consistent_throughout hroom).mono fun _ h ↦ by
    rw [h.delivered_eq]
    exact List.take_prefix _ _
  in_bounds := (consistent_throughout hroom).mono fun _ h ↦ h.in_bounds
  drained := by
    rintro front back uart final rfl hfront hidle hready harrive hrun hreturned
    have hconsistent := (consistent_throughout hroom).append hfront
    have hroom' := hroom.append hfront
    obtain ⟨next, hstep, hrest⟩ := (exec_cons_eq_some _).mp hrun
    obtain ⟨hguard, hnext⟩ := Option.ite_none_left_eq_some.mp hstep
    have hactive : uart.active.length < receiveBufferSize := by
      refine Nat.lt_of_le_of_ne hconsistent.head.active_le fun hfull ↦ hguard ?_
      simp [Receiver.interruptsEnabled, hidle, Receiver.receiveDonePending, hfull]
    have hentered : next.Drains := by
      rw [← Option.some.inj hnext, Receiver.processReceive, hidle]
      simp only [hready, if_true]
      exact ⟨hactive, trivial⟩
    obtain ⟨hdrains, h⟩ := exec_drains hentered (hconsistent.2 next hstep).head
      (hroom'.2 next hstep) harrive hrest
    exact hdrains.delivered_eq h hreturned
  returns _ _ _ _ _ hactive := Receiver.processReceive_returns hactive

/-- Three bytes, of which the third arrives while the first two are being handed up. -/
theorem receive_in_order_three_bytes :
    ReceiveLaw ([.arrive 1, .arrive 2, .rxInterrupt] ++ List.replicate 7 .processReceive ++
      [.arrive 3, .rxInterrupt] ++ List.replicate 9 .processReceive) :=
  receive_in_order (by decide)

end OtEfr32.Uart
