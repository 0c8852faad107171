import OtEfr32.Uart.Receive

/-!
# The received stream

While no more than 127 copied bytes are waiting to be released, the fifo is a window of the
received stream: `released` bytes are behind it, `copiedCount` bytes up to its end, and `mHead` and
`mTail` are these numbers modulo 128.  Since a buffer is as long as the fifo, `mTail` is the place
of the next byte in its own buffer, and no copy runs over the end.
-/

namespace OtEfr32.Uart

open Data Transition

namespace Receiver

/-- No more than 127 bytes are received and not yet released. -/
def Room (uart : Receiver) : Prop := uart.received.length ≤ uart.released + 127

/-- The fifo has space for a copy up to the byte `aCount` of the active buffer. -/
def HasSpace (uart : Receiver) (aCount : ℕ) : Prop :=
  receiveBufferSize * uart.completed + aCount ≤ uart.released + 127

/-- The tail that the main loop has read is that of the first `target` bytes. -/
structure Target (uart : Receiver) (tail : ℕ) : Prop where
  tail_eq : tail = uart.target % kReceiveFifoSize
  released_le : uart.released ≤ uart.target
  le_copied : uart.target ≤ uart.copiedCount

/-- The number of bytes given to `otPlatUartReceived`; it runs ahead of the released ones between
a call and the update of `mHead`. -/
def handedUp (uart : Receiver) : ℕ :=
  match uart.location with
  | .firstReceived _ => uart.released + (kReceiveFifoSize - uart.sReceiveFifo.mHead)
  | .secondReceived _ => uart.target
  | _ => uart.released

/-- What `processReceive` knows at each of its places. -/
def AtLocation (uart : Receiver) : Prop :=
  match uart.location with
  | .counted aCount => uart.lastCount ≤ aCount ∧ aCount ≤ uart.active.length
  | .tailRead tail => uart.Target tail
  | .firstReceived tail => uart.Target tail ∧ tail < uart.sReceiveFifo.mHead
  | .secondPart tail => uart.Target tail ∧ uart.sReceiveFifo.mHead ≤ tail
  | .secondReceived tail => uart.Target tail ∧ uart.sReceiveFifo.mHead < tail
  | _ => True

/-- The invariant of the receive path. -/
structure Consistent (uart : Receiver) : Prop where
  length_eq : uart.received.length =
    receiveBufferSize * uart.completed + uart.active.length + uart.following.length
  buffers : uart.received.drop (receiveBufferSize * uart.completed) = uart.active ++ uart.following
  active_le : uart.active.length ≤ receiveBufferSize
  following_le : uart.following.length ≤ receiveBufferSize
  in_order : uart.active.length < receiveBufferSize → uart.following = []
  lastCount_le : uart.lastCount ≤ uart.active.length
  mTail_eq : uart.sReceiveFifo.mTail = uart.lastCount % kReceiveFifoSize
  mHead_eq : uart.sReceiveFifo.mHead = uart.released % kReceiveFifoSize
  released_le : uart.released ≤ uart.copiedCount
  released_lt : uart.released < receiveBufferSize * (uart.completed + 1)
  fifo : RingHolds kReceiveFifoSize uart.sReceiveFifo.mBuffer uart.received uart.released
    uart.copiedCount
  in_bounds : ∀ copy ∈ uart.memcpys, copy.1 + copy.2 ≤ kReceiveFifoSize
  delivered_eq : uart.delivered = uart.received.take uart.handedUp
  at_location : uart.AtLocation

theorem otPlatUartEnable_consistent : otPlatUartEnable.Consistent where
  length_eq := rfl
  buffers := rfl
  active_le := Nat.zero_le _
  following_le := Nat.zero_le _
  in_order _ := rfl
  lastCount_le := Nat.le_refl _
  mTail_eq := rfl
  mHead_eq := rfl
  released_le := Nat.le_refl _
  released_lt := by decide
  fifo := ⟨Nat.le_refl _, fun index _ hlt ↦ absurd hlt (Nat.not_lt_zero index)⟩
  in_bounds := nofun
  delivered_eq := rfl
  at_location := trivial

variable {uart : Receiver}

/-! ## Copies -/

/-- What a copy up to the byte `aCount` of the active buffer does to the fifo. -/
theorem Consistent.copyToFifo (h : uart.Consistent) {aCount : ℕ}
    (hlower : uart.lastCount ≤ aCount) (hupper : aCount ≤ uart.active.length)
    (hspace : uart.HasSpace aCount) :
    RingHolds kReceiveFifoSize (uart.copyToFifo aCount).sReceiveFifo.mBuffer uart.received
        uart.released (receiveBufferSize * uart.completed + aCount) ∧
      (uart.copyToFifo aCount).sReceiveFifo.mTail = aCount % kReceiveFifoSize ∧
      ∀ copy ∈ (uart.copyToFifo aCount).memcpys, copy.1 + copy.2 ≤ kReceiveFifoSize := by
  have htail := h.mTail_eq
  have hactive := h.active_le
  unfold HasSpace at hspace
  have hoffset : uart.sReceiveFifo.mTail = uart.copiedCount % kReceiveFifoSize := by
    simp only [copiedCount, kReceiveFifoSize, receiveBufferSize] at htail ⊢
    omega
  have hcount : ((uart.active.drop uart.lastCount).take (aCount - uart.lastCount)).length =
      aCount - uart.lastCount := by
    rw [List.length_take, List.length_drop]
    omega
  have hnowrap : uart.sReceiveFifo.mTail + (aCount - uart.lastCount) ≤ kReceiveFifoSize := by
    simp only [kReceiveFifoSize, receiveBufferSize] at htail hactive ⊢
    omega
  refine ⟨?_, ?_, ?_⟩
  · have hsource : (uart.active.drop uart.lastCount).take (aCount - uart.lastCount) <+:
        uart.received.drop uart.copiedCount := by
      rw [copiedCount, ← List.drop_drop, h.buffers,
        List.drop_append_of_le_length h.lastCount_le]
      exact (List.take_prefix _ _).trans (List.prefix_append _ _)
    have hwrite := h.fifo.write hsource (by rw [hcount, ← hoffset]; exact hnowrap)
      (by
        rw [hcount]
        simp only [copiedCount, kReceiveFifoSize, receiveBufferSize] at hspace ⊢
        omega)
    rw [hcount, ← hoffset] at hwrite
    have hend : uart.copiedCount + (aCount - uart.lastCount) =
        receiveBufferSize * uart.completed + aCount := by
      unfold copiedCount
      omega
    rw [hend] at hwrite
    exact hwrite
  · simp only [Receiver.copyToFifo, kReceiveFifoSize] at htail ⊢
    omega
  · intro copy hcopy
    rcases List.mem_append.mp hcopy with hold | hnew
    · exact h.in_bounds copy hold
    · rw [List.mem_singleton.mp hnew]
      exact hnowrap

/-! ## Interrupts and arrivals -/

/-- What the main loop knows about the fifo stays true while others append to it. -/
theorem AtLocation.mono (h : uart.AtLocation) {next : Receiver}
    (hlocation : next.location = uart.location) (hreleased : next.released = uart.released)
    (htarget : next.target = uart.target)
    (hhead : next.sReceiveFifo.mHead = uart.sReceiveFifo.mHead)
    (hcopied : uart.copiedCount ≤ next.copiedCount)
    (hcounted : ∀ aCount, uart.location = .counted aCount →
      next.lastCount = uart.lastCount ∧ uart.active.length ≤ next.active.length) :
    next.AtLocation := by
  have hmono : ∀ tail, uart.Target tail → next.Target tail := fun tail h ↦
    ⟨by rw [htarget]; exact h.tail_eq, by rw [htarget, hreleased]; exact h.released_le,
      by rw [htarget]; exact h.le_copied.trans hcopied⟩
  unfold AtLocation at h ⊢
  rw [hlocation, hhead]
  cases hplace : uart.location with
  | counted aCount =>
    rw [hplace] at h
    obtain ⟨hlast, hactive⟩ := hcounted aCount hplace
    exact ⟨hlast.le.trans h.1, h.2.trans hactive⟩
  | tailRead tail => rw [hplace] at h; exact hmono tail h
  | firstReceived tail => rw [hplace] at h; exact ⟨hmono tail h.1, h.2⟩
  | secondPart tail => rw [hplace] at h; exact ⟨hmono tail h.1, h.2⟩
  | secondReceived tail => rw [hplace] at h; exact ⟨hmono tail h.1, h.2⟩
  | idle | entered | copied | unlocked => trivial

theorem Consistent.copiedCount_le (h : uart.Consistent) :
    uart.copiedCount ≤ uart.received.length := h.fifo.in_stream

/-- With room, the fifo has space for what is in the active buffer. -/
theorem Consistent.hasSpace (h : uart.Consistent) (hroom : uart.Room) {aCount : ℕ}
    (hupper : aCount ≤ uart.active.length) : uart.HasSpace aCount := by
  have hlength := h.length_eq
  unfold Room at hroom
  unfold HasSpace
  omega

/-- The piece that is handed up was copied before. -/
theorem Consistent.handedUp_le (h : uart.Consistent) :
    uart.handedUp ≤ uart.copiedCount := by
  have hlocation := h.at_location
  have hreleased := h.released_le
  have hhead := h.mHead_eq
  unfold AtLocation at hlocation
  unfold handedUp
  split
  case h_1 tail hplace =>
    rw [hplace] at hlocation
    obtain ⟨⟨htail, htarget, hcopied'⟩, hwrap⟩ := hlocation
    simp only [kReceiveFifoSize] at *
    omega
  case h_2 tail hplace =>
    rw [hplace] at hlocation
    exact hlocation.1.le_copied
  case h_3 => exact hreleased

/-- With space in the fifo, `receiveDone` finds its end different from `mHead`. -/
theorem Consistent.receiveDone_copies (h : uart.Consistent)
    (hspace : uart.HasSpace receiveBufferSize) :
    uart.sReceiveFifo.mHead ≠
      (uart.sReceiveFifo.mTail + (receiveBufferSize - uart.lastCount)) % kReceiveFifoSize := by
  have htail := h.mTail_eq
  have hhead := h.mHead_eq
  have hlast := h.lastCount_le
  have hactive := h.active_le
  have hreleased := h.released_lt
  simp only [HasSpace, kReceiveFifoSize, receiveBufferSize] at *
  omega

theorem Consistent.receiveDone (h : uart.Consistent) (hspace : uart.HasSpace receiveBufferSize)
    (henabled : uart.interruptsEnabled = true)
    (hpending : uart.active.length = receiveBufferSize) : uart.receiveDone.Consistent := by
  obtain ⟨hholds, htail, hbounds⟩ := h.copyToFifo h.lastCount_le (Nat.le_refl _)
    (hpending ▸ hspace)
  rw [hpending] at hholds htail hbounds
  have hlength := h.length_eq
  have hreleased := h.released_lt
  have hend : receiveBufferSize * uart.completed + receiveBufferSize =
      receiveBufferSize * (uart.completed + 1) := (Nat.mul_succ _ _).symm
  have hlast := h.lastCount_le
  unfold Receiver.receiveDone
  simp only [if_pos (h.receiveDone_copies hspace)]
  constructor
  case length_eq =>
    simp only [Receiver.copyToFifo, List.length_nil]
    omega
  case buffers =>
    calc
      uart.received.drop (receiveBufferSize * (uart.completed + 1)) =
          (uart.received.drop (receiveBufferSize * uart.completed)).drop receiveBufferSize := by
        rw [List.drop_drop, hend]
      _ = (uart.active ++ uart.following).drop uart.active.length := by rw [h.buffers, hpending]
      _ = uart.following ++ [] := by rw [List.drop_left, List.append_nil]
  case active_le => exact h.following_le
  case following_le => exact Nat.zero_le _
  case in_order => exact fun _ ↦ rfl
  case lastCount_le => exact Nat.zero_le _
  case mTail_eq => exact htail.trans (Nat.mod_self _)
  case mHead_eq => exact h.mHead_eq
  case released_le =>
    change uart.released ≤ receiveBufferSize * (uart.completed + 1) + 0
    omega
  case released_lt =>
    change uart.released < receiveBufferSize * (uart.completed + 1 + 1)
    simp only [receiveBufferSize] at hreleased ⊢
    omega
  case fifo =>
    rw [hend] at hholds
    exact hholds
  case in_bounds => exact hbounds
  case delivered_eq => exact h.delivered_eq
  case at_location =>
    refine h.at_location.mono rfl rfl rfl rfl ?_ fun aCount hcounted ↦ ?_
    · change receiveBufferSize * uart.completed + uart.lastCount ≤
        receiveBufferSize * (uart.completed + 1) + 0
      omega
    · rw [interruptsEnabled, hcounted] at henabled
      exact absurd henabled Bool.false_ne_true

/-- A byte goes to the active buffer, or to the other one behind a full buffer. -/
theorem arrive_cases {byte : UInt8} {next : Receiver} (hnext : uart.arrive byte = some next) :
    (uart.active.length < receiveBufferSize ∧ next = { uart with
      active := uart.active ++ [byte], received := uart.received ++ [byte] }) ∨
    (¬ uart.active.length < receiveBufferSize ∧ uart.following.length < receiveBufferSize ∧
      next = { uart with
        following := uart.following ++ [byte], received := uart.received ++ [byte] }) := by
  unfold Receiver.arrive at hnext
  simp only at hnext
  split at hnext
  case isTrue hactive => exact .inl ⟨hactive, (Option.some.inj hnext).symm⟩
  case isFalse hactive =>
    obtain ⟨hfollowing, hsome⟩ := Option.ite_none_right_eq_some.mp hnext
    exact .inr ⟨hactive, hfollowing, (Option.some.inj hsome).symm⟩

/-- An arrival appends to one of the buffers and to the stream. -/
theorem Consistent.arrive (h : uart.Consistent) {byte : UInt8} {next : Receiver}
    (hnext : uart.arrive byte = some next) : next.Consistent := by
  have hhanded := h.handedUp_le
  have hcopied := h.copiedCount_le
  have hlength := h.length_eq
  have hlast := h.lastCount_le
  have htake : (uart.received ++ [byte]).take uart.handedUp =
      uart.received.take uart.handedUp := List.take_append_of_le_length (hhanded.trans hcopied)
  have hdrop : (uart.received ++ [byte]).drop (receiveBufferSize * uart.completed) =
      uart.active ++ uart.following ++ [byte] := by
    rw [List.drop_append_of_le_length (by omega), h.buffers]
  rcases arrive_cases hnext with ⟨hactive, rfl⟩ | ⟨hactive, hfollowing, rfl⟩
  · have hfollowing := h.in_order hactive
    refine { h with
      length_eq := ?_, buffers := ?_, active_le := ?_, in_order := fun _ ↦ hfollowing
      lastCount_le := ?_, fifo := h.fifo.extend _, delivered_eq := ?_, at_location := ?_ }
    · simp only [List.length_append, List.length_singleton]
      omega
    · simp only [hdrop, hfollowing, List.append_nil]
    · rw [List.length_append]
      exact hactive
    · simp only [List.length_append, List.length_singleton]
      omega
    · exact h.delivered_eq.trans htake.symm
    · refine h.at_location.mono rfl rfl rfl rfl (Nat.le_refl _) fun _ _ ↦ ⟨rfl, ?_⟩
      simp only [List.length_append, List.length_singleton]
      omega
  · refine { h with
      length_eq := ?_, buffers := ?_, following_le := ?_
      in_order := fun h ↦ absurd h hactive
      fifo := h.fifo.extend _, delivered_eq := ?_, at_location := ?_ }
    · simp only [List.length_append, List.length_singleton]
      omega
    · simp only [hdrop, List.append_assoc]
    · rw [List.length_append]
      exact hfollowing
    · exact h.delivered_eq.trans htake.symm
    · exact h.at_location.mono rfl rfl rfl rfl (Nat.le_refl _) fun _ _ ↦ ⟨rfl, Nat.le_refl _⟩

theorem Consistent.rxInterrupt (h : uart.Consistent) :
    { uart with sRxDataReady := true }.Consistent :=
  { h with
    delivered_eq := h.delivered_eq
    at_location := h.at_location.mono rfl rfl rfl rfl (Nat.le_refl _)
      fun _ _ ↦ ⟨rfl, Nat.le_refl _⟩ }

/-! ## The steps of `processReceive` -/

/-- A piece of the fifo that does not wrap around is the next piece of the stream. -/
theorem Consistent.otPlatUartReceived (h : uart.Consistent)
    (hhanded : uart.handedUp = uart.released) {count : ℕ}
    (hnowrap : uart.sReceiveFifo.mHead + count ≤ kReceiveFifoSize)
    (hcopied : uart.released + count ≤ uart.copiedCount) :
    (uart.otPlatUartReceived count).delivered = uart.received.take (uart.released + count) := by
  rw [Receiver.otPlatUartReceived]
  simp only
  rw [h.delivered_eq, hhanded, h.mHead_eq]
  exact h.fifo.take_append_read (by rw [← h.mHead_eq]; exact hnowrap) hcopied

/-- `mHead` may be advanced over bytes that were handed up, from a buffer that is not yet full. -/
theorem Consistent.advanceHead (h : uart.Consistent) {head count : ℕ} {location : Location}
    (hactive : uart.active.length < receiveBufferSize)
    (hhead : head = (uart.released + count) % kReceiveFifoSize)
    (hcopied : uart.released + count ≤ uart.copiedCount)
    (hhanded : { uart.advanceHead head count with location }.handedUp = uart.handedUp)
    (hlocation : { uart.advanceHead head count with location }.AtLocation) :
    { uart.advanceHead head count with location }.Consistent := by
  have hlast := h.lastCount_le
  exact { h with
    mHead_eq := hhead
    released_le := hcopied
    released_lt := by
      simp only [Receiver.advanceHead, copiedCount, receiveBufferSize] at *
      omega
    fifo := h.fifo.release (Nat.le_add_right _ _)
    delivered_eq := by
      rw [hhanded]
      exact h.delivered_eq
    at_location := hlocation }

/-- Between `mHead` and a tail before it lies the end of the fifo. -/
theorem Target.wrapped {tail : ℕ} (h : uart.Target tail)
    (hhead : uart.sReceiveFifo.mHead = uart.released % kReceiveFifoSize)
    (hwrap : tail < uart.sReceiveFifo.mHead) :
    uart.released + (kReceiveFifoSize - uart.sReceiveFifo.mHead) ≤ uart.target ∧
      (uart.released + (kReceiveFifoSize - uart.sReceiveFifo.mHead)) % kReceiveFifoSize = 0 := by
  obtain ⟨htail, hreleased, -⟩ := h
  simp only [kReceiveFifoSize] at *
  omega

/-- From `mHead` to a tail behind it lie the bytes that are not yet released. -/
theorem Target.straight {tail : ℕ} (h : uart.Target tail)
    (hhead : uart.sReceiveFifo.mHead = uart.released % kReceiveFifoSize)
    (hbelow : uart.target ≤ uart.released + 127) (hstraight : uart.sReceiveFifo.mHead ≤ tail) :
    uart.released + (tail - uart.sReceiveFifo.mHead) = uart.target ∧ tail < kReceiveFifoSize := by
  obtain ⟨htail, hreleased, -⟩ := h
  simp only [kReceiveFifoSize] at *
  omega

theorem Target.below (hbelow : uart.HasSpace uart.lastCount) {tail : ℕ} (ht : uart.Target tail) :
    uart.target ≤ uart.released + 127 := ht.le_copied.trans hbelow

/-! ## Steps of the main loop -/

/-- The copy with interrupts disabled. -/
theorem Consistent.counted (h : uart.Consistent) {aCount : ℕ}
    (hplace : uart.location = .counted aCount)
    (hspace : uart.lastCount < aCount → uart.HasSpace aCount) :
    uart.processReceive.Consistent := by
  have hlocation := h.at_location
  have hdelivered := h.delivered_eq
  rw [AtLocation, hplace] at hlocation
  rw [handedUp, hplace] at hdelivered
  simp only [Receiver.processReceive, hplace]
  split
  case isTrue hnew =>
    obtain ⟨hholds, htail, hbounds⟩ := h.copyToFifo hlocation.1 hlocation.2 (hspace hnew)
    have hreleased := h.released_le
    exact { h with
      lastCount_le := hlocation.2
      mTail_eq := htail
      released_le := by
        change uart.released ≤ receiveBufferSize * uart.completed + aCount
        unfold copiedCount at hreleased
        omega
      fifo := hholds
      in_bounds := hbounds
      delivered_eq := hdelivered
      at_location := trivial }
  case isFalse => exact { h with delivered_eq := hdelivered, at_location := trivial }

/-- The tail is read after the interrupts are enabled again, and stays behind the copied bytes. -/
theorem Consistent.unlocked (h : uart.Consistent) (hplace : uart.location = .unlocked) :
    uart.processReceive.Consistent := by
  have hdelivered := h.delivered_eq
  rw [handedUp, hplace] at hdelivered
  simp only [Receiver.processReceive, hplace]
  refine { h with delivered_eq := hdelivered, at_location := ⟨?_, h.released_le, Nat.le_refl _⟩ }
  have htail := h.mTail_eq
  simp only [copiedCount, kReceiveFifoSize, receiveBufferSize] at htail ⊢
  omega

/-- If the fifo is wrapped, its part up to the end is handed up. -/
theorem Consistent.tailRead (h : uart.Consistent) {tail : ℕ}
    (hplace : uart.location = .tailRead tail) : uart.processReceive.Consistent := by
  have hlocation := h.at_location
  have hdelivered := h.delivered_eq
  have hhead := h.mHead_eq
  have hhanded : uart.handedUp = uart.released := by rw [handedUp, hplace]
  rw [AtLocation, hplace] at hlocation
  rw [hhanded] at hdelivered
  simp only [Receiver.processReceive, hplace]
  split
  case isTrue hwrap =>
    have hpiece := (hlocation.wrapped hhead hwrap).1
    have hnowrap : uart.sReceiveFifo.mHead + (kReceiveFifoSize - uart.sReceiveFifo.mHead) ≤
        kReceiveFifoSize := by
      simp only [kReceiveFifoSize] at hhead ⊢
      omega
    exact { h with
      delivered_eq := h.otPlatUartReceived hhanded hnowrap (hpiece.trans hlocation.le_copied)
      at_location := ⟨⟨hlocation.tail_eq, hlocation.released_le, hlocation.le_copied⟩, hwrap⟩ }
  case isFalse hstraight =>
    exact { h with
      delivered_eq := hdelivered
      at_location := ⟨⟨hlocation.tail_eq, hlocation.released_le, hlocation.le_copied⟩,
        Nat.le_of_not_lt hstraight⟩ }

/-- The head goes back to the start of the fifo. -/
theorem Consistent.firstReceived (h : uart.Consistent) {tail : ℕ}
    (hpending : uart.active.length < receiveBufferSize)
    (hplace : uart.location = .firstReceived tail) : uart.processReceive.Consistent := by
  have hlocation := h.at_location
  rw [AtLocation, hplace] at hlocation
  obtain ⟨htarget, hwrap⟩ := hlocation
  obtain ⟨hpiece, hzero⟩ := htarget.wrapped h.mHead_eq hwrap
  simp only [Receiver.processReceive, hplace]
  apply h.advanceHead hpending hzero.symm (hpiece.trans htarget.le_copied)
  · simp only [handedUp, hplace]
    rfl
  · exact ⟨⟨htarget.tail_eq, hpiece, htarget.le_copied⟩, Nat.zero_le _⟩

/-- The part up to the tail is handed up, if there is one. -/
theorem Consistent.secondPart (h : uart.Consistent) (hbelow : uart.HasSpace uart.lastCount)
    {tail : ℕ}
    (hplace : uart.location = .secondPart tail) : uart.processReceive.Consistent := by
  have hlocation := h.at_location
  have hdelivered := h.delivered_eq
  have hhanded : uart.handedUp = uart.released := by rw [handedUp, hplace]
  rw [AtLocation, hplace] at hlocation
  rw [hhanded] at hdelivered
  obtain ⟨htarget, hstraight⟩ := hlocation
  obtain ⟨hpiece, htail⟩ := htarget.straight h.mHead_eq (htarget.below hbelow) hstraight
  simp only [Receiver.processReceive, hplace]
  split
  case isTrue hmore =>
    have hnowrap : uart.sReceiveFifo.mHead + (tail - uart.sReceiveFifo.mHead) ≤
        kReceiveFifoSize := by omega
    have hreceived := h.otPlatUartReceived hhanded hnowrap (hpiece.trans_le htarget.le_copied)
    rw [hpiece] at hreceived
    exact { h with
      delivered_eq := hreceived
      at_location := ⟨⟨htarget.tail_eq, htarget.released_le, htarget.le_copied⟩,
        Nat.lt_of_le_of_ne hstraight hmore⟩ }
  case isFalse => exact { h with delivered_eq := hdelivered, at_location := trivial }

/-- The head goes to the tail. -/
theorem Consistent.secondReceived (h : uart.Consistent) (hbelow : uart.HasSpace uart.lastCount)
    {tail : ℕ}
    (hpending : uart.active.length < receiveBufferSize)
    (hplace : uart.location = .secondReceived tail) : uart.processReceive.Consistent := by
  have hlocation := h.at_location
  rw [AtLocation, hplace] at hlocation
  obtain ⟨htarget, hstraight⟩ := hlocation
  obtain ⟨hpiece, htail⟩ := htarget.straight h.mHead_eq (htarget.below hbelow)
    (Nat.le_of_lt hstraight)
  simp only [Receiver.processReceive, hplace]
  refine h.advanceHead hpending ?_ (by rw [hpiece]; exact htarget.le_copied) ?_ trivial
  · rw [hpiece]
    exact htarget.tail_eq
  · simp only [handedUp, hplace, Receiver.advanceHead]
    exact hpiece

/-- Every step of the main loop that an interrupt does not preempt keeps the invariant. -/
theorem Consistent.processReceive (h : uart.Consistent) (hbelow : uart.HasSpace uart.lastCount)
    (hspace : ∀ aCount, uart.location = .counted aCount → uart.lastCount < aCount →
      uart.HasSpace aCount)
    (hpending : uart.interruptsEnabled = true → uart.active.length < receiveBufferSize) :
    uart.processReceive.Consistent := by
  have hdelivered := h.delivered_eq
  unfold interruptsEnabled at hpending
  unfold handedUp at hdelivered
  cases hplace : uart.location with
  | idle =>
    rw [hplace] at hdelivered
    simp only [Receiver.processReceive, hplace]
    split
    · exact { h with delivered_eq := hdelivered, at_location := trivial }
    · exact h
  | entered =>
    rw [hplace] at hdelivered
    simp only [Receiver.processReceive, hplace]
    exact { h with
      delivered_eq := hdelivered
      at_location := ⟨h.lastCount_le, Nat.le_refl _⟩ }
  | counted aCount => exact h.counted hplace (hspace aCount hplace)
  | copied =>
    rw [hplace] at hdelivered
    simp only [Receiver.processReceive, hplace]
    exact { h with delivered_eq := hdelivered, at_location := trivial }
  | unlocked => exact h.unlocked hplace
  | tailRead tail => exact h.tailRead hplace
  | firstReceived tail =>
    rw [hplace] at hpending
    exact h.firstReceived (hpending rfl) hplace
  | secondPart tail => exact h.secondPart hbelow hplace
  | secondReceived tail =>
    rw [hplace] at hpending
    exact h.secondReceived hbelow (hpending rfl) hplace

end Receiver

end OtEfr32.Uart
