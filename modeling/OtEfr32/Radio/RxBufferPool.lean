import OtEfr32.Data.BlockPool
import OtEfr32.Radio.Receiver
import OtEfr32.Transition.Runs

/-!
# The blocks of received packets

`packetReceivedCallback` takes a block from `sRxPacketMemPoolHandle` for a packet and adds it to
`sRxPacketQueue`, and `processNextRxPacket` removes it and gives it back.  Both are divided at every
check and at every access to the pool or the queue, and may interleave at will; each check of the
interrupt handler may fail, and so may the allocation and `queueAdd`.  `bufferLaw_throughout` says
where the blocks are.
-/

namespace OtEfr32.Radio

open Data Transition

/-- What `packetReceivedCallback` finds out about a packet. -/
structure PacketChecks where
  /-- The packet handle is valid, and the packet was received. -/
  ready : Bool
  /-- `validatePacketDetails`. -/
  detailsValid : Bool
  /-- `skipRxPacketLengthBytes` succeeds. -/
  lengthSkipped : Bool
  isAck : Bool
  length : ℕ
  macFcf : ℕ
  /-- The transmitter waits for an ACK with this sequence number. -/
  answersTransmit : Bool
  /-- `validatePacketTimestamp`. -/
  timestampValid : Bool
  /-- The iid that `getIidFromFilterMask` gives for the packet. -/
  iid : ℕ
  deriving DecidableEq, Repr

/-- The places in `packetReceivedCallback`. -/
inductive CallbackPlace where
  | packetInfo
  | validatePacketDetails
  | skipRxPacketLengthBytes
  /-- The length and the frame type of an ACK. -/
  | ackFrame
  | ackTimestamp
  /-- The length of any other frame. -/
  | dataLength
  | dataTimestamp
  | queueIsFull
  | memoryPoolAlloc
  | queueAdd (rxPacketBuf : ℕ)
  /-- The label `exit`. -/
  | exit (dropPacket : Bool) (rxPacketBuf : Option ℕ)
  deriving DecidableEq, Repr

/-- The places in `processRxPackets`. -/
inductive RxProcessPlace where
  /-- The condition of its loop. -/
  | processRxPackets
  /-- `processNextRxPacket` removes an entry from the queue. -/
  | queueRemove
  /-- The loop of `processNextRxPacket` turns to an interface. -/
  | interface (rxPacketBuf iid interfaceId : ℕ)
  /-- It is in its first call of `otPlatRadioReceiveDone` for the interface, or in its second. -/
  | receiveDone (rxPacketBuf iid interfaceId : ℕ) (second : Bool)
  | memoryPoolFree (rxPacketBuf : ℕ)
  deriving DecidableEq, Repr

/-- The pool and the queue, with the interrupt handler and the main loop.  A block is named by its
index in the pool. -/
structure RxBufferPool where
  pool : BlockPool ℕ := {}
  sRxPacketQueue : List ℕ := []
  /-- `packetInfo.iid` in each block. -/
  blockIid : ℕ → ℕ := fun _ ↦ 0
  sPromiscuous : Bool := false
  /-- The running call of `packetReceivedCallback`. -/
  callback : Option (PacketChecks × CallbackPlace) := none
  /-- The running call of `processRxPackets`. -/
  process : Option RxProcessPlace := none

/-- The block of a running `packetReceivedCallback`.  Behind `queueAdd` it is the queue's. -/
def CallbackPlace.holds : CallbackPlace → List ℕ
  | .queueAdd rxPacketBuf => [rxPacketBuf]
  | .exit true rxPacketBuf => rxPacketBuf.toList
  | _ => []

/-- The block of a running `processNextRxPacket`. -/
def RxProcessPlace.holds : RxProcessPlace → List ℕ
  | .interface rxPacketBuf .. | .receiveDone rxPacketBuf .. | .memoryPoolFree rxPacketBuf =>
    [rxPacketBuf]
  | _ => []

/-- What can happen next. -/
inductive RxBufferEvent where
  | packetReceived (packet : PacketChecks)
  /-- The next step of `packetReceivedCallback`, with the block that `sl_memory_pool_alloc` finds
  and the result of `queueAdd`. -/
  | packetReceivedCallback (block : Option ℕ) (isRxPacketQueued : Bool)
  /-- The next step of `processRxPackets`, with the result of `sl_gp_intf_is_gp_pkt`. -/
  | processRxPackets (isGpPacket : Bool)
  | otPlatRadioSetPromiscuous (enable : Bool)
  deriving DecidableEq, Repr

namespace RxBufferPool

variable (config : Config) (state : RxBufferPool)

/-- The interrupt handler goes on. -/
def goTo (packet : PacketChecks) (place : CallbackPlace) : RxBufferPool :=
  { state with callback := some (packet, place) }

/-- `otEXPECT_ACTION(check, dropPacket = true)`, with no block allocated yet. -/
def expect (packet : PacketChecks) (check : Bool) (place : CallbackPlace) : RxBufferPool :=
  state.goTo packet (if check then place else .exit true none)

/-- The next step of `packetReceivedCallback`.  A block that `sl_memory_pool_alloc` finds is one of
the pool that is not allocated. -/
def packetReceivedCallback (packet : PacketChecks) (block : Option ℕ) (isRxPacketQueued : Bool) :
    CallbackPlace → Option RxBufferPool
  | .packetInfo => some (state.expect packet packet.ready .validatePacketDetails)
  | .validatePacketDetails =>
    some (state.expect packet packet.detailsValid .skipRxPacketLengthBytes)
  | .skipRxPacketLengthBytes =>
    some (state.expect packet packet.lengthSkipped
      (if packet.isAck then .ackFrame else .dataLength))
  | .ackFrame =>
    some (state.expect packet (decide (4 ≤ packet.length ∧ packet.macFcf &&& 0x07 = 0x02))
      (if packet.answersTransmit then .ackTimestamp else .exit false none))
  | .ackTimestamp => some (state.expect packet packet.timestampValid (.exit false none))
  | .dataLength =>
    some (state.expect packet (state.sPromiscuous || decide (5 ≤ packet.length)) .dataTimestamp)
  | .dataTimestamp => some (state.expect packet packet.timestampValid .queueIsFull)
  | .queueIsFull =>
    some (state.expect packet (decide (state.sRxPacketQueue.length < config.rxBufferCount))
      .memoryPoolAlloc)
  | .memoryPoolAlloc =>
    match block with
    | none => some (state.goTo packet (.exit true none))
    | some block =>
      if block < config.rxBufferCount ∧ block ∉ state.pool.allocated then
        some { state with
          pool := state.pool.alloc block
          blockIid := Function.update state.blockIid block packet.iid
          callback := some (packet, .queueAdd block) }
      else none
  | .queueAdd rxPacketBuf =>
    if isRxPacketQueued then
      some { state with
        sRxPacketQueue := state.sRxPacketQueue ++ [rxPacketBuf]
        callback := some (packet, .exit false (some rxPacketBuf)) }
    else some (state.goTo packet (.exit true (some rxPacketBuf)))
  | .exit dropPacket rxPacketBuf =>
    some { state with
      pool := if dropPacket then state.pool.free rxPacketBuf else state.pool
      callback := none }

/-- The main loop goes on. -/
def proceed (place : Option RxProcessPlace) : RxBufferPool := { state with process := place }

/-- The condition of the loop in `processNextRxPacket`. -/
def nextInterface (rxPacketBuf iid interfaceId : ℕ) : RxProcessPlace :=
  if iid = radioBcastIid ∧ interfaceId + 1 < config.radioInterfaceCount then
    .interface rxPacketBuf iid (interfaceId + 1)
  else .memoryPoolFree rxPacketBuf

/-- The next step of `processRxPackets`. -/
def processRxPackets (isGpPacket : Bool) : Option RxProcessPlace → Option RxBufferPool
  | none => some (state.proceed (some .processRxPackets))
  | some .processRxPackets =>
    some (state.proceed (if state.sRxPacketQueue.isEmpty then none else some .queueRemove))
  | some .queueRemove =>
    match state.sRxPacketQueue with
    -- Here `OT_ASSERT(rxPacketBuf != NULL)` fails.
    | [] => none
    | rxPacketBuf :: rest =>
      let iid := state.blockIid rxPacketBuf
      some { state with
        sRxPacketQueue := rest
        process := some (.interface rxPacketBuf iid iid) }
  | some (.interface rxPacketBuf iid interfaceId) =>
    some (state.proceed (some
      (if Receiver.hasInstance config interfaceId then
          .receiveDone rxPacketBuf iid interfaceId false
        else nextInterface config rxPacketBuf iid interfaceId)))
  | some (.receiveDone rxPacketBuf iid interfaceId false) =>
    some (state.proceed (some
      (if config.multipan = false ∧ isGpPacket = true then .memoryPoolFree rxPacketBuf
        else .receiveDone rxPacketBuf iid interfaceId true)))
  | some (.receiveDone rxPacketBuf iid interfaceId true) =>
    some (state.proceed (some (nextInterface config rxPacketBuf iid interfaceId)))
  | some (.memoryPoolFree rxPacketBuf) =>
    some { state with
      pool := state.pool.free (some rxPacketBuf)
      process := some .processRxPackets }

/-- The block of the interrupt handler. -/
def heldByCallback : List ℕ := state.callback.elim [] fun callback ↦ callback.2.holds

/-- The block of the main loop. -/
def heldByProcess : List ℕ := state.process.elim [] RxProcessPlace.holds

/-- The blocks in all places. -/
def held : List ℕ := state.sRxPacketQueue ++ state.heldByCallback ++ state.heldByProcess

/-- The frames in processing: that of a running interrupt handler and the one that
`processNextRxPacket` has removed from the queue. -/
def framesInProcessing : ℕ :=
  (if state.callback.isSome then 1 else 0) + if state.heldByProcess.isEmpty then 0 else 1

/-- The blocks that can be allocated. -/
def freeBlocks : List ℕ :=
  (List.range config.rxBufferCount).filter fun block ↦ block ∉ state.pool.allocated

end RxBufferPool

/-- One step. -/
def rxBufferStep (config : Config) (state : RxBufferPool) : RxBufferEvent → Option RxBufferPool
  | .packetReceived packet =>
    if state.callback.isSome then none else some (state.goTo packet .packetInfo)
  | .packetReceivedCallback block isRxPacketQueued =>
    state.callback.bind fun callback ↦
      state.packetReceivedCallback config callback.1 block isRxPacketQueued callback.2
  | .processRxPackets isGpPacket => state.processRxPackets config isGpPacket state.process
  | .otPlatRadioSetPromiscuous enable => some { state with sPromiscuous := enable }

namespace RxBufferPool

/-- What is said of the blocks in every state. -/
structure BufferLaw (config : Config) (state : RxBufferPool) : Prop where
  /-- An allocated block is in the queue, with the interrupt handler or with the main loop, and in
  one of these places only. -/
  held_once : ∀ block ∈ state.pool.allocated, state.held.count block = 1
  held_allocated : ∀ block ∈ state.held, block ∈ state.pool.allocated
  /-- A block was freed as often as it was allocated, but for a current allocation. -/
  freed_once : ∀ block,
    state.pool.frees.count block + (if block ∈ state.pool.allocated then 1 else 0) =
      state.pool.allocations.count block
  bounded : state.pool.allocated.length ≤ state.sRxPacketQueue.length + state.framesInProcessing
  /-- With an empty queue and no frame in processing, every block is free. -/
  drained : state.sRxPacketQueue = [] → state.framesInProcessing = 0 →
    state.freeBlocks config = List.range config.rxBufferCount

/-- Every block is held where the places say. -/
def Sound (state : RxBufferPool) : Prop := state.pool.Custody state.held

variable {config : Config} {state next : RxBufferPool}

theorem middle_perm (front back : List ℕ) (block : ℕ) :
    (front ++ [block] ++ back).Perm (block :: (front ++ back)) := by
  rw [List.append_assoc]
  exact List.perm_middle

/-! ## The interrupt handler -/

/-- The interrupt handler goes on with the same block, or with none. -/
theorem Sound.goTo (h : state.Sound) (packet : PacketChecks) {place : CallbackPlace}
    (hplace : place.holds = state.heldByCallback) : (state.goTo packet place).Sound := by
  unfold Sound held at h
  rw [← hplace] at h
  exact h

theorem Sound.expect (h : state.Sound) (packet : PacketChecks) (check : Bool)
    {place : CallbackPlace} (hnone : state.heldByCallback = []) (hplace : place.holds = []) :
    (state.expect packet check place).Sound := by
  cases check with
  | true => exact h.goTo packet (hplace.trans hnone.symm)
  | false => exact h.goTo packet hnone.symm

theorem Sound.packetReceivedCallback {packet : PacketChecks} {place : CallbackPlace}
    {block : Option ℕ} {isRxPacketQueued : Bool} (h : state.Sound)
    (hplace : state.callback = some (packet, place))
    (hstep : state.packetReceivedCallback config packet block isRxPacketQueued place = some next) :
    next.Sound := by
  have hholds : state.heldByCallback = place.holds := by
    rw [heldByCallback, hplace, Option.elim_some]
  cases place with
  | packetInfo | validatePacketDetails | ackTimestamp | dataLength | dataTimestamp | queueIsFull =>
    obtain rfl := Option.some.inj hstep
    exact h.expect packet _ hholds rfl
  | skipRxPacketLengthBytes | ackFrame =>
    obtain rfl := Option.some.inj hstep
    apply h.expect packet _ hholds
    split <;> rfl
  | memoryPoolAlloc =>
    cases block with
    | none =>
      obtain rfl := Option.some.inj hstep
      exact h.goTo packet hholds.symm
    | some block =>
      obtain ⟨⟨_, hfree⟩, hnext⟩ := Option.ite_none_right_eq_some.mp hstep
      obtain rfl := Option.some.inj hnext
      have hnone : state.heldByCallback = [] := hholds
      apply (BlockPool.Custody.alloc h hfree).move
      rw [held, hnone, List.append_nil]
      exact (middle_perm state.sRxPacketQueue state.heldByProcess block).symm
  | queueAdd rxPacketBuf =>
    have hblock : state.heldByCallback = [rxPacketBuf] := hholds
    cases isRxPacketQueued with
    | true =>
      -- The block goes from the handler to the end of the queue.
      obtain rfl := Option.some.inj hstep
      unfold Sound held at h
      rw [hblock, ← List.append_nil (state.sRxPacketQueue ++ [rxPacketBuf])] at h
      exact h
    | false =>
      obtain rfl := Option.some.inj hstep
      exact h.goTo packet hholds.symm
  | exit dropPacket rxPacketBuf =>
    obtain rfl := Option.some.inj hstep
    unfold Sound held at h
    rw [hholds] at h
    cases dropPacket with
    | false => exact h
    | true =>
      cases rxPacketBuf with
      | none => exact h
      | some rxPacketBuf =>
        have hfreed := (BlockPool.Custody.move h (middle_perm _ _ rxPacketBuf)).free
        rw [← List.append_nil state.sRxPacketQueue] at hfreed
        exact hfreed

/-! ## The main loop -/

/-- The main loop goes on with the same block, or with none. -/
theorem Sound.proceed (h : state.Sound) {place : Option RxProcessPlace}
    (hplace : place.elim [] RxProcessPlace.holds = state.heldByProcess) :
    (state.proceed place).Sound := by
  unfold Sound held at h
  rw [← hplace] at h
  exact h

theorem nextInterface_holds (config : Config) (rxPacketBuf iid interfaceId : ℕ) :
    (nextInterface config rxPacketBuf iid interfaceId).holds = [rxPacketBuf] := by
  unfold nextInterface
  split <;> rfl

theorem Sound.processRxPackets {isGpPacket : Bool} (h : state.Sound)
    (hstep : state.processRxPackets config isGpPacket state.process = some next) : next.Sound := by
  cases hplace : state.process with
  | none =>
    rw [hplace] at hstep
    obtain rfl := Option.some.inj hstep
    exact h.proceed (by rw [heldByProcess, hplace]; rfl)
  | some place =>
    have hholds : state.heldByProcess = place.holds := by
      rw [heldByProcess, hplace, Option.elim_some]
    rw [hplace] at hstep
    cases place with
    | processRxPackets =>
      obtain rfl := Option.some.inj hstep
      apply h.proceed
      rw [hholds]
      split <;> rfl
    | queueRemove =>
      have hnone : state.heldByProcess = [] := hholds
      unfold Sound held at h
      rw [hnone, List.append_nil] at h
      cases hqueue : state.sRxPacketQueue with
      | nil => simp [RxBufferPool.processRxPackets, hqueue] at hstep
      | cons rxPacketBuf rest =>
        simp only [RxBufferPool.processRxPackets, hqueue] at hstep
        obtain rfl := Option.some.inj hstep
        rw [hqueue] at h
        exact BlockPool.Custody.move h (List.perm_append_singleton rxPacketBuf _).symm
    | interface rxPacketBuf iid interfaceId =>
      obtain rfl := Option.some.inj hstep
      apply h.proceed
      rw [hholds, Option.elim_some]
      split
      · rfl
      · exact nextInterface_holds config rxPacketBuf iid interfaceId
    | receiveDone rxPacketBuf iid interfaceId second =>
      cases second with
      | false =>
        obtain rfl := Option.some.inj hstep
        apply h.proceed
        rw [hholds, Option.elim_some]
        split <;> rfl
      | true =>
        obtain rfl := Option.some.inj hstep
        apply h.proceed
        rw [hholds, Option.elim_some]
        exact nextInterface_holds config rxPacketBuf iid interfaceId
    | memoryPoolFree rxPacketBuf =>
      obtain rfl := Option.some.inj hstep
      have hblock : state.heldByProcess = [rxPacketBuf] := hholds
      unfold Sound held at h
      rw [hblock] at h
      have hfreed :=
        (BlockPool.Custody.move h (List.perm_append_singleton rxPacketBuf _)).free
      rw [← List.append_nil (state.sRxPacketQueue ++ state.heldByCallback)] at hfreed
      exact hfreed

/-! ## Runs -/

theorem Sound.step {event : RxBufferEvent} (h : state.Sound)
    (hstep : rxBufferStep config state event = some next) : next.Sound := by
  cases event with
  | packetReceived packet =>
    obtain ⟨hidle, hnext⟩ := Option.ite_none_left_eq_some.mp hstep
    obtain rfl := Option.some.inj hnext
    have hnone : state.callback = none := by simpa using hidle
    exact h.goTo packet (by rw [heldByCallback, hnone]; rfl)
  | packetReceivedCallback block isRxPacketQueued =>
    obtain ⟨⟨packet, place⟩, hplace, hnext⟩ := Option.bind_eq_some_iff.mp hstep
    exact h.packetReceivedCallback hplace hnext
  | processRxPackets isGpPacket => exact h.processRxPackets hstep
  | otPlatRadioSetPromiscuous enable =>
    obtain rfl := Option.some.inj hstep
    exact h

/-- A running interrupt handler has at most one block. -/
theorem length_holds_le (place : CallbackPlace) : place.holds.length ≤ 1 := by
  cases place with
  | exit dropPacket rxPacketBuf =>
    cases dropPacket with
    | false => exact Nat.zero_le 1
    | true => exact Option.length_toList_le
  | queueAdd rxPacketBuf => exact Nat.le_refl 1
  | _ => exact Nat.zero_le 1

theorem length_heldByCallback_le (state : RxBufferPool) :
    state.heldByCallback.length ≤ if state.callback.isSome then 1 else 0 := by
  unfold heldByCallback
  cases state.callback with
  | none => exact Nat.le_refl 0
  | some callback => exact length_holds_le callback.2

theorem length_heldByProcess_le (state : RxBufferPool) :
    state.heldByProcess.length ≤ if state.heldByProcess.isEmpty then 0 else 1 := by
  unfold heldByProcess
  cases state.process with
  | none => exact Nat.le_refl 0
  | some place => cases place <;> exact Nat.le_refl _

theorem Sound.length_allocated_le (h : state.Sound) :
    state.pool.allocated.length ≤ state.sRxPacketQueue.length + state.framesInProcessing := by
  have hcallback := state.length_heldByCallback_le
  have hprocess := state.length_heldByProcess_le
  rw [h.length_eq, held, List.length_append, List.length_append, framesInProcessing]
  omega

theorem Sound.bufferLaw (h : state.Sound) : state.BufferLaw config where
  held_once _ hmem := h.count_eq_one hmem
  held_allocated _ hmem := h.perm.mem_iff.mpr hmem
  freed_once := h.frees_eq
  bounded := h.length_allocated_le
  drained hqueue hidle := by
    have hnone : state.pool.allocated = [] := by
      have hle := h.length_allocated_le
      rw [hqueue, hidle] at hle
      exact List.length_eq_zero_iff.mp (Nat.le_zero.mp hle)
    rw [freeBlocks, hnone]
    exact List.filter_eq_self.mpr fun _ _ ↦ by simp

end RxBufferPool

open RxBufferPool

/-- In every run, whatever fails in it, each allocated block is in one place and is freed once, and
a drained queue leaves all blocks free. -/
theorem bufferLaw_throughout (config : Config) (labels : List RxBufferEvent) :
    Throughout (rxBufferStep config) (BufferLaw config) {} labels := by
  have hsound : Throughout (rxBufferStep config) Sound {} labels :=
    Along.throughout (fun _ _ _ h (_ : True) hstep ↦ h.step hstep) BlockPool.Custody.empty
      (along_of_forall fun _ _ ↦ trivial)
  exact hsound.mono fun _ h ↦ h.bufferLaw

/-- `queueAdd` fails for a data frame, and the block of the frame is freed. -/
example : ((exec (rxBufferStep .singlePan) {}
    (.packetReceived ⟨true, true, true, false, 5, 0x41, false, true, 0⟩ ::
      List.replicate 9 (.packetReceivedCallback (some 3) false))).map fun state ↦
        (state.pool.allocated, state.pool.frees, state.callback)) = some ([], [3], none) := by
  decide

end OtEfr32.Radio
