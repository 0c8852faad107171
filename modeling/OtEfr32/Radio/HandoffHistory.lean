import OtEfr32.Radio.ReceptionSteps

/-!
# The histories of acknowledged receptions

The histories beside the driver tell the truth: the packets in `queue` are those of the entries of
`sRxPacketQueue`, every call of `otPlatRadioReceiveDone` shows the packet that it is recorded with,
and the key id and counter stored for the ACKs of an interface are those of the ACK last secured
for it.  `Linked` says so, and every step keeps it.
-/

namespace OtEfr32.Radio

open Transition

/-- A frame shows a packet as it lay in the FIFO, and the key id and frame counter of ACKs that were
the last ones to be secured when these were read. -/
structure Shows (visiting : Visiting) (frame : ReceiveFrame) : Prop where
  mPsdu : frame.mPsdu = Receiver.clearReservedBits visiting.item.packet.psdu
  mAckedWithSecEnhAck : frame.mAckedWithSecEnhAck =
    (visiting.item.packet.psdu.headD 0 &&& securedOutgoingEnhancedAck != 0)
  mAckedWithFramePending : frame.mAckedWithFramePending =
    (visiting.item.packet.psdu.headD 0 &&& framePendingSetInOutgoingAck != 0)
  mAckKeyId : frame.mAckKeyId = visiting.lastKeyId.getD 0
  mAckFrameCounter : frame.mAckFrameCounter = visiting.lastCounter.getD 0

/-- The histories match the state of the driver. -/
structure Linked (state : AckedReception) : Prop where
  queue : state.queue.map (·.packet.psdu) = state.radio.rx.sRxPacketQueue.map RxBuffer.psdu
  visit : ∀ visit, state.radio.rx.visit = some visit →
    ∃ visiting, state.visiting = some visiting ∧ Shows visiting visit.frame
  done : state.handoffs.map Handoff.done = state.radio.rx.receiveDones
  shows : ∀ handoff ∈ state.handoffs, Shows handoff.visiting handoff.done.aFrame
  lastAck : ∀ iid, state.radio.security.storedAck iid = (state.lastAck iid).getD (0, 0)

namespace AckedReception

variable {config : Config} {state : AckedReception} {next : Driver} {item : Option Incoming}

/-! ## The histories behind a step of the driver -/

theorem elim_nil (visiting : Option Visiting) :
    (visiting.elim [] fun _ ↦ ([] : List Handoff)) = [] := by
  cases visiting <;> rfl

theorem follow_quiet (hquiet : state.radio.rx.Quiet next.rx) :
    state.follow next item = { state with radio := next } := by
  have hdones : next.rx.receiveDones.drop state.radio.rx.receiveDones.length = [] := by
    rw [hquiet.receiveDones, List.drop_length]
  simp [follow, hquiet.queued, hquiet.dequeued, hdones, elim_nil]

theorem follow_enqueue {rxPacketBuf : RxBuffer}
    (hrx : next.rx = state.radio.rx.enqueue rxPacketBuf) :
    state.follow next item = { state with radio := next, queue := state.queue ++ item.toList } := by
  simp [follow, hrx, Receiver.enqueue, elim_nil]

theorem follow_start {material : ℕ → SecurityMaterial} {rxPacketBuf : RxBuffer}
    {rest : List RxBuffer} (hqueue : state.radio.rx.sRxPacketQueue = rxPacketBuf :: rest)
    (hrx : next.rx = state.radio.rx.startVisit material rxPacketBuf rest) :
    state.follow next item =
      { state with
        radio := next
        queue := state.queue.tail
        isReading := true
        visiting := state.queue.head?.map fun item ↦
          item.visiting (state.lastAck rxPacketBuf.iid) } := by
  simp [follow, hrx, Receiver.startVisit, hqueue, elim_nil]

theorem follow_hand {visit : Visit} {visiting : Visiting} {done : ReceiveDone}
    (hvisiting : state.visiting = some visiting) (hhands : state.radio.rx.Hands next.rx visit)
    (hdone : next.rx.receiveDones = state.radio.rx.receiveDones ++ [done]) :
    state.follow next item =
      { state with radio := next, handoffs := state.handoffs ++ [⟨visiting, done⟩] } := by
  simp [follow, hhands.queued, hhands.dequeued, hvisiting, hdone]

end AckedReception

/-! ## The invariant -/

theorem Shows.of_mChannel {visiting : Visiting} {frame : ReceiveFrame} (h : Shows visiting frame)
    (mChannel : ℕ) : Shows visiting { frame with mChannel } :=
  { h with }

theorem stored_fst (ack : Option (ℕ × ℕ)) : (ack.getD (0, 0)).1 = (ack.map Prod.fst).getD 0 := by
  cases ack <;> rfl

theorem stored_snd (ack : Option (ℕ × ℕ)) : (ack.getD (0, 0)).2 = (ack.map Prod.snd).getD 0 := by
  cases ack <;> rfl

/-- A dequeued packet is shown as it lay in the FIFO. -/
theorem shows_prepareFrame {item : Incoming} {rxPacketBuf : RxBuffer}
    {material : SecurityMaterial} {lastAck : Option (ℕ × ℕ)}
    (hpsdu : rxPacketBuf.psdu = item.packet.psdu)
    (hack : (material.ackKeyId, material.ackFrameCounter) = lastAck.getD (0, 0)) :
    Shows (item.visiting lastAck) (Receiver.prepareFrame material rxPacketBuf) where
  mPsdu := congrArg Receiver.clearReservedBits hpsdu
  mAckedWithSecEnhAck := by rw [Incoming.visiting, ← hpsdu]; rfl
  mAckedWithFramePending := by rw [Incoming.visiting, ← hpsdu]; rfl
  mAckKeyId := (congrArg Prod.fst hack).trans (stored_fst lastAck)
  mAckFrameCounter := (congrArg Prod.snd hack).trans (stored_snd lastAck)

namespace Linked

open AckedReception

variable {config : Config} {state : AckedReception} {next : Driver}

/-- What lies in the FIFO does not matter to the histories. -/
theorem of_rxFifo (h : Linked state) (rxFifo : List Incoming) : Linked { state with rxFifo } :=
  ⟨h.queue, h.visit, h.done, h.shows, h.lastAck⟩

/-- Everything but the stored key ids follows a step, and then the ACK is put on record that the
step has secured. -/
theorem recordAck (h : Linked state) {ack : Option (ℕ × ℕ × ℕ)} {security : MacSecurity}
    (hsecurity : security.storedAck = storeAck state.radio.security.storedAck ack) :
    Linked ({ state with radio := { state.radio with security } }.recordAck ack) where
  queue := by cases ack <;> exact h.queue
  visit := by cases ack <;> exact h.visit
  done := by cases ack <;> exact h.done
  shows := by cases ack <;> exact h.shows
  lastAck := by
    intro iid
    cases ack with
    | none => exact (congrFun hsecurity iid).trans (h.lastAck iid)
    | some secured =>
      have hstored : security.storedAck iid =
          Function.update state.radio.security.storedAck secured.1 secured.2 iid :=
        congrFun hsecurity iid
      change security.storedAck iid =
        (Function.update state.lastAck secured.1 (some secured.2) iid).getD (0, 0)
      rw [hstored]
      by_cases hiid : iid = secured.1
      · subst hiid
        simp
      · simp [hiid, h.lastAck]

/-- Nothing happens to the queue of received packets. -/
theorem quiet (h : Linked state) (hquiet : state.radio.rx.Quiet next.rx) :
    Linked { state with radio := { next with security := state.radio.security } } where
  queue := h.queue.trans (congrArg _ hquiet.sRxPacketQueue.symm)
  visit := by
    intro visit' hvisit'
    obtain ⟨visit, hvisit, hframe⟩ := hquiet.visit visit' hvisit'
    obtain ⟨visiting, hvisiting, hshows⟩ := h.visit visit hvisit
    exact ⟨visiting, hvisiting, hframe ▸ hshows⟩
  done := h.done.trans hquiet.receiveDones.symm
  shows := h.shows
  lastAck := h.lastAck

/-- A packet is queued. -/
theorem enqueue (h : Linked state) {item : Incoming}
    (hrx : next.rx = state.radio.rx.enqueue (state.radio.rx.rxBufferOf config item.packet)) :
    Linked { state with
      radio := { next with security := state.radio.security }
      queue := state.queue ++ [item] } where
  queue := by
    rw [hrx]
    simp [Receiver.enqueue, Receiver.rxBufferOf, h.queue]
  visit := by
    rw [hrx]
    exact h.visit
  done := by
    rw [hrx]
    exact h.done
  shows := h.shows
  lastAck := h.lastAck

/-- The first packet of the queue is dequeued. -/
theorem start (h : Linked state) {rxPacketBuf : RxBuffer} {rest : List RxBuffer}
    (hqueue : state.radio.rx.sRxPacketQueue = rxPacketBuf :: rest)
    (hrx : next.rx = state.radio.rx.startVisit state.radio.security.sMacKeys rxPacketBuf rest) :
    Linked { state with
      radio := { next with security := state.radio.security }
      queue := state.queue.tail
      isReading := true
      visiting := state.queue.head?.map fun item ↦
        item.visiting (state.lastAck rxPacketBuf.iid) } := by
  have hitems := h.queue
  rw [hqueue, List.map_cons] at hitems
  obtain ⟨item, items, hcons, hpsdu, hrest⟩ := List.map_eq_cons_iff.mp hitems
  constructor
  case queue =>
    rw [hcons, hrx]
    exact hrest
  case visit =>
    rw [hcons, hrx]
    intro visit hvisit
    obtain rfl := Option.some.inj hvisit
    exact ⟨_, rfl, shows_prepareFrame hpsdu.symm (h.lastAck rxPacketBuf.iid)⟩
  case done => exact h.done.trans (by rw [hrx]; rfl)
  case shows => exact h.shows
  case lastAck => exact h.lastAck

/-- The packet of the running visit is handed up. -/
theorem hand (h : Linked state) {visit : Visit} {visiting : Visiting} {done : ReceiveDone}
    (hvisiting : state.visiting = some visiting) (hshows : Shows visiting visit.frame)
    (hhands : state.radio.rx.Hands next.rx visit)
    (hdone : next.rx.receiveDones = state.radio.rx.receiveDones ++ [done])
    (hframe : Shows visiting done.aFrame) :
    Linked { state with
      radio := { next with security := state.radio.security }
      handoffs := state.handoffs ++ [⟨visiting, done⟩] } where
  queue := h.queue.trans (congrArg _ hhands.sRxPacketQueue.symm)
  visit := by
    intro visit' hvisit'
    exact ⟨visiting, hvisiting, hhands.visit visit' hvisit' ▸ hshows⟩
  done := by
    rw [List.map_append, h.done]
    exact hdone.symm
  shows := by
    intro handoff hmem
    rcases List.mem_append.mp hmem with hold | hnew
    · exact h.shows handoff hold
    · obtain rfl := List.mem_singleton.mp hnew
      exact hframe
  lastAck := h.lastAck

/-- The frame counter is read for the packet of the running visit. -/
theorem readAckFrameCounter (h : Linked state) {visit : Visit}
    (hvisit : state.radio.rx.visit = some visit) : Linked (state.readAckFrameCounter visit) where
  queue := h.queue
  visit := by
    intro visit' hvisit'
    obtain rfl := Option.some.inj hvisit'
    obtain ⟨visiting, hvisiting, hshows⟩ := h.visit visit hvisit
    refine ⟨_, congrArg (Option.map _) hvisiting, { hshows with mAckFrameCounter := ?_ }⟩
    calc (state.radio.security.sMacKeys visit.rxPacketBuf.iid).ackFrameCounter
        = ((state.lastAck visit.rxPacketBuf.iid).getD (0, 0)).2 :=
          congrArg Prod.snd (h.lastAck visit.rxPacketBuf.iid)
      _ = ((state.lastAck visit.rxPacketBuf.iid).map Prod.snd).getD 0 := stored_snd _
  done := h.done
  shows := h.shows
  lastAck := h.lastAck

/-- A part of `efr32RadioProcess`: the histories go on with the driver. -/
theorem process (h : Linked state) (hprocess : Driver.ProcessRx config state.radio next.rx) :
    Linked { state.follow next none with
      radio := { next with security := state.radio.security } } := by
  cases hprocess with
  | quiet _ hquiet =>
    rw [follow_quiet hquiet]
    exact h.quiet hquiet
  | start _ hqueue hafter =>
    rw [follow_start hqueue hafter]
    exact h.start hqueue hafter
  | hand _ hvisit hhands =>
    obtain ⟨visiting, hvisiting, hshows⟩ := h.visit _ hvisit
    obtain ⟨iid, mChannel, rxPacketBuf, hdone⟩ := hhands.receiveDones
    rw [follow_hand hvisiting hhands hdone]
    exact h.hand hvisiting hshows hhands hdone (hshows.of_mChannel mChannel)

end Linked

namespace AckedReception

variable {config : Config} {state next : AckedReception}

theorem radio_linked (h : Linked state) {event : RadioEvent} {after : Driver}
    (hrail : event.isRailEvents = false)
    (hstep : radioStep config state.radio event = some after) :
    Linked ((state.follow after none).recordAck (state.radio.securesAck config event)) := by
  have hfollowed : Linked { state.follow after none with
      radio := { after with security := state.radio.security } } := by
    by_cases hprocess : ∃ rail gpBuffers, event = .process rail gpBuffers
    case pos =>
      obtain ⟨rail, gpBuffers, rfl⟩ := hprocess
      have hafter := Driver.radioStep_process hstep
      rw [← hafter]
      exact h.process ((state.radio.processPart config rail gpBuffers).processRx)
    case neg =>
      have hquiet := Driver.radioStep_quiet hrail
        (fun rail gpBuffers heq ↦ hprocess ⟨rail, gpBuffers, heq⟩) hstep
      rw [follow_quiet hquiet]
      exact h.quiet hquiet
  exact hfollowed.recordAck (Driver.radioStep_storedAck hrail hstep)

/-- What `dataRequestCommandCallback` does for a packet of the FIFO. -/
theorem answer_eq_some {request : DataRequest} {dataRequestCommand : Option EnhAck}
    (h : state.answer config request = some (next, dataRequestCommand)) :
    ∃ item, state.rxFifo[request.index]? = some item ∧ item.ack = none ∧
      2 ≤ item.airPsdu.length ∧
      let iid := state.radio.rx.getIidFromFilterMask config item.packet.filterMask
      let macFcf := item.airPsdu.headD 0
      next = ({ state with
        rxFifo := state.rxFifo.set request.index (item.acknowledge
          (dataRequestCommandCallback config state.radio.security request.matching iid macFcf
            request.calls)
          (request.calls.fails config state.radio.security request.matching iid
            macFcf)) }).recordAck
        ((request.calls.securedHeader config state.radio.security iid).map
          fun header ↦ (iid, header)) ∧
      dataRequestCommand =
        request.calls.generatedAck.map fun ack ↦ ⟨item.packet.filterMask, ack⟩ := by
  obtain ⟨item, hitem, hanswer⟩ := Option.bind_eq_some_iff.mp h
  obtain ⟨⟨hack, hlength⟩, hanswer⟩ := Option.ite_none_right_eq_some.mp hanswer
  obtain ⟨hnext, hcommand⟩ := Prod.mk.inj (Option.some.inj hanswer)
  exact ⟨item, hitem, hack, hlength, hnext.symm, hcommand.symm⟩

/-- The security state behind `dataRequestCommandCallback` has the ACK stored that is secured. -/
theorem dataRequestCommandCallback_storedAck (radio : Driver) (config : Config)
    (calls : AckCalls) (filterMask : ℕ) :
    (radio.dataRequestCommandCallback config
        (calls.generatedAck.map fun ack ↦ ⟨filterMask, ack⟩)).security.storedAck =
      storeAck radio.security.storedAck
        ((calls.securedHeader config radio.security
          (radio.rx.getIidFromFilterMask config filterMask)).map
            fun header ↦ (radio.rx.getIidFromFilterMask config filterMask, header)) := by
  cases hack : calls.generatedAck with
  | none => simp [Driver.dataRequestCommandCallback, AckCalls.securedHeader, hack, storeAck]
  | some ack =>
    cases henabled : ack.isSecurityEnabled with
    | false =>
      simp [Driver.dataRequestCommandCallback, Driver.writeIeee802154EnhancedAck,
        AckCalls.securedHeader, hack, henabled, storeAck]
    | true =>
      have hstored := @MacSecurity.radioProcessTransmitSecurity_storedAck config radio.security true
        ack (radio.rx.getIidFromFilterMask config filterMask)
      simp only [Driver.dataRequestCommandCallback, Driver.writeIeee802154EnhancedAck,
        AckCalls.securedHeader, hack, henabled, Option.map_some, Option.bind_some, if_true]
      change (radio.security.radioProcessTransmitSecurity config true ack
        (radio.rx.getIidFromFilterMask config filterMask)).2.2.storedAck = _
      rw [hstored]
      cases radio.security.headerWritten config true ack
          (radio.rx.getIidFromFilterMask config filterMask) with
      | none => exact Function.update_eq_self _ _
      | some header => rfl

/-- A call of `RAILCb_Generic`, behind the ACK that it secures. -/
theorem receive_linked (h : Linked state) {ack : Option (ℕ × ℕ × ℕ)}
    {dataRequestCommand : Option EnhAck} (tx : TxEvents) (received : Option ℕ)
    (hsecurity : (state.radio.dataRequestCommandCallback config
      dataRequestCommand).security.storedAck = storeAck state.radio.security.storedAck ack) :
    Linked ((state.recordAck ack).receive config dataRequestCommand tx received) := by
  have hradio : (state.recordAck ack).radio = state.radio := by cases ack <;> rfl
  unfold receive
  simp only [hradio]
  set item := received.bind fun index ↦ (state.recordAck ack).rxFifo[index]?
  set next := state.radio.railCbGeneric config
    { dataRequestCommand, tx, rxPacketReceived := item.map Incoming.packet } with hnext
  have hstored : next.security.storedAck = storeAck state.radio.security.storedAck ack := by
    rw [hnext, Driver.railCbGeneric_security]
    exact hsecurity
  apply Linked.of_rxFifo
  rcases state.radio.railCbGeneric_queues config
    { dataRequestCommand, tx, rxPacketReceived := item.map Incoming.packet } with
    hsame | ⟨packet, hpacket, hqueued⟩
  · have hquiet : state.radio.rx.Quiet next.rx := by
      rw [hnext, hsame]
      exact Receiver.Quiet.refl _
    have hquiet' : (state.recordAck ack).radio.rx.Quiet next.rx := by
      rw [hradio]
      exact hquiet
    rw [follow_quiet hquiet']
    have hlinked := (h.quiet hquiet).recordAck hstored
    cases ack <;> exact hlinked
  · obtain ⟨received, hitem, rfl⟩ := Option.map_eq_some_iff.mp hpacket
    have hqueued' : next.rx = (state.recordAck ack).radio.rx.enqueue
        (state.radio.rx.rxBufferOf config received.packet) := by
      rw [hradio]
      exact hqueued
    rw [follow_enqueue hqueued', hitem]
    have hlinked := (h.enqueue hqueued).recordAck hstored
    cases ack <;> exact hlinked

/-- A call of `RAILCb_Generic`. -/
theorem answerEvent_linked (h : Linked state) {dataRequest : Option DataRequest}
    {dataRequestCommand : Option EnhAck}
    (hanswer : state.answerEvent config dataRequest = some (next, dataRequestCommand))
    (tx : TxEvents) (received : Option ℕ) :
    Linked (next.receive config dataRequestCommand tx received) := by
  cases dataRequest with
  | none =>
    obtain ⟨hnext, hcommand⟩ := Prod.mk.inj (Option.some.inj hanswer)
    rw [← hnext, ← hcommand]
    exact @receive_linked config state h none none tx received rfl
  | some request =>
    obtain ⟨item, _, _, _, hanswered, hcommand⟩ := answer_eq_some hanswer
    have hlinked := receive_linked (h.of_rxFifo (state.rxFifo.set request.index (item.acknowledge
          (dataRequestCommandCallback config state.radio.security request.matching
            (state.radio.rx.getIidFromFilterMask config item.packet.filterMask)
            (item.airPsdu.headD 0) request.calls)
          (request.calls.fails config state.radio.security request.matching
            (state.radio.rx.getIidFromFilterMask config item.packet.filterMask)
            (item.airPsdu.headD 0))))) tx received
        (dataRequestCommandCallback_storedAck state.radio config request.calls
          item.packet.filterMask)
    rw [hanswered, hcommand]
    exact hlinked

theorem readAckFrameCounter_eq_some
    (hstep : ackedReceptionStep config state .readAckFrameCounter = some next) :
    ∃ visit, state.radio.rx.visit = some visit ∧ next = state.readAckFrameCounter visit := by
  obtain ⟨_, hstep⟩ := Option.ite_none_right_eq_some.mp hstep
  obtain ⟨visit, hvisit, hnext⟩ := Option.map_eq_some_iff.mp hstep
  exact ⟨visit, hvisit, hnext.symm⟩

/-- Every step keeps the histories in line with the driver. -/
theorem ackedReceptionStep_linked (h : Linked state) {event : AckedReceptionEvent}
    (hstep : ackedReceptionStep config state event = some next) : Linked next := by
  cases event with
  | radio event =>
    simp only [ackedReceptionStep] at hstep
    obtain ⟨hblocked, hstep⟩ := Option.ite_none_left_eq_some.mp hstep
    obtain ⟨after, hafter, rfl⟩ := Option.map_eq_some_iff.mp hstep
    exact radio_linked h (Bool.of_not_eq_true fun hrail ↦ hblocked (.inl hrail)) hafter
  | arrive packet =>
    simp only [ackedReceptionStep] at hstep
    obtain ⟨_, hnext⟩ := Option.ite_none_right_eq_some.mp hstep
    obtain rfl := Option.some.inj hnext
    exact h.of_rxFifo _
  | railEvents dataRequest tx received =>
    simp only [ackedReceptionStep] at hstep
    obtain ⟨answered, hanswer, rfl⟩ := Option.map_eq_some_iff.mp hstep
    exact answerEvent_linked h hanswer tx received
  | readAckFrameCounter =>
    obtain ⟨visit, hvisit, rfl⟩ := readAckFrameCounter_eq_some hstep
    exact h.readAckFrameCounter hvisit

theorem ackedReceptionInit_linked (config : Config) : Linked (ackedReceptionInit config) where
  queue := rfl
  visit := by
    intro visit hvisit
    exact absurd hvisit (Option.some_ne_none visit).symm
  done := rfl
  shows := by
    intro handoff hmem
    exact absurd hmem List.not_mem_nil
  lastAck := fun _ ↦ rfl

/-! ## What holds of every packet -/

/-- Every packet that the histories or the FIFO know. -/
def items (state : AckedReception) : List Incoming :=
  state.rxFifo ++ state.queue ++ state.visiting.toList.map Visiting.item ++
    state.handoffs.map (·.visiting.item)

theorem mem_items {packet : Incoming} :
    packet ∈ state.items ↔ packet ∈ state.rxFifo ∨ packet ∈ state.queue ∨
      (∃ visiting, state.visiting = some visiting ∧ visiting.item = packet) ∨
      ∃ handoff ∈ state.handoffs, handoff.visiting.item = packet := by
  simp [items]

theorem recordAck_items (state : AckedReception) (ack : Option (ℕ × ℕ × ℕ)) :
    (state.recordAck ack).items = state.items := by
  cases ack <;> rfl

/-- The histories do not make packets up. -/
theorem follow_items {after : Driver} {item : Option Incoming} {packet : Incoming}
    (hmem : packet ∈ (state.follow after item).items) :
    packet ∈ state.items ∨ item = some packet := by
  set queue := if state.radio.rx.queued.length < after.rx.queued.length then
    state.queue ++ item.toList else state.queue with hqueue
  have hqueued : packet ∈ queue → packet ∈ state.items ∨ item = some packet := by
    intro hpacket
    rw [hqueue] at hpacket
    split at hpacket
    · rcases List.mem_append.mp hpacket with hold | hnew
      · exact .inl (mem_items.mpr (.inr (.inl hold)))
      · exact .inr (Option.mem_toList.mp hnew)
    · exact .inl (mem_items.mpr (.inr (.inl hpacket)))
  have hvisited : ∀ visiting, state.visiting = some visiting → visiting.item = packet →
      packet ∈ state.items :=
    fun visiting hvisiting hitem ↦ mem_items.mpr (.inr (.inr (.inl ⟨visiting, hvisiting, hitem⟩)))
  rcases mem_items.mp hmem with hfifo | hqueue' | ⟨visiting, hvisiting, hitem⟩ |
    ⟨handoff, hhandoff, hitem⟩
  · exact .inl (mem_items.mpr (.inl hfifo))
  · simp only [follow] at hqueue'
    split at hqueue'
    · exact hqueued (List.mem_of_mem_tail hqueue')
    · exact hqueued hqueue'
  · simp only [follow] at hvisiting
    split at hvisiting
    · obtain ⟨first, hfirst, rfl⟩ := Option.map_eq_some_iff.mp hvisiting
      exact hqueued (hitem ▸ List.mem_of_head? hfirst)
    · exact .inl (hvisited visiting hvisiting hitem)
  · simp only [follow] at hhandoff
    rcases List.mem_append.mp hhandoff with hold | hnew
    · exact .inl (mem_items.mpr (.inr (.inr (.inr ⟨handoff, hold, hitem⟩))))
    · cases hvisiting : state.visiting with
      | none =>
        rw [hvisiting] at hnew
        exact absurd hnew List.not_mem_nil
      | some visiting =>
        rw [hvisiting] at hnew
        obtain ⟨done, _, rfl⟩ := List.mem_map.mp hnew
        exact .inl (hvisited visiting hvisiting hitem)

/-- A property of packets that arrivals have, and that `dataRequestCommandCallback` keeps. -/
structure PacketInvariant (config : Config) (property : Incoming → Prop) : Prop where
  arrive : ∀ packet : RxPacket, (packet.psdu.all (· < 256)) = true →
    property { airPsdu := packet.psdu, packet }
  acknowledge : ∀ (item : Incoming) (security : MacSecurity) (matching : SrcMatching) (iid : ℕ)
    (calls : AckCalls), property item → item.ack = none → 2 ≤ item.airPsdu.length →
      property (item.acknowledge
        (dataRequestCommandCallback config security matching iid (item.airPsdu.headD 0) calls)
        (calls.fails config security matching iid (item.airPsdu.headD 0)))

theorem answerEvent_items {property : Incoming → Prop} (hproperty : PacketInvariant config property)
    {dataRequest : Option DataRequest} {dataRequestCommand : Option EnhAck}
    (hanswer : state.answerEvent config dataRequest = some (next, dataRequestCommand))
    (h : ∀ packet ∈ state.items, property packet) : ∀ packet ∈ next.items, property packet := by
  cases dataRequest with
  | none =>
    obtain ⟨hnext, _⟩ := Prod.mk.inj (Option.some.inj hanswer)
    rw [← hnext]
    exact h
  | some request =>
    obtain ⟨item, hitem, hack, hlength, hanswered, _⟩ := answer_eq_some hanswer
    intro packet hmem
    rw [hanswered, recordAck_items] at hmem
    rcases mem_items.mp hmem with hfifo | helse
    · rcases List.mem_or_eq_of_mem_set hfifo with hold | rfl
      · exact h packet (mem_items.mpr (.inl hold))
      · have hold : property item :=
          h item (mem_items.mpr (.inl (List.mem_of_getElem? hitem)))
        exact hproperty.acknowledge item _ _ _ _ hold hack hlength
    · exact h packet (mem_items.mpr (.inr helse))

/-- The packet that a call of `RAILCb_Generic` has received comes from the FIFO. -/
theorem receive_items {dataRequestCommand : Option EnhAck} {tx : TxEvents} {received : Option ℕ}
    {packet : Incoming}
    (hmem : packet ∈ (state.receive config dataRequestCommand tx received).items) :
    packet ∈ state.items := by
  unfold receive at hmem
  rcases mem_items.mp hmem with hfifo | helse
  · cases received with
    | none => exact mem_items.mpr (.inl hfifo)
    | some index => exact mem_items.mpr (.inl (List.mem_of_mem_eraseIdx hfifo))
  · rcases follow_items (mem_items.mpr (.inr helse)) with hold | hitem
    · exact hold
    · obtain ⟨index, _, hindex⟩ := Option.bind_eq_some_iff.mp hitem
      exact mem_items.mpr (.inl (List.mem_of_getElem? hindex))

theorem readAckFrameCounter_items (state : AckedReception) (visit : Visit) :
    (state.readAckFrameCounter visit).items = state.items := by
  cases hvisiting : state.visiting <;> simp [items, readAckFrameCounter, hvisiting]

theorem ackedReceptionStep_items {property : Incoming → Prop}
    (hproperty : PacketInvariant config property) {event : AckedReceptionEvent}
    (hstep : ackedReceptionStep config state event = some next)
    (h : ∀ packet ∈ state.items, property packet) : ∀ packet ∈ next.items, property packet := by
  cases event with
  | radio event =>
    simp only [ackedReceptionStep] at hstep
    obtain ⟨_, hstep⟩ := Option.ite_none_left_eq_some.mp hstep
    obtain ⟨after, _, rfl⟩ := Option.map_eq_some_iff.mp hstep
    intro packet hmem
    rw [recordAck_items] at hmem
    rcases follow_items hmem with hold | hnone
    · exact h packet hold
    · exact absurd hnone.symm (Option.some_ne_none packet)
  | arrive packet =>
    simp only [ackedReceptionStep] at hstep
    obtain ⟨hbytes, hnext⟩ := Option.ite_none_right_eq_some.mp hstep
    obtain rfl := Option.some.inj hnext
    intro item hmem
    rcases mem_items.mp hmem with hfifo | helse
    · rcases List.mem_append.mp hfifo with hold | hnew
      · exact h item (mem_items.mpr (.inl hold))
      · obtain rfl := List.mem_singleton.mp hnew
        exact hproperty.arrive packet hbytes
    · exact h item (mem_items.mpr (.inr helse))
  | railEvents dataRequest tx received =>
    simp only [ackedReceptionStep] at hstep
    obtain ⟨⟨answered, dataRequestCommand⟩, hanswer, rfl⟩ := Option.map_eq_some_iff.mp hstep
    intro packet hmem
    exact answerEvent_items hproperty hanswer h packet (receive_items hmem)
  | readAckFrameCounter =>
    obtain ⟨visit, _, rfl⟩ := readAckFrameCounter_eq_some hstep
    intro packet hmem
    exact h packet (readAckFrameCounter_items state visit ▸ hmem)

/-! ## The exact condition of a law about hand-offs -/

/-- Every call of `otPlatRadioReceiveDone` is on record, with a packet that it has the property
for. -/
def HandoffLaw (property : Visiting → ReceiveFrame → Prop) (state : AckedReception) : Prop :=
  state.handoffs.map Handoff.done = state.radio.rx.receiveDones ∧
    ∀ handoff ∈ state.handoffs, property handoff.visiting handoff.done.aFrame

/-- The step does not hand a packet up that misses the condition. -/
def HandoffCondition (config : Config) (condition : Visiting → Prop) (state : AckedReception)
    (event : AckedReceptionEvent) : Prop :=
  event.isProcess = true → state.radio.handsUp config = true →
    ∀ visiting ∈ state.visiting, condition visiting

instance (property : Visiting → ReceiveFrame → Prop) [DecidableRel property] :
    DecidablePred (HandoffLaw property) := fun _ ↦ inferInstanceAs (Decidable (_ ∧ _))

instance (config : Config) (condition : Visiting → Prop) [DecidablePred condition] :
    DecidableRel (HandoffCondition config condition) := fun state _ ↦
  inferInstanceAs (Decidable (_ → _ → ∀ visiting ∈ state.visiting, condition visiting))

theorem receive_handoffs (state : AckedReception) (config : Config)
    (dataRequestCommand : Option EnhAck) (tx : TxEvents) (received : Option ℕ) :
    (state.receive config dataRequestCommand tx received).handoffs = state.handoffs := by
  unfold receive
  simp only
  rcases state.radio.railCbGeneric_queues config _ with hsame | ⟨packet, _, hqueued⟩
  · rw [follow_quiet (hsame ▸ Receiver.Quiet.refl _)]
  · rw [follow_enqueue hqueued]

theorem recordAck_handoffs (state : AckedReception) (ack : Option (ℕ × ℕ × ℕ)) :
    (state.recordAck ack).handoffs = state.handoffs := by
  cases ack <;> rfl

/-- A step that hands a packet up puts it on record. -/
theorem process_handoffs (h : Linked state) {rail : RailResults} {gpBuffers : Bool}
    (hstep : ackedReceptionStep config state (.radio (.process rail gpBuffers)) = some next) :
    if state.radio.handsUp config then
      ∃ visiting done, state.visiting = some visiting ∧
        next.handoffs = state.handoffs ++ [⟨visiting, done⟩]
    else next.handoffs = state.handoffs := by
  simp only [ackedReceptionStep] at hstep
  obtain ⟨_, hstep⟩ := Option.ite_none_left_eq_some.mp hstep
  obtain ⟨after, hafter, rfl⟩ := Option.map_eq_some_iff.mp hstep
  have hprocess := (state.radio.processPart config rail gpBuffers).processRx
  rw [Driver.radioStep_process hafter] at hprocess
  rw [recordAck_handoffs]
  cases hprocess with
  | quiet hhands hquiet => rw [hhands, follow_quiet hquiet, if_neg Bool.false_ne_true]
  | start hhands hqueue hrx => rw [hhands, follow_start hqueue hrx, if_neg Bool.false_ne_true]
  | hand hhands hvisit hrx =>
    obtain ⟨visiting, hvisiting, _⟩ := h.visit _ hvisit
    obtain ⟨iid, mChannel, rxPacketBuf, hdone⟩ := hrx.receiveDones
    rw [hhands, follow_hand hvisiting hrx hdone, if_pos rfl]
    exact ⟨visiting, _, hvisiting, rfl⟩

/-- No other step hands a packet up. -/
theorem step_handoffs {event : AckedReceptionEvent}
    (hprocess : ∀ rail gpBuffers, event ≠ .radio (.process rail gpBuffers))
    (hstep : ackedReceptionStep config state event = some next) :
    next.handoffs = state.handoffs := by
  cases event with
  | radio event =>
    simp only [ackedReceptionStep] at hstep
    obtain ⟨hblocked, hstep⟩ := Option.ite_none_left_eq_some.mp hstep
    obtain ⟨after, hafter, rfl⟩ := Option.map_eq_some_iff.mp hstep
    have hquiet := Driver.radioStep_quiet (Bool.of_not_eq_true fun hrail ↦ hblocked (.inl hrail))
      (fun rail gpBuffers heq ↦ hprocess rail gpBuffers (congrArg _ heq)) hafter
    rw [recordAck_handoffs, follow_quiet hquiet]
  | arrive packet =>
    simp only [ackedReceptionStep] at hstep
    obtain ⟨_, hnext⟩ := Option.ite_none_right_eq_some.mp hstep
    obtain rfl := Option.some.inj hnext
    rfl
  | railEvents dataRequest tx received =>
    simp only [ackedReceptionStep] at hstep
    obtain ⟨⟨answered, dataRequestCommand⟩, hanswer, rfl⟩ := Option.map_eq_some_iff.mp hstep
    rw [receive_handoffs]
    cases dataRequest with
    | none =>
      obtain ⟨hnext, _⟩ := Prod.mk.inj (Option.some.inj hanswer)
      rw [← hnext]
    | some request =>
      obtain ⟨item, _, _, _, hanswered, _⟩ := answer_eq_some hanswer
      rw [hanswered, recordAck_handoffs]
  | readAckFrameCounter =>
    obtain ⟨visit, _, rfl⟩ := readAckFrameCounter_eq_some hstep
    rfl

/-- The invariant behind a law about hand-offs: the packets handed up meet the condition. -/
structure HandedUp (invariant : Incoming → Prop) (condition : Visiting → Prop)
    (state : AckedReception) : Prop where
  linked : Linked state
  items : ∀ packet ∈ state.items, invariant packet
  condition : ∀ handoff ∈ state.handoffs, condition handoff.visiting

variable {invariant : Incoming → Prop} {property : Visiting → ReceiveFrame → Prop}
  {condition : Visiting → Prop} {event : AckedReceptionEvent}

theorem HandedUp.step (hinvariant : PacketInvariant config invariant)
    (h : HandedUp invariant condition state) (hcondition : HandoffCondition config condition state
      event) (hstep : ackedReceptionStep config state event = some next) :
    HandedUp invariant condition next := by
  refine ⟨ackedReceptionStep_linked h.linked hstep,
    ackedReceptionStep_items hinvariant hstep h.items, fun handoff hmem ↦ ?_⟩
  by_cases hprocess : ∃ rail gpBuffers, event = .radio (.process rail gpBuffers)
  case neg =>
    have hsame := step_handoffs (fun rail gpBuffers heq ↦ hprocess ⟨rail, gpBuffers, heq⟩) hstep
    exact h.condition handoff (hsame ▸ hmem)
  case pos =>
    obtain ⟨rail, gpBuffers, rfl⟩ := hprocess
    have hhandoffs := process_handoffs h.linked hstep
    split at hhandoffs
    case isFalse => exact h.condition handoff (hhandoffs ▸ hmem)
    case isTrue hhands =>
      obtain ⟨visiting, done, hvisiting, hnew⟩ := hhandoffs
      rw [hnew] at hmem
      rcases List.mem_append.mp hmem with hold | hlast
      · exact h.condition handoff hold
      · obtain rfl := List.mem_singleton.mp hlast
        exact hcondition rfl hhands visiting hvisiting

/-- A step that misses the condition hands a packet up that misses it. -/
theorem HandedUp.handoff_of_not (h : HandedUp invariant condition state)
    (hcondition : ¬ HandoffCondition config condition state event)
    (hstep : ackedReceptionStep config state event = some next) :
    ∃ handoff ∈ next.handoffs, ¬ condition handoff.visiting := by
  by_cases hprocess : ∃ rail gpBuffers, event = .radio (.process rail gpBuffers)
  case neg =>
    refine absurd (fun hevent ↦ ?_) hcondition
    exact absurd (AckedReceptionEvent.eq_of_isProcess hevent) hprocess
  case pos =>
    obtain ⟨rail, gpBuffers, rfl⟩ := hprocess
    simp only [HandoffCondition, not_forall] at hcondition
    obtain ⟨_, hhands, missed, hmissed, hnot⟩ := hcondition
    have hhandoffs := process_handoffs h.linked hstep
    rw [if_pos hhands] at hhandoffs
    obtain ⟨visiting, done, hvisiting, hnew⟩ := hhandoffs
    obtain rfl : visiting = missed := Option.some.inj (hvisiting.symm.trans hmissed)
    exact ⟨⟨visiting, done⟩, hnew ▸ List.mem_append_right _ (List.mem_singleton_self _), hnot⟩

theorem HandedUp.law (hexact : ∀ visiting frame, invariant visiting.item → Shows visiting frame →
      (property visiting frame ↔ condition visiting))
    (h : HandedUp invariant condition state) : HandoffLaw property state := by
  refine ⟨h.linked.done, fun handoff hmem ↦ ?_⟩
  have hitem : invariant handoff.visiting.item :=
    h.items _ (mem_items.mpr (.inr (.inr (.inr ⟨handoff, hmem, rfl⟩))))
  exact (hexact _ _ hitem (h.linked.shows handoff hmem)).mpr (h.condition handoff hmem)

theorem ackedReceptionInit_handedUp (config : Config) :
    HandedUp invariant condition (ackedReceptionInit config) where
  linked := ackedReceptionInit_linked config
  items := by
    intro packet hmem
    exact absurd hmem List.not_mem_nil
  condition := by
    intro handoff hmem
    exact absurd hmem List.not_mem_nil

/-- A property that a packet and the frame shown for it have exactly under a condition on the packet
holds of every hand-off, in every state of a run, exactly when no step of the run hands a packet up
that misses the condition. -/
theorem handoffLaw_iff (hinvariant : PacketInvariant config invariant)
    (hexact : ∀ visiting frame, invariant visiting.item → Shows visiting frame →
      (property visiting frame ↔ condition visiting))
    {labels : List AckedReceptionEvent} {final : AckedReception}
    (hrun : exec (ackedReceptionStep config) (ackedReceptionInit config) labels = some final) :
    Throughout (ackedReceptionStep config) (HandoffLaw property) (ackedReceptionInit config)
        labels ↔
      Along (ackedReceptionStep config) (HandoffCondition config condition)
        (ackedReceptionInit config) labels := by
  refine throughout_iff_along (fun state h ↦ HandedUp.law hexact h)
    (fun state event next h hcondition hstep ↦ HandedUp.step hinvariant h hcondition hstep)
    (fun state event next h hcondition hstep hlaw ↦ ?_) (ackedReceptionInit_handedUp config) hrun
  obtain ⟨handoff, hmem, hnot⟩ := h.handoff_of_not hcondition hstep
  have hlinked := ackedReceptionStep_linked h.linked hstep
  have hitem : invariant handoff.visiting.item :=
    ackedReceptionStep_items hinvariant hstep h.items _
      (mem_items.mpr (.inr (.inr (.inr ⟨handoff, hmem, rfl⟩))))
  exact hnot ((hexact _ _ hitem (hlinked.shows handoff hmem)).mp (hlaw.2 handoff hmem))

end AckedReception

end OtEfr32.Radio
