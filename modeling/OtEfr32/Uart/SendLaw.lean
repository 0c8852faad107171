import OtEfr32.Uart.Transmit

/-!
# One answer for each send

`sTxComplete` has room for one finished buffer.  `sendLaw_iff` is the exact condition for every
buffer to be answered once and in turn; one who waits for the answer before the next send meets it,
and then no answer is left behind.
-/

namespace OtEfr32.Uart

open Data Transition

namespace Transmitter

variable {uart next : Transmitter} {event : TransmitEvent}

/-- The invariant behind `SendLaw`. -/
structure Announcing (uart : Transmitter) : Prop where
  law : uart.SendLaw
  flag : uart.sTxComplete = uart.complete.isSome
  checked : uart.location = .checked → uart.sTxComplete = true
  due : uart.location ≠ .cleared → uart.due = none
  flushing : uart.flushTimedOut ≠ none → uart.location ≠ .cleared ∧ uart.location ≠ .checked

theorem location_of_stackRuns (h : uart.stackRuns = true) :
    uart.location ≠ .cleared ∧ uart.location ≠ .checked := by
  rw [stackRuns, Bool.and_eq_true, Bool.or_eq_true, beq_iff_eq, beq_iff_eq] at h
  rcases h.1 with hlocation | hlocation <;> rw [hlocation] <;> decide

namespace Announcing

theorem otPlatUartSend (h : uart.Announcing) (ok : Bool) : (uart.otPlatUartSend ok).Announcing := by
  unfold Transmitter.otPlatUartSend
  split
  · exact ⟨h.law.accept, h.flag, h.checked, h.due, h.flushing⟩
  · exact h

theorem transmitDone (h : uart.Announcing) (halone : uart.sTxComplete = false)
    (hnext : uart.transmitDone = some next) : next.Announcing := by
  unfold Transmitter.transmitDone at hnext
  split at hnext
  case h_1 => contradiction
  case h_2 buffer txQueue hqueue =>
    obtain rfl := Option.some.inj hnext
    have hcomplete : uart.complete = none := by
      rw [← Option.not_isSome_iff_eq_none, ← h.flag, halone]
      exact Bool.false_ne_true
    have hlaw := h.law
    rw [SendLaw, hqueue, hcomplete, Option.toList_none, List.append_nil] at hlaw
    exact ⟨hlaw.announce, rfl, fun _ ↦ rfl, h.due, h.flushing⟩

/-- A finished buffer whose announcement takes the place of another's is never answered. -/
theorem not_law_of_transmitDone (h : uart.Announcing) (hannounced : uart.sTxComplete = true)
    (hnext : uart.transmitDone = some next) : ¬ next.SendLaw := by
  unfold Transmitter.transmitDone at hnext
  split at hnext
  case h_1 => contradiction
  case h_2 buffer txQueue hqueue =>
    obtain rfl := Option.some.inj hnext
    obtain ⟨last, hlast⟩ := Option.isSome_iff_exists.mp (h.flag.symm.trans hannounced)
    have hlaw := h.law
    rw [SendLaw, hqueue, hlast, Option.toList_some] at hlaw
    exact hlaw.not_overwrite

theorem processTransmit (h : uart.Announcing) (hflush : uart.flushTimedOut = none) :
    uart.processTransmit.Announcing := by
  have hlaw := h.law
  unfold Transmitter.processTransmit
  split
  case h_1 hlocation =>
    split
    case isTrue hcomplete =>
      have hdue := h.due (by rw [hlocation]; decide)
      exact ⟨h.law, h.flag, fun _ ↦ hcomplete, fun _ ↦ hdue, fun hnot ↦ absurd hflush hnot⟩
    case isFalse => exact h
  case h_2 hlocation =>
    have hdue := h.due (by rw [hlocation]; decide)
    rw [SendLaw, hdue, Option.toList_none, List.nil_append] at hlaw
    refine ⟨?_, rfl, fun hnow ↦ by contradiction, fun hnot ↦ absurd rfl hnot,
      fun hnot ↦ absurd hflush hnot⟩
    rw [SendLaw, Option.toList_none, List.append_nil]
    exact hlaw
  case h_3 hlocation =>
    refine ⟨?_, h.flag, fun hnow ↦ by contradiction, fun _ ↦ rfl, fun hnot ↦ absurd hflush hnot⟩
    rw [SendLaw, InTurn] at hlaw ⊢
    rw [← hlaw, Option.toList_none, List.nil_append, List.append_assoc uart.answered]
  case h_4 hlocation =>
    have hdue := h.due (by rw [hlocation]; decide)
    exact ⟨h.law, h.flag, fun hnow ↦ by contradiction, fun _ ↦ hdue, fun hnot ↦ absurd hflush hnot⟩

theorem endFlush (h : uart.Announcing) (hflush : uart.flushTimedOut ≠ none) :
    uart.endFlush.Announcing := by
  obtain ⟨hcleared, hchecked⟩ := h.flushing hflush
  have hdue := h.due hcleared
  have hlaw := h.law
  rw [SendLaw, hdue, Option.toList_none, List.nil_append] at hlaw
  refine ⟨?_, rfl, fun hnow ↦ absurd hnow hchecked, fun _ ↦ hdue, fun hnot ↦ absurd rfl hnot⟩
  rw [SendLaw, Transmitter.endFlush, hdue]
  exact hlaw.answerAll

theorem step (h : uart.Announcing) (halone : uart.AnnouncedAlone event)
    (hstep : uart.transmitStep event = some next) : next.Announcing := by
  cases event with
  | send ok =>
    rw [transmitStep] at hstep
    split_ifs at hstep
    obtain rfl := Option.some.inj hstep
    exact h.otPlatUartSend ok
  | transmitDone => exact h.transmitDone halone hstep
  | processTransmit =>
    rw [transmitStep] at hstep
    split_ifs at hstep with hflush
    obtain rfl := Option.some.inj hstep
    exact h.processTransmit (Option.isNone_iff_eq_none.mp hflush)
  | flush started =>
    rw [transmitStep] at hstep
    split_ifs at hstep with hruns
    all_goals obtain rfl := Option.some.inj hstep
    · have hlocation := location_of_stackRuns hruns
      exact ⟨h.law, h.flag, h.checked, h.due, fun _ ↦ hlocation⟩
    · exact h
  | flushTimeout =>
    obtain ⟨timedOut, hflush, rfl⟩ := Option.map_eq_some_iff.mp hstep
    have hflushing := h.flushing (hflush ▸ Option.some_ne_none timedOut)
    exact ⟨h.law, h.flag, h.checked, h.due, fun _ ↦ hflushing⟩
  | flushRound uartIdle =>
    obtain ⟨timedOut, hflush, rfl⟩ := Option.map_eq_some_iff.mp hstep
    unfold Transmitter.flushRound
    dsimp only
    split
    · exact h
    · exact h.endFlush (hflush ▸ Option.some_ne_none timedOut)

end Announcing

theorem announcing_init : ({} : Transmitter).Announcing :=
  ⟨InTurn.empty, rfl, fun hnow ↦ by contradiction, fun _ ↦ rfl, fun hnot ↦ absurd rfl hnot⟩

/-! ## One send at a time -/

/-- A buffer is sent only when all earlier ones were answered. -/
def WaitsForAnswer (uart : Transmitter) : TransmitEvent → Prop
  | .send _ => uart.answered.length = uart.accepted
  | _ => True

instance : DecidableRel WaitsForAnswer := fun uart event ↦
  match event with
  | .send _ => inferInstanceAs (Decidable (uart.answered.length = uart.accepted))
  | .transmitDone | .processTransmit | .flush _ | .flushTimeout | .flushRound _ => .isTrue trivial

/-- The invariant of those who wait. -/
structure Waiting (uart : Transmitter) : Prop extends Announcing uart where
  outstanding : uart.accepted ≤ uart.answered.length + 1

theorem Waiting.announcedAlone (h : uart.Waiting) (hstep : uart.transmitStep event = some next) :
    uart.AnnouncedAlone event := by
  cases event with
  | transmitDone =>
    have hlength := h.law.length_eq
    have houtstanding := h.outstanding
    rw [transmitStep, Transmitter.transmitDone] at hstep
    split at hstep
    case h_1 => contradiction
    case h_2 buffer txQueue hqueue =>
      rw [hqueue, List.length_append, List.length_cons] at hlength
      have hcomplete : uart.complete.toList.length = 0 := by omega
      rw [AnnouncedAlone, h.flag]
      cases hlast : uart.complete with
      | none => rfl
      | some last =>
        rw [hlast] at hcomplete
        contradiction
  | _ => trivial

/-- Only a send accepts a buffer, and answers are not taken back. -/
theorem answered_of_step (hstep : uart.transmitStep event = some next) :
    uart.answered.length ≤ next.answered.length ∧
      (next.accepted = uart.accepted ∨
        (∃ ok, event = .send ok) ∧ next.accepted = uart.accepted + 1) := by
  cases event with
  | send ok =>
    rw [transmitStep] at hstep
    split_ifs at hstep
    obtain rfl := Option.some.inj hstep
    unfold Transmitter.otPlatUartSend
    split
    · exact ⟨le_rfl, .inr ⟨⟨ok, rfl⟩, rfl⟩⟩
    · exact ⟨le_rfl, .inl rfl⟩
  | transmitDone =>
    rw [transmitStep, Transmitter.transmitDone] at hstep
    split at hstep
    case h_1 => contradiction
    case h_2 =>
      obtain rfl := Option.some.inj hstep
      exact ⟨le_rfl, .inl rfl⟩
  | processTransmit =>
    rw [transmitStep] at hstep
    split_ifs at hstep
    obtain rfl := Option.some.inj hstep
    unfold Transmitter.processTransmit
    split
    case h_1 => split <;> exact ⟨le_rfl, .inl rfl⟩
    case h_3 => exact ⟨by simp, .inl rfl⟩
    all_goals exact ⟨le_rfl, .inl rfl⟩
  | flush started =>
    rw [transmitStep] at hstep
    split_ifs at hstep
    all_goals
      obtain rfl := Option.some.inj hstep
      exact ⟨le_rfl, .inl rfl⟩
  | flushTimeout =>
    obtain ⟨timedOut, hflush, rfl⟩ := Option.map_eq_some_iff.mp hstep
    exact ⟨le_rfl, .inl rfl⟩
  | flushRound uartIdle =>
    obtain ⟨timedOut, hflush, rfl⟩ := Option.map_eq_some_iff.mp hstep
    unfold Transmitter.flushRound
    dsimp only
    split
    · exact ⟨le_rfl, .inl rfl⟩
    · exact ⟨by simp [Transmitter.endFlush], .inl rfl⟩

theorem Waiting.step (h : uart.Waiting) (hwaits : uart.WaitsForAnswer event)
    (hstep : uart.transmitStep event = some next) : next.Waiting := by
  obtain ⟨hanswered, haccepted⟩ := answered_of_step hstep
  have houtstanding := h.outstanding
  refine ⟨h.toAnnouncing.step (h.announcedAlone hstep) hstep, ?_⟩
  rcases haccepted with hsame | ⟨⟨ok, rfl⟩, hmore⟩
  · omega
  · have hall : uart.answered.length = uart.accepted := hwaits
    omega

/-- When UARTDRV has nothing left, `processTransmit` answers what is announced. -/
theorem Announcing.answered_of_parts (h : uart.Announcing) (hqueue : uart.txQueue = [])
    (hflush : uart.flushTimedOut = none) :
    ∃ final, exec transmitStep uart (List.replicate 5 .processTransmit) = some final ∧
      final.answered = List.range uart.accepted := by
  have hlaw := h.law
  have hflag := h.flag
  have hchecked := h.checked
  have hdue := h.due
  rw [SendLaw, hqueue, InTurn, List.append_nil] at hlaw
  rw [← hlaw]
  obtain ⟨sTxComplete, txQueue, location, flushTimedOut, accepted, complete, due, answered⟩ := uart
  dsimp only at hqueue hflush hflag hchecked hdue ⊢
  subst hqueue hflush hflag
  cases location with
  | cleared => cases complete <;> exact ⟨_, rfl, by simp [Transmitter.processTransmit]⟩
  | checked =>
    obtain rfl := hdue (by decide)
    cases complete with
    | none => exact absurd (hchecked rfl) Bool.false_ne_true
    | some last => exact ⟨_, rfl, by simp [Transmitter.processTransmit]⟩
  | _ =>
    obtain rfl := hdue (by decide)
    cases complete <;> exact ⟨_, rfl, by simp [Transmitter.processTransmit]⟩

end Transmitter

open Transmitter

/-- In every run every buffer is answered once and in turn if and only if UARTDRV never finishes a
buffer while the one before is still announced. -/
theorem sendLaw_iff (labels : List TransmitEvent) (final : Transmitter)
    (hrun : exec transmitStep {} labels = some final) :
    Throughout transmitStep SendLaw {} labels ↔
      Along transmitStep AnnouncedAlone {} labels := by
  refine throughout_iff_along (fun _ h ↦ Announcing.law h) (fun _ _ _ h halone ↦ h.step halone)
    (fun uart event next h hnot hstep ↦ ?_) announcing_init hrun
  cases event with
  | transmitDone => exact h.not_law_of_transmitDone (Bool.of_not_eq_false hnot) hstep
  | _ => exact absurd trivial hnot

/-- Two buffers are sent, the second one from `otPlatUartSendDone`; the third one is flushed. -/
def answeredSends : List TransmitEvent :=
  [.send true, .transmitDone, .processTransmit, .processTransmit, .processTransmit, .send true,
    .transmitDone, .processTransmit, .processTransmit, .processTransmit, .processTransmit,
    .processTransmit, .send true, .flush true, .flushRound true, .flushTimeout, .flushRound true]

theorem sendLaw_iff_answeredSends :
    ((exec transmitStep {} answeredSends).map Transmitter.answered) = some [0, 1, 2] ∧
      Throughout transmitStep SendLaw {} answeredSends :=
  ⟨by decide, (sendLaw_iff answeredSends _ (Option.some_get (by decide)).symm).mpr (by decide)⟩

/-- Two buffers finish before the main loop looks at `sTxComplete`. -/
example : ¬ Throughout transmitStep SendLaw {}
    [.send true, .send true, .transmitDone, .transmitDone] := by
  decide

/-- One who sends only when all earlier buffers were answered gets one answer for each, in turn, and
`processTransmit` gives it as soon as UARTDRV is done. -/
theorem answered_of_waiting (labels : List TransmitEvent) (uart : Transmitter)
    (hwaits : Along transmitStep WaitsForAnswer {} labels)
    (hrun : exec transmitStep {} labels = some uart) :
    uart.SendLaw ∧ uart.accepted ≤ uart.answered.length + 1 ∧
      (uart.txQueue = [] → uart.flushTimedOut = none →
        ∃ final, exec transmitStep uart (List.replicate 5 .processTransmit) = some final ∧
          final.answered = List.range uart.accepted) := by
  have h : uart.Waiting :=
    (Along.throughout (fun _ _ _ h hwaits hstep ↦ Waiting.step h hwaits hstep)
      ⟨announcing_init, Nat.zero_le _⟩ hwaits).last hrun
  exact ⟨h.law, h.outstanding, h.answered_of_parts⟩

theorem answered_of_waiting_answeredSends :
    ∃ uart, exec transmitStep {} answeredSends = some uart ∧ uart.SendLaw ∧
      uart.answered = [0, 1, 2] := by
  have hwaits : Along transmitStep WaitsForAnswer {} answeredSends := by decide
  have hanswers : (exec transmitStep {} answeredSends).map Transmitter.answered =
    some [0, 1, 2] := by decide
  obtain ⟨uart, hrun, hanswered⟩ := Option.map_eq_some_iff.mp hanswers
  exact ⟨uart, hrun, (answered_of_waiting answeredSends uart hwaits hrun).1, hanswered⟩

end OtEfr32.Uart
