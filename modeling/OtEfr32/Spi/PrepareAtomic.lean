import OtEfr32.Spi.TransactionLength

/-!
# Errors of a call that prepares a transaction

A call of `otPlatSpiSlavePrepareTransaction` that fails should leave the descriptors and the DMA
channels alone, since the end of the transaction reports the buffers of the descriptors.  The chip
select is checked three times.  Behind the first check the channels of the new buffers are stopped,
and behind the second one the descriptors are set, so a late `OT_ERROR_BUSY` is harmless only if
there was nothing to stop and nothing to change.
-/

namespace OtEfr32.Spi

open Transition

variable {peripheral : Peripheral} {slave next : SpiSlave} {args : PrepareArgs} {csPin : CsPin}

/-- The descriptors name the buffers of the enabled channels. -/
structure Coherent (slave : SpiSlave) : Prop where
  tx : slave.txDMACh.enabled = true → slave.txDMACh.started = some slave.txDescriptor0.buffer
  rx : slave.rxDMACh.enabled = true → slave.rxDMACh.started = some slave.rxDescriptor.buffer

/-- The buffer that the hardware uses is the one that the end of the transaction reports. -/
structure ReportsUsed (peripheral : Peripheral) (slave final : SpiSlave) : Prop where
  tx : slave.txDMACh.enabled = true → final.txDMACh.started =
    some (final.transactionEnd peripheral).completeArgs.oldTxBuffer
  rx : slave.rxDMACh.enabled = true → final.rxDMACh.started =
    some (final.transactionEnd peripheral).completeArgs.oldRxBuffer

/-- A failed call has changed neither a descriptor nor a channel, and whatever the hardware does up
to the end of the transaction, the buffers of the channels that were enabled are reported. -/
structure Unprepared (peripheral : Peripheral) (slave after : SpiSlave) : Prop where
  txDescriptor0 : after.txDescriptor0 = slave.txDescriptor0
  txDescriptor1 : after.txDescriptor1 = slave.txDescriptor1
  rxDescriptor : after.rxDescriptor = slave.rxDescriptor
  txDMACh : after.txDMACh = slave.txDMACh
  rxDMACh : after.rxDMACh = slave.rxDMACh
  reports : Coherent slave → ∀ transfers final, exec transferStep after transfers = some final →
    ReportsUsed peripheral slave final

/-- A late `OT_ERROR_BUSY` meets no enabled channel of a new buffer, and behind the second check no
descriptor that is to be changed. -/
structure BusyHarmless (slave : SpiSlave) (args : PrepareArgs) (csPin : CsPin) : Prop where
  tx : args.aOutputBuf ≠ 0 → slave.txDMACh.enabled = false ∧
    (csPin.second = true →
      slave.txDescriptor0 = .ofBuffer args.aOutputBuf args.aOutputBufLen)
  rx : args.aInputBuf ≠ 0 → slave.rxDMACh.enabled = false ∧
    (csPin.second = true →
      slave.rxDescriptor = .ofBuffer args.aInputBuf args.aInputBufLen)

/-- The call is late to see that a transaction is in progress. -/
def LateBusy (args : PrepareArgs) (csPin : CsPin) : Prop :=
  args.Fit ∧ csPin.first = true ∧ (csPin.second = false ∨ csPin.third = false)

/-! ## What the hardware keeps -/

/-- The hardware changes no descriptor and starts no channel. -/
structure SameBuffers (slave next : SpiSlave) : Prop where
  txDescriptor0 : next.txDescriptor0 = slave.txDescriptor0
  rxDescriptor : next.rxDescriptor = slave.rxDescriptor
  txStarted : next.txDMACh.started = slave.txDMACh.started
  rxStarted : next.rxDMACh.started = slave.rxDMACh.started

theorem DmaChannel.started_moveByte (channel : DmaChannel) (linked : Descriptor) :
    (channel.moveByte linked).started = channel.started := by
  rw [moveByte]
  repeat' split
  all_goals rfl

theorem DmaChannel.enabled_of_moveByte {channel : DmaChannel} {linked : Descriptor}
    (h : (channel.moveByte linked).enabled = true) : channel.enabled = true := by
  rw [moveByte] at h
  split at h
  · exact h
  split at h
  · exact h
  · exact Bool.noConfusion h

theorem sameBuffers_transferStep {transfer : Transfer}
    (hstep : transferStep slave transfer = some next) : SameBuffers slave next := by
  cases transfer with
  | shiftIn =>
    obtain rfl := Option.some.inj hstep
    exact ⟨rfl, rfl, rfl, rfl⟩
  | push | shiftOut | pull =>
    simp only [transferStep, Option.ite_none_right_eq_some, Option.some.injEq] at hstep
    obtain ⟨-, rfl⟩ := hstep
    constructor <;> first | rfl | exact DmaChannel.started_moveByte _ _

theorem sameBuffers_of_exec {transfers : List Transfer}
    (hrun : exec transferStep slave transfers = some next) : SameBuffers slave next := by
  refine exec_inv (fun state transfer next (hsame : SameBuffers slave state) hstep ↦ ?_)
    ⟨rfl, rfl, rfl, rfl⟩ hrun
  have hnext := sameBuffers_transferStep hstep
  exact ⟨hnext.txDescriptor0.trans hsame.txDescriptor0, hnext.rxDescriptor.trans hsame.rxDescriptor,
    hnext.txStarted.trans hsame.txStarted, hnext.rxStarted.trans hsame.rxStarted⟩

/-! ## Coherence -/

theorem coherent_otPlatSpiSlaveEnable (defaultTxValue : UInt32) :
    Coherent (otPlatSpiSlaveEnable defaultTxValue) := ⟨fun _ ↦ rfl, Bool.noConfusion⟩

/-- A channel is stopped before its descriptor is set, whatever the checks find. -/
theorem Coherent.prepare (h : Coherent slave) :
    Coherent (slave.otPlatSpiSlavePrepareTransaction peripheral args csPin).2 := by
  have hstop : Coherent (slave.stopForPrepare peripheral args) := by
    constructor
    · simp only [SpiSlave.stopForPrepare]
      split
      · exact Bool.noConfusion
      · exact h.tx
    · simp only [SpiSlave.stopForPrepare]
      split
      · exact Bool.noConfusion
      · exact h.rx
  have hset : Coherent ((slave.stopForPrepare peripheral args).setDescriptors peripheral args) := by
    constructor
    · simp only [SpiSlave.setDescriptors, SpiSlave.stopForPrepare]
      split
      · exact Bool.noConfusion
      · exact h.tx
    · simp only [SpiSlave.setDescriptors, SpiSlave.stopForPrepare]
      split
      · exact Bool.noConfusion
      · exact h.rx
  rw [SpiSlave.otPlatSpiSlavePrepareTransaction_eq]
  repeat' split
  · exact h
  · exact h
  · exact hstop
  · exact hset
  · constructor
    · simp only [SpiSlave.startForPrepare]
      split
      · exact fun _ ↦ rfl
      · exact hset.tx
    · simp only [SpiSlave.startForPrepare]
      split
      · exact fun _ ↦ rfl
      · exact hset.rx

theorem Coherent.transferStep {transfer : Transfer} (h : Coherent slave)
    (hstep : transferStep slave transfer = some next) : Coherent next := by
  have hsame := sameBuffers_transferStep hstep
  have henabled : (next.txDMACh.enabled = true → slave.txDMACh.enabled = true) ∧
      (next.rxDMACh.enabled = true → slave.rxDMACh.enabled = true) := by
    cases transfer with
    | shiftIn =>
      obtain rfl := Option.some.inj hstep
      exact ⟨id, id⟩
    | push | shiftOut | pull =>
      simp only [Spi.transferStep, Option.ite_none_right_eq_some, Option.some.injEq] at hstep
      obtain ⟨-, rfl⟩ := hstep
      constructor <;> first | exact id | exact DmaChannel.enabled_of_moveByte
  constructor
  · intro htx
    rw [hsame.txStarted, hsame.txDescriptor0]
    exact h.tx (henabled.1 htx)
  · intro hrx
    rw [hsame.rxStarted, hsame.rxDescriptor]
    exact h.rx (henabled.2 hrx)

theorem Coherent.spiStep {event : SpiEvent} (h : Coherent slave)
    (hstep : spiStep peripheral slave event = some next) : Coherent next := by
  cases event with
  | prepare args csPin =>
    obtain rfl := Option.some.inj hstep
    exact h.prepare
  | interrupt intNo completeCallback =>
    obtain rfl := Option.some.inj hstep
    cases intNo with
    | csFallingEdge => exact h
    | csRisingEdge =>
      simp only [SpiSlave.rcpSpidrvSpiTransactionEndInterrupt]
      split
      all_goals exact ⟨Bool.noConfusion, Bool.noConfusion⟩
  | process =>
    obtain rfl := Option.some.inj hstep
    exact ⟨h.tx, h.rx⟩
  | disable =>
    obtain rfl := Option.some.inj hstep
    exact ⟨Bool.noConfusion, Bool.noConfusion⟩
  | transfer transfer => exact h.transferStep hstep

/-! ## Failed calls -/

theorem DmaChannel.stopTransfer_eq_self_iff {channel : DmaChannel} :
    channel.stopTransfer = channel ↔ channel.enabled = false := by
  constructor
  · intro hsame
    rw [← hsame]
    rfl
  · intro hdisabled
    rw [stopTransfer, ← hdisabled]

theorem unprepared_of_same {after : SpiSlave}
    (htxDescriptor0 : after.txDescriptor0 = slave.txDescriptor0)
    (htxDescriptor1 : after.txDescriptor1 = slave.txDescriptor1)
    (hrxDescriptor : after.rxDescriptor = slave.rxDescriptor)
    (htxDMACh : after.txDMACh = slave.txDMACh) (hrxDMACh : after.rxDMACh = slave.rxDMACh) :
    Unprepared peripheral slave after where
  txDescriptor0 := htxDescriptor0
  txDescriptor1 := htxDescriptor1
  rxDescriptor := hrxDescriptor
  txDMACh := htxDMACh
  rxDMACh := hrxDMACh
  reports hcoherent transfers final hrun := by
    have hsame := sameBuffers_of_exec hrun
    constructor
    · intro henabled
      rw [hsame.txStarted, htxDMACh, hcoherent.tx henabled, ← htxDescriptor0,
        ← hsame.txDescriptor0]
      rfl
    · intro henabled
      rw [hsame.rxStarted, hrxDMACh, hcoherent.rx henabled, ← hrxDescriptor,
        ← hsame.rxDescriptor]
      rfl

/-- What follows the first check changes nothing if there is no enabled channel to stop. -/
theorem unprepared_stopForPrepare_iff :
    Unprepared peripheral slave (slave.stopForPrepare peripheral args) ↔
      (args.aOutputBuf ≠ 0 → slave.txDMACh.enabled = false) ∧
        (args.aInputBuf ≠ 0 → slave.rxDMACh.enabled = false) := by
  have htx : (slave.stopForPrepare peripheral args).txDMACh = slave.txDMACh ↔
      (args.aOutputBuf ≠ 0 → slave.txDMACh.enabled = false) := by
    simp only [SpiSlave.stopForPrepare, ite_eq_right_iff, DmaChannel.stopTransfer_eq_self_iff]
  have hrx : (slave.stopForPrepare peripheral args).rxDMACh = slave.rxDMACh ↔
      (args.aInputBuf ≠ 0 → slave.rxDMACh.enabled = false) := by
    simp only [SpiSlave.stopForPrepare, ite_eq_right_iff, DmaChannel.stopTransfer_eq_self_iff]
  rw [← htx, ← hrx]
  constructor
  · exact fun h ↦ ⟨h.txDMACh, h.rxDMACh⟩
  · exact fun h ↦ unprepared_of_same rfl rfl rfl h.1 h.2

/-- What follows the second check changes nothing if moreover the descriptors are those of the new
buffers already. -/
theorem unprepared_setDescriptors_iff :
    Unprepared peripheral slave
        ((slave.stopForPrepare peripheral args).setDescriptors peripheral args) ↔
      Unprepared peripheral slave (slave.stopForPrepare peripheral args) ∧
        (args.aOutputBuf ≠ 0 →
          slave.txDescriptor0 = .ofBuffer args.aOutputBuf args.aOutputBufLen) ∧
        (args.aInputBuf ≠ 0 →
          slave.rxDescriptor = .ofBuffer args.aInputBuf args.aInputBufLen) := by
  have htx : ((slave.stopForPrepare peripheral args).setDescriptors peripheral args).txDescriptor0 =
      slave.txDescriptor0 ↔ (args.aOutputBuf ≠ 0 →
        slave.txDescriptor0 = .ofBuffer args.aOutputBuf args.aOutputBufLen) := by
    simp only [SpiSlave.setDescriptors, SpiSlave.stopForPrepare, ite_eq_right_iff]
    exact imp_congr_right fun _ ↦ eq_comm
  have hrx : ((slave.stopForPrepare peripheral args).setDescriptors peripheral args).rxDescriptor =
      slave.rxDescriptor ↔ (args.aInputBuf ≠ 0 →
        slave.rxDescriptor = .ofBuffer args.aInputBuf args.aInputBufLen) := by
    simp only [SpiSlave.setDescriptors, SpiSlave.stopForPrepare, ite_eq_right_iff]
    exact imp_congr_right fun _ ↦ eq_comm
  rw [← htx, ← hrx]
  constructor
  · intro h
    exact ⟨unprepared_of_same rfl rfl rfl h.txDMACh h.rxDMACh, h.txDescriptor0, h.rxDescriptor⟩
  · rintro ⟨hstop, htxDescriptor0, hrxDescriptor⟩
    exact unprepared_of_same htxDescriptor0 rfl hrxDescriptor hstop.txDMACh hstop.rxDMACh

theorem busyHarmless_iff (peripheral : Peripheral) :
    BusyHarmless slave args csPin ↔
      Unprepared peripheral slave (slave.stopForPrepare peripheral args) ∧
        (csPin.second = true → Unprepared peripheral slave
          ((slave.stopForPrepare peripheral args).setDescriptors peripheral args)) := by
  rw [unprepared_setDescriptors_iff, unprepared_stopForPrepare_iff]
  constructor
  · rintro ⟨htx, hrx⟩
    refine ⟨⟨fun houtput ↦ (htx houtput).1, fun hinput ↦ (hrx hinput).1⟩, fun hsecond ↦ ?_⟩
    refine ⟨⟨fun houtput ↦ (htx houtput).1, fun hinput ↦ (hrx hinput).1⟩, ?_, ?_⟩
    · exact fun houtput ↦ (htx houtput).2 hsecond
    · exact fun hinput ↦ (hrx hinput).2 hsecond
  · rintro ⟨⟨htx, hrx⟩, hset⟩
    exact ⟨fun houtput ↦ ⟨htx houtput, fun hsecond ↦ (hset hsecond).2.1 houtput⟩,
      fun hinput ↦ ⟨hrx hinput, fun hsecond ↦ (hset hsecond).2.2 hinput⟩⟩

/-- In any state, a failed call changes nothing exactly if an `OT_ERROR_BUSY` behind the first check
is harmless. -/
theorem unprepared_iff (peripheral : Peripheral) (slave : SpiSlave) (args : PrepareArgs)
    (csPin : CsPin) :
    ((slave.otPlatSpiSlavePrepareTransaction peripheral args csPin).1 ≠ .none →
      Unprepared peripheral slave
        (slave.otPlatSpiSlavePrepareTransaction peripheral args csPin).2) ↔
    (LateBusy args csPin → BusyHarmless slave args csPin) := by
  have hsame : Unprepared peripheral slave slave := unprepared_of_same rfl rfl rfl rfl rfl
  rw [busyHarmless_iff peripheral, SpiSlave.otPlatSpiSlavePrepareTransaction_eq,
    LateBusy]
  by_cases hfit : args.Fit
  case neg => simp [hfit, hsame]
  cases hfirst : csPin.first with
  | false => simp [hfit, hsame]
  | true =>
    cases hsecond : csPin.second with
    | false => simp [hfit]
    | true =>
      cases hthird : csPin.third with
      | true => simp [hfit]
      | false =>
        simp only [hfit, not_true_eq_false, if_false, if_true, Bool.true_eq_false, reduceCtorEq,
          ne_eq, not_false_eq_true, true_implies, and_self, or_true]
        exact ⟨fun h ↦ ⟨(unprepared_setDescriptors_iff.mp h).1, h⟩, And.right⟩

/-- Both drivers, in any state; the states that a driver can reach are coherent. -/
theorem prepareTransaction_atomic_iff (peripheral : Peripheral) :
    (∀ slave args csPin,
      ((slave.otPlatSpiSlavePrepareTransaction peripheral args csPin).1 ≠ .none →
        Unprepared peripheral slave
          (slave.otPlatSpiSlavePrepareTransaction peripheral args csPin).2) ↔
      (LateBusy args csPin → BusyHarmless slave args csPin)) ∧
    ∀ defaultTxValue events slave,
      exec (spiStep peripheral) (otPlatSpiSlaveEnable defaultTxValue) events = some slave →
        Coherent slave := by
  refine ⟨unprepared_iff peripheral, fun defaultTxValue events slave hrun ↦ ?_⟩
  exact exec_inv (fun slave event next (hcoherent : Coherent slave) hstep ↦ hcoherent.spiStep hstep)
    (coherent_otPlatSpiSlaveEnable defaultTxValue) hrun

/-- Buffers are prepared, and a call with other ones sees the chip select fall at its last check. -/
theorem not_unprepared_lateBusy :
    ¬ ∀ peripheral slave args csPin,
      (SpiSlave.otPlatSpiSlavePrepareTransaction slave peripheral args csPin).1 ≠ .none →
        Unprepared peripheral slave
          (slave.otPlatSpiSlavePrepareTransaction peripheral args csPin).2 := by
  intro h
  have hunprepared := h .eusart
    ((otPlatSpiSlaveEnable 4).otPlatSpiSlavePrepareTransaction .eusart
      ⟨1000, 3, 2000, 3, true⟩ ⟨true, true, true⟩).2
    ⟨3000, 5, 4000, 5, true⟩ ⟨true, true, false⟩ (by decide)
  exact absurd hunprepared.txDescriptor0 (by decide)

end OtEfr32.Spi
