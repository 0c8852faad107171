import OtEfr32.Spi.Driver
import Mathlib.Data.List.Count

/-!
# The length of a transaction

The length that is reported for a transaction should be the number of bytes that the host has
shifted out.  The registers of the DMA channel tell how many bytes have been pushed to the transmit
fifo, so the bytes that are left in the fifo are to be subtracted.  The driver of the USART does so.
The driver of the EUSART clears the fifo before it reads its level, and reports what was pushed.
-/

namespace OtEfr32.Spi

open Transition

variable {peripheral : Peripheral} {slave next : SpiSlave} {n p s : ℕ}

/-- The registers of the transmit channel after `p` of `n` bytes and the default values have been
pushed. -/
structure Pushed (n p : ℕ) (slave : SpiSlave) : Prop where
  first : slave.txDescriptor0.xferCnt.toNat + 1 = n
  second : slave.txDescriptor1.xferCnt.toNat = 2047
  enabled : slave.txDMACh.enabled = true
  link : slave.txDMACh.link = decide (p < n)
  xferCnt : slave.txDMACh.xferCnt.toNat + 1 + p = if p < n then n else n + 2048

/-- The transaction has pushed `p` bytes and shifted out `s` of them. -/
structure Clocked (n p s : ℕ) (slave : SpiSlave) : Prop extends Pushed n p slave where
  txFifo : slave.fifos.tx + s = p

/-! ## The registers -/

theorem Pushed.moveByte (h : Pushed n p slave) (hroom : p + 1 < n + 2048) (fifos : Fifos) :
    Pushed n (p + 1)
      { slave with txDMACh := slave.txDMACh.moveByte slave.txDescriptor1, fifos } := by
  have hxferCnt := h.xferCnt
  have hlink := h.link
  by_cases hlast : slave.txDMACh.xferCnt = 0
  · -- The last byte of the first descriptor, or the transfer would have been done before.
    have hzero : slave.txDMACh.xferCnt.toNat = 0 := by rw [hlast]; rfl
    have hn : p + 1 = n := by
      split at hxferCnt <;> omega
    rw [decide_eq_true (by omega : p < n)] at hlink
    rw [DmaChannel.moveByte, if_neg (not_not.mpr hlast), if_pos hlink]
    refine ⟨h.first, h.second, h.enabled, ?_, ?_⟩
    · exact (decide_eq_false (by omega)).symm
    · rw [if_neg (by omega)]
      change slave.txDescriptor1.xferCnt.toNat + 1 + (p + 1) = n + 2048
      rw [h.second]
      omega
  · have hpos : slave.txDMACh.xferCnt.toNat ≠ 0 := by
      exact fun hzero ↦ hlast (BitVec.eq_of_toNat_eq hzero)
    have hpred : (slave.txDMACh.xferCnt - 1).toNat = slave.txDMACh.xferCnt.toNat - 1 := by
      have hlt := slave.txDMACh.xferCnt.isLt
      rw [BitVec.toNat_sub]
      change (2 ^ 11 - 1 + slave.txDMACh.xferCnt.toNat) % 2 ^ 11 = _
      omega
    have hsame : p + 1 < n ↔ p < n := by
      split at hxferCnt <;> omega
    rw [DmaChannel.moveByte, if_pos hlast]
    refine ⟨h.first, h.second, h.enabled, ?_, ?_⟩
    · simp only [hlink, hsame]
    · simp only [hpred, hsame]
      omega

/-- Of the bytes of a transaction, those that the step pushes and shifts out. -/
theorem Clocked.step (h : Clocked n p s slave) {transfer : Transfer}
    (hstep : transferStep slave transfer = some next)
    (hroom : p + [transfer].count .push < n + 2048) :
    Clocked n (p + [transfer].count .push) (s + [transfer].count .shiftOut) next := by
  have htxFifo := h.txFifo
  cases transfer with
  | push =>
    obtain rfl := Option.some.inj ((if_pos h.enabled).symm.trans hstep)
    refine ⟨h.toPushed.moveByte hroom _, ?_⟩
    change slave.fifos.tx + 1 + (s + 0) = p + 1
    omega
  | shiftOut =>
    simp only [transferStep, Option.ite_none_right_eq_some, Option.some.injEq] at hstep
    obtain ⟨hready, rfl⟩ := hstep
    refine ⟨⟨h.first, h.second, h.enabled, h.link, h.xferCnt⟩, ?_⟩
    change slave.fifos.tx - 1 + (s + 1) = p + 0
    omega
  | shiftIn =>
    obtain rfl := Option.some.inj hstep
    exact ⟨⟨h.first, h.second, h.enabled, h.link, h.xferCnt⟩, h.txFifo⟩
  | pull =>
    simp only [transferStep, Option.ite_none_right_eq_some, Option.some.injEq] at hstep
    obtain ⟨-, rfl⟩ := hstep
    exact ⟨⟨h.first, h.second, h.enabled, h.link, h.xferCnt⟩, h.txFifo⟩

theorem Clocked.run {transfers : List Transfer} (h : Clocked n p s slave)
    (hrun : exec transferStep slave transfers = some next)
    (hroom : p + transfers.count .push < n + 2048) :
    Clocked n (p + transfers.count .push) (s + transfers.count .shiftOut) next := by
  induction transfers generalizing slave p s with
  | nil =>
    obtain rfl := Option.some.inj hrun
    exact h
  | cons transfer transfers ih =>
    obtain ⟨middle, hmiddle, hrest⟩ := (exec_cons_eq_some _).mp hrun
    have hsplit (kind : Transfer) : (transfer :: transfers).count kind =
        [transfer].count kind + transfers.count kind := by
      rw [← List.count_append, List.singleton_append]
    rw [hsplit, ← Nat.add_assoc] at hroom ⊢
    rw [hsplit, ← Nat.add_assoc]
    exact ih (h.step hmiddle (by omega)) hrest hroom

/-! ## The length -/

theorem toNat_ofNat_xferCnt (xferCnt : BitVec 11) :
    (UInt32.ofNat xferCnt.toNat).toNat = xferCnt.toNat := by
  have hlt := xferCnt.isLt
  rw [UInt32.toNat_ofNat']
  omega

theorem Pushed.remaining (h : Pushed n p slave) (hfifo : slave.fifos.tx ≤ p)
    (hroom : p < n + 2048) :
    slave.txDmaChannelRemainingXfercnt.toNat =
      slave.txDMACh.xferCnt.toNat + 1 + slave.fifos.tx := by
  have hlt := slave.txDMACh.xferCnt.isLt
  have hfirst := slave.txDescriptor0.xferCnt.isLt
  have hn := h.first
  have hsmall : slave.fifos.tx < 2 ^ 32 := by omega
  rw [SpiSlave.txDmaChannelRemainingXfercnt, UInt32.toNat_add, UInt32.toNat_add,
    toNat_ofNat_xferCnt, UInt32.toNat_ofNat', Nat.mod_eq_of_lt hsmall, UInt32.toNat_one]
  omega

/-- The reported length is that of the bytes which have left the fifo as it is read. -/
theorem Pushed.txTransactionSize (h : Pushed n p slave) (hfifo : slave.fifos.tx ≤ p)
    (hroom : p < n + 2048) : slave.txTransactionSize.toNat = p - slave.fifos.tx := by
  have hremaining := h.remaining hfifo hroom
  have hfirst := h.first
  have hsecond := h.second
  have hxferCnt := h.xferCnt
  have hlink := h.link
  have hlt := slave.txDescriptor0.xferCnt.isLt
  simp only [SpiSlave.txTransactionSize]
  by_cases hp : p < n
  · rw [decide_eq_true hp] at hlink
    rw [if_pos hp] at hxferCnt
    rw [if_neg (by simp [hlink]), UInt32.toNat_add, UInt32.toNat_sub, hremaining,
      toNat_ofNat_xferCnt, UInt32.toNat_one]
    omega
  · rw [decide_eq_false hp] at hlink
    rw [if_neg hp] at hxferCnt
    rw [if_pos hlink, UInt32.toNat_add, UInt32.toNat_sub, UInt32.toNat_add, UInt32.toNat_add,
      hremaining, toNat_ofNat_xferCnt, toNat_ofNat_xferCnt, UInt32.toNat_one]
    omega

theorem Pushed.noUnderflow_iff (h : Pushed n p slave) (hfifo : slave.fifos.tx ≤ p)
    (hroom : p < n + 2048) :
    slave.NoUnderflow ↔ slave.fifos.tx + (if p < n then 1 else n) ≤ p := by
  have hremaining := h.remaining hfifo hroom
  have hfirst := h.first
  have hsecond := h.second
  have hxferCnt := h.xferCnt
  have hlink := h.link
  have hlt := slave.txDescriptor0.xferCnt.isLt
  simp only [SpiSlave.NoUnderflow]
  by_cases hp : p < n
  · rw [decide_eq_true hp] at hlink
    rw [if_pos hp] at hxferCnt ⊢
    rw [if_neg (by simp [hlink]), UInt32.le_iff_toNat_le, hremaining, toNat_ofNat_xferCnt]
    omega
  · rw [decide_eq_false hp] at hlink
    rw [if_neg hp] at hxferCnt ⊢
    rw [if_pos hlink, UInt32.le_iff_toNat_le, UInt32.toNat_add, hremaining, toNat_ofNat_xferCnt,
      UInt32.toNat_one]
    omega

/-! ## The end of a transaction -/

/-- The length that `complete_callback` gets is that of the bytes shifted out. -/
def ReportsLength (peripheral : Peripheral) (s : ℕ) (slave : SpiSlave) : Prop :=
  (slave.transactionEnd peripheral).completeArgs.txTransactionSize.toNat = s

/-- The registers as the length is computed. -/
theorem Pushed.transactionEnd_registers (h : Pushed n p slave) (peripheral : Peripheral) :
    (slave.transactionEnd peripheral).txTransactionSize =
        { slave with fifos := slave.fifos.clearAtEnd peripheral }.txTransactionSize ∧
      ((slave.transactionEnd peripheral).NoUnderflow ↔
        { slave with fifos := slave.fifos.clearAtEnd peripheral }.NoUnderflow) ∧
      Pushed n p { slave with fifos := slave.fifos.clearAtEnd peripheral } :=
  ⟨rfl, Iff.rfl, h.first, h.second, h.enabled, h.link, h.xferCnt⟩

/-- The driver of the USART reports what has been shifted out. -/
theorem Clocked.reportsLength_usart (h : Clocked n p s slave) (hroom : p < n + 2048) :
    ReportsLength .usart s slave ∧
      ((slave.transactionEnd .usart).NoUnderflow ↔ (if p < n then 1 else n) ≤ s) := by
  have htxFifo := h.txFifo
  obtain ⟨hsize, hunderflow, hpushed⟩ := h.transactionEnd_registers .usart
  have hfifo : (slave.fifos.clearAtEnd .usart).tx ≤ p := by
    rw [Fifos.tx_clearAtEnd_usart]
    omega
  constructor
  · change (slave.transactionEnd .usart).txTransactionSize.toNat = s
    rw [hsize, hpushed.txTransactionSize hfifo hroom, Fifos.tx_clearAtEnd_usart]
    omega
  · rw [hunderflow, hpushed.noUnderflow_iff hfifo hroom, Fifos.tx_clearAtEnd_usart]
    omega

/-- The driver of the EUSART reports what has been pushed. -/
theorem Clocked.reportsLength_eusart (h : Clocked n p s slave) (hroom : p < n + 2048) :
    ReportsLength .eusart p slave ∧
      ((slave.transactionEnd .eusart).NoUnderflow ↔ (if p < n then 1 else n) ≤ p) := by
  obtain ⟨hsize, hunderflow, hpushed⟩ := h.transactionEnd_registers .eusart
  have hfifo : (slave.fifos.clearAtEnd .eusart).tx ≤ p := by
    rw [Fifos.tx_clearAtEnd_eusart]
    exact Nat.zero_le p
  constructor
  · change (slave.transactionEnd .eusart).txTransactionSize.toNat = p
    rw [hsize, hpushed.txTransactionSize hfifo hroom, Fifos.tx_clearAtEnd_eusart, Nat.sub_zero]
  · rw [hunderflow, hpushed.noUnderflow_iff hfifo hroom, Fifos.tx_clearAtEnd_eusart, Nat.zero_add]

/-! ## Runs -/

theorem Descriptor.xferCnt_ofBuffer {aBuf : UInt32} {aBufLen : UInt16} (hpos : aBufLen ≠ 0)
    (hfit : aBufLen ≤ maxDmaDescriptorTransferCount) :
    (Descriptor.ofBuffer aBuf aBufLen).xferCnt.toNat + 1 = aBufLen.toNat := by
  have hle : aBufLen.toNat ≤ 2048 := UInt16.le_iff_toNat_le.mp hfit
  have hne : aBufLen.toNat ≠ 0 := fun hzero ↦ hpos (UInt16.toNat_inj.mp hzero)
  change (BitVec.ofNat 11 aBufLen.toNat - 1).toNat + 1 = aBufLen.toNat
  rw [BitVec.toNat_sub, BitVec.toNat_ofNat]
  change (2 ^ 11 - 1 + aBufLen.toNat % 2 ^ 11) % 2 ^ 11 + 1 = aBufLen.toNat
  omega

theorem txDescriptor1_transferStep {transfer : Transfer}
    (hstep : transferStep slave transfer = some next) :
    next.txDescriptor1 = slave.txDescriptor1 := by
  cases transfer with
  | shiftIn =>
    obtain rfl := Option.some.inj hstep
    rfl
  | push | shiftOut | pull =>
    simp only [transferStep, Option.ite_none_right_eq_some, Option.some.injEq] at hstep
    obtain ⟨-, rfl⟩ := hstep
    rfl

/-- The second descriptor is never rewritten. -/
theorem txDescriptor1_spiStep {event : SpiEvent}
    (hstep : spiStep peripheral slave event = some next) :
    next.txDescriptor1 = slave.txDescriptor1 := by
  cases event with
  | prepare args csPin =>
    obtain rfl := Option.some.inj hstep
    rw [SpiSlave.otPlatSpiSlavePrepareTransaction_eq]
    repeat' split
    all_goals rfl
  | interrupt intNo completeCallback =>
    obtain rfl := Option.some.inj hstep
    cases intNo with
    | csFallingEdge => rfl
    | csRisingEdge =>
      simp only [SpiSlave.rcpSpidrvSpiTransactionEndInterrupt]
      split <;> rfl
  | process =>
    obtain rfl := Option.some.inj hstep
    rfl
  | disable =>
    obtain rfl := Option.some.inj hstep
    rfl
  | transfer transfer => exact txDescriptor1_transferStep hstep

/-- A transaction: at some time after the initialization `args` are prepared, and then the hardware
moves the bytes of `transfers`. -/
def Transaction (peripheral : Peripheral) (args : PrepareArgs) (transfers : List Transfer)
    (final : SpiSlave) : Prop :=
  ∃ defaultTxValue events slave csPin prepared,
    exec (spiStep peripheral) (otPlatSpiSlaveEnable defaultTxValue) events = some slave ∧
      slave.otPlatSpiSlavePrepareTransaction peripheral args csPin = (.none, prepared) ∧
      exec transferStep prepared transfers = some final

theorem Transaction.clocked {args : PrepareArgs} {transfers : List Transfer}
    (hbuffer : args.aOutputBuf ≠ 0) (hlength : args.aOutputBufLen ≠ 0)
    (hpushed : transfers.count .push < args.aOutputBufLen.toNat + 2048)
    (h : Transaction peripheral args transfers slave) :
    Clocked args.aOutputBufLen.toNat (transfers.count .push) (transfers.count .shiftOut) slave := by
  obtain ⟨defaultTxValue, events, before, csPin, prepared, hevents, hprepare, hrun⟩ := h
  have hkeep (slave : SpiSlave) (event : SpiEvent) (next : SpiSlave)
      (hslave : slave.txDescriptor1 = .ofBuffer defaultTxValue maxDmaDescriptorTransferCount)
      (hstep : spiStep peripheral slave event = some next) :
      next.txDescriptor1 = .ofBuffer defaultTxValue maxDmaDescriptorTransferCount :=
    (txDescriptor1_spiStep hstep).trans hslave
  have hsecond : before.txDescriptor1 = .ofBuffer defaultTxValue maxDmaDescriptorTransferCount :=
    exec_inv hkeep rfl hevents
  obtain ⟨hfit, hprepared⟩ := SpiSlave.otPlatSpiSlavePrepareTransaction_eq_none _ hprepare
  have hfirst : (Descriptor.ofBuffer args.aOutputBuf args.aOutputBufLen).xferCnt.toNat + 1 =
      args.aOutputBufLen.toNat := Descriptor.xferCnt_ofBuffer hlength hfit.1
  have hpos : 0 < args.aOutputBufLen.toNat := by omega
  have hclocked : Clocked args.aOutputBufLen.toNat 0 0 prepared := by
    rw [← hprepared]
    simp only [SpiSlave.startForPrepare, SpiSlave.setDescriptors, SpiSlave.stopForPrepare,
      if_pos hbuffer]
    refine ⟨⟨hfirst, ?_, rfl, (decide_eq_true hpos).symm, ?_⟩, ?_⟩
    · change before.txDescriptor1.xferCnt.toNat = 2047
      rw [hsecond]
      rfl
    · rw [if_pos hpos]
      exact hfirst
    · exact Fifos.tx_clearTx _ _
  have hfinal := hclocked.run hrun (by omega)
  rwa [Nat.zero_add, Nat.zero_add] at hfinal

/-- Both drivers report what has been shifted out exactly if nothing of what has been pushed is left
in the fifo, and without a subtraction that wraps if moreover something has been shifted out. -/
theorem reportsLength_iff {args : PrepareArgs} {transfers : List Transfer}
    {final : Peripheral → SpiSlave} (hbuffer : args.aOutputBuf ≠ 0)
    (hlength : args.aOutputBufLen ≠ 0)
    (hpushed : transfers.count .push < args.aOutputBufLen.toNat + 2048)
    (hrun : ∀ peripheral, Transaction peripheral args transfers (final peripheral)) :
    ((∀ peripheral,
        ReportsLength peripheral (transfers.count .shiftOut) (final peripheral)) ↔
      transfers.count .push = transfers.count .shiftOut) ∧
    ((∀ peripheral,
        ReportsLength peripheral (transfers.count .shiftOut) (final peripheral) ∧
          ((final peripheral).transactionEnd peripheral).NoUnderflow) ↔
      transfers.count .push = transfers.count .shiftOut ∧ transfers.count .shiftOut ≠ 0) := by
  have hclocked (peripheral : Peripheral) := (hrun peripheral).clocked hbuffer hlength hpushed
  obtain ⟨husart, husartUnderflow⟩ := (hclocked .usart).reportsLength_usart hpushed
  obtain ⟨heusart, heusartUnderflow⟩ := (hclocked .eusart).reportsLength_eusart hpushed
  have hlengths : (∀ peripheral,
      ReportsLength peripheral (transfers.count .shiftOut) (final peripheral)) ↔
        transfers.count .push = transfers.count .shiftOut := by
    constructor
    · intro h
      exact Eq.trans heusart.symm (h .eusart)
    · intro hempty peripheral
      cases peripheral with
      | usart => exact husart
      | eusart => exact hempty ▸ heusart
  refine ⟨hlengths, ?_⟩
  have hpos : 0 < args.aOutputBufLen.toNat :=
    Nat.pos_of_ne_zero fun hzero ↦ hlength (UInt16.toNat_inj.mp hzero)
  constructor
  · intro h
    have hempty := hlengths.mp fun peripheral ↦ (h peripheral).1
    refine ⟨hempty, ?_⟩
    have hunderflow := husartUnderflow.mp (h .usart).2
    split at hunderflow <;> omega
  · rintro ⟨hempty, hne⟩ peripheral
    refine ⟨hlengths.mpr hempty peripheral, ?_⟩
    cases peripheral with
    | usart => exact husartUnderflow.mpr (by split <;> omega)
    | eusart => exact heusartUnderflow.mpr (by split <;> omega)

/-- The state after three bytes have been prepared and some are moved. -/
def clockedSlave (transfers : List Transfer) (peripheral : Peripheral) : Option SpiSlave :=
  exec transferStep
    ((otPlatSpiSlaveEnable 4).otPlatSpiSlavePrepareTransaction peripheral ⟨1000, 3, 0, 0, true⟩
      ⟨true, true, true⟩).2 transfers

theorem transaction_clockedSlave {transfers : List Transfer} {final : SpiSlave}
    (hrun : clockedSlave transfers peripheral = some final) :
    Transaction peripheral ⟨1000, 3, 0, 0, true⟩ transfers final :=
  ⟨4, [], _, ⟨true, true, true⟩, _, rfl, rfl, hrun⟩

/-- Where one byte is pushed and shifted out, both drivers report it. -/
theorem reportsLength_iff_emptyFifo :
    ReportsLength .usart 1
        ((clockedSlave [.push, .shiftOut] .usart).getD (otPlatSpiSlaveEnable 4)) ∧
      ReportsLength .eusart 1
        ((clockedSlave [.push, .shiftOut] .eusart).getD (otPlatSpiSlaveEnable 4)) := by
  have hreports := (@reportsLength_iff ⟨1000, 3, 0, 0, true⟩ [.push, .shiftOut]
    (fun peripheral ↦ (clockedSlave [.push, .shiftOut] peripheral).getD (otPlatSpiSlaveEnable 4))
    (by decide) (by decide) (by decide)
    fun peripheral ↦ transaction_clockedSlave (by cases peripheral <;> rfl)).1.mpr rfl
  exact ⟨hreports .usart, hreports .eusart⟩

/-- Two bytes are pushed and one is shifted out: the driver of the EUSART reports two. -/
theorem not_reportsLength_byteLeft :
    ¬ ∀ peripheral final, Transaction peripheral ⟨1000, 3, 0, 0, true⟩
      [.push, .push, .shiftOut] final → ReportsLength peripheral 1 final := by
  intro h
  have hreports := h .eusart _ (transaction_clockedSlave rfl)
  exact absurd hreports (by unfold ReportsLength; decide)

end OtEfr32.Spi
