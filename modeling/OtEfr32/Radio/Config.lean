import Mathlib.Data.Int.Notation
import Mathlib.Data.Nat.Notation

/-!
# Build configuration of the radio driver

The preprocessor switches, constants and platform hooks that the modelled part of `radio.c` depends
on.  The build has no coexistence, no power calibration, no fast channel switching and no CSL
receiver.  An instance is named by its iid.
-/

namespace OtEfr32.Radio

/-- The configuration of a build.  RAIL has three PAN indices, so there are at most three
instances. -/
structure Config where
  /-- `OPENTHREAD_CONFIG_MULTIPAN_RCP_ENABLE`. -/
  multipan : Bool
  /-- `OPENTHREAD_CONFIG_MULTIPLE_INSTANCE_NUM`. -/
  multipleInstanceNum : ℕ := 1
  multipleInstanceNum_le : multipleInstanceNum ≤ 3 := by decide
  /-- `sl_ot_rtos_task_can_access_pal()`. -/
  canAccessPal : Bool := true
  /-- `SL_CHANNEL_MIN`. -/
  channelMin : ℕ := 11
  /-- `SL_CHANNEL_MAX`. -/
  channelMax : ℕ := 26
  /-- `SL_OPENTHREAD_RADIO_RX_BUFFER_COUNT`. -/
  rxBufferCount : ℕ := 16
  /-- `OPENTHREAD_CONFIG_DEFAULT_TRANSMIT_POWER`. -/
  defaultTransmitPower : ℤ := 0
  /-- An `int8_t`. -/
  defaultTransmitPower_le : defaultTransmitPower ≤ 127 := by decide
  /-- `efr32GetSymbolDurationUs()`. -/
  symbolDurationUs : ℕ := 16
  /-- `SL_OPENTHREAD_RSSI_AVERAGING_TIME`. -/
  rssiAveragingTime : ℕ := 128
  /-- `SL_802154_RADIO_PRIO_TX_MIN`. -/
  radioPrioTxMin : ℕ := 255
  /-- `SL_802154_RADIO_PRIO_TX_STEP`. -/
  radioPrioTxStep : ℕ := 1
  /-- `SL_802154_RADIO_PRIO_TX_MAX`. -/
  radioPrioTxMax : ℕ := 0
  /-- `otPlatMultipanIidToInstance` gives an instance other than `NULL` for the iid. -/
  iidHasInstance : ℕ → Bool := fun _ ↦ true
  /-- `sl_gp_intf_is_gp_pkt`, on the PSDU of a received frame. -/
  slGpIntfIsGpPkt : List ℕ → Bool := fun _ ↦ false

/-- A single-PAN build. -/
def Config.singlePan : Config := { multipan := false }

/-- A multipan build for two hosts. -/
def Config.twoHosts : Config := { multipan := true, multipleInstanceNum := 2 }

/-- `RADIO_INTERFACE_COUNT`. -/
def Config.radioInterfaceCount (config : Config) : ℕ :=
  if config.multipan then config.multipleInstanceNum + 1 else 1

/-- `RADIO_REQUEST_BUFFER_COUNT`. -/
def Config.radioRequestBufferCount (config : Config) : ℕ :=
  if config.multipan then config.multipleInstanceNum else 1

/-- The iids for which `efr32GetIidFromInstance` is called: the API functions are called for an
instance, which has iid 0 in a single-PAN build and one of the iids from 1 on in a multipan
build. -/
def Config.isIid (config : Config) (iid : ℕ) : Bool :=
  if config.multipan then 1 ≤ iid && iid < config.radioInterfaceCount else iid == 0

/-- `efr32GetPanIndexFromIid`, with `none` for `INVALID_INTERFACE_INDEX`. -/
def Config.efr32GetPanIndexFromIid (config : Config) (iid : ℕ) : Option ℕ :=
  if config.multipan then
    if iid < config.radioInterfaceCount && iid != 0 then some (iid - 1) else none
  else some iid

/-- The index in `sTransmitBuffer` of the transmit buffer of an instance: index 0 is that of
iid 1, since iid 0 is reserved for broadcast. -/
def txBufIndex (iid : ℕ) : ℕ := if iid = 0 then 0 else iid - 1

/-- `RADIO_BCAST_IID`. -/
def radioBcastIid : ℕ := 0

theorem Config.isIid_multipan {config : Config} {iid : ℕ} (hmultipan : config.multipan = true) :
    config.isIid iid = true ↔ 1 ≤ iid ∧ iid ≤ config.multipleInstanceNum := by
  simp only [Config.isIid, Config.radioInterfaceCount, hmultipan, if_true, Bool.and_eq_true,
    decide_eq_true_eq]
  omega

theorem Config.isIid_single {config : Config} {iid : ℕ} (hmultipan : config.multipan = false) :
    config.isIid iid = true ↔ iid = 0 := by
  simp [Config.isIid, hmultipan]

theorem Config.txBufIndex_lt (config : Config) {iid : ℕ} (hiid : config.isIid iid = true) :
    txBufIndex iid < config.radioRequestBufferCount := by
  cases hmultipan : config.multipan with
  | true =>
    have := (Config.isIid_multipan hmultipan).mp hiid
    simp only [txBufIndex, Config.radioRequestBufferCount, hmultipan, ↓reduceIte]
    split <;> omega
  | false =>
    obtain rfl := (Config.isIid_single hmultipan).mp hiid
    simp [txBufIndex, Config.radioRequestBufferCount, hmultipan]

/-- Distinct instances have distinct transmit buffers. -/
theorem Config.txBufIndex_inj (config : Config) {iid iid' : ℕ} (hiid : config.isIid iid = true)
    (hiid' : config.isIid iid' = true) (hindex : txBufIndex iid = txBufIndex iid') :
    iid = iid' := by
  cases hmultipan : config.multipan with
  | true =>
    have := (Config.isIid_multipan hmultipan).mp hiid
    have := (Config.isIid_multipan hmultipan).mp hiid'
    unfold txBufIndex at hindex
    split at hindex <;> split at hindex <;> omega
  | false =>
    rw [(Config.isIid_single hmultipan).mp hiid, (Config.isIid_single hmultipan).mp hiid']

theorem Config.iid_inRange (config : Config) {iid : ℕ} (hiid : config.isIid iid = true) :
    (!config.multipan ||
      (iid != radioBcastIid && decide (iid < config.radioInterfaceCount))) = true := by
  cases hmultipan : config.multipan with
  | true =>
    have := (Config.isIid_multipan hmultipan).mp hiid
    simp only [radioBcastIid, Config.radioInterfaceCount, hmultipan, Bool.not_true, Bool.false_or,
      bne_iff_ne, Bool.and_eq_true, decide_eq_true_eq, ↓reduceIte]
    omega
  | false => rfl

/-- `INVALID_INTERFACE_INDEX`. -/
def invalidInterfaceIndex : ℕ := 0xFF

/-- `SL_INVALID_TX_POWER`. -/
def invalidTxPower : ℤ := 127

/-- `OT_RADIO_RSSI_INVALID`. -/
def otRadioRssiInvalid : ℤ := 127

/-- `efr32RadioGetBandConfig` finds a configuration: the channel is in the one band. -/
def Config.hasBandConfig (config : Config) (aChannel : ℕ) : Bool :=
  config.channelMin ≤ aChannel && aChannel ≤ config.channelMax

/-- What RAIL answers to the calls that a step makes; `true` is `SL_RAIL_STATUS_NO_ERROR`. -/
structure RailResults where
  /-- `sl_rail_config_rx_options` in `efr32StartEnergyScan`. -/
  configRxOptions : Bool := true
  /-- `sl_rail_start_rx`, or `sl_rail_start_scheduled_rx`. -/
  startRx : Bool := true
  /-- `sl_rail_set_multi_timer`. -/
  setMultiTimer : Bool := true
  /-- The call that starts a transmission. -/
  startTx : Bool := true
  deriving DecidableEq, Repr

end OtEfr32.Radio
