import Mathlib.Data.Int.Order.Basic
import Mathlib.Order.MinMax
import OtEfr32.Platform.Error
import OtEfr32.Radio.Config

/-!
# Power manager

`radio_power_manager.c`: the table of the maximum power of each interface on each channel, the
default power of each interface, and the power that the driver derives from them for a channel.
-/

namespace OtEfr32.Radio

/-- The tables of the power manager, and the power that RAIL was last given. -/
structure PowerManager where
  /-- `sli_max_channel_power`, with channels in place of their distance from `SL_CHANNEL_MIN`. -/
  sliMaxChannelPower : ℕ → ℕ → ℤ := fun _ _ ↦ invalidTxPower
  /-- `sli_default_tx_power`. -/
  sliDefaultTxPower : ℕ → ℤ := fun _ ↦ invalidTxPower
  /-- The power of the last `sli_set_tx_power_in_rail`, in dBm. -/
  txPowerInRail : ℤ

namespace PowerManager

variable (power : PowerManager)

/-- The new `*default_tx_power` of `sli_get_default_and_max_powers_across_iids`, when an interface
has the default power `sliDefaultTxPower`. -/
def mergeDefaultTxPower (defaultTxPower sliDefaultTxPower : ℤ) : ℤ :=
  if sliDefaultTxPower ≠ invalidTxPower then
    if defaultTxPower = invalidTxPower then sliDefaultTxPower
    else max defaultTxPower sliDefaultTxPower
  else defaultTxPower

/-- One turn of the loop of `sli_get_default_and_max_powers_across_iids`, on
`(*default_tx_power, *tx_power_from_table)`. -/
def mergePowersOfIid (channel : ℕ) (powers : ℤ × ℤ) (iid : ℕ) : ℤ × ℤ :=
  (mergeDefaultTxPower powers.1 (power.sliDefaultTxPower iid),
    min powers.2 (power.sliMaxChannelPower iid channel))

/-- `sli_get_default_and_max_powers_across_iids`. -/
def sliGetDefaultAndMaxPowersAcrossIids (config : Config) (channel : ℕ) : ℤ × ℤ :=
  (List.range config.radioInterfaceCount).foldl (power.mergePowersOfIid channel)
    (invalidTxPower, invalidTxPower)

/-- `sli_get_max_tx_power_across_iids`. -/
def sliGetMaxTxPowerAcrossIids (config : Config) (channel : ℕ) : ℤ :=
  let powers := power.sliGetDefaultAndMaxPowersAcrossIids config channel
  let selectedTxPower := min powers.2 powers.1
  if selectedTxPower = invalidTxPower then config.defaultTransmitPower else selectedTxPower

/-- The maximum power of each interface for a channel. -/
def maxPowers (config : Config) (channel : ℕ) : List ℤ :=
  (List.range config.radioInterfaceCount).map fun iid ↦ power.sliMaxChannelPower iid channel

/-- `sli_set_tx_power_in_rail`. -/
def sliSetTxPowerInRail (powerInDbm : ℤ) : PowerManager :=
  { power with txPowerInRail := powerInDbm }

/-- `sli_set_channel_max_tx_power`, while RAIL is on `railChannel`. -/
def sliSetChannelMaxTxPower (config : Config) (railChannel iid channel : ℕ) (maxPower : ℤ) :
    OtError × PowerManager :=
  if config.channelMin ≤ channel ∧ channel ≤ config.channelMax then
    let power := { power with
      sliMaxChannelPower := Function.update power.sliMaxChannelPower iid
        (Function.update (power.sliMaxChannelPower iid) channel maxPower) }
    (.none, power.sliSetTxPowerInRail (power.sliGetMaxTxPowerAcrossIids config railChannel))
  else (.invalidArgs, power)

/-- `sli_set_default_tx_power`, while RAIL is on `railChannel`. -/
def sliSetDefaultTxPower (config : Config) (railChannel iid : ℕ) (txPower : ℤ) : PowerManager :=
  let power := { power with
    sliDefaultTxPower := Function.update power.sliDefaultTxPower iid txPower }
  power.sliSetTxPowerInRail (power.sliGetMaxTxPowerAcrossIids config railChannel)

end PowerManager

end OtEfr32.Radio
