import OtEfr32.Radio.PowerManager
import OtEfr32.Transition.Runs

/-!
# Fast channel switching

In a multipan build with fast channel switching, every instance has an entry for its channel in
`sChannelSwitchingCfg`.  `otPlatRadioReceive` writes the entry, looks up the power for the channels
in use, and only then checks its channel; the power is looked up for all entries as soon as two of
them are set to different channels, also for those that are not set.
-/

namespace OtEfr32.Radio

open Transition

/-- `UNINITIALIZED_CHANNEL`. -/
def uninitializedChannel : UInt8 := 0xFF

/-- The loop of `sl_is_multi_channel_enabled` over the entries that are left. -/
def anotherChannel (firstChannel : UInt8) : List UInt8 → Bool
  | [] => false
  | channel :: channels =>
    if channel ≠ uninitializedChannel then
      if firstChannel = uninitializedChannel then anotherChannel channel channels
      else if firstChannel ≠ channel then true
      else anotherChannel firstChannel channels
    else anotherChannel firstChannel channels

/-- `sl_is_multi_channel_enabled`. -/
def slIsMultiChannelEnabled (channels : List UInt8) : Bool :=
  anotherChannel uninitializedChannel channels

/-- The channels for which `sli_get_max_tx_power_across_iids` looks up the power. -/
def lookedUpChannels (channels : List UInt8) (channel : ℕ) : List ℕ :=
  if slIsMultiChannelEnabled channels then channels.map UInt8.toNat else [channel]

/-- `sli_get_max_tx_power_across_iids`. -/
def PowerManager.fastMaxTxPowerAcrossIids (power : PowerManager) (config : Config)
    (channels : List UInt8) (channel : ℕ) : ℤ :=
  let powers := (lookedUpChannels channels channel).foldl
    (fun powers channel ↦
      (List.range config.radioInterfaceCount).foldl (power.mergePowersOfIid channel) powers)
    (invalidTxPower, invalidTxPower)
  let selectedTxPower := min powers.2 powers.1
  if selectedTxPower = invalidTxPower then config.defaultTransmitPower else selectedTxPower

/-- What `otPlatRadioReceive` reads and writes.

The last fields are the history: the channels for which the power was looked up, and whether a call
that failed has changed an entry. -/
structure FastReceiver where
  /-- `sChannelSwitchingCfg.channels`. -/
  channels : List UInt8
  power : PowerManager
  /-- The channel that `sl_rail_get_channel` returns. -/
  railChannel : ℕ
  flagScheduledRxPending : Bool := false
  /-- `mChannel` of `sReceive.frame` and `sReceiveAck.frame`. -/
  sReceiveChannel : ℕ := 0
  lookups : List ℕ := []
  changedByError : Bool := false

/-- The state after `efr32RadioInit`, with `numChannels` entries. -/
def fastReceiverInit (config : Config) (numChannels railChannel : ℕ) : FastReceiver where
  channels := List.replicate numChannels uninitializedChannel
  power := { txPowerInRail := config.defaultTransmitPower }
  railChannel := railChannel

/-- A call of `otPlatRadioReceive`: its arguments, what the driver is doing, and what
`sl_rail_start_rx` returns. -/
structure ReceiveCall where
  iid : ℕ
  aChannel : UInt8
  ongoingTxData : Bool := false
  scanInProgress : Bool := false
  startRx : Bool := true
  deriving DecidableEq, Repr

namespace FastReceiver

variable (radio : FastReceiver)

/-- `sl_get_tx_power_for_current_channel`, on record. -/
def slGetTxPowerForCurrentChannel (config : Config) : ℤ × FastReceiver :=
  (radio.power.fastMaxTxPowerAcrossIids config radio.channels radio.railChannel,
    { radio with lookups := radio.lookups ++ lookedUpChannels radio.channels radio.railChannel })

/-- `otPlatRadioReceive` behind the assertion on `index`. -/
def receiveAt (config : Config) (index : ℕ) (call : ReceiveCall) : OtError × FastReceiver :=
  let radio := { radio with channels := radio.channels.set index call.aChannel }
  let (txPower, radio) := radio.slGetTxPowerForCurrentChannel config
  if config.hasBandConfig call.aChannel.toNat = false then (.invalidArgs, radio)
  else
    let radio := { radio with power := radio.power.sliSetTxPowerInRail txPower }
    if call.startRx = false then (.failed, radio)
    else
      (.none, { radio with
        railChannel := call.aChannel.toNat
        flagScheduledRxPending := false
        sReceiveChannel := call.aChannel.toNat })

/-- `otPlatRadioReceive`; it is `none` if the assertion on `index` fails. -/
def otPlatRadioReceive (config : Config) (call : ReceiveCall) : Option (OtError × FastReceiver) :=
  if config.canAccessPal = false then some (.rejected, radio)
  else if call.ongoingTxData = true ∨ call.scanInProgress = true then some (.invalidState, radio)
  else
    match config.efr32GetPanIndexFromIid call.iid with
    | none => none
    | some index =>
      if index < radio.channels.length then some (radio.receiveAt config index call) else none

end FastReceiver

/-- Put on record whether a call that failed has changed an entry. -/
def FastReceiver.record (before : FastReceiver) (result : OtError × FastReceiver) : FastReceiver :=
  { result.2 with
    changedByError := before.changedByError ||
      decide (result.1 ≠ .none ∧ result.2.channels ≠ before.channels) }

/-- A call of `otPlatRadioReceive`. -/
def receiveStep (config : Config) (radio : FastReceiver) (call : ReceiveCall) :
    Option FastReceiver :=
  (radio.otPlatRadioReceive config call).map radio.record

variable {config : Config} {radio next : FastReceiver} {call : ReceiveCall}

/-- Every entry is unset or a channel, the power was looked up for channels only, and no call that
failed has changed an entry. -/
structure ChannelsValid (config : Config) (radio : FastReceiver) : Prop where
  channels : ∀ channel ∈ radio.channels,
    channel = uninitializedChannel ∨ config.hasBandConfig channel.toNat = true
  lookups : ∀ channel ∈ radio.lookups, config.hasBandConfig channel = true
  changedByError : radio.changedByError = false

/-- The call gets to writing the entry `index`. -/
structure Writes (config : Config) (call : ReceiveCall) (index : ℕ) : Prop where
  canAccessPal : config.canAccessPal = true
  ongoingTxData : call.ongoingTxData = false
  scanInProgress : call.scanInProgress = false
  index : config.efr32GetPanIndexFromIid call.iid = some index

/-- The call will succeed: its channel has a band, and RAIL starts to receive. -/
def Succeeds (config : Config) (call : ReceiveCall) : Prop :=
  config.hasBandConfig call.aChannel.toNat = true ∧ call.startRx = true

instance (config : Config) (call : ReceiveCall) : Decidable (Succeeds config call) :=
  inferInstanceAs (Decidable (_ ∧ _))

/-- The call succeeds or finds its channel in the entry that it writes, and if two entries are then
set to different channels, none of them is unset. -/
structure ReceiveHarmless (config : Config) (radio : FastReceiver) (call : ReceiveCall) :
    Prop where
  kept : ∀ index, Writes config call index →
    Succeeds config call ∨ radio.channels[index]? = some call.aChannel
  allSet : ∀ index, Writes config call index →
    slIsMultiChannelEnabled (radio.channels.set index call.aChannel) = true →
      uninitializedChannel ∉ radio.channels.set index call.aChannel

/-! ## One call -/

/-- A call has written an entry. -/
structure Written (config : Config) (radio : FastReceiver) (call : ReceiveCall) (index : ℕ)
    (next : FastReceiver) : Prop where
  length : index < radio.channels.length
  channels : next.channels = radio.channels.set index call.aChannel
  lookups : next.lookups = radio.lookups ++
    lookedUpChannels (radio.channels.set index call.aChannel) radio.railChannel
  railChannel : next.railChannel = radio.railChannel ∨
    config.hasBandConfig call.aChannel.toNat = true ∧ next.railChannel = call.aChannel.toNat
  changedByError : next.changedByError = (radio.changedByError ||
    decide (¬ Succeeds config call ∧ radio.channels.set index call.aChannel ≠ radio.channels))

theorem receiveStep_of_not_writes (hnot : ∀ index, ¬ Writes config call index)
    (hstep : receiveStep config radio call = some next) : next = radio := by
  obtain ⟨result, hresult, rfl⟩ := Option.map_eq_some_iff.mp hstep
  have hsame (hresult' : result.2 = radio) : radio.record result = radio := by
    simp [FastReceiver.record, hresult']
  apply hsame
  rw [FastReceiver.otPlatRadioReceive] at hresult
  by_cases hpal : config.canAccessPal = false
  · rw [if_pos hpal] at hresult
    exact congrArg Prod.snd (Option.some.inj hresult).symm
  by_cases hbusy : call.ongoingTxData = true ∨ call.scanInProgress = true
  · rw [if_neg hpal, if_pos hbusy] at hresult
    exact congrArg Prod.snd (Option.some.inj hresult).symm
  rw [not_or, Bool.not_eq_true, Bool.not_eq_true] at hbusy
  rw [if_neg hpal, if_neg (by simp [hbusy])] at hresult
  cases hindex : config.efr32GetPanIndexFromIid call.iid with
  | none => simp [hindex] at hresult
  | some index =>
    rw [Bool.not_eq_false] at hpal
    exact absurd ⟨hpal, hbusy.1, hbusy.2, hindex⟩ (hnot index)

theorem receiveStep_of_writes {index : ℕ} (hwrites : Writes config call index)
    (hstep : receiveStep config radio call = some next) : Written config radio call index next := by
  obtain ⟨result, hresult, rfl⟩ := Option.map_eq_some_iff.mp hstep
  rw [FastReceiver.otPlatRadioReceive, if_neg (by simp [hwrites.canAccessPal]),
    if_neg (by simp [hwrites.ongoingTxData, hwrites.scanInProgress]), hwrites.index] at hresult
  obtain ⟨hlength, hresult⟩ := Option.ite_none_right_eq_some.mp hresult
  obtain rfl := Option.some.inj hresult
  have hcases : radio.receiveAt config index call =
      (if config.hasBandConfig call.aChannel.toNat = false then (.invalidArgs, _)
        else if call.startRx = false then (.failed, _) else (.none, _)) := rfl
  by_cases hband : config.hasBandConfig call.aChannel.toNat = false
  · rw [hcases, if_pos hband]
    refine ⟨hlength, rfl, rfl, .inl rfl, ?_⟩
    simp [FastReceiver.record, Succeeds, hband]
  by_cases hstart : call.startRx = false
  · rw [hcases, if_neg hband, if_pos hstart]
    refine ⟨hlength, rfl, rfl, .inl rfl, ?_⟩
    simp [FastReceiver.record, Succeeds, hstart]
  · rw [hcases, if_neg hband, if_neg hstart]
    rw [Bool.not_eq_false] at hband hstart
    refine ⟨hlength, rfl, rfl, .inr ⟨hband, rfl⟩, ?_⟩
    simp [FastReceiver.record, Succeeds, hband, hstart]

/-! ## Runs -/

/-- The entry is changed unless it holds the channel already. -/
theorem set_eq_self_iff {channels : List UInt8} {index : ℕ} {channel : UInt8}
    (hlength : index < channels.length) :
    channels.set index channel = channels ↔ channels[index]? = some channel := by
  constructor
  · intro hsame
    rw [← hsame, List.getElem?_set_self hlength]
  · intro hentry
    apply List.ext_getElem?
    intro i
    by_cases hi : index = i
    · rw [← hi, List.getElem?_set_self hlength, hentry]
    · rw [List.getElem?_set_ne hi]

/-- The channels that are looked up behind the write of an entry. -/
theorem lookups_valid {channels : List UInt8} {channel : ℕ}
    (hchannels : ∀ channel ∈ channels,
      channel = uninitializedChannel ∨ config.hasBandConfig channel.toNat = true)
    (hchannel : config.hasBandConfig channel = true)
    (hset : slIsMultiChannelEnabled channels = true → uninitializedChannel ∉ channels) :
    ∀ found ∈ lookedUpChannels channels channel, config.hasBandConfig found = true := by
  intro found hfound
  rw [lookedUpChannels] at hfound
  split at hfound
  case isTrue hmulti =>
    obtain ⟨entry, hentry, rfl⟩ := List.mem_map.mp hfound
    apply (hchannels entry hentry).resolve_left
    exact fun hunset ↦ hset hmulti (hunset ▸ hentry)
  case isFalse =>
    rw [List.mem_singleton.mp hfound]
    exact hchannel

theorem ChannelsValid.keep (h : ChannelsValid config radio)
    (hrail : config.hasBandConfig radio.railChannel = true)
    (hharmless : ReceiveHarmless config radio call)
    (hstep : receiveStep config radio call = some next) :
    ChannelsValid config next ∧ config.hasBandConfig next.railChannel = true := by
  by_cases hnot : ∀ index, ¬ Writes config call index
  · rw [receiveStep_of_not_writes hnot hstep]
    exact ⟨h, hrail⟩
  obtain ⟨index, hwrites⟩ := not_forall_not.mp hnot
  have hwritten := receiveStep_of_writes hwrites hstep
  have hkept := hharmless.kept index hwrites
  have hsame (hfailed : ¬ Succeeds config call) :
      radio.channels.set index call.aChannel = radio.channels :=
    (set_eq_self_iff hwritten.length).mpr (hkept.resolve_left hfailed)
  have hentries : ∀ channel ∈ radio.channels.set index call.aChannel,
      channel = uninitializedChannel ∨ config.hasBandConfig channel.toNat = true := by
    intro channel hchannel
    by_cases hsucceeds : Succeeds config call
    · rcases List.mem_or_eq_of_mem_set hchannel with hold | rfl
      · exact h.channels channel hold
      · exact .inr hsucceeds.1
    · exact h.channels channel (hsame hsucceeds ▸ hchannel)
  refine ⟨⟨?_, ?_, ?_⟩, ?_⟩
  · rw [hwritten.channels]
    exact hentries
  · rw [hwritten.lookups]
    intro channel hchannel
    rcases List.mem_append.mp hchannel with hold | hnew
    · exact h.lookups channel hold
    · exact lookups_valid hentries hrail (hharmless.allSet index hwrites) channel hnew
  · rw [hwritten.changedByError, h.changedByError, Bool.false_or, decide_eq_false_iff_not]
    exact fun hchanged ↦ hchanged.2 (hsame hchanged.1)
  · rcases hwritten.railChannel with hsame | ⟨hband, hnew⟩
    · rw [hsame]
      exact hrail
    · rw [hnew]
      exact hband

/-- A call that is not harmless leaves an entry changed by an error, or looks up an unset entry. -/
theorem not_channelsValid_of_not_harmless (hmax : config.channelMax < 255)
    (hharmless : ¬ ReceiveHarmless config radio call)
    (hstep : receiveStep config radio call = some next) : ¬ ChannelsValid config next := by
  intro hvalid
  refine hharmless ⟨fun index hwrites ↦ ?_, fun index hwrites hmulti hunset ↦ ?_⟩
  · have hwritten := receiveStep_of_writes hwrites hstep
    have hchanged := hwritten.changedByError.symm.trans hvalid.changedByError
    rw [Bool.or_eq_false_iff, decide_eq_false_iff_not, not_and, not_not] at hchanged
    by_cases hsucceeds : Succeeds config call
    · exact .inl hsucceeds
    · exact .inr ((set_eq_self_iff hwritten.length).mp (hchanged.2 hsucceeds))
  · have hwritten := receiveStep_of_writes hwrites hstep
    have hfound : uninitializedChannel.toNat ∈ next.lookups := by
      rw [hwritten.lookups, lookedUpChannels, if_pos hmulti]
      exact List.mem_append_right _ (List.mem_map_of_mem hunset)
    have hband := hvalid.lookups _ hfound
    rw [Config.hasBandConfig, Bool.and_eq_true, decide_eq_true_eq, decide_eq_true_eq] at hband
    exact absurd hband.2 (Nat.not_le.mpr hmax)

/-- In a run of calls by any instances, everything stays valid exactly if all calls are harmless. -/
theorem channelsValid_iff_harmless {numChannels railChannel : ℕ} {calls : List ReceiveCall}
    {final : FastReceiver} (hmax : config.channelMax < 255)
    (hrail : config.hasBandConfig railChannel = true)
    (hrun : exec (receiveStep config) (fastReceiverInit config numChannels railChannel) calls =
      some final) :
    Throughout (receiveStep config) (ChannelsValid config)
        (fastReceiverInit config numChannels railChannel) calls ↔
      Along (receiveStep config) (ReceiveHarmless config)
        (fastReceiverInit config numChannels railChannel) calls := by
  have hinit : ChannelsValid config (fastReceiverInit config numChannels railChannel) := by
    refine ⟨fun channel hchannel ↦ .inl (List.eq_of_mem_replicate hchannel), ?_, rfl⟩
    exact fun channel hchannel ↦ absurd hchannel List.not_mem_nil
  refine throughout_iff_along
    (fun radio (hinv : ChannelsValid config radio ∧
      config.hasBandConfig radio.railChannel = true) ↦ hinv.1) ?_ ?_ ⟨hinit, hrail⟩ hrun
  · exact fun radio call next hinv hharmless hstep ↦ hinv.1.keep hinv.2 hharmless hstep
  · exact fun radio call next _ hharmless hstep ↦
      not_channelsValid_of_not_harmless hmax hharmless hstep

theorem channelsValid_iff_harmless_twoHosts :
    Throughout (receiveStep .twoHosts) (ChannelsValid .twoHosts) (fastReceiverInit .twoHosts 2 11)
      [⟨1, 15, false, false, true⟩, ⟨2, 20, false, false, true⟩] := by
  apply (channelsValid_iff_harmless (by decide) (by decide) rfl).mpr
  constructor
  · refine ⟨fun _ _ ↦ .inl (by decide), fun index hwrites ↦ ?_⟩
    obtain rfl := Option.some.inj hwrites.index
    decide
  intro radio hfirst
  obtain rfl := Option.some.inj hfirst
  refine ⟨⟨fun _ _ ↦ .inl (by decide), fun index hwrites ↦ ?_⟩, fun _ _ ↦ trivial⟩
  obtain rfl := Option.some.inj hwrites.index
  decide

/-- The channel 30 is rejected with its entry written, and then the power is looked up for it. -/
theorem not_channelsValid_rejectedChannel :
    ¬ Throughout (receiveStep .twoHosts) (ChannelsValid .twoHosts)
      (fastReceiverInit .twoHosts 2 11)
      [⟨1, 30, false, false, true⟩, ⟨2, 20, false, false, true⟩] := by
  intro hvalid
  have hlast := hvalid.last rfl
  have hlookup := hlast.lookups 30 (by decide)
  exact absurd hlookup (by decide)

end OtEfr32.Radio
