import OtEfr32.Radio.TxCompletion

/-!
# The power limit of a channel

Every instance may limit the power on a channel.  The law: no transmission is started with more
power than an instance allows on the channel of the frame.  The driver derives the power from the
channel that RAIL is tuned to before the frame is sent, so it keeps the law in exactly those runs in
which every transmission is started while the limits on that channel, or the default powers, are
at least as strict as the limits on the channel of the frame.
-/

namespace OtEfr32.Radio

open Transition

namespace PowerManager

variable {config : Config} {power : PowerManager} {values : List ℤ} {start limit : ℤ}

/-! ## The selected power -/

/-- The values that are set: `SL_INVALID_TX_POWER` stands for none. -/
def configured (values : List ℤ) : List ℤ := values.filter (· ≠ invalidTxPower)

theorem mem_configured {value : ℤ} :
    value ∈ configured values ↔ value ∈ values ∧ value ≠ invalidTxPower := by
  simp [configured]

theorem foldl_min_le_iff (values : List ℤ) (start limit : ℤ) :
    values.foldl min start ≤ limit ↔ start ≤ limit ∨ ∃ value ∈ values, value ≤ limit := by
  induction values generalizing start with
  | nil => simp
  | cons value values ih =>
    simp only [List.foldl_cons, ih, min_le_iff, List.mem_cons, exists_eq_or_imp, or_assoc]

/-- The loop over the limits selects the lowest one. -/
theorem foldl_min_lt_iff (hlimit : limit < invalidTxPower) :
    values.foldl min invalidTxPower ≤ limit ↔ ∃ value ∈ configured values, value ≤ limit := by
  rw [foldl_min_le_iff, or_iff_right (not_le.mpr hlimit)]
  refine exists_congr fun value ↦ ?_
  rw [mem_configured]
  constructor
  · rintro ⟨hmem, hle⟩
    exact ⟨⟨hmem, ne_of_lt (lt_of_le_of_lt hle hlimit)⟩, hle⟩
  · rintro ⟨⟨hmem, -⟩, hle⟩
    exact ⟨hmem, hle⟩

/-- The loop over the default powers selects the highest one that is set. -/
theorem foldl_mergeDefaultTxPower_le_iff (hstart : start ≤ invalidTxPower)
    (hvalues : ∀ value ∈ values, value ≤ invalidTxPower) (hlimit : limit < invalidTxPower) :
    values.foldl mergeDefaultTxPower start ≤ limit ↔
      configured (start :: values) ≠ [] ∧
        ∀ value ∈ configured (start :: values), value ≤ limit := by
  induction values generalizing start with
  | nil =>
    by_cases hset : start = invalidTxPower
    · simp [configured, hset, hlimit]
    · simp [configured, hset]
  | cons value values ih =>
    obtain ⟨hvalue, hvalues⟩ := List.forall_mem_cons.mp hvalues
    by_cases hset : value = invalidTxPower
    · have hmerge : mergeDefaultTxPower start value = start := if_neg (not_not_intro hset)
      rw [List.foldl_cons, hmerge, ih hstart hvalues]
      simp [configured, hset, List.filter_cons]
    · by_cases hfirst : start = invalidTxPower
      · have hmerge : mergeDefaultTxPower start value = value := by
          rw [mergeDefaultTxPower, if_pos hset, if_pos hfirst]
        rw [List.foldl_cons, hmerge, ih hvalue hvalues]
        simp [configured, hfirst, List.filter_cons]
      · have hmerge : mergeDefaultTxPower start value = max start value := by
          rw [mergeDefaultTxPower, if_pos hset, if_neg hfirst]
        have hmax : max start value ≠ invalidTxPower := by
          rcases max_choice start value with heq | heq <;> rw [heq] <;> assumption
        rw [List.foldl_cons, hmerge, ih (max_le hstart hvalue) hvalues]
        simp [configured, hset, hfirst, hmax, and_assoc]

/-- The loop over the interfaces is one loop over the default powers and one over the limits. -/
theorem foldl_mergePowersOfIid (power : PowerManager) (channel : ℕ) (iids : List ℕ)
    (powers : ℤ × ℤ) :
    iids.foldl (power.mergePowersOfIid channel) powers =
      ((iids.map power.sliDefaultTxPower).foldl mergeDefaultTxPower powers.1,
        (iids.map fun iid ↦ power.sliMaxChannelPower iid channel).foldl min powers.2) := by
  induction iids generalizing powers with
  | nil => rfl
  | cons iid iids ih => exact ih _

/-- The powers are values of an `int8_t`. -/
structure InRange (power : PowerManager) : Prop where
  sliMaxChannelPower : ∀ iid channel, power.sliMaxChannelPower iid channel ≤ invalidTxPower
  sliDefaultTxPower : ∀ iid, power.sliDefaultTxPower iid ≤ invalidTxPower

/-- The limits that the interfaces have set for a channel. -/
def limits (config : Config) (power : PowerManager) (channel : ℕ) : List ℤ :=
  configured (power.maxPowers config channel)

/-- The default powers that the interfaces have set. -/
def defaults (config : Config) (power : PowerManager) : List ℤ :=
  configured ((List.range config.radioInterfaceCount).map power.sliDefaultTxPower)

/-- What is set for a channel does not exceed `limit`: an interface has a limit there that does not,
or there are default powers and none of them does, or nothing is set and the built-in power does
not. -/
def StaysBelow (config : Config) (power : PowerManager) (channel : ℕ) (limit : ℤ) : Prop :=
  (∃ lower ∈ power.limits config channel, lower ≤ limit) ∨
    (power.defaults config ≠ [] ∧ ∀ txPower ∈ power.defaults config, txPower ≤ limit) ∨
    (power.limits config channel = [] ∧ power.defaults config = [] ∧
      config.defaultTransmitPower ≤ limit)

instance (config : Config) (power : PowerManager) (channel : ℕ) (limit : ℤ) :
    Decidable (power.StaysBelow config channel limit) :=
  inferInstanceAs (Decidable ((∃ _ ∈ _, _) ∨ (_ ∧ ∀ _ ∈ _, _) ∨ (_ ∧ _ ∧ _)))

theorem tablePower_le (power : PowerManager) (config : Config) (channel : ℕ) :
    (power.sliGetDefaultAndMaxPowersAcrossIids config channel).2 ≤ invalidTxPower := by
  rw [sliGetDefaultAndMaxPowersAcrossIids, foldl_mergePowersOfIid]
  exact (foldl_min_le_iff _ _ _).mpr (.inl le_rfl)

/-- The lowest limit on a channel, and the highest default power. -/
theorem InRange.powers_le_iff (h : power.InRange) (config : Config) (channel : ℕ)
    (hlimit : limit < invalidTxPower) :
    ((power.sliGetDefaultAndMaxPowersAcrossIids config channel).2 ≤ limit ↔
      ∃ lower ∈ power.limits config channel, lower ≤ limit) ∧
    ((power.sliGetDefaultAndMaxPowersAcrossIids config channel).1 ≤ limit ↔
      power.defaults config ≠ [] ∧ ∀ txPower ∈ power.defaults config, txPower ≤ limit) := by
  rw [sliGetDefaultAndMaxPowersAcrossIids, foldl_mergePowersOfIid]
  refine ⟨foldl_min_lt_iff hlimit, ?_⟩
  have hdefaults : ∀ txPower ∈ (List.range config.radioInterfaceCount).map power.sliDefaultTxPower,
      txPower ≤ invalidTxPower := by
    intro txPower hmem
    obtain ⟨iid, -, rfl⟩ := List.mem_map.mp hmem
    exact h.sliDefaultTxPower iid
  rw [foldl_mergeDefaultTxPower_le_iff le_rfl hdefaults hlimit]
  rfl

theorem InRange.lt_of_mem_limits (h : power.InRange) {channel : ℕ} {lower : ℤ}
    (hmem : lower ∈ power.limits config channel) : lower < invalidTxPower := by
  obtain ⟨hmem, hne⟩ := mem_configured.mp hmem
  obtain ⟨iid, -, rfl⟩ := List.mem_map.mp hmem
  exact lt_of_le_of_ne (h.sliMaxChannelPower iid channel) hne

theorem InRange.lt_of_mem_defaults (h : power.InRange) {txPower : ℤ}
    (hmem : txPower ∈ power.defaults config) : txPower < invalidTxPower := by
  obtain ⟨hmem, hne⟩ := mem_configured.mp hmem
  obtain ⟨iid, -, rfl⟩ := List.mem_map.mp hmem
  exact lt_of_le_of_ne (h.sliDefaultTxPower iid) hne

/-- The power for a channel stays below a limit exactly when what is set for the channel does. -/
theorem InRange.sliGetMaxTxPowerAcrossIids_le_iff (h : power.InRange) (channel : ℕ)
    (hlimit : limit < invalidTxPower) :
    power.sliGetMaxTxPowerAcrossIids config channel ≤ limit ↔
      power.StaysBelow config channel limit := by
  have hset : invalidTxPower - 1 < invalidTxPower := by decide
  have hpowers := h.powers_le_iff config channel hlimit
  have hpowers' := h.powers_le_iff config channel hset
  have hnone : (power.sliGetDefaultAndMaxPowersAcrossIids config channel).2 ≤ invalidTxPower - 1 ↔
      power.limits config channel ≠ [] := by
    rw [hpowers'.1]
    constructor
    · rintro ⟨lower, hmem, -⟩ hnil
      rw [hnil] at hmem
      contradiction
    · intro hne
      obtain ⟨lower, hmem⟩ := List.exists_mem_of_ne_nil _ hne
      exact ⟨lower, hmem, Int.le_sub_one_of_lt (h.lt_of_mem_limits hmem)⟩
  have hnone' : (power.sliGetDefaultAndMaxPowersAcrossIids config channel).1 ≤
      invalidTxPower - 1 ↔ power.defaults config ≠ [] := by
    rw [hpowers'.2, and_iff_left]
    exact fun txPower hmem ↦ Int.le_sub_one_of_lt (h.lt_of_mem_defaults hmem)
  have htable := power.tablePower_le config channel
  unfold sliGetMaxTxPowerAcrossIids StaysBelow
  simp only
  rw [← hpowers.1, ← hpowers.2]
  generalize power.sliGetDefaultAndMaxPowersAcrossIids config channel = powers at *
  unfold invalidTxPower at *
  by_cases hlimits : power.limits config channel = [] <;>
    by_cases hdefaults : power.defaults config = [] <;>
      simp only [hlimits, hdefaults, ne_eq, not_true_eq_false, not_false_eq_true, iff_false,
        iff_true, true_and, false_and, or_false] at hnone hnone' ⊢ <;>
      split <;> omega

theorem sliGetMaxTxPowerAcrossIids_le (power : PowerManager) (channel : ℕ) :
    power.sliGetMaxTxPowerAcrossIids config channel ≤ invalidTxPower := by
  have htable := power.tablePower_le config channel
  unfold sliGetMaxTxPowerAcrossIids
  simp only
  split
  · exact config.defaultTransmitPower_le
  · exact (min_le_left _ _).trans htable

/-- What is set for `railChannel` respects the limits that are set for `channel`. -/
def RespectsLimits (config : Config) (power : PowerManager) (railChannel channel : ℕ) : Prop :=
  ∀ limit ∈ power.limits config channel, power.StaysBelow config railChannel limit

instance (config : Config) (power : PowerManager) (railChannel channel : ℕ) :
    Decidable (power.RespectsLimits config railChannel channel) :=
  inferInstanceAs (Decidable (∀ _ ∈ _, _))

/-- The power for `railChannel` is within the maximum powers for `channel` exactly when what is set
for the one respects the limits on the other. -/
theorem InRange.respectsLimits_iff (h : power.InRange) (railChannel channel : ℕ) :
    power.RespectsLimits config railChannel channel ↔
      ∀ maxPower ∈ power.maxPowers config channel,
        power.sliGetMaxTxPowerAcrossIids config railChannel ≤ maxPower := by
  constructor
  · intro hrespects maxPower hmem
    by_cases hset : maxPower = invalidTxPower
    · rw [hset]
      exact power.sliGetMaxTxPowerAcrossIids_le railChannel
    · have hlimit : maxPower ∈ power.limits config channel := mem_configured.mpr ⟨hmem, hset⟩
      exact (h.sliGetMaxTxPowerAcrossIids_le_iff railChannel (h.lt_of_mem_limits hlimit)).mpr
        (hrespects maxPower hlimit)
  · intro hle limit hlimit
    exact (h.sliGetMaxTxPowerAcrossIids_le_iff railChannel (h.lt_of_mem_limits hlimit)).mp
      (hle limit (mem_configured.mp hlimit).1)

theorem InRange.sliSetTxPowerInRail (h : power.InRange) (powerInDbm : ℤ) :
    (power.sliSetTxPowerInRail powerInDbm).InRange := ⟨h.sliMaxChannelPower, h.sliDefaultTxPower⟩

theorem InRange.sliSetChannelMaxTxPower (h : power.InRange) {maxPower : ℤ}
    (hmax : maxPower ≤ invalidTxPower) (railChannel iid channel : ℕ) :
    (power.sliSetChannelMaxTxPower config railChannel iid channel maxPower).2.InRange := by
  unfold PowerManager.sliSetChannelMaxTxPower
  split
  case isFalse => exact h
  case isTrue =>
    refine ⟨fun iid' channel' ↦ ?_, h.sliDefaultTxPower⟩
    change Function.update power.sliMaxChannelPower iid
      (Function.update (power.sliMaxChannelPower iid) channel maxPower) iid' channel' ≤ _
    by_cases hiid : iid' = iid
    · subst hiid
      by_cases hchannel : channel' = channel
      · simpa [hchannel] using hmax
      · simpa [hchannel] using h.sliMaxChannelPower iid' channel'
    · simpa [hiid] using h.sliMaxChannelPower iid' channel'

theorem InRange.sliSetDefaultTxPower (h : power.InRange) {txPower : ℤ}
    (htx : txPower ≤ invalidTxPower) (railChannel iid : ℕ) :
    (power.sliSetDefaultTxPower config railChannel iid txPower).InRange := by
  refine ⟨h.sliMaxChannelPower, fun iid' ↦ ?_⟩
  change Function.update power.sliDefaultTxPower iid txPower iid' ≤ _
  by_cases hiid : iid' = iid
  · simpa [hiid] using htx
  · simpa [hiid] using h.sliDefaultTxPower iid'

end PowerManager

/-- A transmission is started with a power that no interface forbids on its channel. -/
def TransmissionStart.IsWithinLimits (start : TransmissionStart) : Prop :=
  ∀ maxPower ∈ start.maxPowers, start.txPowerInRail ≤ maxPower

instance : DecidablePred TransmissionStart.IsWithinLimits := fun start ↦
  inferInstanceAs (Decidable (∀ maxPower ∈ start.maxPowers, start.txPowerInRail ≤ maxPower))

namespace Driver

variable {config : Config} {radio : Driver} {rail : RailResults}

/-- No transmission has been started with more power than an instance allowed on its channel. -/
def PowerLaw (radio : Driver) : Prop := ∀ start ∈ radio.transmissionStarts, start.IsWithinLimits

instance : DecidablePred PowerLaw := fun radio ↦
  inferInstanceAs (Decidable (∀ start ∈ radio.transmissionStarts, start.IsWithinLimits))

/-- `otPlatRadioTransmit` passes all checks, and RAIL starts the transmission. -/
def StartsTransmission (config : Config) (rail : RailResults) (gpBuffers : Bool) (radio : Driver)
    (aFrame : ℕ) : Prop :=
  config.canAccessPal = true ∧ (config.multipan && gpBuffers) = false ∧
    (config.multipan && radio.isRadioTransmittingOrScanning) = false ∧
    config.hasBandConfig (radio.tx.sTransmitBuffer aFrame).frame.mChannel = true ∧
    rail.startTx = true

instance (rail : RailResults) (gpBuffers : Bool) (radio : Driver) (aFrame : ℕ) :
    Decidable (radio.StartsTransmission config rail gpBuffers aFrame) :=
  inferInstanceAs (Decidable (_ ∧ _ ∧ _ ∧ _ ∧ _))

/-- If the frame is sent now, the limits on its channel are respected. -/
def SendsWithinLimits (config : Config) (rail : RailResults) (gpBuffers : Bool) (radio : Driver)
    (aFrame : ℕ) : Prop :=
  radio.StartsTransmission config rail gpBuffers aFrame →
    radio.power.RespectsLimits config radio.railChannel
      (radio.tx.sTransmitBuffer aFrame).frame.mChannel

instance (rail : RailResults) (gpBuffers : Bool) (radio : Driver) (aFrame : ℕ) :
    Decidable (radio.SendsWithinLimits config rail gpBuffers aFrame) :=
  inferInstanceAs (Decidable (_ → PowerManager.RespectsLimits _ _ _ _))

/-- The start of a transmission on a channel, with the power for the channel RAIL is tuned to. -/
def startOn (config : Config) (radio : Driver) (channel : ℕ) : TransmissionStart where
  channel
  txPowerInRail := radio.power.sliGetMaxTxPowerAcrossIids config radio.railChannel
  maxPowers := radio.power.maxPowers config channel

/-- What `transmitNow` does to the tables and the history of starts. -/
theorem transmitNow_starts (radio : Driver) (config : Config) (rail : RailResults)
    (iid aFrame request : ℕ) :
    (radio.transmitNow config rail iid aFrame request).2.transmissionStarts =
      radio.transmissionStarts ++
        if config.hasBandConfig (radio.tx.sTransmitBuffer aFrame).frame.mChannel = true ∧
            rail.startTx = true then
          [radio.startOn config (radio.tx.sTransmitBuffer aFrame).frame.mChannel]
        else [] := by
  unfold transmitNow
  simp only
  by_cases hband : config.hasBandConfig (radio.tx.sTransmitBuffer aFrame).frame.mChannel = true
  case neg => rw [if_neg hband, if_neg fun h ↦ hband h.1, List.append_nil]
  case pos =>
    rw [if_pos hband]
    unfold recordStart
    by_cases hstart : rail.startTx = true
    · rw [if_pos hstart, if_pos ⟨hband, hstart⟩]
      rfl
    · rw [if_neg hstart, if_neg fun h ↦ hstart h.2, List.append_nil]
      rfl

theorem transmitNow_inRange (radio : Driver) (h : radio.power.InRange) (iid aFrame request : ℕ) :
    (radio.transmitNow config rail iid aFrame request).2.power.InRange := by
  unfold transmitNow
  simp only
  split
  · unfold recordStart
    split <;> exact h.sliSetTxPowerInRail _
  · exact h

theorem otPlatRadioTransmit_inRange (h : radio.power.InRange) (gpBuffers : Bool)
    (iid aFrame request : ℕ) :
    (radio.otPlatRadioTransmit config rail gpBuffers iid aFrame request).2.power.InRange := by
  unfold otPlatRadioTransmit
  split
  · exact h
  split
  · exact h
  simp only
  split
  · obtain ⟨_, _, heq⟩ := pushPendingCommand_eq
      (radio.mapTx fun tx ↦ tx.acceptFrame config iid aFrame) config (.transmit aFrame request) iid
    rw [heq]
    exact h
  · exact transmitNow_inRange (radio.mapTx fun tx ↦ tx.acceptFrame config iid aFrame) h _ _ _

/-- A call of `otPlatRadioTransmit` starts at most one transmission, with the power for the channel
that RAIL is tuned to before. -/
theorem otPlatRadioTransmit_starts (radio : Driver) (config : Config) (rail : RailResults)
    (gpBuffers : Bool) (iid aFrame request : ℕ) :
    (radio.otPlatRadioTransmit config rail gpBuffers iid aFrame request).2.transmissionStarts =
      radio.transmissionStarts ++
        if radio.StartsTransmission config rail gpBuffers aFrame then
          [radio.startOn config (radio.tx.sTransmitBuffer aFrame).frame.mChannel]
        else [] := by
  have hframe := radio.tx.acceptFrame_frame config iid aFrame aFrame
  unfold otPlatRadioTransmit
  split
  case isTrue hpal =>
    rw [if_neg, List.append_nil]
    exact fun hstarts ↦ Bool.false_ne_true (hpal.symm.trans hstarts.1)
  split
  case isTrue hgp =>
    rw [if_neg, List.append_nil]
    exact fun hstarts ↦ Bool.false_ne_true (hstarts.2.1.symm.trans hgp)
  simp only [acceptFrame_isBusy]
  split
  case isTrue hbusy =>
    obtain ⟨_, _, heq⟩ := pushPendingCommand_eq
      (radio.mapTx fun tx ↦ tx.acceptFrame config iid aFrame) config (.transmit aFrame request) iid
    rw [heq, if_neg, List.append_nil]
    · rfl
    · exact fun hstarts ↦ Bool.false_ne_true (hstarts.2.2.1.symm.trans hbusy)
  case isFalse hpal hgp hbusy =>
    have hfree := And.intro (Bool.of_not_eq_false hpal)
      (And.intro (Bool.of_not_eq_true hgp) (Bool.of_not_eq_true hbusy))
    rw [transmitNow_starts]
    simp only [mapTx, hframe]
    exact congrArg _
      (if_congr ⟨fun h ↦ ⟨hfree.1, hfree.2.1, hfree.2.2, h⟩, fun h ↦ h.2.2.2⟩ rfl rfl)

/-- The invariant of the power limits. -/
structure PowerConsistent (radio : Driver) : Prop where
  inRange : radio.power.InRange
  law : radio.PowerLaw

namespace PowerConsistent

theorem of_eq {next : Driver} (h : PowerConsistent radio) (hpower : next.power.InRange)
    (hstarts : next.transmissionStarts = radio.transmissionStarts) : PowerConsistent next :=
  ⟨hpower, fun start hstart ↦ h.law start (hstarts ▸ hstart)⟩

theorem otPlatRadioTransmit (h : PowerConsistent radio) {gpBuffers : Bool} {aFrame : ℕ}
    (hsends : radio.SendsWithinLimits config rail gpBuffers aFrame) (iid request : ℕ) :
    PowerConsistent
      (radio.otPlatRadioTransmit config rail gpBuffers iid aFrame request).2 where
  inRange := otPlatRadioTransmit_inRange h.inRange _ _ _ _
  law := by
    intro start hstart
    rw [otPlatRadioTransmit_starts] at hstart
    rcases List.mem_append.mp hstart with hold | hnew
    · exact h.law start hold
    · split at hnew
      case isTrue hstarts =>
        obtain rfl := List.mem_singleton.mp hnew
        exact (h.inRange.respectsLimits_iff ..).mp (hsends hstarts)
      case isFalse => contradiction

/-- A frame that is sent while its limits are not respected breaks the law. -/
theorem otPlatRadioTransmit_break (h : PowerConsistent radio) {gpBuffers : Bool} {aFrame : ℕ}
    (hsends : ¬ radio.SendsWithinLimits config rail gpBuffers aFrame) (iid request : ℕ) :
    ¬ (radio.otPlatRadioTransmit config rail gpBuffers iid aFrame request).2.PowerLaw := by
  simp only [SendsWithinLimits, Classical.not_imp] at hsends
  obtain ⟨hstarts, hexceeds⟩ := hsends
  intro hlaw
  refine hexceeds ((h.inRange.respectsLimits_iff ..).mpr (hlaw (radio.startOn config _) ?_))
  rw [otPlatRadioTransmit_starts, if_pos hstarts]
  exact List.mem_append_right _ List.mem_cons_self

end PowerConsistent

end Driver

/-! ## The exact condition -/

/-- The steps that keep the power limits. -/
def PowerCondition (config : Config) (radio : Driver) : RadioEvent → Prop
  | .transmit iid rail gpBuffers =>
    radio.SendsWithinLimits config rail gpBuffers (txBufIndex iid)
  | .process rail gpBuffers =>
    ∀ command, radio.dueCommand config = some command →
      ∀ txFrame request, command.request = .transmit txFrame request →
        radio.SendsWithinLimits config rail gpBuffers txFrame
  | _ => True

instance (config : Config) (radio : Driver) (rail : RailResults) (gpBuffers : Bool) :
    ∀ command : PendingCommand, Decidable (∀ txFrame request,
      command.request = .transmit txFrame request →
        radio.SendsWithinLimits config rail gpBuffers txFrame)
  | ⟨.energyScan .., _⟩ => .isTrue fun _ _ hrequest ↦ nomatch hrequest
  | ⟨.transmit txFrame _, _⟩ =>
    decidable_of_iff (radio.SendsWithinLimits config rail gpBuffers txFrame)
      ⟨fun h _ _ hrequest ↦ (PendingRequest.transmit.inj hrequest).1 ▸ h, fun h ↦ h _ _ rfl⟩

instance (config : Config) : ∀ radio event, Decidable (PowerCondition config radio event)
  | radio, .transmit iid rail gpBuffers => inferInstanceAs
      (Decidable (radio.SendsWithinLimits config rail gpBuffers (txBufIndex iid)))
  | radio, .process rail gpBuffers =>
    inferInstanceAs (Decidable (∀ command ∈ radio.dueCommand config, ∀ txFrame request,
      command.request = .transmit txFrame request →
        radio.SendsWithinLimits config rail gpBuffers txFrame))
  | _, .writeFrame .. | _, .energyScan .. | _, .getRssi _ | _, .endRssiWait _ | _, .receive ..
  | _, .receiveAt .. | _, .sleep | _, .setChannelMaxTransmitPower .. | _, .setTransmitPower ..
  | _, .setPanId .. | _, .setPromiscuous _ | _, .setMacFrameCounterIfLarger .. | _, .setMacKey _
  | _, .setMacKeyStep | _, .scanTimer .. | _, .railEvents _ => .isTrue trivial

/-- The powers that the stack gives are values of an `int8_t`. -/
def PowersInRange : RadioEvent → Prop
  | .setChannelMaxTransmitPower _ _ aMaxPower => -128 ≤ aMaxPower ∧ aMaxPower ≤ 127
  | .setTransmitPower _ aPower => -128 ≤ aPower ∧ aPower ≤ 127
  | _ => True

namespace Driver

variable {config : Config} {radio : Driver} {rail : RailResults}

namespace PowerConsistent

theorem processPart (h : PowerConsistent radio) {gpBuffers : Bool} {next : Driver}
    (hpart : ProcessPart config rail gpBuffers radio next)
    (hcondition : PowerCondition config radio (.process rail gpBuffers)) :
    PowerConsistent next := by
  cases hpart with
  | @transmit iid txFrame request rest hdue =>
    have hdequeued : PowerConsistent { radio with sPendingCommandQueue := rest } :=
      h.of_eq h.inRange rfl
    have htransmit := hdequeued.otPlatRadioTransmit (hcondition _ hdue txFrame request rfl) iid
      request
    exact htransmit.of_eq htransmit.inRange rfl
  | @energyScan iid scanChannel scanDuration request rest =>
    obtain ⟨_, _, _, _, heq⟩ := otPlatRadioEnergyScan_eq
      { radio with sPendingCommandQueue := rest } config rail iid request scanChannel scanDuration
    rw [heq]
    exact h.of_eq h.inRange rfl
  | _ => exact h.of_eq h.inRange rfl

end PowerConsistent

theorem radioStep_powerConsistent {event : RadioEvent} {next : Driver}
    (h : PowerConsistent radio) (hcontract : PowersInRange event)
    (hcondition : PowerCondition config radio event)
    (hstep : radioStep config radio event = some next) : PowerConsistent next := by
  cases step_of_radioStep hstep with
  | railEvents =>
    obtain ⟨tx, rx, security, heq⟩ := railCbGeneric_eq radio config _
    rw [heq]
    exact h.of_eq h.inRange rfl
  | scanTimer | endRssiWait | setMacKeyStep => exact h.of_eq h.inRange rfl
  | main hcall hmain =>
    cases hmain with
    | @transmit iid rail gpBuffers =>
      have hcounted : PowerConsistent (radio.mapTx Transmitter.countRequest) :=
        h.of_eq h.inRange rfl
      have htransmit := hcounted.otPlatRadioTransmit hcondition iid radio.tx.requests
      obtain ⟨_, heq⟩ := radio.transmit_eq config iid rail gpBuffers
      rw [heq]
      exact htransmit.of_eq htransmit.inRange rfl
    | energyScan =>
      obtain ⟨_, _, _, _, _, heq⟩ := radio.energyScan_frame config _ _ _ _
      rw [heq]
      exact h.of_eq h.inRange rfl
    | @getRssi rail =>
      obtain ⟨_, _, _, heq⟩ := otPlatRadioGetRssi_eq radio config rail
      rw [heq]
      exact h.of_eq h.inRange rfl
    | receive =>
      unfold otPlatRadioReceive
      split_ifs
      · exact h
      · exact h
      · exact h
      · exact h.of_eq (h.inRange.sliSetTxPowerInRail _) rfl
      · exact h.of_eq (h.inRange.sliSetTxPowerInRail _) rfl
    | receiveAt =>
      unfold otPlatRadioReceiveAt
      split_ifs
      · exact h
      · exact h
      · exact h
      · exact h.of_eq (h.inRange.sliSetTxPowerInRail _) rfl
      · exact h.of_eq (h.inRange.sliSetTxPowerInRail _) rfl
    | sleep =>
      obtain ⟨_, heq⟩ := radio.otPlatRadioSleep_eq
      rw [heq]
      exact h.of_eq h.inRange rfl
    | setChannelMaxTransmitPower =>
      exact h.of_eq (h.inRange.sliSetChannelMaxTxPower hcontract.2 _ _ _) rfl
    | setTransmitPower => exact h.of_eq (h.inRange.sliSetDefaultTxPower hcontract.2 _ _) rfl
    | writeFrame | setPanId | setPromiscuous | setMacFrameCounterIfLarger | setMacKey =>
      exact h.of_eq h.inRange rfl
    | refused => exact h
    | process => exact h.processPart (radio.processPart config _ _) hcondition

theorem radioStep_breaks_powerLaw {event : RadioEvent} {next : Driver}
    (h : PowerConsistent radio) (hcondition : ¬ PowerCondition config radio event)
    (hstep : radioStep config radio event = some next) : ¬ next.PowerLaw := by
  cases step_of_radioStep hstep with
  | railEvents | scanTimer | endRssiWait | setMacKeyStep => exact absurd trivial hcondition
  | main hcall hmain =>
    cases hmain with
    | @transmit iid rail gpBuffers =>
      have hcounted : PowerConsistent (radio.mapTx Transmitter.countRequest) :=
        h.of_eq h.inRange rfl
      have hbreak := hcounted.otPlatRadioTransmit_break hcondition iid radio.tx.requests
      obtain ⟨_, heq⟩ := radio.transmit_eq config iid rail gpBuffers
      rw [heq]
      exact hbreak
    | @process rail gpBuffers =>
      simp only [PowerCondition, not_forall] at hcondition
      obtain ⟨command, hdue, txFrame, request, hrequest, hsends⟩ := hcondition
      obtain ⟨rest, -, heq⟩ := efr32RadioProcess_transmit hdue hrequest rail gpBuffers
      have hdequeued : PowerConsistent { radio with sPendingCommandQueue := rest } :=
        h.of_eq h.inRange rfl
      rw [heq]
      exact hdequeued.otPlatRadioTransmit_break hsends _ _
    | refused hpal hsetting =>
      cases event <;> first | exact absurd trivial hcondition | contradiction
    | _ => exact absurd trivial hcondition

theorem efr32RadioInit_powerConsistent (config : Config) :
    PowerConsistent (efr32RadioInit config) :=
  ⟨⟨fun _ _ ↦ le_rfl, fun _ ↦ le_rfl⟩, nofun⟩

end Driver

/-! ## Runs -/

/-- No transmission of a run is started with more power than an instance allows on its channel
exactly when every step of the run meets the condition. -/
theorem powerLaw_iff (config : Config) (labels : List RadioEvent) (final : Driver)
    (hcontract : ∀ label ∈ labels, PowersInRange label)
    (hrun : exec (radioStep config) (efr32RadioInit config) labels = some final) :
    Throughout (radioStep config) Driver.PowerLaw (efr32RadioInit config) labels ↔
      Along (radioStep config) (PowerCondition config) (efr32RadioInit config) labels :=
  throughout_iff_along_of (fun _ h ↦ Driver.PowerConsistent.law h)
    (fun _ event _ h (hcontract : PowersInRange event) hcondition hstep ↦
      Driver.radioStep_powerConsistent h hcontract hcondition hstep)
    (fun _ _ _ h _ hcondition hstep ↦ Driver.radioStep_breaks_powerLaw h hcondition hstep)
    (Driver.efr32RadioInit_powerConsistent config) (along_of_mem hcontract) hrun

/-- Two hosts limit the power on channel 20, and the radio receives on it when the frame is sent. -/
def sameChannelRun : List RadioEvent :=
  [.setTransmitPower 1 10, .setChannelMaxTransmitPower 1 20 5, .setChannelMaxTransmitPower 2 20 3,
    .receive 20 {}, .writeFrame 1 { mPsdu := [0x41, 0x88, 1], mChannel := 20 },
    .transmit 1 {} false]

theorem powerLaw_iff_sameChannelRun :
    ((exec (radioStep .twoHosts) (efr32RadioInit .twoHosts) sameChannelRun).map
      Driver.transmissionStarts) = some [⟨20, 3, [127, 5, 3]⟩] ∧
    Throughout (radioStep .twoHosts) Driver.PowerLaw (efr32RadioInit .twoHosts) sameChannelRun :=
  ⟨by decide, (powerLaw_iff .twoHosts sameChannelRun _ (by simp [sameChannelRun, PowersInRange])
    (Option.some_get (by decide)).symm).mpr (by decide)⟩

/-- The power on channel 20 is limited to 0 dBm.  The radio receives on channel 11, where 20 dBm are
allowed, and a frame is sent on channel 20: the power is the default of 10 dBm. -/
def otherChannelRun : List RadioEvent :=
  [.setTransmitPower 0 10, .setChannelMaxTransmitPower 0 20 0,
    .setChannelMaxTransmitPower 0 11 20, .receive 11 {},
    .writeFrame 0 { mPsdu := [0x41, 0x88, 1], mChannel := 20 }, .transmit 0 {} false]

theorem not_powerLaw_otherChannelRun :
    ¬ ∀ config labels, (∀ label ∈ labels, PowersInRange label) →
      Throughout (radioStep config) Driver.PowerLaw (efr32RadioInit config) labels := by
  intro h
  have hlaw := h .singlePan otherChannelRun (by simp [otherChannelRun, PowersInRange])
  revert hlaw
  decide

end OtEfr32.Radio
