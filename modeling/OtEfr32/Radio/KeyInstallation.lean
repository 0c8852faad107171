import OtEfr32.Radio.NonceUniqueness

/-!
# Installed keys

Of all that can happen to the driver, the calls of `otPlatRadioSetMacKey` alone change the key id
and the keys of an instance.  Once such a call has returned, both are those of the call until the
next call for the instance starts, whatever ran between its statements and after it.
-/

namespace OtEfr32.Radio

open Transition

/-! ## The security state -/

/-- What an event may do to the security state. -/
inductive SecurityStep (config : Config) (security : MacSecurity) : RadioEvent → MacSecurity → Prop
  | kept {event : RadioEvent} : SecurityStep config security event security
  | secured {event : RadioEvent} (isAck : Bool) (aFrame : FrameSecurity) (iid : ℕ) :
      SecurityStep config security event
        (security.radioProcessTransmitSecurity config isAck aFrame iid).2.2
  | setMacFrameCounterIfLarger {iid aMacFrameCounter : ℕ} :
      SecurityStep config security (.setMacFrameCounterIfLarger iid aMacFrameCounter)
        (security.otPlatRadioSetMacFrameCounterIfLarger iid aMacFrameCounter)
  | setMacKey {call : SetMacKeyArgs} (hidle : security.setMacKey = none) :
      SecurityStep config security (.setMacKey call) (security.otPlatRadioSetMacKey call)
  | setMacKeyStep {call : SetMacKeyArgs} {location : SetMacKeyLocation}
      (hcall : security.setMacKey = some (call, location)) :
      SecurityStep config security .setMacKeyStep (security.setMacKeyStep call location)

namespace Driver

variable {config : Config} {radio next : Driver} {rail : RailResults}

theorem transmitNow_securityStep (radio : Driver) (config : Config) (rail : RailResults)
    (iid aFrame request : ℕ) (event : RadioEvent) :
    SecurityStep config radio.security event
      (radio.transmitNow config rail iid aFrame request).2.security := by
  by_cases hband : config.hasBandConfig (radio.tx.sTransmitBuffer aFrame).frame.mChannel = true
  case pos =>
    rw [(radio.transmitNow_secured hband rail iid request).1]
    exact .secured _ _ _
  case neg =>
    simp only [transmitNow]
    rw [if_neg hband]
    exact .kept

theorem otPlatRadioTransmit_securityStep (radio : Driver) (config : Config) (rail : RailResults)
    (gpBuffers : Bool) (iid aFrame request : ℕ) (event : RadioEvent) :
    SecurityStep config radio.security event
      (radio.otPlatRadioTransmit config rail gpBuffers iid aFrame request).2.security := by
  unfold otPlatRadioTransmit
  split
  · exact .kept
  split
  · exact .kept
  simp only
  split
  · obtain ⟨_, _, heq⟩ := pushPendingCommand_eq
      (radio.mapTx fun tx ↦ tx.acceptFrame config iid aFrame) config (.transmit aFrame request) iid
    rw [heq]
    exact .kept
  · exact transmitNow_securityStep (radio.mapTx fun tx ↦ tx.acceptFrame config iid aFrame) config
      rail iid aFrame request event

theorem transmit_securityStep (radio : Driver) (config : Config) (rail : RailResults)
    (gpBuffers : Bool) (iid : ℕ) (event : RadioEvent) :
    SecurityStep config radio.security event
      (radio.transmit config iid rail gpBuffers).security := by
  have hstep := otPlatRadioTransmit_securityStep (radio.mapTx Transmitter.countRequest) config rail
    gpBuffers iid (txBufIndex iid) radio.tx.requests event
  obtain ⟨accepted, heq⟩ := radio.transmit_eq config iid rail gpBuffers
  rw [heq]
  exact hstep

theorem ProcessPart.securityStep {rail : RailResults} {gpBuffers : Bool}
    (hpart : ProcessPart config rail gpBuffers radio next) (event : RadioEvent) :
    SecurityStep config radio.security event next.security := by
  cases hpart with
  | @transmit iid txFrame request rest =>
    exact otPlatRadioTransmit_securityStep { radio with sPendingCommandQueue := rest } config rail
      gpBuffers iid txFrame request event
  | energyScan =>
    simp only [moveTo, otPlatRadioEnergyScan_security]
    exact .kept
  | _ => exact .kept

theorem railCbGeneric_securityStep (radio : Driver) (config : Config) (aEvents : RailEvents)
    (event : RadioEvent) :
    SecurityStep config radio.security event (radio.railCbGeneric config aEvents).security := by
  rw [railCbGeneric_security]
  cases aEvents.dataRequestCommand with
  | none => exact .kept
  | some ack =>
    simp only [dataRequestCommandCallback, writeIeee802154EnhancedAck]
    split
    · exact .secured true ack.mSecurity _
    · exact .kept

/-- The one place that says what each step does to the security state. -/
theorem securityStep_of_radioStep {event : RadioEvent}
    (hstep : radioStep config radio event = some next) :
    SecurityStep config radio.security event next.security := by
  cases step_of_radioStep hstep with
  | railEvents => exact radio.railCbGeneric_securityStep config _ _
  | scanTimer | endRssiWait => exact .kept
  | setMacKeyStep hcall => exact .setMacKeyStep hcall
  | main hcall hmain =>
    cases hmain with
    | transmit => exact radio.transmit_securityStep config _ _ _ _
    | energyScan =>
      obtain ⟨_, _, _, _, _, heq⟩ := radio.energyScan_frame config _ _ _ _
      rw [heq]
      exact .kept
    | getRssi =>
      obtain ⟨_, _, _, heq⟩ := otPlatRadioGetRssi_eq radio config _
      rw [heq]
      exact .kept
    | @receive aChannel rail =>
      obtain ⟨_, _, _, _, heq⟩ := radio.otPlatRadioReceive_eq config rail aChannel
      rw [heq]
      exact .kept
    | @receiveAt aChannel rail =>
      obtain ⟨_, _, _, _, heq⟩ := radio.otPlatRadioReceiveAt_eq config rail aChannel
      rw [heq]
      exact .kept
    | sleep =>
      obtain ⟨_, heq⟩ := radio.otPlatRadioSleep_eq
      rw [heq]
      exact .kept
    | writeFrame | setChannelMaxTransmitPower | setTransmitPower | setPanId | setPromiscuous
    | refused => exact .kept
    | setMacFrameCounterIfLarger => exact .setMacFrameCounterIfLarger
    | setMacKey hiid hpal =>
      have hidle := (Bool.or_eq_false_iff.mp hcall).2
      exact .setMacKey (Option.isNone_iff_eq_none.mp (Option.isSome_eq_false_iff.mp hidle))
    | process => exact (radio.processPart config _ _).securityStep _

end Driver

/-! ## Installed keys -/

/-- The key id and the keys are those of a call. -/
structure SetMacKeyArgs.Installed (call : SetMacKeyArgs) (material : SecurityMaterial) : Prop where
  keyId : material.keyId = call.aKeyId
  keys : material.keys = call.key

/-- What a running call has set when it comes to a statement. -/
def SetMacKeyArgs.SetBefore (call : SetMacKeyArgs) (material : SecurityMaterial) :
    SetMacKeyLocation → Prop
  | .resetCounter | .setKeyId => True
  | .copyKey .prev => material.keyId = call.aKeyId
  | .copyKey .current => material.keyId = call.aKeyId ∧ material.keys .prev = call.aPrevKey
  | .copyKey .next => material.keyId = call.aKeyId ∧ material.keys .prev = call.aPrevKey ∧
      material.keys .current = call.aCurrKey

theorem SetMacKeyArgs.SetBefore.congr {call : SetMacKeyArgs} {before after : SecurityMaterial}
    {location : SetMacKeyLocation} (hkeyId : after.keyId = before.keyId)
    (hkeys : after.keys = before.keys) (h : call.SetBefore before location) :
    call.SetBefore after location := by
  cases location with
  | resetCounter | setKeyId => trivial
  | copyKey slot =>
    cases slot with
    | prev => exact hkeyId.trans h
    | current => exact ⟨hkeyId.trans h.1, hkeys ▸ h.2⟩
    | next => exact ⟨hkeyId.trans h.1, hkeys ▸ h.2.1, hkeys ▸ h.2.2⟩

namespace MacSecurity

variable {config : Config} {call : SetMacKeyArgs} {security next : MacSecurity}

/-- A call is running, or has returned and no other call for the instance is running. -/
inductive Installing (call : SetMacKeyArgs) (security : MacSecurity) : Prop
  | running (location : SetMacKeyLocation) (hrunning : security.setMacKey = some (call, location))
      (hbefore : call.SetBefore (security.sMacKeys call.iid) location)
  | returned (hother : security.isSettingMacKey call.iid = false)
      (hinstalled : call.Installed (security.sMacKeys call.iid))

/-- The key ids, the keys and the running call stay. -/
structure SameKeys (security next : MacSecurity) : Prop where
  keyId : ∀ iid, (next.sMacKeys iid).keyId = (security.sMacKeys iid).keyId
  keys : ∀ iid, (next.sMacKeys iid).keys = (security.sMacKeys iid).keys
  setMacKey : next.setMacKey = security.setMacKey

theorem SameKeys.refl (security : MacSecurity) : SameKeys security security :=
  ⟨fun _ ↦ rfl, fun _ ↦ rfl, rfl⟩

theorem SameKeys.update (security : MacSecurity) (iid : ℕ)
    (change : SecurityMaterial → SecurityMaterial)
    (hkeyId : ∀ material, (change material).keyId = material.keyId)
    (hkeys : ∀ material, (change material).keys = material.keys) :
    SameKeys security (security.update iid change) where
  keyId other := by
    by_cases hother : other = iid
    · subst hother
      rw [update_self, hkeyId]
    · rw [update_of_ne _ hother]
  keys other := by
    by_cases hother : other = iid
    · subst hother
      rw [update_self, hkeys]
    · rw [update_of_ne _ hother]
  setMacKey := rfl

theorem SameKeys.radioProcessTransmitSecurity (security : MacSecurity) (config : Config)
    (isAck : Bool) (aFrame : FrameSecurity) (iid : ℕ) :
    SameKeys security (security.radioProcessTransmitSecurity config isAck aFrame iid).2.2 := by
  rcases radioProcessTransmitSecurity_cases security config isAck aFrame iid with
    heq | ⟨_, ⟨slot, _, heq⟩ | ⟨slot, keyId, heq⟩⟩
  · rw [heq]
    exact .refl security
  · rw [heq]
    exact ⟨fun _ ↦ rfl, fun _ ↦ rfl, rfl⟩
  · rw [heq]
    have hassigned := SameKeys.update security iid (fun material ↦
      { material with
        ackKeyId := if isAck then keyId else material.ackKeyId
        ackFrameCounter := if isAck then material.macFrameCounter else material.ackFrameCounter
        macFrameCounter := (material.macFrameCounter + 1) % 2 ^ 32 }) (fun _ ↦ rfl) fun _ ↦ rfl
    exact ⟨hassigned.keyId, hassigned.keys, rfl⟩

theorem SameKeys.otPlatRadioSetMacFrameCounterIfLarger (security : MacSecurity)
    (iid aMacFrameCounter : ℕ) :
    SameKeys security (security.otPlatRadioSetMacFrameCounterIfLarger iid aMacFrameCounter) := by
  apply SameKeys.update
  · intro material
    split <;> rfl
  · intro material
    split <;> rfl

theorem Installing.of_sameKeys (h : Installing call security) (hsame : SameKeys security next) :
    Installing call next := by
  have hsetting : next.isSettingMacKey = security.isSettingMacKey := by
    funext iid
    rw [isSettingMacKey, hsame.setMacKey, isSettingMacKey]
  cases h with
  | running location hrunning hbefore =>
    apply Installing.running location (hsame.setMacKey.trans hrunning)
    exact hbefore.congr (hsame.keyId _) (hsame.keys _)
  | returned hother hinstalled =>
    apply Installing.returned
    · rw [hsetting, hother]
    · exact ⟨(hsame.keyId _).trans hinstalled.keyId, (hsame.keys _).trans hinstalled.keys⟩

/-- The next statement of the call itself. -/
theorem installing_setMacKeyStep {location : SetMacKeyLocation}
    (hbefore : call.SetBefore (security.sMacKeys call.iid) location) :
    Installing call (security.setMacKeyStep call location) := by
  cases location with
  | resetCounter => exact .running .setKeyId rfl trivial
  | setKeyId =>
    apply Installing.running (.copyKey .prev) rfl
    simp [SetMacKeyArgs.SetBefore, setMacKeyStep, setRunning]
  | copyKey slot =>
    cases slot with
    | prev =>
      apply Installing.running (.copyKey .current) rfl
      simpa [SetMacKeyArgs.SetBefore, setMacKeyStep, setRunning, copyKey, SetMacKeyArgs.key]
        using hbefore
    | current =>
      apply Installing.running (.copyKey .next) rfl
      simpa [SetMacKeyArgs.SetBefore, setMacKeyStep, setRunning, copyKey, SetMacKeyArgs.key]
        using hbefore
    | next =>
      obtain ⟨hkeyId, hprev, hcurrent⟩ := hbefore
      apply Installing.returned rfl
      constructor
      · simpa [setMacKeyStep, setRunning, copyKey] using hkeyId
      · funext slot
        cases slot <;> simp [setMacKeyStep, setRunning, copyKey, SetMacKeyArgs.key, hprev, hcurrent]

/-- A statement of a call for another instance. -/
theorem setMacKeyStep_of_ne {other : SetMacKeyArgs} {iid : ℕ} (hne : other.iid ≠ iid)
    (security : MacSecurity) (location : SetMacKeyLocation) :
    (security.setMacKeyStep other location).isSettingMacKey iid = false ∧
      (security.setMacKeyStep other location).sMacKeys iid = security.sMacKeys iid := by
  have hsetting : (other.iid == iid) = false := beq_false_of_ne hne
  cases location with
  | resetCounter => exact ⟨hsetting, Function.update_of_ne hne.symm _ _⟩
  | setKeyId => exact ⟨hsetting, Function.update_of_ne hne.symm _ _⟩
  | copyKey slot =>
    cases slot with
    | prev => exact ⟨hsetting, Function.update_of_ne hne.symm _ _⟩
    | current => exact ⟨hsetting, Function.update_of_ne hne.symm _ _⟩
    | next => exact ⟨rfl, Function.update_of_ne hne.symm _ _⟩

/-- An event that does not start another call for the instance. -/
theorem Installing.step {event : RadioEvent} (h : Installing call security)
    (hstep : SecurityStep config security event next)
    (hother : ∀ other, event = .setMacKey other → other.iid ≠ call.iid) :
    Installing call next := by
  cases hstep with
  | kept => exact h
  | secured isAck aFrame iid => exact h.of_sameKeys (.radioProcessTransmitSecurity ..)
  | setMacFrameCounterIfLarger =>
    exact h.of_sameKeys (.otPlatRadioSetMacFrameCounterIfLarger security _ _)
  | @setMacKey other hidle =>
    cases h with
    | running location hrunning =>
      rw [hidle] at hrunning
      cases hrunning
    | returned hreturned hinstalled =>
      apply Installing.returned
      · exact beq_false_of_ne (hother other rfl)
      · exact hinstalled
  | @setMacKeyStep other location hcall =>
    cases h with
    | running location' hrunning hbefore =>
      obtain ⟨rfl, rfl⟩ := Prod.mk.inj (Option.some.inj (hcall.symm.trans hrunning))
      exact installing_setMacKeyStep hbefore
    | returned hreturned hinstalled =>
      have hne : other.iid ≠ call.iid := by
        rw [isSettingMacKey, hcall] at hreturned
        exact ne_of_beq_false hreturned
      obtain ⟨hsetting, hmaterial⟩ := setMacKeyStep_of_ne hne security location
      exact .returned hsetting (hmaterial ▸ hinstalled)

end MacSecurity

/-- In a run that follows a call of `otPlatRadioSetMacKey`, without another one for the instance. -/
theorem installing_run {config : Config} {call : SetMacKeyArgs} {radio final : Driver}
    {labels : List RadioEvent} (h : MacSecurity.Installing call radio.security)
    (hother : ∀ other, .setMacKey other ∈ labels → other.iid ≠ call.iid)
    (hrun : exec (radioStep config) radio labels = some final) :
    MacSecurity.Installing call final.security := by
  induction labels generalizing radio with
  | nil =>
    obtain rfl : radio = final := by simpa using hrun
    exact h
  | cons event labels ih =>
    obtain ⟨next, hstep, hrest⟩ := (exec_cons_eq_some _).mp hrun
    have hnext : MacSecurity.Installing call next.security := by
      apply h.step (Driver.securityStep_of_radioStep hstep)
      rintro other rfl
      exact hother other (List.mem_cons_self ..)
    exact ih hnext (fun other hmem ↦ hother other (List.mem_cons_of_mem _ hmem)) hrest

/-- Once the call has returned, its key id and its keys are those of the instance. -/
theorem installed_of_run {config : Config} {call : SetMacKeyArgs} {radio started final : Driver}
    {labels : List RadioEvent} (hpal : config.canAccessPal = true)
    (hcall : radioStep config radio (.setMacKey call) = some started)
    (hother : ∀ other, .setMacKey other ∈ labels → other.iid ≠ call.iid)
    (hrun : exec (radioStep config) started labels = some final)
    (hreturned : final.security.isSettingMacKey call.iid = false) :
    call.Installed (final.security.sMacKeys call.iid) := by
  have hstarted : MacSecurity.Installing call started.security := by
    cases Driver.step_of_radioStep hcall with
    | main hidle hmain =>
      cases hmain with
      | setMacKey => exact .running .resetCounter rfl trivial
      | refused hrefused => exact absurd (hpal.symm.trans hrefused) (by decide)
  cases installing_run hstarted hother hrun with
  | running location hrunning =>
    rw [MacSecurity.isSettingMacKey, hrunning] at hreturned
    simp at hreturned
  | returned _ hinstalled => exact hinstalled

end OtEfr32.Radio
