import Mathlib.Algebra.Group.Nat.Defs
import Mathlib.Logic.Function.Basic
import OtEfr32.Platform.Error
import OtEfr32.Radio.Frame

/-!
# Transmit security

The MAC keys and the frame counter of each instance, the key rotation, and
`radioProcessTransmitSecurity`.  A call of `otPlatRadioSetMacKey` is split into its statements,
since an interrupt between two of them may prepare a secured enhanced ACK; a call of
`radioProcessTransmitSecurity` is one step.  The history keeps what each encryption used: the key,
the counter, and the assignment that gave the frame its counter.
-/

namespace OtEfr32.Radio

/-- `MAC_KEY_PREV`, `MAC_KEY_CURRENT` and `MAC_KEY_NEXT`. -/
inductive MacKeySlot where
  | prev
  | current
  | next
  deriving DecidableEq, Repr

/-- `securityMaterial`. -/
structure SecurityMaterial where
  ackKeyId : ℕ := 0
  keyId : ℕ := 0
  macFrameCounter : ℕ := 0
  ackFrameCounter : ℕ := 0
  keys : MacKeySlot → MacKey := fun _ ↦ 0
  /-- History: the number of resets of the frame counter. -/
  epoch : ℕ := 0

/-- The arguments of a call of `otPlatRadioSetMacKey`. -/
structure SetMacKeyArgs where
  iid : ℕ
  aKeyId : ℕ
  aPrevKey : MacKey
  aCurrKey : MacKey
  aNextKey : MacKey
  deriving DecidableEq, Repr

/-- The key that `otPlatRadioSetMacKey` copies into a slot. -/
def SetMacKeyArgs.key (call : SetMacKeyArgs) : MacKeySlot → MacKey
  | .prev => call.aPrevKey
  | .current => call.aCurrKey
  | .next => call.aNextKey

/-- The statement that a running `otPlatRadioSetMacKey` executes next. -/
inductive SetMacKeyLocation where
  | resetCounter
  | setKeyId
  | copyKey (slot : MacKeySlot)
  deriving DecidableEq, Repr

/-- One encryption by `radioProcessTransmitSecurity`. -/
structure Encryption where
  iid : ℕ
  /-- The slot of the key. -/
  slot : MacKeySlot
  key : MacKey
  frameCounter : ℕ
  /-- The assignment that gave the frame its counter; it identifies the frame. -/
  assignment : ℕ
  /-- How often the counter of the instance had been reset at that assignment. -/
  epoch : ℕ
  /-- The frame is secured outside a running `otPlatRadioSetMacKey` of the instance and with a
  counter assigned since the last reset. -/
  plain : Bool
  deriving DecidableEq, Repr

/-- The security state of the driver. -/
structure MacSecurity where
  sMacKeys : ℕ → SecurityMaterial := fun _ ↦ {}
  /-- The running call of `otPlatRadioSetMacKey`. -/
  setMacKey : Option (SetMacKeyArgs × SetMacKeyLocation) := none
  /-- History: the number of assignments of a frame counter. -/
  assignments : ℕ := 0
  /-- History: how often an assignment has left a frame counter beyond its 32 bits. -/
  wraps : ℕ := 0
  /-- History. -/
  encryptions : List Encryption := []

namespace MacSecurity

variable (security : MacSecurity)

/-- Change the material of one instance. -/
def update (iid : ℕ) (change : SecurityMaterial → SecurityMaterial) : MacSecurity :=
  { security with
    sMacKeys := Function.update security.sMacKeys iid (change (security.sMacKeys iid)) }

/-- A call of `otPlatRadioSetMacKey` starts, goes on or returns. -/
def setRunning (running : Option (SetMacKeyArgs × SetMacKeyLocation)) : MacSecurity :=
  { security with setMacKey := running }

@[simp]
theorem update_self (iid : ℕ) (change : SecurityMaterial → SecurityMaterial) :
    (security.update iid change).sMacKeys iid = change (security.sMacKeys iid) := by
  simp [update]

theorem update_of_ne {iid other : ℕ} (hne : other ≠ iid)
    (change : SecurityMaterial → SecurityMaterial) :
    (security.update iid change).sMacKeys other = security.sMacKeys other := by
  simp [update, Function.update_of_ne hne]

/-! ## Keys and counters -/

/-- `otPlatRadioSetMacFrameCounter`. -/
def otPlatRadioSetMacFrameCounter (iid aMacFrameCounter : ℕ) : MacSecurity :=
  security.update iid fun material ↦
    { material with macFrameCounter := aMacFrameCounter, epoch := material.epoch + 1 }

/-- `otPlatRadioSetMacFrameCounterIfLarger`. -/
def otPlatRadioSetMacFrameCounterIfLarger (iid aMacFrameCounter : ℕ) : MacSecurity :=
  security.update iid fun material ↦
    if aMacFrameCounter > material.macFrameCounter then
      { material with macFrameCounter := aMacFrameCounter }
    else material

/-- The `memcpy` of `otPlatRadioSetMacKey` into a slot. -/
def copyKey (call : SetMacKeyArgs) (slot : MacKeySlot) : MacSecurity :=
  security.update call.iid fun material ↦
    { material with keys := Function.update material.keys slot (call.key slot) }

/-- A call of `otPlatRadioSetMacKey` starts. -/
def otPlatRadioSetMacKey (call : SetMacKeyArgs) : MacSecurity :=
  security.setRunning (some (call, .resetCounter))

/-- The next statement of a running `otPlatRadioSetMacKey`. -/
def setMacKeyStep (call : SetMacKeyArgs) : SetMacKeyLocation → MacSecurity
  | .resetCounter =>
    (security.otPlatRadioSetMacFrameCounter call.iid 0).setRunning (some (call, .setKeyId))
  | .setKeyId =>
    (security.update call.iid fun material ↦ { material with keyId := call.aKeyId }).setRunning
      (some (call, .copyKey .prev))
  | .copyKey .prev => (security.copyKey call .prev).setRunning (some (call, .copyKey .current))
  | .copyKey .current => (security.copyKey call .current).setRunning (some (call, .copyKey .next))
  | .copyKey .next => (security.copyKey call .next).setRunning none

/-! ## Securing a frame -/

/-- The key id and the key that `radioProcessTransmitSecurity` chooses for a frame. -/
def selectKey (isAck : Bool) (aFrame : FrameSecurity) (material : SecurityMaterial) :
    Except OtError (ℕ × MacKeySlot) :=
  if isAck then
    let keyId := aFrame.keyId
    if keyId = 0 then .error .failed
    else if keyId + 1 = material.keyId then .ok (keyId, .prev)
    else if keyId = material.keyId then .ok (keyId, .current)
    else if keyId = material.keyId + 1 then .ok (keyId, .next)
    else .error .security
  else .ok (material.keyId, .current)

/-- The part of `radioProcessTransmitSecurity` for a frame whose header is not updated yet: for an
ACK its key id and counter are stored, and the frame takes the counter.  `otMacFrameSetFrameCounter`
marks the header as updated. -/
def assignCounter (isAck : Bool) (iid keyId : ℕ) (aFrame : FrameSecurity) :
    FrameSecurity × MacSecurity :=
  let material := security.sMacKeys iid
  ({ aFrame with
      keyId
      frameCounter := material.macFrameCounter
      mIsHeaderUpdated := true
      assignment := security.assignments
      epoch := material.epoch },
    { security.update iid fun material ↦
        { material with
          ackKeyId := if isAck then keyId else material.ackKeyId
          ackFrameCounter := if isAck then material.macFrameCounter else material.ackFrameCounter
          macFrameCounter := (material.macFrameCounter + 1) % 2 ^ 32 } with
      assignments := security.assignments + 1
      wraps := if material.macFrameCounter + 1 < 2 ^ 32 then security.wraps
        else security.wraps + 1 })

/-- `otPlatRadioSetMacKey` is running for the instance. -/
def isSettingMacKey (iid : ℕ) : Bool := security.setMacKey.any fun running ↦ running.1.iid == iid

/-- `efr32PlatProcessTransmitAesCcm`, with the key of a slot. -/
def efr32PlatProcessTransmitAesCcm (iid : ℕ) (slot : MacKeySlot) (aFrame : FrameSecurity) :
    FrameSecurity × MacSecurity :=
  let material := security.sMacKeys iid
  let plain := !security.isSettingMacKey iid && aFrame.epoch == material.epoch
  ({ aFrame with mIsSecurityProcessed := true },
    { security with
      encryptions := security.encryptions ++ [{
        iid
        slot
        key := material.keys slot
        frameCounter := aFrame.frameCounter
        assignment := aFrame.assignment
        epoch := aFrame.epoch
        plain }] })

/-- `radioProcessTransmitSecurity`.  Where its assertion on the PAN index fails nothing is done. -/
def radioProcessTransmitSecurity (config : Config) (isAck : Bool) (aFrame : FrameSecurity)
    (iid : ℕ) : OtError × FrameSecurity × MacSecurity :=
  if aFrame.isSecurityEnabled && aFrame.isKeyIdMode1 && !aFrame.mIsSecurityProcessed &&
      (config.efr32GetPanIndexFromIid iid).isSome then
    match selectKey isAck aFrame (security.sMacKeys iid) with
    | .error error => (error, aFrame, security)
    | .ok (keyId, slot) =>
      if aFrame.mIsHeaderUpdated then
        (.none, security.efr32PlatProcessTransmitAesCcm iid slot aFrame)
      else
        let assigned := security.assignCounter isAck iid keyId aFrame
        (.none, assigned.2.efr32PlatProcessTransmitAesCcm iid slot assigned.1)
  else (.none, aFrame, security)

end MacSecurity

end OtEfr32.Radio
