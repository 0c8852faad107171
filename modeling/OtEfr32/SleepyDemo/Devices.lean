import OtEfr32.Data.CString

/-!
# The devices of the sleepy demo

A sleepy device (`sleepy-mtd.c`, `sleepy-ssed.c`) and a full device (`sleepy-ftd.c`) send each other
a text when a button is pressed.  The button's interrupt only sets a flag; `applicationTick`, which
the main loop runs, clears it and sends.  No part of a tick reads a flag twice, so a press during a
tick is one before it or one after it.
-/

namespace OtEfr32.SleepyDemo

/-- The sources of the sleepy device. -/
inductive SleepyApp where
  | mtd
  | ssed
  deriving DecidableEq, Repr

/-- `MTD_MESSAGE` and `SSED_MESSAGE`: "mtd button" and "ssed button". -/
def SleepyApp.message : SleepyApp → List UInt8
  | .mtd => [0x6D, 0x74, 0x64, 0x20, 0x62, 0x75, 0x74, 0x74, 0x6F, 0x6E]
  | .ssed => [0x73, 0x73, 0x65, 0x64, 0x20, 0x62, 0x75, 0x74, 0x74, 0x6F, 0x6E]

/-- `FTD_MESSAGE`: "ftd button". -/
def ftdMessage : List UInt8 := [0x66, 0x74, 0x64, 0x20, 0x62, 0x75, 0x74, 0x74, 0x6F, 0x6E]

/-- `MULTICAST_PORT` -/
def multicastPort : ℕ := 123

/-- `RECV_PORT` -/
def recvPort : ℕ := 234

/-- The payload in `buf` as the receive callbacks read it, with the terminator they write. -/
def readPayload (payload : List UInt8) : List UInt8 := payload.take 63 ++ [0]

/-- The comparison of the receive callbacks; `sizeof` counts the terminator of the literal. -/
def isMessage (message payload : List UInt8) : Bool :=
  CString.strncmp (readPayload payload) message (message.length + 1) == 0

/-- A list that ends before the cut is the one that was cut. -/
theorem take_eq_iff {α : Type*} {list front : List α} {n : ℕ} (h : front.length < n) :
    list.take n = front ↔ list = front := by
  constructor
  · rintro rfl
    rw [List.length_take] at h
    exact (List.take_of_length_le (by omega)).symm
  · rintro rfl
    exact List.take_of_length_le h.le

/-- A payload counts as a message if it is the message, alone or ended by a NUL. -/
theorem isMessage_iff {message : List UInt8} (hnul : 0 ∉ message) (hlength : message.length < 63)
    (payload : List UInt8) :
    isMessage message payload = true ↔
      payload = message ∨ ∃ rest, payload = message ++ 0 :: rest := by
  have hmessage : (CString.text message).take (message.length + 1) = message := by
    rw [CString.text_of_notMem hnul]
    exact List.take_of_length_le (Nat.le_succ _)
  rw [isMessage, beq_iff_eq, CString.strncmp_eq_zero_iff, hmessage,
    take_eq_iff (Nat.lt_succ_self _), readPayload, CString.text_take_append_zero,
    take_eq_iff hlength]
  constructor
  · exact CString.eq_or_append_of_text
  · rintro (rfl | ⟨rest, rfl⟩)
    · exact CString.text_of_notMem hnul
    · exact CString.text_append_zero hnul rest

/-- What OpenThread answers to the calls that send a message: whether a buffer is free, and whether
`otIp6AddressFromString`, `otMessageAppend` and `otUdpSend` succeed. -/
structure UdpAnswers where
  newMessage : Bool := true
  addressFromString : Bool := true
  append : Bool := true
  send : Bool := true
  deriving DecidableEq, Repr

/-- The peer of a message: `MULTICAST_ADDR` or one device. -/
inductive Peer (Address : Type*) where
  | multicast
  | unicast (address : Address)
  deriving DecidableEq, Repr

/-- The calls of `applicationTick`, with what they return where the application depends on it. -/
inductive AppCall (Address : Type*) where
  /-- `otCliOutputFormat`: the device is switching to EM2 (`true`) or to EM1. -/
  | switchingTo (sAllowSleep : Bool)
  /-- `sl_power_manager_remove_em_requirement(SL_POWER_MANAGER_EM1)` -/
  | removeEmRequirement
  /-- `sl_power_manager_add_em_requirement(SL_POWER_MANAGER_EM1)` -/
  | addEmRequirement
  | otUdpNewMessage (allocated : Bool)
  | otUdpSend (peer : Peer Address) (port : ℕ) (payload : List UInt8) (accepted : Bool)
  | otMessageFree
  deriving DecidableEq, Repr

variable {Address : Type*}

/-- The part of `applicationTick` behind a pressed button.  `prepared` tells whether the peer's
address is there; at `exit` the message is freed unless `otUdpSend` took it. -/
def sendMessage (udp : UdpAnswers) (prepared : Bool) (peer : Peer Address) (port : ℕ)
    (payload : List UInt8) : List (AppCall Address) :=
  if !udp.newMessage then
    [.otUdpNewMessage false]
  else if !prepared || !udp.append then
    [.otUdpNewMessage true, .otMessageFree]
  else if !udp.send then
    [.otUdpNewMessage true, .otUdpSend peer port payload false, .otMessageFree]
  else
    [.otUdpNewMessage true, .otUdpSend peer port payload true]

/-- The variables of `sleepy-mtd.c` and `sleepy-ssed.c`. -/
structure SleepyDevice where
  sButtonPressed : Bool := false
  sRxOnIdleButtonPressed : Bool := false
  sAllowSleep : Bool := false
  sPrintState : Bool := false
  deriving DecidableEq, Repr

namespace SleepyDevice

/-- `sl_button_on_change` of a pressed button: `sl_button_btn1`, or else `sl_button_btn0`. -/
def buttonPressed (device : SleepyDevice) (btn1 : Bool) : SleepyDevice :=
  if btn1 then { device with sButtonPressed := true }
  else { device with sRxOnIdleButtonPressed := true }

/-- The check for BTN0 of `applicationTick`; with a kernel and the power manager, a toggle also
gives up or takes the requirement to stay in EM1. -/
def toggleSleep (device : SleepyDevice) (kernel : Bool) : SleepyDevice × List (AppCall Address) :=
  if device.sRxOnIdleButtonPressed then
    let sAllowSleep := !device.sAllowSleep
    ({ device with sRxOnIdleButtonPressed := false, sAllowSleep, sPrintState := true },
      if kernel then [if sAllowSleep then .removeEmRequirement else .addEmRequirement] else [])
  else
    (device, [])

/-- `applicationTick`: the mode that a toggle left is printed by the next tick. -/
def applicationTick (device : SleepyDevice) (app : SleepyApp) (kernel : Bool) (udp : UdpAnswers) :
    SleepyDevice × List (AppCall Address) :=
  let printed := if device.sPrintState then [.switchingTo device.sAllowSleep] else []
  let toggled := { device with sPrintState := false }.toggleSleep kernel
  let sent :=
    if toggled.1.sButtonPressed then
      sendMessage udp udp.addressFromString .multicast multicastPort app.message
    else
      []
  ({ toggled.1 with sButtonPressed := false }, printed ++ toggled.2 ++ sent)

/-- `mtdReceiveCallback` and `ssedReceiveCallback`: whether the payload is printed. -/
def receiveCallback (payload : List UInt8) : Bool := isMessage ftdMessage payload

end SleepyDevice

/-- The variables of `sleepy-ftd.c`. -/
structure Ftd (Address : Type*) where
  sHaveSwitchAddress : Bool := false
  sSwitchAddress : Address
  sFtdButtonPressed : Bool := false
  deriving DecidableEq, Repr

namespace Ftd

variable (device : Ftd Address)

/-- `sl_button_on_change` of a pressed button. -/
def buttonPressed : Ftd Address := { device with sFtdButtonPressed := true }

/-- `applicationTick` -/
def applicationTick (udp : UdpAnswers) : Ftd Address × List (AppCall Address) :=
  if device.sFtdButtonPressed then
    ({ device with sFtdButtonPressed := false },
      sendMessage udp device.sHaveSwitchAddress (.unicast device.sSwitchAddress) recvPort
        ftdMessage)
  else
    (device, [])

/-- The check of `sFtdReceiveCallback`: whether the payload is printed. -/
def isButtonMessage (payload : List UInt8) : Bool :=
  isMessage (SleepyApp.message .mtd) payload || isMessage (SleepyApp.message .ssed) payload

/-- `sFtdReceiveCallback`: the sender of a button message is stored. -/
def sFtdReceiveCallback (source : Address) (payload : List UInt8) : Ftd Address :=
  if isButtonMessage payload then
    { device with sHaveSwitchAddress := true, sSwitchAddress := source }
  else
    device

end Ftd

end OtEfr32.SleepyDemo
