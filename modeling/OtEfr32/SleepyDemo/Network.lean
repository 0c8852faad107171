import Mathlib.Data.List.Basic
import Mathlib.Logic.Function.Basic
import Mathlib.Tactic.SplitIfs
import OtEfr32.SleepyDemo.Devices
import OtEfr32.Transition.Recording

/-!
# The sleepy demo as a system

Any number of sleepy and full devices share a mesh.  The mesh may lose, repeat and delay datagrams
and carries those of other applications: a datagram that was put on it can be delivered at any later
time, any number of times or never.  The history of a run tells what the applications did.
-/

namespace OtEfr32.SleepyDemo

/-- A datagram as the receiver sees it in `otMessageInfo` and `otMessage`. -/
structure Datagram (Address : Type*) where
  source : Address
  peer : Peer Address
  port : ℕ
  payload : List UInt8
  deriving DecidableEq, Repr

inductive Role where
  | sleepy (app : SleepyApp)
  | ftd
  deriving DecidableEq, Repr

/-- What is fixed when the devices are built and join the mesh: the application of each device,
whether it has a kernel and the power manager, and which device has an address. -/
structure Deployment (Node Address : Type*) where
  role : Node → Role
  kernel : Node → Bool
  ownerOf : Address → Option Node

/-- The variables of all devices, and the datagrams that were put on the mesh. -/
structure Demo (Node Address : Type*) where
  sleepy : Node → SleepyDevice
  ftd : Node → Ftd Address
  network : List (Datagram Address)

inductive DemoEvent (Node Address : Type*) where
  /-- `sl_button_on_change` with a button that is pressed; `btn1` tells which of the two. -/
  | buttonPressed (node : Node) (btn1 : Bool)
  /-- `applicationTick`; OpenThread would send from `source`. -/
  | applicationTick (node : Node) (source : Address) (udp : UdpAnswers)
  /-- The mesh hands a datagram to a device. -/
  | deliver (node : Node) (datagram : Datagram Address)
  /-- Another application puts a datagram on the mesh. -/
  | foreign (datagram : Datagram Address)

/-- What the history tells. -/
inductive Entry (Node Address : Type*) where
  /-- A press; `merged` tells that an earlier press of the button was not served yet. -/
  | pressed (node : Node) (btn1 merged : Bool)
  | called (node : Node) (source : Address) (call : AppCall Address)
  /-- A receive callback took the datagram for a button message. -/
  | received (node : Node) (datagram : Datagram Address)
  | foreign (datagram : Datagram Address)
  deriving DecidableEq, Repr

/-- The datagram that the entry puts on the mesh. -/
def Entry.datagram {Node Address : Type*} : Entry Node Address → Option (Datagram Address)
  | .called _ source (.otUdpSend peer port payload true) => some ⟨source, peer, port, payload⟩
  | .foreign datagram => some datagram
  | _ => none

variable {Node Address : Type*} [DecidableEq Node]

namespace Deployment

variable (deployment : Deployment Node Address)

/-- All devices before their first tick; the switch address is not set yet. -/
def initial (unspecified : Address) : Demo Node Address where
  sleepy _ := {}
  ftd _ := { sSwitchAddress := unspecified }
  network := []

/-- The datagram is sent to the device, and to the port that `initUdp` bound. -/
def reaches (node : Node) (datagram : Datagram Address) : Bool :=
  (match datagram.peer with
    | .multicast => true
    | .unicast address => deployment.ownerOf address == some node) &&
  (match deployment.role node with
    | .sleepy _ => datagram.port == recvPort
    | .ftd => datagram.port == multicastPort)

/-- The receive callback of the device takes the payload for a button message. -/
def accepts (node : Node) (payload : List UInt8) : Bool :=
  match deployment.role node with
  | .sleepy _ => SleepyDevice.receiveCallback payload
  | .ftd => Ftd.isButtonMessage payload

/-- `applicationTick` of a device and its calls. -/
def tick (demo : Demo Node Address) (node : Node) (udp : UdpAnswers) :
    Demo Node Address × List (AppCall Address) :=
  match deployment.role node with
  | .sleepy app =>
    let (device, calls) := (demo.sleepy node).applicationTick app (deployment.kernel node) udp
    ({ demo with sleepy := Function.update demo.sleepy node device }, calls)
  | .ftd =>
    let (device, calls) := (demo.ftd node).applicationTick udp
    ({ demo with ftd := Function.update demo.ftd node device }, calls)

/-- The receive callback of a device. -/
def receive (demo : Demo Node Address) (node : Node) (datagram : Datagram Address) :
    Demo Node Address :=
  match deployment.role node with
  | .sleepy _ => demo
  | .ftd =>
    { demo with
      ftd := Function.update demo.ftd node
        ((demo.ftd node).sFtdReceiveCallback datagram.source datagram.payload) }

/-- A press of a button is still to be served. -/
def isPending (demo : Demo Node Address) (node : Node) (btn1 : Bool) : Bool :=
  match deployment.role node with
  | .sleepy _ =>
    if btn1 then (demo.sleepy node).sButtonPressed else (demo.sleepy node).sRxOnIdleButtonPressed
  | .ftd => (demo.ftd node).sFtdButtonPressed

/-- `sl_button_on_change` of a pressed button. -/
def press (demo : Demo Node Address) (node : Node) (btn1 : Bool) : Demo Node Address :=
  match deployment.role node with
  | .sleepy _ =>
    { demo with
      sleepy := Function.update demo.sleepy node ((demo.sleepy node).buttonPressed btn1) }
  | .ftd => { demo with ftd := Function.update demo.ftd node (demo.ftd node).buttonPressed }

/-- What the history tells of an event. -/
def entries (demo : Demo Node Address) : DemoEvent Node Address → List (Entry Node Address)
  | .buttonPressed node btn1 => [.pressed node btn1 (deployment.isPending demo node btn1)]
  | .applicationTick node source udp => (deployment.tick demo node udp).2.map (.called node source)
  | .deliver node datagram =>
    if deployment.accepts node datagram.payload then [.received node datagram] else []
  | .foreign datagram => [.foreign datagram]

/-- What a step can do. -/
inductive DemoStep (demo : Demo Node Address) :
    DemoEvent Node Address → Demo Node Address → Prop where
  | buttonPressed {node : Node} {btn1 : Bool} :
    DemoStep demo (.buttonPressed node btn1) (deployment.press demo node btn1)
  | applicationTick {node : Node} {source : Address} {udp : UdpAnswers}
    (howns : deployment.ownerOf source = some node) :
    DemoStep demo (.applicationTick node source udp)
      { (deployment.tick demo node udp).1 with
        network := demo.network ++
          (deployment.entries demo (.applicationTick node source udp)).filterMap Entry.datagram }
  | deliver {node : Node} {datagram : Datagram Address} (hcarried : datagram ∈ demo.network)
    (hreaches : deployment.reaches node datagram = true) :
    DemoStep demo (.deliver node datagram) (deployment.receive demo node datagram)
  | foreign {datagram : Datagram Address} :
    DemoStep demo (.foreign datagram) { demo with network := demo.network ++ [datagram] }

variable [DecidableEq Address]

/-- One step of the system. -/
def demoStep (demo : Demo Node Address) (event : DemoEvent Node Address) :
    Option (Demo Node Address) :=
  let sent := (deployment.entries demo event).filterMap Entry.datagram
  match event with
  | .buttonPressed node btn1 => some (deployment.press demo node btn1)
  | .applicationTick node source udp =>
    if deployment.ownerOf source = some node then
      some { (deployment.tick demo node udp).1 with network := demo.network ++ sent }
    else
      none
  | .deliver node datagram =>
    if datagram ∈ demo.network ∧ deployment.reaches node datagram = true then
      some (deployment.receive demo node datagram)
    else
      none
  | .foreign _ => some { demo with network := demo.network ++ sent }

theorem step_of_demoStep {demo next : Demo Node Address} {event : DemoEvent Node Address}
    (hstep : deployment.demoStep demo event = some next) :
    deployment.DemoStep demo event next := by
  cases event with
  | buttonPressed node btn1 =>
    obtain rfl := Option.some.inj hstep
    exact .buttonPressed
  | applicationTick node source udp =>
    rw [demoStep] at hstep
    split_ifs at hstep with howns
    obtain rfl := Option.some.inj hstep
    exact .applicationTick howns
  | deliver node datagram =>
    rw [demoStep] at hstep
    split_ifs at hstep with hdelivered
    obtain rfl := Option.some.inj hstep
    exact .deliver hdelivered.1 hdelivered.2
  | foreign datagram =>
    obtain rfl := Option.some.inj hstep
    exact .foreign

/-- A step, told in the history. -/
def historyStep (state : Demo Node Address × List (Entry Node Address))
    (event : DemoEvent Node Address) : Option (Demo Node Address × List (Entry Node Address)) :=
  Transition.recording deployment.demoStep
    (fun demo event _ history ↦ history ++ deployment.entries demo event) state event

end Deployment

end OtEfr32.SleepyDemo
