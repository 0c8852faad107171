import OtEfr32.SleepyDemo.Network
import OtEfr32.Transition.Explained

/-!
# What causes a message

No device of the demo sends or prints a message without a cause: a button that was pressed, a
datagram that was sent.  A sleepy device that prints a message had its button pressed, was heard by
a full device, and was the last one that this device had heard when its own button was served.
-/

namespace OtEfr32.SleepyDemo

open Transition

variable {Node Address : Type*}

theorem mem_sendMessage {udp : UdpAnswers} {prepared accepted : Bool} {peer peer' : Peer Address}
    {port port' : ℕ} {payload payload' : List UInt8}
    (h : .otUdpSend peer' port' payload' accepted ∈ sendMessage udp prepared peer port payload) :
    prepared = true ∧ peer' = peer ∧ port' = port ∧ payload' = payload := by
  unfold sendMessage at h
  split_ifs at h with hnew hprepared hsend <;> simp_all

namespace SleepyDevice

theorem toggleSleep_sButtonPressed (device : SleepyDevice) (kernel : Bool) :
    (@toggleSleep Address device kernel).1.sButtonPressed = device.sButtonPressed := by
  unfold toggleSleep
  split <;> rfl

theorem toggleSleep_sRxOnIdleButtonPressed (device : SleepyDevice) (kernel : Bool) :
    (@toggleSleep Address device kernel).1.sRxOnIdleButtonPressed = false := by
  unfold toggleSleep
  split
  · rfl
  · exact Bool.of_not_eq_true ‹_›

theorem notMem_toggleSleep {device : SleepyDevice} {kernel accepted : Bool} {peer : Peer Address}
    {port : ℕ} {payload : List UInt8} :
    .otUdpSend peer port payload accepted ∉ (device.toggleSleep kernel).2 := by
  unfold toggleSleep
  split_ifs
  · rw [List.mem_singleton]
    split <;> nofun
  all_goals exact List.not_mem_nil

theorem send_of_tick {device : SleepyDevice} {app : SleepyApp} {kernel accepted : Bool}
    {udp : UdpAnswers} {peer : Peer Address} {port : ℕ} {payload : List UInt8}
    (h : .otUdpSend peer port payload accepted ∈ (device.applicationTick app kernel udp).2) :
    device.sButtonPressed = true ∧ peer = .multicast ∧ port = multicastPort ∧
      payload = app.message := by
  rw [applicationTick, List.mem_append, List.mem_append, toggleSleep_sButtonPressed] at h
  rcases h with (hprinted | htoggled) | hsent
  · split_ifs at hprinted <;> simp at hprinted
  · exact absurd htoggled notMem_toggleSleep
  · split_ifs at hsent with hpressed
    · exact ⟨hpressed, (mem_sendMessage hsent).2⟩
    · simp at hsent

/-- A tick serves both buttons. -/
theorem applicationTick_pressed (device : SleepyDevice) (app : SleepyApp) (kernel : Bool)
    (udp : UdpAnswers) :
    (@applicationTick Address device app kernel udp).1.sButtonPressed = false ∧
      (@applicationTick Address device app kernel udp).1.sRxOnIdleButtonPressed =
        false :=
  ⟨rfl, toggleSleep_sRxOnIdleButtonPressed _ kernel⟩

end SleepyDevice

theorem Ftd.send_of_tick {device : Ftd Address} {accepted : Bool} {udp : UdpAnswers}
    {peer : Peer Address} {port : ℕ} {payload : List UInt8}
    (h : .otUdpSend peer port payload accepted ∈ (device.applicationTick udp).2) :
    device.sFtdButtonPressed = true ∧ device.sHaveSwitchAddress = true ∧
      peer = .unicast device.sSwitchAddress ∧ port = recvPort ∧ payload = ftdMessage := by
  unfold applicationTick at h
  split_ifs at h with hpressed
  · exact ⟨hpressed, mem_sendMessage h⟩
  · simp at h

theorem Entry.mem_datagrams {history : List (Entry Node Address)} {datagram : Datagram Address}
    (h : datagram ∈ history.filterMap Entry.datagram) :
    (∃ node, .called node datagram.source
        (.otUdpSend datagram.peer datagram.port datagram.payload true) ∈ history) ∨
      .foreign datagram ∈ history := by
  obtain ⟨entry, hmem, hentry⟩ := List.mem_filterMap.mp h
  unfold Entry.datagram at hentry
  split at hentry
  · obtain rfl := Option.some.inj hentry
    exact .inl ⟨_, hmem⟩
  · obtain rfl := Option.some.inj hentry
    exact .inr hmem
  · contradiction

/-- The address that the device stored. -/
def Ftd.switchAddress (device : Ftd Address) : Option Address :=
  if device.sHaveSwitchAddress then some device.sSwitchAddress else none

variable [DecidableEq Node]

/-- The senders of the messages that a device printed, in order. -/
def heardFrom (node : Node) (history : List (Entry Node Address)) : List Address :=
  history.filterMap fun
    | .received receiver datagram => if receiver = node then some datagram.source else none
    | _ => none

theorem heardFrom_append (node : Node) (history more : List (Entry Node Address)) :
    heardFrom node (history ++ more) = heardFrom node history ++ heardFrom node more :=
  List.filterMap_append

theorem heardFrom_eq_nil {node : Node} {more : List (Entry Node Address)}
    (h : ∀ datagram, .received node datagram ∉ more) : heardFrom node more = [] := by
  apply List.filterMap_eq_nil_iff.mpr
  rintro (_ | _ | ⟨receiver, datagram⟩ | _) hentry
  case received =>
    refine if_neg fun hsame ↦ ?_
    subst hsame
    exact h datagram hentry
  all_goals rfl

namespace Deployment

variable (deployment : Deployment Node Address)

/-- A press of the button that `isPending` speaks about. -/
def isPress (node : Node) (btn1 : Bool) : Entry Node Address → Bool
  | .pressed pressed other _ =>
    pressed == node && (deployment.role node == .ftd || other == btn1)
  | _ => false

/-- The cause of an entry in the part of the history before it. -/
def Explains (before : List (Entry Node Address)) : Entry Node Address → Prop
  | .called node source (.otUdpSend peer port payload _) =>
    deployment.ownerOf source = some node ∧
      (∃ entry ∈ before, deployment.isPress node true entry = true) ∧
      match deployment.role node with
      | .sleepy app => peer = .multicast ∧ port = multicastPort ∧ payload = app.message
      | .ftd => port = recvPort ∧ payload = ftdMessage ∧
          ∃ address, peer = .unicast address ∧ (heardFrom node before).getLast? = some address
  | .received node datagram =>
    datagram ∈ before.filterMap Entry.datagram ∧ deployment.reaches node datagram = true ∧
      deployment.accepts node datagram.payload = true
  | _ => True

/-- What the variables of the devices and the history have to do with each other. -/
structure Consistent (state : Demo Node Address × List (Entry Node Address)) : Prop where
  network : state.1.network = state.2.filterMap Entry.datagram
  switchAddress : ∀ node, deployment.role node = .ftd →
    (heardFrom node state.2).getLast? = (state.1.ftd node).switchAddress
  pending : ∀ node, deployment.isPending state.1 node true = true →
    ∃ entry ∈ state.2, deployment.isPress node true entry = true
  explained : Explained deployment.Explains state.2

theorem isPending_press (demo : Demo Node Address) (node node' : Node) (btn1 btn1' : Bool) :
    deployment.isPending (deployment.press demo node btn1) node' btn1' =
      (deployment.isPending demo node' btn1' ||
        node == node' && (deployment.role node' == .ftd || btn1 == btn1')) := by
  unfold isPending press
  rcases eq_or_ne node node' with rfl | hother
  · cases deployment.role node <;> cases btn1 <;> cases btn1' <;>
      simp [SleepyDevice.buttonPressed, Ftd.buttonPressed]
  · have hno : (node == node') = false := beq_false_of_ne hother
    rw [hno, Bool.false_and, Bool.or_false]
    cases deployment.role node <;> simp [Function.update_of_ne hother.symm]

theorem isPending_tick (demo : Demo Node Address) (node node' : Node) (udp : UdpAnswers)
    (btn1 : Bool) :
    deployment.isPending (deployment.tick demo node udp).1 node' btn1 =
      (deployment.isPending demo node' btn1 && node != node') := by
  unfold isPending tick
  rcases eq_or_ne node node' with rfl | hother
  · cases deployment.role node with
    | sleepy app =>
      have hserved := @SleepyDevice.applicationTick_pressed Address (demo.sleepy node) app
        (deployment.kernel node) udp
      simp only [Function.update_self, bne_self_eq_false, Bool.and_false]
      cases btn1
      · exact hserved.2
      · exact hserved.1
    | ftd =>
      simp only [Function.update_self, bne_self_eq_false, Bool.and_false]
      unfold Ftd.applicationTick
      split
      · rfl
      · exact Bool.of_not_eq_true ‹_›
  · have hyes : (node != node') = true := bne_iff_ne.mpr hother
    rw [hyes, Bool.and_true]
    cases deployment.role node <;> simp [Function.update_of_ne hother.symm]

theorem isPending_receive (demo : Demo Node Address) (node node' : Node)
    (datagram : Datagram Address) (btn1 : Bool) :
    deployment.isPending (deployment.receive demo node datagram) node' btn1 =
      deployment.isPending demo node' btn1 := by
  unfold isPending receive
  rcases eq_or_ne node node' with rfl | hother
  · cases deployment.role node with
    | sleepy app => rfl
    | ftd =>
      simp only [Function.update_self]
      unfold Ftd.sFtdReceiveCallback
      split <;> rfl
  · cases deployment.role node <;> simp [Function.update_of_ne hother.symm]

variable {deployment}

theorem switchAddress_press (demo : Demo Node Address) (node node' : Node) (btn1 : Bool) :
    ((deployment.press demo node btn1).ftd node').switchAddress =
      (demo.ftd node').switchAddress := by
  unfold press
  cases deployment.role node with
  | sleepy app => rfl
  | ftd =>
    rcases eq_or_ne node node' with rfl | hother
    · simp [Ftd.buttonPressed, Ftd.switchAddress]
    · simp [Function.update_of_ne hother.symm]

theorem switchAddress_tick (demo : Demo Node Address) (node node' : Node) (udp : UdpAnswers) :
    ((deployment.tick demo node udp).1.ftd node').switchAddress =
      (demo.ftd node').switchAddress := by
  unfold tick
  cases deployment.role node with
  | sleepy app => rfl
  | ftd =>
    rcases eq_or_ne node node' with rfl | hother
    · simp only [Function.update_self]
      unfold Ftd.applicationTick
      split <;> rfl
    · simp [Function.update_of_ne hother.symm]

theorem switchAddress_receive (demo : Demo Node Address) (node node' : Node)
    (datagram : Datagram Address) (hrole : deployment.role node' = .ftd) :
    ((deployment.receive demo node datagram).ftd node').switchAddress =
      if node = node' ∧ deployment.accepts node datagram.payload = true then some datagram.source
      else (demo.ftd node').switchAddress := by
  unfold receive
  rcases eq_or_ne node node' with rfl | hother
  · rw [accepts, hrole]
    simp only [Function.update_self, true_and]
    unfold Ftd.sFtdReceiveCallback
    split <;> rfl
  · rw [if_neg fun h ↦ hother h.1]
    cases deployment.role node <;> simp [Function.update_of_ne hother.symm]

variable {demo next : Demo Node Address} {event : DemoEvent Node Address}

/-- What a device sends, and when. -/
theorem send_of_tick {node : Node} {udp : UdpAnswers} {peer : Peer Address} {port : ℕ}
    {payload : List UInt8} {accepted : Bool}
    (h : .otUdpSend peer port payload accepted ∈ (deployment.tick demo node udp).2) :
    deployment.isPending demo node true = true ∧
      match deployment.role node with
      | .sleepy app => peer = .multicast ∧ port = multicastPort ∧ payload = app.message
      | .ftd => port = recvPort ∧ payload = ftdMessage ∧
          ∃ address, peer = .unicast address ∧ (demo.ftd node).switchAddress = some address := by
  revert h
  unfold tick isPending
  cases deployment.role node with
  | sleepy app => exact SleepyDevice.send_of_tick
  | ftd =>
    intro h
    obtain ⟨hpressed, hstored, hpeer, hport, hpayload⟩ := Ftd.send_of_tick h
    exact ⟨hpressed, hport, hpayload, _, hpeer, if_pos hstored⟩

/-- The mesh carries what the entries put on it. -/
theorem DemoStep.network (hstep : deployment.DemoStep demo event next) :
    next.network =
      demo.network ++ (deployment.entries demo event).filterMap Entry.datagram := by
  cases hstep with
  | @buttonPressed node btn1 =>
    have hnone : (deployment.entries demo (.buttonPressed node btn1)).filterMap Entry.datagram =
      [] := rfl
    rw [hnone, List.append_nil]
    unfold press
    cases deployment.role node <;> rfl
  | applicationTick => rfl
  | @deliver node datagram =>
    have hnone : (deployment.entries demo (.deliver node datagram)).filterMap Entry.datagram =
        [] := by
      rw [entries]
      split <;> rfl
    rw [hnone, List.append_nil]
    unfold receive
    cases deployment.role node <;> rfl
  | foreign => rfl

/-- A full device stores the sender of the last message that it printed. -/
theorem DemoStep.switchAddress (hstep : deployment.DemoStep demo event next) {node : Node}
    (hrole : deployment.role node = .ftd) {history : List (Entry Node Address)}
    (h : (heardFrom node history).getLast? = (demo.ftd node).switchAddress) :
    (heardFrom node (history ++ deployment.entries demo event)).getLast? =
      (next.ftd node).switchAddress := by
  rw [heardFrom_append]
  cases hstep with
  | @buttonPressed pressed btn1 =>
    have hnone : heardFrom node (deployment.entries demo (.buttonPressed pressed btn1)) = [] := rfl
    rw [hnone, List.append_nil, h, switchAddress_press]
  | @applicationTick ticked source udp =>
    have hnone : heardFrom node (deployment.entries demo (.applicationTick ticked source udp)) =
      [] := heardFrom_eq_nil (by simp [entries])
    rw [hnone, List.append_nil, h]
    exact (switchAddress_tick demo ticked node udp).symm
  | @deliver receiver datagram =>
    rw [switchAddress_receive demo receiver node datagram hrole, entries]
    by_cases haccepts : deployment.accepts receiver datagram.payload = true
    · rw [if_pos haccepts]
      rcases eq_or_ne receiver node with rfl | hother
      · have hheard : heardFrom receiver [Entry.received receiver datagram] = [datagram.source] :=
          by simp [heardFrom]
        rw [if_pos ⟨rfl, haccepts⟩, hheard, List.getLast?_concat]
      · have hnone : heardFrom node [Entry.received receiver datagram] = [] := by
          simp [heardFrom, hother]
        rw [if_neg fun hnow ↦ hother hnow.1, hnone, List.append_nil, h]
    · have hnone : heardFrom node ([] : List (Entry Node Address)) = [] := rfl
      rw [if_neg haccepts, if_neg fun hnow ↦ haccepts hnow.2, hnone, List.append_nil, h]
  | @foreign datagram =>
    have hnone : heardFrom node (deployment.entries demo (.foreign datagram)) = [] := rfl
    rw [hnone, List.append_nil, h]

/-- A button that is to be served was pressed. -/
theorem DemoStep.pending (hstep : deployment.DemoStep demo event next) {node : Node}
    {history : List (Entry Node Address)}
    (h : deployment.isPending demo node true = true →
      ∃ entry ∈ history, deployment.isPress node true entry = true)
    (hpending : deployment.isPending next node true = true) :
    ∃ entry ∈ history ++ deployment.entries demo event,
      deployment.isPress node true entry = true := by
  have hearlier (hbefore : deployment.isPending demo node true = true) :
      ∃ entry ∈ history ++ deployment.entries demo event,
        deployment.isPress node true entry = true := by
    obtain ⟨entry, hmem, hpress⟩ := h hbefore
    exact ⟨entry, List.mem_append_left _ hmem, hpress⟩
  cases hstep with
  | @buttonPressed pressed btn1 =>
    rw [isPending_press, Bool.or_eq_true] at hpending
    rcases hpending with hbefore | hnow
    · exact hearlier hbefore
    · exact ⟨_, List.mem_append_right _ List.mem_cons_self, hnow⟩
  | @applicationTick ticked source udp =>
    have hsame := deployment.isPending_tick demo ticked node udp true
    exact hearlier (Bool.and_eq_true_iff.mp (hsame.symm.trans hpending)).1
  | @deliver receiver datagram =>
    have hsame := deployment.isPending_receive demo receiver node datagram true
    exact hearlier (hsame.symm.trans hpending)
  | foreign => exact hearlier hpending

/-- Every entry of a step has its cause. -/
theorem DemoStep.explained (hstep : deployment.DemoStep demo event next)
    {history : List (Entry Node Address)} (h : deployment.Consistent (demo, history)) :
    Explained deployment.Explains (history ++ deployment.entries demo event) := by
  apply h.explained.append
  cases hstep with
  | buttonPressed => exact explained_singleton trivial
  | @applicationTick node source udp howns =>
    apply explained_of_forall
    intro entry hmem before hbefore
    obtain ⟨call, hcall, rfl⟩ := List.mem_map.mp hmem
    cases call with
    | otUdpSend peer port payload accepted =>
      have hheard : heardFrom node (history ++ before) = heardFrom node history := by
        have hnone : heardFrom node before = [] := by
          apply heardFrom_eq_nil
          intro datagram hreceived
          simpa [entries] using hbefore hreceived
        rw [heardFrom_append, hnone, List.append_nil]
      obtain ⟨hpending, hsend⟩ := send_of_tick hcall
      obtain ⟨press, hpress, hispress⟩ := h.pending node hpending
      refine ⟨howns, ⟨press, List.mem_append_left _ hpress, hispress⟩, ?_⟩
      revert hsend
      rw [hheard]
      cases hrole : deployment.role node with
      | sleepy app => exact id
      | ftd =>
        rintro ⟨hport, hpayload, address, hpeer, hstored⟩
        exact ⟨hport, hpayload, address, hpeer, (h.switchAddress node hrole).trans hstored⟩
    | _ => trivial
  | @deliver node datagram hcarried hreaches =>
    rw [entries]
    split
    · refine explained_singleton ⟨?_, hreaches, ‹_›⟩
      rw [List.append_nil, ← h.network]
      exact hcarried
    · exact explained_nil
  | foreign => exact explained_singleton trivial

theorem isPress_iff {node : Node} {btn1 : Bool} {entry : Entry Node Address} :
    deployment.isPress node btn1 entry = true ↔
      ∃ other merged, entry = .pressed node other merged ∧
        (deployment.role node = .ftd ∨ other = btn1) := by
  cases entry with
  | pressed pressed other merged =>
    rw [isPress, Bool.and_eq_true, beq_iff_eq, Bool.or_eq_true, beq_iff_eq, beq_iff_eq]
    constructor
    · rintro ⟨rfl, hbutton⟩
      exact ⟨other, merged, rfl, hbutton⟩
    · rintro ⟨other', merged', heq, hbutton⟩
      obtain ⟨rfl, rfl, rfl⟩ := Entry.pressed.inj heq
      exact ⟨rfl, hbutton⟩
  | _ => simp [isPress]

/-- No other application sends what a device of the demo takes for a button message. -/
def NoForeignMessage (deployment : Deployment Node Address)
    (history : List (Entry Node Address)) : Prop :=
  ∀ datagram, .foreign datagram ∈ history → ∀ node,
    ¬ (deployment.reaches node datagram = true ∧
      deployment.accepts node datagram.payload = true)

/-- What a device prints was sent by a device. -/
theorem sent_of_received {history before : List (Entry Node Address)} {node : Node}
    {datagram : Datagram Address} (hforeign : deployment.NoForeignMessage history)
    (hbefore : before ⊆ history)
    (h : deployment.Explains before (.received node datagram)) :
    ∃ sender, .called sender datagram.source
      (.otUdpSend datagram.peer datagram.port datagram.payload true) ∈ before := by
  obtain ⟨hcarried, hreaches, haccepts⟩ := h
  rcases Entry.mem_datagrams hcarried with hsent | hother
  · exact hsent
  · exact absurd ⟨hreaches, haccepts⟩ (hforeign datagram (hbefore hother) node)

theorem received_of_heardFrom {history : List (Entry Node Address)} {node : Node}
    {address : Address} (h : address ∈ heardFrom node history) :
    ∃ datagram, .received node datagram ∈ history ∧ datagram.source = address := by
  obtain ⟨entry, hentry, hsome⟩ := List.mem_filterMap.mp h
  cases entry with
  | received receiver datagram =>
    by_cases hsame : receiver = node
    · subst hsame
      exact ⟨datagram, hentry, by simpa using hsome⟩
    · simp [hsame] at hsome
  | _ => simp at hsome

theorem port_of_reaches {node : Node} {datagram : Datagram Address}
    (h : deployment.reaches node datagram = true) :
    datagram.port = match deployment.role node with
      | .sleepy _ => recvPort
      | .ftd => multicastPort := by
  have hport := (Bool.and_eq_true_iff.mp h).2
  revert hport
  cases deployment.role node <;> exact beq_iff_eq.mp

theorem initial_consistent (unspecified : Address) :
    deployment.Consistent (initial unspecified, []) where
  network := rfl
  switchAddress _ _ := rfl
  pending node h := by
    unfold isPending initial at h
    cases hrole : deployment.role node <;> simp [hrole] at h
  explained := explained_nil

theorem isMessage_self {message : List UInt8} (hnul : 0 ∉ message) (hlength : message.length < 63) :
    isMessage message message = true :=
  (isMessage_iff hnul hlength message).mpr (.inl rfl)

/-- What a device sends is what the devices that it reaches take for a button message. -/
theorem accepts_of_sent {before : List (Entry Node Address)} {sender receiver : Node}
    {datagram : Datagram Address} {accepted : Bool}
    (h : deployment.Explains before (.called sender datagram.source
      (.otUdpSend datagram.peer datagram.port datagram.payload accepted)))
    (hreaches : deployment.reaches receiver datagram = true) :
    deployment.accepts receiver datagram.payload = true := by
  obtain ⟨-, -, hsent⟩ := h
  have hport := port_of_reaches hreaches
  unfold accepts
  cases hsender : deployment.role sender with
  | sleepy app =>
    rw [hsender] at hsent
    obtain ⟨-, hsentPort, hpayload⟩ := hsent
    cases hreceiver : deployment.role receiver with
    | sleepy other =>
      rw [hreceiver] at hport
      have hclash : recvPort = multicastPort := hport.symm.trans hsentPort
      contradiction
    | ftd =>
      rw [hpayload]
      cases app with
      | mtd => exact Bool.or_eq_true_iff.mpr (.inl (isMessage_self (by decide) (by decide)))
      | ssed => exact Bool.or_eq_true_iff.mpr (.inr (isMessage_self (by decide) (by decide)))
  | ftd =>
    rw [hsender] at hsent
    obtain ⟨hsentPort, hpayload, -⟩ := hsent
    cases hreceiver : deployment.role receiver with
    | sleepy other =>
      rw [hpayload]
      exact isMessage_self (by decide) (by decide)
    | ftd =>
      rw [hreceiver] at hport
      have hclash : multicastPort = recvPort := hport.symm.trans hsentPort
      contradiction

section Chain

variable {history before : List (Entry Node Address)} {node ftd : Node} {app : SleepyApp}

/-- A sleepy device prints what a full device sent to it: the last device that it had heard. -/
theorem unicast_of_received (hforeign : deployment.NoForeignMessage history)
    (hsubset : before ⊆ history) (hbefore : Explained deployment.Explains before)
    (hrole : deployment.role node = .sleepy app) {datagram : Datagram Address}
    (h : deployment.Explains before (.received node datagram)) :
    ∃ ftd source address earlier, deployment.role ftd = .ftd ∧
      datagram = ⟨source, .unicast address, recvPort, ftdMessage⟩ ∧
      deployment.ownerOf address = some node ∧
      earlier ++ [.called ftd source (.otUdpSend (.unicast address) recvPort ftdMessage true)]
        <+: before ∧
      Explained deployment.Explains earlier ∧
      (∃ btn1 merged, .pressed ftd btn1 merged ∈ earlier) ∧
      (heardFrom ftd earlier).getLast? = some address := by
  obtain ⟨ftd, hsent⟩ := sent_of_received hforeign hsubset h
  obtain ⟨earlier, hprefix, hearlier, -, ⟨press, hpress, hispress⟩, hftd⟩ := hbefore.of_mem hsent
  obtain ⟨btn1, merged, rfl, -⟩ := isPress_iff.mp hispress
  have hport : datagram.port = recvPort := by rw [port_of_reaches h.2.1, hrole]
  cases hsender : deployment.role ftd with
  | sleepy other =>
    rw [hsender] at hftd
    have hclash : recvPort = multicastPort := hport.symm.trans hftd.2.1
    contradiction
  | ftd =>
    rw [hsender] at hftd
    obtain ⟨-, hpayload, address, hpeer, hheard⟩ := hftd
    have hdatagram : datagram = ⟨datagram.source, .unicast address, recvPort, ftdMessage⟩ := by
      rw [← hpeer, ← hport, ← hpayload]
    have howner := (Bool.and_eq_true_iff.mp h.2.1).1
    rw [hpeer] at howner
    rw [hpeer, hport, hpayload] at hprefix
    exact ⟨ftd, datagram.source, address, earlier, hsender, hdatagram, beq_iff_eq.mp howner,
      hprefix, hearlier, ⟨btn1, merged, hpress⟩, hheard⟩

/-- A full device heard a sleepy device because the button of that device was pressed. -/
theorem pressed_of_heardFrom (hforeign : deployment.NoForeignMessage history)
    (hsubset : before ⊆ history) (hbefore : Explained deployment.Explains before)
    (hrole : deployment.role node = .sleepy app)
    {address : Address} (howner : deployment.ownerOf address = some node)
    (h : address ∈ heardFrom ftd before) :
    ∃ merged, List.Sublist [.pressed node true merged,
      .called node address (.otUdpSend .multicast multicastPort app.message true),
      .received ftd ⟨address, .multicast, multicastPort, app.message⟩] before := by
  obtain ⟨datagram, hreceived, rfl⟩ := received_of_heardFrom h
  obtain ⟨front, hfront, hexplained, hcause⟩ := hbefore.of_mem hreceived
  have hearlier : front ⊆ history :=
    List.Subset.trans (List.Subset.trans (List.subset_append_left _ _) hfront.subset) hsubset
  obtain ⟨sender, hsent⟩ := sent_of_received hforeign hearlier hcause
  obtain ⟨start, hstart, -, hsource, ⟨press, hpress, hispress⟩, hsender⟩ := hexplained.of_mem hsent
  obtain rfl : sender = node := Option.some.inj (hsource.symm.trans howner)
  rw [hrole] at hsender
  obtain ⟨hpeer, hport, hpayload⟩ := hsender
  obtain ⟨btn1, merged, rfl, hbutton⟩ := isPress_iff.mp hispress
  obtain rfl : btn1 = true := hbutton.resolve_left (by rw [hrole]; nofun)
  have hdatagram : datagram = ⟨datagram.source, .multicast, multicastPort, app.message⟩ := by
    rw [← hpeer, ← hport, ← hpayload]
  rw [hpeer, hport, hpayload] at hstart
  rw [hdatagram] at hfront
  have hpressed : List.Sublist [.pressed sender true merged] start :=
    List.singleton_sublist.mpr hpress
  have hcalled := (hpressed.append_right _).trans hstart.sublist
  exact ⟨merged, (hcalled.append_right _).trans hfront.sublist⟩

end Chain

variable [DecidableEq Address]

/-- `Consistent` is an invariant. -/
theorem historyStep_consistent {state next : Demo Node Address × List (Entry Node Address)}
    {event : DemoEvent Node Address} (h : deployment.Consistent state)
    (hstep : deployment.historyStep state event = some next) : deployment.Consistent next := by
  obtain ⟨demo, history⟩ := state
  obtain ⟨hdemo, hhistory⟩ := recording_eq_some.mp hstep
  have hstep := step_of_demoStep deployment hdemo
  obtain ⟨next, more⟩ := next
  subst hhistory
  exact {
    network := by rw [hstep.network, h.network, List.filterMap_append]
    switchAddress := fun node hrole ↦ hstep.switchAddress hrole (h.switchAddress node hrole)
    pending := fun node ↦ hstep.pending (h.pending node)
    explained := hstep.explained h }

/-- Every entry of every run has its cause. -/
theorem explained_of_run {unspecified : Address} {events : List (DemoEvent Node Address)}
    {demo : Demo Node Address} {history : List (Entry Node Address)}
    (hrun : exec deployment.historyStep (initial unspecified, []) events = some (demo, history)) :
    Explained deployment.Explains history :=
  (exec_inv (fun _ _ _ ↦ historyStep_consistent) (initial_consistent unspecified) hrun).explained

/-- A datagram that a device sent is printed wherever and whenever the mesh delivers it. -/
theorem received_of_deliver {unspecified : Address} {events : List (DemoEvent Node Address)}
    {demo : Demo Node Address} {history : List (Entry Node Address)}
    (hrun : exec deployment.historyStep (initial unspecified, []) events = some (demo, history))
    {sender receiver : Node} {datagram : Datagram Address}
    (hsent : .called sender datagram.source
      (.otUdpSend datagram.peer datagram.port datagram.payload true) ∈ history)
    (hreaches : deployment.reaches receiver datagram = true) :
    exec deployment.historyStep (initial unspecified, []) (events ++ [.deliver receiver datagram]) =
      some (deployment.receive demo receiver datagram,
        history ++ [.received receiver datagram]) := by
  have h := exec_inv (fun _ _ _ ↦ historyStep_consistent) (initial_consistent unspecified) hrun
  obtain ⟨before, -, -, hcause⟩ := h.explained.of_mem hsent
  have haccepts := accepts_of_sent hcause hreaches
  have hcarried : datagram ∈ demo.network := by
    rw [h.network]
    exact List.mem_filterMap.mpr ⟨_, hsent, rfl⟩
  have hstep : deployment.historyStep (demo, history) (.deliver receiver datagram) =
      some (deployment.receive demo receiver datagram,
        history ++ [.received receiver datagram]) := by
    rw [historyStep, recording_eq_some, demoStep, entries, if_pos haccepts]
    exact ⟨if_pos ⟨hcarried, hreaches⟩, rfl⟩
  rw [exec_append, hrun, Option.bind_some, exec_cons, hstep, Option.bind_some, exec_nil]

/-- A sleepy device prints a message only if its own button was pressed, the full device that sent
the printed datagram heard the message that it then sent, heard no other device since, and had its
own button pressed. -/
theorem received_of_buttons {unspecified : Address} {events : List (DemoEvent Node Address)}
    {demo : Demo Node Address} {history : List (Entry Node Address)}
    (hrun : exec deployment.historyStep (initial unspecified, []) events = some (demo, history))
    (hforeign : deployment.NoForeignMessage history)
    {node : Node} {app : SleepyApp} (hrole : deployment.role node = .sleepy app)
    {datagram : Datagram Address} {before after : List (Entry Node Address)}
    (hreceived : history = before ++ .received node datagram :: after) :
    ∃ ftd source address earlier, deployment.role ftd = .ftd ∧
      datagram = ⟨source, .unicast address, recvPort, ftdMessage⟩ ∧
      deployment.ownerOf address = some node ∧
      earlier ++ [.called ftd source (.otUdpSend (.unicast address) recvPort ftdMessage true)]
        <+: before ∧
      (∃ btn1 merged, .pressed ftd btn1 merged ∈ earlier) ∧
      (heardFrom ftd earlier).getLast? = some address ∧
      ∃ merged, List.Sublist [.pressed node true merged,
        .called node address (.otUdpSend .multicast multicastPort app.message true),
        .received ftd ⟨address, .multicast, multicastPort, app.message⟩] earlier := by
  have hexplained := explained_of_run hrun
  have hbefore : Explained deployment.Explains before := by
    rintro front entry back rfl
    exact hexplained front entry _ (by rw [hreceived, List.append_assoc, List.cons_append])
  have hsubset : before ⊆ history := hreceived ▸ List.subset_append_left before _
  obtain ⟨ftd, source, address, earlier, hftd, hdatagram, howner, hprefix, hearlier, hpressed,
    hheard⟩ :=
    unicast_of_received hforeign hsubset hbefore hrole (hexplained before _ after hreceived)
  have hinside : earlier ⊆ history :=
    List.Subset.trans (List.Subset.trans (List.subset_append_left _ _) hprefix.subset) hsubset
  have hbutton := pressed_of_heardFrom hforeign hinside hearlier hrole howner
    (List.mem_of_getLast? hheard)
  exact ⟨ftd, source, address, earlier, hftd, hdatagram, howner, hprefix, hpressed, hheard, hbutton⟩

/-- A full device and a sleepy one. -/
def pair : Deployment Bool ℕ where
  role node := if node then .sleepy .mtd else .ftd
  kernel _ := false
  ownerOf address := if address = 1 then some true else if address = 2 then some false else none

/-- The button of the sleepy device is pressed, then that of the full device. -/
def buttonEvents : List (DemoEvent Bool ℕ) :=
  [.buttonPressed true true, .applicationTick true 1 {},
    .deliver false ⟨1, .multicast, multicastPort, SleepyApp.mtd.message⟩,
    .buttonPressed false false, .applicationTick false 2 {},
    .deliver true ⟨2, .unicast 1, recvPort, ftdMessage⟩]

def buttonHistory : List (Entry Bool ℕ) :=
  [.pressed true true false, .called true 1 (.otUdpNewMessage true),
    .called true 1 (.otUdpSend .multicast multicastPort SleepyApp.mtd.message true),
    .received false ⟨1, .multicast, multicastPort, SleepyApp.mtd.message⟩,
    .pressed false false false, .called false 2 (.otUdpNewMessage true),
    .called false 2 (.otUdpSend (.unicast 1) recvPort ftdMessage true)]

theorem received_of_buttons_pair :
    ∃ ftd source address earlier, pair.role ftd = .ftd ∧
      Datagram.mk 2 (.unicast 1) recvPort ftdMessage =
        ⟨source, .unicast address, recvPort, ftdMessage⟩ ∧
      pair.ownerOf address = some true ∧
      earlier ++ [.called ftd source (.otUdpSend (.unicast address) recvPort ftdMessage true)]
        <+: buttonHistory ∧
      (∃ btn1 merged, .pressed ftd btn1 merged ∈ earlier) ∧
      (heardFrom ftd earlier).getLast? = some address ∧
      ∃ merged, List.Sublist [.pressed true true merged,
        .called true address (.otUdpSend .multicast multicastPort SleepyApp.mtd.message true),
        .received ftd ⟨address, .multicast, multicastPort, SleepyApp.mtd.message⟩] earlier := by
  have hrun : (exec pair.historyStep (initial 0, []) buttonEvents).map Prod.snd =
      some (buttonHistory ++ [.received true ⟨2, .unicast 1, recvPort, ftdMessage⟩]) := by decide
  obtain ⟨⟨demo, history⟩, hexec, hhistory⟩ := Option.map_eq_some_iff.mp hrun
  refine received_of_buttons hexec ?_ rfl hhistory
  intro datagram hmem
  change history = _ at hhistory
  subst hhistory
  exact absurd hmem (by simp [buttonHistory])

end Deployment

end OtEfr32.SleepyDemo
