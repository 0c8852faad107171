import Mathlib.Algebra.Order.Group.Nat
import OtEfr32.SleepyDemo.Causes

/-!
# The accounts of a device

Over every run, each press of a button is served once, unless it is merged with an earlier press
that is still to be served.  Every message buffer that a service takes is handed to OpenThread or
freed.  A sleepy device falls asleep with every other toggle, prints each mode once, and gives up
the requirement to stay awake before it takes it again.
-/

namespace OtEfr32.SleepyDemo

open Transition

namespace AppCall

variable {Address : Type*}

def isService : AppCall Address → Bool
  | .otUdpNewMessage _ => true
  | _ => false

def isAllocation : AppCall Address → Bool
  | .otUdpNewMessage allocated => allocated
  | _ => false

/-- OpenThread takes the buffer, or the application frees it. -/
def isRelease : AppCall Address → Bool
  | .otUdpSend _ _ _ accepted => accepted
  | .otMessageFree => true
  | _ => false

def mode : AppCall Address → Option Bool
  | .switchingTo sAllowSleep => some sAllowSleep
  | _ => none

/-- Whether the requirement to stay in EM1 is given up. -/
def requirement : AppCall Address → Option Bool
  | .removeEmRequirement => some true
  | .addEmRequirement => some false
  | _ => none

end AppCall

/-- The first `n` of the modes that are switched to in turn, from EM2 on. -/
def alternating (n : ℕ) : List Bool := (List.range n).map fun i ↦ i % 2 == 0

theorem alternating_succ (n : ℕ) : alternating (n + 1) = alternating n ++ [n % 2 == 0] := by
  rw [alternating, List.range_succ, List.map_append]
  rfl

theorem mod_two_eq_zero (n : ℕ) : (n % 2 == 0) = !(n % 2 == 1) := by
  rcases Nat.mod_two_eq_zero_or_one n with h | h <;> rw [h] <;> rfl

theorem succ_mod_two (n : ℕ) : ((n + 1) % 2 == 1) = (n % 2 == 0) := by
  rcases Nat.mod_two_eq_zero_or_one n with h | h <;> rw [Nat.add_mod, h] <;> rfl

/-- Presses, given by whether they were merged, and calls of a device: each press that was not
merged is served or pending, and no buffer is kept. -/
structure Served {Address : Type*} (pending : Bool) (presses : List Bool)
    (calls : List (AppCall Address)) : Prop where
  services : presses.count false = calls.countP AppCall.isService + pending.toNat
  buffers : calls.countP AppCall.isAllocation = calls.countP AppCall.isRelease

/-- Presses of the button that toggles between the modes, and calls of a sleepy device. -/
structure Toggled {Address : Type*} (kernel : Bool) (device : SleepyDevice) (presses : List Bool)
    (calls : List (AppCall Address)) : Prop where
  toggles : presses.count false = (calls.filterMap AppCall.mode).length +
    device.sPrintState.toNat + device.sRxOnIdleButtonPressed.toNat
  modes : calls.filterMap AppCall.mode = alternating (calls.filterMap AppCall.mode).length
  allowSleep : device.sAllowSleep =
    (((calls.filterMap AppCall.mode).length + device.sPrintState.toNat) % 2 == 1)
  requirements : calls.filterMap AppCall.requirement = if kernel then
    alternating ((calls.filterMap AppCall.mode).length + device.sPrintState.toNat) else []

section Sending

variable {Address : Type*} (udp : UdpAnswers) (prepared : Bool) (peer : Peer Address) (port : ℕ)
  (payload : List UInt8)

theorem countP_isService_sendMessage :
    (sendMessage udp prepared peer port payload).countP AppCall.isService = 1 := by
  unfold sendMessage
  split_ifs <;> rfl

theorem countP_isAllocation_sendMessage :
    (sendMessage udp prepared peer port payload).countP AppCall.isAllocation =
      (sendMessage udp prepared peer port payload).countP AppCall.isRelease := by
  unfold sendMessage
  split_ifs <;> rfl

theorem filterMap_mode_sendMessage :
    (sendMessage udp prepared peer port payload).filterMap AppCall.mode = [] := by
  unfold sendMessage
  split_ifs <;> rfl

theorem filterMap_requirement_sendMessage :
    (sendMessage udp prepared peer port payload).filterMap AppCall.requirement = [] := by
  unfold sendMessage
  split_ifs <;> rfl

end Sending

/-- A press opens a service, or it is merged with one that is still to come. -/
theorem count_append_merged (presses : List Bool) (merged : Bool) :
    (presses ++ [merged]).count false + merged.toNat = presses.count false + 1 := by
  rw [List.count_append]
  cases merged <;> rfl

theorem Served.press {Address : Type*} {pending : Bool} {presses : List Bool}
    {calls : List (AppCall Address)} (h : Served pending presses calls) :
    Served true (presses ++ [pending]) calls where
  services := by
    have hcount := count_append_merged presses pending
    have hservices := h.services
    rw [Bool.toNat_true]
    omega
  buffers := h.buffers

/-- A tick that serves the pending presses with its calls. -/
theorem Served.tick {Address : Type*} {pending : Bool} {presses : List Bool}
    {calls more : List (AppCall Address)} (h : Served pending presses calls)
    (hservices : more.countP AppCall.isService = pending.toNat)
    (hbuffers : more.countP AppCall.isAllocation = more.countP AppCall.isRelease) :
    Served false presses (calls ++ more) where
  services := by
    rw [List.countP_append, hservices]
    exact h.services
  buffers := by rw [List.countP_append, List.countP_append, h.buffers, hbuffers]

namespace SleepyDevice

variable {Address : Type*} (device : SleepyDevice) (app : SleepyApp) (kernel : Bool)
  (udp : UdpAnswers)

/-- What a tick prints, how it toggles and what it sends, for one kind of call. -/
theorem applicationTick_calls :
    (@applicationTick Address device app kernel udp).2 =
      (if device.sPrintState then [.switchingTo device.sAllowSleep] else []) ++
      (if kernel && device.sRxOnIdleButtonPressed then
        [if !device.sAllowSleep then .removeEmRequirement else .addEmRequirement] else []) ++
      (if device.sButtonPressed then
        sendMessage udp udp.addressFromString .multicast multicastPort app.message else []) := by
  rw [applicationTick, toggleSleep_sButtonPressed]
  unfold toggleSleep
  cases kernel <;> cases device.sRxOnIdleButtonPressed <;> rfl

theorem countP_isService_applicationTick :
    (@applicationTick Address device app kernel udp).2.countP AppCall.isService =
      device.sButtonPressed.toNat := by
  rw [applicationTick_calls]
  split_ifs with hprint htoggle hallow hpressed <;>
    simp [*, AppCall.isService, countP_isService_sendMessage]

theorem countP_isAllocation_applicationTick :
    (@applicationTick Address device app kernel udp).2.countP AppCall.isAllocation =
      (@applicationTick Address device app kernel udp).2.countP
        AppCall.isRelease := by
  rw [applicationTick_calls]
  split_ifs with hprint htoggle hallow hpressed <;>
    simp [AppCall.isAllocation, AppCall.isRelease, countP_isAllocation_sendMessage]

theorem filterMap_mode_applicationTick :
    (@applicationTick Address device app kernel udp).2.filterMap AppCall.mode =
      if device.sPrintState then [device.sAllowSleep] else [] := by
  rw [applicationTick_calls, List.filterMap_append, List.filterMap_append]
  have hprinted : (if device.sPrintState then
      [(.switchingTo device.sAllowSleep : AppCall Address)] else []).filterMap
        AppCall.mode = if device.sPrintState then [device.sAllowSleep] else [] := by
    split <;> rfl
  have htoggled : (if kernel && device.sRxOnIdleButtonPressed then
      [if !device.sAllowSleep then (.removeEmRequirement : AppCall Address)
        else .addEmRequirement] else []).filterMap AppCall.mode = [] := by
    split_ifs <;> rfl
  have hsent : (if device.sButtonPressed then
      sendMessage udp udp.addressFromString (.multicast : Peer Address) multicastPort
        app.message else []).filterMap AppCall.mode = [] := by
    split
    · exact filterMap_mode_sendMessage ..
    · rfl
  rw [hprinted, htoggled, hsent, List.append_nil, List.append_nil]

theorem filterMap_requirement_applicationTick :
    (@applicationTick Address device app kernel udp).2.filterMap
        AppCall.requirement =
      if kernel && device.sRxOnIdleButtonPressed then [!device.sAllowSleep] else [] := by
  rw [applicationTick_calls, List.filterMap_append, List.filterMap_append]
  have hprinted : (if device.sPrintState then
      [(.switchingTo device.sAllowSleep : AppCall Address)] else []).filterMap
        AppCall.requirement = [] := by
    split <;> rfl
  have htoggled : (if kernel && device.sRxOnIdleButtonPressed then
      [if !device.sAllowSleep then (.removeEmRequirement : AppCall Address)
        else .addEmRequirement] else []).filterMap AppCall.requirement =
      if kernel && device.sRxOnIdleButtonPressed then [!device.sAllowSleep] else [] := by
    by_cases htoggle : (kernel && device.sRxOnIdleButtonPressed) = true
    · rw [if_pos htoggle, if_pos htoggle]
      cases device.sAllowSleep <;> rfl
    · rw [if_neg htoggle, if_neg htoggle]
      rfl
  have hsent : (if device.sButtonPressed then
      sendMessage udp udp.addressFromString (.multicast : Peer Address) multicastPort
        app.message else []).filterMap AppCall.requirement = [] := by
    split
    · exact filterMap_requirement_sendMessage ..
    · rfl
  rw [hprinted, htoggled, hsent, List.append_nil, List.nil_append]

theorem applicationTick_sPrintState :
    (@applicationTick Address device app kernel udp).1.sPrintState =
      device.sRxOnIdleButtonPressed := by
  unfold applicationTick toggleSleep
  cases hidle : device.sRxOnIdleButtonPressed <;> rfl

theorem applicationTick_sAllowSleep :
    (@applicationTick Address device app kernel udp).1.sAllowSleep =
      (device.sAllowSleep ^^ device.sRxOnIdleButtonPressed) := by
  unfold applicationTick toggleSleep
  cases hidle : device.sRxOnIdleButtonPressed <;> simp

end SleepyDevice

theorem Toggled.press {Address : Type*} {kernel : Bool} {device : SleepyDevice}
    {presses : List Bool} {calls : List (AppCall Address)}
    (h : Toggled kernel device presses calls) :
    Toggled kernel (device.buttonPressed false) (presses ++ [device.sRxOnIdleButtonPressed])
      calls where
  toggles := by
    have hcount := count_append_merged presses device.sRxOnIdleButtonPressed
    have htoggles := h.toggles
    change _ = _ + device.sPrintState.toNat + true.toNat
    rw [Bool.toNat_true]
    omega
  modes := h.modes
  allowSleep := h.allowSleep
  requirements := h.requirements

theorem Toggled.tick {Address : Type*} {kernel : Bool} {device : SleepyDevice}
    {presses : List Bool} {calls : List (AppCall Address)} (h : Toggled kernel device presses calls)
    (app : SleepyApp) (udp : UdpAnswers) :
    Toggled kernel (@SleepyDevice.applicationTick Address device app kernel udp).1 presses
      (calls ++ (device.applicationTick app kernel udp).2) := by
  obtain ⟨htoggles, hmodes, hallow, hrequirements⟩ := h
  generalize hn : (calls.filterMap AppCall.mode).length = n at *
  have hnew : ((calls ++ (device.applicationTick app kernel udp).2).filterMap
      AppCall.mode).length = n + device.sPrintState.toNat := by
    rw [List.filterMap_append, List.length_append, hn, device.filterMap_mode_applicationTick]
    cases device.sPrintState <;> rfl
  have hidle :
      (@SleepyDevice.applicationTick Address device app kernel udp).1.sRxOnIdleButtonPressed =
        false := (device.applicationTick_pressed app kernel udp).2
  constructor
  · rw [hnew, device.applicationTick_sPrintState, hidle, Bool.toNat_false, add_zero]
    exact htoggles
  · rw [hnew, List.filterMap_append, hmodes, device.filterMap_mode_applicationTick]
    cases hprint : device.sPrintState with
    | false => exact List.append_nil _
    | true =>
      rw [hprint, Bool.toNat_true, succ_mod_two] at hallow
      rw [if_pos rfl, hallow]
      exact (alternating_succ n).symm
  · rw [hnew, device.applicationTick_sPrintState, device.applicationTick_sAllowSleep, hallow]
    cases device.sRxOnIdleButtonPressed with
    | false => exact Bool.xor_false _
    | true => rw [Bool.toNat_true, succ_mod_two, mod_two_eq_zero, Bool.xor_true]
  · rw [hnew, device.applicationTick_sPrintState, List.filterMap_append, hrequirements,
      device.filterMap_requirement_applicationTick, hallow, ← mod_two_eq_zero]
    cases kernel with
    | false => rfl
    | true =>
      cases device.sRxOnIdleButtonPressed with
      | false => exact List.append_nil _
      | true => exact (alternating_succ _).symm

theorem Ftd.applicationTick_served {Address : Type*} (device : Ftd Address) (udp : UdpAnswers) :
    (device.applicationTick udp).2.countP AppCall.isService = device.sFtdButtonPressed.toNat ∧
      (device.applicationTick udp).2.countP AppCall.isAllocation =
        (device.applicationTick udp).2.countP AppCall.isRelease := by
  unfold applicationTick
  cases device.sFtdButtonPressed with
  | false => exact ⟨rfl, rfl⟩
  | true =>
    exact ⟨countP_isService_sendMessage .., countP_isAllocation_sendMessage ..⟩

variable {Node Address : Type*} [DecidableEq Node]

/-- The calls of a device, in order. -/
def callsOf (node : Node) (history : List (Entry Node Address)) : List (AppCall Address) :=
  history.filterMap fun
    | .called caller _ call => if caller = node then some call else none
    | _ => none

namespace Deployment

variable (deployment : Deployment Node Address)

/-- The presses of a button of a device, each with whether it was merged. -/
def pressesOf (node : Node) (btn1 : Bool) (history : List (Entry Node Address)) : List Bool :=
  history.filterMap fun
    | .pressed pressed other merged =>
      if deployment.isPress node btn1 (.pressed pressed other merged) then some merged else none
    | _ => none

/-- The accounts of a device balance. -/
structure Balanced (state : Demo Node Address × List (Entry Node Address)) (node : Node) :
    Prop where
  served : Served (deployment.isPending state.1 node true)
    (deployment.pressesOf node true state.2) (callsOf node state.2)
  toggled : ∀ app, deployment.role node = .sleepy app →
    Toggled (deployment.kernel node) (state.1.sleepy node) (deployment.pressesOf node false state.2)
      (callsOf node state.2)

variable {deployment} {demo next : Demo Node Address} {history : List (Entry Node Address)}
  {node : Node}

/-- What another device does leaves the accounts as they are. -/
theorem Balanced.congr (h : deployment.Balanced (demo, history) node)
    {more : List (Entry Node Address)} (hcalls : callsOf node more = [])
    (hpresses : ∀ btn1, deployment.pressesOf node btn1 more = [])
    (hpending : deployment.isPending next node true = deployment.isPending demo node true)
    (hsleepy : next.sleepy node = demo.sleepy node) :
    deployment.Balanced (next, history ++ more) node := by
  have hcallsOf : callsOf node (history ++ more) = callsOf node history := by
    rw [callsOf, List.filterMap_append]
    exact (congrArg _ hcalls).trans (List.append_nil _)
  have hpressesOf (btn1 : Bool) :
      deployment.pressesOf node btn1 (history ++ more) =
        deployment.pressesOf node btn1 history := by
    rw [pressesOf, List.filterMap_append]
    exact (congrArg _ (hpresses btn1)).trans (List.append_nil _)
  constructor
  · rw [hcallsOf, hpressesOf, hpending]
    exact h.served
  · rw [hcallsOf, hpressesOf, hsleepy]
    exact h.toggled

theorem pressesOf_concat (deployment : Deployment Node Address)
    (history : List (Entry Node Address)) (node : Node) (btn1 other merged : Bool) :
    deployment.pressesOf node btn1 (history ++ [.pressed node other merged]) =
      deployment.pressesOf node btn1 history ++
        if deployment.role node = .ftd ∨ other = btn1 then [merged] else [] := by
  rw [pressesOf, List.filterMap_append]
  congr 1
  by_cases hbutton : deployment.role node = .ftd ∨ other = btn1
  · have hpress : deployment.isPress node btn1 (.pressed node other merged) = true :=
      isPress_iff.mpr ⟨other, merged, rfl, hbutton⟩
    simp [hbutton, hpress]
  · have hpress : ¬ deployment.isPress node btn1 (.pressed node other merged) = true := by
      rw [isPress_iff]
      rintro ⟨_, _, heq, hnow⟩
      obtain ⟨-, rfl, -⟩ := Entry.pressed.inj heq
      exact hbutton hnow
    simp [hbutton, hpress]

theorem Balanced.press (h : deployment.Balanced (demo, history) node) (btn1 : Bool) :
    deployment.Balanced (deployment.press demo node btn1,
      history ++ [.pressed node btn1 (deployment.isPending demo node btn1)]) node := by
  have hcalls : callsOf node (history ++ [.pressed node btn1 (deployment.isPending demo node btn1)])
      = callsOf node history := by
    rw [callsOf, List.filterMap_append]
    exact List.append_nil _
  have hpresses (other : Bool) :=
    deployment.pressesOf_concat history node other btn1 (deployment.isPending demo node btn1)
  have hpending := deployment.isPending_press demo node node btn1 true
  rw [beq_self_eq_true, Bool.true_and] at hpending
  cases hrole : deployment.role node with
  | ftd =>
    have hsame : deployment.isPending demo node btn1 = deployment.isPending demo node true := by
      unfold isPending
      rw [hrole]
    constructor
    · rw [hcalls, hpresses, hpending, hrole, if_pos (.inl rfl), hsame]
      simpa using h.served.press
    · rintro app happ
      rw [hrole] at happ
      contradiction
  | sleepy app =>
    have hsleepy : (deployment.press demo node btn1).sleepy node =
        (demo.sleepy node).buttonPressed btn1 := by
      unfold Deployment.press
      rw [hrole]
      exact Function.update_self ..
    have htoggled := h.toggled app hrole
    cases btn1 with
    | true =>
      constructor
      · rw [hcalls, hpresses, hpending, if_pos (.inr rfl)]
        simpa using h.served.press
      · rintro - -
        rw [hcalls, hpresses, hsleepy, hrole, if_neg (by simp), List.append_nil]
        exact ⟨htoggled.toggles, htoggled.modes, htoggled.allowSleep, htoggled.requirements⟩
    | false =>
      constructor
      · have hother : (Role.sleepy app == Role.ftd) = false := rfl
        rw [hcalls, hpresses, hpending, hrole, if_neg (by simp), List.append_nil, hother]
        simpa using h.served
      · rintro - -
        have hidle : deployment.isPending demo node false =
            (demo.sleepy node).sRxOnIdleButtonPressed := by
          unfold isPending
          rw [hrole]
          rfl
        rw [hcalls, hpresses, hsleepy, if_pos (.inr rfl), hidle]
        exact htoggled.press

theorem Balanced.tick (h : deployment.Balanced (demo, history) node) (source : Address)
    (udp : UdpAnswers) (network : List (Datagram Address)) :
    deployment.Balanced ({ (deployment.tick demo node udp).1 with network },
      history ++ (deployment.tick demo node udp).2.map (.called node source)) node := by
  have hcalls : callsOf node (history ++ (deployment.tick demo node udp).2.map
      (.called node source)) = callsOf node history ++ (deployment.tick demo node udp).2 := by
    rw [callsOf, List.filterMap_append, List.filterMap_map]
    simp [callsOf]
  have hpresses (btn1 : Bool) : deployment.pressesOf node btn1
      (history ++ (deployment.tick demo node udp).2.map (.called node source)) =
        deployment.pressesOf node btn1 history := by
    rw [pressesOf, List.filterMap_append, List.filterMap_map]
    simp [pressesOf]
  have hserved : deployment.isPending { (deployment.tick demo node udp).1 with network } node true =
      false := by
    have hcleared := deployment.isPending_tick demo node node udp true
    rw [bne_self_eq_false, Bool.and_false] at hcleared
    exact hcleared
  cases hrole : deployment.role node with
  | ftd =>
    have htick : (deployment.tick demo node udp).2 = ((demo.ftd node).applicationTick udp).2 := by
      unfold Deployment.tick
      rw [hrole]
    have hpending : deployment.isPending demo node true = (demo.ftd node).sFtdButtonPressed := by
      unfold isPending
      rw [hrole]
    obtain ⟨hservices, hbuffers⟩ := (demo.ftd node).applicationTick_served udp
    constructor
    · rw [hcalls, hpresses, hserved, htick]
      exact h.served.tick (hservices.trans (congrArg _ hpending.symm)) hbuffers
    · rintro app happ
      rw [hrole] at happ
      contradiction
  | sleepy app =>
    have htick : (deployment.tick demo node udp).2 =
        ((demo.sleepy node).applicationTick app (deployment.kernel node) udp).2 := by
      unfold Deployment.tick
      rw [hrole]
    have hsleepy : (deployment.tick demo node udp).1.sleepy node =
        (@SleepyDevice.applicationTick Address (demo.sleepy node) app (deployment.kernel node)
          udp).1 := by
      unfold Deployment.tick
      rw [hrole]
      exact Function.update_self ..
    have hpending : deployment.isPending demo node true = (demo.sleepy node).sButtonPressed := by
      unfold isPending
      rw [hrole]
      rfl
    constructor
    · rw [hcalls, hpresses, hserved, htick]
      apply h.served.tick
      · rw [hpending]
        exact (demo.sleepy node).countP_isService_applicationTick ..
      · exact (demo.sleepy node).countP_isAllocation_applicationTick ..
    · intro other hother
      obtain rfl : app = other := Role.sleepy.inj (hrole.symm.trans hother)
      rw [hcalls, hpresses, htick]
      change Toggled _ ((deployment.tick demo node udp).1.sleepy node) _ _
      rw [hsleepy]
      exact (h.toggled app hrole).tick app udp

theorem press_sleepy_of_ne {other : Node} (hother : node ≠ other) (btn1 : Bool) :
    (deployment.press demo other btn1).sleepy node = demo.sleepy node := by
  unfold press
  cases deployment.role other with
  | sleepy app => exact Function.update_of_ne hother ..
  | ftd => rfl

theorem tick_sleepy_of_ne {other : Node} (hother : node ≠ other) (udp : UdpAnswers) :
    (deployment.tick demo other udp).1.sleepy node = demo.sleepy node := by
  unfold tick
  cases deployment.role other with
  | sleepy app => exact Function.update_of_ne hother ..
  | ftd => rfl

theorem receive_sleepy (receiver : Node) (datagram : Datagram Address) :
    (deployment.receive demo receiver datagram).sleepy node = demo.sleepy node := by
  unfold receive
  cases deployment.role receiver <;> rfl

/-- Every step keeps the accounts of every device. -/
theorem DemoStep.balanced {event : DemoEvent Node Address}
    (hstep : deployment.DemoStep demo event next) (h : deployment.Balanced (demo, history) node) :
    deployment.Balanced (next, history ++ deployment.entries demo event) node := by
  cases hstep with
  | @buttonPressed pressed btn1 =>
    rcases eq_or_ne node pressed with rfl | hother
    · exact h.press btn1
    · have hno : (pressed == node) = false := beq_false_of_ne hother.symm
      refine h.congr rfl (fun other ↦ ?_) ?_ (press_sleepy_of_ne hother btn1)
      · simp [pressesOf, entries, isPress, hother.symm]
      · rw [isPending_press, hno, Bool.false_and, Bool.or_false]
  | @applicationTick ticked source udp =>
    rcases eq_or_ne node ticked with rfl | hother
    · exact h.tick source udp _
    · have hcleared := deployment.isPending_tick demo ticked node udp true
      rw [bne_iff_ne.mpr hother.symm, Bool.and_true] at hcleared
      refine h.congr ?_ (fun other ↦ ?_) hcleared (tick_sleepy_of_ne hother udp)
      · simp [callsOf, entries, hother.symm]
      · simp [pressesOf, entries]
  | @deliver receiver datagram =>
    have hpending := deployment.isPending_receive demo receiver node datagram true
    refine h.congr ?_ (fun other ↦ ?_) hpending (receive_sleepy receiver datagram)
    all_goals
      rw [entries]
      split <;> rfl
  | foreign => exact h.congr rfl (fun other ↦ rfl) rfl rfl

theorem initial_balanced (unspecified : Address) :
    deployment.Balanced (initial unspecified, []) node where
  served := by
    unfold isPending
    cases deployment.role node <;> exact ⟨rfl, rfl⟩
  toggled app hrole := {
    toggles := rfl
    modes := rfl
    allowSleep := rfl
    requirements := by cases deployment.kernel node <;> rfl }

variable [DecidableEq Address]

/-- In every run the accounts of every device balance: no press is lost but those that are merged
with one still to be served, no message buffer leaks, and a sleepy device alternates between its
modes. -/
theorem balanced_of_run {unspecified : Address} {events : List (DemoEvent Node Address)}
    (hrun : exec deployment.historyStep (initial unspecified, []) events = some (demo, history))
    (node : Node) : deployment.Balanced (demo, history) node := by
  have hkeep (state) (event) (next) (h : deployment.Balanced state node)
      (hstep : deployment.historyStep state event = some next) : deployment.Balanced next node := by
    obtain ⟨hdemo, hhistory⟩ := recording_eq_some.mp hstep
    obtain ⟨next, written⟩ := next
    subst hhistory
    exact (step_of_demoStep deployment hdemo).balanced h
  exact exec_inv hkeep (initial_balanced unspecified) hrun

theorem balanced_of_run_pair :
    ∃ demo history, exec pair.historyStep (initial 0, [])
      (buttonEvents ++ [.buttonPressed true false, .buttonPressed true true,
        .applicationTick true 1 { append := false }, .buttonPressed true false,
        .buttonPressed true false, .applicationTick true 1 {}]) = some (demo, history) ∧
      pair.Balanced (demo, history) true := by
  have hruns : (exec pair.historyStep (initial 0, [])
      (buttonEvents ++ [.buttonPressed true false, .buttonPressed true true,
        .applicationTick true 1 { append := false }, .buttonPressed true false,
        .buttonPressed true false, .applicationTick true 1 {}])).isSome = true := by decide
  obtain ⟨⟨demo, history⟩, hexec⟩ := Option.isSome_iff_exists.mp hruns
  exact ⟨demo, history, hexec, balanced_of_run hexec true⟩

end Deployment

end OtEfr32.SleepyDemo
