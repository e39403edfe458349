import Grspw.Interrupts
import Grspw.Plugin

/-!
# What each action touches

One table says which parts of the plugin an action may touch, and one theorem
that a step leaves every other part as it was.
-/

namespace Grspw

namespace Plugin

section Dispatch

variable
  {layout : Layout}
  {plugin after : Plugin}
  {wakes : Option GrspwId}

/-! ## A signal and a message decoded -/

/-- A signal moves calls alone. -/
theorem signal_eq (wakes : Option GrspwId) :
    plugin.signal wakes =
      { plugin with calls := (plugin.signal wakes).calls } := by
  cases wakes with
  | none => rfl
  | some other =>
      simp only [signal]
      split <;> rfl

theorem devices_signal (wakes : Option GrspwId) :
    (plugin.signal wakes).devices = plugin.devices := by
  rw [signal_eq]

theorem host_signal (wakes : Option GrspwId) :
    (plugin.signal wakes).host = plugin.host := by
  rw [signal_eq]

theorem devq_signal (wakes : Option GrspwId) :
    (plugin.signal wakes).devq = plugin.devq := by
  rw [signal_eq]

theorem taken_signal (wakes : Option GrspwId) :
    (plugin.signal wakes).taken = plugin.taken := by
  rw [signal_eq]

/-- What each protocol word makes of a message. -/
theorem dispatch_cases
    {received : Received}
    (returns : plugin.dispatch layout received wakes = .ok after) :
    (received.pword = msgqAck ∧ after = plugin.signal wakes) ∨
    (received.pword ≠ msgqAck ∧ received.pword = msgqData ∧ ∃ called,
      rxenable layout (plugin.core received.grspwId) received.data
        received.dataLen plugin.recvAtt = .ok called ∧
      after = plugin.putCore received.grspwId called) ∨
    (received.pword ≠ msgqAck ∧ received.pword ≠ msgqData ∧
      received.pword = msgqTime ∧
      after = plugin.putCore received.grspwId
        (rxtimecode (plugin.core received.grspwId) (received.data 0))) ∨
    (received.pword ≠ msgqAck ∧ received.pword ≠ msgqData ∧
      received.pword ≠ msgqTime ∧ after = plugin) := by
  unfold dispatch at returns
  simp only at returns
  split_ifs at returns with isAck isData isTime
  · cases returns
    exact Or.inl ⟨isAck, rfl⟩
  · cases stores : rxenable layout (plugin.core received.grspwId) received.data
      received.dataLen plugin.recvAtt with
    | error fault =>
        rw [stores] at returns
        cases returns
    | ok called =>
        rw [stores] at returns
        cases returns
        exact Or.inr (Or.inl ⟨isAck, isData, called, rfl, rfl⟩)
  · cases returns
    exact Or.inr (Or.inr (Or.inl ⟨isAck, isData, isTime, rfl⟩))
  · cases returns
    exact Or.inr (Or.inr (Or.inr ⟨isAck, isData, isTime, rfl⟩))

/-- Where the ring position of the core named is in range, no message decoded
faults. -/
theorem exists_dispatch
    {received : Received}
    (admits : layout.Admits (plugin.core received.grspwId).device.rxdCur
      nbRxDescriptor)
    (wakes : Option GrspwId) :
    ∃ after, plugin.dispatch layout received wakes = .ok after := by
  unfold dispatch
  simp only
  obtain ⟨called, stores⟩ := exists_rxenable admits received.data
    received.dataLen plugin.recvAtt
  rw [stores]
  split_ifs <;> exact ⟨_, rfl⟩

/-- A message decoded leaves every queue alone. -/
theorem queues_of_dispatch
    {received : Received}
    (dispatches : plugin.dispatch layout received wakes = .ok after) :
    after.host.spwq = plugin.host.spwq ∧ after.taken = plugin.taken ∧
      after.devq = plugin.devq := by
  obtain ⟨_, rfl⟩ | ⟨_, _, called, stores, rfl⟩ | ⟨_, _, _, rfl⟩ |
    ⟨_, _, _, rfl⟩ := dispatch_cases dispatches
  · exact ⟨congrArg Host.spwq (host_signal wakes), taken_signal wakes,
      devq_signal wakes⟩
  · exact ⟨(rxenable_frame stores).1, rfl, rfl⟩
  · exact ⟨(rxtimecode_frame _ _).1, rfl, rfl⟩
  · exact ⟨rfl, rfl, rfl⟩

/-- An acknowledge signals, and no other message moves a call. -/
theorem calls_of_dispatch
    {received : Received}
    (dispatches : plugin.dispatch layout received wakes = .ok after) :
    after.calls =
      if received.pword = msgqAck then (plugin.signal wakes).calls
      else plugin.calls := by
  obtain ⟨isAck, rfl⟩ | ⟨notAck, _, called, _, rfl⟩ | ⟨notAck, _, _, rfl⟩ |
    ⟨notAck, _, _, rfl⟩ := dispatch_cases dispatches
  · exact (if_pos isAck).symm
  · exact (if_neg notAck).symm
  · exact (if_neg notAck).symm
  · exact (if_neg notAck).symm

end Dispatch

end Plugin

/-! ## The table -/

/-- The parts of the plugin that some actions leave alone. -/
inductive Part
  | devices
  | interrupts
  | calls
  | spwq
  | taken
  | devq
  deriving DecidableEq

/-- The parts an action may touch. -/
def Action.touches : Action → List Part
  | .write _ _ _ => [.devices, .spwq]
  | .send _ => [.devices, .calls, .spwq]
  | .txwaitack _ => [.calls]
  | .resume _ => [.devices, .interrupts, .calls]
  | .receive _ => [.devices, .interrupts, .calls, .devq]
  | .take => [.spwq, .taken]
  | .acknowledge => [.taken, .devq]
  | .put _ => [.devq]
  | .ambient _ => []

namespace Plugin

/-- The parts outside a list are as they were. -/
structure LeavesRest
    (touched : List Part)
    (before after : Plugin) : Prop where
  devices : .devices ∉ touched → after.devices = before.devices
  interrupts : .interrupts ∉ touched → after.host.pulses = before.host.pulses
  calls : .calls ∉ touched → after.calls = before.calls
  spwq : .spwq ∉ touched → after.host.spwq = before.host.spwq
  taken : .taken ∉ touched → after.taken = before.taken
  devq : .devq ∉ touched → after.devq = before.devq

theorem LeavesRest.refl
    (touched : List Part)
    (plugin : Plugin) :
    LeavesRest touched plugin plugin :=
  ⟨fun _ => rfl, fun _ => rfl, fun _ => rfl, fun _ => rfl, fun _ => rfl,
    fun _ => rfl⟩

theorem pulses_written
    (core : Core)
    (regOffset : RegOffset)
    (value : Uint32) :
    (core.written regOffset value).host.pulses = core.host.pulses := by
  cases regOffset with
  | ctr =>
      change (ctrHost core.device.grspwId core.regs core.host value).pulses = _
      unfold ctrHost
      split <;> rfl
  | _ => rfl

variable
  {layout : Layout}
  {plugin after : Plugin}

theorem leavesRest_of_send
    {grspwId : GrspwId}
    (returns : plugin.send layout grspwId = .ok after) :
    LeavesRest (Action.send grspwId).touches plugin after := by
  have kept : after.host.pulses = plugin.host.pulses ∧
      after.taken = plugin.taken ∧ after.devq = plugin.devq := by
    obtain ⟨_, rfl⟩ | ⟨_, called, sends, rfl⟩ | ⟨_, frame, called, sends, rfl⟩ :=
      send_cases returns
    · exact ⟨rfl, rfl, rfl⟩
    · obtain ⟨_, host, _⟩ | ⟨isFrame, _⟩ := txenableSend_cases sends
      · exact ⟨congrArg Host.pulses host, rfl, rfl⟩
      · cases isFrame
    · obtain ⟨noFrame, _⟩ | ⟨_, rfl⟩ := txenableSend_cases sends
      · cases noFrame
      · exact ⟨rfl, rfl, rfl⟩
  obtain ⟨pulses, taken, devq⟩ := kept
  constructor <;> simp [Action.touches, pulses, taken, devq]

theorem leavesRest_of_receive
    {wakes : Option GrspwId}
    (returns : plugin.rxthread layout wakes = .ok after) :
    LeavesRest (Action.receive wakes).touches plugin after := by
  obtain ⟨_, rfl⟩ | ⟨message, devq, received, _, _, dispatches⟩ :=
    rxthread_cases returns
  · exact .refl _ _
  · obtain ⟨spwq, taken, _⟩ := queues_of_dispatch dispatches
    constructor <;> simp [Action.touches, spwq, taken, tookOff]

/-- **Frame.**  A step leaves every part its action does not touch. -/
theorem leavesRest_of_step
    {action : Action}
    (moves : plugin.step layout action = .ok after) :
    LeavesRest action.touches plugin after := by
  cases action with
  | write grspwId regOffset value =>
      rw [step, Core.write_eq] at moves
      cases moves
      have pulses := pulses_written (plugin.core grspwId) regOffset value
      constructor <;> simp [Action.touches, putCore]
      exact pulses
  | send grspwId => exact leavesRest_of_send moves
  | txwaitack grspwId =>
      cases moves
      unfold txwaitack
      split
      · constructor <;> simp [Action.touches, putCall]
      · exact .refl _ _
  | resume grspwId =>
      cases moves
      unfold resume
      split
      · constructor <;>
          simp [Action.touches, putCall, putCore, txenableAcked_spwq]
        rfl
      · exact .refl _ _
  | receive wakes =>
      simp only [step] at moves
      split_ifs at moves
      · exact leavesRest_of_receive moves
      · cases moves
        exact .refl _ _
  | take =>
      cases moves
      unfold take
      split
      · exact .refl _ _
      · constructor <;> simp [Action.touches]
        rfl
  | acknowledge =>
      cases moves
      unfold acknowledge
      split
      · exact .refl _ _
      · constructor <;> simp [Action.touches]
  | put message =>
      cases moves
      constructor <;> simp [Action.touches]
  | ambient ram =>
      cases moves
      constructor <;> simp [Action.touches]
      rfl

/-! ## Transmit calls -/

/-- How an action moves the transmit call on a core, if it does. -/
inductive CallMoved (grspwId : GrspwId) : Action → Call → Call → Prop
  | kept (action : Action) (call : Call) : CallMoved grspwId action call call
  | sent (frame : TxFrame) :
      CallMoved grspwId (.send grspwId) .idle (.sent frame)
  | waits (frame : TxFrame) :
      CallMoved grspwId (.txwaitack grspwId) (.sent frame) (.waiting frame)
  | signalled (frame : TxFrame) :
      CallMoved grspwId (.receive (some grspwId)) (.waiting frame)
        (.woken frame)
  | returned (frame : TxFrame) :
      CallMoved grspwId (.resume grspwId) (.woken frame) .idle

theorem CallMoved.of_eq
    {grspwId : GrspwId}
    {action : Action}
    {call call' : Call}
    (same : call' = call) :
    CallMoved grspwId action call call' := by
  rw [same]
  exact .kept action call

/-- One call put elsewhere. -/
theorem CallMoved.putCall
    {grspwId other : GrspwId}
    {action : Action}
    {call : Call}
    (own : grspwId = other →
      CallMoved grspwId action (plugin.calls grspwId) call) :
    CallMoved grspwId action (plugin.calls grspwId)
      ((plugin.putCall other call).calls grspwId) := by
  by_cases same : grspwId = other
  · have moved := own same
    subst same
    have put : (plugin.putCall grspwId call).calls grspwId = call :=
      Function.update_self _ _ _
    rw [put]
    exact moved
  · exact .of_eq (Function.update_of_ne same _ _)

theorem callMoved_signal
    (grspwId : GrspwId)
    (wakes : Option GrspwId) :
    CallMoved grspwId (.receive wakes) (plugin.calls grspwId)
      ((plugin.signal wakes).calls grspwId) := by
  by_cases woken : wakes = some grspwId
  · subst woken
    cases phase : plugin.calls grspwId with
    | waiting frame =>
        rw [signal_of_waits phase, ← phase]
        refine .putCall fun _ => ?_
        rw [phase]
        exact .signalled frame
    | _ =>
        refine .of_eq ?_
        simp only [signal, phase]
  · exact .of_eq (signal_calls_of_ne woken)

/-- **Calls.**  A step moves each call at most as its action says. -/
theorem callMoved_of_step
    {action : Action}
    (moves : plugin.step layout action = .ok after)
    (grspwId : GrspwId) :
    CallMoved grspwId action (plugin.calls grspwId) (after.calls grspwId) := by
  cases action with
  | send other =>
      obtain ⟨_, rfl⟩ | ⟨_, called, _, rfl⟩ | ⟨idle, frame, called, _, rfl⟩ :=
        send_cases moves
      · exact .kept _ _
      · exact .kept _ _
      · refine @CallMoved.putCall (plugin.putCore other called) _ _ _ _ ?_
        rintro rfl
        change CallMoved grspwId _ (plugin.calls grspwId) _
        rw [idle]
        exact .sent frame
  | txwaitack other =>
      cases moves
      unfold txwaitack
      split
      · rename_i frame sent
        refine .putCall ?_
        rintro rfl
        rw [sent]
        exact .waits frame
      · exact .kept _ _
  | resume other =>
      cases moves
      unfold resume
      split
      · rename_i frame woken
        refine @CallMoved.putCall (plugin.putCore other
          (txenableAcked layout frame (plugin.core other))) _ _ _ _ ?_
        rintro rfl
        change CallMoved grspwId _ (plugin.calls grspwId) _
        rw [woken]
        exact .returned frame
      · exact .kept _ _
  | receive wakes =>
      simp only [step] at moves
      split_ifs at moves
      · obtain ⟨_, rfl⟩ | ⟨message, devq, received, _, _, dispatches⟩ :=
          rxthread_cases moves
        · exact .kept _ _
        · rw [calls_of_dispatch dispatches]
          split_ifs
          · exact @callMoved_signal (plugin.tookOff devq received) grspwId wakes
          · exact .kept _ _
      · cases moves
        exact .kept _ _
  | _ =>
      have calls := (leavesRest_of_step moves).calls (by simp [Action.touches])
      exact .of_eq (congrFun calls grspwId)

end Plugin

end Grspw
