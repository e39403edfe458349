import Grspw.Lib.Fifo
import Grspw.Projection
import Grspw.Interrupts

/-!
# What moves through the queues

What each action puts on `spwq` and `devq` and takes from them, and which packets
the external device has still to acknowledge.
-/

namespace Grspw

namespace Plugin

/-! ## What actions put and take -/

/-- What an action puts on `spwq`: a time code for a tick, a packet for a
transmit call that sends one. -/
def sends (plugin : Plugin) : Action → List Message
  | .write grspwId .ctr value =>
      let device := plugin.devices grspwId
      if checkbit value spwctrTI then
        [wireImage plugin.host.txbuffer device.grspwId msgqTime []
          [(ctrTicked device.grspwId device.grspwReg value).tim.setWidth 8]]
      else []
  | .send grspwId =>
      let core := plugin.core grspwId
      if plugin.calls grspwId = .idle ∧ core.txSending = true then
        [wireImage plugin.host.txbuffer core.device.grspwId msgqData
          core.txHeader core.txData]
      else []
  | _ => []

/-- What the external device takes from it. -/
def takes (plugin : Plugin) : Action → List Message
  | .take => plugin.host.spwq.head?.toList
  | _ => []

/-- What an action puts on `devq`. -/
def arrives (plugin : Plugin) : Action → List Message
  | .acknowledge => (plugin.taken.head?.map ackMessage).toList
  | .put message => [message]
  | _ => []

/-- What the RX thread takes from it. -/
def receives (plugin : Plugin) : Action → List Message
  | .receive wakes =>
      if plugin.MayWake wakes then plugin.devq.head?.toList else []
  | _ => []

/-- The senders of the packets among the messages taken. -/
def picksUp (plugin : Plugin) (action : Action) : List GrspwId :=
  (plugin.takes action).filterMap (addressee msgqData)

/-- The sender the external device acknowledges a packet of. -/
def acknowledges (plugin : Plugin) : Action → List GrspwId
  | .acknowledge => plugin.taken.head?.toList
  | _ => []

/-- What the actions of a run put or take, in turn. -/
def history
    {α : Type}
    (layout : Layout)
    (view : Plugin → Action → List α)
    (plugin : Plugin)
    (actions : List Action) : List α :=
  (Machine.observe (Plugin.step layout) view plugin actions).flatten

section Steps

variable {layout : Layout} {plugin after : Plugin}

/-! ## One action -/

theorem written_spwq_eq
    (core : Core)
    (regOffset : RegOffset)
    (value : Uint32) :
    (core.written regOffset value).host.spwq =
      core.host.spwq ++
        match regOffset with
        | .ctr =>
            if checkbit value spwctrTI then
              [wireImage core.host.txbuffer core.device.grspwId msgqTime []
                [(ctrTicked core.device.grspwId core.regs value).tim.setWidth
                  8]]
            else []
        | _ => [] := by
  cases regOffset with
  | ctr =>
      change (ctrHost core.device.grspwId core.regs core.host value).spwq = _
      unfold ctrHost
      simp only
      split
      · rfl
      · exact (List.append_nil _).symm
  | _ => exact (List.append_nil _).symm

/-- A call that reaches its wait was sending, one that returns was not. -/
theorem txSending_of_txenableSend
    {core called : Core}
    {frame : Option TxFrame}
    (returns : txenableSend layout core = .ok (frame, called)) :
    core.txSending = frame.isSome := by
  cases frame with
  | some frame =>
      obtain ⟨sending, _, _⟩ := txSends_of_txenableSend returns
      simp [Core.txSending, sending.enabled, sending.armed]
  | none =>
      have transmits : txenable layout core = .ok (true, called) := by
        simp [txenable, returns]
      obtain ⟨_, disabled, _⟩ | ⟨_, polls, _⟩ | ⟨sends, _⟩ :=
        txenable_cases transmits
      · simp [Core.txSending, disabled]
      · simp [Core.txSending, polls.unarmed]
      · cases sends

/-- `spwq` is a queue from the cores to the external device. -/
theorem isQueue_spwq (layout : Layout) :
    Fifo.IsQueue (Plugin.step layout) (fun plugin => plugin.host.spwq) sends
      takes := by
  intro plugin action after moves
  cases action with
  | write grspwId regOffset value =>
      simp only [step, Core.write_eq] at moves
      cases moves
      refine Fifo.appended rfl
        ((written_spwq_eq (plugin.core grspwId) regOffset value).trans ?_)
      cases regOffset <;> rfl
  | send grspwId =>
      apply Fifo.appended rfl
      obtain ⟨busy, rfl⟩ | ⟨idle, called, returns, rfl⟩ |
        ⟨idle, frame, called, returns, rfl⟩ := send_cases moves
      · simp only [sends, busy, false_and, if_false, List.append_nil]
      · have sending := txSending_of_txenableSend returns
        obtain ⟨_, host, _⟩ | ⟨isSome, _⟩ := txenableSend_cases returns
        · simp only [sends, sending, Option.isSome_none, Bool.false_eq_true,
            and_false, if_false, List.append_nil]
          exact congrArg Host.spwq host
        · cases isSome
      · have sending := txSending_of_txenableSend returns
        obtain ⟨_, _, rfl⟩ := txSends_of_txenableSend returns
        simp only [sends, idle, sending, Option.isSome_some, and_self, if_true]
        rfl
  | take =>
      cases moves
      simp only [takes, sends, List.append_nil, take]
      cases queue : plugin.host.spwq with
      | nil => exact queue.symm
      | cons message spwq => rfl
  | _ =>
      exact Fifo.untouched rfl rfl
        ((leavesRest_of_step moves).spwq (by simp [Action.touches]))

/-- `devq` is a queue from the external device to the RX thread. -/
theorem isQueue_devq (layout : Layout) :
    Fifo.IsQueue (Plugin.step layout) (fun plugin => plugin.devq) arrives
      receives := by
  intro plugin action after moves
  cases action with
  | receive wakes =>
      simp only [step] at moves
      split_ifs at moves with mayWake
      swap
      · cases moves
        exact Fifo.untouched rfl (if_neg mayWake) rfl
      have isReceived : plugin.receives (.receive wakes) =
          plugin.devq.head?.toList := if_pos mayWake
      obtain ⟨empty, rfl⟩ |
        ⟨message, devq, received, queue, _, dispatches⟩ :=
        rxthread_cases moves
      · refine Fifo.untouched rfl ?_ rfl
        rw [isReceived, empty]
        rfl
      have popped : after.devq = (plugin.tookOff devq received).devq :=
        (queues_of_dispatch dispatches).2.2
      simp only [isReceived, popped, queue, arrives, List.append_nil]
      rfl
  | acknowledge =>
      cases moves
      simp only [arrives, receives, List.nil_append, acknowledge]
      cases plugin.taken with
      | nil => exact List.append_nil _
      | cons grspwId taken => rfl
  | put message =>
      cases moves
      rfl
  | _ =>
      exact Fifo.untouched rfl rfl
        ((leavesRest_of_step moves).devq (by simp [Action.touches]))

/-- So are the packets taken and not yet acknowledged, inside the external
device. -/
theorem isQueue_taken (layout : Layout) :
    Fifo.IsQueue (Plugin.step layout) (fun plugin => plugin.taken) picksUp
      acknowledges := by
  intro plugin action after moves
  cases action with
  | take =>
      cases moves
      simp only [picksUp, takes, acknowledges, List.nil_append, take]
      cases plugin.host.spwq with
      | nil => exact List.append_nil _
      | cons message spwq =>
          simp only [List.head?_cons, Option.toList_some]
          cases sender : addressee msgqData message <;> simp [sender]
  | acknowledge =>
      cases moves
      simp only [picksUp, takes, acknowledges, List.filterMap_nil,
        List.append_nil, acknowledge]
      cases queue : plugin.taken with
      | nil => exact queue.symm
      | cons grspwId taken => rfl
  | _ =>
      exact Fifo.untouched rfl rfl
        ((leavesRest_of_step moves).taken (by simp [Action.touches]))

end Steps

end Plugin

end Grspw
