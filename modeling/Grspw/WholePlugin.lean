import Grspw.Encoder
import Grspw.Latches
import Grspw.Queues

/-!
# What holds of the whole plugin

Laws of one core carried over to every run of the plugin, whatever the order of
its threads, its waits and its cores: the values registers, ring positions,
calls under way and queued messages can take, and the status and engine-enable
bits as latches of the actions on their core.
-/

namespace Grspw

namespace Plugin

section Runs

variable
  {layout : Layout}
  {grspwId : GrspwId}
  {plugin last : Plugin}

/-! ## Every core is well formed -/

/-- Being well formed shows in the registers and ring positions. -/
theorem coreFormed_congr
    {left right : Core}
    (same : SameDevice left.device right.device)
    (formed : CoreFormed grspwId right) :
    CoreFormed grspwId left := by
  have sameRegs : left.regs = right.regs := same.regs_eq
  constructor
  · exact same.grspwId_eq.trans formed.grspwId_eq
  · rw [sameRegs]
    exact formed.regs
  · rw [sameRegs]
    exact formed.txd
  · rw [sameRegs]
    exact formed.rxd
  · rw [same.txdCur_eq]
    exact formed.txdCur
  · rw [same.rxdCur_eq]
    exact formed.rxdCur

/-- The locals of a call under way: an entry of the descriptor table. -/
structure FramePlaced (frame : TxFrame) : Prop where
  within : frame.txdCur < 64
  aligned : frame.txdAddr &&& 0xF = 0

/-- What the plugin puts on `spwq`: byte for byte the image of a packet of a core
or of a time code of one byte, short enough for the queue. -/
inductive Queued : Message → Prop
  | packet
      (txbuffer : Memory Uint8)
      (grspwId : GrspwId)
      (header data : List Uint8)
      (headerFits : header.length ≤ maxHeaderLen)
      (fits : Fits header data) :
      Queued (wireImage txbuffer grspwId msgqData header data)
  | timecode
      (txbuffer : Memory Uint8)
      (grspwId : GrspwId)
      (timecode : Uint8) :
      Queued (wireImage txbuffer grspwId msgqTime [] [timecode])

/-- What an action puts on `spwq` is such an image. -/
theorem queued_of_sends
    {action : Action}
    {after : Plugin}
    (moves : plugin.step layout action = .ok after) :
    ∀ message ∈ plugin.sends action, Queued message := by
  intro message sent
  cases action with
  | write other regOffset value =>
      cases regOffset with
      | ctr =>
          simp only [sends] at sent
          split_ifs at sent
          · rw [List.mem_singleton.mp sent]
            exact .timecode _ _ _
          · cases sent
      | _ => cases sent
  | send other =>
      simp only [sends] at sent
      split_ifs at sent with sending
      · rw [List.mem_singleton.mp sent]
        obtain ⟨busy, _⟩ | ⟨_, called, returns, _⟩ |
          ⟨_, frame, called, returns, _⟩ := send_cases moves
        · exact absurd sending.1 busy
        · rw [txSending_of_txenableSend returns] at sending
          cases sending.2
        · obtain ⟨sends, _, _⟩ := txSends_of_txenableSend returns
          exact .packet _ _ _ _ (Core.length_txHeader_le _) sends.fits
      · cases sent
  | _ => cases sent

/-- Nothing else gets onto `spwq`. -/
theorem queued_of_step
    (queued : ∀ message ∈ plugin.host.spwq, Queued message)
    {action : Action}
    {after : Plugin}
    (moves : plugin.step layout action = .ok after) :
    ∀ message ∈ after.host.spwq, Queued message := by
  intro message member
  obtain old | new := (isQueue_spwq layout).mem_or_mem moves member
  · exact queued message old
  · exact queued_of_sends moves message new

/-- In either layout every core of a reachable plugin has well formed
registers. -/
theorem regsFormed_of_plugin_reachable
    {ram : Memory Uint8}
    {recvAtt : RecvAtt}
    (reachable : Machine.Reachable (Plugin.step layout) (init ram recvAtt)
      plugin)
    (grspwId : GrspwId) :
    (plugin.devices grspwId).grspwId = grspwId ∧
      RegsFormed grspwId (plugin.core grspwId).regs := by
  obtain ⟨actions, reaches⟩ := reachable
  obtain ⟨core, reached, ⟨_, same⟩⟩ :=
    (@matched_init _ grspwId ram recvAtt).run reaches
  obtain ⟨ownId, formed⟩ := regsFormed_of_reachable ⟨_, reached⟩
  refine ⟨same.grspwId_eq.trans ownId, ?_⟩
  have sameRegs : (plugin.core grspwId).regs = core.regs := same.regs_eq
  rw [sameRegs]
  exact formed

/-- Where the scratch copies overlap nothing, every core of a reachable plugin
is well formed. -/
theorem coreFormed_of_plugin_reachable
    {ram : Memory Uint8}
    {recvAtt : RecvAtt}
    (reachable : Machine.Reachable (Plugin.step .disjoint) (init ram recvAtt)
      plugin)
    (grspwId : GrspwId) :
    CoreFormed grspwId (plugin.core grspwId) := by
  obtain ⟨actions, reaches⟩ := reachable
  obtain ⟨core, reached, ⟨_, same⟩⟩ :=
    (@matched_init _ grspwId ram recvAtt).run reaches
  exact coreFormed_congr same (coreFormed_of_reachable ⟨_, reached⟩)

theorem framePlaced_of_reachable
    {ram : Memory Uint8}
    {recvAtt : RecvAtt}
    (reachable : Machine.Reachable (Plugin.step .disjoint) (init ram recvAtt)
      plugin)
    (grspwId : GrspwId) :
    ∀ frame ∈ (plugin.calls grspwId).frame?, FramePlaced frame := by
  have placed := @Machine.reachable_invariant _ _ _ (Plugin.step .disjoint)
    (fun state =>
      Machine.Reachable (Plugin.step .disjoint) (init ram recvAtt) state ∧
        ∀ frame ∈ (state.calls grspwId).frame?, FramePlaced frame)
    ?_ (init ram recvAtt) plugin ⟨Machine.Reachable.refl _ _, nofun⟩ reachable
  · exact placed.2
  · rintro before action after ⟨reached, placed⟩ moves
    refine ⟨reached.step moves, ?_⟩
    intro frame held
    obtain old | ⟨isFrame, _⟩ := frame_of_step moves held
    · exact placed frame old
    · have formed := coreFormed_of_plugin_reachable reached grspwId
      rw [isFrame]
      exact ⟨formed.txdCur, formed.txd⟩

/-- **The whole plugin is well formed.**  Where the scratch copies overlap
nothing, in every reachable state all cores have well formed registers and ring
positions, all calls under way hold a descriptor of the table, and all messages
on `spwq` are images of packets and time codes that `mq_send` accepts. -/
theorem plugin_represented
    (ram : Memory Uint8)
    (recvAtt : RecvAtt)
    (plugin : Plugin)
    (reachable : Machine.Reachable (Plugin.step .disjoint) (init ram recvAtt)
      plugin) :
    (∀ grspwId, CoreFormed grspwId (plugin.core grspwId)) ∧
    (∀ grspwId, ∀ frame ∈ (plugin.calls grspwId).frame?,
      FramePlaced frame) ∧
    ∀ message ∈ plugin.host.spwq, Queued message := by
  refine ⟨coreFormed_of_plugin_reachable reachable,
    framePlaced_of_reachable reachable, ?_⟩
  exact Machine.reachable_invariant
    (fun _ _ _ queued moves => queued_of_step queued moves)
    (by simp [init]) reachable

theorem plugin_represented_crossedRun :
    ∃ plugin, (∀ grspwId, CoreFormed grspwId (plugin.core grspwId)) ∧
      Machine.run (Plugin.step .disjoint)
        (init tablesRam ⟨0, 0, 0⟩) crossedRun = .ok plugin := by
  have reaches : ∃ plugin, Machine.run (Plugin.step .disjoint)
      (init tablesRam ⟨0, 0, 0⟩) crossedRun = .ok plugin :=
    ⟨_, rfl⟩
  obtain ⟨plugin, reaches⟩ := reaches
  exact ⟨plugin, (plugin_represented tablesRam ⟨0, 0, 0⟩ plugin
    ⟨_, reaches⟩).1, reaches⟩

/-! ## Status and engine-enable bits -/

/-- What an action does to a bit of a core. -/
def eventOn
    (event : Core → Input → Latch.Event)
    (grspwId : GrspwId)
    (plugin : Plugin)
    (action : Action) : Latch.Event :=
  match plugin.callOn grspwId action with
  | [] => .quiet
  | input :: _ => event (plugin.core grspwId) input

/-- A bit that every call of a core's machine moves as its event says is moved so
by every action of the plugin. -/
theorem bit_of_delivered
    {event : Core → Input → Latch.Event}
    {bit : Regs → Bool}
    (moved : ∀ {core after : Core} {input : Input},
      Grspw.step layout core input = .ok after →
        bit after.regs = (event core input).apply (bit core.regs))
    {action : Action}
    {after : Plugin}
    (delivered : Delivered layout grspwId plugin action after) :
    bit (after.core grspwId).regs =
      (eventOn event grspwId plugin action).apply
        (bit (plugin.core grspwId).regs) := by
  unfold eventOn
  cases delivered with
  | idle uncalled device =>
      rw [uncalled]
      exact congrArg bit device.regs_eq
  | called isCall moves device =>
      rw [isCall]
      exact (congrArg bit device.regs_eq).trans (moved moves)

/-- The latch rule for a bit of one core of the plugin. -/
theorem latchedOn_iff
    {event : Core → Input → Latch.Event}
    {bit : Regs → Bool}
    (moved : ∀ {core after : Core} {input : Input},
      Grspw.step layout core input = .ok after →
        bit after.regs = (event core input).apply (bit core.regs))
    {ram : Memory Uint8}
    {recvAtt : RecvAtt}
    {actions : List Action}
    (start : bit (apbgrspwInit grspwId ram).regs = false)
    (reaches : Machine.run (Plugin.step layout) (init ram recvAtt) actions =
      .ok last) :
    bit (last.core grspwId).regs = true ↔
      Latch.SetSinceClear (Machine.observe (Plugin.step layout)
        (eventOn event grspwId) (init ram recvAtt) actions) := by
  refine @Latch.latched_iff_of_invariant _ _ _ (Plugin.step layout)
    (eventOn event grspwId)
    (fun plugin => bit (plugin.core grspwId).regs)
    (FrameWithin layout grspwId)
    (fun _ _ _ within moves => frameWithin_step within moves) ?_ _ _ _
    (frameWithin_init ram recvAtt) start reaches
  intro before action after within moves
  exact bit_of_delivered moved (delivered_of_step within moves)

/-- **Status bits of the plugin.**  In every run of the plugin, with its waits
and its cores in any order, each status and engine-enable bit of each core is 1
exactly when an action on that core has set it since one has cleared it. -/
theorem bits_latched_on
    (layout : Layout)
    (ram : Memory Uint8)
    (recvAtt : RecvAtt)
    (actions : List Action)
    (last : Plugin)
    (reaches : Machine.run (Plugin.step layout) (init ram recvAtt) actions =
      .ok last)
    (grspwId : GrspwId) :
    (∀ bit : StatusBit,
      bit.read (last.core grspwId).regs = true ↔
        Latch.SetSinceClear (Machine.observe (Plugin.step layout)
          (eventOn bit.event grspwId) (init ram recvAtt) actions)) ∧
    ∀ bit : EngineBit,
      bit.read (last.core grspwId).regs = true ↔
        Latch.SetSinceClear (Machine.observe (Plugin.step layout)
          (eventOn bit.event grspwId) (init ram recvAtt) actions) := by
  constructor
  · intro bit
    exact latchedOn_iff bit.read_step (bit.read_apbgrspwInit grspwId ram)
      reaches
  · intro bit
    exact latchedOn_iff bit.read_step (bit.read_apbgrspwInit grspwId ram)
      reaches

theorem bits_latched_on_crossedRun :
    ∃ last, StatusBit.PR.read (last.core 1).regs = true ∧
      Machine.run (Plugin.step .packed) (init tablesRam ⟨0, 0, 0⟩)
        crossedRun = .ok last := by
  have reaches : ∃ last, Machine.run (Plugin.step .packed)
      (init tablesRam ⟨0, 0, 0⟩) crossedRun = .ok last := ⟨_, rfl⟩
  obtain ⟨last, reaches⟩ := reaches
  have latched := (bits_latched_on .packed tablesRam ⟨0, 0, 0⟩ crossedRun last
    reaches 1).1
  exact ⟨last, (latched .PR).mpr (by decide), reaches⟩

end Runs

end Plugin

end Grspw
