import Grspw.Arming
import Grspw.WholePlugin

/-!
# Ring order in the whole plugin

A core's descriptors are fetched in ring order over every run of the plugin in
which its calls are in step, with its waits for an acknowledge and the calls of
the other cores anywhere between.
-/

namespace Grspw

namespace Plugin

/-- What an action shows of a ring of a core. -/
def ringEventOn
    (event : Core → Input → DescriptorRing.Event)
    (grspwId : GrspwId)
    (plugin : Plugin)
    (action : Action) : DescriptorRing.Event :=
  match plugin.callOn grspwId action with
  | [] => .quiet
  | input :: _ => event (plugin.core grspwId) input

/-- The call an action makes on a core finds position and selector in step. -/
def InStepOn
    (inStep : Core → Input → Prop)
    (grspwId : GrspwId)
    (plugin : Plugin)
    (action : Action) : Prop :=
  ∀ input ∈ plugin.callOn grspwId action, inStep (plugin.core grspwId) input

instance
    (inStep : Core → Input → Prop)
    [∀ core input, Decidable (inStep core input)]
    (grspwId : GrspwId)
    (plugin : Plugin)
    (action : Action) :
    Decidable (plugin.InStepOn inStep grspwId action) :=
  inferInstanceAs (Decidable (∀ input ∈ plugin.callOn grspwId action, _))

section Rings

variable
  {grspwId : GrspwId}
  {ram : Memory Uint8}
  {recvAtt : RecvAtt}

/-- The ring positions of every core of a reachable plugin are in range. -/
theorem placed_of_plugin_reachable
    {plugin : Plugin}
    (reachable : Machine.Reachable (Plugin.step .disjoint) (init ram recvAtt)
      plugin)
    (grspwId : GrspwId) :
    TxPlaced (plugin.core grspwId) ∧ RxPlaced (plugin.core grspwId) := by
  obtain ⟨actions, reaches⟩ := reachable
  obtain ⟨core, reached, ⟨_, same⟩⟩ :=
    (@matched_init _ grspwId ram recvAtt).run reaches
  obtain ⟨tx, rx⟩ := placed_of_reachable ⟨_, reached⟩
  have sameRegs : (plugin.core grspwId).regs = core.regs := same.regs_eq
  have sameTx : (plugin.core grspwId).device.txdCur = core.device.txdCur :=
    same.txdCur_eq
  have sameRx : (plugin.core grspwId).device.rxdCur = core.device.rxdCur :=
    same.rxdCur_eq
  constructor
  · constructor
    · rw [sameRegs]
      exact tx.aligned
    · rw [sameTx]
      exact tx.within
  · constructor
    · rw [sameRegs]
      exact rx.aligned
    · rw [sameRx]
      exact rx.within

/-- The ring rule for a ring of one core of the plugin. -/
theorem accepts_on
    {ring : DescriptorRing}
    {event : Core → Input → DescriptorRing.Event}
    {inStep : Core → Input → Prop}
    {placed : Core → Prop}
    (register : Regs → Nat)
    (fetched : ∀ {core : Core} {input : Input} {addr processed},
      event core input = .fetched addr processed → addr = register core.regs)
    (follows : ∀ {core after : Core} {input : Input},
      placed core → inStep core input →
        Grspw.step .disjoint core input = .ok after →
          ring.Follows (register core.regs) (register after.regs)
            (event core input))
    (everywhere : ∀ plugin,
      Machine.Reachable (Plugin.step .disjoint) (init ram recvAtt) plugin →
        placed (plugin.core grspwId))
    {actions : List Action}
    (guarded : Machine.Guarded (Plugin.step .disjoint)
      (InStepOn inStep grspwId) (init ram recvAtt) actions) :
    ring.monitor.Accepts none
      (Machine.observe (Plugin.step .disjoint) (ringEventOn event grspwId)
        (init ram recvAtt) actions) := by
  refine DescriptorRing.accepts_of_follows
    (fun plugin : Plugin => register (plugin.core grspwId).regs)
    ?_ ?_ (fun _ _ _ reached moves => Machine.Reachable.step reached moves)
    (Machine.Reachable.refl (Plugin.step .disjoint) (init ram recvAtt)) guarded
  · intro plugin action addr processed seen
    unfold ringEventOn at seen
    cases calls : plugin.callOn grspwId action with
    | nil =>
        rw [calls] at seen
        cases seen
    | cons input others =>
        rw [calls] at seen
        exact fetched seen
  · intro plugin action after reached inStepNow moves
    unfold ringEventOn
    cases delivered_of_step (frameWithin_of_reachable reached) moves with
    | idle uncalled device =>
        rw [uncalled]
        exact congrArg register device.regs_eq
    | @called input called isCall stepped device =>
        have own : inStep (plugin.core grspwId) input := by
          apply inStepNow
          rw [isCall]
          exact List.mem_singleton_self input
        have sameRegs : (after.core grspwId).regs = called.regs :=
          device.regs_eq
        rw [isCall, sameRegs]
        exact follows (everywhere plugin reached) own stepped

/-- **Rings in order across waits.**  Where the scratch copies overlap nothing, in
every run of the plugin in which a core's transmit calls find position and
selector in step its transmit descriptors are fetched in ring order, and so are
its receive descriptors where its receive calls do, whatever the order of all
actions. -/
theorem rings_in_order
    (ram : Memory Uint8)
    (recvAtt : RecvAtt)
    (actions : List Action)
    (grspwId : GrspwId) :
    (Machine.Guarded (Plugin.step .disjoint) (InStepOn TxInStep grspwId)
        (init ram recvAtt) actions →
      txRing.monitor.Accepts none
        (Machine.observe (Plugin.step .disjoint) (ringEventOn txEvent grspwId)
          (init ram recvAtt) actions)) ∧
    (Machine.Guarded (Plugin.step .disjoint) (InStepOn RxInStep grspwId)
        (init ram recvAtt) actions →
      rxRing.monitor.Accepts none
        (Machine.observe (Plugin.step .disjoint) (ringEventOn rxEvent grspwId)
          (init ram recvAtt) actions)) := by
  constructor
  · exact accepts_on (fun regs => regs.txd.toNat) txEvent_fetched txFollows
      (fun _ reached => (placed_of_plugin_reachable reached grspwId).1)
  · exact accepts_on (fun regs => regs.rxd.toNat) rxEvent_fetched rxFollows
      (fun _ reached => (placed_of_plugin_reachable reached grspwId).2)

theorem rings_in_order_crossedRun :
    txRing.monitor.Accepts none
      (Machine.observe (Plugin.step .disjoint) (ringEventOn txEvent 0)
        (init tablesRam ⟨0, 0, 0⟩) crossedRun) ∧
    rxRing.monitor.Accepts none
      (Machine.observe (Plugin.step .disjoint) (ringEventOn rxEvent 1)
        (init tablesRam ⟨0, 0, 0⟩) crossedRun) :=
  ⟨(rings_in_order tablesRam ⟨0, 0, 0⟩ crossedRun 0).1 (by decide),
    (rings_in_order tablesRam ⟨0, 0, 0⟩ crossedRun 1).2 (by decide)⟩

end Rings

end Plugin

end Grspw
