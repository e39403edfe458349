import Grspw.Plugin

/-!
# Acknowledges

Two laws of the handshake between transmit calls, external device and RX
thread: no acknowledge is lost, and none releases another core's descriptor.
Both fail where a signal meets no waiter or the wrong one, since nothing records
that an acknowledge came and one condition variable serves all cores.
-/

namespace Grspw

/-- The call has sent its packet and was not woken yet. -/
def Call.outstanding : Call → Bool
  | .sent _ => true
  | .waiting _ => true
  | _ => false

namespace Plugin

/-! ## No acknowledge is lost -/

/-- Packets of a core on their way to the external device, packets it has still
to acknowledge, and acknowledges on their way back. -/
def inFlight (plugin : Plugin) (grspwId : GrspwId) : Nat :=
  (plugin.host.spwq.filterMap (addressee msgqData)).count grspwId +
    plugin.taken.count grspwId +
      (plugin.devq.filterMap (addressee msgqAck)).count grspwId

/-- A call waits although the acknowledge of its packet was consumed and none
is on its way. -/
def Lost (plugin : Plugin) (grspwId : GrspwId) : Prop :=
  plugin.Waits grspwId ∧ plugin.inFlight grspwId = 0

instance (plugin : Plugin) (grspwId : GrspwId) :
    Decidable (plugin.Lost grspwId) :=
  inferInstanceAs (Decidable (_ ∧ _))

/-- The external device acknowledges only the packets it has taken; what else
it puts on `devq` is long enough to be of another kind. -/
def ObeysProtocol : Action → Prop
  | .put message => 2 ≤ message.length ∧ addressee msgqAck message = none
  | _ => True

instance (action : Action) : Decidable (ObeysProtocol action) :=
  match action with
  | .put _ => inferInstanceAs (Decidable (_ ∧ _))
  | .write _ _ _ => isTrue trivial
  | .send _ => isTrue trivial
  | .txwaitack _ => isTrue trivial
  | .resume _ => isTrue trivial
  | .receive _ => isTrue trivial
  | .take => isTrue trivial
  | .acknowledge => isTrue trivial
  | .ambient _ => isTrue trivial

/-- An acknowledge is taken from `devq` while its core's call waits, and that
call is the one woken. -/
def AckFindsWaiter (plugin : Plugin) : Action → Prop
  | .receive wakes =>
      plugin.MayWake wakes →
      ∀ message ∈ plugin.devq.head?, ∀ grspwId ∈ addressee msgqAck message,
        wakes = some grspwId
  | _ => True

instance (plugin : Plugin) (action : Action) :
    Decidable (plugin.AckFindsWaiter action) :=
  match action with
  | .receive _ => inferInstanceAs (Decidable (_ → _))
  | .put _ => isTrue trivial
  | .write _ _ _ => isTrue trivial
  | .send _ => isTrue trivial
  | .txwaitack _ => isTrue trivial
  | .resume _ => isTrue trivial
  | .take => isTrue trivial
  | .acknowledge => isTrue trivial
  | .ambient _ => isTrue trivial

/-- Every outstanding call has exactly one message in flight, and no other core
has any. -/
structure Balanced (plugin : Plugin) : Prop where
  named : ∀ grspwId, (plugin.devices grspwId).grspwId = grspwId
  long : ∀ message ∈ plugin.devq, 2 ≤ message.length
  balanced : ∀ grspwId,
    plugin.inFlight grspwId =
      if (plugin.calls grspwId).outstanding then 1 else 0

theorem balanced_init (ram : Memory Uint8) (recvAtt : RecvAtt) :
    Balanced (init ram recvAtt) where
  named := fun _ => rfl
  long := by simp [init]
  balanced := fun _ => rfl

theorem named_putCore
    {plugin : Plugin}
    (named : ∀ grspwId, (plugin.devices grspwId).grspwId = grspwId)
    {grspwId : GrspwId}
    {core : Core}
    (sameId : core.device.grspwId = grspwId)
    (other : GrspwId) :
    ((plugin.putCore grspwId core).devices other).grspwId = other := by
  change (Function.update plugin.devices grspwId core.device other).grspwId =
    other
  by_cases same : other = grspwId
  · rw [same, Function.update_self]
    exact sameId
  · rw [Function.update_of_ne same]
    exact named other

/-- Replacing a core by one with the same id, and queueing no packet, keeps the
balance. -/
theorem Balanced.putCore
    {plugin : Plugin}
    (balanced : Balanced plugin)
    {grspwId : GrspwId}
    {core : Core}
    (sameId : core.device.grspwId = grspwId)
    (sameQueue : core.host.spwq.filterMap (addressee msgqData) =
      plugin.host.spwq.filterMap (addressee msgqData)) :
    Balanced (plugin.putCore grspwId core) := by
  refine ⟨named_putCore balanced.named sameId, balanced.long, ?_⟩
  intro other
  have before := balanced.balanced other
  unfold inFlight at before ⊢
  change (core.host.spwq.filterMap _).count other + _ + _ = _
  rw [sameQueue]
  exact before

/-- The balance of one call moves with what it has in flight. -/
theorem Balanced.of_moved
    {plugin after : Plugin}
    (balanced : Balanced plugin)
    {grspwId : GrspwId}
    {call : Call}
    (named : ∀ other, (after.devices other).grspwId = other)
    (long : ∀ message ∈ after.devq, 2 ≤ message.length)
    (calls : after.calls = Function.update plugin.calls grspwId call)
    (others : ∀ other ≠ grspwId,
      after.inFlight other = plugin.inFlight other)
    (own : after.inFlight grspwId = if call.outstanding then 1 else 0) :
    Balanced after := by
  refine ⟨named, long, ?_⟩
  intro other
  by_cases same : other = grspwId
  · rw [same, calls, Function.update_self]
    exact own
  · rw [others other same, calls, Function.update_of_ne same]
    exact balanced.balanced other

/-- A call that moves while nothing else does. -/
theorem Balanced.putCall
    {plugin : Plugin}
    (balanced : Balanced plugin)
    {grspwId : GrspwId}
    {call : Call}
    (same : call.outstanding = (plugin.calls grspwId).outstanding) :
    Balanced (plugin.putCall grspwId call) := by
  refine balanced.of_moved balanced.named balanced.long rfl
    (fun other _ => rfl) ?_
  rw [same]
  exact balanced.balanced grspwId

/-- One more message at the end of a queue. -/
theorem filterMap_append_wireImage
    (kind : Uint8)
    (queue : List Message)
    (txbuffer : Memory Uint8)
    (grspwId : GrspwId)
    (pword : Uint8)
    (header data : List Uint8) :
    (queue ++ [wireImage txbuffer grspwId pword header data]).filterMap
        (addressee kind) =
      queue.filterMap (addressee kind) ++
        if pword = kind then [grspwId] else [] := by
  have last := addressee_wireImage kind txbuffer grspwId pword header data
  rw [List.filterMap_append]
  congr 1
  by_cases same : pword = kind
  · rw [if_pos same] at last ⊢
    rw [List.filterMap_cons_some last, List.filterMap_nil]
  · rw [if_neg same] at last ⊢
    rw [List.filterMap_cons_none last, List.filterMap_nil]

section Steps

variable
  {layout : Layout}
  {plugin after : Plugin}

/-- A register write queues at most a time code. -/
theorem Balanced.write
    (balanced : Balanced plugin)
    (grspwId : GrspwId)
    (regOffset : RegOffset)
    (value : Uint32) :
    Balanced (plugin.putCore grspwId
      ((plugin.core grspwId).written regOffset value)) := by
  refine balanced.putCore (balanced.named grspwId) ?_
  obtain same | ⟨timecode, queued⟩ :=
    (plugin.core grspwId).written_spwq regOffset value
  · rw [same]
    rfl
  · rw [queued, filterMap_append_wireImage, if_neg (by decide),
      List.append_nil]
    rfl

/-- A packet sent from an idle call is in flight. -/
theorem Balanced.sent
    (balanced : Balanced plugin)
    {grspwId : GrspwId}
    (idle : plugin.calls grspwId = .idle)
    (frame : TxFrame) :
    Balanced
      ((plugin.putCore grspwId ((plugin.core grspwId).txSent layout)).putCall
        grspwId (.sent frame)) := by
  have queue :
      ((plugin.core grspwId).txSent layout).host.spwq.filterMap
          (addressee msgqData) =
        plugin.host.spwq.filterMap (addressee msgqData) ++ [grspwId] := by
    rw [txSent_spwq, filterMap_append_wireImage, if_pos rfl]
    exact congrArg (fun id => _ ++ [id]) (balanced.named grspwId)
  have flight : ∀ other,
      ((plugin.putCore grspwId ((plugin.core grspwId).txSent layout)).putCall
        grspwId (.sent frame)).inFlight other =
        plugin.inFlight other + [grspwId].count other := by
    intro other
    unfold inFlight
    change (((plugin.core grspwId).txSent layout).host.spwq.filterMap _).count
      other + plugin.taken.count other +
        (plugin.devq.filterMap (addressee msgqAck)).count other = _
    rw [queue, List.count_append]
    omega
  have sameId : ((plugin.core grspwId).txSent layout).device.grspwId =
      grspwId := by
    rw [txSent_grspwId]
    exact balanced.named grspwId
  refine balanced.of_moved (named_putCore balanced.named sameId) balanced.long
    rfl ?_ ?_
  · intro other different
    rw [flight, List.count_singleton, beq_eq_false_iff_ne.mpr different.symm]
    rfl
  · have before := balanced.balanced grspwId
    rw [idle] at before
    rw [flight, before, List.count_singleton_self]
    rfl

/-- A transmit call up to its wait keeps the balance. -/
theorem Balanced.send
    (balanced : Balanced plugin)
    {grspwId : GrspwId}
    (returns : plugin.send layout grspwId = .ok after) :
    Balanced after := by
  obtain ⟨_, rfl⟩ | ⟨_, core, calls, rfl⟩ | ⟨idle, frame, core, calls, rfl⟩ :=
    send_cases returns
  · exact balanced
  · obtain ⟨_, host, id⟩ | ⟨isFrame, _⟩ := txenableSend_cases calls
    · refine balanced.putCore (id.trans (balanced.named grspwId)) ?_
      rw [host]
      rfl
    · cases isFrame
  · obtain ⟨noFrame, _⟩ | ⟨_, rfl⟩ := txenableSend_cases calls
    · cases noFrame
    · exact balanced.sent idle frame

theorem Balanced.txwaitack
    (balanced : Balanced plugin)
    (grspwId : GrspwId) :
    Balanced (plugin.txwaitack grspwId) := by
  unfold Plugin.txwaitack
  cases phase : plugin.calls grspwId with
  | sent frame =>
      refine balanced.putCall ?_
      rw [phase]
      rfl
  | _ => exact balanced

theorem Balanced.resume
    (balanced : Balanced plugin)
    (grspwId : GrspwId) :
    Balanced (plugin.resume layout grspwId) := by
  unfold Plugin.resume
  cases phase : plugin.calls grspwId with
  | woken frame =>
      have released : Balanced (plugin.putCore grspwId
          (txenableAcked layout frame (plugin.core grspwId))) := by
        refine balanced.putCore ?_ ?_
        · rw [txenableAcked_grspwId]
          exact balanced.named grspwId
        · rw [txenableAcked_spwq]
          rfl
      refine released.putCall ?_
      change Call.outstanding .idle = (plugin.calls grspwId).outstanding
      rw [phase]
      rfl
  | _ => exact balanced

/-- A packet taken stays in flight. -/
theorem Balanced.take (balanced : Balanced plugin) :
    Balanced plugin.take := by
  unfold Plugin.take
  cases queue : plugin.host.spwq with
  | nil => exact balanced
  | cons message spwq =>
      refine ⟨balanced.named, balanced.long, ?_⟩
      intro grspwId
      have before := balanced.balanced grspwId
      unfold inFlight at before ⊢
      rw [queue, List.filterMap_cons] at before
      simp only [List.count_append]
      cases kind : addressee msgqData message with
      | none =>
          simp only [kind] at before
          simp only [Option.toList_none, List.count_nil]
          omega
      | some sender =>
          simp only [kind, List.count_cons] at before
          simp only [Option.toList_some, List.count_cons, List.count_nil]
          omega

/-- A packet acknowledged stays in flight. -/
theorem Balanced.acknowledge (balanced : Balanced plugin) :
    Balanced plugin.acknowledge := by
  unfold Plugin.acknowledge
  cases queue : plugin.taken with
  | nil => exact balanced
  | cons sender taken =>
      refine ⟨balanced.named, ?_, ?_⟩
      · intro message member
        obtain old | new := List.mem_append.mp member
        · exact balanced.long message old
        · rw [List.mem_singleton.mp new, ackMessage, length_wireImage]
          simp
      · intro grspwId
        have before := balanced.balanced grspwId
        have added : (plugin.devq ++ [ackMessage sender]).filterMap
            (addressee msgqAck) =
          plugin.devq.filterMap (addressee msgqAck) ++ [sender] := by
          rw [ackMessage, filterMap_append_wireImage, if_pos rfl]
        unfold inFlight at before ⊢
        rw [queue] at before
        simp only [added, List.count_append, List.count_cons, List.count_nil]
          at before ⊢
        omega

/-- A message of another kind on `devq` is no acknowledge in flight. -/
theorem Balanced.put
    (balanced : Balanced plugin)
    {message : Message}
    (obeys : ObeysProtocol (.put message)) :
    Balanced { plugin with devq := plugin.devq ++ [message] } := by
  obtain ⟨long, notAck⟩ := obeys
  refine ⟨balanced.named, ?_, ?_⟩
  · intro other member
    obtain old | new := List.mem_append.mp member
    · exact balanced.long other old
    · rw [List.mem_singleton.mp new]
      exact long
  · intro grspwId
    have before := balanced.balanced grspwId
    unfold inFlight at before ⊢
    rw [List.filterMap_append, List.filterMap_cons_none notAck,
      List.filterMap_nil, List.append_nil]
    exact before

/-- A message of another kind leaves `devq` without an acknowledge less. -/
theorem Balanced.taken_other
    (balanced : Balanced plugin)
    {message : Message}
    {devq : List Message}
    (queue : plugin.devq = message :: devq)
    (notAck : addressee msgqAck message = none)
    (received : Received) :
    Balanced (plugin.tookOff devq received) := by
  refine ⟨balanced.named, ?_, ?_⟩
  · intro other member
    apply balanced.long
    rw [queue]
    exact List.mem_cons_of_mem _ member
  · intro grspwId
    have before := balanced.balanced grspwId
    unfold inFlight at before ⊢
    rw [queue, List.filterMap_cons_none notAck] at before
    exact before

/-- An acknowledge taken from `devq` is in flight no longer. -/
theorem inFlight_tookOff
    {message : Message}
    {devq : List Message}
    {grspwId : GrspwId}
    (queue : plugin.devq = message :: devq)
    (acks : addressee msgqAck message = some grspwId)
    (received : Received)
    (other : GrspwId) :
    plugin.inFlight other = (plugin.tookOff devq received).inFlight other +
      if grspwId == other then 1 else 0 := by
  unfold inFlight
  rw [queue, List.filterMap_cons_some acks, List.count_cons]
  exact (Nat.add_assoc _ _ _).symm

/-- A signal touches no queue. -/
theorem inFlight_signal (wakes : Option GrspwId) (grspwId : GrspwId) :
    (plugin.signal wakes).inFlight grspwId = plugin.inFlight grspwId := by
  unfold signal
  split
  · split <;> rfl
  · rfl

/-- An acknowledge taken for the call it wakes settles that call. -/
theorem Balanced.taken_ack
    (balanced : Balanced plugin)
    {message : Message}
    {devq : List Message}
    {grspwId : GrspwId}
    {frame : TxFrame}
    (queue : plugin.devq = message :: devq)
    (acks : addressee msgqAck message = some grspwId)
    (waits : plugin.calls grspwId = .waiting frame)
    (received : Received) :
    Balanced ((plugin.tookOff devq received).putCall grspwId (.woken frame)) := by
  have flight := inFlight_tookOff queue acks received
  refine balanced.of_moved balanced.named ?_ rfl ?_ ?_
  · intro other member
    apply balanced.long
    rw [queue]
    exact List.mem_cons_of_mem _ member
  · intro other different
    rw [flight, beq_eq_false_iff_ne.mpr different.symm]
    rfl
  · have before := balanced.balanced grspwId
    rw [waits, flight] at before
    simp only [beq_self_eq_true, if_true, Call.outstanding] at before
    change (plugin.tookOff devq received).inFlight grspwId = 0
    omega

/-- Handling a message of another kind keeps the balance. -/
theorem Balanced.dispatch_other
    (balanced : Balanced plugin)
    {received : Received}
    {wakes : Option GrspwId}
    (notAck : received.pword ≠ msgqAck)
    (returns : plugin.dispatch layout received wakes = .ok after) :
    Balanced after := by
  obtain ⟨core, receives, rfl⟩ | rfl | rfl :=
    Plugin.dispatch_other notAck returns
  · obtain ⟨sameQueue, sameId⟩ := rxenable_frame receives
    refine balanced.putCore (sameId.trans (balanced.named _)) ?_
    rw [sameQueue]
    rfl
  · obtain ⟨sameQueue, sameId⟩ :=
      rxtimecode_frame (plugin.core received.grspwId) (received.data 0)
    refine balanced.putCore (sameId.trans (balanced.named _)) ?_
    rw [sameQueue]
    rfl
  · exact balanced

/-- The RX thread keeps the balance where each acknowledge finds its waiter. -/
theorem Balanced.rxthread
    (balanced : Balanced plugin)
    {wakes : Option GrspwId}
    (mayWake : plugin.MayWake wakes)
    (finds : AckFindsWaiter plugin (.receive wakes))
    (returns : plugin.rxthread layout wakes = .ok after) :
    Balanced after := by
  obtain ⟨_, rfl⟩ | ⟨message, devq, received, queue, decodes, dispatches⟩ :=
    rxthread_cases returns
  · exact balanced
  · have long : 2 ≤ message.length := by
      apply balanced.long
      rw [queue]
      exact List.mem_cons_self
    have kind := addressee_of_receivePacket long decodes msgqAck
    by_cases isAck : received.pword = msgqAck
    · rw [if_pos isAck] at kind
      have wakesOwner : wakes = some received.grspwId :=
        finds mayWake message (by simp [queue]) received.grspwId kind
      rw [wakesOwner] at mayWake dispatches
      obtain ⟨frame, waits⟩ := mayWake
      rw [dispatch_ack isAck] at dispatches
      cases dispatches
      rw [@signal_of_waits (plugin.tookOff devq received) _ frame waits]
      exact balanced.taken_ack queue kind waits received
    · rw [if_neg isAck] at kind
      exact (balanced.taken_other queue kind received).dispatch_other isAck
        dispatches

/-- Every action of parties that obey the protocol keeps the balance where each
acknowledge finds its waiter. -/
theorem Balanced.step
    (balanced : Balanced plugin)
    {action : Action}
    (obeys : ObeysProtocol action)
    (finds : AckFindsWaiter plugin action)
    (moves : plugin.step layout action = .ok after) :
    Balanced after := by
  cases action with
  | write grspwId regOffset value =>
      simp only [Plugin.step, Core.write_eq] at moves
      cases moves
      exact balanced.write grspwId regOffset value
  | send grspwId => exact balanced.send moves
  | txwaitack grspwId =>
      cases moves
      exact balanced.txwaitack grspwId
  | resume grspwId =>
      cases moves
      exact balanced.resume grspwId
  | receive wakes =>
      simp only [Plugin.step] at moves
      split_ifs at moves with mayWake
      · exact balanced.rxthread mayWake finds moves
      · cases moves
        exact balanced
  | take =>
      cases moves
      exact balanced.take
  | acknowledge =>
      cases moves
      exact balanced.acknowledge
  | put message =>
      cases moves
      exact balanced.put obeys
  | ambient ram =>
      cases moves
      exact ⟨balanced.named, balanced.long, balanced.balanced⟩

/-- Nothing is lost while every call is balanced. -/
theorem Balanced.not_lost
    (balanced : Balanced plugin)
    (grspwId : GrspwId) :
    ¬plugin.Lost grspwId := by
  rintro ⟨⟨frame, waits⟩, nothing⟩
  have one := balanced.balanced grspwId
  rw [nothing, waits] at one
  cases one

/-- A call whose messages are all consumed while it is outstanding is lost once
it waits. -/
theorem lost_txwaitack
    {grspwId : GrspwId}
    (outstanding : (plugin.calls grspwId).outstanding = true)
    (nothing : plugin.inFlight grspwId = 0) :
    (plugin.txwaitack grspwId).Lost grspwId := by
  unfold Plugin.txwaitack
  cases phase : plugin.calls grspwId with
  | sent frame => exact ⟨⟨frame, Function.update_self _ _ _⟩, nothing⟩
  | waiting frame => exact ⟨⟨frame, phase⟩, nothing⟩
  | idle =>
      rw [phase] at outstanding
      cases outstanding
  | woken frame =>
      rw [phase] at outstanding
      cases outstanding

/-- An acknowledge that does not wake its own core's call leaves that call, once
it waits, waiting for ever. -/
theorem Balanced.lost_of_not_woken
    (balanced : Balanced plugin)
    {message : Message}
    {devq : List Message}
    {grspwId : GrspwId}
    {wakes : Option GrspwId}
    (queue : plugin.devq = message :: devq)
    (acks : addressee msgqAck message = some grspwId)
    (another : wakes ≠ some grspwId)
    (returns : plugin.rxthread layout wakes = .ok after) :
    (after.txwaitack grspwId).Lost grspwId := by
  obtain ⟨empty, _⟩ |
    ⟨first, rest, received, queue', decodes, dispatches⟩ :=
    rxthread_cases returns
  · rw [queue] at empty
    cases empty
  · rw [queue] at queue'
    cases queue'
    have long : 2 ≤ message.length := by
      apply balanced.long
      rw [queue]
      exact List.mem_cons_self
    have kind := addressee_of_receivePacket long decodes msgqAck
    rw [acks] at kind
    split_ifs at kind with isAck
    rw [dispatch_ack isAck] at dispatches
    cases dispatches
    -- the one message in flight was this acknowledge
    have before := balanced.balanced grspwId
    rw [inFlight_tookOff queue acks received, beq_self_eq_true, if_pos rfl]
      at before
    have outstanding : (plugin.calls grspwId).outstanding = true := by
      by_contra settled
      rw [if_neg settled] at before
      omega
    rw [if_pos outstanding] at before
    apply lost_txwaitack
    · rw [signal_calls_of_ne another]
      exact outstanding
    · rw [inFlight_signal]
      omega

end Steps

/-- **No lost acknowledge.**  In every run in which the external device
acknowledges what it takes, and each acknowledge is taken from `devq` while its
core's call waits and wakes that call, no call waits for an acknowledge that was
consumed. -/
theorem not_lost_of_ackFindsWaiter
    (layout : Layout)
    (ram : Memory Uint8)
    (recvAtt : RecvAtt)
    (actions : List Action)
    (last : Plugin)
    (obeys : ∀ action ∈ actions, ObeysProtocol action)
    (finds : Machine.Guarded (Plugin.step layout) AckFindsWaiter
      (init ram recvAtt) actions)
    (reaches : Machine.run (Plugin.step layout) (init ram recvAtt) actions =
      .ok last)
    (grspwId : GrspwId) :
    ¬last.Lost grspwId := by
  have guarded := (Machine.guarded_of_forall_mem (Plugin.step layout) obeys
    (init ram recvAtt)).and finds
  have balanced : Balanced last :=
    Machine.run_invariant
      (fun plugin action after balanced guards moves =>
        balanced.step guards.1 guards.2 moves)
      (balanced_init ram recvAtt) guarded reaches
  exact balanced.not_lost grspwId

/-- The plugin over guest RAM full of armed transmit descriptors. -/
def armed : Plugin := init (enabledRam 16 2 0x10) ⟨0, 0, 0⟩

/-- One packet whose acknowledge comes after the wait has begun. -/
def promptRun : List Action :=
  busWrite 0x20 1 ++
    [.txwaitack 0, .take, .acknowledge, .receive (some 0), .resume 0]

theorem not_lost_promptRun :
    ∃ last, Machine.run (Plugin.step .packed) armed promptRun = .ok last ∧
      ¬last.Lost 0 :=
  ⟨_, rfl, not_lost_of_ackFindsWaiter .packed (enabledRam 16 2 0x10) ⟨0, 0, 0⟩
    promptRun _ (by decide) (by decide) rfl 0⟩

/-- One packet whose acknowledge comes before the wait has begun. -/
def hastyRun : List Action :=
  busWrite 0x20 1 ++ [.take, .acknowledge, .receive none, .txwaitack 0]

/-- An external device that answers at once leaves the call waiting for ever. -/
theorem lost_hastyRun :
    ¬∀ (layout : Layout) (ram : Memory Uint8) (recvAtt : RecvAtt)
      (actions : List Action) (last : Plugin),
      (∀ action ∈ actions, ObeysProtocol action) →
      Machine.run (Plugin.step layout) (init ram recvAtt) actions = .ok last →
        ∀ grspwId, ¬last.Lost grspwId := by
  intro all
  exact all .packed (enabledRam 16 2 0x10) ⟨0, 0, 0⟩ hastyRun _ (by decide) rfl 0
    (by decide)

/-! ## Acknowledges are matched to their core -/

/-- What an action shows of the handshake. -/
inductive AckEvent
  /-- A core's packet was sent. -/
  | sent (grspwId : GrspwId)
  /-- The RX thread received an acknowledge for a core. -/
  | acked (grspwId : GrspwId)
  /-- A core's transmit descriptor is released. -/
  | released (grspwId : GrspwId)
  | other
  deriving DecidableEq

/-- The event of a transmit call up to its wait. -/
def sendEvent
    (layout : Layout)
    (plugin : Plugin)
    (grspwId : GrspwId) : AckEvent :=
  match plugin.calls grspwId, txenableSend layout (plugin.core grspwId) with
  | .idle, .ok (some _, _) => .sent grspwId
  | _, _ => .other

/-- The core whose acknowledge the RX thread takes next, if it takes one. -/
def nextAck (plugin : Plugin) : Option GrspwId :=
  match plugin.devq with
  | [] => none
  | message :: _ =>
      match receivePacket plugin.rxbuffer plugin.rxheader plugin.rxdata
          message with
      | .error _ => none
      | .ok received =>
          if received.pword = msgqAck then some received.grspwId else none

/-- The event of an iteration of the RX thread. -/
def receiveEvent (plugin : Plugin) (wakes : Option GrspwId) : AckEvent :=
  if plugin.MayWake wakes then
    match plugin.nextAck with
    | some grspwId => .acked grspwId
    | none => .other
  else .other

/-- The event of a call that goes on after its wait. -/
def resumeEvent (plugin : Plugin) (grspwId : GrspwId) : AckEvent :=
  match plugin.calls grspwId with
  | .woken _ => .released grspwId
  | _ => .other

/-- A release clears the Enable bit of the descriptor its packet came from. -/
theorem released_of_resumeEvent
    {plugin : Plugin}
    {grspwId : GrspwId}
    (layout : Layout)
    (seen : plugin.resumeEvent grspwId = .released grspwId) :
    ∃ frame, plugin.calls grspwId = .woken frame ∧
      checkbit
        (ramWord (plugin.resume layout grspwId).host.ram frame.txdAddr.toNat)
        spwtdw0EN = false := by
  unfold resumeEvent at seen
  cases phase : plugin.calls grspwId with
  | woken frame =>
      refine ⟨frame, rfl, ?_⟩
      simp only [resume, phase]
      exact txenableAcked_released frame
  | _ =>
      rw [phase] at seen
      cases seen

/-- The event of an action. -/
def ackEvent (layout : Layout) (plugin : Plugin) : Action → AckEvent
  | .send grspwId => plugin.sendEvent layout grspwId
  | .receive wakes => plugin.receiveEvent wakes
  | .resume grspwId => plugin.resumeEvent grspwId
  | _ => .other

/-- Releases only after an own acknowledge.  The state tells for which cores one
was received since their packet was sent. -/
def matched : Machine.Monitor AckEvent (GrspwId → Bool) where
  next acked
    | .sent grspwId => Function.update acked grspwId false
    | .acked grspwId => Function.update acked grspwId true
    | _ => acked
  ok acked
    | .released grspwId => acked grspwId = true
    | _ => True

instance (acked : GrspwId → Bool) (event : AckEvent) :
    Decidable (matched.ok acked event) :=
  match event with
  | .released grspwId => inferInstanceAs (Decidable (acked grspwId = true))
  | .sent _ => isTrue trivial
  | .acked _ => isTrue trivial
  | .other => isTrue trivial

/-- An acknowledge that wakes a call carries the id of that call's core. -/
def AckWakesOwner (plugin : Plugin) : Action → Prop
  | .receive wakes =>
      plugin.MayWake wakes →
      ∀ acked ∈ plugin.nextAck, ∀ woken ∈ wakes, acked = woken
  | _ => True

instance (plugin : Plugin) (action : Action) :
    Decidable (plugin.AckWakesOwner action) :=
  match action with
  | .receive _ => inferInstanceAs (Decidable (_ → _))
  | .put _ => isTrue trivial
  | .write _ _ _ => isTrue trivial
  | .send _ => isTrue trivial
  | .txwaitack _ => isTrue trivial
  | .resume _ => isTrue trivial
  | .take => isTrue trivial
  | .acknowledge => isTrue trivial
  | .ambient _ => isTrue trivial

/-- Every woken call has its acknowledge. -/
def WokenAcked (plugin : Plugin) (acked : GrspwId → Bool) : Prop :=
  ∀ grspwId frame, plugin.calls grspwId = .woken frame → acked grspwId = true

section Matching

variable
  {layout : Layout}
  {plugin after : Plugin}
  {acked : GrspwId → Bool}

/-- A packet sent takes back its core's acknowledge, and its call is not
woken. -/
theorem WokenAcked.send
    (woken : WokenAcked plugin acked)
    {grspwId : GrspwId}
    (returns : plugin.send layout grspwId = .ok after) :
    WokenAcked after
      (matched.next acked (plugin.sendEvent layout grspwId)) := by
  unfold sendEvent
  obtain ⟨busy, rfl⟩ | ⟨idle, core, calls, rfl⟩ |
    ⟨idle, frame, core, calls, rfl⟩ := send_cases returns
  · cases phase : after.calls grspwId with
    | idle => exact absurd phase busy
    | _ => exact woken
  · rw [idle, calls]
    exact woken
  · rw [idle, calls]
    intro other otherFrame isWoken
    change Function.update plugin.calls grspwId (.sent frame) other =
      .woken otherFrame at isWoken
    change Function.update acked grspwId false other = true
    by_cases same : other = grspwId
    · rw [same, Function.update_self] at isWoken
      cases isWoken
    · rw [Function.update_of_ne same] at isWoken ⊢
      exact woken other otherFrame isWoken

/-- One more acknowledge takes none away. -/
theorem WokenAcked.ackReceived
    (woken : WokenAcked plugin acked)
    (grspwId : GrspwId) :
    WokenAcked plugin (Function.update acked grspwId true) := by
  intro other frame isWoken
  by_cases same : other = grspwId
  · rw [same, Function.update_self]
  · rw [Function.update_of_ne same]
    exact woken other frame isWoken

/-- A call that is not woken may move freely. -/
theorem WokenAcked.putCall
    (woken : WokenAcked plugin acked)
    {grspwId : GrspwId}
    {call : Call}
    (settled : ∀ frame, call = .woken frame → acked grspwId = true) :
    WokenAcked (plugin.putCall grspwId call) acked := by
  intro other frame isWoken
  change Function.update plugin.calls grspwId call other = .woken frame
    at isWoken
  by_cases same : other = grspwId
  · rw [same, Function.update_self] at isWoken
    rw [same]
    exact settled frame isWoken
  · rw [Function.update_of_ne same] at isWoken
    exact woken other frame isWoken

theorem WokenAcked.txwaitack
    (woken : WokenAcked plugin acked)
    (grspwId : GrspwId) :
    WokenAcked (plugin.txwaitack grspwId) acked := by
  unfold Plugin.txwaitack
  cases plugin.calls grspwId with
  | sent frame => exact woken.putCall fun _ wrong => by cases wrong
  | _ => exact woken

theorem WokenAcked.resume
    (woken : WokenAcked plugin acked)
    (grspwId : GrspwId) :
    WokenAcked (plugin.resume layout grspwId)
      (matched.next acked (plugin.resumeEvent grspwId)) := by
  unfold Plugin.resume resumeEvent
  cases plugin.calls grspwId with
  | woken frame =>
      have released : WokenAcked (plugin.putCore grspwId
        (txenableAcked layout frame (plugin.core grspwId))) acked := woken
      exact released.putCall fun _ wrong => by cases wrong
  | _ => exact woken

/-- The RX thread wakes only calls whose acknowledge it has taken. -/
theorem WokenAcked.receive
    (woken : WokenAcked plugin acked)
    {wakes : Option GrspwId}
    (mayWake : plugin.MayWake wakes)
    (owner : AckWakesOwner plugin (.receive wakes))
    (returns : plugin.rxthread layout wakes = .ok after) :
    WokenAcked after (matched.next acked (plugin.receiveEvent wakes)) := by
  have owned := owner mayWake
  unfold receiveEvent
  rw [if_pos mayWake]
  unfold nextAck at owned ⊢
  obtain ⟨empty, rfl⟩ | ⟨message, devq, received, queue, decodes, dispatches⟩ :=
    rxthread_cases returns
  · rw [empty]
    exact woken
  · rw [queue] at owned ⊢
    simp only [decodes] at owned ⊢
    by_cases isAck : received.pword = msgqAck
    · simp only [if_pos isAck] at owned ⊢
      rw [dispatch_ack isAck] at dispatches
      cases dispatches
      have more : WokenAcked (plugin.tookOff devq received)
          (Function.update acked received.grspwId true) :=
        woken.ackReceived received.grspwId
      cases wakes with
      | none => exact more
      | some wokenId =>
          have same : received.grspwId = wokenId :=
            owned received.grspwId rfl wokenId rfl
          obtain ⟨frame, waits⟩ := mayWake
          rw [@signal_of_waits (plugin.tookOff devq received) _ frame waits]
          refine more.putCall fun _ _ => ?_
          rw [same, Function.update_self]
    · simp only [if_neg isAck]
      obtain ⟨core, _, rfl⟩ | rfl | rfl :=
        Plugin.dispatch_other isAck dispatches
      · exact woken
      · exact woken
      · exact woken

/-- Every action keeps the acknowledges of woken calls where none wakes another
core's call. -/
theorem WokenAcked.step
    (woken : WokenAcked plugin acked)
    {action : Action}
    (owner : AckWakesOwner plugin action)
    (moves : plugin.step layout action = .ok after) :
    WokenAcked after (matched.next acked (plugin.ackEvent layout action)) := by
  cases action with
  | write grspwId regOffset value =>
      simp only [Plugin.step, Core.write_eq] at moves
      cases moves
      exact woken
  | send grspwId => exact woken.send moves
  | txwaitack grspwId =>
      cases moves
      exact woken.txwaitack grspwId
  | resume grspwId =>
      cases moves
      exact woken.resume grspwId
  | receive wakes =>
      simp only [Plugin.step] at moves
      split_ifs at moves with mayWake
      · exact woken.receive mayWake owner moves
      · cases moves
        simp only [ackEvent, receiveEvent, if_neg mayWake]
        exact woken
  | take =>
      cases moves
      unfold Plugin.take
      split
      · exact woken
      · exact woken
  | acknowledge =>
      cases moves
      unfold Plugin.acknowledge
      split
      · exact woken
      · exact woken
  | put message =>
      cases moves
      exact woken
  | ambient ram =>
      cases moves
      exact woken

/-- A woken call may release its descriptor. -/
theorem WokenAcked.ok
    (woken : WokenAcked plugin acked)
    (action : Action) :
    matched.ok acked (plugin.ackEvent layout action) := by
  cases action with
  | resume grspwId =>
      simp only [ackEvent, resumeEvent]
      cases phase : plugin.calls grspwId with
      | woken frame => exact woken grspwId frame phase
      | _ => trivial
  | send grspwId =>
      simp only [ackEvent, sendEvent]
      split
      · trivial
      · trivial
  | receive wakes =>
      simp only [ackEvent, receiveEvent]
      split
      · split
        · trivial
        · trivial
      · trivial
  | _ => trivial

end Matching

/-- **Matched acknowledges.**  In every run in which no acknowledge wakes
another core's call, a descriptor is released only after an acknowledge for its
core was received since its packet was sent. -/
theorem matched_accepts
    (layout : Layout)
    (ram : Memory Uint8)
    (recvAtt : RecvAtt)
    (actions : List Action)
    (owner : Machine.Guarded (Plugin.step layout) AckWakesOwner
      (init ram recvAtt) actions) :
    matched.Accepts (fun _ => false)
      (Machine.observe (Plugin.step layout) (ackEvent layout)
        (init ram recvAtt) actions) := by
  refine Machine.accepts_of_simulation WokenAcked ?_ ?_ ?_ owner
  · intro plugin action acked woken _
    exact woken.ok action
  · intro plugin action after acked woken guards moves
    exact woken.step guards moves
  · intro grspwId frame isWoken
    cases isWoken

theorem matched_accepts_promptRun :
    matched.Accepts (fun _ => false)
      (Machine.observe (Plugin.step .packed) (ackEvent .packed)
        (init (enabledRam 16 2 0x10) ⟨0, 0, 0⟩) promptRun) :=
  matched_accepts .packed (enabledRam 16 2 0x10) ⟨0, 0, 0⟩ promptRun (by decide)

/-- One packet of the first core, and an acknowledge for the second. -/
def strayRun : List Action :=
  busWrite 0x20 1 ++
    [.txwaitack 0, .put (ackMessage 1), .receive (some 0), .resume 0]

/-- An acknowledge for another core releases the descriptor. -/
theorem not_matched_strayRun :
    ¬∀ (layout : Layout) (ram : Memory Uint8) (recvAtt : RecvAtt)
      (actions : List Action),
      matched.Accepts (fun _ => false)
        (Machine.observe (Plugin.step layout) (ackEvent layout)
          (init ram recvAtt) actions) := by
  intro all
  exact absurd (all .packed (enabledRam 16 2 0x10) ⟨0, 0, 0⟩ strayRun)
    (by decide)

end Plugin

end Grspw
