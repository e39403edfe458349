import Mathlib.Algebra.BigOperators.Fin
import Grspw.Acknowledge
import Grspw.Lib.Progress
import Grspw.Positions
import Grspw.Queues
import Grspw.TxMutex

/-!
# Every transmission completes

While the guest starts nothing new, what is left for the threads and the
external device to do is finite.  However they are scheduled, both queues run
empty, and the calls that then still wait are as many as acknowledges were
received while none waited.
-/

namespace Grspw

/-- `mq_maxmsg` of both queues. -/
def mqMaxmsg : Nat := 10

/-! ## Messages that can be decoded -/

/-- A message that names a core and whose two lengths end within it. -/
structure Encoded (message : Message) : Prop where
  named : idField (fun _ => 0) message < 4
  within : headerIdx + headerLenField (fun _ => 0) message + dataSize + 1 +
    dataLenField (fun _ => 0) message ≤ message.length
  short : message.length ≤ maxqSize

instance (message : Message) : Decidable (Encoded message) :=
  decidable_of_iff
    (idField (fun _ => 0) message < 4 ∧
      headerIdx + headerLenField (fun _ => 0) message + dataSize + 1 +
          dataLenField (fun _ => 0) message ≤ message.length ∧
      message.length ≤ maxqSize)
    ⟨fun ⟨named, within, short⟩ => ⟨named, within, short⟩,
      fun encoded => ⟨encoded.named, encoded.within, encoded.short⟩⟩

theorem Encoded.long {message : Message} (encoded : Encoded message) :
    7 ≤ message.length := by
  have within := encoded.within
  simp only [headerIdx, dataSize] at within
  omega

/-- The bytes of a message do not depend on what the buffer held before. -/
theorem write_apply_of_lt
    (rxbuffer rxbuffer' : Memory Uint8)
    {message : Message}
    {cell : Nat}
    (below : cell < message.length) :
    rxbuffer.write 0 message cell = rxbuffer'.write 0 message cell := by
  have left := Memory.write_apply_add rxbuffer 0 message cell below
  have right := Memory.write_apply_add rxbuffer' 0 message cell below
  rw [Nat.zero_add] at left right
  rw [left, right]

/-- An encoded message is decoded over any buffers. -/
theorem Encoded.receivePacket
    {message : Message}
    (encoded : Encoded message)
    (rxbuffer rxHeader rxData : Memory Uint8) :
    ∃ received,
      receivePacket rxbuffer rxHeader rxData message = .ok received := by
  have long := encoded.long
  have within := encoded.within
  have short := encoded.short
  have same : ∀ cell, cell < message.length →
      rxbuffer.write 0 message cell =
        Memory.write (fun _ => 0) 0 message cell := by
    intro cell below
    exact write_apply_of_lt rxbuffer _ below
  have idByte : rxbuffer.write 0 message spwIdIdx =
      Memory.write (fun _ => 0) 0 message spwIdIdx :=
    same _ (by simp only [spwIdIdx]; omega)
  have lengthByte : rxbuffer.write 0 message headerIdx =
      Memory.write (fun _ => 0) 0 message headerIdx :=
    same _ (by simp only [headerIdx]; omega)
  have lengthWord : loadWord (rxbuffer.write 0 message)
      (headerIdx + headerLenField (fun _ => 0) message + 1) =
        loadWord (Memory.write (fun _ => 0) 0 message)
          (headerIdx + headerLenField (fun _ => 0) message + 1) := by
    simp only [dataSize] at within
    unfold loadWord
    rw [same _ (by omega), same _ (by omega), same _ (by omega),
      same _ (by omega)]
  have small : dataLenField (fun _ => 0) message ≤ maxDataLen := by
    simp only [maxDataLen, maxqSize] at short ⊢
    omega
  refine ⟨_, @receivePacket_eq_decoded rxbuffer message
    ⟨idField (fun _ => 0) message, encoded.named⟩ rxHeader rxData ?_ ?_⟩
  · exact congrArg BitVec.toNat idByte
  · rw [lengthByte]
    change (loadWord (rxbuffer.write 0 message)
      (headerIdx + headerLenField (fun _ => 0) message + 1)).toNat ≤ _
    rw [lengthWord]
    exact small

theorem encoded_ackMessage (grspwId : GrspwId) :
    Encoded (ackMessage grspwId) := by
  revert grspwId
  decide

theorem addressee_ackMessage (grspwId : GrspwId) :
    addressee msgqAck (ackMessage grspwId) = some grspwId :=
  (addressee_wireImage msgqAck _ grspwId msgqAck [] []).trans (if_pos rfl)

/-! ## What is left to do -/

/-- Steps a call still makes. -/
def Call.work : Call → Nat
  | .sent _ => 3
  | .waiting _ => 2
  | .woken _ => 1
  | .idle => 0

namespace Plugin

/-- Steps the threads and the external device still make: each message on
`spwq` is taken, acknowledged and received. -/
def work (plugin : Plugin) : Nat :=
  (∑ grspwId, (plugin.calls grspwId).work) + 3 * plugin.host.spwq.length +
    2 * plugin.taken.length + plugin.devq.length

/-- Calls that have sent their packet and were not woken yet. -/
def outstandingCalls (plugin : Plugin) : Nat :=
  ∑ grspwId, (plugin.calls grspwId).outstanding.toNat

/-- Acknowledges still to come: packets on their way to the external device,
packets it has still to acknowledge, and acknowledges on their way back. -/
def acksDue (plugin : Plugin) : Nat :=
  (plugin.host.spwq.filterMap (addressee msgqData)).length +
    plugin.taken.length +
      (plugin.devq.filterMap (addressee msgqAck)).length

/-- Acknowledges the RX thread receives while no call waits for one. -/
def lostAck (plugin : Plugin) : Action → Nat
  | .receive none =>
      ((plugin.receives (.receive none)).filterMap (addressee msgqAck)).length
  | _ => 0

/-- The external device puts on `devq` only messages that can be decoded, and
acknowledges only by answering a packet. -/
def WellBehaved : Action → Prop
  | .put message => Encoded message ∧ addressee msgqAck message = none
  | _ => True

instance (action : Action) : Decidable (WellBehaved action) :=
  match action with
  | .put _ => inferInstanceAs (Decidable (_ ∧ _))
  | .write _ _ _ => isTrue trivial
  | .send _ => isTrue trivial
  | .txwaitack _ => isTrue trivial
  | .resume _ => isTrue trivial
  | .receive _ => isTrue trivial
  | .take => isTrue trivial
  | .acknowledge => isTrue trivial
  | .ambient _ => isTrue trivial

/-- Every message on `devq` can be decoded, and every ring position is in
range. -/
structure Steady (plugin : Plugin) : Prop where
  inRange : InRange plugin
  encoded : ∀ message ∈ plugin.devq, Encoded message

theorem steady_init (ram : Memory Uint8) (recvAtt : RecvAtt) :
    Steady (init ram recvAtt) where
  inRange := inRange_init ram recvAtt
  encoded := by simp [init]

section Steps

variable
  {layout : Layout}
  {plugin after : Plugin}
  {action : Action}

/-- Only acknowledges and what the external device sends are added to
`devq`. -/
theorem Steady.step
    (steady : Steady plugin)
    (guards : WellBehaved action ∧ plugin.SparesPositions layout action)
    (moves : plugin.step layout action = .ok after) :
    Steady after where
  inRange := (inRange_step_iff steady.inRange moves).mpr guards.2
  encoded := by
    have arriving : ∀ message ∈ plugin.arrives action, Encoded message := by
      intro message member
      cases action with
      | acknowledge =>
          simp only [arrives, Option.mem_toList,
            Option.map_eq_some_iff] at member
          obtain ⟨grspwId, _, rfl⟩ := member
          exact encoded_ackMessage grspwId
      | put other =>
          rw [List.mem_singleton.mp member]
          exact guards.1.1
      | _ => cases member
    intro message member
    obtain old | new := (isQueue_devq layout).mem_or_mem moves member
    · exact steady.encoded message old
    · exact arriving message new

/-! ## Accounts -/

/-- Moving one call changes any sum over the calls at that call alone. -/
theorem sum_calls_update
    (weight : Call → Nat)
    (calls : GrspwId → Call)
    (grspwId : GrspwId)
    (call : Call) :
    (∑ other, weight (Function.update calls grspwId call other)) +
        weight (calls grspwId) =
      (∑ other, weight (calls other)) + weight call := by
  have member := Finset.mem_univ grspwId
  have rest : ∑ other ∈ Finset.univ.erase grspwId,
      weight (Function.update calls grspwId call other) =
        ∑ other ∈ Finset.univ.erase grspwId, weight (calls other) := by
    apply Finset.sum_congr rfl
    intro other inRest
    rw [Function.update_of_ne (Finset.ne_of_mem_erase inRest)]
  rw [← Finset.add_sum_erase _ _ member, rest, Function.update_self,
    ← Finset.add_sum_erase _ (fun other => weight (calls other)) member]
  omega

/-- A signal changes any sum over the calls at the call it wakes alone. -/
theorem sum_calls_signal
    (weight : Call → Nat)
    {grspwId : GrspwId}
    {frame : TxFrame}
    (waits : plugin.calls grspwId = .waiting frame) :
    (∑ other, weight ((plugin.signal (some grspwId)).calls other)) +
        weight (.waiting frame) =
      (∑ other, weight (plugin.calls other)) + weight (.woken frame) := by
  rw [signal_of_waits waits, ← waits]
  exact sum_calls_update weight plugin.calls grspwId (.woken frame)

/-- A packet sent is an acknowledge due, until that is received. -/
theorem acksDue_step
    (behaved : WellBehaved action)
    (moves : plugin.step layout action = .ok after) :
    after.acksDue +
        ((plugin.receives action).filterMap (addressee msgqAck)).length =
      plugin.acksDue +
        ((plugin.sends action).filterMap (addressee msgqData)).length := by
  have spwq := (isQueue_spwq layout).length_filterMap (addressee msgqData) moves
  have devq := (isQueue_devq layout).length_filterMap (addressee msgqAck) moves
  have taken := congrArg List.length
    (isQueue_taken layout plugin action after moves)
  have answered : ((plugin.arrives action).filterMap
      (addressee msgqAck)).length = (plugin.acknowledges action).length := by
    cases action with
    | acknowledge =>
        simp only [arrives, acknowledges]
        cases plugin.taken.head? with
        | none => rfl
        | some grspwId => simp [addressee_ackMessage]
    | put message => simp [arrives, acknowledges, behaved.2]
    | _ => rfl
  simp only [List.length_append, picksUp] at taken
  unfold acksDue
  omega

/-- A register write sends no packet. -/
theorem sends_write
    (grspwId : GrspwId)
    (regOffset : RegOffset)
    (value : Uint32) :
    (plugin.sends (.write grspwId regOffset value)).filterMap
      (addressee msgqData) = [] := by
  cases regOffset with
  | ctr =>
      simp only [sends]
      split_ifs
      · rw [List.filterMap_cons_none, List.filterMap_nil]
        rw [addressee_wireImage, if_neg (by decide)]
      · rfl
  | _ => rfl

/-- A call that sends becomes outstanding. -/
theorem outstandingCalls_send
    {grspwId : GrspwId}
    (returns : plugin.send layout grspwId = .ok after) :
    after.outstandingCalls =
      plugin.outstandingCalls +
        ((plugin.sends (.send grspwId)).filterMap
          (addressee msgqData)).length := by
  obtain ⟨busy, rfl⟩ | ⟨idle, called, sends, rfl⟩ |
    ⟨idle, frame, called, sends, rfl⟩ := send_cases returns
  · simp [Plugin.sends, busy]
  · have notSending := txSending_of_txenableSend sends
    have none : plugin.sends (.send grspwId) = [] := by
      simp [Plugin.sends, notSending]
    rw [none]
    rfl
  · have sending := txSending_of_txenableSend sends
    have moved := sum_calls_update (fun call => call.outstanding.toNat)
      plugin.calls grspwId (.sent frame)
    have isPacket := addressee_wireImage msgqData plugin.host.txbuffer
      (plugin.core grspwId).device.grspwId msgqData
      (plugin.core grspwId).txHeader (plugin.core grspwId).txData
    rw [if_pos rfl] at isPacket
    rw [idle] at moved
    simp only [Plugin.sends, idle, sending, Option.isSome_some, and_self,
      if_true, List.filterMap_cons_some isPacket, List.filterMap_nil,
      List.length_singleton]
    exact moved

/-- A call in its wait stays as outstanding as it was. -/
theorem outstandingCalls_putCall
    {grspwId : GrspwId}
    {call : Call}
    (same : call.outstanding = (plugin.calls grspwId).outstanding) :
    (plugin.putCall grspwId call).outstandingCalls =
      plugin.outstandingCalls := by
  have moved := sum_calls_update (fun call => call.outstanding.toNat)
    plugin.calls grspwId call
  rw [same] at moved
  exact Nat.add_right_cancel moved

/-- An acknowledge settles the call it wakes; one that wakes none is lost. -/
theorem outstandingCalls_rxthread
    (steady : Steady plugin)
    {wakes : Option GrspwId}
    (mayWake : plugin.MayWake wakes)
    (returns : plugin.rxthread layout wakes = .ok after) :
    after.outstandingCalls +
        ((plugin.receives (.receive wakes)).filterMap
          (addressee msgqAck)).length =
      plugin.outstandingCalls + plugin.lostAck (.receive wakes) := by
  have received : plugin.receives (.receive wakes) =
      plugin.devq.head?.toList := if_pos mayWake
  obtain ⟨empty, rfl⟩ | ⟨message, devq, decoded, queue, decodes, dispatches⟩ :=
    rxthread_cases returns
  · cases wakes <;> simp [lostAck, received, empty]
  have long : 2 ≤ message.length := by
    have encoded := steady.encoded message (by simp [queue])
    have atLeast := encoded.long
    omega
  have kind := addressee_of_receivePacket long decodes msgqAck
  by_cases isAck : decoded.pword = msgqAck
  · rw [if_pos isAck] at kind
    rw [dispatch_ack isAck] at dispatches
    cases dispatches
    cases wakes with
    | none => rfl
    | some grspwId =>
        obtain ⟨frame, waits⟩ := mayWake
        have moved := @sum_calls_signal (plugin.tookOff devq decoded)
          (fun call => call.outstanding.toNat) grspwId frame waits
        simp only [received, queue, lostAck, List.head?_cons,
          Option.toList_some, List.filterMap_cons_some kind,
          List.filterMap_nil, List.length_singleton]
        exact moved
  · rw [if_neg isAck] at kind
    have calls : after.calls = plugin.calls := by
      rw [calls_of_dispatch dispatches, if_neg isAck]
      rfl
    unfold outstandingCalls
    rw [calls]
    cases wakes <;> simp [lostAck, received, queue, kind]

/-- A call is outstanding from its packet on until an acknowledge is received
while it waits. -/
theorem outstandingCalls_step
    (steady : Steady plugin)
    (moves : plugin.step layout action = .ok after) :
    after.outstandingCalls +
        ((plugin.receives action).filterMap (addressee msgqAck)).length =
      plugin.outstandingCalls +
        ((plugin.sends action).filterMap (addressee msgqData)).length +
          plugin.lostAck action := by
  have kept : .calls ∉ action.touches →
      after.outstandingCalls = plugin.outstandingCalls := by
    intro untouched
    unfold outstandingCalls
    rw [(leavesRest_of_step moves).calls untouched]
  cases action with
  | write grspwId regOffset value =>
      rw [sends_write, kept (by simp [Action.touches])]
      rfl
  | send grspwId => exact outstandingCalls_send moves
  | txwaitack grspwId =>
      cases moves
      unfold txwaitack
      split
      · rename_i frame sent
        exact outstandingCalls_putCall (by rw [sent]; rfl)
      · rfl
  | resume grspwId =>
      cases moves
      unfold resume
      split
      · rename_i frame woken
        refine @outstandingCalls_putCall (plugin.putCore grspwId
          (txenableAcked layout frame (plugin.core grspwId))) _ _ ?_
        change _ = (plugin.calls grspwId).outstanding
        rw [woken]
        rfl
      · rfl
  | receive wakes =>
      simp only [Plugin.step] at moves
      split_ifs at moves with mayWake
      · exact outstandingCalls_rxthread steady mayWake moves
      · cases moves
        cases wakes <;> simp [lostAck, receives, sends, mayWake]
  | _ =>
      rw [kept (by simp [Action.touches])]
      rfl

/-! ## What goes on lowers the work -/

theorem work_txwaitack_lt
    {grspwId : GrspwId}
    {frame : TxFrame}
    (sent : plugin.calls grspwId = .sent frame)
    (moves : plugin.step layout (.txwaitack grspwId) = .ok after) :
    after.work < plugin.work := by
  have moved := sum_calls_update Call.work plugin.calls grspwId (.waiting frame)
  rw [sent] at moved
  rw [step_txwaitack sent] at moves
  cases moves
  simp only [work, putCall, Call.work] at moved ⊢
  omega

theorem work_resume_lt
    {grspwId : GrspwId}
    {frame : TxFrame}
    (woken : plugin.calls grspwId = .woken frame)
    (moves : plugin.step layout (.resume grspwId) = .ok after) :
    after.work < plugin.work := by
  have moved := sum_calls_update Call.work plugin.calls grspwId .idle
  rw [woken] at moved
  rw [step_resume woken] at moves
  cases moves
  simp only [work, putCall, putCore, txenableAcked_spwq, Call.work] at moved ⊢
  change _ + 3 * plugin.host.spwq.length + _ + _ < _
  omega

/-- Waking a call leaves it less to do. -/
theorem sum_work_signal_le (wakes : Option GrspwId) :
    (∑ grspwId, ((plugin.signal wakes).calls grspwId).work) ≤
      ∑ grspwId, (plugin.calls grspwId).work := by
  cases wakes with
  | none => exact Nat.le_refl _
  | some grspwId =>
      cases phase : plugin.calls grspwId with
      | waiting frame =>
          have moved := sum_calls_signal Call.work phase
          simp only [Call.work] at moved ⊢
          omega
      | _ =>
          have same : plugin.signal (some grspwId) = plugin := by
            simp only [signal, phase]
          rw [same]

/-- A message that can be decoded is received, and leaves less to do. -/
theorem exists_receive
    (steady : Steady plugin)
    {wakes : Option GrspwId}
    (nonempty : plugin.devq ≠ [])
    (mayWake : plugin.MayWake wakes) :
    ∃ next, plugin.step layout (.receive wakes) = .ok next ∧
      next.work < plugin.work := by
  obtain ⟨message, devq, queue⟩ := List.exists_cons_of_ne_nil nonempty
  obtain ⟨received, decodes⟩ := (steady.encoded message (by
    simp [queue])).receivePacket plugin.rxbuffer plugin.rxheader plugin.rxdata
  have admits : layout.Admits
      (plugin.core received.grspwId).device.rxdCur nbRxDescriptor :=
    fun _ => (steady.inRange.devices received.grspwId).receive
  obtain ⟨next, dispatches⟩ :=
    @exists_dispatch layout (plugin.tookOff devq received) received admits wakes
  obtain ⟨spwq, taken, rest⟩ := queues_of_dispatch dispatches
  have calls : (∑ grspwId, (next.calls grspwId).work) ≤
      ∑ grspwId, (plugin.calls grspwId).work := by
    rw [calls_of_dispatch dispatches]
    split_ifs
    · exact @sum_work_signal_le (plugin.tookOff devq received) wakes
    · exact Nat.le_refl _
  refine ⟨next, ?_, ?_⟩
  · simp only [Plugin.step, if_pos mayWake, rxthread, queue, decodes]
    exact dispatches
  · unfold work
    rw [spwq, taken, rest, queue, List.length_cons]
    change _ + 3 * plugin.host.spwq.length + 2 * plugin.taken.length +
      devq.length < _
    omega

theorem work_take_lt (nonempty : plugin.host.spwq ≠ []) :
    plugin.take.work < plugin.work := by
  obtain ⟨message, spwq, queue⟩ := List.exists_cons_of_ne_nil nonempty
  have atMostOne : (addressee msgqData message).toList.length ≤ 1 := by
    cases addressee msgqData message <;> simp
  simp only [take, queue, work, List.length_append, List.length_cons]
  omega

theorem work_acknowledge_lt (nonempty : plugin.taken ≠ []) :
    plugin.acknowledge.work < plugin.work := by
  obtain ⟨grspwId, taken, queue⟩ := List.exists_cons_of_ne_nil nonempty
  simp only [acknowledge, queue, work, List.length_append, List.length_cons,
    List.length_nil]
  omega

end Steps

end Plugin

/-! ## With the mutex -/

namespace LockedPlugin

/-- An action that goes on with what is under way and is not blocked: a thread
outside its wait, a woken call while the mutex is free, or the external device
where its queue is not empty and has room for the answer. -/
def CanProceed (locked : LockedPlugin) : Action → Prop
  | .txwaitack grspwId => ∃ frame, locked.plugin.calls grspwId = .sent frame
  | .resume grspwId =>
      (∃ frame, locked.plugin.calls grspwId = .woken frame) ∧
        locked.txthreadMutex = false
  | .receive wakes => locked.plugin.devq ≠ [] ∧ locked.plugin.MayWake wakes
  | .take => locked.plugin.host.spwq ≠ []
  | .acknowledge =>
      locked.plugin.taken ≠ [] ∧ locked.plugin.devq.length < mqMaxmsg
  | _ => False

/-- Nothing is left on its way.  Calls may still wait, as many as acknowledges
were lost, and a woken call may be blocked by the mutex. -/
structure AtRest (locked : LockedPlugin) (lost : Nat) : Prop where
  spwq : locked.plugin.host.spwq = []
  taken : locked.plugin.taken = []
  devq : locked.plugin.devq = []
  notSent : ∀ grspwId frame, locked.plugin.calls grspwId ≠ .sent frame
  waiting : (Finset.univ.filter locked.plugin.Waits).card = lost
  blocked : ∀ grspwId frame, locked.plugin.calls grspwId = .woken frame →
    locked.txthreadMutex = true

/-- Acknowledges received in a run while no call waited for one. -/
def lostAcks
    (layout : Layout)
    (locked : LockedPlugin)
    (actions : List Action) : Nat :=
  (Machine.observe (step layout) (fun locked => locked.plugin.lostAck) locked
    actions).sum

/-- What keeps the plugin steady: a well-behaved external device, and transmit
calls that spare the ring positions. -/
def Sound (layout : Layout) (locked : LockedPlugin) (action : Action) : Prop :=
  Plugin.WellBehaved action ∧ locked.plugin.SparesPositions layout action

instance
    (layout : Layout)
    (locked : LockedPlugin)
    (action : Action) :
    Decidable (locked.Sound layout action) :=
  inferInstanceAs (Decidable (_ ∧ _))

/-- A guest that makes one transmit call at a time. -/
def SendsAlone (locked : LockedPlugin) : Action → Prop
  | .send _ => ∀ grspwId, locked.plugin.calls grspwId = .idle
  | _ => True

instance (locked : LockedPlugin) (action : Action) :
    Decidable (locked.SendsAlone action) :=
  match action with
  | .send _ => inferInstanceAs (Decidable (∀ _, _))
  | .write _ _ _ => isTrue trivial
  | .txwaitack _ => isTrue trivial
  | .resume _ => isTrue trivial
  | .receive _ => isTrue trivial
  | .take => isTrue trivial
  | .acknowledge => isTrue trivial
  | .put _ => isTrue trivial
  | .ambient _ => isTrue trivial

section Steps

variable
  {layout : Layout}
  {locked after : LockedPlugin}
  {action : Action}

theorem CanProceed.sound (proceeds : locked.CanProceed action) :
    locked.Sound layout action := by
  cases action with
  | send grspwId => exact proceeds.elim
  | put message => exact proceeds.elim
  | _ => exact ⟨trivial, trivial⟩

theorem CanProceed.sendsAlone (proceeds : locked.CanProceed action) :
    locked.SendsAlone action := by
  cases action with
  | send grspwId => exact proceeds.elim
  | _ => trivial

theorem steady_step
    (steady : locked.plugin.Steady)
    (sound : locked.Sound layout action)
    (moves : locked.step layout action = .ok after) :
    after.plugin.Steady := by
  obtain ⟨_, rfl⟩ | ⟨_, moves, _⟩ := step_cases moves
  · exact steady
  · exact steady.step sound moves

/-- Every action that can be taken goes through and leaves less to do. -/
theorem exists_step_of_canProceed
    (steady : locked.plugin.Steady)
    (proceeds : locked.CanProceed action) :
    ∃ next, locked.step layout action = .ok next ∧
      next.plugin.work < locked.plugin.work := by
  have free : locked.blocked action = false := by
    cases action with
    | resume grspwId => exact proceeds.2
    | _ => rfl
  have moved : ∃ plugin, locked.plugin.step layout action = .ok plugin ∧
      plugin.work < locked.plugin.work := by
    cases action with
    | txwaitack grspwId =>
        obtain ⟨frame, sent⟩ := proceeds
        exact ⟨_, rfl, @Plugin.work_txwaitack_lt layout _ _ _ _ sent rfl⟩
    | resume grspwId =>
        obtain ⟨⟨frame, woken⟩, _⟩ := proceeds
        exact ⟨_, rfl, @Plugin.work_resume_lt layout _ _ _ _ woken rfl⟩
    | receive wakes => exact Plugin.exists_receive steady proceeds.1 proceeds.2
    | take => exact ⟨_, rfl, Plugin.work_take_lt proceeds⟩
    | acknowledge => exact ⟨_, rfl, Plugin.work_acknowledge_lt proceeds.1⟩
    | _ => exact proceeds.elim
  obtain ⟨plugin, moves, lower⟩ := moved
  exact ⟨_, step_of_ok free moves, lower⟩

theorem lowers_work (layout : Layout) :
    Machine.Lowers (step layout) CanProceed (fun locked => locked.plugin.Steady)
      (fun locked => locked.plugin.work) := by
  intro locked action steady proceeds
  obtain ⟨next, moves, lower⟩ := exists_step_of_canProceed steady proceeds
  exact ⟨next, moves, steady_step steady proceeds.sound moves, lower⟩

/-- **Accounts.**  After every run the calls outstanding are the acknowledges due
and those lost. -/
theorem outstandingCalls_of_run
    {ram : Memory Uint8}
    {recvAtt : RecvAtt}
    {actions : List Action}
    (sound : Machine.Guarded (step layout) (Sound layout) (init ram recvAtt)
      actions)
    (reaches : Machine.run (step layout) (init ram recvAtt) actions =
      .ok locked) :
    locked.plugin.outstandingCalls =
      locked.plugin.acksDue +
        lostAcks layout (init ram recvAtt) actions := by
  have accounts := @Machine.debt_of_run _ _ _ (step layout) (Sound layout)
    (fun locked => locked.plugin.Steady)
    (fun locked => locked.plugin.outstandingCalls)
    (fun locked => locked.plugin.acksDue)
    (fun locked => locked.plugin.lostAck)
    (fun _ _ _ => steady_step) ?_ _ _ _ (Plugin.steady_init ram recvAtt) sound
    reaches
  · have none : (init ram recvAtt).plugin.outstandingCalls = 0 := rfl
    have nothing : (init ram recvAtt).plugin.acksDue = 0 := rfl
    rw [none, nothing, Nat.zero_add, Nat.add_zero] at accounts
    exact accounts
  · intro locked action next steady sound moves
    obtain ⟨isBlocked, rfl⟩ | ⟨_, moves, _⟩ := step_cases moves
    · cases action with
      | resume grspwId => rfl
      | _ => cases isBlocked
    · have calls := Plugin.outstandingCalls_step steady moves
      have acks := Plugin.acksDue_step sound.1 moves
      omega

/-! ## Where nothing goes on -/

/-- With no call between sending and waiting, those outstanding wait. -/
theorem card_waits
    (notSent : ∀ grspwId frame, locked.plugin.calls grspwId ≠ .sent frame) :
    (Finset.univ.filter locked.plugin.Waits).card =
      locked.plugin.outstandingCalls := by
  have same : ∀ grspwId, locked.plugin.Waits grspwId ↔
      (locked.plugin.calls grspwId).outstanding = true := by
    intro grspwId
    unfold Plugin.Waits
    cases phase : locked.plugin.calls grspwId with
    | sent frame => exact absurd phase (notSent grspwId frame)
    | _ => simp [Call.outstanding]
  rw [Finset.filter_congr fun grspwId _ => same grspwId, Finset.card_filter]
  apply Finset.sum_congr rfl
  intro grspwId _
  cases (locked.plugin.calls grspwId).outstanding <;> rfl

/-- **No deadlock.**  Where no action can be taken, nothing is left on its way. -/
theorem atRest_of_stuck
    {lost : Nat}
    (stuck : Machine.Stuck CanProceed locked)
    (accounts : locked.plugin.outstandingCalls = locked.plugin.acksDue + lost) :
    locked.AtRest lost := by
  have notSent : ∀ grspwId frame, locked.plugin.calls grspwId ≠ .sent frame :=
    fun grspwId frame sent => stuck (.txwaitack grspwId) ⟨frame, sent⟩
  have spwq : locked.plugin.host.spwq = [] := by
    by_contra nonempty
    exact stuck .take nonempty
  have devq : locked.plugin.devq = [] := by
    by_contra nonempty
    by_cases waiter : ∃ grspwId, locked.plugin.Waits grspwId
    · obtain ⟨grspwId, waits⟩ := waiter
      exact stuck (.receive (some grspwId)) ⟨nonempty, waits⟩
    · exact stuck (.receive none)
        ⟨nonempty, fun grspwId waits => waiter ⟨grspwId, waits⟩⟩
  have taken : locked.plugin.taken = [] := by
    by_contra nonempty
    refine stuck .acknowledge ⟨nonempty, ?_⟩
    rw [devq]
    decide
  refine ⟨spwq, taken, devq, notSent, ?_, ?_⟩
  · rw [card_waits notSent, accounts, Plugin.acksDue, spwq, taken, devq]
    exact Nat.zero_add lost
  · intro grspwId frame woken
    by_contra unlocked
    exact stuck (.resume grspwId)
      ⟨⟨frame, woken⟩, Bool.not_eq_true _ ▸ unlocked⟩

/-- An action that can be taken and loses no acknowledge. -/
def Keeps (locked : LockedPlugin) (action : Action) : Prop :=
  locked.CanProceed action ∧ locked.plugin.lostAck action = 0

/-- An acknowledge lost was due. -/
theorem lostAck_le_acksDue :
    locked.plugin.lostAck action ≤ locked.plugin.acksDue := by
  unfold Plugin.lostAck
  split
  · simp only [Plugin.receives, Plugin.acksDue]
    cases locked.plugin.devq with
    | nil => simp
    | cons message devq =>
        cases kind : addressee msgqAck message <;> split_ifs <;> simp [kind]
        omega
  · exact Nat.zero_le _

/-- An acknowledge need not be lost: while one is due, a call can begin its wait
or waits. -/
theorem stuck_of_stuck_keeps
    {lost : Nat}
    (stuck : Machine.Stuck Keeps locked)
    (accounts : locked.plugin.outstandingCalls = locked.plugin.acksDue + lost) :
    Machine.Stuck CanProceed locked := by
  intro action proceeds
  by_cases keeps : locked.plugin.lostAck action = 0
  · exact stuck action ⟨proceeds, keeps⟩
  have due := @lostAck_le_acksDue locked action
  have someOutstanding : ∃ grspwId,
      (locked.plugin.calls grspwId).outstanding = true := by
    by_contra none
    have zero : locked.plugin.outstandingCalls = 0 := by
      apply Finset.sum_eq_zero
      intro grspwId _
      cases settled : (locked.plugin.calls grspwId).outstanding with
      | true => exact absurd ⟨grspwId, settled⟩ none
      | false => rfl
    omega
  obtain ⟨grspwId, outstanding⟩ := someOutstanding
  cases phase : locked.plugin.calls grspwId with
  | sent frame => exact stuck (.txwaitack grspwId) ⟨⟨frame, phase⟩, rfl⟩
  | waiting frame =>
      -- an acknowledge is lost only while none waits
      cases action with
      | receive wakes =>
          cases wakes with
          | none => exact proceeds.2 grspwId ⟨frame, phase⟩
          | some other => exact keeps rfl
      | _ => exact keeps rfl
  | _ =>
      rw [phase] at outstanding
      cases outstanding

theorem lostAcks_of_keeps
    {later : List Action}
    (guarded : Machine.Guarded (step layout) Keeps locked later) :
    lostAcks layout locked later = 0 := by
  induction later generalizing locked with
  | nil => rfl
  | cons action later inductionHypothesis =>
      unfold lostAcks
      simp only [Machine.observe, List.sum_cons, guarded.1.2, Nat.zero_add]
      cases moves : locked.step layout action with
      | error fault => rfl
      | ok next => exact inductionHypothesis (guarded.2 next moves)

/-! ## One call at a time -/

/-- At most one call is under way, and the mutex is free while it waits. -/
structure OneCall (locked : LockedPlugin) : Prop where
  alone : ∀ grspwId other, locked.plugin.calls grspwId ≠ .idle →
    locked.plugin.calls other ≠ .idle → grspwId = other
  free : ∀ grspwId, (locked.plugin.calls grspwId).inWait = true →
    locked.txthreadMutex = false

theorem oneCall_init (ram : Memory Uint8) (recvAtt : RecvAtt) :
    OneCall (init ram recvAtt) where
  alone := fun _ _ busy => absurd rfl busy
  free := fun _ _ => rfl

/-- Only a transmit call begins. -/
theorem busy_of_step
    (moves : locked.step layout action = .ok after)
    {grspwId : GrspwId}
    (busy : after.plugin.calls grspwId ≠ .idle) :
    locked.plugin.calls grspwId ≠ .idle ∨ action = .send grspwId := by
  generalize phase : locked.plugin.calls grspwId = before
  generalize phase' : after.plugin.calls grspwId = call at busy
  have moved := callMoved_of_step moves grspwId
  rw [phase, phase'] at moved
  cases moved with
  | kept => exact Or.inl busy
  | sent frame => exact Or.inr rfl
  | returned frame => exact absurd rfl busy
  | _ => exact Or.inl (by simp)

/-- The call that locks the mutex returns. -/
theorem returned_of_set
    (moves : locked.step layout action = .ok after)
    (locks : locked.mutexEvent action = .set) :
    ∃ grspwId, locked.plugin.calls grspwId ≠ .idle ∧
      after.plugin.calls grspwId = .idle := by
  cases action with
  | resume grspwId =>
      simp only [mutexEvent] at locks
      cases phase : locked.plugin.calls grspwId with
      | woken frame =>
          simp only [phase] at locks
          split_ifs at locks with isLocked
          obtain ⟨isBlocked, _⟩ | ⟨_, moves, _⟩ := step_cases moves
          · exact absurd isBlocked isLocked
          · rw [Plugin.step_resume phase] at moves
            refine ⟨grspwId, by simp [phase], ?_⟩
            rw [← Except.ok.inj moves]
            exact Function.update_self _ _ _
      | _ =>
          rw [phase] at locks
          cases locks
  | txwaitack grspwId =>
      simp only [mutexEvent] at locks
      split at locks <;> cases locks
  | _ => cases locks

theorem OneCall.step
    (oneCall : locked.OneCall)
    (sendsAlone : locked.SendsAlone action)
    (moves : locked.step layout action = .ok after) :
    after.OneCall := by
  have alone : ∀ grspwId other, after.plugin.calls grspwId ≠ .idle →
      after.plugin.calls other ≠ .idle → grspwId = other := by
    intro grspwId other busy busyOther
    obtain before | rfl := busy_of_step moves busy
    · obtain beforeOther | rfl := busy_of_step moves busyOther
      · exact oneCall.alone grspwId other before beforeOther
      · exact absurd (sendsAlone grspwId) before
    · obtain beforeOther | same := busy_of_step moves busyOther
      · exact absurd (sendsAlone other) beforeOther
      · cases same
        rfl
  refine ⟨alone, ?_⟩
  intro grspwId waits
  rw [txthreadMutex_of_step moves]
  cases event : locked.mutexEvent action with
  | clear => rfl
  | set =>
      -- the call that came back was the only one
      obtain ⟨other, busy, idle⟩ := returned_of_set moves event
      have busyAfter : after.plugin.calls grspwId ≠ .idle := by
        intro isIdle
        rw [isIdle] at waits
        cases waits
      obtain before | rfl := busy_of_step moves busyAfter
      · have same := oneCall.alone grspwId other before busy
        rw [same, idle] at waits
        cases waits
      · cases event
  | quiet =>
      apply oneCall.free grspwId
      generalize phase : locked.plugin.calls grspwId = before
      generalize phase' : after.plugin.calls grspwId = call at waits
      have moved := callMoved_of_step moves grspwId
      rw [phase, phase'] at moved
      cases moved with
      | kept => exact waits
      | sent frame => cases waits
      | waits frame =>
          simp only [mutexEvent, phase] at event
          cases event
      | signalled frame => rfl
      | returned frame => cases waits

end Steps

/-- **Every transmission completes.**  Take any state that a run reaches in which
the external device is well behaved and the transmit calls spare the ring
positions.  What is under way can go on in any order: no continuation faults or
takes more steps than are left to do, and one that cannot be continued leaves
nothing on its way but as many waiting calls as acknowledges were lost.  Some
continuation loses no further one.  Where the guest makes one transmit call at a
time, none is left blocked by the mutex. -/
theorem transmissions_complete
    (layout : Layout)
    (ram : Memory Uint8)
    (recvAtt : RecvAtt)
    (actions : List Action)
    (locked : LockedPlugin)
    (sound : Machine.Guarded (step layout) (Sound layout) (init ram recvAtt)
      actions)
    (reaches : Machine.run (step layout) (init ram recvAtt) actions =
      .ok locked) :
    (∀ later, Machine.Guarded (step layout) CanProceed locked later →
      later.length ≤ locked.plugin.work ∧
      ∃ last, Machine.run (step layout) locked later = .ok last ∧
        (Machine.Stuck CanProceed last →
          last.AtRest (lostAcks layout (init ram recvAtt)
            (actions ++ later)))) ∧
    (∃ later last, Machine.Guarded (step layout) CanProceed locked later ∧
      Machine.run (step layout) locked later = .ok last ∧
      Machine.Stuck CanProceed last ∧
      last.AtRest (lostAcks layout (init ram recvAtt) actions)) ∧
    (Machine.Guarded (step layout) SendsAlone (init ram recvAtt) actions →
      ∀ later last, Machine.Guarded (step layout) CanProceed locked later →
        Machine.run (step layout) locked later = .ok last →
          Machine.Stuck CanProceed last →
            ∀ grspwId frame, last.plugin.calls grspwId ≠ .woken frame) := by
  have steady : locked.plugin.Steady :=
    @Machine.run_invariant _ _ _ _ _ (fun locked => locked.plugin.Steady)
      (fun _ _ _ => steady_step) _ _ _ (Plugin.steady_init ram recvAtt) sound
      reaches
  have accounts : ∀ later last,
      Machine.Guarded (step layout) CanProceed locked later →
      Machine.run (step layout) locked later = .ok last →
      last.plugin.outstandingCalls = last.plugin.acksDue +
        lostAcks layout (init ram recvAtt) (actions ++ later) := by
    intro later last proceeds continues
    apply outstandingCalls_of_run
    · exact sound.append reaches (proceeds.mono fun _ _ => CanProceed.sound)
    · rw [Machine.run_append_of_ok reaches, continues]
  refine ⟨?_, ?_, ?_⟩
  · intro later proceeds
    obtain ⟨last, continues, _, bound⟩ :=
      Machine.exists_run_of_lowers (lowers_work layout) steady proceeds
    exact ⟨by omega, last, continues, fun stuck =>
      atRest_of_stuck stuck (accounts later last proceeds continues)⟩
  · have keeping : Machine.Lowers (step layout) Keeps
        (fun locked => locked.plugin.Steady)
        (fun locked => locked.plugin.work) :=
      fun locked action steady keeps =>
        lowers_work layout locked action steady keeps.1
    obtain ⟨later, last, keeps, continues, stuck⟩ :=
      Machine.exists_run_to_stuck keeping steady
    have proceeds : Machine.Guarded (step layout) CanProceed locked later :=
      keeps.mono fun _ _ both => both.1
    have balance := accounts later last proceeds continues
    have noneLost : lostAcks layout (init ram recvAtt) (actions ++ later) =
        lostAcks layout (init ram recvAtt) actions := by
      have later := lostAcks_of_keeps keeps
      unfold lostAcks at later ⊢
      rw [Machine.observe_append_of_ok reaches, List.sum_append, later,
        Nat.add_zero]
    rw [noneLost] at balance
    have atEnd := stuck_of_stuck_keeps stuck balance
    exact ⟨later, last, proceeds, continues, atEnd,
      atRest_of_stuck atEnd balance⟩
  · intro sendsAlone later last proceeds continues stuck grspwId frame woken
    have guarded := sendsAlone.append reaches
      (proceeds.mono fun locked action proceeds => proceeds.sendsAlone)
    have oneCall : last.OneCall :=
      Machine.run_invariant (fun _ _ _ oneCall alone moves =>
        oneCall.step alone moves) (oneCall_init ram recvAtt) guarded
        (by rw [Machine.run_append_of_ok reaches, continues])
    have isLocked := (atRest_of_stuck stuck
      (accounts later last proceeds continues)).blocked grspwId frame woken
    have free := oneCall.free grspwId (by rw [woken]; rfl)
    rw [isLocked] at free
    cases free

/-- A core has sent a packet, and another gets one. -/
def busyRun : List Action :=
  busWrite 0x20 1 ++
    [.take, .put (wireImage (fun _ => 0) 2 msgqData [] [254])]

/-- Its call can still return. -/
theorem transmissions_complete_busyRun :
    ∃ locked later last,
      Machine.run (step .packed) (init (enabledRam 16 2 0x10) ⟨0, 0, 0⟩)
        busyRun = .ok locked ∧
      Machine.run (step .packed) locked later = .ok last ∧
      last.AtRest 0 ∧
      ∀ grspwId frame, last.plugin.calls grspwId ≠ .woken frame := by
  have reaches : ∃ locked, Machine.run (step .packed)
      (init (enabledRam 16 2 0x10) ⟨0, 0, 0⟩) busyRun = .ok locked := ⟨_, rfl⟩
  obtain ⟨locked, reaches⟩ := reaches
  obtain ⟨_, ⟨later, last, proceeds, continues, stuck, atRest⟩, noneBlocked⟩ :=
    transmissions_complete .packed (enabledRam 16 2 0x10) ⟨0, 0, 0⟩ busyRun
      locked (by decide) reaches
  exact ⟨locked, later, last, reaches, continues, atRest,
    noneBlocked (by decide) later last proceeds continues stuck⟩

end LockedPlugin

end Grspw
