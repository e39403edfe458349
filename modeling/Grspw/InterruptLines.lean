import Grspw.Lib.Line
import Grspw.HeldBack
import Grspw.Queues
import Grspw.WholePlugin

/-!
# The interrupt line of every core

A packet that leaves puts off its interrupt until the acknowledge, a packet stored
and a time code taken over raise theirs at once.  Over every run of the plugin the
interrupt of a core is pulsed exactly for these, whatever the other cores do
between a packet and its acknowledge.
-/

namespace Grspw

/-! ## One call -/

namespace Core

/-- What a call of the RX thread asks of the interrupt line. -/
def raisedBy (core : Core) : Input → List Line.Event
  | .packet data _ _ =>
      [.raise (core.rxStoring data && core.rxInterrupts)]
  | .timecode timecode =>
      [.raise (decide (core.regs.tim < timecode.setWidth 32) &&
        checkbit core.regs.ctr spwctrTQ)]
  | _ => []

end Core

section Calls

variable {layout : Layout} {core stored : Core} (grspwId : GrspwId)

/-- A packet raises at most the interrupt of the core it is for. -/
theorem pulses_of_rxenable
    {data : Memory Uint8}
    {len : Uint32}
    {att : RecvAtt}
    (returns : rxenable layout core data len att = .ok stored) :
    stored.host.pulses grspwId =
      core.host.pulses grspwId +
        if core.device.grspwId = grspwId then
          (core.rxStoring data && core.rxInterrupts).toNat
        else 0 := by
  unfold Core.rxStoring
  obtain ⟨refused, rfl⟩ | ⟨_, unavailable, rfl⟩ | ⟨fetches, unarmed, rfl⟩ |
    ⟨fetches, armed, rfl⟩ := rxenable_cases returns
  · simp [refused]
  · simp [unavailable, Core.rxDropped]
  · simp [unarmed, Core.rxRefused_host]
  · rw [Core.rxStored_host, Host.pulses_discard]
    simp only [fetches.accepts, fetches.available, armed, Bool.and_self,
      Bool.true_and]
    unfold Core.rxHost
    rw [Host.pulses_raise, Host.pulses_writeRam, Host.pulses_writeRam]
    by_cases truncates : core.regs.rxl &&& spwrxlRxMaxLength < len
    · rw [if_pos truncates, Host.pulses_emit_warning]
    · rw [if_neg truncates]

/-- So does a time code. -/
theorem pulses_of_rxtimecode (timecode : Uint8) :
    (rxtimecode core timecode).host.pulses grspwId =
      core.host.pulses grspwId +
        if core.device.grspwId = grspwId then
          (decide (core.regs.tim < timecode.setWidth 32) &&
            checkbit core.regs.ctr spwctrTQ).toNat
        else 0 := by
  by_cases newer : core.regs.tim < timecode.setWidth 32
  · rw [rxtimecode_newer newer]
    change (if checkbit core.regs.ctr spwctrTQ then
      core.host.emit (.irqPulse core.device.grspwId)
      else core.host).pulses grspwId = _
    rw [Host.pulses_raise, decide_eq_true newer, Bool.true_and]
  · rw [rxtimecode_stale newer, decide_eq_false newer]
    simp

/-- An acknowledge releases what the packet put off. -/
theorem pulses_of_txenableAcked (frame : TxFrame) :
    (txenableAcked layout frame core).host.pulses grspwId =
      core.host.pulses grspwId +
        if core.device.grspwId = grspwId then
          (checkbit (core.device.loadTxd layout (2 * frame.txdCur)) spwtdw0IE &&
            checkbit core.regs.chn spwchnTI).toNat
        else 0 := by
  have apart : spwtdw0IE &&& spwtdw0EN = 0 := by decide
  simp only [txenableAcked, Host.writeLeon3Ram_word, Device.storeTxd_grspwReg,
    Device.storeTxd_grspwId]
  rw [Host.pulses_raise, Host.pulses_writeRam,
    checkbit_clearbit_of_disjoint apart]

end Calls

/-- What lies below the ring positions is read from the scratch array. -/
theorem loadTxd_congr
    {layout : Layout}
    {left right : Device}
    {word : Nat}
    (below : layout = .packed → word < 128)
    (same : left.txdMap = right.txdMap) :
    left.loadTxd layout word = right.loadTxd layout word := by
  cases layout with
  | disjoint => exact congrFun same word
  | packed =>
      simp only [Device.loadTxd, if_pos (below rfl)]
      exact congrFun same word

namespace Plugin

/-! ## One action -/

/-- The interrupt a call under way has put off: whether its descriptor asks for
one. -/
def deferred
    (layout : Layout)
    (grspwId : GrspwId)
    (plugin : Plugin) : Option Bool :=
  (plugin.calls grspwId).frame?.map fun frame =>
    checkbit ((plugin.devices grspwId).loadTxd layout (2 * frame.txdCur))
      spwtdw0IE

/-- The interrupt line of a core. -/
def line
    (layout : Layout)
    (grspwId : GrspwId)
    (plugin : Plugin) : Line.State :=
  ⟨plugin.host.pulses grspwId, plugin.deferred layout grspwId⟩

/-- What an action is to the interrupt line of a core: a packet puts its
interrupt off, its acknowledge settles it under Transmit Interrupt, and what
arrives raises its own at once. -/
def lineEvents
    (grspwId : GrspwId)
    (plugin : Plugin) : Action → List Line.Event
  | .send other =>
      let core := plugin.core other
      if other = grspwId ∧ plugin.calls other = .idle ∧
          core.txSending = true then
        [.defer (checkbit core.txDescr.ctrl spwtdw0IE)]
      else []
  | .resume other =>
      match plugin.calls other with
      | .woken _ =>
          if other = grspwId then
            [.settle (checkbit (plugin.core other).regs.chn spwchnTI)]
          else []
      | _ => []
  | .receive wakes =>
      if plugin.MayWake wakes then
        (plugin.deliveredTo grspwId).flatMap (plugin.core grspwId).raisedBy
      else []
  | _ => []

section Steps

variable
  {layout : Layout}
  {grspwId : GrspwId}
  {plugin after : Plugin}

theorem deferred_of_idle (idle : plugin.calls grspwId = .idle) :
    plugin.deferred layout grspwId = none := by
  rw [deferred, idle]
  rfl

/-- The interrupt put off is in the locals of the call and its entry of the
scratch array. -/
theorem deferred_congr
    (within : FrameWithin layout grspwId plugin)
    (frames : (after.calls grspwId).frame? = (plugin.calls grspwId).frame?)
    (scratch : (after.devices grspwId).txdMap =
      (plugin.devices grspwId).txdMap) :
    after.deferred layout grspwId = plugin.deferred layout grspwId := by
  rw [deferred, deferred, frames]
  refine Option.map_congr ?_
  intro frame held
  have below : layout = .packed → 2 * frame.txdCur < 128 := by
    intro packed
    have bound := within frame held packed
    omega
  rw [loadTxd_congr below scratch]

/-- What neither pulses the line nor touches the call under way leaves the line
as it is. -/
theorem line_congr
    (within : FrameWithin layout grspwId plugin)
    (pulses : after.host.pulses grspwId = plugin.host.pulses grspwId)
    (frames : (after.calls grspwId).frame? = (plugin.calls grspwId).frame?)
    (scratch : (after.devices grspwId).txdMap =
      (plugin.devices grspwId).txdMap) :
    after.line layout grspwId = plugin.line layout grspwId := by
  rw [line, line, pulses, deferred_congr within frames scratch]

/-- A pulse now leaves the interrupt put off where it is. -/
theorem line_raised
    {honoured : Bool}
    (within : FrameWithin layout grspwId plugin)
    (pulses : after.host.pulses grspwId =
      plugin.host.pulses grspwId + honoured.toNat)
    (frames : (after.calls grspwId).frame? = (plugin.calls grspwId).frame?)
    (scratch : (after.devices grspwId).txdMap =
      (plugin.devices grspwId).txdMap) :
    Machine.run Line.step (plugin.line layout grspwId) [.raise honoured] =
      .ok (after.line layout grspwId) := by
  rw [line, line, pulses, deferred_congr within frames scratch]
  rfl

/-- A register write leaves every line as it is. -/
theorem line_write
    (within : FrameWithin layout grspwId plugin)
    (other : GrspwId)
    (regOffset : RegOffset)
    (value : Uint32) :
    (plugin.putCore other
        ((plugin.core other).written regOffset value)).line layout grspwId =
      plugin.line layout grspwId := by
  have pulses := pulses_written (plugin.core other) regOffset value
  refine line_congr within (congrFun pulses grspwId) rfl ?_
  by_cases own : other = grspwId
  · subst own
    rw [devices_putCore]
    rfl
  · rw [devices_putCore_of_ne (Ne.symm own)]

/-- A packet sent puts its interrupt off. -/
theorem line_send
    (within : FrameWithin layout grspwId plugin)
    {other : GrspwId}
    (returns : plugin.send layout other = .ok after) :
    Machine.run Line.step (plugin.line layout grspwId)
      (plugin.lineEvents grspwId (.send other)) =
        .ok (after.line layout grspwId) := by
  have quiet : ¬(other = grspwId ∧ plugin.calls other = .idle ∧
      (plugin.core other).txSending = true) →
      after.line layout grspwId = plugin.line layout grspwId →
      Machine.run Line.step (plugin.line layout grspwId)
        (plugin.lineEvents grspwId (.send other)) =
          .ok (after.line layout grspwId) := by
    intro nothing same
    rw [lineEvents, if_neg nothing, same]
    rfl
  obtain ⟨busy, rfl⟩ | ⟨idle, called, sends, rfl⟩ |
    ⟨idle, frame, called, sends, rfl⟩ := send_cases returns
  · exact quiet (fun both => busy both.2.1) rfl
  · have sending := txSending_of_txenableSend sends
    obtain ⟨_, host, _⟩ | ⟨isSome, _⟩ := txenableSend_cases sends
    swap
    · cases isSome
    have pulses : called.host.pulses grspwId = plugin.host.pulses grspwId :=
      congrArg (Host.pulses · grspwId) host
    by_cases own : other = grspwId
    · subst own
      refine quiet ?_ ?_
      · rintro ⟨_, _, sendsOne⟩
        rw [sending] at sendsOne
        cases sendsOne
      · have idleAfter : (plugin.putCore other called).calls other = .idle :=
          idle
        rw [line, line, deferred_of_idle idleAfter, deferred_of_idle idle]
        exact congrArg (Line.State.mk · none) pulses
    · refine quiet (fun both => own both.1) (line_congr within pulses rfl ?_)
      rw [devices_putCore_of_ne (Ne.symm own)]
  · have sending := txSending_of_txenableSend sends
    obtain ⟨sendsOne, rfl, rfl⟩ := txSends_of_txenableSend sends
    have pulses : ((plugin.core other).txSent layout).host.pulses grspwId =
        plugin.host.pulses grspwId := rfl
    by_cases own : other = grspwId
    · subst own
      have puts : ((plugin.putCore other
          ((plugin.core other).txSent layout)).putCall other
            (.sent (plugin.core other).txFrame)).deferred layout other =
          some (checkbit (plugin.core other).txDescr.ctrl spwtdw0IE) := by
        rw [deferred, frame?_putCall, if_pos rfl]
        change some (checkbit (((plugin.putCore other
          ((plugin.core other).txSent layout)).devices other).loadTxd layout
            (2 * (plugin.core other).device.txdCur.toNat)) spwtdw0IE) = _
        rw [devices_putCore, Core.txSent_loadTxd _ _ sendsOne.admits]
      rw [lineEvents, if_pos ⟨rfl, idle, sending⟩, line, line,
        deferred_of_idle idle, puts]
      exact congrArg (fun pulses => Except.ok (Line.State.mk pulses _))
        pulses.symm
    · refine quiet (fun both => own both.1) (line_congr within pulses ?_ ?_)
      · rw [frame?_putCall, if_neg (Ne.symm own)]
        rfl
      · exact congrArg Device.txdMap (devices_putCore_of_ne (Ne.symm own) _)

/-- A call that enters its wait takes what it has put off with it. -/
theorem line_txwaitack
    (within : FrameWithin layout grspwId plugin)
    (other : GrspwId) :
    (plugin.txwaitack other).line layout grspwId =
      plugin.line layout grspwId := by
  unfold txwaitack
  split
  · rename_i frame sent
    refine line_congr within rfl ?_ rfl
    rw [frame?_putCall]
    split_ifs with own
    · rw [own, sent]
      rfl
    · rfl
  · rfl

/-- An acknowledged call settles what it has put off. -/
theorem line_resume
    (within : FrameWithin layout grspwId plugin)
    (named : ∀ other, (plugin.devices other).grspwId = other)
    (other : GrspwId) :
    Machine.run Line.step (plugin.line layout grspwId)
      (plugin.lineEvents grspwId (.resume other)) =
        .ok ((plugin.resume layout other).line layout grspwId) := by
  unfold resume
  cases phase : plugin.calls other with
  | woken frame =>
      have pulses := @pulses_of_txenableAcked layout (plugin.core other) grspwId
        frame
      by_cases own : other = grspwId
      · subst own
        have putOff : plugin.deferred layout other =
            some (checkbit ((plugin.devices other).loadTxd layout
              (2 * frame.txdCur)) spwtdw0IE) := by
          rw [deferred, phase]
          rfl
        have idleAfter : ((plugin.putCore other (txenableAcked layout frame
            (plugin.core other))).putCall other .idle).calls other = .idle :=
          Function.update_self _ _ _
        have ownId : (plugin.core other).device.grspwId = other := named other
        rw [if_pos ownId] at pulses
        simp only [lineEvents, phase, if_true]
        rw [line, line, putOff, deferred_of_idle idleAfter]
        exact congrArg (fun pulses => Except.ok (Line.State.mk pulses none))
          pulses.symm
      · have foreign : (plugin.core other).device.grspwId ≠ grspwId := by
          intro same
          exact own ((named other).symm.trans same)
        have quiet : plugin.lineEvents grspwId (.resume other) = [] := by
          simp only [lineEvents, phase, if_neg own]
        rw [if_neg foreign] at pulses
        rw [quiet]
        refine congrArg Except.ok (line_congr within pulses ?_ ?_).symm
        · rw [frame?_putCall, if_neg (Ne.symm own)]
          rfl
        · exact congrArg Device.txdMap (devices_putCore_of_ne (Ne.symm own) _)
  | _ =>
      have quiet : plugin.lineEvents grspwId (.resume other) = [] := by
        simp only [lineEvents, phase]
      rw [quiet]
      rfl

/-- A message raises the interrupts of the core it names. -/
theorem line_dispatch
    (within : FrameWithin layout grspwId plugin)
    (named : ∀ other, (plugin.devices other).grspwId = other)
    {received : Received}
    {wakes : Option GrspwId}
    (dispatches : plugin.dispatch layout received wakes = .ok after) :
    Machine.run Line.step (plugin.line layout grspwId)
      ((if received.grspwId = grspwId then
          if received.pword = msgqAck then []
          else if received.pword = msgqData then
            [.packet received.data received.dataLen plugin.recvAtt]
          else if received.pword = msgqTime then
            [.timecode (received.data 0)]
          else []
        else []).flatMap (plugin.core grspwId).raisedBy) =
        .ok (after.line layout grspwId) := by
  have ownId : (plugin.core received.grspwId).device.grspwId =
    received.grspwId := named received.grspwId
  obtain ⟨isAck, rfl⟩ | ⟨notAck, isData, called, stores, rfl⟩ |
    ⟨notAck, notData, isTime, rfl⟩ | ⟨notAck, notData, notTime, rfl⟩ :=
    dispatch_cases dispatches
  · have same : (plugin.signal wakes).line layout grspwId =
        plugin.line layout grspwId :=
      line_congr within (congrArg (Host.pulses · grspwId) (host_signal wakes))
        (frame?_signal wakes)
        (congrArg (fun devices => (devices grspwId).txdMap)
          (devices_signal wakes))
    rw [if_pos isAck, ite_self, same]
    rfl
  · have pulses := pulses_of_rxenable grspwId stores
    rw [ownId] at pulses
    by_cases own : received.grspwId = grspwId
    · subst own
      rw [if_pos rfl] at pulses
      rw [if_pos rfl, if_neg notAck, if_pos isData]
      refine line_raised within pulses rfl ?_
      rw [devices_putCore]
      exact txdMap_rxenable stores
    · rw [if_neg own] at pulses
      rw [if_neg own]
      have scratch : ((plugin.putCore received.grspwId called).devices
          grspwId).txdMap = (plugin.devices grspwId).txdMap :=
        congrArg Device.txdMap (devices_putCore_of_ne (Ne.symm own) _)
      have same : (plugin.putCore received.grspwId called).line layout
          grspwId = plugin.line layout grspwId :=
        line_congr within pulses rfl scratch
      rw [same]
      rfl
  · have pulses := @pulses_of_rxtimecode (plugin.core received.grspwId) grspwId
      (received.data 0)
    rw [ownId] at pulses
    by_cases own : received.grspwId = grspwId
    · subst own
      rw [if_pos rfl] at pulses
      rw [if_pos rfl, if_neg notAck, if_neg notData, if_pos isTime]
      refine line_raised within pulses rfl ?_
      rw [devices_putCore]
      exact txdMap_rxtimecode _ _
    · rw [if_neg own] at pulses
      rw [if_neg own]
      have scratch : ((plugin.putCore received.grspwId (rxtimecode
          (plugin.core received.grspwId) (received.data 0))).devices
            grspwId).txdMap = (plugin.devices grspwId).txdMap :=
        congrArg Device.txdMap (devices_putCore_of_ne (Ne.symm own) _)
      have same : (plugin.putCore received.grspwId (rxtimecode
          (plugin.core received.grspwId) (received.data 0))).line layout
            grspwId = plugin.line layout grspwId :=
        line_congr within pulses rfl scratch
      rw [same]
      rfl
  · rw [if_neg notAck, if_neg notData, if_neg notTime, ite_self]
    rfl

theorem line_receive
    (within : FrameWithin layout grspwId plugin)
    (named : ∀ other, (plugin.devices other).grspwId = other)
    {wakes : Option GrspwId}
    (returns : plugin.rxthread layout wakes = .ok after) :
    Machine.run Line.step (plugin.line layout grspwId)
      ((plugin.deliveredTo grspwId).flatMap
        (plugin.core grspwId).raisedBy) =
        .ok (after.line layout grspwId) := by
  obtain ⟨empty, rfl⟩ | ⟨message, devq, received, queue, decodes, dispatches⟩ :=
    rxthread_cases returns
  · simp only [deliveredTo, empty]
    rfl
  · rw [deliveredTo_cons queue decodes]
    exact @line_dispatch layout grspwId (plugin.tookOff devq received) after
      within named received wakes dispatches

/-- Every action is to every interrupt line what it is said to be. -/
theorem line_step
    (within : FrameWithin layout grspwId plugin)
    (named : ∀ other, (plugin.devices other).grspwId = other)
    {action : Action}
    (moves : plugin.step layout action = .ok after) :
    Machine.run Line.step (plugin.line layout grspwId)
      (plugin.lineEvents grspwId action) = .ok (after.line layout grspwId) := by
  have kept : plugin.lineEvents grspwId action = [] →
      after.line layout grspwId = plugin.line layout grspwId →
      Machine.run Line.step (plugin.line layout grspwId)
        (plugin.lineEvents grspwId action) =
          .ok (after.line layout grspwId) := by
    intro quiet same
    rw [quiet, same]
    rfl
  cases action with
  | write other regOffset value =>
      simp only [step, Core.write_eq] at moves
      cases moves
      exact kept rfl (line_write within other regOffset value)
  | send other => exact line_send within moves
  | txwaitack other =>
      cases moves
      exact kept rfl (line_txwaitack within other)
  | resume other =>
      cases moves
      exact line_resume within named other
  | receive wakes =>
      simp only [step] at moves
      split_ifs at moves with mayWake
      · rw [lineEvents, if_pos mayWake]
        exact line_receive within named moves
      · cases moves
        exact kept (if_neg mayWake) rfl
  | _ =>
      have rest := leavesRest_of_step moves
      refine kept rfl (line_congr within ?_ ?_ ?_)
      · exact congrFun (rest.interrupts (by simp [Action.touches])) grspwId
      · rw [rest.calls (by simp [Action.touches])]
      · rw [rest.devices (by simp [Action.touches])]

end Steps

/-! ## Runs -/

/-- **Every interrupt accounted for.**  In every run of the plugin, whatever the
order of its actions, a core's interrupt has been pulsed once for each packet it
stored and each time code it took over that was to raise it, and once for each
packet it sent whose descriptor asked for it as the packet left and whose
acknowledge found Transmit Interrupt set.  Every packet but one under way has
been acknowledged. -/
theorem interrupts_accounted
    (layout : Layout)
    (ram : Memory Uint8)
    (recvAtt : RecvAtt)
    (actions : List Action)
    (last : Plugin)
    (reaches : Machine.run (Plugin.step layout) (init ram recvAtt) actions =
      .ok last)
    (grspwId : GrspwId) :
    let events := history layout (lineEvents grspwId) (init ram recvAtt) actions
    last.host.pulses grspwId =
        events.count (.raise true) +
          ((Line.asked events).zip (Line.settled events)).count (true, true) ∧
      (Line.asked events).length =
        (Line.settled events).length +
          (last.calls grspwId).frame?.toList.length := by
  have simulates : ∀ plugin action after line,
      (Machine.Reachable (Plugin.step layout) (init ram recvAtt) plugin ∧
        line = plugin.line layout grspwId) → True →
      plugin.step layout action = .ok after →
      ∃ line', Machine.run Line.step line (plugin.lineEvents grspwId action) =
          .ok line' ∧
        Machine.Reachable (Plugin.step layout) (init ram recvAtt) after ∧
        line' = after.line layout grspwId := by
    rintro plugin action after line ⟨reached, rfl⟩ _ moves
    have named : ∀ other, (plugin.devices other).grspwId = other :=
      fun other => (regsFormed_of_plugin_reachable reached other).1
    exact ⟨_, line_step (frameWithin_of_reachable reached) named moves,
      reached.step moves, rfl⟩
  obtain ⟨line, taken, _, rfl⟩ := Machine.exists_run_of_simulation
    (lineEvents grspwId)
    (fun plugin line =>
      Machine.Reachable (Plugin.step layout) (init ram recvAtt) plugin ∧
        line = plugin.line layout grspwId)
    simulates ⟨Machine.Reachable.refl _ _, rfl⟩
    (Machine.guarded_of_forall_mem _ (fun _ _ => trivial) _) reaches
  obtain ⟨pulses, lengths⟩ := Line.pulses_of_run taken
  have held : (last.deferred layout grspwId).toList.length =
      (last.calls grspwId).frame?.toList.length := by
    rw [deferred]
    cases (last.calls grspwId).frame? <;> rfl
  have start : ((init ram recvAtt).line layout grspwId) = ⟨0, none⟩ := rfl
  rw [start] at pulses lengths
  constructor
  · rw [Nat.zero_add] at pulses
    exact pulses
  · rw [← held]
    exact (Nat.zero_add _).symm.trans lengths

/-- Guest RAM with every descriptor enabled and asking for its interrupt. -/
def raisingRam : Memory Uint8 := fun addr =>
  if addr % 16 = 2 then 0x50 else if addr % 16 = 0 then 0x0A else 0

/-- While the first core waits, the second stores a packet. -/
def raisingRun : List Action :=
  busWrite 0x20 5 ++ [.txwaitack 0] ++ busWrite 0x120 0x806 ++
    [.put (wireImage (fun _ => 0) 1 msgqData [] [254]), .receive (some 0),
      .take, .acknowledge, .receive (some 0), .resume 0]

theorem interrupts_accounted_raisingRun :
    ∃ last,
      Machine.run (Plugin.step .packed) (init raisingRam ⟨0, 0, 0⟩)
        raisingRun = .ok last ∧
      last.host.pulses 0 = 1 ∧ last.host.pulses 1 = 1 := by
  have reaches : ∃ last, Machine.run (Plugin.step .packed)
      (init raisingRam ⟨0, 0, 0⟩) raisingRun = .ok last := ⟨_, rfl⟩
  obtain ⟨last, reaches⟩ := reaches
  have accounted := interrupts_accounted .packed raisingRam ⟨0, 0, 0⟩
    raisingRun last reaches
  exact ⟨last, reaches, (accounted 0).1.trans (by decide),
    (accounted 1).1.trans (by decide)⟩

end Plugin

end Grspw
