import Grspw.Invariants
import Grspw.Touches

/-!
# One core of the plugin

Seen from one core, the plugin is that core's own machine: every run of the
plugin, with its threads, its waits and its other cores in any order, is matched
by a run of the one-core machine over the calls made on that core.  What the
rest of the plugin does shows only as other contents of guest RAM.
-/

namespace Grspw

/-! ## Devices alike but for their scratch copies -/

/-- Two devices with the same registers and ring positions. -/
structure SameDevice (left right : Device) : Prop where
  grspwId_eq : left.grspwId = right.grspwId
  regs_eq : left.grspwReg = right.grspwReg
  txdCur_eq : left.txdCur = right.txdCur
  rxdCur_eq : left.rxdCur = right.rxdCur

theorem SameDevice.refl (device : Device) : SameDevice device device :=
  ⟨rfl, rfl, rfl, rfl⟩

theorem SameDevice.trans
    {left middle right : Device}
    (first : SameDevice left middle)
    (second : SameDevice middle right) :
    SameDevice left right :=
  ⟨first.grspwId_eq.trans second.grspwId_eq,
    first.regs_eq.trans second.regs_eq,
    first.txdCur_eq.trans second.txdCur_eq,
    first.rxdCur_eq.trans second.rxdCur_eq⟩

theorem SameDevice.symm
    {left right : Device}
    (same : SameDevice left right) :
    SameDevice right left :=
  ⟨same.grspwId_eq.symm, same.regs_eq.symm, same.txdCur_eq.symm,
    same.rxdCur_eq.symm⟩

/-- Releasing a descriptor touches scratch copies only. -/
theorem sameDevice_txenableAcked
    {layout : Layout}
    {frame : TxFrame}
    (within : layout = .packed → frame.txdCur < 64)
    (core : Core) :
    SameDevice (txenableAcked layout frame core).device core.device := by
  constructor
  · exact txenableAcked_grspwId frame
  · exact Device.storeTxd_grspwReg _ _ _ _
  · simp only [txenableAcked, Device.storeTxd_txdCur]
    rw [if_neg]
    rintro ⟨packed, word⟩
    have bound := within packed
    omega
  · simp only [txenableAcked, Device.storeTxd_rxdCur]
    rw [if_neg]
    rintro ⟨packed, word⟩
    have bound := within packed
    omega

/-- Where the scratch copies overlap nothing, whatever entry they use. -/
theorem sameDevice_txenableAcked_disjoint (frame : TxFrame) (core : Core) :
    SameDevice (txenableAcked .disjoint frame core).device core.device :=
  sameDevice_txenableAcked (fun packed => absurd packed (by decide)) core

section SameCalls

variable
  {layout : Layout}
  {left right : Core}
  (same : SameDevice left.device right.device)

include same

theorem SameDevice.admits_tx
    (admits : layout.Admits left.device.txdCur nbTxDescriptor) :
    layout.Admits right.device.txdCur nbTxDescriptor := by
  rwa [← same.txdCur_eq]

theorem SameDevice.rxFetches
    {data : Memory Uint8}
    (fetches : RxFetches layout left data) :
    RxFetches layout right data := by
  constructor
  · rw [Core.regs, ← same.regs_eq]
    exact fetches.accepts
  · rw [Core.regs, ← same.regs_eq]
    exact fetches.available
  · rw [← same.rxdCur_eq]
    exact fetches.admits

/-! ### Calls that fetch the same descriptor -/

section Transmit

variable (descr : right.txDescr = left.txDescr)

include descr

/-- After the same fetch the positions still agree. -/
theorem SameDevice.txFetched
    (admits : layout.Admits left.device.txdCur nbTxDescriptor) :
    SameDevice (left.txFetched layout) (right.txFetched layout) := by
  have admits' := same.admits_tx admits
  constructor
  · rw [Core.txFetched_grspwId, Core.txFetched_grspwId, same.grspwId_eq]
  · rw [Core.txFetched_grspwReg, Core.txFetched_grspwReg]
    exact same.regs_eq
  · rw [Core.txFetched_txdCur _ _ admits, Core.txFetched_txdCur _ _ admits',
      descr, same.txdCur_eq]
  · rw [Core.txFetched_rxdCur _ _ admits, Core.txFetched_rxdCur _ _ admits',
      descr, same.txdCur_eq, same.rxdCur_eq]

theorem SameDevice.txPolled
    (polls : TxPolls layout left) :
    TxPolls layout right ∧
      SameDevice (left.txPolled layout).device
        (right.txPolled layout).device := by
  have fetched := same.txFetched descr polls.admits
  refine ⟨⟨?_, same.admits_tx polls.admits, ?_⟩, ⟨?_, ?_, ?_, ?_⟩⟩
  · rw [Core.regs, ← same.regs_eq]
    exact polls.enabled
  · rw [descr]
    exact polls.unarmed
  · exact fetched.grspwId_eq
  · simp only [Core.txPolled, Core.regs, same.regs_eq]
  · exact fetched.txdCur_eq
  · exact fetched.rxdCur_eq

theorem SameDevice.txReleased
    (header : right.txHeader = left.txHeader)
    (data : right.txData = left.txData)
    (sends : TxSends layout left) :
    TxSends layout right ∧
      SameDevice (left.txReleased layout).device
        (right.txReleased layout).device := by
  have fetched := same.txFetched descr sends.admits
  have admits := same.admits_tx sends.admits
  have next : right.txNext layout = left.txNext layout := by
    rw [Core.txNext, Core.txNext, descr, fetched.txdCur_eq]
  refine ⟨⟨?_, admits, ?_, ?_⟩, ⟨?_, ?_, ?_, ?_⟩⟩
  · rw [Core.regs, ← same.regs_eq]
    exact sends.enabled
  · rw [descr]
    exact sends.armed
  · rw [header, data]
    exact sends.fits
  · rw [Core.txReleased_grspwId, Core.txReleased_grspwId, same.grspwId_eq]
  · change (left.txReleased layout).regs = (right.txReleased layout).regs
    rw [Core.txReleased_regs, Core.txReleased_regs, Core.txRegs, Core.txRegs,
      next, Core.regs, Core.regs, same.regs_eq]
  · rw [Core.txReleased_txdCur _ _ sends.admits,
      Core.txReleased_txdCur _ _ admits, next]
  · rw [Core.txReleased_rxdCur _ _ sends.admits,
      Core.txReleased_rxdCur _ _ admits, fetched.rxdCur_eq]

end Transmit

theorem SameDevice.rxStored
    (desc : right.rxDesc = left.rxDesc)
    (data : Memory Uint8)
    (len : Uint32)
    (att : RecvAtt) :
    SameDevice (left.rxStored data len att).device
      (right.rxStored data len att).device := by
  have next : right.rxNext = left.rxNext := by
    rw [Core.rxNext, Core.rxNext, desc, same.rxdCur_eq]
  constructor
  · exact same.grspwId_eq
  · change (left.rxStored data len att).regs = (right.rxStored data len att).regs
    rw [Core.rxStored_regs, Core.rxStored_regs, Core.rxRegs, Core.rxRegs, next,
      Core.regs, Core.regs, same.regs_eq]
  · exact same.txdCur_eq
  · rw [Core.rxStored_rxdCur, Core.rxStored_rxdCur, next]

theorem SameDevice.rxRefusedRegs :
    right.rxRefusedRegs = left.rxRefusedRegs := by
  have sameRegs : right.regs = left.regs := same.regs_eq.symm
  rw [Core.rxRefusedRegs, Core.rxRefusedRegs, sameRegs]

/-! ### Calls over the same guest RAM -/

section SameRam

variable (sameRam : left.host.ram = right.host.ram)

include sameRam

theorem SameDevice.txDescr_eq : right.txDescr = left.txDescr := by
  rw [Core.txDescr, Core.txDescr, Core.regs, ← same.regs_eq, ← sameRam]

theorem SameDevice.rxDesc_eq : right.rxDesc = left.rxDesc := by
  rw [Core.rxDesc, Core.rxDesc, Core.regs, ← same.regs_eq, ← sameRam]

/-- Over the same guest RAM, the same call moves registers and ring positions
alike. -/
theorem SameDevice.step
    {input : Input}
    {left' : Core}
    (moves : step layout left input = .ok left') :
    ∃ right', step layout right input = .ok right' ∧
      SameDevice left'.device right'.device := by
  have sameRegs : right.regs = left.regs := same.regs_eq.symm
  cases stepped_of_step moves with
  | written regOffset value =>
      refine ⟨_, right.write_eq regOffset value, same.grspwId_eq, ?_,
        same.txdCur_eq, same.rxdCur_eq⟩
      simp only [Core.written, sameRegs, same.grspwId_eq]
  | readOut regOffset => exact ⟨_, rfl, same⟩
  | idle disabled =>
      rw [← sameRegs] at disabled
      refine ⟨right, ?_, same⟩
      rw [Grspw.step, txenable_idle disabled]
      rfl
  | polled polls =>
      obtain ⟨polls', device⟩ := same.txPolled (same.txDescr_eq sameRam) polls
      refine ⟨_, ?_, device⟩
      rw [Grspw.step, txenable_polled polls'.enabled polls'.admits
        polls'.unarmed]
      rfl
  | sent sends =>
      have descr := same.txDescr_eq sameRam
      have header : right.txHeader = left.txHeader := by
        rw [Core.txHeader, Core.txHeader, descr, sameRam]
      have data : right.txData = left.txData := by
        rw [Core.txData, Core.txData, descr, sameRam]
      obtain ⟨sends', device⟩ := same.txReleased descr header data sends
      refine ⟨_, ?_, device⟩
      rw [Grspw.step, sends'.txenable_eq]
      rfl
  | deaf data len att refused =>
      rw [← sameRegs] at refused
      exact ⟨right, rxenable_refused refused, same⟩
  | dropped data len att accepts unavailable =>
      rw [← sameRegs] at accepts unavailable
      exact ⟨_, rxenable_unavailable accepts unavailable, same⟩
  | refused data len att fetches unarmed =>
      rw [← same.rxDesc_eq sameRam] at unarmed
      exact ⟨_, rxenable_disabled (same.rxFetches fetches) unarmed,
        same.grspwId_eq, same.rxRefusedRegs.symm, same.txdCur_eq,
        same.rxdCur_eq⟩
  | stored data len att fetches armed =>
      rw [← same.rxDesc_eq sameRam] at armed
      exact ⟨_, rxenable_stored (same.rxFetches fetches) armed,
        same.rxStored (same.rxDesc_eq sameRam) data len att⟩
  | stale timecode notNewer =>
      rw [← sameRegs] at notNewer
      exact ⟨right, congrArg Except.ok (rxtimecode_stale notNewer), same⟩
  | ticked timecode newer =>
      rw [← sameRegs] at newer
      refine ⟨_, congrArg Except.ok (rxtimecode_newer newer), same.grspwId_eq,
        ?_, same.txdCur_eq, same.rxdCur_eq⟩
      simp only [Core.tickedOut, sameRegs]
  | surrounded ram txbuffer => exact ⟨_, rfl, same⟩

end SameRam

end SameCalls

/-! ## The calls made on one core -/

/-- The locals a call holds on to. -/
def Call.frame? : Call → Option TxFrame
  | .idle => none
  | .sent frame => some frame
  | .waiting frame => some frame
  | .woken frame => some frame

namespace Plugin

/-- The call an iteration of the RX thread makes on a core. -/
def deliveredTo (grspwId : GrspwId) (plugin : Plugin) : List Input :=
  match plugin.devq with
  | [] => []
  | message :: _ =>
      match receivePacket plugin.rxbuffer plugin.rxheader plugin.rxdata
          message with
      | .error _ => []
      | .ok received =>
          if received.grspwId = grspwId then
            if received.pword = msgqAck then []
            else if received.pword = msgqData then
              [.packet received.data received.dataLen plugin.recvAtt]
            else if received.pword = msgqTime then
              [.timecode (received.data 0)]
            else []
          else []

/-- The call an action makes on a core. -/
def callOn (grspwId : GrspwId) (plugin : Plugin) : Action → List Input
  | .write other regOffset value =>
      if other = grspwId then [.write regOffset value] else []
  | .send other =>
      if other = grspwId ∧ plugin.calls other = .idle then [.transmit] else []
  | .receive wakes =>
      if plugin.MayWake wakes then plugin.deliveredTo grspwId else []
  | _ => []

/-- What an action is to a core's own machine: guest RAM as the rest of the
plugin left it, then the call. -/
def inputsOn
    (grspwId : GrspwId)
    (plugin : Plugin)
    (action : Action) : List Input :=
  (plugin.callOn grspwId action).flatMap fun input =>
    [.ambient plugin.host.ram plugin.host.txbuffer, input]

/-- What a run of the plugin is to a core's own machine. -/
def inputsOfRun
    (layout : Layout)
    (grspwId : GrspwId)
    (plugin : Plugin)
    (actions : List Action) : List Input :=
  (Machine.observe (Plugin.step layout) (inputsOn grspwId) plugin
    actions).flatten

/-- A call under way on a core uses an entry of the scratch array. -/
def FrameWithin
    (layout : Layout)
    (grspwId : GrspwId)
    (plugin : Plugin) : Prop :=
  ∀ frame ∈ (plugin.calls grspwId).frame?,
    layout = .packed → frame.txdCur < 64

/-- An action is to a core either nothing or one of the calls of its own
machine. -/
inductive Delivered
    (layout : Layout)
    (grspwId : GrspwId)
    (plugin : Plugin)
    (action : Action)
    (after : Plugin) : Prop
  | idle
      (uncalled : plugin.callOn grspwId action = [])
      (device : SameDevice (after.devices grspwId) (plugin.devices grspwId))
  | called
      {input : Input}
      {called : Core}
      (isCall : plugin.callOn grspwId action = [input])
      (moves : Grspw.step layout (plugin.core grspwId) input = .ok called)
      (device : SameDevice (after.devices grspwId) called.device)

section Steps

variable
  {layout : Layout}
  {grspwId : GrspwId}
  {plugin after : Plugin}

/-- An action that no core's machine takes part in. -/
theorem Delivered.of_devices_eq
    {action : Action}
    (uncalled : plugin.callOn grspwId action = [])
    (devices : after.devices grspwId = plugin.devices grspwId) :
    Delivered layout grspwId plugin action after := by
  refine .idle uncalled ?_
  rw [devices]
  exact SameDevice.refl _

/-! ### Transmit calls -/

/-- A call that reaches its wait has sent a packet, and its locals are those of
the core it started from. -/
theorem txSends_of_txenableSend
    {core sent : Core}
    {frame : TxFrame}
    (sends : txenableSend layout core = .ok (some frame, sent)) :
    TxSends layout core ∧ frame = core.txFrame ∧ sent = core.txSent layout := by
  have transmits : txenable layout core =
      .ok (false, txenableAcked layout frame sent) := by
    simp [txenable, sends]
  have sending : TxSends layout core := by
    obtain ⟨stops, _⟩ | ⟨stops, _⟩ | ⟨_, sending, _⟩ := txenable_cases transmits
    · cases stops
    · cases stops
    · exact sending
  obtain ⟨noFrame, _⟩ | ⟨isSome, isSent⟩ := txenableSend_cases sends
  · cases noFrame
  · exact ⟨sending, Option.some.inj isSome, isSent⟩

/-- Putting a call off until its acknowledge changes nothing a core's machine
shows: after the wait only scratch copies are written. -/
theorem delivered_send
    {other : GrspwId}
    (returns : plugin.send layout other = .ok after) :
    Delivered layout grspwId plugin (.send other) after := by
  obtain ⟨busy, rfl⟩ | ⟨idle, called, sends, rfl⟩ |
    ⟨idle, frame, called, sends, rfl⟩ := send_cases returns
  · exact .of_devices_eq (if_neg fun own => busy own.2) rfl
  · by_cases own : other = grspwId
    · subst own
      have moves : Grspw.step layout (plugin.core other) .transmit =
          .ok called := by
        simp [Grspw.step, txenable, sends, Except.map]
      refine .called (if_pos ⟨rfl, idle⟩) moves ?_
      rw [devices_putCore]
      exact SameDevice.refl _
    · exact .of_devices_eq (if_neg fun both => own both.1)
        (devices_putCore_of_ne (Ne.symm own) called)
  · by_cases own : other = grspwId
    · subst own
      obtain ⟨sending, -, rfl⟩ := txSends_of_txenableSend sends
      have moves : Grspw.step layout (plugin.core other) .transmit =
          .ok ((plugin.core other).txReleased layout) := by
        simp [Grspw.step, sending.txenable_eq, Except.map]
      refine .called (if_pos ⟨rfl, idle⟩) moves ?_
      change SameDevice ((plugin.putCore other
        ((plugin.core other).txSent layout)).devices other) _
      rw [devices_putCore]
      exact (@sameDevice_txenableAcked layout (plugin.core other).txFrame
        sending.admits _).symm
    · exact .of_devices_eq (if_neg fun both => own both.1)
        (devices_putCore_of_ne (Ne.symm own) called)

theorem delivered_resume
    (within : FrameWithin layout grspwId plugin)
    (other : GrspwId) :
    Delivered layout grspwId plugin (.resume other)
      (plugin.resume layout other) := by
  unfold resume
  cases phase : plugin.calls other with
  | woken frame =>
      by_cases own : grspwId = other
      · subst own
        have fits := within frame (by rw [phase]; rfl)
        refine .idle rfl ?_
        change SameDevice ((plugin.putCore grspwId (txenableAcked layout frame
          (plugin.core grspwId))).devices grspwId) _
        rw [devices_putCore]
        exact sameDevice_txenableAcked fits _
      · exact .of_devices_eq rfl (devices_putCore_of_ne own _)
  | _ => exact .of_devices_eq rfl rfl

/-! ### Messages -/

/-- A message touches no core but the one it names. -/
theorem devices_dispatch_of_ne
    {received : Received}
    {wakes : Option GrspwId}
    (another : received.grspwId ≠ grspwId)
    (dispatches : plugin.dispatch layout received wakes = .ok after) :
    after.devices grspwId = plugin.devices grspwId := by
  obtain ⟨_, rfl⟩ | ⟨_, _, called, _, rfl⟩ | ⟨_, _, _, rfl⟩ | ⟨_, _, _, rfl⟩ :=
    dispatch_cases dispatches
  · rw [devices_signal]
  · exact devices_putCore_of_ne (Ne.symm another) called
  · exact devices_putCore_of_ne (Ne.symm another) _
  · rfl

/-- What an iteration of the RX thread with a message to take delivers. -/
theorem deliveredTo_cons
    {message : Message}
    {devq : List Message}
    {received : Received}
    (queue : plugin.devq = message :: devq)
    (decodes : receivePacket plugin.rxbuffer plugin.rxheader plugin.rxdata
      message = .ok received) :
    plugin.deliveredTo grspwId =
      if received.grspwId = grspwId then
        if received.pword = msgqAck then []
        else if received.pword = msgqData then
          [.packet received.data received.dataLen plugin.recvAtt]
        else if received.pword = msgqTime then
          [.timecode (received.data 0)]
        else []
      else [] := by
  simp only [deliveredTo, queue, decodes]

theorem delivered_receive
    {wakes : Option GrspwId}
    (returns : plugin.step layout (.receive wakes) = .ok after) :
    Delivered layout grspwId plugin (.receive wakes) after := by
  simp only [step] at returns
  split_ifs at returns with mayWake
  swap
  · cases returns
    exact .of_devices_eq (if_neg mayWake) rfl
  have isCall : plugin.callOn grspwId (.receive wakes) =
      plugin.deliveredTo grspwId := if_pos mayWake
  obtain ⟨empty, rfl⟩ | ⟨message, devq, received, queue, decodes, dispatches⟩ :=
    rxthread_cases returns
  · refine .of_devices_eq (isCall.trans ?_) rfl
    simp only [deliveredTo, empty]
  rw [deliveredTo_cons queue decodes] at isCall
  by_cases own : received.grspwId = grspwId
  swap
  · rw [if_neg own] at isCall
    refine .of_devices_eq isCall ?_
    exact @devices_dispatch_of_ne layout grspwId (plugin.tookOff devq received)
      after received wakes own dispatches
  subst own
  rw [if_pos rfl] at isCall
  -- Each protocol word the source tests for is one of the core's own calls.
  obtain ⟨isAck, rfl⟩ | ⟨notAck, isData, called, stores, rfl⟩ |
    ⟨notAck, notData, isTime, rfl⟩ | ⟨notAck, notData, notTime, rfl⟩ :=
    dispatch_cases dispatches
  · rw [if_pos isAck] at isCall
    refine .of_devices_eq isCall ?_
    rw [devices_signal]
    rfl
  · rw [if_neg notAck, if_pos isData] at isCall
    refine .called isCall stores ?_
    rw [devices_putCore]
    exact SameDevice.refl _
  · rw [if_neg notAck, if_neg notData, if_pos isTime] at isCall
    refine .called isCall rfl ?_
    rw [devices_putCore]
    exact SameDevice.refl _
  · rw [if_neg notAck, if_neg notData, if_neg notTime] at isCall
    exact .of_devices_eq isCall rfl

/-- Every action is to every core one of its own calls or nothing. -/
theorem delivered_of_step
    (within : FrameWithin layout grspwId plugin)
    {action : Action}
    (moves : plugin.step layout action = .ok after) :
    Delivered layout grspwId plugin action after := by
  cases action with
  | write other regOffset value =>
      rw [Plugin.step, Core.write_eq] at moves
      cases moves
      by_cases own : other = grspwId
      · subst own
        refine .called (if_pos rfl) (Core.write_eq _ regOffset value) ?_
        rw [devices_putCore]
        exact SameDevice.refl _
      · exact .of_devices_eq (if_neg own)
          (devices_putCore_of_ne (Ne.symm own) _)
  | send other => exact delivered_send moves
  | resume other =>
      cases moves
      exact delivered_resume within other
  | receive wakes => exact delivered_receive moves
  | _ =>
      have devices := (leavesRest_of_step moves).devices
        (by simp [Action.touches])
      exact .of_devices_eq rfl (congrFun devices grspwId)

/-- What every call of a core's machine moves as its events say, an action of the
plugin moves as those of the call it makes on the core. -/
theorem Delivered.reading_eq
    {α τ : Type}
    {reading : Regs → τ}
    {eventsOf : Input → List α}
    {move : τ → List α → τ}
    {action : Action}
    (delivered : Delivered layout grspwId plugin action after)
    (still : ∀ value, move value [] = value)
    (moved : ∀ {input called},
      Grspw.step layout (plugin.core grspwId) input = .ok called →
        reading called.regs =
          move (reading (plugin.core grspwId).regs) (eventsOf input)) :
    reading (after.core grspwId).regs =
      move (reading (plugin.core grspwId).regs)
        ((plugin.callOn grspwId action).flatMap eventsOf) := by
  cases delivered with
  | idle uncalled device =>
      rw [uncalled, List.flatMap_nil, still]
      exact congrArg reading device.regs_eq
  | called isCall moves device =>
      rw [isCall, List.flatMap_cons, List.flatMap_nil, List.append_nil]
      exact (congrArg reading device.regs_eq).trans (moved moves)

/-! ### The calls under way -/

theorem frame?_putCall (other : GrspwId) (call : Call) :
    ((plugin.putCall other call).calls grspwId).frame? =
      if grspwId = other then call.frame?
      else (plugin.calls grspwId).frame? := by
  split_ifs with own
  · subst own
    exact congrArg Call.frame? (Function.update_self _ _ _)
  · exact congrArg Call.frame? (Function.update_of_ne own _ _)

/-- A signal leaves every call its locals. -/
theorem frame?_signal (wakes : Option GrspwId) :
    ((plugin.signal wakes).calls grspwId).frame? =
      (plugin.calls grspwId).frame? := by
  have moved := @callMoved_signal plugin grspwId wakes
  generalize (plugin.signal wakes).calls grspwId = call at moved ⊢
  generalize plugin.calls grspwId = before at moved ⊢
  cases moved with
  | kept => rfl
  | signalled frame => rfl

/-- Only a packet sent gives a call new locals. -/
theorem frame_of_step
    {action : Action}
    {frame : TxFrame}
    (moves : plugin.step layout action = .ok after)
    (held : frame ∈ (after.calls grspwId).frame?) :
    frame ∈ (plugin.calls grspwId).frame? ∨
      frame = (plugin.core grspwId).txFrame ∧
        TxSends layout (plugin.core grspwId) := by
  generalize phase : plugin.calls grspwId = before
  generalize phase' : after.calls grspwId = call at held
  have moved := callMoved_of_step moves grspwId
  rw [phase, phase'] at moved
  cases moved with
  | kept => exact Or.inl held
  | sent sentFrame =>
      cases held
      obtain ⟨busy, _⟩ | ⟨_, called, _, rfl⟩ | ⟨_, _, called, sends, rfl⟩ :=
        send_cases moves
      · exact absurd phase busy
      · cases phase.symm.trans phase'
      · cases (Function.update_self _ _ _).symm.trans phase'
        obtain ⟨sending, isFrame, -⟩ := txSends_of_txenableSend sends
        exact Or.inr ⟨isFrame, sending⟩
  | waits sentFrame => exact Or.inl held
  | signalled sentFrame => exact Or.inl held
  | returned sentFrame => cases held

theorem frameWithin_step
    (within : FrameWithin layout grspwId plugin)
    {action : Action}
    (moves : plugin.step layout action = .ok after) :
    FrameWithin layout grspwId after := by
  intro frame held
  obtain old | ⟨isFrame, sending⟩ := frame_of_step moves held
  · exact within frame old
  · rw [isFrame]
    exact sending.admits

end Steps

/-! ## Whole runs -/

section Runs

variable
  {layout : Layout}
  {grspwId : GrspwId}
  {plugin last : Plugin}

theorem frameWithin_init (ram : Memory Uint8) (recvAtt : RecvAtt) :
    FrameWithin layout grspwId (init ram recvAtt) := nofun

theorem frameWithin_of_reachable
    {ram : Memory Uint8}
    {recvAtt : RecvAtt}
    (reachable : Machine.Reachable (Plugin.step layout) (init ram recvAtt)
      plugin) :
    FrameWithin layout grspwId plugin :=
  Machine.reachable_invariant
    (fun _ _ _ within moves => frameWithin_step within moves)
    (frameWithin_init ram recvAtt) reachable

/-- A core of the plugin and its own machine in the same place. -/
structure Matched
    (layout : Layout)
    (grspwId : GrspwId)
    (plugin : Plugin)
    (core : Core) : Prop where
  within : FrameWithin layout grspwId plugin
  device : SameDevice (plugin.devices grspwId) core.device

theorem matched_init (ram : Memory Uint8) (recvAtt : RecvAtt) :
    Matched layout grspwId (init ram recvAtt) (apbgrspwInit grspwId ram) :=
  ⟨frameWithin_init ram recvAtt, SameDevice.refl _⟩

/-- One action of the plugin on a core's own machine. -/
theorem Matched.step
    {core : Core}
    {action : Action}
    {after : Plugin}
    (matched : Matched layout grspwId plugin core)
    (moves : plugin.step layout action = .ok after) :
    ∃ core', Machine.run (Grspw.step layout) core
        (plugin.inputsOn grspwId action) = .ok core' ∧
      Matched layout grspwId after core' := by
  have within := frameWithin_step matched.within moves
  unfold inputsOn
  cases delivered_of_step matched.within moves with
  | idle uncalled device =>
      rw [uncalled]
      exact ⟨core, rfl, within, device.trans matched.device⟩
  | @called input called isCall moves device =>
      have surrounded : SameDevice (plugin.core grspwId).device
          (core.ambient plugin.host.ram plugin.host.txbuffer).device :=
        matched.device
      obtain ⟨core', calls, sameCalled⟩ := surrounded.step rfl moves
      refine ⟨core', ?_, within, device.trans sameCalled⟩
      rw [isCall]
      change Machine.run (Grspw.step layout) core
        [.ambient plugin.host.ram plugin.host.txbuffer, input] = _
      rw [Machine.run_cons_of_ok rfl, Machine.run_cons_of_ok calls,
        Machine.run_nil]

/-- A run of the plugin on a core's own machine. -/
theorem Matched.run
    {core : Core}
    {actions : List Action}
    (matched : Matched layout grspwId plugin core)
    (reaches : Machine.run (Plugin.step layout) plugin actions = .ok last) :
    ∃ core', Machine.run (Grspw.step layout) core
        (inputsOfRun layout grspwId plugin actions) = .ok core' ∧
      Matched layout grspwId last core' :=
  Machine.exists_run_of_simulation (inputsOn grspwId)
    (Matched layout grspwId)
    (fun _ _ _ _ matched _ moves => matched.step moves) matched
    (Machine.guarded_of_forall_mem _ (fun _ _ => trivial) plugin) reaches

/-- **Projection.**  In every run of the plugin, whatever the order of its
actions, every core is where its own machine is after the calls made on it, each
over guest RAM as the rest of the plugin left it. -/
theorem run_projects
    (layout : Layout)
    (ram : Memory Uint8)
    (recvAtt : RecvAtt)
    (actions : List Action)
    (last : Plugin)
    (reaches : Machine.run (Plugin.step layout) (init ram recvAtt) actions =
      .ok last)
    (grspwId : GrspwId) :
    ∃ core,
      Machine.run (Grspw.step layout) (apbgrspwInit grspwId ram)
        (inputsOfRun layout grspwId (init ram recvAtt) actions) = .ok core ∧
      SameDevice (last.devices grspwId) core.device := by
  obtain ⟨core, reached, matched⟩ := (matched_init ram recvAtt).run reaches
  exact ⟨core, reached, matched.device⟩

/-- Guest RAM with every transmit and receive descriptor enabled. -/
def tablesRam : Memory Uint8 := fun addr =>
  if addr % 16 = 2 then 0x10 else if addr % 16 = 0 then 0x02 else 0

/-- While the first core waits, the second is enabled and stores a packet. -/
def crossedRun : List Action :=
  busWrite 0x20 1 ++ [.txwaitack 0] ++ busWrite 0x120 0x802 ++
    [.put (wireImage (fun _ => 0) 1 msgqData [] [254]), .receive (some 0),
      .take, .acknowledge, .receive (some 0), .resume 0]

theorem run_projects_crossedRun :
    ∃ last core,
      Machine.run (Plugin.step .packed) (init tablesRam ⟨0, 0, 0⟩)
        crossedRun = .ok last ∧
      Machine.run (Grspw.step .packed) (apbgrspwInit 1 tablesRam)
        (inputsOfRun .packed 1 (init tablesRam ⟨0, 0, 0⟩)
          crossedRun) = .ok core ∧
      SameDevice (last.devices 1) core.device := by
  have reaches : ∃ last, Machine.run (Plugin.step .packed)
      (init tablesRam ⟨0, 0, 0⟩) crossedRun = .ok last := ⟨_, rfl⟩
  obtain ⟨last, reaches⟩ := reaches
  obtain ⟨core, reached, same⟩ := run_projects .packed tablesRam
    ⟨0, 0, 0⟩ crossedRun last reaches 1
  exact ⟨last, core, reaches, reached, same⟩

end Runs

end Plugin

end Grspw
