import Mathlib.Data.List.Count
import Grspw.Bus
import Grspw.Codec

/-!
# The plugin: four cores, two queues and their threads

The whole plugin as a machine over single actions: transmit calls cut at their
wait, iterations of the RX thread, and what the external device does to the two
queues.  Any order of actions is a run.  An action that its party cannot take
changes nothing.  The queues have no capacity here, so a blocked `mq_send` is a
later action.
-/

namespace Grspw

/-- Where the transmit call on a core stands. -/
inductive Call
  | idle
  /-- The packet is on `spwq`, the wait has not begun. -/
  | sent (frame : TxFrame)
  /-- In `grlib_coregrspw_txwaitack`. -/
  | waiting (frame : TxFrame)
  /-- Signalled, not yet running again. -/
  | woken (frame : TxFrame)
  deriving DecidableEq

/-- The plugin, its threads and the external device. -/
structure Plugin where
  devices : GrspwId → Device
  /-- Shared by the cores; its `spwq` is the queue the external device reads. -/
  host : Host
  devq : List Message
  rxbuffer : Memory Uint8
  rxheader : Memory Uint8
  rxdata : Memory Uint8
  /-- The RX thread's `recv_att`, which nothing assigns. -/
  recvAtt : RecvAtt
  calls : GrspwId → Call
  /-- Senders of the packets the external device has taken and still has to
  acknowledge, oldest first. -/
  taken : List GrspwId

/-- Single actions of the parties. -/
inductive Action
  | write (grspwId : GrspwId) (regOffset : RegOffset) (value : Uint32)
  | send (grspwId : GrspwId)
  | txwaitack (grspwId : GrspwId)
  | resume (grspwId : GrspwId)
  /-- One iteration of the RX thread; a signal wakes the core named, if any. -/
  | receive (wakes : Option GrspwId)
  /-- The external device takes a message from `spwq`. -/
  | take
  /-- It acknowledges the oldest packet taken. -/
  | acknowledge
  /-- It puts any message on `devq`. -/
  | put (message : Message)
  /-- Guest RAM takes any contents. -/
  | ambient (ram : Memory Uint8)

/-! ## The bus -/

/-- The core selected by a bus address. -/
def getCoreid (addr : BitVec 64) : GrspwId :=
  ⟨((addr >>> 8) &&& 0x3).toNat, by
    rw [BitVec.toNat_and]
    exact Nat.lt_succ_of_le Nat.and_le_right⟩

/-- How a bus write begins: the register write and the transmit call up to its
wait. -/
def busWrite (addr value : BitVec 64) : List Action :=
  [.write (getCoreid addr) (getRegoffset addr) (value.setWidth 32),
    .send (getCoreid addr)]

/-- Every register of every core has an address in the mapped region. -/
theorem exists_busAddress
    (grspwId : GrspwId)
    (regOffset : RegOffset)
    (mapped : ∀ offset, regOffset ≠ .other offset) :
    ∃ addr : BitVec 64, addr.toNat < 0xFF * grspwCorenb.toNat ∧
      getCoreid addr = grspwId ∧ getRegoffset addr = regOffset := by
  cases regOffset with
  | ctr =>
      exact ⟨BitVec.ofNat 64 (0x100 * grspwId + 0x00), by decide +revert⟩
  | str =>
      exact ⟨BitVec.ofNat 64 (0x100 * grspwId + 0x04), by decide +revert⟩
  | ndr =>
      exact ⟨BitVec.ofNat 64 (0x100 * grspwId + 0x08), by decide +revert⟩
  | clk =>
      exact ⟨BitVec.ofNat 64 (0x100 * grspwId + 0x0C), by decide +revert⟩
  | key =>
      exact ⟨BitVec.ofNat 64 (0x100 * grspwId + 0x10), by decide +revert⟩
  | tim =>
      exact ⟨BitVec.ofNat 64 (0x100 * grspwId + 0x14), by decide +revert⟩
  | tdr =>
      exact ⟨BitVec.ofNat 64 (0x100 * grspwId + 0x18), by decide +revert⟩
  | chn =>
      exact ⟨BitVec.ofNat 64 (0x100 * grspwId + 0x20), by decide +revert⟩
  | rxl =>
      exact ⟨BitVec.ofNat 64 (0x100 * grspwId + 0x24), by decide +revert⟩
  | txd =>
      exact ⟨BitVec.ofNat 64 (0x100 * grspwId + 0x28), by decide +revert⟩
  | rxd =>
      exact ⟨BitVec.ofNat 64 (0x100 * grspwId + 0x2C), by decide +revert⟩
  | other offset => exact absurd rfl (mapped offset)

/-! ## Messages -/

/-- The core a message of a kind names: the sender of a packet, the addressee
of an acknowledge. -/
def addressee (kind : Uint8) (message : Message) : Option GrspwId :=
  match message[spwIdIdx]?, message[pwordIdx]? with
  | some idByte, some pword =>
      if pword = kind then
        if valid : idByte.toNat < 4 then some ⟨idByte.toNat, valid⟩ else none
      else none
  | _, _ => none

/-- The message the external device acknowledges a packet with. -/
def ackMessage (grspwId : GrspwId) : Message :=
  wireImage (fun _ => 0) grspwId msgqAck [] []

namespace Plugin

/-- One core with what it shares. -/
def core (plugin : Plugin) (grspwId : GrspwId) : Core :=
  ⟨plugin.devices grspwId, plugin.host⟩

/-- The plugin after a call on a core. -/
def putCore (plugin : Plugin) (grspwId : GrspwId) (core : Core) : Plugin :=
  { plugin with
    devices := Function.update plugin.devices grspwId core.device
    host := core.host }

/-- The plugin with a transmit call elsewhere. -/
def putCall (plugin : Plugin) (grspwId : GrspwId) (call : Call) : Plugin :=
  { plugin with calls := Function.update plugin.calls grspwId call }

/-! ## Transmit calls -/

/-- A transmit call up to its wait, or to its end if it sends nothing. -/
def send
    (layout : Layout)
    (plugin : Plugin)
    (grspwId : GrspwId) : Except Fault Plugin :=
  match plugin.calls grspwId with
  | .idle =>
      match txenableSend layout (plugin.core grspwId) with
      | .error fault => .error fault
      | .ok (none, core) => .ok (plugin.putCore grspwId core)
      | .ok (some frame, core) =>
          .ok ((plugin.putCore grspwId core).putCall grspwId (.sent frame))
  | _ => .ok plugin

/-- The call enters its wait. -/
def txwaitack (plugin : Plugin) (grspwId : GrspwId) : Plugin :=
  match plugin.calls grspwId with
  | .sent frame => plugin.putCall grspwId (.waiting frame)
  | _ => plugin

/-- A woken call releases its descriptor and returns. -/
def resume (layout : Layout) (plugin : Plugin) (grspwId : GrspwId) : Plugin :=
  match plugin.calls grspwId with
  | .woken frame =>
      (plugin.putCore grspwId
        (txenableAcked layout frame (plugin.core grspwId))).putCall grspwId
          .idle
  | _ => plugin

/-! ## The RX thread -/

/-- Whether a call waits for its acknowledge. -/
def Waits (plugin : Plugin) (grspwId : GrspwId) : Prop :=
  ∃ frame, plugin.calls grspwId = .waiting frame

/-- A signal wakes one of the waiting calls, and none only if none waits. -/
def MayWake (plugin : Plugin) : Option GrspwId → Prop
  | some grspwId => plugin.Waits grspwId
  | none => ∀ grspwId, ¬plugin.Waits grspwId

instance (plugin : Plugin) (grspwId : GrspwId) :
    Decidable (plugin.Waits grspwId) :=
  match waits : plugin.calls grspwId with
  | .waiting frame => isTrue ⟨frame, waits⟩
  | .idle => isFalse fun ⟨_, other⟩ => by simp [waits] at other
  | .sent _ => isFalse fun ⟨_, other⟩ => by simp [waits] at other
  | .woken _ => isFalse fun ⟨_, other⟩ => by simp [waits] at other

instance (plugin : Plugin) (wakes : Option GrspwId) :
    Decidable (plugin.MayWake wakes) :=
  match wakes with
  | some grspwId => inferInstanceAs (Decidable (plugin.Waits grspwId))
  | none => inferInstanceAs (Decidable (∀ grspwId, ¬plugin.Waits grspwId))

/-- `pthread_cond_signal` on the one condition variable of all cores. -/
def signal (plugin : Plugin) : Option GrspwId → Plugin
  | some grspwId =>
      match plugin.calls grspwId with
      | .waiting frame => plugin.putCall grspwId (.woken frame)
      | _ => plugin
  | none => plugin

/-- What the RX thread does with a message it has decoded. -/
def dispatch
    (layout : Layout)
    (plugin : Plugin)
    (received : Received)
    (wakes : Option GrspwId) : Except Fault Plugin :=
  let grspwId := received.grspwId
  if received.pword = msgqAck then .ok (plugin.signal wakes)
  else if received.pword = msgqData then
    match rxenable layout (plugin.core grspwId) received.data received.dataLen
        plugin.recvAtt with
    | .ok core => .ok (plugin.putCore grspwId core)
    | .error fault => .error fault
  else if received.pword = msgqTime then
    .ok (plugin.putCore grspwId
      (rxtimecode (plugin.core grspwId) (received.data 0)))
  else .ok plugin

/-- One iteration of the RX thread. -/
def rxthread
    (layout : Layout)
    (plugin : Plugin)
    (wakes : Option GrspwId) : Except Fault Plugin :=
  match plugin.devq with
  | [] => .ok plugin
  | message :: devq =>
      match receivePacket plugin.rxbuffer plugin.rxheader plugin.rxdata
          message with
      | .error fault => .error fault
      | .ok received =>
          dispatch layout
            { plugin with
              devq := devq
              rxbuffer := received.rxbuffer
              rxheader := received.header
              rxdata := received.data } received wakes

/-! ## The external device -/

/-- The external device takes a message. -/
def take (plugin : Plugin) : Plugin :=
  match plugin.host.spwq with
  | [] => plugin
  | message :: spwq =>
      { plugin with
        host := { plugin.host with spwq := spwq }
        taken := plugin.taken ++ (addressee msgqData message).toList }

/-- The external device acknowledges the oldest packet it has taken. -/
def acknowledge (plugin : Plugin) : Plugin :=
  match plugin.taken with
  | [] => plugin
  | grspwId :: taken =>
      { plugin with
        taken := taken
        devq := plugin.devq ++ [ackMessage grspwId] }

/-- One action. -/
def step (layout : Layout) (plugin : Plugin) : Action → Except Fault Plugin
  | .write grspwId regOffset value =>
      match (plugin.core grspwId).write regOffset value with
      | .ok core => .ok (plugin.putCore grspwId core)
      | .error fault => .error fault
  | .send grspwId => plugin.send layout grspwId
  | .txwaitack grspwId => .ok (plugin.txwaitack grspwId)
  | .resume grspwId => .ok (plugin.resume layout grspwId)
  | .receive wakes =>
      if plugin.MayWake wakes then plugin.rxthread layout wakes
      else .ok plugin
  | .take => .ok plugin.take
  | .acknowledge => .ok plugin.acknowledge
  | .put message => .ok { plugin with devq := plugin.devq ++ [message] }
  | .ambient ram => .ok { plugin with host := { plugin.host with ram := ram } }

/-- The plugin as its initialisation leaves it, over some guest RAM and some
contents of the RX thread's `recv_att`. -/
def init (ram : Memory Uint8) (recvAtt : RecvAtt) : Plugin where
  devices := initDevice
  host := { ram := ram, txbuffer := fun _ => 0, spwq := [], log := [] }
  devq := []
  rxbuffer := fun _ => 0
  rxheader := fun _ => 0
  rxdata := fun _ => 0
  recvAtt := recvAtt
  calls := fun _ => .idle
  taken := []

end Plugin

/-! ## Iterations of the RX thread -/

namespace Plugin

/-- The plugin once the RX thread has taken a message from `devq` and decoded
it. -/
def tookOff
    (plugin : Plugin)
    (devq : List Message)
    (received : Received) : Plugin :=
  { plugin with
    devq := devq
    rxbuffer := received.rxbuffer
    rxheader := received.header
    rxdata := received.data }

variable {layout : Layout} {plugin after : Plugin} {wakes : Option GrspwId}

/-- All a transmit call up to its wait can have done. -/
theorem send_cases
    {grspwId : GrspwId}
    (returns : plugin.send layout grspwId = .ok after) :
    (plugin.calls grspwId ≠ .idle ∧ after = plugin) ∨
    (plugin.calls grspwId = .idle ∧ ∃ core,
      txenableSend layout (plugin.core grspwId) = .ok (none, core) ∧
        after = plugin.putCore grspwId core) ∨
    (plugin.calls grspwId = .idle ∧ ∃ frame core,
      txenableSend layout (plugin.core grspwId) = .ok (some frame, core) ∧
        after =
          (plugin.putCore grspwId core).putCall grspwId (.sent frame)) := by
  unfold send at returns
  cases phase : plugin.calls grspwId with
  | idle =>
      rw [phase] at returns
      simp only at returns
      cases calls : txenableSend layout (plugin.core grspwId) with
      | error fault =>
          rw [calls] at returns
          cases returns
      | ok result =>
          obtain ⟨frame, core⟩ := result
          rw [calls] at returns
          cases frame with
          | none =>
              cases returns
              exact Or.inr (Or.inl ⟨rfl, core, rfl, rfl⟩)
          | some frame =>
              cases returns
              exact Or.inr (Or.inr ⟨rfl, frame, core, rfl, rfl⟩)
  | _ =>
      rw [phase] at returns
      cases returns
      exact Or.inl ⟨nofun, rfl⟩

/-- All an iteration of the RX thread can have done. -/
theorem rxthread_cases (returns : plugin.rxthread layout wakes = .ok after) :
    (plugin.devq = [] ∧ after = plugin) ∨
      ∃ message devq received, plugin.devq = message :: devq ∧
        receivePacket plugin.rxbuffer plugin.rxheader plugin.rxdata message =
          .ok received ∧
        (plugin.tookOff devq received).dispatch layout received wakes =
          .ok after := by
  unfold rxthread at returns
  cases queue : plugin.devq with
  | nil =>
      rw [queue] at returns
      cases returns
      exact Or.inl ⟨rfl, rfl⟩
  | cons message devq =>
      rw [queue] at returns
      simp only at returns
      cases decodes : receivePacket plugin.rxbuffer plugin.rxheader
          plugin.rxdata message with
      | error fault =>
          rw [decodes] at returns
          cases returns
      | ok received =>
          rw [decodes] at returns
          exact Or.inr ⟨message, devq, received, rfl, decodes, returns⟩

/-- An acknowledge does nothing but signal. -/
theorem dispatch_ack
    {received : Received}
    (isAck : received.pword = msgqAck) :
    plugin.dispatch layout received wakes = .ok (plugin.signal wakes) := by
  simp only [dispatch, if_pos isAck]

/-- Any other message is handled by the core it names, and moves no call. -/
theorem dispatch_other
    {received : Received}
    (notAck : received.pword ≠ msgqAck)
    (returns : plugin.dispatch layout received wakes = .ok after) :
    (∃ core, rxenable layout (plugin.core received.grspwId) received.data
        received.dataLen plugin.recvAtt = .ok core ∧
      after = plugin.putCore received.grspwId core) ∨
    after = plugin.putCore received.grspwId
      (rxtimecode (plugin.core received.grspwId) (received.data 0)) ∨
    after = plugin := by
  unfold dispatch at returns
  simp only [if_neg notAck] at returns
  split_ifs at returns
  · cases calls : rxenable layout (plugin.core received.grspwId) received.data
      received.dataLen plugin.recvAtt with
    | error fault =>
        rw [calls] at returns
        cases returns
    | ok core =>
        rw [calls] at returns
        cases returns
        exact Or.inl ⟨core, rfl, rfl⟩
  · cases returns
    exact Or.inr (Or.inl rfl)
  · cases returns
    exact Or.inr (Or.inr rfl)

theorem signal_of_waits
    {grspwId : GrspwId}
    {frame : TxFrame}
    (waits : plugin.calls grspwId = .waiting frame) :
    plugin.signal (some grspwId) = plugin.putCall grspwId (.woken frame) := by
  simp only [signal, waits]

/-- A signal moves only the call it wakes. -/
theorem signal_calls_of_ne
    {grspwId : GrspwId}
    (another : wakes ≠ some grspwId) :
    (plugin.signal wakes).calls grspwId = plugin.calls grspwId := by
  cases wakes with
  | none => rfl
  | some other =>
      have different : grspwId ≠ other := by
        rintro rfl
        exact another rfl
      simp only [signal]
      split
      · exact Function.update_of_ne different _ _
      · rfl

end Plugin

/-! ## Kinds of messages -/

theorem addressee_of_bytes
    {message : Message}
    {idByte pword : Uint8}
    {grspwId : GrspwId}
    (first : message[spwIdIdx]? = some idByte)
    (second : message[pwordIdx]? = some pword)
    (names : idByte.toNat = grspwId.val)
    (kind : Uint8) :
    addressee kind message = if pword = kind then some grspwId else none := by
  have valid : idByte.toNat < 4 := names ▸ grspwId.isLt
  unfold addressee
  rw [first, second]
  have named : (⟨idByte.toNat, valid⟩ : GrspwId) = grspwId := Fin.ext names
  simp only [dif_pos valid, named]

/-- A message sent by a core is of the kind of its protocol word. -/
theorem addressee_wireImage
    (kind : Uint8)
    (txbuffer : Memory Uint8)
    (grspwId : GrspwId)
    (pword : Uint8)
    (header data : List Uint8) :
    addressee kind (wireImage txbuffer grspwId pword header data) =
      if pword = kind then some grspwId else none := by
  have first : (wireImage txbuffer grspwId pword header data)[spwIdIdx]? =
      some (BitVec.ofNat 8 grspwId.val) := by
    rw [wireImage, Memory.getElem?_read,
      if_pos (by simp only [spwIdIdx]; omega)]
    exact congrArg some
      (fillTxbuffer_spwIdIdx txbuffer grspwId pword header data)
  have second : (wireImage txbuffer grspwId pword header data)[pwordIdx]? =
      some pword := by
    rw [wireImage, Memory.getElem?_read,
      if_pos (by simp only [pwordIdx]; omega)]
    exact congrArg some
      (fillTxbuffer_pwordIdx txbuffer grspwId pword header data)
  refine addressee_of_bytes first second ?_ kind
  have bound := grspwId.isLt
  simp only [BitVec.toNat_ofNat]
  omega

/-- What the RX thread decodes of a message long enough to have a protocol
word. -/
theorem addressee_of_receivePacket
    {rxbuffer rxheader rxdata : Memory Uint8}
    {message : Message}
    {received : Received}
    (long : 2 ≤ message.length)
    (returns : receivePacket rxbuffer rxheader rxdata message = .ok received)
    (kind : Uint8) :
    addressee kind message =
      if received.pword = kind then some received.grspwId else none := by
  have cell : ∀ index (below : index < message.length),
      rxbuffer.write 0 message index = message[index] := by
    intro index below
    have written := Memory.write_apply_add rxbuffer 0 message index below
    rwa [Nat.zero_add] at written
  have idBound : spwIdIdx < message.length := by
    simp only [spwIdIdx]
    omega
  have pwordBound : pwordIdx < message.length := by
    simp only [pwordIdx]
    omega
  have first := (congrArg some (cell spwIdIdx idBound)).trans
    (List.getElem?_eq_getElem idBound).symm
  have second := (congrArg some (cell pwordIdx pwordBound)).trans
    (List.getElem?_eq_getElem pwordBound).symm
  unfold receivePacket at returns
  simp only at returns
  split_ifs at returns with small valid
  cases returns
  exact addressee_of_bytes first.symm second.symm rfl kind

/-! ## Acknowledged calls -/

namespace Plugin

/-- A transmit call on a core and its acknowledge, with nothing in between. -/
def acknowledgedCall (grspwId : GrspwId) : List Action :=
  [.send grspwId, .txwaitack grspwId, .put (ackMessage grspwId),
    .receive (some grspwId), .resume grspwId]

variable
  {layout : Layout}
  {plugin : Plugin}
  {grspwId : GrspwId}
  {frame : TxFrame}

/-- An idle call sends its packet. -/
theorem step_send
    {core : Core}
    (idle : plugin.calls grspwId = .idle)
    (sends : txenableSend layout (plugin.core grspwId) =
      .ok (some frame, core)) :
    plugin.step layout (.send grspwId) =
      .ok ((plugin.putCore grspwId core).putCall grspwId (.sent frame)) := by
  simp only [step, send, idle, sends]

/-- A call that has sent its packet waits. -/
theorem step_txwaitack (sent : plugin.calls grspwId = .sent frame) :
    plugin.step layout (.txwaitack grspwId) =
      .ok (plugin.putCall grspwId (.waiting frame)) := by
  simp only [step, txwaitack, sent]

/-- An acknowledge wakes a waiting call. -/
theorem step_receive_ack
    {message : Message}
    {devq : List Message}
    {received : Received}
    (queue : plugin.devq = message :: devq)
    (decodes : receivePacket plugin.rxbuffer plugin.rxheader plugin.rxdata
      message = .ok received)
    (isAck : received.pword = msgqAck)
    (waits : plugin.calls grspwId = .waiting frame) :
    plugin.step layout (.receive (some grspwId)) =
      .ok ((plugin.tookOff devq received).putCall grspwId (.woken frame)) := by
  have mayWake : plugin.MayWake (some grspwId) := ⟨frame, waits⟩
  simp only [step, if_pos mayWake, rxthread, queue, decodes]
  refine (dispatch_ack isAck).trans (congrArg Except.ok ?_)
  exact @signal_of_waits (plugin.tookOff devq received) grspwId frame waits

/-- A woken call releases its descriptor. -/
theorem step_resume (woken : plugin.calls grspwId = .woken frame) :
    plugin.step layout (.resume grspwId) =
      .ok ((plugin.putCore grspwId
        (txenableAcked layout frame (plugin.core grspwId))).putCall grspwId
          .idle) := by
  simp only [step, resume, woken]

/-- A call on a core changes its device alone. -/
theorem devices_putCore_of_ne
    {other : GrspwId}
    (different : grspwId ≠ other)
    (called : Core) :
    (plugin.putCore other called).devices grspwId = plugin.devices grspwId :=
  Function.update_of_ne different _ _

theorem devices_putCore (called : Core) :
    (plugin.putCore grspwId called).devices grspwId = called.device :=
  Function.update_self _ _ _

theorem core_putCore (core : Core) :
    (plugin.putCore grspwId core).core grspwId = core :=
  congrArg (fun device => Core.mk device core.host) (devices_putCore core)

/-- The RX thread decodes an acknowledge as one. -/
theorem receivePacket_ackMessage
    (rxbuffer rxheader rxdata : Memory Uint8)
    (grspwId : GrspwId) :
    ∃ received,
      receivePacket rxbuffer rxheader rxdata (ackMessage grspwId) =
        .ok received ∧
      received.pword = msgqAck := by
  obtain ⟨received, returns, carries⟩ := receivePacket_wireImage (fun _ => 0)
    rxbuffer rxheader rxdata grspwId msgqAck (by decide : Fits [] [])
    (by decide)
  exact ⟨received, returns, carries.pword_eq⟩

/-- **Atomic calls.**  On a core whose call is idle, with `devq` empty, sending,
waiting, being acknowledged and going on is one transmit call of the core's own
machine. -/
theorem run_acknowledgedCall
    {core : Core}
    (idle : plugin.calls grspwId = .idle)
    (empty : plugin.devq = [])
    (returns : txenable layout (plugin.core grspwId) = .ok (false, core)) :
    ∃ after,
      Machine.run (Plugin.step layout) plugin (acknowledgedCall grspwId) =
        .ok after ∧
      after.core grspwId = core ∧ after.devq = [] ∧
      after.calls = plugin.calls := by
  unfold txenable at returns
  cases sends : txenableSend layout (plugin.core grspwId) with
  | error fault =>
      rw [sends] at returns
      cases returns
  | ok result =>
      obtain ⟨_ | frame, sent⟩ := result
      · rw [sends] at returns
        cases returns
      · rw [sends] at returns
        cases returns
        obtain ⟨received, decodes, isAck⟩ := receivePacket_ackMessage
          plugin.rxbuffer plugin.rxheader plugin.rxdata grspwId
        let sending := (plugin.putCore grspwId sent).putCall grspwId
          (.sent frame)
        let waiting := sending.putCall grspwId (.waiting frame)
        let queued : Plugin :=
          { waiting with devq := waiting.devq ++ [ackMessage grspwId] }
        let woken := (queued.tookOff [] received).putCall grspwId
          (.woken frame)
        have atWait : waiting.calls grspwId = .waiting frame :=
          Function.update_self _ _ _
        have queue : queued.devq = [ackMessage grspwId] :=
          congrArg (· ++ [ackMessage grspwId]) empty
        have sendStep := step_send idle sends
        have waitStep := @step_txwaitack layout sending grspwId frame
          (Function.update_self _ _ _)
        have putStep : waiting.step layout (.put (ackMessage grspwId)) =
          .ok queued := rfl
        have receiveStep := @step_receive_ack layout queued grspwId frame
          _ _ received queue decodes isAck atWait
        have resumeStep := @step_resume layout woken grspwId frame
          (Function.update_self _ _ _)
        have resumed : woken.core grspwId = sent :=
          @core_putCore plugin grspwId sent
        rw [resumed] at resumeStep
        refine ⟨(woken.putCore grspwId
          (txenableAcked layout frame sent)).putCall grspwId .idle, ?_,
          core_putCore _, rfl, ?_⟩
        · unfold acknowledgedCall
          rw [Machine.run_cons_of_ok sendStep, Machine.run_cons_of_ok waitStep,
            Machine.run_cons_of_ok putStep, Machine.run_cons_of_ok receiveStep,
            Machine.run_cons_of_ok resumeStep, Machine.run_nil]
        · funext other
          by_cases same : other = grspwId
          · rw [same, idle]
            exact Function.update_self _ _ _
          · simp only [putCall, putCore, tookOff, Function.update_of_ne same,
              woken, queued, waiting, sending]

end Plugin

end Grspw
