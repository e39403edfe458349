import Grspw.PartialPackets
import Grspw.Plugin

/-!
# What earlier messages leave behind

The decoder copies a message over the one before it and never clears a buffer,
and nothing assigns the attributes the RX thread passes on.  One iteration is
independent of these leftovers exactly when the message supplies everything that
shows afterwards.
-/

namespace Grspw

/-- What an iteration of the RX thread finds in its buffers and in its
uninitialised `recv_att`. -/
structure Leftovers where
  rxbuffer : Memory Uint8
  rxheader : Memory Uint8
  rxdata : Memory Uint8
  recvAtt : RecvAtt

namespace Plugin

/-- The plugin with other leftovers.  The memory past the end of `rxbuffer`
stays as it is. -/
def leaving (plugin : Plugin) (left : Leftovers) : Plugin :=
  { plugin with
    rxbuffer := fun cell =>
      if cell < maxqSize then left.rxbuffer cell else plugin.rxbuffer cell
    rxheader := left.rxheader
    rxdata := left.rxdata
    recvAtt := left.recvAtt }

/-- What the guest can tell of the plugin: the devices, guest RAM and the
interrupts. -/
def visible (plugin : Plugin) :
    (GrspwId → Device) × Memory Uint8 × (GrspwId → Nat) :=
  (plugin.devices, plugin.host.ram, plugin.host.pulses)

/-- What the guest can tell of one iteration of the RX thread. -/
def iteration
    (layout : Layout)
    (plugin : Plugin)
    (wakes : Option GrspwId) :
    Except Fault ((GrspwId → Device) × Memory Uint8 × (GrspwId → Nat)) :=
  (plugin.rxthread layout wakes).map visible

/-- What the guest can tell of a message decoded. -/
theorem dispatch_visible
    (layout : Layout)
    (plugin : Plugin)
    (received : Received)
    (wakes : Option GrspwId) :
    (plugin.dispatch layout received wakes).map visible =
      if received.pword = msgqData then
        (rxenable layout (plugin.core received.grspwId) received.data
          received.dataLen plugin.recvAtt).map
            fun core => (plugin.putCore received.grspwId core).visible
      else if received.pword = msgqTime then
        .ok (plugin.putCore received.grspwId
          (rxtimecode (plugin.core received.grspwId)
            (received.data 0))).visible
      else .ok plugin.visible := by
  unfold dispatch
  by_cases isAck : received.pword = msgqAck
  · simp only [isAck, if_true]
    rw [if_neg (by decide), if_neg (by decide)]
    cases wakes with
    | none => rfl
    | some grspwId =>
        simp only [signal]
        split <;> rfl
  · simp only [if_neg isAck]
    by_cases isData : received.pword = msgqData
    · simp only [isData, if_true]
      cases rxenable layout (plugin.core received.grspwId) received.data
        received.dataLen plugin.recvAtt <;> rfl
    · simp only [if_neg isData]
      by_cases isTime : received.pword = msgqTime
      · simp only [isTime, if_true]
        rfl
      · simp only [if_neg isTime]
        rfl

/-- What the guest can tell of one iteration that decodes its message. -/
theorem iteration_eq
    {layout : Layout}
    {plugin : Plugin}
    {message : Message}
    {devq : List Message}
    {received : Received}
    (queued : plugin.devq = message :: devq)
    (decodes : receivePacket plugin.rxbuffer plugin.rxheader plugin.rxdata
      message = .ok received)
    (wakes : Option GrspwId) :
    plugin.iteration layout wakes =
      if received.pword = msgqData then
        (rxenable layout (plugin.core received.grspwId) received.data
          received.dataLen plugin.recvAtt).map
            fun core => (plugin.putCore received.grspwId core).visible
      else if received.pword = msgqTime then
        .ok (plugin.putCore received.grspwId
          (rxtimecode (plugin.core received.grspwId)
            (received.data 0))).visible
      else .ok plugin.visible := by
  have dispatches : plugin.iteration layout wakes =
      ((plugin.tookOff devq received).dispatch layout received wakes).map
        visible := by
    unfold iteration rxthread
    rw [queued]
    simp only [decodes]
    rfl
  rw [dispatches, dispatch_visible]
  rfl

/-- One iteration fails where the decoder does. -/
theorem iteration_eq_error
    {layout : Layout}
    {plugin : Plugin}
    {message : Message}
    {devq : List Message}
    {fault : Fault}
    (queued : plugin.devq = message :: devq)
    (decodes : receivePacket plugin.rxbuffer plugin.rxheader plugin.rxdata
      message = .error fault)
    (wakes : Option GrspwId) :
    plugin.iteration layout wakes = .error fault := by
  unfold iteration rxthread
  rw [queued]
  simp only [decodes]
  rfl

theorem putCore_visible_inj
    (plugin : Plugin)
    (grspwId : GrspwId)
    {core core' : Core} :
    (plugin.putCore grspwId core).visible =
        (plugin.putCore grspwId core').visible ↔
      core.visible = core'.visible := by
  simp only [visible, putCore, Core.visible, Prod.mk.injEq]
  rw [(Function.update_injective plugin.devices grspwId).eq_iff]

/-- A core put back shows as much as it shows by itself. -/
theorem returnSame_map_putCore_visible
    (plugin : Plugin)
    (grspwId : GrspwId)
    {result result' : Except Fault Core} :
    ReturnSame
        (result.map fun core => (plugin.putCore grspwId core).visible)
        (result'.map fun core => (plugin.putCore grspwId core).visible) ↔
      ReturnSame (outcome result) (outcome result') := by
  cases result with
  | error fault => simp [ReturnSame, outcome, Except.map]
  | ok core =>
      cases result' with
      | error fault => simp [ReturnSame, outcome, Except.map]
      | ok core' =>
          rw [returnSame_outcome_ok, ← plugin.putCore_visible_inj grspwId]
          simp [ReturnSame, Except.map, eq_comm]

end Plugin

/-! ## What a message supplies -/

/-- The bytes a message puts into the receive buffer. -/
def messageBuffer (message : Message) : Memory Uint8 :=
  fun cell => message.getD cell 0

/-- Where the data of a message starts. -/
def messageDataIdx (message : Message) : Nat :=
  headerIdx + (messageBuffer message headerIdx).toNat + dataSize + 1

/-- The data length field of a message. -/
def messageDataLen (message : Message) : Uint32 :=
  loadWord (messageBuffer message)
    (headerIdx + (messageBuffer message headerIdx).toNat + 1)

/-- A message holds all of its length fields. -/
def HoldsFields (message : Message) : Prop :=
  messageDataIdx message ≤ message.length

instance (message : Message) : Decidable (HoldsFields message) :=
  inferInstanceAs (Decidable (_ ≤ _))

/-- The data bytes that are no leftovers: those in the message and those read
past the end of `rxbuffer`. -/
def knownData
    (rxbuffer : Memory Uint8)
    (message : Message)
    (offset : Nat) : Option Uint8 :=
  let cell := messageDataIdx message + offset
  if offset < (messageDataLen message).toNat then
    if cell < message.length then some (messageBuffer message cell)
    else if maxqSize ≤ cell then some (rxbuffer cell)
    else none
  else none

section Decoding

variable {plugin : Plugin} {message : Message}

/-- The receive buffer holds the message and, after it, what was left. -/
theorem taken_apply (rxbuffer : Memory Uint8) (message : Message) (cell : Nat) :
    rxbuffer.write 0 message cell =
      if cell < message.length then messageBuffer message cell
      else rxbuffer cell := by
  by_cases within : cell < message.length
  · rw [if_pos within]
    simp [Memory.write, messageBuffer, within]
  · rw [if_neg within, Memory.write_apply_of_outside _ _ _ _ (by omega)]

/-- The data buffer once a message is decoded. -/
def dataTaken (plugin : Plugin) (message : Message) : Memory Uint8 :=
  plugin.rxdata.write 0
    ((plugin.rxbuffer.write 0 message).read (messageDataIdx message)
      (messageDataLen message).toNat)

theorem dataTaken_apply (plugin : Plugin) (message : Message) (offset : Nat) :
    dataTaken plugin message offset =
      if offset < (messageDataLen message).toNat then
        plugin.rxbuffer.write 0 message (messageDataIdx message + offset)
      else plugin.rxdata offset := by
  unfold dataTaken
  by_cases within : offset < (messageDataLen message).toNat
  · rw [if_pos within]
    have written := Memory.write_apply_add plugin.rxdata 0
      ((plugin.rxbuffer.write 0 message).read (messageDataIdx message)
        (messageDataLen message).toNat) offset (by simpa using within)
    rw [Nat.zero_add] at written
    rw [written]
    simp [Memory.read]
  · rw [if_neg within, Memory.write_apply_of_outside _ _ _ _ (by
      rw [Memory.length_read]
      omega)]

/-- The data decoded holds the bytes known. -/
theorem completes_dataTaken
    (plugin : Plugin)
    (message : Message)
    (left : Leftovers) :
    Memory.Completes (knownData plugin.rxbuffer message)
      (dataTaken (plugin.leaving left) message) := by
  intro offset value isKnown
  simp only [knownData, Option.mem_def] at isKnown
  rw [dataTaken_apply, taken_apply]
  split_ifs at isKnown with within inside beyond
  · rw [if_pos within, if_pos inside]
    exact Option.some.inj isKnown
  · rw [if_pos within, if_neg inside]
    simp only [Plugin.leaving, if_neg (Nat.not_lt.mpr beyond)]
    exact Option.some.inj isKnown

/-- Any data with the bytes known is decoded over some leftovers. -/
theorem exists_leaving
    (plugin : Plugin)
    (message : Message)
    {data : Memory Uint8}
    (att : RecvAtt)
    (completes : Memory.Completes (knownData plugin.rxbuffer message) data) :
    ∃ left : Leftovers, left.recvAtt = att ∧
      dataTaken (plugin.leaving left) message = data := by
  refine ⟨⟨fun cell => data (cell - messageDataIdx message), fun _ => 0, data,
    att⟩, rfl, ?_⟩
  funext offset
  rw [dataTaken_apply, taken_apply]
  have held := completes offset
  simp only [knownData, Option.mem_def] at held
  split_ifs at held with within inside beyond
  · rw [if_pos within, if_pos inside]
    exact (held _ rfl).symm
  · rw [if_pos within, if_neg inside]
    simp only [Plugin.leaving, if_neg (Nat.not_lt.mpr beyond)]
    exact (held _ rfl).symm
  · rw [if_pos within, if_neg inside]
    simp only [Plugin.leaving, if_pos (Nat.not_le.mp beyond)]
    rw [Nat.add_sub_cancel_left]
  · rw [if_neg within]
    rfl

end Decoding

/-! ## Messages that hold their fields -/

section Fields

variable
  {layout : Layout}
  {plugin : Plugin}
  {message : Message}
  {devq : List Message}
  {grspwId : GrspwId}
  {wakes : Option GrspwId}

theorem toNat_taken_spwIdIdx
    (named : message[spwIdIdx]? = some (BitVec.ofNat 8 grspwId.val))
    (rxbuffer : Memory Uint8) :
    (rxbuffer.write 0 message spwIdIdx).toNat = grspwId.val := by
  have bound := grspwId.isLt
  have within : spwIdIdx < message.length :=
    (List.getElem?_eq_some_iff.mp named).1
  rw [taken_apply, if_pos within, messageBuffer, List.getD_eq_getElem?_getD,
    named, Option.getD_some, BitVec.toNat_ofNat]
  omega

/-- A message that names a core is decoded unless its data is too long. -/
theorem receivePacket_of_named
    (named : message[spwIdIdx]? = some (BitVec.ofNat 8 grspwId.val))
    (rxbuffer rxHeader rxData : Memory Uint8) :
    receivePacket rxbuffer rxHeader rxData message =
      if (decoded (rxbuffer.write 0 message) rxHeader rxData
          grspwId).dataLen.toNat ≤ maxDataLen then
        .ok (decoded (rxbuffer.write 0 message) rxHeader rxData grspwId)
      else .error .outOfBounds := by
  have idByte := toNat_taken_spwIdIdx named rxbuffer
  unfold receivePacket
  simp only [idByte, dif_pos grspwId.isLt, Fin.eta]
  rfl

/-- The fields decoded are the message's where the receive buffer agrees with
it. -/
theorem decoded_of_agree
    (plugin : Plugin)
    (grspwId : GrspwId)
    (agree : ∀ cell < messageDataIdx message,
      plugin.rxbuffer.write 0 message cell = messageBuffer message cell) :
    decoded (plugin.rxbuffer.write 0 message) plugin.rxheader plugin.rxdata
        grspwId =
      { grspwId := grspwId
        pword := messageBuffer message pwordIdx
        headerLen := messageBuffer message headerIdx
        dataLen := messageDataLen message
        header := plugin.rxheader.write 0
          ((plugin.rxbuffer.write 0 message).read headerIdx
            (messageBuffer message headerIdx).toNat)
        data := dataTaken plugin message
        rxbuffer := plugin.rxbuffer.write 0 message } := by
  have before : ∀ cell,
      cell < headerIdx + (messageBuffer message headerIdx).toNat + dataSize + 1 →
      plugin.rxbuffer.write 0 message cell = messageBuffer message cell := agree
  have pword := before pwordIdx (by simp only [pwordIdx, headerIdx]; omega)
  have headerLen := before headerIdx (by omega)
  have dataLen : loadWord (plugin.rxbuffer.write 0 message)
      (headerIdx + (messageBuffer message headerIdx).toNat + 1) =
        messageDataLen message := by
    unfold messageDataLen loadWord
    rw [before _ (by simp only [dataSize]; omega),
      before _ (by simp only [dataSize]; omega),
      before _ (by simp only [dataSize]; omega),
      before _ (by simp only [dataSize]; omega)]
  unfold decoded
  simp only [headerLen, dataLen, pword]
  rfl

/-- The fields decoded are those of a message that holds them. -/
theorem decoded_of_holdsFields
    (holds : HoldsFields message)
    (plugin : Plugin)
    (grspwId : GrspwId) :
    decoded (plugin.rxbuffer.write 0 message) plugin.rxheader plugin.rxdata
        grspwId =
      { grspwId := grspwId
        pword := messageBuffer message pwordIdx
        headerLen := messageBuffer message headerIdx
        dataLen := messageDataLen message
        header := plugin.rxheader.write 0
          ((plugin.rxbuffer.write 0 message).read headerIdx
            (messageBuffer message headerIdx).toNat)
        data := dataTaken plugin message
        rxbuffer := plugin.rxbuffer.write 0 message } := by
  apply decoded_of_agree
  intro cell below
  rw [taken_apply, if_pos (Nat.lt_of_lt_of_le below holds)]

/-- What one iteration shows of such a message. -/
theorem iteration_of_holdsFields
    (queued : plugin.devq = message :: devq)
    (named : message[spwIdIdx]? = some (BitVec.ofNat 8 grspwId.val))
    (holds : HoldsFields message)
    (small : (messageDataLen message).toNat ≤ maxDataLen) :
    plugin.iteration layout wakes =
      if messageBuffer message pwordIdx = msgqData then
        (rxenable layout (plugin.core grspwId) (dataTaken plugin message)
          (messageDataLen message) plugin.recvAtt).map
            fun core => (plugin.putCore grspwId core).visible
      else if messageBuffer message pwordIdx = msgqTime then
        .ok (plugin.putCore grspwId (rxtimecode (plugin.core grspwId)
          (dataTaken plugin message 0))).visible
      else .ok plugin.visible := by
  have decodes := receivePacket_of_named named plugin.rxbuffer plugin.rxheader
    plugin.rxdata
  rw [decoded_of_holdsFields holds, if_pos small] at decodes
  exact plugin.iteration_eq queued decodes wakes

/-- A message that announces more data than `g_rxdata` holds. -/
theorem iteration_of_oversized
    (queued : plugin.devq = message :: devq)
    (named : message[spwIdIdx]? = some (BitVec.ofNat 8 grspwId.val))
    (holds : HoldsFields message)
    (large : ¬(messageDataLen message).toNat ≤ maxDataLen) :
    plugin.iteration layout wakes = .error .outOfBounds := by
  have decodes := receivePacket_of_named named plugin.rxbuffer plugin.rxheader
    plugin.rxdata
  rw [decoded_of_holdsFields holds, if_neg large] at decodes
  exact plugin.iteration_eq_error queued decodes wakes

/-- Over all leftovers one iteration of the RX thread stays within its arrays,
and no leftover shows after it. -/
def Plugin.Independent
    (layout : Layout)
    (plugin : Plugin)
    (wakes : Option GrspwId) : Prop :=
  ∀ left right : Leftovers,
    ReturnSame ((plugin.leaving left).iteration layout wakes)
      ((plugin.leaving right).iteration layout wakes)

/-- Leftovers over which the iteration leaves its arrays show. -/
theorem Plugin.not_independent_of_error
    {fault : Fault}
    {left : Leftovers}
    (fails : (plugin.leaving left).iteration layout wakes = .error fault) :
    ¬plugin.Independent layout wakes := by
  intro same
  obtain ⟨shown, returns, _⟩ := same left left
  rw [fails] at returns
  cases returns

/-- A data packet is independent of the leftovers exactly when its outcome is
known. -/
theorem independent_data_iff
    (queued : plugin.devq = message :: devq)
    (named : message[spwIdIdx]? = some (BitVec.ofNat 8 grspwId.val))
    (holds : HoldsFields message)
    (small : (messageDataLen message).toNat ≤ maxDataLen)
    (isData : messageBuffer message pwordIdx = msgqData) :
    plugin.Independent layout wakes ↔
      OutcomeKnown layout (plugin.core grspwId)
        (knownData plugin.rxbuffer message) (messageDataLen message) := by
  have image : ∀ left : Leftovers,
      (plugin.leaving left).iteration layout wakes =
        (rxenable layout (plugin.core grspwId)
          (dataTaken (plugin.leaving left) message) (messageDataLen message)
          left.recvAtt).map
            fun core => (plugin.putCore grspwId core).visible := by
    intro left
    have again : (plugin.leaving left).devq = message :: devq := queued
    rw [iteration_of_holdsFields again named holds small, if_pos isData]
    rfl
  constructor
  · intro same data data' att att' completes completes'
    obtain ⟨left, rfl, rfl⟩ := exists_leaving plugin message att completes
    obtain ⟨right, rfl, rfl⟩ := exists_leaving plugin message att' completes'
    have equal := same left right
    rwa [image, image, Plugin.returnSame_map_putCore_visible] at equal
  · intro outcomeKnown left right
    rw [image, image, Plugin.returnSame_map_putCore_visible]
    exact outcomeKnown _ _ _ _ (completes_dataTaken plugin message left)
      (completes_dataTaken plugin message right)

/-- A time code is independent of the leftovers exactly when it is determined. -/
theorem independent_time_iff
    (queued : plugin.devq = message :: devq)
    (named : message[spwIdIdx]? = some (BitVec.ofNat 8 grspwId.val))
    (holds : HoldsFields message)
    (small : (messageDataLen message).toNat ≤ maxDataLen)
    (isTime : messageBuffer message pwordIdx = msgqTime) :
    plugin.Independent layout wakes ↔
      TimeDetermined (plugin.core grspwId)
        (knownData plugin.rxbuffer message) := by
  have image : ∀ left : Leftovers,
      (plugin.leaving left).iteration layout wakes =
        .ok (plugin.putCore grspwId (rxtimecode (plugin.core grspwId)
          (dataTaken (plugin.leaving left) message 0))).visible := by
    intro left
    have again : (plugin.leaving left).devq = message :: devq := queued
    rw [iteration_of_holdsFields again named holds small, isTime,
      if_neg (by decide), if_pos rfl]
    rfl
  rw [← rxtimecode_visible_iff]
  constructor
  · intro same data data' completes completes'
    obtain ⟨left, _, rfl⟩ := exists_leaving plugin message ⟨0, 0, 0⟩ completes
    obtain ⟨right, _, rfl⟩ :=
      exists_leaving plugin message ⟨0, 0, 0⟩ completes'
    obtain ⟨shown, ofLeft, ofRight⟩ := same left right
    rw [image] at ofLeft ofRight
    rw [← plugin.putCore_visible_inj grspwId]
    exact Except.ok.inj (ofLeft.trans ofRight.symm)
  · intro same left right
    have equal := same _ _ (completes_dataTaken plugin message left)
      (completes_dataTaken plugin message right)
    rw [image, image, (plugin.putCore_visible_inj grspwId).mpr equal]
    exact returnSame_self _

/-- The message holds its length fields, its data fits `g_rxdata`, and the bytes
known of it determine a packet and a time code. -/
structure FieldsDetermined
    (layout : Layout)
    (plugin : Plugin)
    (grspwId : GrspwId)
    (message : Message) : Prop where
  holds : HoldsFields message
  fits : (messageDataLen message).toNat ≤ maxDataLen
  packet : messageBuffer message pwordIdx = msgqData →
    DataDetermined layout (plugin.core grspwId)
      (knownData plugin.rxbuffer message) (messageDataLen message)
  timecode : messageBuffer message pwordIdx = msgqTime →
    TimeDetermined (plugin.core grspwId) (knownData plugin.rxbuffer message)

/-- A message that holds its fields and fits is independent of the leftovers
exactly when the bytes known of it determine what it is. -/
theorem independent_iff_of_fits
    (queued : plugin.devq = message :: devq)
    (named : message[spwIdIdx]? = some (BitVec.ofNat 8 grspwId.val))
    (holds : HoldsFields message)
    (fits : (messageDataLen message).toNat ≤ maxDataLen) :
    plugin.Independent layout wakes ↔
      FieldsDetermined layout plugin grspwId message := by
  have distinct : msgqData ≠ msgqTime := by decide
  have fields : FieldsDetermined layout plugin grspwId message ↔
      (messageBuffer message pwordIdx = msgqData →
        DataDetermined layout (plugin.core grspwId)
          (knownData plugin.rxbuffer message) (messageDataLen message)) ∧
      (messageBuffer message pwordIdx = msgqTime →
        TimeDetermined (plugin.core grspwId)
          (knownData plugin.rxbuffer message)) :=
    ⟨fun determined => ⟨determined.packet, determined.timecode⟩,
      fun ⟨packet, timecode⟩ => ⟨holds, fits, packet, timecode⟩⟩
  rw [fields]
  by_cases isData : messageBuffer message pwordIdx = msgqData
  · rw [independent_data_iff queued named holds fits isData, outcomeKnown_iff]
    simp [isData, distinct]
  · by_cases isTime : messageBuffer message pwordIdx = msgqTime
    · rw [independent_time_iff queued named holds fits isTime]
      simp [isTime, distinct.symm]
    · -- an acknowledge, or a protocol word nothing handles
      simp only [isData, isTime, false_implies, and_self, iff_true]
      have again : ∀ left, (plugin.leaving left).devq = message :: devq :=
        fun _ => queued
      intro left right
      rw [iteration_of_holdsFields (again left) named holds fits,
        iteration_of_holdsFields (again right) named holds fits]
      simp only [if_neg isData, if_neg isTime]
      exact returnSame_self _

end Fields

/-! ## Messages cut short within their fields -/

section Short

variable
  {layout : Layout}
  {plugin : Plugin}
  {message : Message}
  {devq : List Message}
  {grspwId : GrspwId}
  {wakes : Option GrspwId}

/-- The last byte of the length field of a message cut short is left over. -/
theorem length_le_of_short
    (short : ¬HoldsFields message)
    (rxbuffer : Memory Uint8) :
    message.length ≤
      headerIdx + (rxbuffer.write 0 message headerIdx).toNat + 1 + 3 := by
  have cut : message.length <
      headerIdx + (messageBuffer message headerIdx).toNat + dataSize + 1 :=
    Nat.not_le.mp short
  by_cases within : headerIdx < message.length
  · rw [taken_apply, if_pos within]
    simp only [dataSize] at cut
    omega
  · omega

/-- Leftovers that announce more data than `g_rxdata` holds. -/
def overlong : Leftovers := ⟨fun _ => 255, fun _ => 0, fun _ => 0, ⟨0, 0, 0⟩⟩

/-- Over them a message cut short overruns `g_rxdata`. -/
theorem iteration_overlong
    (queued : plugin.devq = message :: devq)
    (named : message[spwIdIdx]? = some (BitVec.ofNat 8 grspwId.val))
    (short : ¬HoldsFields message) :
    (plugin.leaving overlong).iteration layout wakes =
      .error .outOfBounds := by
  have again : (plugin.leaving overlong).devq = message :: devq := queued
  have decodes := receivePacket_of_named named (plugin.leaving overlong).rxbuffer
    (plugin.leaving overlong).rxheader (plugin.leaving overlong).rxdata
  rw [if_neg] at decodes
  · exact Plugin.iteration_eq_error again decodes wakes
  · let taken := (plugin.leaving overlong).rxbuffer.write 0 message
    have headerLen := (taken headerIdx).isLt
    have beyond := length_le_of_short short (plugin.leaving overlong).rxbuffer
    have last : taken (headerIdx + (taken headerIdx).toNat + 1 + 3) = 255 := by
      simp only [taken]
      rw [taken_apply, if_neg (Nat.not_lt.mpr beyond)]
      simp only [Plugin.leaving, overlong]
      rw [if_pos (by simp only [maxqSize, headerIdx]; omega)]
    change ¬(loadWord taken (headerIdx + (taken headerIdx).toNat + 1)).toNat ≤
      maxDataLen
    rw [loadWord, last, Word.toNat_ofBytes]
    simp only [maxDataLen]
    have top : (255 : Uint8).toNat = 255 := rfl
    omega

end Short

/-- **Independence of leftovers.**  For a message with a valid core id, one
iteration of the RX thread stays within its arrays and leaves the same over all
leftovers exactly when the message holds its length fields, its data fits and its
own bytes determine what happens to it. -/
theorem independent_iff
    (layout : Layout)
    (plugin : Plugin)
    (message : Message)
    (devq : List Message)
    (grspwId : GrspwId)
    (wakes : Option GrspwId)
    (queued : plugin.devq = message :: devq)
    (named : message[spwIdIdx]? = some (BitVec.ofNat 8 grspwId.val)) :
    plugin.Independent layout wakes ↔
      FieldsDetermined layout plugin grspwId message := by
  by_cases holds : HoldsFields message
  · by_cases fits : (messageDataLen message).toNat ≤ maxDataLen
    · exact independent_iff_of_fits queued named holds fits
    · refine iff_of_false ?_ fun determined => fits determined.fits
      have again : (plugin.leaving overlong).devq = message :: devq := queued
      exact Plugin.not_independent_of_error
        (iteration_of_oversized again named holds fits)
  · exact iff_of_false
      (Plugin.not_independent_of_error (iteration_overlong queued named holds))
      fun determined => holds determined.holds

/-- A fresh plugin with one message on `devq`. -/
def holding (message : Message) : Plugin :=
  { Plugin.init (fun _ => 0) ⟨0, 0, 0⟩ with devq := [message] }

/-- A time code with its byte is independent of the leftovers. -/
theorem independent_time_code :
    (holding [0, 2, 0, 1, 0, 0, 0, 5]).Independent .packed none :=
  (independent_iff .packed (holding [0, 2, 0, 1, 0, 0, 0, 5])
    [0, 2, 0, 1, 0, 0, 0, 5] [] 0 none rfl (by decide)).mpr
      { holds := by decide
        fits := by decide
        packet := fun isData => absurd isData (by decide)
        timecode := fun _ => Or.inl (by decide) }

/-- A time code without data takes the byte the data before it has left. -/
theorem not_independent_empty_time_code :
    ¬∀ (layout : Layout) (plugin : Plugin) (message : Message)
      (devq : List Message) (grspwId : GrspwId) (wakes : Option GrspwId),
      plugin.devq = message :: devq →
      message[spwIdIdx]? = some (BitVec.ofNat 8 grspwId.val) →
        plugin.Independent layout wakes := by
  intro all
  obtain ⟨shown, ofZero, ofFive⟩ := all .packed (holding [0, 2, 0, 0, 0, 0, 0])
    [0, 2, 0, 0, 0, 0, 0] [] 0 none rfl (by decide)
    ⟨fun _ => 0, fun _ => 0, fun _ => 0, ⟨0, 0, 0⟩⟩
    ⟨fun _ => 0, fun _ => 0, fun _ => 5, ⟨0, 0, 0⟩⟩
  have tim := congrArg
    (fun result => result.toOption.map fun shown => (shown.1 0).grspwReg.tim)
    (ofZero.trans ofFive.symm)
  exact absurd tim (by decide)

end Grspw
