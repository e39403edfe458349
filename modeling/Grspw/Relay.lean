import Grspw.Footprint
import Grspw.Plugin

/-!
# Packets from one core to another

A transmit descriptor sends its header and its data as one packet; the receiver
stores the data of a message and looks at no other field.  Relaying a packet
with both fields unchanged therefore loses the header.
-/

namespace Grspw

/-! ## The control word of a stored packet -/

/-- The length field counts the bytes kept. -/
theorem rxCtrl_length
    (regs : Regs)
    (ctrl len : Uint32)
    (att : RecvAtt) :
    rxCtrl regs ctrl len att &&& spwtrw0PacketLength =
      rxLength regs len &&& spwtrw0PacketLength := by
  unfold rxCtrl clearbit
  rw [Word.and_not_and_of_disjoint (by decide), deposit_and_self]

/-- A packet with room under SPWRXL is kept whole. -/
theorem rxLength_of_le
    {regs : Regs}
    {len : Uint32}
    (room : len.toNat ≤ (regs.rxl &&& spwrxlRxMaxLength).toNat) :
    rxLength regs len = len := by
  apply BitVec.eq_of_toNat_eq
  rw [toNat_rxLength, Regs.rxMaxLength]
  omega

/-- The length field is wide enough for any length SPWRXL allows. -/
theorem toNat_and_packetLength
    {regs : Regs}
    {len : Uint32}
    (room : len.toNat ≤ (regs.rxl &&& spwrxlRxMaxLength).toNat) :
    (len &&& spwtrw0PacketLength).toNat = len.toNat := by
  have limit : (regs.rxl &&& spwrxlRxMaxLength).toNat ≤
      spwrxlRxMaxLength.toNat := by
    rw [BitVec.toNat_and]
    exact Nat.and_le_right
  have small : spwrxlRxMaxLength.toNat < 2 ^ 25 := by decide
  have field : (len &&& spwtrw0PacketLength).toNat =
      len.toNat / 2 ^ 0 % 2 ^ 25 * 2 ^ 0 :=
    Word.toNat_and_field len 0 25 (by decide)
  rw [field, Nat.pow_zero, Nat.div_one, Nat.mul_one]
  exact Nat.mod_eq_of_lt (by omega)

/-! ## Delivery -/

/-- Whether a receiver takes a packet, going by the first byte of the packet. -/
def acceptsPacket (regs : Regs) (packet : List Uint8) : Bool :=
  checkbit regs.chn spwchnRE &&
    (checkbit regs.ctr spwctrOPM ||
      packet.head?.any fun nodeAddr => regs.ndr == nodeAddr.setWidth 32)

/-- The receiver's check is the one on the packet that its data starts with. -/
theorem rxAccepts_eq_acceptsPacket
    {data : Memory Uint8}
    {packet : List Uint8}
    (carried : data.read 0 packet.length = packet)
    (nonempty : packet ≠ [])
    (regs : Regs) :
    rxAccepts regs data = acceptsPacket regs packet := by
  cases packet with
  | nil => exact absurd rfl nonempty
  | cons first rest =>
      have firstByte : data 0 = first := by
        have read := congrArg List.head? carried
        rw [List.head?_eq_getElem?, Memory.getElem?_read,
          if_pos (by simp)] at read
        exact Option.some.inj read
      simp only [rxAccepts, acceptsPacket, List.head?_cons, Option.any_some,
        firstByte]

/-- The receiving guest finds a packet in the buffer of its descriptor, the
control word apart where the two overlap, and nothing else has changed. -/
structure Delivered
    (before after : Core)
    (checked : Memory Uint8)
    (packet : List Uint8) : Prop where
  stored : ∀ offset (within : offset < packet.length),
    ¬(before.regs.rxd.toNat ≤ before.rxDesc.addr.toNat + offset ∧
      before.rxDesc.addr.toNat + offset < before.regs.rxd.toNat + 4) →
    after.host.ram (before.rxDesc.addr.toNat + offset) = packet[offset]
  nothingElse : Memory.SameOutside
    (fun cell =>
      (before.rxDesc.addr.toNat ≤ cell ∧
        cell < before.rxDesc.addr.toNat + packet.length) ∨
      (before.regs.rxd.toNat ≤ cell ∧ cell < before.regs.rxd.toNat + 4))
    before.host.ram after.host.ram
  counted : (ramWord after.host.ram before.regs.rxd.toNat &&&
    spwtrw0PacketLength).toNat = packet.length
  /-- The check on the bytes handed to the receiver is the one on the packet,
  whatever the registers hold. -/
  addressed : ∀ regs, rxAccepts regs checked = acceptsPacket regs packet

/-- A packet that one core sends and another is about to store: what the RX
thread has decoded carries the header and the data sent, the receiver takes it,
and SPWRXL leaves room for all of it. -/
structure Relayed
    (layout : Layout)
    (sender : Core)
    (plugin : Plugin)
    (received : Received)
    (receiver : GrspwId) : Prop where
  sends : TxSends layout sender
  nonempty : sender.txHeader ++ sender.txData ≠ []
  lossless :
    received.Carries receiver msgqData sender.txHeader sender.txData
  admits : layout.Admits (plugin.devices receiver).rxdCur nbRxDescriptor
  stores : (plugin.core receiver).rxStoring received.data = true
  room : (sender.txHeader ++ sender.txData).length ≤
    ((plugin.core receiver).regs.rxl &&& spwrxlRxMaxLength).toNat

namespace Relayed

variable
  {layout : Layout}
  {sender : Core}
  {plugin : Plugin}
  {received : Received}
  {receiver : GrspwId}

/-- The data sent is not longer than SPWRXL allows. -/
theorem toNat_dataLen_le
    (relayed : Relayed layout sender plugin received receiver) :
    received.dataLen.toNat ≤
      ((plugin.core receiver).regs.rxl &&& spwrxlRxMaxLength).toNat := by
  have room := relayed.room
  rw [List.length_append] at room
  rw [relayed.lossless.dataLen_eq]
  omega

/-- The RX thread stores the data it has decoded. -/
theorem dispatch_eq
    (relayed : Relayed layout sender plugin received receiver)
    (wakes : Option GrspwId) :
    plugin.dispatch layout received wakes =
      .ok (plugin.putCore receiver
        ((plugin.core receiver).rxStored received.data received.dataLen
          plugin.recvAtt)) := by
  have stores := Core.rxenable_of_rxStoring received.dataLen plugin.recvAtt
    relayed.admits relayed.stores
  unfold Plugin.dispatch
  simp only [relayed.lossless.pword_eq, relayed.lossless.grspwId_eq, if_true]
  rw [if_neg (by decide), stores]

/-- Only the data is kept of what was sent. -/
theorem rxPayloadRam_eq
    (relayed : Relayed layout sender plugin received receiver) :
    (plugin.core receiver).rxPayloadRam received.data received.dataLen =
      (plugin.core receiver).host.ram.write
        (plugin.core receiver).rxDesc.addr.toNat sender.txData := by
  unfold Core.rxPayloadRam
  rw [rxLength_of_le relayed.toNat_dataLen_le, relayed.lossless.dataLen_eq,
    relayed.lossless.data_eq]

/-- The length written back is that of the data. -/
theorem counted_data
    (relayed : Relayed layout sender plugin received receiver) :
    (ramWord ((plugin.core receiver).rxStored received.data received.dataLen
          plugin.recvAtt).host.ram (plugin.core receiver).regs.rxd.toNat &&&
        spwtrw0PacketLength).toNat = sender.txData.length := by
  rw [Core.ramWord_rxStored, rxCtrl_length,
    rxLength_of_le relayed.toNat_dataLen_le,
    toNat_and_packetLength relayed.toNat_dataLen_le,
    relayed.lossless.dataLen_eq]

/-- A packet without header is delivered. -/
theorem delivered_of_header_eq_nil
    (relayed : Relayed layout sender plugin received receiver)
    (headerless : sender.txHeader = []) :
    Delivered (plugin.core receiver)
      ((plugin.core receiver).rxStored received.data received.dataLen
        plugin.recvAtt)
      received.data sender.txData := by
  have nonempty : sender.txData ≠ [] := by
    have some := relayed.nonempty
    rwa [headerless, List.nil_append] at some
  constructor
  · intro offset within apart
    rw [Core.rxStored_ram, relayed.rxPayloadRam_eq,
      Memory.write_apply_of_outside _ _ _ _ (by
        rw [length_ramBytes]
        omega)]
    exact Memory.write_apply_add _ _ _ offset within
  · intro cell outside
    rw [Core.rxStored_ram, relayed.rxPayloadRam_eq,
      Memory.write_apply_of_outside _ _ _ _ (by
        rw [length_ramBytes]
        omega),
      Memory.write_apply_of_outside _ _ _ _ (by omega)]
  · exact relayed.counted_data
  · exact rxAccepts_eq_acceptsPacket relayed.lossless.data_eq nonempty

/-- A packet is delivered only without header: the length field counts the data
alone. -/
theorem header_eq_nil_of_delivered
    {wakes : Option GrspwId}
    {after : Plugin}
    (relayed : Relayed layout sender plugin received receiver)
    (returns : plugin.dispatch layout received wakes = .ok after)
    (delivered : Delivered (plugin.core receiver) (after.core receiver)
      received.data (sender.txHeader ++ sender.txData)) :
    sender.txHeader = [] := by
  rw [relayed.dispatch_eq] at returns
  cases returns
  have counted := delivered.counted
  rw [Plugin.core_putCore, relayed.counted_data, List.length_append] at counted
  exact List.length_eq_zero_iff.mp (by omega)

end Relayed

/-- **Relayed packets.**  A packet relayed with header and data unchanged is
delivered exactly when its header is empty. -/
theorem delivered_iff
    (layout : Layout)
    (sender : Core)
    (plugin : Plugin)
    (received : Received)
    (receiver : GrspwId)
    (wakes : Option GrspwId)
    (relayed : Relayed layout sender plugin received receiver) :
    (∃ after, plugin.dispatch layout received wakes = .ok after ∧
      Delivered (plugin.core receiver) (after.core receiver) received.data
        (sender.txHeader ++ sender.txData)) ↔
      sender.txHeader = [] := by
  constructor
  · rintro ⟨after, returns, delivered⟩
    exact relayed.header_eq_nil_of_delivered returns delivered
  · intro headerless
    refine ⟨_, relayed.dispatch_eq wakes, ?_⟩
    rw [Plugin.core_putCore, headerless, List.nil_append]
    exact relayed.delivered_of_header_eq_nil headerless

/-- Guest RAM with one enabled transmit descriptor, for a header of the given
length and one byte of data, both at address 16. -/
def onePacketRam (headerLen : Uint8) : Memory Uint8
  | 2 => 0x10
  | 3 => headerLen
  | 7 | 15 => 16
  | 11 | 16 => 1
  | _ => 0

/-- A core about to send such a packet. -/
def onePacketSender (headerLen : Uint8) : Core :=
  (apbgrspwInit 0 (onePacketRam headerLen)).written .chn spwchnTE

/-- A plugin whose second core takes packets of up to four bytes from any
node address. -/
def openReceiver : Plugin :=
  (Plugin.init (enabledRam 8 0 0x02) ⟨0, 0, 0⟩).putCore 1
    (((((Plugin.init (enabledRam 8 0 0x02) ⟨0, 0, 0⟩).core 1).written .rxl
      4).written .ctr spwctrOPM).written .chn (spwchnRE ||| spwchnRD))

/-- Such a packet as the RX thread has decoded it. -/
def onePacketReceived (headerLen : Uint8) : Received :=
  ⟨1, msgqData, headerLen, 1, fun _ => 1, fun _ => 1, fun _ => 0⟩

/-- Such a packet is relayed with a header of at most one byte. -/
theorem relayed_onePacket
    {headerLen : Uint8}
    (atMostOne : headerLen = 0 ∨ headerLen = 1) :
    Relayed .packed (onePacketSender headerLen) openReceiver
      (onePacketReceived headerLen) 1 := by
  obtain rfl | rfl := atMostOne
  all_goals
    constructor
    · exact ⟨by decide, by decide, by decide, by decide⟩
    · decide
    · exact ⟨rfl, rfl, by decide, by decide, by decide, by decide⟩
    · decide
    · decide
    · decide

/-- The byte 1 is delivered. -/
theorem delivered_one_byte :
    ∃ after,
      openReceiver.dispatch .packed (onePacketReceived 0) none = .ok after ∧
      Delivered (openReceiver.core 1) (after.core 1) (onePacketReceived 0).data
        ((onePacketSender 0).txHeader ++ (onePacketSender 0).txData) :=
  (delivered_iff .packed (onePacketSender 0) openReceiver (onePacketReceived 0)
    1 none (relayed_onePacket (Or.inl rfl))).mpr (by decide)

/-- A header of one byte is lost. -/
theorem not_delivered_header :
    ¬∀ (layout : Layout) (sender : Core) (plugin : Plugin)
      (received : Received) (receiver : GrspwId) (wakes : Option GrspwId),
      Relayed layout sender plugin received receiver →
      ∃ after, plugin.dispatch layout received wakes = .ok after ∧
        Delivered (plugin.core receiver) (after.core receiver) received.data
          (sender.txHeader ++ sender.txData) := by
  intro all
  have relayed := relayed_onePacket (Or.inr rfl)
  obtain ⟨after, returns, delivered⟩ := all .packed _ _ _ _ none relayed
  exact absurd (relayed.header_eq_nil_of_delivered returns delivered)
    (by decide)

/-! ## Over the codec itself -/

/-- The message of a packet without header goes through the codec of the plugin
and is delivered. -/
theorem rxthread_delivers
    {layout : Layout}
    {sender : Core}
    {plugin : Plugin}
    {receiver : GrspwId}
    {txbuffer : Memory Uint8}
    {devq : List Message}
    (wakes : Option GrspwId)
    (sends : TxSends layout sender)
    (headerless : sender.txHeader = [])
    (nonempty : sender.txData ≠ [])
    (queued : plugin.devq =
      wireImage txbuffer receiver msgqData sender.txHeader sender.txData ::
        devq)
    (admits : layout.Admits (plugin.devices receiver).rxdCur nbRxDescriptor)
    (accepts : acceptsPacket (plugin.core receiver).regs sender.txData = true)
    (available :
      checkbit (plugin.core receiver).regs.chn spwchnRD = true)
    (enabled :
      checkbit (plugin.core receiver).rxDesc.ctrl spwtrw0EN = true)
    (room : sender.txData.length ≤
      ((plugin.core receiver).regs.rxl &&& spwrxlRxMaxLength).toNat) :
    ∃ after, plugin.rxthread layout wakes = .ok after ∧
      Delivered (plugin.core receiver) (after.core receiver) after.rxdata
        sender.txData := by
  obtain ⟨received, decodes, carries⟩ := receivePacket_wireImage txbuffer
    plugin.rxbuffer plugin.rxheader plugin.rxdata receiver msgqData sends.fits
    (by simp [StartsWithLength, headerless])
  have iteration : plugin.rxthread layout wakes =
      (plugin.tookOff devq received).dispatch layout received wakes := by
    unfold Plugin.rxthread
    rw [queued]
    simp only [decodes]
    rfl
  have relayed : Relayed layout sender (plugin.tookOff devq received) received
      receiver := by
    have checked := rxAccepts_eq_acceptsPacket carries.data_eq nonempty
      (plugin.core receiver).regs
    have stores : (plugin.core receiver).rxStoring received.data = true := by
      rw [Core.rxStoring, checked, accepts, available, enabled]
      rfl
    constructor
    · exact sends
    · rwa [headerless, List.nil_append]
    · exact carries
    · exact admits
    · exact stores
    · rwa [headerless, List.nil_append]
  refine ⟨_, iteration.trans (relayed.dispatch_eq wakes), ?_⟩
  rw [Plugin.core_putCore]
  exact relayed.delivered_of_header_eq_nil headerless

end Grspw
