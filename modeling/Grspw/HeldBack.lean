import Mathlib.Data.List.FinRange
import Grspw.Lib.Overlay
import Grspw.Interrupts
import Grspw.Projection

/-!
# What a waiting call holds back

A transmit call clears the Enable bit of its descriptor and raises its interrupt
only after the acknowledge, long after its packet has left.  This file compares
guest RAM and the interrupts so far with those of a core for which both have
been done already, through the calls that touch nothing held back.
-/

namespace Grspw

/-! ## What a call holds back -/

namespace Device

/-- The control word a call under way writes back in the end. -/
def releaseWord (device : Device) (frame : TxFrame) : Uint32 :=
  clearbit (device.loadTxd .disjoint (2 * frame.txdCur)) spwtdw0EN

/-- Whether it then raises the interrupt. -/
def releaseInterrupts (device : Device) (frame : TxFrame) : Bool :=
  checkbit (device.releaseWord frame) spwtdw0IE &&
    checkbit device.grspwReg.chn spwchnTI

end Device

/-- The write to guest RAM a call holds back. -/
def Call.held (call : Call) (device : Device) : Option (Nat × List Uint8) :=
  call.frame?.map fun frame =>
    (frame.txdAddr.toNat, ramBytes (device.releaseWord frame))

/-- The interrupt a call holds back. -/
def Call.due (call : Call) (device : Device) : Nat :=
  if call.frame?.any device.releaseInterrupts then 1 else 0

/-- A pulse of one core's interrupt is none of another's. -/
theorem Host.pulses_emit_of_ne
    {other grspwId : GrspwId}
    (different : other ≠ grspwId)
    (host : Host) :
    (host.emit (.irqPulse other)).pulses grspwId = host.pulses grspwId := by
  have another : Effect.irqPulse other ≠ .irqPulse grspwId := by
    intro equal
    exact different (Effect.irqPulse.inj equal)
  simp [Host.pulses, List.count_append, another]

/-- A pulse shows on the line of the core that raises it alone. -/
theorem Host.pulses_raise
    (raises : Bool)
    (sender grspwId : GrspwId)
    (host : Host) :
    (if raises then host.emit (.irqPulse sender) else host).pulses grspwId =
      host.pulses grspwId +
        if sender = grspwId then raises.toNat else 0 := by
  cases raises with
  | false => simp
  | true =>
      by_cases own : sender = grspwId
      · subst own
        simp
      · simp [Host.pulses_emit_of_ne own, own]

theorem txenableAcked_host (frame : TxFrame) (core : Core) :
    (txenableAcked .disjoint frame core).host =
      let host := core.host.writeRam frame.txdAddr
        (ramBytes (core.device.releaseWord frame))
      if core.device.releaseInterrupts frame then
        host.emit (.irqPulse core.device.grspwId)
      else host := by
  simp only [txenableAcked, Host.writeLeon3Ram_word, Device.storeTxd_grspwReg,
    Device.storeTxd_grspwId]
  rfl

/-- A packet received leaves the transmit scratch array alone. -/
theorem txdMap_rxenable
    {layout : Layout}
    {core stored : Core}
    {data : Memory Uint8}
    {len : Uint32}
    {att : RecvAtt}
    (returns : rxenable layout core data len att = .ok stored) :
    stored.device.txdMap = core.device.txdMap := by
  obtain ⟨_, rfl⟩ | ⟨_, _, rfl⟩ | ⟨_, _, rfl⟩ | ⟨_, _, rfl⟩ :=
    rxenable_cases returns
  · rfl
  · rfl
  · rfl
  · rfl

/-- So does a time code. -/
theorem txdMap_rxtimecode (core : Core) (timecode : Uint8) :
    (rxtimecode core timecode).device.txdMap = core.device.txdMap := by
  unfold rxtimecode
  simp only
  split <;> rfl

/-- A packet released pulses at most the sender's own interrupt. -/
theorem Core.pulses_txHost (core : Core) (grspwId : GrspwId) :
    core.txHost.pulses grspwId =
      core.host.pulses grspwId +
        if core.device.grspwId = grspwId then core.txInterrupts.toNat
        else 0 := by
  unfold Core.txHost
  rw [Host.pulses_raise, Host.pulses_writeRam, Host.pulses_sent]

/-! ## Shared states that differ by what is held back -/

/-- Guest RAM and the interrupts so far are behind by what the calls under way
hold back. -/
structure Behind
    (held : Overlay.Held GrspwId Uint8)
    (due : GrspwId → Nat)
    (late atOnce : Host) : Prop where
  ram : atOnce.ram = Overlay.apply held late.ram (List.finRange 4)
  txbuffer : atOnce.txbuffer = late.txbuffer
  spwq : atOnce.spwq = late.spwq
  pulses : ∀ grspwId,
    atOnce.pulses grspwId = late.pulses grspwId + due grspwId

namespace Behind

variable
  {held : Overlay.Held GrspwId Uint8}
  {due : GrspwId → Nat}
  {late atOnce : Host}

theorem emit (behind : Behind held due late atOnce) (effect : Effect) :
    Behind held due (late.emit effect) (atOnce.emit effect) := by
  refine ⟨behind.ram, behind.txbuffer, behind.spwq, ?_⟩
  intro grspwId
  have pulses := behind.pulses grspwId
  simp only [Host.pulses, Host.emit_log, List.count_append] at pulses ⊢
  omega

/-- A write clear of what is held back. -/
theorem writeRam
    (behind : Behind held due late atOnce)
    {addr : Uint32}
    {values : List Uint8}
    (clear : Overlay.Clear held addr.toNat values.length) :
    Behind held due (late.writeRam addr values)
      (atOnce.writeRam addr values) := by
  refine ⟨?_, behind.txbuffer, behind.spwq, ?_⟩
  · rw [Host.writeRam_ram, Host.writeRam_ram, Overlay.apply_write clear,
      behind.ram]
  · intro grspwId
    rw [Host.pulses_writeRam, Host.pulses_writeRam]
    exact behind.pulses grspwId

theorem sent
    (behind : Behind held due late atOnce)
    (grspwId : GrspwId)
    (pword : Uint8)
    (header data : List Uint8) :
    Behind held due (late.sent grspwId pword header data)
      (atOnce.sent grspwId pword header data) := by
  refine ⟨behind.ram, ?_, ?_, behind.pulses⟩
  · simp only [Host.sent, behind.txbuffer]
  · simp only [Host.sent, behind.txbuffer, behind.spwq]

theorem discard
    (behind : Behind held due late atOnce)
    {device device' : Device}
    (same : device.grspwReg = device'.grspwReg) :
    Behind held due (Grspw.discard device late)
      (Grspw.discard device' atOnce) := by
  unfold Grspw.discard
  rw [same]
  split
  · exact behind.emit _
  · exact behind

/-- A descriptor or a packet clear of what is held back reads the same. -/
theorem ram_eq
    (behind : Behind held due late atOnce)
    {addr count cell : Nat}
    (clear : Overlay.Clear held addr count)
    (above : addr ≤ cell)
    (below : cell < addr + count) :
    atOnce.ram cell = late.ram cell := by
  rw [behind.ram]
  exact Overlay.apply_of_clear clear above below _ _

theorem read_eq
    (behind : Behind held due late atOnce)
    {addr count : Nat}
    (clear : Overlay.Clear held addr count) :
    atOnce.ram.read addr count = late.ram.read addr count := by
  apply Memory.read_congr
  intro offset within
  exact behind.ram_eq clear (by omega) (by omega)

end Behind

/-! ## Calls clear of what is held back -/

namespace Core

/-- A transmit call reads nothing that is held back. -/
structure TxClear
    (held : Overlay.Held GrspwId Uint8)
    (core : Core) : Prop where
  descriptor : Overlay.Clear held core.regs.txd.toNat 16
  header : checkbit core.txDescr.ctrl spwtdw0EN = true →
    Overlay.Clear held core.txDescr.addrHeader.toNat
      (core.txDescr.ctrl &&& spwtdw0HeaderLength).toNat
  data : checkbit core.txDescr.ctrl spwtdw0EN = true →
    Overlay.Clear held core.txDescr.data.toNat
      (core.txDescr.len &&& spwtdw2DataLength).toNat

instance (held : Overlay.Held GrspwId Uint8) (core : Core) :
    Decidable (core.TxClear held) :=
  decidable_of_iff
    (Overlay.Clear held core.regs.txd.toNat 16 ∧
      (checkbit core.txDescr.ctrl spwtdw0EN = true →
        Overlay.Clear held core.txDescr.addrHeader.toNat
          (core.txDescr.ctrl &&& spwtdw0HeaderLength).toNat) ∧
      (checkbit core.txDescr.ctrl spwtdw0EN = true →
        Overlay.Clear held core.txDescr.data.toNat
          (core.txDescr.len &&& spwtdw2DataLength).toNat))
    ⟨fun ⟨descriptor, header, data⟩ => ⟨descriptor, header, data⟩,
      fun ⟨descriptor, header, data⟩ => ⟨descriptor, header, data⟩⟩

/-- A packet stored touches nothing that is held back. -/
structure RxClear
    (held : Overlay.Held GrspwId Uint8)
    (core : Core)
    (len : Uint32) : Prop where
  descriptor : Overlay.Clear held core.regs.rxd.toNat 8
  buffer : checkbit core.rxDesc.ctrl spwtrw0EN = true →
    Overlay.Clear held core.rxDesc.addr.toNat (rxLength core.regs len).toNat

instance (held : Overlay.Held GrspwId Uint8) (core : Core) (len : Uint32) :
    Decidable (core.RxClear held len) :=
  decidable_of_iff
    (Overlay.Clear held core.regs.rxd.toNat 8 ∧
      (checkbit core.rxDesc.ctrl spwtrw0EN = true →
        Overlay.Clear held core.rxDesc.addr.toNat
          (rxLength core.regs len).toNat))
    ⟨fun ⟨descriptor, buffer⟩ => ⟨descriptor, buffer⟩,
      fun ⟨descriptor, buffer⟩ => ⟨descriptor, buffer⟩⟩

end Core

section Calls

variable
  {held : Overlay.Held GrspwId Uint8}
  {due : GrspwId → Nat}
  {late atOnce : Core}
  (same : SameDevice late.device atOnce.device)
  (behind : Behind held due late.host atOnce.host)

include same behind

theorem Behind.txDescr_eq
    (clear : Overlay.Clear held late.regs.txd.toNat 16) :
    atOnce.txDescr = late.txDescr := by
  have sameRegs : atOnce.regs = late.regs := same.regs_eq.symm
  rw [Core.txDescr, Core.txDescr, sameRegs]
  exact txDescrAt_congr fun cell above below => behind.ram_eq clear above below

theorem Behind.rxDesc_eq
    (clear : Overlay.Clear held late.regs.rxd.toNat 8) :
    atOnce.rxDesc = late.rxDesc := by
  have sameRegs : atOnce.regs = late.regs := same.regs_eq.symm
  rw [Core.rxDesc, Core.rxDesc, sameRegs]
  exact rxDescAt_congr fun cell above below => behind.ram_eq clear above below

theorem Behind.written (regOffset : RegOffset) (value : Uint32) :
    Behind held due (late.written regOffset value).host
      (atOnce.written regOffset value).host := by
  have sameRegs : atOnce.regs = late.regs := same.regs_eq.symm
  cases regOffset with
  | ctr =>
      change Behind held due
        (ctrHost late.device.grspwId late.regs late.host value)
        (ctrHost atOnce.device.grspwId atOnce.regs atOnce.host value)
      rw [sameRegs, ← same.grspwId_eq]
      unfold ctrHost
      split
      · exact behind.sent _ _ _ _
      · exact behind
  | _ => exact behind

theorem Behind.rxStored
    (data : Memory Uint8)
    {len : Uint32}
    (att : RecvAtt)
    (clear : late.RxClear held len)
    (armed : checkbit late.rxDesc.ctrl spwtrw0EN = true) :
    Behind held due (late.rxStored data len att).host
      (atOnce.rxStored data len att).host := by
  have sameRegs : atOnce.regs = late.regs := same.regs_eq.symm
  have desc := Behind.rxDesc_eq same behind clear.descriptor
  have control : Overlay.Clear held late.regs.rxd.toNat 4 := by
    intro party write holds
    have apart := clear.descriptor party write holds
    omega
  rw [Core.rxStored_host, Core.rxStored_host]
  refine Behind.discard ?_ same.regs_eq
  unfold Core.rxHost Core.rxInterrupts
  rw [desc, sameRegs, ← same.grspwId_eq]
  have warned : Behind held due
      (if late.regs.rxl &&& spwrxlRxMaxLength < len then
        late.host.emit (.warning msgTruncated) else late.host)
      (if late.regs.rxl &&& spwrxlRxMaxLength < len then
        atOnce.host.emit (.warning msgTruncated) else atOnce.host) := by
    split
    · exact behind.emit _
    · exact behind
  have buffer := @Behind.writeRam _ _ _ _ warned late.rxDesc.addr
    (data.read 0 (rxLength late.regs len).toNat)
    (by rw [Memory.length_read]; exact clear.buffer armed)
  have released := @Behind.writeRam _ _ _ _ buffer late.regs.rxd
    (ramBytes (rxCtrl late.regs late.rxDesc.ctrl len att)) control
  simp only
  split
  · exact released.emit _
  · exact released

theorem Behind.rxRefused :
    Behind held due late.rxRefused.host atOnce.rxRefused.host := by
  rw [Core.rxRefused_host, Core.rxRefused_host]
  exact ((behind.emit _).discard same.regs_eq).discard same.regs_eq

theorem Behind.tickedOut (timecode : Uint8) :
    Behind held due (late.tickedOut timecode).host
      (atOnce.tickedOut timecode).host := by
  have sameRegs : atOnce.regs = late.regs := same.regs_eq.symm
  simp only [Core.tickedOut, sameRegs, ← same.grspwId_eq]
  split
  · exact behind.emit _
  · exact behind

/-- A packet clear of what is held back does the same to both. -/
theorem Behind.rxenable
    {data : Memory Uint8}
    {len : Uint32}
    {att : RecvAtt}
    {after : Core}
    (clear : rxAccepts late.regs data = true →
      checkbit late.regs.chn spwchnRD = true → late.RxClear held len)
    (returns : Grspw.rxenable .disjoint late data len att = .ok after) :
    ∃ after', Grspw.rxenable .disjoint atOnce data len att = .ok after' ∧
      SameDevice after.device after'.device ∧
      Behind held due after.host after'.host := by
  have sameRegs : atOnce.regs = late.regs := same.regs_eq.symm
  obtain ⟨refused, rfl⟩ | ⟨accepts, unavailable, rfl⟩ |
    ⟨fetches, unarmed, rfl⟩ | ⟨fetches, armed, rfl⟩ := rxenable_cases returns
  · rw [← sameRegs] at refused
    exact ⟨atOnce, rxenable_refused refused, same, behind⟩
  · rw [← sameRegs] at accepts unavailable
    exact ⟨_, rxenable_unavailable accepts unavailable, same,
      behind.discard same.regs_eq⟩
  · have clear := clear fetches.accepts fetches.available
    have desc := Behind.rxDesc_eq same behind clear.descriptor
    rw [← desc] at unarmed
    exact ⟨_, rxenable_disabled (same.rxFetches fetches) unarmed,
      ⟨same.grspwId_eq, same.rxRefusedRegs.symm, same.txdCur_eq,
        same.rxdCur_eq⟩,
      Behind.rxRefused same behind⟩
  · have clear := clear fetches.accepts fetches.available
    have desc := Behind.rxDesc_eq same behind clear.descriptor
    have armed' : checkbit atOnce.rxDesc.ctrl spwtrw0EN = true := by
      rw [desc]
      exact armed
    exact ⟨_, rxenable_stored (same.rxFetches fetches) armed',
      same.rxStored desc data len att,
      Behind.rxStored same behind data att clear armed⟩

theorem Behind.rxtimecode (timecode : Uint8) :
    SameDevice (Grspw.rxtimecode late timecode).device
        (Grspw.rxtimecode atOnce timecode).device ∧
      Behind held due (Grspw.rxtimecode late timecode).host
        (Grspw.rxtimecode atOnce timecode).host := by
  have sameRegs : atOnce.regs = late.regs := same.regs_eq.symm
  by_cases newer : late.regs.tim < timecode.setWidth 32
  · have newer' := newer
    rw [← sameRegs] at newer'
    rw [rxtimecode_newer newer, rxtimecode_newer newer']
    refine ⟨⟨same.grspwId_eq, ?_, same.txdCur_eq, same.rxdCur_eq⟩,
      Behind.tickedOut same behind timecode⟩
    simp only [Core.tickedOut, sameRegs]
  · have stale := newer
    rw [← sameRegs] at stale
    rw [rxtimecode_stale newer, rxtimecode_stale stale]
    exact ⟨same, behind⟩

/-- A call that sends nothing does the same to both. -/
theorem Behind.txenableSend_none
    {after : Core}
    (clear : checkbit late.regs.chn spwchnTE = true → late.TxClear held)
    (returns : txenableSend .disjoint late = .ok (none, after)) :
    ∃ after', txenableSend .disjoint atOnce = .ok (none, after') ∧
      SameDevice after.device after'.device ∧
      Behind held due after.host after'.host := by
  have sameRegs : atOnce.regs = late.regs := same.regs_eq.symm
  have transmits : txenable .disjoint late = .ok (true, after) := by
    simp [txenable, returns]
  obtain ⟨_, disabled, rfl⟩ | ⟨_, polls, rfl⟩ | ⟨sends, _⟩ :=
    txenable_cases transmits
  · rw [← sameRegs] at disabled
    exact ⟨atOnce, txenableSend_idle disabled, same, behind⟩
  · have descr := Behind.txDescr_eq same behind (clear polls.enabled).descriptor
    obtain ⟨polls', device⟩ := same.txPolled descr polls
    exact ⟨_,
      txenableSend_polled polls'.enabled polls'.admits polls'.unarmed, device,
      behind⟩
  · cases sends

/-- An armed descriptor and its packet read the same. -/
theorem Behind.txReads_eq
    (clear : late.TxClear held)
    (armed : checkbit late.txDescr.ctrl spwtdw0EN = true) :
    atOnce.txDescr = late.txDescr ∧ atOnce.txHeader = late.txHeader ∧
      atOnce.txData = late.txData := by
  have descr := Behind.txDescr_eq same behind clear.descriptor
  refine ⟨descr, ?_, ?_⟩
  · rw [Core.txHeader, Core.txHeader, descr]
    exact behind.read_eq (clear.header armed)
  · rw [Core.txData, Core.txData, descr]
    exact behind.read_eq (clear.data armed)

/-- A call that sends a packet sends it from both, and the locals it keeps are
the same. -/
theorem Behind.txSends
    (clear : late.TxClear held)
    (sends : TxSends .disjoint late) :
    txenableSend .disjoint atOnce =
        .ok (some atOnce.txFrame, atOnce.txSent .disjoint) ∧
      atOnce.txFrame = late.txFrame ∧
      SameDevice (late.txSent .disjoint).device
        (atOnce.txReleased .disjoint).device := by
  have sameRegs : atOnce.regs = late.regs := same.regs_eq.symm
  obtain ⟨descr, header, data⟩ :=
    Behind.txReads_eq same behind clear sends.armed
  have frame : atOnce.txFrame = late.txFrame := by
    rw [Core.txFrame, Core.txFrame, sameRegs, same.txdCur_eq]
  obtain ⟨sends', device⟩ := same.txReleased descr header data sends
  refine ⟨?_, frame, ?_⟩
  · rw [txenableSend_armed sends'.enabled sends'.admits sends'.armed,
      if_pos sends'.fits]
  · exact (sameDevice_txenableAcked_disjoint late.txFrame
      (late.txSent .disjoint)).symm.trans device

/-- The one packet sent, the other call has still to release its descriptor. -/
theorem Behind.txReleased
    (clear : late.TxClear held)
    (sends : TxSends .disjoint late)
    (free : held late.device.grspwId = none)
    (undue : due late.device.grspwId = 0) :
    Behind
      (Function.update held late.device.grspwId
        (some (late.regs.txd.toNat, ramBytes late.txWriteBack)))
      (Function.update due late.device.grspwId
        (if late.txInterrupts then 1 else 0))
      (late.txSent .disjoint).host (atOnce.txReleased .disjoint).host := by
  have sameRegs : atOnce.regs = late.regs := same.regs_eq.symm
  obtain ⟨descr, header, data⟩ :=
    Behind.txReads_eq same behind clear sends.armed
  have word : atOnce.txWriteBack = late.txWriteBack := by
    rw [Core.txWriteBack, Core.txWriteBack, descr]
  have interrupts : atOnce.txInterrupts = late.txInterrupts := by
    rw [Core.txInterrupts, Core.txInterrupts, descr, sameRegs]
  have control : Overlay.Clear held late.regs.txd.toNat
      (ramBytes late.txWriteBack).length := by
    intro party write holds
    have apart := clear.descriptor party write holds
    rw [length_ramBytes]
    omega
  rw [Core.txReleased_host _ _ (Layout.admits_disjoint _ _)]
  refine ⟨?_, ?_, ?_, ?_⟩
  · rw [Core.txHost_ram, behind.ram, sameRegs, word]
    exact (@Overlay.apply_update_some _ _ held _ _
      (late.regs.txd.toNat, ramBytes late.txWriteBack) _ free control
      (List.mem_finRange _) (List.nodup_finRange 4) _).symm
  · rw [Core.txHost_txbuffer, behind.txbuffer, header, data, ← same.grspwId_eq]
    rfl
  · rw [Core.txHost_spwq, behind.spwq, behind.txbuffer, header, data,
      ← same.grspwId_eq]
    rfl
  · intro grspwId
    have pulses := behind.pulses grspwId
    have late_eq : (late.txSent .disjoint).host.pulses grspwId =
        late.host.pulses grspwId := rfl
    rw [late_eq, Core.pulses_txHost, interrupts, ← same.grspwId_eq, pulses]
    by_cases own : grspwId = late.device.grspwId
    · subst own
      rw [Function.update_self, undue, if_pos rfl]
      cases late.txInterrupts <;> rfl
    · rw [Function.update_of_ne own, if_neg (Ne.symm own), Nat.add_zero]

end Calls

end Grspw
