import Grspw.Interrupts

/-!
# What the DMA engines write to guest RAM

The footprint of each call: a transmit call touches one bit of one descriptor's
control word, a packet stored touches its buffer and its control word, and all
other calls touch nothing.
-/

namespace Grspw

/-! ## Guest RAM after a call -/

@[simp] theorem discard_ram (device : Device) (host : Host) :
    (discard device host).ram = host.ram := by
  unfold discard
  split <;> rfl

namespace Core

/-- Guest RAM once the payload of a packet is stored. -/
def rxPayloadRam
    (core : Core)
    (data : Memory Uint8)
    (len : Uint32) : Memory Uint8 :=
  core.host.ram.write core.rxDesc.addr.toNat
    (data.read 0 (rxLength core.regs len).toNat)

@[simp] theorem rxHost_ram
    (core : Core)
    (data : Memory Uint8)
    (len : Uint32)
    (att : RecvAtt) :
    (core.rxHost data len att).ram =
      (core.rxPayloadRam data len).write core.regs.rxd.toNat
        (ramBytes (rxCtrl core.regs core.rxDesc.ctrl len att)) := by
  unfold rxHost rxPayloadRam
  by_cases truncates : core.regs.rxl &&& spwrxlRxMaxLength < len
  · cases core.rxInterrupts <;> simp [truncates]
  · cases core.rxInterrupts <;> simp [truncates]

/-- Guest RAM after a packet that was stored. -/
theorem rxStored_ram
    (core : Core)
    (data : Memory Uint8)
    (len : Uint32)
    (att : RecvAtt) :
    (core.rxStored data len att).host.ram =
      (core.rxPayloadRam data len).write core.regs.rxd.toNat
        (ramBytes (rxCtrl core.regs core.rxDesc.ctrl len att)) := by
  rw [rxStored_host, discard_ram, rxHost_ram]

/-- Guest RAM after a packet that was sent. -/
theorem txReleased_ram
    {layout : Layout}
    {core : Core}
    (sends : TxSends layout core) :
    (core.txReleased layout).host.ram =
      core.host.ram.write core.regs.txd.toNat (ramBytes core.txWriteBack) := by
  rw [txReleased_host _ _ sends.admits, txHost_ram]

/-- The control word written back after a packet sent. -/
theorem ramWord_txReleased
    {layout : Layout}
    {core : Core}
    (sends : TxSends layout core) :
    ramWord (core.txReleased layout).host.ram core.regs.txd.toNat =
      clearbit (ramWord core.host.ram core.regs.txd.toNat) spwtdw0EN := by
  rw [txReleased_ram sends, ramWord_write_ramBytes]
  rfl

/-- The control word written back after a packet stored. -/
theorem ramWord_rxStored
    (core : Core)
    (data : Memory Uint8)
    (len : Uint32)
    (att : RecvAtt) :
    ramWord (core.rxStored data len att).host.ram core.regs.rxd.toNat =
      rxCtrl core.regs (ramWord core.host.ram core.regs.rxd.toNat) len att := by
  rw [rxStored_ram, ramWord_write_ramBytes]
  rfl

end Core

/-- No more is kept of a packet than its length and SPWRXL allow. -/
theorem toNat_rxLength_le (regs : Regs) (len : Uint32) :
    (rxLength regs len).toNat ≤ min len.toNat regs.rxl.toNat := by
  have masked : (regs.rxl &&& spwrxlRxMaxLength).toNat ≤ regs.rxl.toNat := by
    rw [BitVec.toNat_and]
    exact Nat.and_le_left
  rw [toNat_rxLength, Regs.rxMaxLength]
  omega

/-! ## Footprints -/

/-- What a transmit call may change of guest RAM. -/
structure TxFootprint (before after : Core) : Prop where
  outside : Memory.SameOutside
    (fun cell => before.regs.txd.toNat ≤ cell ∧
      cell < before.regs.txd.toNat + 4)
    before.host.ram after.host.ram
  otherBits : ∀ bit, bit ≠ 12 →
    (ramWord after.host.ram before.regs.txd.toNat).getLsbD bit =
      (ramWord before.host.ram before.regs.txd.toNat).getLsbD bit
  onlyEnabled : after.host.ram ≠ before.host.ram →
    checkbit before.txDescr.ctrl spwtdw0EN = true

/-- What a packet may change of guest RAM. -/
structure RxFootprint
    (before : Core)
    (data : Memory Uint8)
    (len : Uint32)
    (after : Core) : Prop where
  outside : Memory.SameOutside
    (fun cell =>
      (before.rxDesc.addr.toNat ≤ cell ∧
        cell < before.rxDesc.addr.toNat +
          min len.toNat before.regs.rxl.toNat) ∨
      (before.regs.rxd.toNat ≤ cell ∧ cell < before.regs.rxd.toNat + 4))
    before.host.ram after.host.ram
  onlyStored : after.host.ram ≠ before.host.ram →
    before.rxStoring data = true
  interruptEnable :
    checkbit (ramWord after.host.ram before.regs.rxd.toNat) spwtrw0IE =
      checkbit (ramWord before.host.ram before.regs.rxd.toNat) spwtrw0IE
  wrap :
    checkbit (ramWord after.host.ram before.regs.rxd.toNat) spwtrw0WR =
      checkbit (ramWord before.host.ram before.regs.rxd.toNat) spwtrw0WR

/-- What a call may change of guest RAM. -/
def DmaFootprint (before : Core) (input : Input) (after : Core) : Prop :=
  match input with
  | .transmit => TxFootprint before after
  | .packet data len _ => RxFootprint before data len after
  | .ambient ram _ => after.host.ram = ram
  | _ => after.host.ram = before.host.ram

/-- A call that leaves guest RAM alone has any transmit footprint. -/
theorem txFootprint_of_same
    {before after : Core}
    (same : after.host.ram = before.host.ram) :
    TxFootprint before after := by
  constructor
  · rw [same]
    exact .refl _ _
  · intro bit _
    rw [same]
  · intro changed
    exact absurd same changed

/-- A packet that leaves guest RAM alone has any receive footprint. -/
theorem rxFootprint_of_same
    {before after : Core}
    (same : after.host.ram = before.host.ram)
    (data : Memory Uint8)
    (len : Uint32) :
    RxFootprint before data len after := by
  constructor
  · rw [same]
    exact .refl _ _
  · intro changed
    exact absurd same changed
  · rw [same]
  · rw [same]

/-- A packet sent changes the Enable bit of its descriptor alone. -/
theorem txFootprint_txReleased
    {layout : Layout}
    {core : Core}
    (sends : TxSends layout core) :
    TxFootprint core (core.txReleased layout) := by
  constructor
  · have released := Memory.sameOutside_write core.host.ram
      core.regs.txd.toNat (ramBytes core.txWriteBack)
    rw [length_ramBytes] at released
    rw [Core.txReleased_ram sends]
    exact released
  · intro bit another
    rw [Core.ramWord_txReleased sends, clearbit, spwtdw0EN, ← BitVec.twoPow_eq,
      BitVec.getLsbD_and, BitVec.getLsbD_not, BitVec.getLsbD_twoPow]
    by_cases within : bit < 32
    · simp [within, another.symm]
    · simp [BitVec.getLsbD_of_ge _ bit (Nat.le_of_not_lt within)]
  · intro _
    exact sends.armed

/-- A packet stored changes its buffer and its control word, and keeps two bits
of the latter. -/
theorem rxFootprint_rxStored
    {layout : Layout}
    {core : Core}
    {data : Memory Uint8}
    (fetches : RxFetches layout core data)
    (armed : checkbit core.rxDesc.ctrl spwtrw0EN = true)
    (len : Uint32)
    (att : RecvAtt) :
    RxFootprint core data len (core.rxStored data len att) := by
  constructor
  · rw [Core.rxStored_ram]
    have kept := toNat_rxLength_le core.regs len
    have payload := Memory.sameOutside_write core.host.ram
      core.rxDesc.addr.toNat
      (data.read 0 (rxLength core.regs len).toNat)
    rw [Memory.length_read] at payload
    refine (payload.mono ?_).trans
      ((Memory.sameOutside_write _ _ _).mono ?_)
    · rintro cell ⟨above, below⟩
      exact Or.inl ⟨above, by omega⟩
    · rintro cell ⟨above, below⟩
      exact Or.inr ⟨above, below⟩
  · intro _
    simp [Core.rxStoring, fetches.accepts, fetches.available, armed]
  · rw [Core.ramWord_rxStored, checkbit_rxCtrl_IE]
  · rw [Core.ramWord_rxStored, checkbit_rxCtrl_WR]

/-- A transmit call keeps to its footprint. -/
theorem txFootprint_of_transmit
    {layout : Layout}
    {core after : Core}
    (moves : step layout core .transmit = .ok after) :
    TxFootprint core after := by
  cases stepped_of_step moves with
  | idle disabled => exact txFootprint_of_same rfl
  | polled polls => exact txFootprint_of_same rfl
  | sent sends => exact txFootprint_txReleased sends

/-- A packet keeps to its footprint. -/
theorem rxFootprint_of_packet
    {layout : Layout}
    {core after : Core}
    {data : Memory Uint8}
    {len : Uint32}
    {att : RecvAtt}
    (moves : step layout core (.packet data len att) = .ok after) :
    RxFootprint core data len after := by
  cases stepped_of_step moves with
  | deaf data len att refused => exact rxFootprint_of_same rfl data len
  | dropped data len att accepts unavailable =>
      exact rxFootprint_of_same (discard_ram _ _) data len
  | refused data len att fetches unarmed =>
      refine rxFootprint_of_same ?_ data len
      rw [Core.rxRefused_host, discard_ram, discard_ram]
      rfl
  | stored data len att fetches armed =>
      exact rxFootprint_rxStored fetches armed len att

/-- A register write leaves guest RAM alone. -/
theorem ram_of_write
    {layout : Layout}
    {core after : Core}
    {regOffset : RegOffset}
    {value : Uint32}
    (moves : step layout core (.write regOffset value) = .ok after) :
    after.host.ram = core.host.ram := by
  have writes : core.write regOffset value = .ok after := moves
  rw [Core.write_eq] at writes
  cases writes
  cases regOffset with
  | ctr =>
      have host : (core.written .ctr value).host =
        ctrHost core.device.grspwId core.regs core.host value := rfl
      rw [host, ctrHost]
      split <;> rfl
  | _ => rfl

/-- A time code leaves guest RAM alone. -/
theorem rxtimecode_ram (core : Core) (timecode : Uint8) :
    (rxtimecode core timecode).host.ram = core.host.ram := by
  by_cases newer : core.regs.tim < timecode.setWidth 32
  · rw [rxtimecode_newer newer]
    unfold Core.tickedOut
    simp only
    split <;> rfl
  · rw [rxtimecode_stale newer]

/-- **DMA footprint.**  From every state and for every call that returns, guest
RAM changes within the footprint of the call. -/
theorem dmaFootprint_of_step
    (layout : Layout)
    (core after : Core)
    (input : Input)
    (moves : step layout core input = .ok after) :
    DmaFootprint core input after := by
  cases input with
  | write regOffset value => exact ram_of_write moves
  | read regOffset =>
      cases moves
      rfl
  | transmit => exact txFootprint_of_transmit moves
  | packet data len att => exact rxFootprint_of_packet moves
  | timecode timecode =>
      cases moves
      exact rxtimecode_ram core timecode
  | ambient ram txbuffer =>
      cases moves
      rfl

/-- A packet sent from guest RAM whose descriptors are all enabled. -/
theorem dmaFootprint_of_first_packet :
    ∃ after, step .packed
        ((apbgrspwInit 0 (enabledRam 16 2 0x10)).written .chn spwchnTE)
        .transmit = .ok after ∧
      DmaFootprint
        ((apbgrspwInit 0 (enabledRam 16 2 0x10)).written .chn spwchnTE)
        .transmit after := by
  have sends : TxSends .packed
      ((apbgrspwInit 0 (enabledRam 16 2 0x10)).written .chn spwchnTE) :=
    ⟨by decide, by decide, by decide, by decide⟩
  have moves : step .packed
      ((apbgrspwInit 0 (enabledRam 16 2 0x10)).written .chn spwchnTE)
      .transmit = .ok (Core.txReleased .packed
        ((apbgrspwInit 0 (enabledRam 16 2 0x10)).written .chn spwchnTE)) := by
    simp only [step, sends.txenable_eq, Except.map]
  exact ⟨_, moves, dmaFootprint_of_step .packed _ _ .transmit moves⟩

end Grspw
