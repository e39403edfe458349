import Mathlib.Tactic.IntervalCases
import Grspw.PartialPackets
import Grspw.Relay

/-!
# Packet reception from end to end

What the guest is promised of an incoming packet: when it is stored, what its
buffer and its descriptor hold then, and how often a packet not stored is
reported as discarded.  The status flags of an earlier packet survive in the
control word, and the discard block also runs after the descriptor block, so
each promise holds under an exact condition.
-/

namespace Grspw

/-! ## What a call does to guest RAM and to the log -/

namespace Host

/-- The writes to guest RAM so far. -/
def ramWrites (host : Host) : List (Uint32 × List Uint8) :=
  host.log.filterMap fun
    | .ramWrite addr values => some (addr, values)
    | _ => none

/-- How often a packet was reported as discarded. -/
def discards (host : Host) : Nat := host.log.count (.warning msgDiscarded)

variable (host : Host)

@[simp] theorem ramWrites_emit_warning (msg : String) :
    (host.emit (.warning msg)).ramWrites = host.ramWrites := by
  simp [ramWrites]

@[simp] theorem ramWrites_emit_irqPulse (grspwId : GrspwId) :
    (host.emit (.irqPulse grspwId)).ramWrites = host.ramWrites := by
  simp [ramWrites]

@[simp] theorem ramWrites_writeRam (addr : Uint32) (values : List Uint8) :
    (host.writeRam addr values).ramWrites =
      host.ramWrites ++ [(addr, values)] := by
  simp [ramWrites]

@[simp] theorem ramWrites_discard (device : Device) :
    (discard device host).ramWrites = host.ramWrites := by
  unfold discard
  split
  · exact host.ramWrites_emit_warning msgDiscarded
  · rfl

@[simp] theorem discards_emit_irqPulse (grspwId : GrspwId) :
    (host.emit (.irqPulse grspwId)).discards = host.discards := by
  simp [discards]

@[simp] theorem discards_writeRam (addr : Uint32) (values : List Uint8) :
    (host.writeRam addr values).discards = host.discards := by
  simp [discards]

/-- Other warnings do not report a packet as discarded. -/
theorem discards_emit_warning
    {msg : String}
    (another : msg ≠ msgDiscarded) :
    (host.emit (.warning msg)).discards = host.discards := by
  simp [discards, another]

/-- A packet is reported as discarded unless No Spill is set. -/
theorem discards_discard (device : Device) :
    (discard device host).discards =
      host.discards +
        if checkbit device.grspwReg.chn spwchnNS then 0 else 1 := by
  unfold discard
  cases checkbit device.grspwReg.chn spwchnNS with
  | true => simp
  | false => simp [discards]

end Host

namespace Core

variable
  (core : Core)
  (data : Memory Uint8)
  (len : Uint32)
  (att : RecvAtt)

/-- A packet stored is written to its buffer, then its control word. -/
theorem rxStored_ramWrites :
    (core.rxStored data len att).host.ramWrites =
      core.host.ramWrites ++
        [(core.rxDesc.addr,
            data.read 0 (rxLength core.regs len).toNat),
          (core.regs.rxd,
            ramBytes (rxCtrl core.regs core.rxDesc.ctrl len att))] := by
  rw [rxStored_host, Host.ramWrites_discard, rxHost]
  by_cases truncates : core.regs.rxl &&& spwrxlRxMaxLength < len
  · cases core.rxInterrupts <;> simp [truncates]
  · cases core.rxInterrupts <;> simp [truncates]

/-- A packet stored is reported as discarded once unless No Spill is set. -/
theorem rxStored_discards :
    (core.rxStored data len att).host.discards =
      core.host.discards +
        if checkbit core.regs.chn spwchnNS then 0 else 1 := by
  have another : msgTruncated ≠ msgDiscarded := by decide
  rw [rxStored_host, Host.discards_discard, rxHost]
  congr 1
  by_cases truncates : core.regs.rxl &&& spwrxlRxMaxLength < len
  · cases core.rxInterrupts <;>
      simp [truncates, Host.discards_emit_warning _ another]
  · cases core.rxInterrupts <;> simp [truncates]

theorem rxRefused_ramWrites :
    core.rxRefused.host.ramWrites = core.host.ramWrites := by
  rw [rxRefused_host, Host.ramWrites_discard, Host.ramWrites_discard,
    Host.ramWrites_emit_warning]

/-- A packet that finds its descriptor disabled is reported as discarded twice
unless No Spill is set. -/
theorem rxRefused_discards :
    core.rxRefused.host.discards =
      core.host.discards +
        if checkbit core.regs.chn spwchnNS then 0 else 2 := by
  have another : msgDisabled ≠ msgDiscarded := by decide
  rw [rxRefused_host, Host.discards_discard, Host.discards_discard,
    Host.discards_emit_warning _ another]
  cases checkbit core.regs.chn spwchnNS <;> rfl

theorem rxDropped_ramWrites :
    core.rxDropped.host.ramWrites = core.host.ramWrites :=
  core.host.ramWrites_discard core.device

theorem rxDropped_discards :
    core.rxDropped.host.discards =
      core.host.discards +
        if checkbit core.regs.chn spwchnNS then 0 else 1 :=
  core.host.discards_discard core.device

end Core

/-! ## When a packet is stored -/

namespace Core

/-- The packet went to guest RAM: the bytes kept of it, then a control word. -/
def Stores
    (core : Core)
    (data : Memory Uint8)
    (len : Uint32)
    (after : Core) : Prop :=
  ∃ ctrl, after.host.ramWrites = core.host.ramWrites ++
    [(core.rxDesc.addr,
        data.read 0 (min len.toNat core.regs.rxMaxLength)),
      (core.regs.rxd, ramBytes ctrl)]

variable
  {layout : Layout}
  {core after : Core}
  {data : Memory Uint8}
  {len : Uint32}
  {att : RecvAtt}

theorem stores_rxStored : core.Stores data len (core.rxStored data len att) := by
  refine ⟨rxCtrl core.regs core.rxDesc.ctrl len att, ?_⟩
  rw [rxStored_ramWrites, toNat_rxLength]

theorem not_stores_of_ramWrites_eq
    (same : after.host.ramWrites = core.host.ramWrites) :
    ¬core.Stores data len after := by
  rintro ⟨ctrl, written⟩
  rw [same] at written
  simp at written

/-- A call that returns stores its packet exactly when all four conditions are
met. -/
theorem stores_iff_rxStoring
    (returns : rxenable layout core data len att = .ok after) :
    core.Stores data len after ↔ core.rxStoring data = true := by
  unfold rxStoring
  obtain ⟨refused, rfl⟩ | ⟨_, unavailable, rfl⟩ | ⟨_, unarmed, rfl⟩ |
    ⟨fetches, armed, rfl⟩ := rxenable_cases returns
  · exact iff_of_false (not_stores_of_ramWrites_eq rfl) (by simp [refused])
  · exact iff_of_false (not_stores_of_ramWrites_eq core.rxDropped_ramWrites)
      (by simp [unavailable])
  · exact iff_of_false (not_stores_of_ramWrites_eq core.rxRefused_ramWrites)
      (by simp [unarmed])
  · exact iff_of_true stores_rxStored
      (by simp [fetches.accepts, fetches.available, armed])

/-- A packet that is not stored leaves guest RAM alone. -/
theorem ram_of_not_stores
    (returns : rxenable layout core data len att = .ok after)
    (notStored : ¬core.Stores data len after) :
    after.host.ram = core.host.ram := by
  have footprint : RxFootprint core data len after :=
    rxFootprint_of_packet (show step layout core (.packet data len att) =
      .ok after from returns)
  rw [stores_iff_rxStoring returns] at notStored
  by_contra changed
  exact notStored (footprint.onlyStored changed)

/-- A call returns unless it would look at an entry outside the scratch
array. -/
theorem rxenable_returns_iff :
    (∃ after, rxenable layout core data len att = .ok after) ↔
      (rxAccepts core.regs data = true → checkbit core.regs.chn spwchnRD = true →
        layout.Admits core.device.rxdCur nbRxDescriptor) := by
  constructor
  · rintro ⟨after, returns⟩ accepts available
    by_contra outside
    rw [rxenable_outOfBounds accepts available outside] at returns
    cases returns
  · intro within
    cases accepts : rxAccepts core.regs data with
    | false => exact ⟨_, rxenable_refused accepts⟩
    | true =>
        cases available : checkbit core.regs.chn spwchnRD with
        | false => exact ⟨_, rxenable_unavailable accepts available⟩
        | true =>
            have fetches : RxFetches layout core data :=
              ⟨accepts, available, within accepts available⟩
            cases armed : checkbit core.rxDesc.ctrl spwtrw0EN with
            | false => exact ⟨_, rxenable_disabled fetches armed⟩
            | true => exact ⟨_, rxenable_stored fetches armed⟩

end Core

/-! ## The control word written back -/

/-- Attributes as the receive code takes them: each flag is 0 or 1. -/
structure RecvAtt.Flags (att : RecvAtt) : Prop where
  dc : att.dc = 0 ∨ att.dc = 1
  hc : att.hc = 0 ∨ att.hc = 1
  ep : att.ep = 0 ∨ att.ep = 1

/-- What the control word of a stored packet tells. -/
structure CtrlWordLaw
    (regs : Regs)
    (ctrl len : Uint32)
    (att : RecvAtt)
    (written : Uint32) : Prop where
  length : (written &&& spwtrw0PacketLength).toNat =
    min len.toNat regs.rxMaxLength
  disabled : checkbit written spwtrw0EN = false
  interruptEnable : checkbit written spwtrw0IE = checkbit ctrl spwtrw0IE
  wrap : checkbit written spwtrw0WR = checkbit ctrl spwtrw0WR
  truncated : checkbit written spwtrw0TR = true ↔ regs.rxMaxLength < len.toNat
  dataCrc : checkbit written spwtrw0DC = true ↔ att.dc = 1
  headerCrc : checkbit written spwtrw0HC = true ↔ att.hc = 1
  eep : checkbit written spwtrw0EP = true ↔ att.ep = 1

/-- Every status flag found in a control word is due for the packet as well. -/
structure FreshFlags
    (regs : Regs)
    (ctrl len : Uint32)
    (att : RecvAtt) : Prop where
  truncated : checkbit ctrl spwtrw0TR = true → regs.rxMaxLength < len.toNat
  dataCrc : checkbit ctrl spwtrw0DC = true → att.dc = 1
  headerCrc : checkbit ctrl spwtrw0HC = true → att.hc = 1
  eep : checkbit ctrl spwtrw0EP = true → att.ep = 1

/-- The status flag of each place that is due for a packet. -/
def flagDue (regs : Regs) (len : Uint32) (att : RecvAtt) (bit : Nat) : Bool :=
  match bit with
  | 31 => decide (regs.rxMaxLength < len.toNat)
  | 30 => decide (att.dc = 1)
  | 29 => decide (att.hc = 1)
  | 28 => decide (att.ep = 1)
  | _ => false

/-- Setting a flag multiplied into its place. -/
theorem checkbit_setbit_flag
    (reg : Uint32)
    {value : Uint32}
    (flag : value = 0 ∨ value = 1)
    {bit place : Nat}
    (within : bit < 32) :
    checkbit (setbit reg (value * (1#32 <<< place))) (1#32 <<< bit) =
      (checkbit reg (1#32 <<< bit) ||
        (decide (bit = place) && decide (value = 1))) := by
  rw [checkbit_bit _ within, checkbit_bit _ within]
  obtain rfl | rfl := flag
  · simp [setbit]
  · rw [BitVec.ofNat_eq_ofNat, BitVec.one_mul, setbit, BitVec.getLsbD_or,
      ← BitVec.twoPow_eq, BitVec.getLsbD_twoPow]
    by_cases same : bit = place
    · simp [← same, within]
    · simp [same, Ne.symm same]

section ControlWord

variable
  {regs : Regs}
  {ctrl len : Uint32}
  {att : RecvAtt}

/-- A status flag written back is the one found or the one due. -/
theorem checkbit_rxCtrl_flag
    (flags : att.Flags)
    {bit : Nat}
    (high : 28 ≤ bit)
    (within : bit < 32) :
    checkbit (rxCtrl regs ctrl len att) (1#32 <<< bit) =
      (checkbit ctrl (1#32 <<< bit) || flagDue regs len att bit) := by
  have notEnable : 1#32 <<< bit &&& spwtrw0EN = 0 := by
    interval_cases bit <;> decide
  have notLength : 1#32 <<< bit &&& spwtrw0PacketLength = 0 := by
    interval_cases bit <;> decide
  have truncated :
      ((if regs.rxl &&& spwrxlRxMaxLength < len then 1 else 0) =
          (0 : Uint32) ∨
        (if regs.rxl &&& spwrxlRxMaxLength < len then 1 else 0) =
          (1 : Uint32)) ∧
      decide ((if regs.rxl &&& spwrxlRxMaxLength < len then 1 else 0) =
          (1 : Uint32)) =
        decide (regs.rxMaxLength < len.toNat) := by
    simp only [Regs.rxMaxLength, BitVec.lt_def]
    split
    · rename_i truncates
      exact ⟨Or.inr rfl, (decide_eq_true truncates).symm⟩
    · rename_i fits
      exact ⟨Or.inl rfl, (decide_eq_false fits).symm⟩
  rw [rxCtrl, checkbit_clearbit_of_disjoint notEnable,
    checkbit_deposit_of_disjoint notLength, spwtrw0EP,
    checkbit_setbit_flag _ flags.ep within, spwtrw0HC,
    checkbit_setbit_flag _ flags.hc within, spwtrw0DC,
    checkbit_setbit_flag _ flags.dc within, spwtrw0TR,
    checkbit_setbit_flag _ truncated.1 within, truncated.2]
  interval_cases bit <;> simp [flagDue]

/-- The length field holds the number of bytes kept. -/
theorem rxCtrl_length_eq :
    (rxCtrl regs ctrl len att &&& spwtrw0PacketLength).toNat =
      min len.toNat regs.rxMaxLength := by
  have room : (rxLength regs len).toNat ≤
      (regs.rxl &&& spwrxlRxMaxLength).toNat := by
    rw [toNat_rxLength]
    exact Nat.min_le_right _ _
  rw [rxCtrl_length, toNat_and_packetLength room, toNat_rxLength]

/-- A flag tells of its packet exactly when it is due wherever it is found. -/
theorem flag_iff_of_eq_or
    {found due written : Bool}
    (flag : written = (found || due))
    {holds : Prop}
    (due_iff : due = true ↔ holds) :
    (written = true ↔ holds) ↔ (found = true → holds) := by
  subst flag
  rw [← due_iff]
  cases found <;> cases due <;> simp

/-- **Control word.**  The word written back tells of its packet exactly when no
status flag is left over from an earlier one. -/
theorem ctrlWordLaw_rxCtrl_iff (flags : att.Flags) :
    CtrlWordLaw regs ctrl len att (rxCtrl regs ctrl len att) ↔
      FreshFlags regs ctrl len att := by
  have flag : ∀ bit, 28 ≤ bit → bit < 32 → ∀ holds : Prop,
      (flagDue regs len att bit = true ↔ holds) →
      ((checkbit (rxCtrl regs ctrl len att) (1#32 <<< bit) = true ↔ holds) ↔
        (checkbit ctrl (1#32 <<< bit) = true → holds)) :=
    fun bit high within holds =>
      flag_iff_of_eq_or (checkbit_rxCtrl_flag flags high within)
  have truncated := flag 31 (by decide) (by decide) _ decide_eq_true_iff
  have dataCrc := flag 30 (by decide) (by decide) _ decide_eq_true_iff
  have headerCrc := flag 29 (by decide) (by decide) _ decide_eq_true_iff
  have eep := flag 28 (by decide) (by decide) _ decide_eq_true_iff
  constructor
  · intro law
    exact ⟨truncated.mp law.truncated, dataCrc.mp law.dataCrc,
      headerCrc.mp law.headerCrc, eep.mp law.eep⟩
  · intro fresh
    constructor
    · exact rxCtrl_length_eq
    · exact checkbit_clearbit_self (by decide)
    · exact checkbit_rxCtrl_IE regs ctrl len att
    · exact checkbit_rxCtrl_WR regs ctrl len att
    · exact truncated.mpr fresh.truncated
    · exact dataCrc.mpr fresh.dataCrc
    · exact headerCrc.mpr fresh.headerCrc
    · exact eep.mpr fresh.eep

end ControlWord

/-! ## Reception -/

/-- What the guest is promised of an incoming packet. -/
structure ReceptionLaw
    (core : Core)
    (data : Memory Uint8)
    (len : Uint32)
    (att : RecvAtt)
    (after : Core) : Prop where
  stored_iff : core.Stores data len after ↔
    checkbit core.regs.chn spwchnRE = true ∧
      (checkbit core.regs.ctr spwctrOPM = true ∨
        core.regs.ndr = (data 0).setWidth 32) ∧
      checkbit core.regs.chn spwchnRD = true ∧
      checkbit core.rxDesc.ctrl spwtrw0EN = true
  buffer : core.Stores data len after →
    after.host.ram.read core.rxDesc.addr.toNat
        (min len.toNat core.regs.rxMaxLength) =
      data.read 0 (min len.toNat core.regs.rxMaxLength)
  nothingElse : core.Stores data len after →
    Memory.SameOutside
      (fun cell =>
        (core.rxDesc.addr.toNat ≤ cell ∧
          cell < core.rxDesc.addr.toNat +
            min len.toNat core.regs.rxMaxLength) ∨
        (core.regs.rxd.toNat ≤ cell ∧ cell < core.regs.rxd.toNat + 4))
      core.host.ram after.host.ram
  ctrlWord : core.Stores data len after →
    CtrlWordLaw core.regs core.rxDesc.ctrl len att
      (ramWord after.host.ram core.regs.rxd.toNat)
  unchanged : ¬core.Stores data len after → after.host.ram = core.host.ram

namespace Core

/-- The buffer of the descriptor SPWRXD points to lies apart from the
descriptor. -/
def BufferApart (core : Core) (len : Uint32) : Prop :=
  core.rxDesc.addr.toNat + min len.toNat core.regs.rxMaxLength ≤
      core.regs.rxd.toNat ∨
    core.regs.rxd.toNat + 8 ≤ core.rxDesc.addr.toNat

/-- The descriptor a packet looks at has its entry in the scratch array, and the
descriptor it is stored through has no status flag left that is not its own. -/
structure ReceivesCleanly
    (layout : Layout)
    (core : Core)
    (data : Memory Uint8)
    (len : Uint32)
    (att : RecvAtt) : Prop where
  within : rxAccepts core.regs data = true →
    checkbit core.regs.chn spwchnRD = true →
      layout.Admits core.device.rxdCur nbRxDescriptor
  fresh : core.rxStoring data = true →
    FreshFlags core.regs core.rxDesc.ctrl len att

variable
  {layout : Layout}
  {core after : Core}
  {data : Memory Uint8}
  {len : Uint32}
  {att : RecvAtt}

/-- The receiver stores under the four documented conditions. -/
theorem rxStoring_eq_true_iff :
    core.rxStoring data = true ↔
      checkbit core.regs.chn spwchnRE = true ∧
        (checkbit core.regs.ctr spwctrOPM = true ∨
          core.regs.ndr = (data 0).setWidth 32) ∧
        checkbit core.regs.chn spwchnRD = true ∧
        checkbit core.rxDesc.ctrl spwtrw0EN = true := by
  rw [rxStoring, Bool.and_eq_true, Bool.and_eq_true, rxAccepts_eq_true_iff,
    and_assoc, and_assoc]

/-- The buffer of a packet stored holds the bytes kept of it. -/
theorem rxStored_buffer (apart : core.BufferApart len) :
    (core.rxStored data len att).host.ram.read core.rxDesc.addr.toNat
        (min len.toNat core.regs.rxMaxLength) =
      data.read 0 (min len.toNat core.regs.rxMaxLength) := by
  have copied := Memory.read_write_same core.host.ram core.rxDesc.addr.toNat
    (data.read 0 (min len.toNat core.regs.rxMaxLength))
  have elsewhere : core.rxDesc.addr.toNat +
        min len.toNat core.regs.rxMaxLength ≤ core.regs.rxd.toNat ∨
      core.regs.rxd.toNat + 4 ≤ core.rxDesc.addr.toNat :=
    apart.imp_right fun behind => by omega
  rw [Memory.length_read] at copied
  rw [rxStored_ram, Memory.read_write_of_disjoint _ _ _ _ _ elsewhere,
    rxPayloadRam, toNat_rxLength, copied]

/-- A packet stored leaves all but its buffer and its control word alone. -/
theorem rxStored_sameOutside :
    Memory.SameOutside
      (fun cell =>
        (core.rxDesc.addr.toNat ≤ cell ∧
          cell < core.rxDesc.addr.toNat +
            min len.toNat core.regs.rxMaxLength) ∨
        (core.regs.rxd.toNat ≤ cell ∧ cell < core.regs.rxd.toNat + 4))
      core.host.ram (core.rxStored data len att).host.ram := by
  have payload := Memory.sameOutside_write core.host.ram
    core.rxDesc.addr.toNat (data.read 0 (rxLength core.regs len).toNat)
  rw [Memory.length_read, toNat_rxLength] at payload
  rw [rxStored_ram, rxPayloadRam, toNat_rxLength]
  refine (payload.mono fun cell => Or.inl).trans ?_
  exact (Memory.sameOutside_write _ _ _).mono fun cell => Or.inr

/-- What a call leaves keeps its promises exactly when no status flag is left
over in a descriptor it stores through. -/
theorem receptionLaw_of_returns
    (flags : att.Flags)
    (apart : core.BufferApart len)
    (returns : rxenable layout core data len att = .ok after) :
    ReceptionLaw core data len att after ↔
      (core.rxStoring data = true →
        FreshFlags core.regs core.rxDesc.ctrl len att) := by
  have stores_iff := stores_iff_rxStoring returns
  have stored : core.rxStoring data = true →
      after = core.rxStored data len att := by
    intro storing
    have admits := admits_of_rxStoring storing returns
    rw [rxenable_of_rxStoring len att admits storing] at returns
    exact (Except.ok.inj returns).symm
  have written : core.rxStoring data = true →
      ramWord after.host.ram core.regs.rxd.toNat =
        rxCtrl core.regs core.rxDesc.ctrl len att := by
    intro storing
    rw [stored storing, ramWord_rxStored]
    rfl
  constructor
  · intro law storing
    have word := law.ctrlWord (stores_iff.mpr storing)
    rw [written storing] at word
    exact (ctrlWordLaw_rxCtrl_iff flags).mp word
  · intro fresh
    constructor
    · rw [stores_iff, rxStoring_eq_true_iff]
    · intro stores
      rw [stored (stores_iff.mp stores)]
      exact rxStored_buffer apart
    · intro stores
      rw [stored (stores_iff.mp stores)]
      exact rxStored_sameOutside
    · intro stores
      have storing := stores_iff.mp stores
      rw [written storing]
      exact (ctrlWordLaw_rxCtrl_iff flags).mpr (fresh storing)
    · exact ram_of_not_stores returns

end Core

/-- **Reception.**  For every device, guest RAM and packet, the receive call
keeps its promises exactly when no status flag of an earlier packet is left in a
descriptor it stores through and a descriptor it looks at has its entry in the
scratch array. -/
theorem receptionLaw_iff
    (layout : Layout)
    (core : Core)
    (data : Memory Uint8)
    (len : Uint32)
    (att : RecvAtt)
    (flags : att.Flags)
    (apart : core.BufferApart len) :
    (∃ after, rxenable layout core data len att = .ok after ∧
      ReceptionLaw core data len att after) ↔
      core.ReceivesCleanly layout data len att := by
  constructor
  · rintro ⟨after, returns, law⟩
    exact ⟨Core.rxenable_returns_iff.mp ⟨after, returns⟩,
      (Core.receptionLaw_of_returns flags apart returns).mp law⟩
  · rintro ⟨within, fresh⟩
    obtain ⟨after, returns⟩ := (@Core.rxenable_returns_iff layout core data len
      att).mpr within
    exact ⟨after, returns,
      (Core.receptionLaw_of_returns flags apart returns).mpr fresh⟩

/-- A receiver with a given SPWCHN, over guest RAM whose descriptors all have one
control byte and buffer address. -/
def receivingCore (chn : Uint32) (ctrlByte : Uint8) : Core where
  device :=
    { initDevice 0 with
      grspwReg :=
        { (initDevice 0).grspwReg with chn := chn, rxl := 0x40 } }
  host :=
    { ram := fun addr =>
        if addr % 8 = 0 then ctrlByte else if 4 ≤ addr % 8 then 1 else 0
      txbuffer := fun _ => 0
      spwq := []
      log := [] }

/-- A packet stored through a descriptor without status flags. -/
theorem receptionLaw_of_clean_descriptor :
    ∃ after, rxenable .packed
        (receivingCore (spwchnRE ||| spwchnRD) 0x02) (fun _ => 254) 5
        ⟨1, 0, 0⟩ = .ok after ∧
      ReceptionLaw (receivingCore (spwchnRE ||| spwchnRD) 0x02)
        (fun _ => 254) 5 ⟨1, 0, 0⟩ after :=
  (receptionLaw_iff .packed _ (fun _ => 254) 5 ⟨1, 0, 0⟩
    ⟨by decide, by decide, by decide⟩ (by
      unfold Core.BufferApart
      decide)).mpr
    ⟨by decide, fun _ => ⟨by decide, by decide, by decide, by decide⟩⟩

/-- The truncation flag of an earlier packet stays in the control word of a
packet that was not truncated. -/
theorem not_receptionLaw_of_stale_flag :
    ¬∀ (layout : Layout) (core : Core) (data : Memory Uint8) (len : Uint32)
      (att : RecvAtt),
      1 ≤ len.toNat → att.Flags → core.BufferApart len →
        layout.Admits core.device.rxdCur nbRxDescriptor →
        ∃ after, rxenable layout core data len att = .ok after ∧
          ReceptionLaw core data len att after := by
  intro all
  have storing : (receivingCore (spwchnRE ||| spwchnRD) 0x82).rxStoring
      (fun _ => 254) = true := by decide
  obtain ⟨after, returns, law⟩ := all .packed
    (receivingCore (spwchnRE ||| spwchnRD) 0x82) (fun _ => 254) 1 ⟨0, 0, 0⟩
    (by decide) ⟨by decide, by decide, by decide⟩ (by
      unfold Core.BufferApart
      decide) (by decide)
  have fresh := (Core.receptionLaw_of_returns ⟨by decide, by decide, by decide⟩
    (by
      unfold Core.BufferApart
      decide) returns).mp law storing
  exact absurd (fresh.truncated (by decide)) (by decide)

/-! ## Reports of discarded packets -/

/-- A packet has one outcome: one report if it passed the checks, was not stored
and may not wait, and no report otherwise. -/
structure DiscardLaw
    (core : Core)
    (data : Memory Uint8)
    (len : Uint32)
    (after : Core) : Prop where
  once : rxAccepts core.regs data = true → ¬core.Stores data len after →
    checkbit core.regs.chn spwchnNS = false →
      after.host.discards = core.host.discards + 1
  stored : core.Stores data len after →
    after.host.discards = core.host.discards
  noSpill : checkbit core.regs.chn spwchnNS = true →
    after.host.discards = core.host.discards
  refused : rxAccepts core.regs data = false →
    after.host.discards = core.host.discards

/-- A packet that passes the checks while descriptors are available is not
discarded, and its descriptor has its entry in the scratch array. -/
def Core.ReportsOnce
    (layout : Layout)
    (core : Core)
    (data : Memory Uint8) : Prop :=
  rxAccepts core.regs data = true → checkbit core.regs.chn spwchnRD = true →
    checkbit core.regs.chn spwchnNS = true ∧
      layout.Admits core.device.rxdCur nbRxDescriptor

/-- What a call reports is as promised exactly when No Spill is set wherever it
looks at a descriptor. -/
theorem Core.discardLaw_of_returns
    {layout : Layout}
    {core after : Core}
    {data : Memory Uint8}
    {len : Uint32}
    {att : RecvAtt}
    (returns : rxenable layout core data len att = .ok after) :
    DiscardLaw core data len after ↔
      (rxAccepts core.regs data = true →
        checkbit core.regs.chn spwchnRD = true →
          checkbit core.regs.chn spwchnNS = true) := by
  have stores_iff := stores_iff_rxStoring returns
  unfold rxStoring at stores_iff
  obtain ⟨refused, rfl⟩ | ⟨accepts, unavailable, rfl⟩ |
    ⟨fetches, unarmed, rfl⟩ | ⟨fetches, armed, rfl⟩ := rxenable_cases returns
  · refine iff_of_true ⟨?_, fun _ => rfl, fun _ => rfl, fun _ => rfl⟩ ?_
    · simp [refused]
    · simp [refused]
  · have notStored : ¬core.Stores data len core.rxDropped := by
      simp [stores_iff, unavailable]
    refine iff_of_true ⟨?_, ?_, ?_, ?_⟩ (by simp [unavailable])
    · intro _ _ mayNotWait
      simp [rxDropped_discards, mayNotWait]
    · intro stores
      exact absurd stores notStored
    · intro noSpill
      simp [rxDropped_discards, noSpill]
    · simp [accepts]
  · have notStored : ¬core.Stores data len core.rxRefused := by
      simp [stores_iff, unarmed]
    simp only [fetches.accepts, fetches.available, true_implies]
    constructor
    · intro law
      by_contra mayNotWait
      have reported := law.once fetches.accepts notStored
        (Bool.eq_false_iff.mpr mayNotWait)
      rw [rxRefused_discards, if_neg mayNotWait] at reported
      omega
    · intro noSpill
      have silent : core.rxRefused.host.discards = core.host.discards := by
        simp [rxRefused_discards, noSpill]
      refine ⟨?_, fun _ => silent, fun _ => silent, fun _ => silent⟩
      simp [noSpill]
  · simp only [fetches.accepts, fetches.available, true_implies]
    constructor
    · intro law
      by_contra mayNotWait
      have reported := law.stored stores_rxStored
      rw [rxStored_discards, if_neg mayNotWait] at reported
      omega
    · intro noSpill
      have silent : (core.rxStored data len att).host.discards =
          core.host.discards := by
        simp [rxStored_discards, noSpill]
      refine ⟨?_, fun _ => silent, fun _ => silent, fun _ => silent⟩
      simp [noSpill]

/-- **One outcome.**  For every device, guest RAM and packet, the receive call
reports a discarded packet once and no other packet exactly when it looks at no
descriptor unless No Spill is set. -/
theorem discardLaw_iff
    (layout : Layout)
    (core : Core)
    (data : Memory Uint8)
    (len : Uint32)
    (att : RecvAtt) :
    (∃ after, rxenable layout core data len att = .ok after ∧
      DiscardLaw core data len after) ↔
      core.ReportsOnce layout data := by
  constructor
  · rintro ⟨after, returns, law⟩ accepts available
    exact ⟨(Core.discardLaw_of_returns returns).mp law accepts available,
      Core.rxenable_returns_iff.mp ⟨after, returns⟩ accepts available⟩
  · intro reports
    obtain ⟨after, returns⟩ := (@Core.rxenable_returns_iff layout core data len
      att).mpr fun accepts available => (reports accepts available).2
    exact ⟨after, returns, (Core.discardLaw_of_returns returns).mpr
      fun accepts available => (reports accepts available).1⟩

/-- A packet stored while No Spill is clear is reported as discarded. -/
theorem not_discardLaw_of_stored :
    ¬∀ (layout : Layout) (core : Core) (data : Memory Uint8) (len : Uint32)
      (att : RecvAtt),
      layout.Admits core.device.rxdCur nbRxDescriptor →
        ∃ after, rxenable layout core data len att = .ok after ∧
          DiscardLaw core data len after := by
  intro all
  obtain ⟨after, returns, law⟩ := all .packed
    (receivingCore (spwchnRE ||| spwchnRD) 0x02) (fun _ => 254) 1 ⟨0, 0, 0⟩
    (by decide)
  have noSpill := (Core.discardLaw_of_returns returns).mp law (by decide)
    (by decide)
  exact absurd noSpill (by decide)

end Grspw
