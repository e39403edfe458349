import Grspw.Footprint

/-!
# Packets known in part

What a receive step does with a packet of which some bytes are known and the
attributes are not.  What the guest can tell afterwards is fixed by the known
bytes under exact conditions: the address check is decided, and a packet stored
shows neither an unknown byte nor the attributes.
-/

namespace Grspw

/-- What a guest can tell of a core: its device, guest RAM and interrupts. -/
def Core.visible (core : Core) : Device × Memory Uint8 × (GrspwId → Nat) :=
  (core.device, core.host.ram, core.host.pulses)

/-- What a guest can tell of a call: the state it leaves or its fault. -/
def outcome (result : Except Fault Core) :
    Except Fault (Device × Memory Uint8 × (GrspwId → Nat)) :=
  result.map Core.visible

theorem outcome_ok_eq_outcome_ok
    {core core' : Core} :
    outcome (.ok core) = outcome (.ok core') ↔ core.visible = core'.visible := by
  simp [outcome, Except.map]

/-- Two calls return and show the same.  A call that leaves its arrays shows
nothing that is defined. -/
def ReturnSame {α : Type} (result result' : Except Fault α) : Prop :=
  ∃ shown, result = .ok shown ∧ result' = .ok shown

theorem returnSame_self {α : Type} (shown : α) :
    ReturnSame (.ok shown) (.ok shown) :=
  ⟨shown, rfl, rfl⟩

theorem returnSame_outcome_ok
    {core core' : Core} :
    ReturnSame (outcome (.ok core)) (outcome (.ok core')) ↔
      core.visible = core'.visible := by
  constructor
  · rintro ⟨shown, left, right⟩
    rw [← outcome_ok_eq_outcome_ok, left, right]
  · intro same
    rw [outcome_ok_eq_outcome_ok.mpr same]
    exact returnSame_self _

/-! ## The address check -/

/-- Every packet with the known bytes passes the checks. -/
def SurelyAccepted (regs : Regs) (known : Nat → Option Uint8) : Prop :=
  checkbit regs.chn spwchnRE = true ∧
    (checkbit regs.ctr spwctrOPM = true ∨
      ∃ nodeAddr ∈ known 0, regs.ndr = nodeAddr.setWidth 32)

/-- No packet with the known bytes passes the checks. -/
def SurelyRefused (regs : Regs) (known : Nat → Option Uint8) : Prop :=
  checkbit regs.chn spwchnRE = false ∨
    (checkbit regs.ctr spwctrOPM = false ∧
      ∀ nodeAddr : Uint8, (known 0).getD nodeAddr = nodeAddr →
        regs.ndr ≠ nodeAddr.setWidth 32)

section AddressCheck

variable {regs : Regs} {known : Nat → Option Uint8}

theorem rxAccepts_eq_true_iff {data : Memory Uint8} :
    rxAccepts regs data = true ↔
      checkbit regs.chn spwchnRE = true ∧
        (checkbit regs.ctr spwctrOPM = true ∨
          regs.ndr = (data 0).setWidth 32) := by
  simp [rxAccepts]

/-- The first byte of a completion is a byte it may have. -/
theorem getD_first_of_completes
    {data : Memory Uint8}
    (completes : Memory.Completes known data) :
    (known 0).getD (data 0) = data 0 := by
  cases first : known 0 with
  | none => rfl
  | some nodeAddr =>
      rw [Option.getD_some, completes 0 nodeAddr first]

theorem surelyAccepted_iff :
    SurelyAccepted regs known ↔
      ∀ data, Memory.Completes known data → rxAccepts regs data = true := by
  constructor
  · rintro ⟨enabled, accepts⟩ data completes
    rw [rxAccepts_eq_true_iff]
    refine ⟨enabled, accepts.imp_right ?_⟩
    rintro ⟨nodeAddr, isKnown, matched⟩
    rw [completes 0 nodeAddr isKnown, matched]
  · intro all
    have zero := rxAccepts_eq_true_iff.mp (all _ (Memory.completes_fill known 0))
    have one := rxAccepts_eq_true_iff.mp (all _ (Memory.completes_fill known 1))
    refine ⟨zero.1, ?_⟩
    cases first : known 0 with
    | some nodeAddr =>
        refine zero.2.imp_right fun matched => ⟨nodeAddr, rfl, ?_⟩
        rw [matched, Memory.fill, first, Option.getD_some]
    | none =>
        rw [Memory.fill_of_eq_none first] at zero one
        obtain promiscuous | matchedZero := zero.2
        · exact Or.inl promiscuous
        · refine one.2.imp_right fun matchedOne => ?_
          rw [matchedZero] at matchedOne
          exact absurd matchedOne (by decide)

theorem surelyRefused_iff :
    SurelyRefused regs known ↔
      ∀ data, Memory.Completes known data → rxAccepts regs data = false := by
  constructor
  · intro refused data completes
    rw [← Bool.not_eq_true, rxAccepts_eq_true_iff]
    rintro ⟨enabled, accepts⟩
    obtain disabled | ⟨selective, differs⟩ := refused
    · rw [enabled] at disabled
      cases disabled
    · obtain promiscuous | matched := accepts
      · rw [selective] at promiscuous
        cases promiscuous
      · exact differs (data 0) (getD_first_of_completes completes) matched
  · intro all
    have refuses : ∀ nodeAddr : Uint8, (known 0).getD nodeAddr = nodeAddr →
        ¬(checkbit regs.chn spwchnRE = true ∧
          (checkbit regs.ctr spwctrOPM = true ∨
            regs.ndr = nodeAddr.setWidth 32)) := by
      intro nodeAddr possible accepts
      have refused := all _ (Memory.completes_fill known nodeAddr)
      rw [← Bool.not_eq_true, rxAccepts_eq_true_iff, Memory.fill,
        possible] at refused
      exact refused accepts
    cases enabled : checkbit regs.chn spwchnRE with
    | false => exact Or.inl enabled
    | true =>
        right
        have some := refuses ((known 0).getD 0) (by cases known 0 <;> rfl)
        simp only [enabled, true_and, not_or, Bool.not_eq_true] at some refuses
        exact ⟨some.1, fun nodeAddr possible => (refuses nodeAddr possible).2⟩

end AddressCheck

/-! ## The attributes in the control word -/

/-- The four flags of a control word that tell of the packet. -/
def rxFlags : Uint32 :=
  spwtrw0TR ||| spwtrw0DC ||| spwtrw0HC ||| spwtrw0EP

/-- The control word with its truncation flag, before the attributes. -/
def Core.rxTruncated (core : Core) (len : Uint32) : Uint32 :=
  setbit core.rxDesc.ctrl
    ((if core.regs.rxl &&& spwrxlRxMaxLength < len then 1 else 0) * spwtrw0TR)

/-- Setting bits that are set changes nothing. -/
theorem setbit_eq_self
    {reg mask set : Uint32}
    (isSet : checkbit reg mask = true)
    (within : set &&& ~~~mask = 0) :
    setbit reg set = reg := by
  have masked : mask = reg &&& mask := by simpa [checkbit] using isSet
  apply BitVec.eq_of_getLsbD_eq
  intro i bound
  have inMask := congrArg (fun word => word.getLsbD i) masked
  have inSet := congrArg (fun word => word.getLsbD i) within
  simp only [BitVec.getLsbD_and, BitVec.getLsbD_not, bound, decide_true,
    Bool.true_and, BitVec.ofNat_eq_ofNat, BitVec.getLsbD_zero] at inMask inSet
  simp only [setbit, BitVec.getLsbD_or]
  revert inMask inSet
  cases reg.getLsbD i <;> cases mask.getLsbD i <;> cases set.getLsbD i <;>
    simp

/-- Whatever an attribute is, it only reaches the flags. -/
theorem attribute_within_rxFlags
    (value : Uint32)
    {bit : Nat}
    (high : 28 ≤ bit) :
    value * (1#32 <<< bit) &&& ~~~rxFlags = 0 := by
  have flags : rxFlags = Word.ones 4 <<< 28 := by decide
  apply BitVec.eq_of_getLsbD_eq
  intro i bound
  rw [flags, ← BitVec.twoPow_eq 32 bit, BitVec.mul_twoPow_eq_shiftLeft,
    BitVec.getLsbD_and, BitVec.getLsbD_shiftLeft, BitVec.getLsbD_not,
    BitVec.getLsbD_shiftLeft, Word.getLsbD_ones _ _ (by decide)]
  by_cases below : i < bit
  · simp [below]
  · have above : 28 ≤ i := by omega
    have top : i - 28 < 4 := by omega
    simp [bound, top, Nat.not_lt.mpr above]

section ControlWord

variable {core : Core} {len : Uint32}

/-- Only the flags set tell one control word of a packet from another. -/
theorem checkbit_rxCtrl_rxFlags (core : Core) (len : Uint32) (att : RecvAtt) :
    checkbit (rxCtrl core.regs core.rxDesc.ctrl len att) rxFlags =
      checkbit
        (setbit
          (setbit (setbit (core.rxTruncated len) (att.dc * spwtrw0DC))
            (att.hc * spwtrw0HC))
          (att.ep * spwtrw0EP))
        rxFlags := by
  unfold rxCtrl
  rw [checkbit_clearbit_of_disjoint (by decide),
    checkbit_deposit_of_disjoint (by decide)]
  rfl

/-- With all flags set the attributes make no difference. -/
theorem rxCtrl_eq_of_rxFlags
    (flags : checkbit (core.rxTruncated len) rxFlags = true)
    (att att' : RecvAtt) :
    rxCtrl core.regs core.rxDesc.ctrl len att =
      rxCtrl core.regs core.rxDesc.ctrl len att' := by
  have kept : ∀ att : RecvAtt,
      setbit
        (setbit (setbit (core.rxTruncated len) (att.dc * spwtrw0DC))
          (att.hc * spwtrw0HC))
        (att.ep * spwtrw0EP) = core.rxTruncated len := by
    intro att
    have dc : setbit (core.rxTruncated len) (att.dc * spwtrw0DC) =
        core.rxTruncated len :=
      setbit_eq_self flags (attribute_within_rxFlags att.dc (by decide))
    have hc : setbit (core.rxTruncated len) (att.hc * spwtrw0HC) =
        core.rxTruncated len :=
      setbit_eq_self flags (attribute_within_rxFlags att.hc (by decide))
    have ep : setbit (core.rxTruncated len) (att.ep * spwtrw0EP) =
        core.rxTruncated len :=
      setbit_eq_self flags (attribute_within_rxFlags att.ep (by decide))
    rw [dc, hc, ep]
  have image : ∀ att : RecvAtt,
      rxCtrl core.regs core.rxDesc.ctrl len att =
        clearbit (deposit (core.rxTruncated len) spwtrw0PacketLength
          (rxLength core.regs len)) spwtrw0EN := by
    intro att
    rw [← kept att]
    rfl
  rw [image att, image att']

/-- Control words that do not depend on the attributes have all flags set. -/
theorem rxFlags_of_rxCtrl_eq
    (same : rxCtrl core.regs core.rxDesc.ctrl len ⟨0, 0, 0⟩ =
      rxCtrl core.regs core.rxDesc.ctrl len ⟨0, 0, 15⟩) :
    checkbit (core.rxTruncated len) rxFlags = true := by
  have all : (15 : Uint32) * spwtrw0EP = rxFlags := by decide
  have tested := congrArg (fun word => checkbit word rxFlags) same
  simp only [checkbit_rxCtrl_rxFlags, all, checkbit_setbit_self] at tested
  simpa [setbit] using tested

end ControlWord

/-! ## A packet stored -/

/-- Storing a packet shows nothing but its known bytes: all flags and the EEP
status are set anyway, and the control word covers every unknown byte. -/
structure StoreDetermined
    (core : Core)
    (known : Nat → Option Uint8)
    (len : Uint32) : Prop where
  flags : checkbit (core.rxTruncated len) rxFlags = true
  eep : checkbit core.regs.str spwstrEE = true
  covered : ∀ offset < (rxLength core.regs len).toNat, known offset = none →
    core.regs.rxd.toNat ≤ core.rxDesc.addr.toNat + offset ∧
      core.rxDesc.addr.toNat + offset < core.regs.rxd.toNat + 4

section Stored

variable
  {core : Core}
  {known : Nat → Option Uint8}
  {data data' : Memory Uint8}
  {len : Uint32}
  {att att' : RecvAtt}

/-- A byte of the payload that the control word does not cover. -/
theorem rxStored_ram_payload
    {offset : Nat}
    (within : offset < (rxLength core.regs len).toNat)
    (apart : ¬(core.regs.rxd.toNat ≤ core.rxDesc.addr.toNat + offset ∧
      core.rxDesc.addr.toNat + offset < core.regs.rxd.toNat + 4)) :
    (core.rxStored data len att).host.ram
        (core.rxDesc.addr.toNat + offset) = data offset := by
  have bound : offset <
      (data.read 0 (rxLength core.regs len).toNat).length := by
    simpa using within
  rw [Core.rxStored_ram, Memory.write_apply_of_outside _ _ _ _ (by
      rw [length_ramBytes]
      omega), Core.rxPayloadRam, Memory.write_apply_add _ _ _ offset bound]
  simp [Memory.read]

/-- The interrupts of a packet stored are those of its descriptor. -/
theorem rxStored_pulses (core : Core) (data : Memory Uint8) (len : Uint32)
    (att : RecvAtt) :
    (core.rxStored data len att).host.pulses =
      if core.rxInterrupts then
        (core.host.emit (.irqPulse core.device.grspwId)).pulses
      else core.host.pulses := by
  funext grspwId
  rw [Core.rxStored_host, Host.pulses_discard]
  unfold Core.rxHost
  by_cases truncates : core.regs.rxl &&& spwrxlRxMaxLength < len
  · cases core.rxInterrupts <;> simp [truncates, Host.pulses]
  · cases core.rxInterrupts <;> simp [truncates, Host.pulses]

/-- Packets with one control word and one EEP status leave one device. -/
theorem rxStored_device_congr
    (sameCtrl : rxCtrl core.regs core.rxDesc.ctrl len att =
      rxCtrl core.regs core.rxDesc.ctrl len att')
    (eep : checkbit core.regs.str spwstrEE = true) :
    (core.rxStored data len att).device =
      (core.rxStored data' len att').device := by
  have kept : ∀ att : RecvAtt,
      (if att.ep ≠ 0 then setbit core.regs.str spwstrEE else core.regs.str) =
        core.regs.str := by
    intro att
    have same : setbit core.regs.str spwstrEE = core.regs.str :=
      setbit_eq_self eep (by decide)
    rw [same, ite_self]
  have image : ∀ (data : Memory Uint8) (att : RecvAtt),
      (core.rxStored data len att).device =
        { core.device with
          grspwReg := core.rxRegs att
          rxdMap := Function.update core.rxFetched.rxdMap
            core.device.rxdCur.toNat
            { core.rxDesc with
              ctrl := rxCtrl core.regs core.rxDesc.ctrl len att }
          rxdCur := core.rxNext } := by
    intro data att
    simp only [Core.rxStored, rxStore, Core.rxFetched, Function.update_self,
      checkbit_rxCtrl_WR, Core.rxRegs, Core.rxNext]
  rw [image data att, image data' att', sameCtrl, Core.rxRegs, Core.rxRegs,
    kept att, kept att']

/-- Packets that agree where the control word does not reach leave one RAM. -/
theorem rxStored_ram_congr
    (sameCtrl : rxCtrl core.regs core.rxDesc.ctrl len att =
      rxCtrl core.regs core.rxDesc.ctrl len att')
    (agree : ∀ offset < (rxLength core.regs len).toNat,
      ¬(core.regs.rxd.toNat ≤ core.rxDesc.addr.toNat + offset ∧
        core.rxDesc.addr.toNat + offset < core.regs.rxd.toNat + 4) →
      data offset = data' offset) :
    (core.rxStored data len att).host.ram =
      (core.rxStored data' len att').host.ram := by
  funext cell
  by_cases covered : core.regs.rxd.toNat ≤ cell ∧
      cell < core.regs.rxd.toNat + 4
  · obtain ⟨offset, rfl⟩ := Nat.exists_eq_add_of_le covered.1
    have within : ∀ ctrl, offset < (ramBytes ctrl).length := by
      intro ctrl
      rw [length_ramBytes]
      omega
    simp only [Core.rxStored_ram, sameCtrl]
    rw [Memory.write_apply_add _ _ _ _ (within _),
      Memory.write_apply_add _ _ _ _ (within _)]
  · by_cases payload : core.rxDesc.addr.toNat ≤ cell ∧
        cell < core.rxDesc.addr.toNat + (rxLength core.regs len).toNat
    · obtain ⟨offset, rfl⟩ := Nat.exists_eq_add_of_le payload.1
      rw [rxStored_ram_payload (by omega) covered,
        rxStored_ram_payload (by omega) covered]
      exact agree offset (by omega) covered
    · have kept : ∀ (data : Memory Uint8) (att : RecvAtt),
          (core.rxStored data len att).host.ram cell =
            core.host.ram cell := by
        intro data att
        rw [Core.rxStored_ram, Core.rxPayloadRam,
          Memory.write_apply_of_outside _ _ _ _ (by
            rw [length_ramBytes]
            omega),
          Memory.write_apply_of_outside _ _ _ _ (by
            rw [Memory.length_read]
            omega)]
      rw [kept data att, kept data' att']

/-- What is left of a packet stored depends on its known bytes alone exactly
when the rest of it does not show. -/
theorem rxStored_visible_iff :
    (∀ data data' att att', Memory.Completes known data →
      Memory.Completes known data' →
      (core.rxStored data len att).visible =
        (core.rxStored data' len att').visible) ↔
      StoreDetermined core known len := by
  constructor
  · intro same
    have flagged := same _ _ ⟨0, 0, 0⟩ ⟨0, 0, 15⟩
      (Memory.completes_fill known 0) (Memory.completes_fill known 0)
    simp only [Core.visible, Prod.mk.injEq] at flagged
    obtain ⟨device, ram, _⟩ := flagged
    constructor
    · have ctrl := congrArg
        (fun ram => ramWord ram core.regs.rxd.toNat) ram
      simp only [Core.ramWord_rxStored] at ctrl
      exact rxFlags_of_rxCtrl_eq ctrl
    · have str := congrArg (fun device => device.grspwReg.str) device
      have stored : core.regs.str = setbit core.regs.str spwstrEE := str
      rw [stored]
      exact checkbit_setbit_self core.regs.str spwstrEE
    · intro offset within unknown
      by_contra apart
      have filled := same _ _ ⟨0, 0, 0⟩ ⟨0, 0, 0⟩
        (Memory.completes_fill known 0) (Memory.completes_fill known 1)
      simp only [Core.visible, Prod.mk.injEq] at filled
      have cell := congrFun filled.2.1 (core.rxDesc.addr.toNat + offset)
      rw [rxStored_ram_payload within apart, rxStored_ram_payload within apart,
        Memory.fill_of_eq_none unknown, Memory.fill_of_eq_none unknown] at cell
      exact absurd cell (by decide)
  · intro determined data data' att att' completes completes'
    have sameCtrl := rxCtrl_eq_of_rxFlags determined.flags att att'
    have ram : (core.rxStored data len att).host.ram =
        (core.rxStored data' len att').host.ram := by
      apply rxStored_ram_congr sameCtrl
      intro offset within apart
      apply completes.eq_of_ne_none completes'
      exact fun unknown => apart (determined.covered offset within unknown)
    unfold Core.visible
    rw [rxStored_device_congr sameCtrl determined.eep, ram, rxStored_pulses,
      rxStored_pulses]

end Stored

/-! ## A packet received -/

/-- A packet is refused or dropped whatever its unknown bytes are, or sure to be
accepted through a descriptor in the table and then not stored, or stored without
showing them. -/
def DataDetermined
    (layout : Layout)
    (core : Core)
    (known : Nat → Option Uint8)
    (len : Uint32) : Prop :=
  SurelyRefused core.regs known ∨ checkbit core.regs.chn spwchnRD = false ∨
    (SurelyAccepted core.regs known ∧
      layout.Admits core.device.rxdCur nbRxDescriptor ∧
        (checkbit core.rxDesc.ctrl spwtrw0EN = false ∨
          StoreDetermined core known len))

section Received

variable
  {layout : Layout}
  {core : Core}
  {known : Nat → Option Uint8}
  {data : Memory Uint8}
  {len : Uint32}
  {att : RecvAtt}

theorem visible_rxDropped (core : Core) : core.rxDropped.visible = core.visible := by
  have pulses : (discard core.device core.host).pulses = core.host.pulses := by
    funext grspwId
    exact Host.pulses_discard core.host grspwId core.device
  rw [Core.visible, Core.rxDropped, discard_ram, pulses, Core.visible]

/-- A guest can tell a packet that went to its descriptor from one refused. -/
theorem outcome_accepted_ne
    (accepts : rxAccepts core.regs data = true)
    (available : checkbit core.regs.chn spwchnRD = true) :
    outcome (rxenable layout core data len att) ≠ .ok core.visible := by
  intro same
  by_cases admits : layout.Admits core.device.rxdCur nbRxDescriptor
  · have fetches : RxFetches layout core data := ⟨accepts, available, admits⟩
    cases armed : checkbit core.rxDesc.ctrl spwtrw0EN with
    | false =>
        rw [rxenable_disabled fetches armed] at same
        have left := outcome_ok_eq_outcome_ok.mp same
        have chn := congrArg (fun visible => visible.1.grspwReg.chn) left
        have cleared : clearbit core.regs.chn spwchnRD = core.regs.chn := chn
        rw [← cleared, checkbit_clearbit_self (by decide)] at available
        cases available
    | true =>
        rw [rxenable_stored fetches armed] at same
        have left := outcome_ok_eq_outcome_ok.mp same
        have word := congrArg
          (fun visible => ramWord visible.2.1 core.regs.rxd.toNat) left
        simp only [Core.visible, Core.ramWord_rxStored] at word
        have enabled : checkbit (ramWord core.host.ram core.regs.rxd.toNat)
          spwtrw0EN = true := armed
        rw [← word, rxCtrl, checkbit_clearbit_self (by decide)] at enabled
        cases enabled
  · rw [rxenable_outOfBounds accepts available admits] at same
    cases same

/-- Without descriptors available a packet leaves nothing a guest can tell. -/
theorem outcome_unavailable
    (unavailable : checkbit core.regs.chn spwchnRD = false)
    (data : Memory Uint8)
    (att : RecvAtt) :
    outcome (rxenable layout core data len att) = .ok core.visible := by
  cases accepts : rxAccepts core.regs data with
  | false =>
      rw [rxenable_refused accepts]
      rfl
  | true =>
      rw [rxenable_unavailable accepts unavailable, ← visible_rxDropped]
      rfl

/-- Every packet with the known bytes, over all attributes, returns, and what a
guest can tell of it is the same. -/
def OutcomeKnown
    (layout : Layout)
    (core : Core)
    (known : Nat → Option Uint8)
    (len : Uint32) : Prop :=
  ∀ data data' att att', Memory.Completes known data →
    Memory.Completes known data' →
    ReturnSame (outcome (rxenable layout core data len att))
      (outcome (rxenable layout core data' len att'))

/-- A packet sure to go to its descriptor. -/
theorem outcomeKnown_iff_of_accepted
    (accepted : SurelyAccepted core.regs known)
    (available : checkbit core.regs.chn spwchnRD = true) :
    OutcomeKnown layout core known len ↔
      layout.Admits core.device.rxdCur nbRxDescriptor ∧
        (checkbit core.rxDesc.ctrl spwtrw0EN = false ∨
          StoreDetermined core known len) := by
  have accepts := surelyAccepted_iff.mp accepted
  by_cases admits : layout.Admits core.device.rxdCur nbRxDescriptor
  · simp only [admits, true_and]
    have fetches : ∀ data, Memory.Completes known data →
        RxFetches layout core data :=
      fun data completes => ⟨accepts data completes, available, admits⟩
    cases armed : checkbit core.rxDesc.ctrl spwtrw0EN with
    | false =>
        simp only [true_or, iff_true]
        intro data data' att att' completes completes'
        rw [rxenable_disabled (fetches data completes) armed,
          rxenable_disabled (fetches data' completes') armed]
        exact returnSame_self _
    | true =>
        simp only [Bool.true_eq_false, false_or]
        rw [← rxStored_visible_iff]
        constructor
        · intro same data data' att att' completes completes'
          have equal := same data data' att att' completes completes'
          rw [rxenable_stored (fetches data completes) armed,
            rxenable_stored (fetches data' completes') armed] at equal
          exact returnSame_outcome_ok.mp equal
        · intro same data data' att att' completes completes'
          rw [rxenable_stored (fetches data completes) armed,
            rxenable_stored (fetches data' completes') armed]
          exact returnSame_outcome_ok.mpr
            (same data data' att att' completes completes')
  · -- the packet is taken through an entry that is none of the table
    simp only [admits, false_and, iff_false]
    intro same
    have filled := Memory.completes_fill known 0
    obtain ⟨shown, returns, _⟩ :=
      same _ _ ⟨0, 0, 0⟩ ⟨0, 0, 0⟩ filled filled
    rw [rxenable_outOfBounds (accepts _ filled) available admits] at returns
    cases returns

/-- A packet that may be accepted and may be refused. -/
theorem not_outcomeKnown_of_undecided
    (mayAccept : ¬SurelyRefused core.regs known)
    (mayRefuse : ¬SurelyAccepted core.regs known)
    (available : checkbit core.regs.chn spwchnRD = true) :
    ¬OutcomeKnown layout core known len := by
  intro same
  rw [surelyAccepted_iff] at mayRefuse
  rw [surelyRefused_iff] at mayAccept
  simp only [not_forall, Bool.not_eq_true] at mayRefuse
  simp only [not_forall, Bool.not_eq_false] at mayAccept
  obtain ⟨data, completes, refuses⟩ := mayRefuse
  obtain ⟨data', completes', accepts⟩ := mayAccept
  obtain ⟨shown, accepted, refused⟩ :=
    same data' data ⟨0, 0, 0⟩ ⟨0, 0, 0⟩ completes' completes
  rw [rxenable_refused refuses] at refused
  cases refused
  exact outcome_accepted_ne accepts available accepted

/-- What a guest can tell of a packet received depends on its known bytes alone
exactly when they determine it. -/
theorem outcomeKnown_iff :
    OutcomeKnown layout core known len ↔
      DataDetermined layout core known len := by
  unfold DataDetermined
  by_cases refused : SurelyRefused core.regs known
  · simp only [refused, true_or, iff_true]
    intro data data' att att' completes completes'
    have refuses := surelyRefused_iff.mp refused
    rw [rxenable_refused (refuses data completes),
      rxenable_refused (refuses data' completes')]
    exact returnSame_self _
  simp only [refused, false_or]
  cases available : checkbit core.regs.chn spwchnRD with
  | false =>
      simp only [true_or, iff_true]
      intro data data' att att' _ _
      rw [outcome_unavailable available data att,
        outcome_unavailable available data' att']
      exact returnSame_self _
  | true =>
      simp only [Bool.true_eq_false, false_or]
      by_cases accepted : SurelyAccepted core.regs known
      · simp only [accepted, true_and]
        exact outcomeKnown_iff_of_accepted accepted available
      · simp only [accepted, false_and, iff_false]
        exact not_outcomeKnown_of_undecided refused accepted available

/-! ## A time code received -/

/-- The time code is known, or none can be newer than SPWTIM. -/
def TimeDetermined (core : Core) (known : Nat → Option Uint8) : Prop :=
  known 0 ≠ none ∨ 255 ≤ core.regs.tim.toNat

/-- A guest can tell a newer time code from a stale one. -/
theorem visible_tickedOut_ne
    {timecode : Uint8}
    (newer : core.regs.tim < timecode.setWidth 32) :
    (core.tickedOut timecode).visible ≠ core.visible := by
  intro same
  have tim := congrArg (fun visible => visible.1.grspwReg.tim) same
  have overwritten : timecode.setWidth 32 = core.regs.tim := tim
  rw [overwritten] at newer
  exact absurd newer (BitVec.lt_irrefl _)

/-- What a guest can tell of a time code received depends on its known bytes
alone exactly when they determine it. -/
theorem rxtimecode_visible_iff :
    (∀ data data', Memory.Completes known data →
      Memory.Completes known data' →
      (rxtimecode core (data 0)).visible =
        (rxtimecode core (data' 0)).visible) ↔
      TimeDetermined core known := by
  unfold TimeDetermined
  constructor
  · intro same
    by_contra undecided
    simp only [not_or, ne_eq, Decidable.not_not, Nat.not_le] at undecided
    obtain ⟨unknown, older⟩ := undecided
    have equal := same _ _ (Memory.completes_fill known 0)
      (Memory.completes_fill known 255)
    rw [Memory.fill_of_eq_none unknown, Memory.fill_of_eq_none unknown] at equal
    have stale : ¬core.regs.tim < (0 : Uint8).setWidth 32 := by
      rw [BitVec.lt_def]
      simp
    have newer : core.regs.tim < (255 : Uint8).setWidth 32 := by
      rw [BitVec.lt_def]
      exact older
    rw [rxtimecode_stale stale, rxtimecode_newer newer] at equal
    exact visible_tickedOut_ne newer equal.symm
  · rintro determined data data' completes completes'
    obtain isKnown | latest := determined
    · rw [completes.eq_of_ne_none completes' isKnown]
    · have stale : ∀ timecode : Uint8,
          ¬core.regs.tim < timecode.setWidth 32 := by
        intro timecode
        have bound := timecode.isLt
        rw [BitVec.lt_def, BitVec.toNat_setWidth]
        omega
      rw [rxtimecode_stale (stale _), rxtimecode_stale (stale _)]

end Received

end Grspw
