import Grspw.Access
import Grspw.Rings

/-!
# What holds of the registers in every reachable state

Two invariants over all orders of calls on a core: the values each register and
ring position can take, and the agreement of the two link control bits with the
link state.  The first always holds; the second is lost exactly when a reset
that writes neither link bit meets a disabled link.
-/

namespace Grspw

/-! ## The values a register can take -/

/-- SPWCTR: reserved bits and the two self-clearing bits are 0, the read-only
bits tell whether the core has RMAP. -/
structure CtrFormed (grspwId : GrspwId) (ctr : Uint32) : Prop where
  reserved : ctr &&& spwctrReservedMask = 0
  resetClear : checkbit ctr spwctrRS = false
  tickClear : checkbit ctr spwctrTI = false
  readonly : ctr &&& spwctrReadonlyMask =
    if grspwId < 2 then 0 else 0xA0000000

/-- SPWSTR: a link state of reset or run and two event bits. -/
structure StrFormed (str : Uint32) : Prop where
  others : str &&& ~~~(spwstrLS ||| spwstrEE ||| spwstrTO) = 0
  linkState : str &&& spwstrLS = 0 ∨ str &&& spwstrLS = spwstrLSRUN

/-- SPWCHN: reserved bits and Abort TX are 0. -/
structure ChnFormed (chn : Uint32) : Prop where
  reserved : chn &&& spwchnReservedMask = 0
  abortClear : checkbit chn spwchnAT = false

/-- The registers apart from the two table registers. -/
structure RegsFormed (grspwId : GrspwId) (regs : Regs) : Prop where
  ctr : CtrFormed grspwId regs.ctr
  str : StrFormed regs.str
  ndr : regs.ndr ≤ 0xFF
  clk : regs.clk ≤ 0xFFFF
  key : regs.key ≤ 0xFF
  tim : regs.tim ≤ 0xFF
  tdr : regs.tdr ≤ 0x3FFFFF
  chn : ChnFormed regs.chn
  rxl : regs.rxl &&& ~~~0x1FFFFFC#32 = 0

/-- The state of a core: its registers and its two ring positions. -/
structure CoreFormed (grspwId : GrspwId) (core : Core) : Prop where
  grspwId_eq : core.device.grspwId = grspwId
  regs : RegsFormed grspwId core.regs
  txd : core.regs.txd &&& 0xF = 0
  rxd : core.regs.rxd &&& 0x7 = 0
  txdCur : core.device.txdCur < 64
  rxdCur : core.device.rxdCur < 128

/-! ## Single registers -/

/-- Bits under a mask stay clear when others are cleared. -/
theorem clearbit_and_eq_zero
    {reg mask : Uint32}
    (clear : reg &&& mask = 0)
    (cleared : Uint32) :
    clearbit reg cleared &&& mask = 0 := by
  rw [clearbit, BitVec.and_assoc, BitVec.and_comm (~~~cleared),
    ← BitVec.and_assoc, clear]
  simp

/-- A word masked by another is at most that one. -/
theorem and_le_of_mask
    {value mask bound : Uint32}
    (below : mask ≤ bound) :
    value &&& mask ≤ bound := by
  rw [BitVec.le_def, BitVec.toNat_and]
  exact Nat.le_trans Nat.and_le_right (BitVec.le_def.mp below)

namespace CtrFormed

/-- A write keeps SPWCTR well formed. -/
theorem ctrWritten
    {grspwId : GrspwId}
    {regs : Regs}
    (formed : CtrFormed grspwId regs.ctr)
    (value : Uint32) :
    CtrFormed grspwId (ctrWritten grspwId regs value).ctr where
  reserved := by
    rw [ctrWritten_ctr_and _ _ _ (by decide), formed.reserved]
    split_ifs <;> decide
  resetClear := checkbit_ctrWritten_RS _ _ _ formed.resetClear
  tickClear := checkbit_ctrWritten_TI _ _ _ formed.tickClear
  readonly := by
    rw [ctrWritten_ctr_and _ _ _ (by decide), formed.readonly]
    split_ifs <;> decide

end CtrFormed

namespace StrFormed

theorem zero : StrFormed 0 :=
  ⟨by decide, by decide⟩

/-- Setting an event bit keeps SPWSTR well formed. -/
theorem setbit
    {str set : Uint32}
    (formed : StrFormed str)
    (event : set = spwstrEE ∨ set = spwstrTO) :
    StrFormed (setbit str set) := by
  have outside : ~~~(spwstrLS ||| spwstrEE ||| spwstrTO) &&& set = 0 := by
    obtain rfl | rfl := event <;> decide
  have notLink : spwstrLS &&& set = 0 := by
    obtain rfl | rfl := event <;> decide
  constructor
  · rw [Grspw.setbit, Word.or_and_of_disjoint outside]
    exact formed.others
  · rw [Grspw.setbit, Word.or_and_of_disjoint notLink]
    exact formed.linkState

/-- Moving the link keeps SPWSTR well formed. -/
theorem deposit
    {str state : Uint32}
    (formed : StrFormed str)
    (known : state = 0 ∨ state = spwstrLSRUN) :
    StrFormed (deposit str spwstrLS state) := by
  constructor
  · have outside : ~~~(spwstrLS ||| spwstrEE ||| spwstrTO) &&&
        (state &&& spwstrLS) = 0 := by
      obtain rfl | rfl := known <;> decide
    rw [Grspw.deposit, Word.or_and_of_disjoint outside,
      Word.and_not_and_of_disjoint (by decide)]
    exact formed.others
  · rw [deposit_and_self]
    obtain rfl | rfl := known
    · exact Or.inl (by decide)
    · exact Or.inr (by decide)

/-- A write of SPWSTR keeps it well formed. -/
theorem writeStr
    {regs : Regs}
    (formed : StrFormed regs.str)
    (value : Uint32) :
    StrFormed (writeStr regs value).str := by
  constructor
  · exact writeStr_and_eq_zero formed.others value
  · rw [writeStr_linkState]
    exact formed.linkState

/-- A write of SPWCTR keeps SPWSTR well formed. -/
theorem ctrWritten
    {regs : Regs}
    (formed : StrFormed regs.str)
    (grspwId : GrspwId)
    (value : Uint32) :
    StrFormed (ctrWritten grspwId regs value).str := by
  have reset :
      StrFormed (if checkbit value spwctrRS then 0 else regs.str) := by
    split
    · exact zero
    · exact formed
  rw [ctrWritten_str]
  simp only
  have started : StrFormed
      (if checkbit value spwctrLS then
        Grspw.deposit (if checkbit value spwctrRS then 0 else regs.str)
          spwstrLS spwstrLSRUN
      else if checkbit value spwctrRS then 0 else regs.str) := by
    split
    · exact reset.deposit (Or.inr rfl)
    · exact reset
  split
  · exact started.deposit (Or.inl rfl)
  · exact started

end StrFormed

namespace ChnFormed

/-- Setting a status bit keeps SPWCHN well formed. -/
theorem setbit
    {chn set : Uint32}
    (formed : ChnFormed chn)
    (status : set = spwchnPS ∨ set = spwchnPR) :
    ChnFormed (setbit chn set) := by
  have notReserved : spwchnReservedMask &&& set = 0 := by
    obtain rfl | rfl := status <;> decide
  have notAbort : spwchnAT &&& set = 0 := by
    obtain rfl | rfl := status <;> decide
  constructor
  · rw [Grspw.setbit, Word.or_and_of_disjoint notReserved]
    exact formed.reserved
  · rw [checkbit_setbit_of_disjoint notAbort]
    exact formed.abortClear

/-- Stopping an engine keeps SPWCHN well formed. -/
theorem clearbit
    {chn clear : Uint32}
    (formed : ChnFormed chn)
    (notAbort : spwchnAT &&& clear = 0) :
    ChnFormed (clearbit chn clear) := by
  constructor
  · exact clearbit_and_eq_zero formed.reserved clear
  · rw [checkbit_clearbit_of_disjoint notAbort]
    exact formed.abortClear

/-- A write of SPWCHN keeps it well formed. -/
theorem writeChn
    {regs : Regs}
    (formed : ChnFormed regs.chn)
    (value : Uint32) :
    ChnFormed (writeChn regs value).chn := by
  have before := formed.abortClear
  constructor
  · rw [writeChn_reserved]
    exact formed.reserved
  · rw [spwchnAT, checkbit_bit _ (by decide)] at before
    rw [spwchnAT, checkbit_writeChn _ _ (by decide)]
    simp only [chnBit, before, Bool.false_and]

/-- A write of SPWCTR keeps SPWCHN well formed. -/
theorem ctrWritten
    {regs : Regs}
    (formed : ChnFormed regs.chn)
    (grspwId : GrspwId)
    (value : Uint32) :
    ChnFormed (ctrWritten grspwId regs value).chn := by
  rw [ctrWritten_chn]
  split
  · constructor
    · rw [BitVec.and_assoc]
      have apart : spwchnNotresetMask &&& spwchnReservedMask = 0 := by decide
      rw [apart]
      simp
    · have apart : spwchnNotresetMask &&& spwchnAT = 0 := by decide
      rw [checkbit, BitVec.and_assoc, apart]
      simp [spwchnAT]
  · exact formed

end ChnFormed

/-! ## The whole register block -/

/-- Incrementing the time counter keeps SPWTIM within a byte. -/
theorem deposit_timeCounter_le
    {tim : Uint32}
    (bounded : tim ≤ 0xFF)
    (value : Uint32) :
    deposit tim spwtimTimeCounter value ≤ 0xFF := by
  have digits := Word.toNat_replace_field tim value 0 6 (by decide)
  change (deposit tim spwtimTimeCounter value).toNat = _ at digits
  rw [BitVec.le_def] at bounded ⊢
  rw [digits]
  simp only [BitVec.ofNat_eq_ofNat, BitVec.toNat_ofNat] at bounded ⊢
  omega

/-- A write of SPWCTR keeps the register block well formed. -/
theorem regsFormed_ctrWritten
    {grspwId : GrspwId}
    {regs : Regs}
    (formed : RegsFormed grspwId regs)
    (value : Uint32) :
    RegsFormed grspwId (ctrWritten grspwId regs value) := by
  have tim : (ctrWritten grspwId regs value).tim ≤ 0xFF := by
    have reset : (if checkbit value spwctrRS then 0 else regs.tim) ≤ 0xFF := by
      split
      · decide
      · exact formed.tim
    rw [ctrWritten_tim]
    simp only
    split
    · exact deposit_timeCounter_le reset _
    · exact reset
  have plain : ∀ base,
      (if checkbit value spwctrRS then resetRegisters grspwId regs
        else regs) = base →
      base.ndr ≤ 0xFF ∧ base.clk ≤ 0xFFFF ∧ base.key ≤ 0xFF ∧
        base.tdr ≤ 0x3FFFFF ∧ base.rxl &&& ~~~0x1FFFFFC#32 = 0 := by
    rintro base rfl
    split
    · simp only [resetRegisters]
      decide
    · exact ⟨formed.ndr, formed.clk, formed.key, formed.tdr, formed.rxl⟩
  obtain ⟨ndr, clk, key, tdr, rxl⟩ := plain _ rfl
  have others := ctrWritten_eq grspwId regs value
  constructor
  · exact formed.ctr.ctrWritten value
  · exact formed.str.ctrWritten grspwId value
  · rw [others]
    exact ndr
  · rw [others]
    exact clk
  · rw [others]
    exact key
  · exact tim
  · rw [others]
    exact tdr
  · exact formed.chn.ctrWritten grspwId value
  · rw [others]
    exact rxl

/-- A register write keeps the register block well formed. -/
theorem regsFormed_regsWritten
    {grspwId : GrspwId}
    {regs : Regs}
    (formed : RegsFormed grspwId regs)
    (regOffset : RegOffset)
    (value : Uint32) :
    RegsFormed grspwId (regsWritten grspwId regs regOffset value) := by
  cases regOffset with
  | ctr => exact regsFormed_ctrWritten formed value
  | str => exact { formed with str := formed.str.writeStr value }
  | ndr => exact { formed with ndr := and_le_of_mask (by decide) }
  | clk => exact { formed with clk := and_le_of_mask (by decide) }
  | key => exact { formed with key := and_le_of_mask (by decide) }
  | tim => exact { formed with tim := and_le_of_mask (by decide) }
  | tdr => exact { formed with tdr := and_le_of_mask (by decide) }
  | chn => exact { formed with chn := formed.chn.writeChn value }
  | rxl =>
      have masked : value &&& spwrxlRxMaxLength &&& ~~~0x1FFFFFC#32 = 0 := by
        have apart : spwrxlRxMaxLength &&& ~~~0x1FFFFFC#32 = 0 := by decide
        rw [BitVec.and_assoc, apart]
        simp
      exact { formed with rxl := masked }
  | _ => exact { formed with }

/-- Every step keeps the register block well formed. -/
theorem regsFormed_step
    {layout : Layout}
    {core after : Core}
    {input : Input}
    (formed : RegsFormed core.device.grspwId core.regs)
    (moves : step layout core input = .ok after) :
    RegsFormed after.device.grspwId after.regs := by
  cases stepped_of_step moves with
  | written regOffset value => exact regsFormed_regsWritten formed regOffset value
  | polled polls =>
      rw [Core.txPolled_grspwId, Core.txPolled_regs]
      exact { formed with chn := formed.chn.clearbit (by decide) }
  | sent sends =>
      rw [Core.txReleased_grspwId, Core.txReleased_regs]
      exact { formed with chn := formed.chn.setbit (Or.inl rfl) }
  | refused data len att fetches unarmed =>
      rw [Core.rxRefused_grspwId, Core.rxRefused_regs]
      exact { formed with chn := formed.chn.clearbit (by decide) }
  | stored data len att fetches armed =>
      have str : StrFormed (core.rxRegs att).str := by
        unfold Core.rxRegs
        simp only
        split
        · exact formed.str.setbit (Or.inl rfl)
        · exact formed.str
      rw [Core.rxStored_grspwId, Core.rxStored_regs]
      exact { formed with str := str, chn := formed.chn.setbit (Or.inr rfl) }
  | ticked timecode newer =>
      have byte : timecode.setWidth 32 ≤ (0xFF : Uint32) := by
        have bound := timecode.isLt
        rw [BitVec.le_def, BitVec.toNat_setWidth_of_le (by decide)]
        simp only [BitVec.ofNat_eq_ofNat, BitVec.toNat_ofNat]
        omega
      exact { formed with tim := byte, str := formed.str.setbit (Or.inr rfl) }
  | _ => exact formed

/-- The register block is well formed from the start. -/
theorem regsFormed_apbgrspwInit (grspwId : GrspwId) (ram : Memory Uint8) :
    RegsFormed grspwId (apbgrspwInit grspwId ram).regs := by
  have ctr : CtrFormed grspwId (resetRegisters grspwId zeroRegs).ctr := by
    constructor
    · revert grspwId
      decide
    · revert grspwId
      decide
    · revert grspwId
      decide
    · revert grspwId
      decide
  have chn : ChnFormed (resetRegisters grspwId zeroRegs).chn := by
    simp only [resetRegisters, zeroRegs]
    constructor <;> decide
  have plain : (254 : Uint32) ≤ 0xFF ∧ (0x404 : Uint32) ≤ 0xFFFF ∧
      (0 : Uint32) ≤ 0xFF ∧ (0x27140 : Uint32) ≤ 0x3FFFFF ∧
      (0 : Uint32) &&& ~~~0x1FFFFFC#32 = 0 := by decide
  obtain ⟨ndr, clk, key, tdr, rxl⟩ := plain
  exact ⟨ctr, StrFormed.zero, ndr, clk, key, key, tdr, chn, rxl⟩

/-! ## The whole core -/

/-- The low bits of a register are clear when its value is aligned. -/
theorem and_eq_zero_of_dvd
    {reg : Uint32}
    {low : Nat}
    (aligned : 2 ^ low ∣ reg.toNat)
    (fits : low ≤ 32) :
    reg &&& fieldmask low = 0 := by
  have digits := Word.toNat_and_field reg 0 low (by omega)
  rw [BitVec.shiftLeft_zero, Nat.pow_zero, Nat.div_one, Nat.mul_one,
    Nat.mod_eq_zero_of_dvd aligned] at digits
  exact BitVec.eq_of_toNat_eq digits

/-- Every reachable core has well formed registers, wherever its scratch copies
lie. -/
theorem regsFormed_of_reachable
    {layout : Layout}
    {grspwId : GrspwId}
    {ram : Memory Uint8}
    {core : Core}
    (reachable : Machine.Reachable (step layout)
      (apbgrspwInit grspwId ram) core) :
    core.device.grspwId = grspwId ∧ RegsFormed grspwId core.regs := by
  have preserved : ∀ before input after,
      (before.device.grspwId = grspwId ∧
        RegsFormed before.device.grspwId before.regs) →
      step layout before input = .ok after →
      (after.device.grspwId = grspwId ∧
        RegsFormed after.device.grspwId after.regs) := by
    rintro before input after ⟨sameId, holds⟩ moves
    exact ⟨(step_grspwId moves).trans sameId, regsFormed_step holds moves⟩
  have formed := Machine.reachable_invariant preserved
    ⟨rfl, regsFormed_apbgrspwInit grspwId ram⟩ reachable
  exact ⟨formed.1, formed.1 ▸ formed.2⟩

/-- **Representation.**  Where the scratch copies overlap nothing, every
reachable core is well formed. -/
theorem coreFormed_of_reachable
    {grspwId : GrspwId}
    {ram : Memory Uint8}
    {core : Core}
    (reachable : Machine.Reachable (step .disjoint)
      (apbgrspwInit grspwId ram) core) :
    CoreFormed grspwId core := by
  have formed := regsFormed_of_reachable reachable
  have transmit : TxPlaced core :=
    Machine.reachable_invariant (fun _ _ _ => txPlaced_step)
      (txPlaced_apbgrspwInit grspwId ram) reachable
  have receive : RxPlaced core :=
    Machine.reachable_invariant (fun _ _ _ => rxPlaced_step)
      (rxPlaced_apbgrspwInit grspwId ram) reachable
  constructor
  · exact formed.1
  · exact formed.2
  · exact @and_eq_zero_of_dvd _ 4 transmit.aligned (by decide)
  · exact @and_eq_zero_of_dvd _ 3 receive.aligned (by decide)
  · exact transmit.within
  · exact receive.within

/-- A tick sends SPWTIM whole: narrowing it to a byte loses nothing. -/
theorem timecode_sent
    {core : Core}
    {value : Uint32}
    (bounded : core.regs.tim ≤ 0xFF)
    (ticks : checkbit value spwctrTI = true) :
    ∃ timecode : Uint8,
      (core.written .ctr value).host.spwq =
        core.host.spwq ++
          [wireImage core.host.txbuffer core.device.grspwId msgqTime []
            [timecode]] ∧
      timecode.setWidth 32 = (core.written .ctr value).regs.tim := by
  let sent := (ctrTicked core.device.grspwId core.regs value).tim
  have stored : (core.written .ctr value).regs.tim = sent := by
    change (ctrWritten core.device.grspwId core.regs value).tim = sent
    simp only [ctrWritten, linkDisable, linkStart]
    split_ifs <;> rfl
  have fits : sent ≤ 0xFF := by
    have reset :
        (ctrReset core.device.grspwId core.regs value).tim ≤ 0xFF := by
      unfold ctrReset
      split
      · simp only [resetRegisters]
        decide
      · exact bounded
    simp only [sent, ctrTicked, ticks, if_true]
    exact deposit_timeCounter_le reset _
  refine ⟨sent.setWidth 8, ?_, ?_⟩
  · have host : (core.written .ctr value).host =
      ctrHost core.device.grspwId core.regs core.host value := rfl
    rw [host, ctrHost, if_pos ticks]
    rfl
  · rw [stored]
    apply BitVec.eq_of_toNat_eq
    rw [BitVec.le_def] at fits
    simp only [BitVec.ofNat_eq_ofNat, BitVec.toNat_ofNat] at fits
    simp only [BitVec.toNat_setWidth]
    omega

/-- **Representation invariant.**  Where the scratch copies overlap nothing,
every reachable core has well formed registers and ring positions, and whatever
tick comes next sends SPWTIM without losing a bit. -/
theorem registers_represented
    (grspwId : GrspwId)
    (ram : Memory Uint8)
    (core : Core)
    (reachable : Machine.Reachable (step .disjoint)
      (apbgrspwInit grspwId ram) core) :
    CoreFormed grspwId core ∧
      ∀ value, checkbit value spwctrTI = true →
        ∃ timecode : Uint8,
          (core.written .ctr value).host.spwq =
            core.host.spwq ++
              [wireImage core.host.txbuffer grspwId msgqTime []
                [timecode]] ∧
          timecode.setWidth 32 = (core.written .ctr value).regs.tim := by
  have formed := coreFormed_of_reachable reachable
  refine ⟨formed, ?_⟩
  intro value ticks
  rw [← formed.grspwId_eq]
  exact timecode_sent formed.regs.tim ticks

/-- A core that has sent one packet. -/
theorem registers_represented_after_packet :
    ∃ core, CoreFormed 3 core ∧
      Machine.run (step .disjoint)
        (apbgrspwInit 3 (enabledRam 16 2 0x10))
        (busCalls [.write .chn spwchnTE]) = .ok core := by
  obtain ⟨core, reaches⟩ : ∃ core, Machine.run (step .disjoint)
      (apbgrspwInit 3 (enabledRam 16 2 0x10))
      (busCalls [.write .chn spwchnTE]) = .ok core := by
    simp only [busCalls, List.flatMap_cons, List.flatMap_nil, List.append_nil]
    refine ⟨_, rfl⟩
  exact ⟨core, (registers_represented 3 (enabledRam 16 2 0x10) core
    ⟨_, reaches⟩).1, reaches⟩

/-! ## The link control bits and the link state -/

/-- Link Start and Link Disable exclude each other, and the link state goes with
them. -/
structure LinkAgrees (started stopped : Bool) (state : Uint32) : Prop where
  notBoth : ¬(started = true ∧ stopped = true)
  running : state = spwstrLSRUN → started = true ∧ stopped = false
  disabled : stopped = true → state = 0

/-- The link bits of SPWCTR agree with the link state of SPWSTR. -/
def LinkConsistent (regs : Regs) : Prop :=
  LinkAgrees (checkbit regs.ctr spwctrLS) (checkbit regs.ctr spwctrLD)
    (regs.str &&& spwstrLS)

/-- A link in reset state agrees with anything but both bits. -/
theorem linkAgrees_off (started stopped : Bool) :
    LinkAgrees started stopped 0 ↔ ¬(started = true ∧ stopped = true) := by
  constructor
  · exact LinkAgrees.notBoth
  · intro notBoth
    exact ⟨notBoth, fun runs => absurd runs (by decide), fun _ => rfl⟩

/-- A running link agrees with Link Start alone. -/
theorem linkAgrees_run : LinkAgrees true false spwstrLSRUN :=
  ⟨by simp, fun _ => ⟨rfl, rfl⟩, by simp⟩

/-- A disabled link is not reset by a write with neither link bit: the reset
presets Link Start and keeps Link Disable. -/
def KeepsLink (core : Core) : Input → Prop
  | .write .ctr value =>
      checkbit value spwctrRS = true → checkbit value spwctrLS = false →
        checkbit value spwctrLD = false →
          checkbit core.regs.ctr spwctrLD = false
  | _ => True

/-- The link state after a write of SPWCTR. -/
theorem ctrWritten_linkState
    (grspwId : GrspwId)
    (regs : Regs)
    (value : Uint32) :
    (ctrWritten grspwId regs value).str &&& spwstrLS =
      if checkbit value spwctrLD then 0
      else if checkbit value spwctrLS then spwstrLSRUN
      else if checkbit value spwctrRS then 0
      else regs.str &&& spwstrLS := by
  rw [ctrWritten_str]
  simp only
  rw [apply_ite (· &&& spwstrLS), deposit_and_self,
    apply_ite (· &&& spwstrLS), deposit_and_self,
    apply_ite (· &&& spwstrLS)]
  have off : (0 : Uint32) &&& spwstrLS = 0 := by decide
  have run : spwstrLSRUN &&& spwstrLS = spwstrLSRUN := by decide
  rw [off, run]

/-- A write of SPWCTR keeps the link consistent exactly when it is not such a
reset. -/
theorem linkConsistent_ctrWritten_iff
    {core : Core}
    (consistent : LinkConsistent core.regs)
    (value : Uint32) :
    LinkConsistent (ctrWritten core.device.grspwId core.regs value) ↔
      KeepsLink core (.write .ctr value) := by
  rw [LinkConsistent, checkbit_ctrWritten_LS, checkbit_ctrWritten_LD,
    ctrWritten_linkState, KeepsLink]
  cases checkbit value spwctrLD with
  | true =>
      rw [if_pos rfl, linkAgrees_off]
      simp
  | false =>
      cases checkbit value spwctrLS with
      | true => simpa using linkAgrees_run
      | false =>
          cases checkbit value spwctrRS with
          | true =>
              rw [if_neg (by decide), if_neg (by decide), if_pos rfl,
                linkAgrees_off]
              simp
          | false =>
              have unchanged : LinkAgrees (checkbit core.regs.ctr spwctrLS)
                (checkbit core.regs.ctr spwctrLD)
                (core.regs.str &&& spwstrLS) := consistent
              simpa using unchanged

/-- Only SPWCTR and the link state matter. -/
theorem LinkConsistent.congr
    {left right : Regs}
    (consistent : LinkConsistent left)
    (sameControl : right.ctr = left.ctr)
    (sameState : right.str &&& spwstrLS = left.str &&& spwstrLS) :
    LinkConsistent right := by
  rw [LinkConsistent, sameControl, sameState]
  exact consistent

/-- Setting an event bit leaves the link state alone. -/
theorem setbit_linkState
    {set : Uint32}
    (apart : spwstrLS &&& set = 0)
    (str : Uint32) :
    setbit str set &&& spwstrLS = str &&& spwstrLS :=
  Word.or_and_of_disjoint apart

/-- From a consistent link, a step keeps it so exactly when it meets the
guard. -/
theorem keepsLink_iff
    (layout : Layout)
    {core : Core}
    (input : Input)
    (consistent : LinkConsistent core.regs) :
    KeepsLink core input ↔
      ∀ after, step layout core input = .ok after →
        LinkConsistent after.regs := by
  by_cases controls : ∃ value, input = .write .ctr value
  · obtain ⟨value, rfl⟩ := controls
    have writes : step layout core (.write .ctr value) =
      .ok (core.written .ctr value) := core.write_eq .ctr value
    rw [writes, ← linkConsistent_ctrWritten_iff consistent]
    constructor
    · rintro kept after moves
      cases moves
      exact kept
    · intro kept
      exact kept _ rfl
  · have guarded : KeepsLink core input := by
      unfold KeepsLink
      split
      · exact absurd ⟨_, rfl⟩ controls
      · trivial
    refine iff_of_true guarded ?_
    intro after moves
    cases stepped_of_step moves with
    | written regOffset value =>
        cases regOffset with
        | ctr => exact absurd ⟨value, rfl⟩ controls
        | str =>
            exact consistent.congr rfl (writeStr_linkState core.regs value)
        | _ => exact consistent
    | sent sends =>
        rw [Core.txReleased_regs]
        exact consistent
    | stored data len att fetches armed =>
        rw [Core.rxStored_regs]
        refine consistent.congr rfl ?_
        simp only [Core.rxRegs]
        split
        · exact setbit_linkState (by decide) _
        · rfl
    | ticked timecode newer =>
        exact consistent.congr rfl (setbit_linkState (by decide) _)
    | _ => exact consistent

/-- **Link control.**  In every run from initialisation, the link control bits
and the link state agree in all states reached if and only if no reset that
writes neither link bit meets a disabled link. -/
theorem linkConsistent_run_iff
    (layout : Layout)
    (grspwId : GrspwId)
    (ram : Memory Uint8)
    (inputs : List Input) :
    Machine.Always (step layout) (fun core => LinkConsistent core.regs)
        (apbgrspwInit grspwId ram) inputs ↔
      Machine.Guarded (step layout) KeepsLink (apbgrspwInit grspwId ram)
        inputs := by
  have start : LinkConsistent (apbgrspwInit grspwId ram).regs := by
    have stopped : checkbit (resetRegisters grspwId zeroRegs).ctr spwctrLD =
        false := by
      revert grspwId
      decide
    have off : (0 : Uint32) &&& spwstrLS = 0 := by decide
    change LinkAgrees _ (checkbit (resetRegisters grspwId zeroRegs).ctr
      spwctrLD) (0 &&& spwstrLS)
    rw [stopped, off, linkAgrees_off]
    simp
  exact Machine.always_iff_guarded
    (fun core input => keepsLink_iff layout input) start inputs

/-- Disabling the link and then resetting leaves both bits set. -/
theorem not_linkConsistent_run :
    ¬∀ (layout : Layout) (grspwId : GrspwId) (ram : Memory Uint8)
      (inputs : List Input),
      Machine.Always (step layout) (fun core => LinkConsistent core.regs)
        (apbgrspwInit grspwId ram) inputs := by
  intro all
  have always := all .disjoint 0 (fun _ => 0)
    [.write .ctr spwctrLD, .write .ctr spwctrRS]
  have last := (always.2 _ rfl).2 _ rfl
  exact last.notBoth (by decide)

end Grspw
