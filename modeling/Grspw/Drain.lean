import Grspw.Lib.Loop
import Grspw.Rings

/-!
# Draining the transmit ring

The transmit thread repeats the transmit call until it says stop; the bus write
handler makes it once.  On a ring with armed descriptors the first sends them
all and clears Transmitter Enable, the second sends one and leaves it set.
-/

namespace Grspw

/-- Repeat the transmit call until it returns `e_true`, as the transmit thread
does for a core; `none` when the fuel runs out first. -/
def txUntilStopped (layout : Layout) :
    Nat → Core → Except Fault (Option Core) :=
  Loop.untilStopped (txenable layout)

namespace Core

/-! ## The descriptors a ring offers -/

/-- The address of an entry of the table in use. -/
def txEntry (core : Core) (position : Nat) : Nat :=
  txRing.entry (txRing.base core.regs.txd.toNat) position +
    core.regs.txd.toNat % txRing.stride

/-- The positions met from the selected one on. -/
def txPosition (core : Core) : Nat → Nat
  | 0 => txRing.selector core.regs.txd.toNat
  | index + 1 =>
      if checkbit
          (txDescrAt core.host.ram (core.txEntry (core.txPosition index))).ctrl
          spwtdw0WR then 0
      else (core.txPosition index + 1) % txRing.count

/-- The address of the descriptor met at an index. -/
def txMetAddr (core : Core) (index : Nat) : Nat :=
  core.txEntry (core.txPosition index)

/-- The descriptor met at an index. -/
def txMet (core : Core) (index : Nat) : TxDescr :=
  txDescrAt core.host.ram (core.txMetAddr index)

/-- A core whose transmitter is off, in step, before `count` armed descriptors
whose messages are short enough. -/
structure Drainable (core : Core) (count : Nat) : Prop where
  transmitterOff : checkbit core.regs.chn spwchnTE = false
  inStep : core.device.txdCur.toNat = txRing.selector core.regs.txd.toNat
  positive : 0 < count
  distinct : ∀ i < count, ∀ j < count,
    core.txPosition i = core.txPosition j → i = j
  enabled : ∀ i < count, checkbit (core.txMet i).ctrl spwtdw0EN = true
  exhausted : checkbit (core.txMet count).ctrl spwtdw0EN = false ∨
    ∃ i < count, core.txPosition count = core.txPosition i
  short : ∀ i < count, Fits ((core.txMet i).headerBytes core.host.ram)
    ((core.txMet i).dataBytes core.host.ram)

/-- The shared state once the packet of the descriptor at an address is sent
and the descriptor released, interrupts apart. -/
def sentFrom (grspwId : GrspwId) (host : Host) (addr : Nat) : Host :=
  let descr := txDescrAt host.ram addr
  (host.sent grspwId msgqData (descr.headerBytes host.ram)
    (descr.dataBytes host.ram)).writeRam (BitVec.ofNat 32 addr)
      (ramBytes (clearbit descr.ctrl spwtdw0EN))

/-- The shared state once the first descriptors met are sent in ring order. -/
def sentInOrder (core : Core) (count : Nat) : Host :=
  ((List.range count).map core.txMetAddr).foldl
    (sentFrom core.device.grspwId) core.host

/-- The first `count` packets were sent once each in ring order, their
descriptors are released and the transmitter is off. -/
structure Drained (before after : Core) (count : Nat) : Prop where
  messages : after.host.spwq = (before.sentInOrder count).spwq
  released : ∀ i < count, checkbit
    (txDescrAt after.host.ram (before.txMetAddr i)).ctrl spwtdw0EN = false
  stopped : checkbit after.regs.chn spwchnTE = false

/-- A bus write of SPWCHN does what the transmit loop does after the same
register write, and drains the ring. -/
def WriteDrains (core : Core) (value : Uint32) (count : Nat) : Prop :=
  ∃ after, core.apbgrspwWrite .disjoint .chn value = .ok after ∧
    (∃ fuel, txUntilStopped .disjoint fuel (core.written .chn value) =
      .ok (some after)) ∧
    Drained core after count

/-- The first descriptor met is the one SPWTXD points to. -/
theorem txMetAddr_zero (core : Core) :
    core.txMetAddr 0 = core.regs.txd.toNat := by
  simp only [txMetAddr, txPosition, txEntry, DescriptorRing.entry,
    DescriptorRing.base, DescriptorRing.selector, DescriptorRing.span, txRing]
  omega

section BusWrite

variable
  {core : Core}
  {value : Uint32}
  {count : Nat}

/-- The transmit call of the bus write has a packet to send. -/
theorem Drainable.txSends
    (drainable : Drainable core count)
    (enables : checkbit value spwchnTE = true)
    (noAbort : checkbit value spwchnAT = false) :
    TxSends .disjoint (core.written .chn value) := by
  have first : (core.written .chn value).txDescr = core.txMet 0 := by
    unfold txMet
    rw [txMetAddr_zero]
    rfl
  refine ⟨checkbit_writeChn_TE enables noAbort, Layout.admits_disjoint _ _,
    ?_, ?_⟩
  · rw [first]
    exact drainable.enabled 0 drainable.positive
  · unfold txHeader txData
    rw [first]
    exact drainable.short 0 drainable.positive

/-- The bus write sends the first packet and leaves the transmitter on. -/
theorem Drainable.apbgrspwWrite_eq
    (drainable : Drainable core count)
    (enables : checkbit value spwchnTE = true)
    (noAbort : checkbit value spwchnAT = false) :
    core.apbgrspwWrite .disjoint .chn value =
      .ok ((core.written .chn value).txReleased .disjoint) := by
  have sends := drainable.txSends enables noAbort
  rw [Core.apbgrspwWrite_eq, sends.txenable_eq]
  rfl

theorem checkbit_txReleased_TE
    {layout : Layout}
    (sends : TxSends layout core) :
    checkbit (core.txReleased layout).regs.chn spwchnTE = true := by
  have kept : checkbit (setbit core.regs.chn spwchnPS) spwchnTE =
      checkbit core.regs.chn spwchnTE :=
    checkbit_setbit_of_disjoint (by decide)
  rw [txReleased_regs]
  exact kept.trans sends.enabled

/-- One message leaves, however many descriptors are armed. -/
theorem Drainable.spwq_eq
    (drainable : Drainable core count)
    (enables : checkbit value spwchnTE = true)
    (noAbort : checkbit value spwchnAT = false) :
    ((core.written .chn value).txReleased .disjoint).host.spwq =
      core.host.spwq ++
        [wireImage core.host.txbuffer core.device.grspwId msgqData
          ((core.txMet 0).headerBytes core.host.ram)
          ((core.txMet 0).dataBytes core.host.ram)] := by
  have sends := drainable.txSends enables noAbort
  have first : (core.written .chn value).txDescr = core.txMet 0 := by
    unfold txMet
    rw [txMetAddr_zero]
    rfl
  rw [txReleased_host _ _ sends.admits, txHost_spwq, txHeader, txData, first]
  rfl

/-- A fresh core before two armed descriptors. -/
def twoArmed : Core :=
  apbgrspwInit 0 fun addr => if addr = 2 ∨ addr = 18 then 0x10 else 0

theorem drainable_twoArmed : Drainable twoArmed 2 where
  transmitterOff := by decide
  inStep := by decide
  positive := by decide
  distinct := by decide
  enabled := by decide
  exhausted := by decide
  short := by decide

/-- **No drain.**  On no ring with armed descriptors does a bus write drain
it: the transmitter stays on. -/
theorem not_writeDrains
    (core : Core)
    (value : Uint32)
    (count : Nat)
    (drainable : Drainable core count)
    (enables : checkbit value spwchnTE = true)
    (noAbort : checkbit value spwchnAT = false) :
    ¬WriteDrains core value count := by
  rintro ⟨after, returns, _, drained⟩
  rw [drainable.apbgrspwWrite_eq enables noAbort] at returns
  cases returns
  have on := checkbit_txReleased_TE (drainable.txSends enables noAbort)
  rw [drained.stopped] at on
  cases on

theorem not_writeDrains_twoArmed : ¬WriteDrains twoArmed spwchnTE 2 :=
  not_writeDrains twoArmed spwchnTE 2 drainable_twoArmed (by decide)
    (by decide)

/-- With two descriptors armed the transmitter is still on after the write. -/
theorem not_forall_writeDrains :
    ¬∀ (core : Core) (value : Uint32) (count : Nat), Drainable core count →
      checkbit value spwchnTE = true → checkbit value spwchnAT = false →
        WriteDrains core value count := by
  intro all
  obtain ⟨after, returns, _, drained⟩ :=
    all twoArmed spwchnTE 2 drainable_twoArmed (by decide) (by decide)
  rw [drainable_twoArmed.apbgrspwWrite_eq (by decide) (by decide)] at returns
  cases returns
  exact absurd drained.stopped (by decide)

end BusWrite

/-! ## The loop drains -/

section Loop

variable (core : Core)

theorem txPosition_lt (index : Nat) : core.txPosition index < 64 := by
  cases index with
  | zero => exact txRing.selector_lt core.regs.txd.toNat
  | succ index =>
      unfold txPosition
      split
      · decide
      · exact Nat.mod_lt _ txRing.count_pos

theorem txMetAddr_eq (index : Nat) :
    core.txMetAddr index =
      core.regs.txd.toNat / 1024 * 1024 + 16 * core.txPosition index +
        core.regs.txd.toNat % 16 := rfl

theorem txMetAddr_lt (index : Nat) : core.txMetAddr index < 2 ^ 32 := by
  have position := core.txPosition_lt index
  have register := core.regs.txd.isLt
  rw [txMetAddr_eq]
  omega

/-- Descriptors at different positions do not overlap. -/
theorem txMetAddr_apart
    {i j : Nat}
    (different : core.txPosition i ≠ core.txPosition j) :
    core.txMetAddr i + 16 ≤ core.txMetAddr j ∨
      core.txMetAddr j + 16 ≤ core.txMetAddr i := by
  rw [txMetAddr_eq, txMetAddr_eq]
  omega

theorem sentInOrder_succ (index : Nat) :
    core.sentInOrder (index + 1) =
      sentFrom core.device.grspwId (core.sentInOrder index)
        (core.txMetAddr index) := by
  simp [sentInOrder, List.range_succ]

/-- Releasing one descriptor leaves a word apart from its control word alone. -/
theorem ramWord_sentInOrder_succ
    (index addr : Nat)
    (apart : addr + 4 ≤ core.txMetAddr index ∨
      core.txMetAddr index + 4 ≤ addr) :
    ramWord (core.sentInOrder (index + 1)).ram addr =
      ramWord (core.sentInOrder index).ram addr := by
  have small : core.txMetAddr index % 2 ^ 32 = core.txMetAddr index :=
    Nat.mod_eq_of_lt (core.txMetAddr_lt index)
  rw [sentInOrder_succ]
  simp only [sentFrom, Host.writeRam_ram, BitVec.toNat_ofNat, small]
  exact ramWord_write_of_disjoint _ _ _ _ (by simpa using apart)

/-- A descriptor not met before is still as it was. -/
theorem txDescrAt_sentInOrder
    {index other : Nat}
    (new : ∀ i < index, core.txPosition i ≠ core.txPosition other) :
    txDescrAt (core.sentInOrder index).ram (core.txMetAddr other) =
      core.txMet other := by
  induction index with
  | zero => rfl
  | succ index inductionHypothesis =>
      rw [← inductionHypothesis fun i below => new i (by omega)]
      have apart := core.txMetAddr_apart (new index (by omega))
      unfold txDescrAt
      rw [core.ramWord_sentInOrder_succ index _ (by omega),
        core.ramWord_sentInOrder_succ index _ (by omega),
        core.ramWord_sentInOrder_succ index _ (by omega),
        core.ramWord_sentInOrder_succ index _ (by omega)]

/-- Every descriptor met before is released. -/
theorem released_sentInOrder
    {index i : Nat}
    (before : i < index) :
    checkbit (txDescrAt (core.sentInOrder index).ram (core.txMetAddr i)).ctrl
      spwtdw0EN = false := by
  induction index with
  | zero => omega
  | succ index inductionHypothesis =>
      by_cases same : core.txPosition i = core.txPosition index
      · have sameAddr : core.txMetAddr i = core.txMetAddr index := by
          rw [txMetAddr_eq, txMetAddr_eq, same]
        have small : core.txMetAddr index % 2 ^ 32 = core.txMetAddr index :=
          Nat.mod_eq_of_lt (core.txMetAddr_lt index)
        rw [sameAddr, sentInOrder_succ]
        simp only [txDescrAt, sentFrom, Host.writeRam_ram, BitVec.toNat_ofNat,
          small, ramWord_write_ramBytes]
        exact checkbit_clearbit_self (by decide)
      · have apart := core.txMetAddr_apart same
        have earlier : i < index := by
          have notLast : i ≠ index := by
            rintro rfl
            exact same rfl
          omega
        have unchanged : (txDescrAt (core.sentInOrder (index + 1)).ram
            (core.txMetAddr i)).ctrl =
          (txDescrAt (core.sentInOrder index).ram (core.txMetAddr i)).ctrl :=
          core.ramWord_sentInOrder_succ index _ (by omega)
        rw [unchanged]
        exact inductionHypothesis earlier

/-- The state of the loop after its first packets. -/
structure Draining (now : Core) (index : Nat) : Prop where
  enabled : checkbit now.regs.chn spwchnTE = true
  grspwId_eq : now.device.grspwId = core.device.grspwId
  txd_eq : now.regs.txd.toNat = core.txMetAddr index
  txdCur_eq : now.device.txdCur.toNat = core.txPosition index
  ram_eq : now.host.ram = (core.sentInOrder index).ram
  txbuffer_eq : now.host.txbuffer = (core.sentInOrder index).txbuffer
  spwq_eq : now.host.spwq = (core.sentInOrder index).spwq

/-- In the C layout no packet goes through the last entry of the scratch array,
whose copy runs into the ring positions. -/
def ClearOfLast (layout : Layout) (count : Nat) : Prop :=
  layout = .packed → ∀ i < count, core.txPosition i ≠ 63

theorem clearOfLast_disjoint (count : Nat) :
    core.ClearOfLast .disjoint count := by
  intro packed
  cases packed

variable
  {layout : Layout}
  {core}
  {now : Core}
  {count index : Nat}

/-- The ring position is in range. -/
theorem Draining.admits
    (draining : Draining core now index) :
    layout.Admits now.device.txdCur nbTxDescriptor := by
  intro _
  rw [draining.txdCur_eq]
  exact core.txPosition_lt index

/-- The descriptor the loop looks at. -/
theorem Draining.txDescr_eq
    (draining : Draining core now index) :
    now.txDescr =
      txDescrAt (core.sentInOrder index).ram (core.txMetAddr index) := by
  rw [txDescr, draining.ram_eq, draining.txd_eq]

/-- The loop sends the next armed descriptor's packet. -/
theorem Draining.txSends
    (drainable : Drainable core count)
    (draining : Draining core now index)
    (below : index < count) :
    TxSends layout now ∧ now.txDescr = core.txMet index := by
  have same : now.txDescr = core.txMet index := by
    rw [draining.txDescr_eq]
    refine core.txDescrAt_sentInOrder ?_
    intro i before equal
    have repeated :=
      drainable.distinct i (by omega) index below equal
    omega
  have armed := drainable.enabled index below
  have short : 7 + ((core.txMet index).headerBytes core.host.ram).length +
      ((core.txMet index).dataBytes core.host.ram).length ≤ maxqSize :=
    drainable.short index below
  refine ⟨⟨draining.enabled, draining.admits, ?_, ?_⟩, same⟩
  · rw [same]
    exact armed
  · simp only [Fits, txHeader, txData, same, TxDescr.headerBytes,
      TxDescr.dataBytes, Memory.length_read] at short ⊢
    exact short

/-- The ring position after the next packet. -/
theorem Draining.txNext_eq
    (drainable : Drainable core count)
    (clear : core.ClearOfLast layout count)
    (draining : Draining core now index)
    (below : index < count) :
    (now.txNext layout).toNat = core.txPosition (index + 1) := by
  obtain ⟨sends, same⟩ :=
    @Draining.txSends core layout _ _ _ drainable draining below
  have notLast : layout = .packed → now.device.txdCur.toNat ≠ 63 := by
    rw [draining.txdCur_eq]
    exact fun packed => clear packed index below
  rw [toNat_txNext_of_clear sends.admits notLast, same, draining.txdCur_eq]
  rfl

/-- SPWTXD after the next packet. -/
theorem Draining.txd_next
    (aligned : txRing.stride ∣ core.regs.txd.toNat)
    (drainable : Drainable core count)
    (clear : core.ClearOfLast layout count)
    (draining : Draining core now index)
    (below : index < count) :
    (now.txReleased layout).regs.txd.toNat = core.txMetAddr (index + 1) := by
  have position := core.txPosition_lt index
  have nextPosition := core.txPosition_lt (index + 1)
  obtain ⟨entry, isEntry⟩ := aligned
  simp only [txRing] at isEntry
  have table : now.regs.txd.toNat = core.regs.txd.toNat / 1024 * 1024 +
      16 * core.txPosition index := by
    rw [draining.txd_eq, txMetAddr_eq]
    omega
  have fieldAligned : txRing.stride ∣ now.regs.txd.toNat := by
    rw [table]
    simp only [txRing]
    omega
  have moved := toNat_deposit_selector now.regs.txd (now.txNext layout) 4 6
    (by decide) fieldAligned
  rw [txReleased_regs]
  change (deposit now.regs.txd (fieldmask 6 <<< 4)
    (now.txNext layout <<< 4)).toNat = _
  rw [moved, draining.txNext_eq drainable clear below, table, txMetAddr_eq]
  omega

/-- One packet takes the loop one descriptor further. -/
theorem Draining.step
    (aligned : txRing.stride ∣ core.regs.txd.toNat)
    (drainable : Drainable core count)
    (clear : core.ClearOfLast layout count)
    (draining : Draining core now index)
    (below : index < count) :
    Draining core (now.txReleased layout) (index + 1) := by
  obtain ⟨sends, _⟩ :=
    @Draining.txSends core layout _ _ _ drainable draining below
  have small : core.txMetAddr index % 2 ^ 32 = core.txMetAddr index :=
    Nat.mod_eq_of_lt (core.txMetAddr_lt index)
  constructor
  · exact checkbit_txReleased_TE sends
  · rw [txReleased_grspwId]
    exact draining.grspwId_eq
  · exact draining.txd_next aligned drainable clear below
  · rw [txReleased_txdCur _ _ sends.admits]
    exact draining.txNext_eq drainable clear below
  · rw [txReleased_host _ _ sends.admits, txHost_ram, sentInOrder_succ]
    simp only [sentFrom, Host.writeRam_ram, BitVec.toNat_ofNat, small,
      draining.txd_eq, txWriteBack, draining.txDescr_eq]
    rw [draining.ram_eq]
    rfl
  · rw [txReleased_host _ _ sends.admits, txHost_txbuffer, sentInOrder_succ]
    simp only [sentFrom, Host.writeRam_txbuffer, txHeader, txData,
      draining.grspwId_eq, draining.txbuffer_eq, draining.txDescr_eq,
      draining.ram_eq]
    rfl
  · rw [txReleased_host _ _ sends.admits, txHost_spwq, sentInOrder_succ]
    simp only [sentFrom, Host.writeRam_spwq, txHeader, txData,
      draining.grspwId_eq, draining.txbuffer_eq, draining.txDescr_eq,
      draining.ram_eq, draining.spwq_eq]
    rfl

/-- The loop stops at the first descriptor met that is not armed any more. -/
theorem Draining.txPolls
    (drainable : Drainable core count)
    (draining : Draining core now count) :
    TxPolls layout now := by
  refine ⟨draining.enabled, draining.admits, ?_⟩
  rw [draining.txDescr_eq]
  by_cases met : ∃ i < count, core.txPosition count = core.txPosition i
  · obtain ⟨i, before, equal⟩ := met
    have sameAddr : core.txMetAddr count = core.txMetAddr i := by
      rw [txMetAddr_eq, txMetAddr_eq, equal]
    rw [sameAddr]
    exact core.released_sentInOrder before
  · have new : ∀ i < count, core.txPosition i ≠ core.txPosition count := by
      intro i before equal
      exact met ⟨i, before, equal.symm⟩
    rw [core.txDescrAt_sentInOrder new]
    exact drainable.exhausted.resolve_right met

/-- From any point of the drain, the rest of the loop finishes it. -/
theorem Draining.txUntilStopped_eq
    (aligned : txRing.stride ∣ core.regs.txd.toNat)
    (drainable : Drainable core count)
    (clear : core.ClearOfLast layout count)
    (rest : Nat)
    (now : Core)
    (index : Nat)
    (total : index + rest = count)
    (draining : Draining core now index) :
    ∃ after, txUntilStopped layout (rest + 1) now = .ok (some after) ∧
      Drained core after count := by
  induction rest generalizing now index with
  | zero =>
      have atEnd : index = count := total
      subst atEnd
      have polls := @Draining.txPolls core layout _ _ drainable draining
      have call := txenable_polled polls.enabled polls.admits polls.unarmed
      refine ⟨now.txPolled layout, Loop.untilStopped_of_stop call 0, ?_⟩
      refine ⟨draining.spwq_eq, ?_, ?_⟩
      · intro i before
        rw [txPolled_host, draining.ram_eq]
        exact core.released_sentInOrder before
      · rw [txPolled_regs]
        exact checkbit_clearbit_self (by decide)
  | succ rest inductionHypothesis =>
      have below : index < count := by omega
      obtain ⟨sends, _⟩ :=
        @Draining.txSends core layout _ _ _ drainable draining below
      obtain ⟨after, runs, drained⟩ := inductionHypothesis
        (now.txReleased layout) (index + 1) (by omega)
        (draining.step aligned drainable clear below)
      refine ⟨after, ?_, drained⟩
      exact (Loop.untilStopped_of_continue sends.txenable_eq _).trans runs

/-- **The drain.**  The transmit loop after the same register write sends every
armed descriptor's packet once, in ring order, and turns the transmitter off. -/
theorem txUntilStopped_drains
    {value : Uint32}
    (aligned : txRing.stride ∣ core.regs.txd.toNat)
    (drainable : Drainable core count)
    (clear : core.ClearOfLast layout count)
    (enables : checkbit value spwchnTE = true)
    (noAbort : checkbit value spwchnAT = false) :
    ∃ after,
      txUntilStopped layout (count + 1) (core.written .chn value) =
        .ok (some after) ∧
      Drained core after count := by
  refine Draining.txUntilStopped_eq aligned drainable clear count
    (core.written .chn value) 0 (Nat.zero_add count) ?_
  exact ⟨checkbit_writeChn_TE enables noAbort, rfl, core.txMetAddr_zero.symm,
    drainable.inStep, rfl, rfl, rfl⟩

end Loop

end Core

end Grspw
