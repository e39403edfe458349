import Grspw.Footprint
import Grspw.Interrupts

/-!
# Filling the receive ring

Packets that arrive one after another are stored through the descriptors of the
receive ring in the order the ring is met.  As long as the guest has armed a
descriptor for each and keeps their buffers apart, none is lost or overwritten;
the first packet too many turns the receive engine off and leaves guest RAM
alone.
-/

namespace Grspw

/-- A packet as the RX thread hands it over. -/
structure Arrival where
  data : Memory Uint8
  len : Uint32
  att : RecvAtt

/-- The call made for it. -/
def Arrival.input (arrival : Arrival) : Input :=
  .packet arrival.data arrival.len arrival.att

namespace Core

/-! ## The descriptors the ring offers -/

/-- The address of the descriptor met at an index. -/
def rxMetAddr (core : Core) (index : Nat) : Nat :=
  rxRing.met
    (fun addr => checkbit (rxDescAt core.host.ram addr).ctrl spwtrw0WR)
    core.regs.rxd.toNat index

/-- The descriptor met at an index. -/
def rxMet (core : Core) (index : Nat) : RxDesc :=
  rxDescAt core.host.ram (core.rxMetAddr index)

/-- The number of bytes kept of a packet. -/
def rxKept (core : Core) (arrival : Arrival) : Nat :=
  (rxLength core.regs arrival.len).toNat

/-- The cells a packet fills: the buffer of the descriptor met at its index. -/
def InBuffer
    (core : Core)
    (arrivals : List Arrival)
    (index cell : Nat) : Prop :=
  ∃ arrival, arrivals[index]? = some arrival ∧
    (core.rxMet index).addr.toNat ≤ cell ∧
    cell < (core.rxMet index).addr.toNat + core.rxKept arrival

/-- A core in step whose ring has an armed descriptor for every packet, with
buffers apart from each other and from the descriptors met. -/
structure Receivable (core : Core) (arrivals : List Arrival) : Prop where
  available : checkbit core.regs.chn spwchnRD = true
  inStep : core.device.rxdCur.toNat = rxRing.selector core.regs.rxd.toNat
  accepted : ∀ arrival ∈ arrivals, rxAccepts core.regs arrival.data = true
  distinct : ∀ i < arrivals.length, ∀ j < arrivals.length,
    core.rxMetAddr i = core.rxMetAddr j → i = j
  armed : ∀ i < arrivals.length,
    checkbit (core.rxMet i).ctrl spwtrw0EN = true
  buffersApart : ∀ i j cell, core.InBuffer arrivals i cell →
    core.InBuffer arrivals j cell → i = j
  tableApart : ∀ i cell, core.InBuffer arrivals i cell →
    ∀ j ≤ arrivals.length,
      ¬(core.rxMetAddr j ≤ cell ∧ cell < core.rxMetAddr j + 8)

/-- The cells the first packets may have changed: their buffers and control
words. -/
def Filled
    (core : Core)
    (arrivals : List Arrival)
    (count cell : Nat) : Prop :=
  ∃ i < count, core.InBuffer arrivals i cell ∨
    (core.rxMetAddr i ≤ cell ∧ cell < core.rxMetAddr i + 4)

/-- The first packets are each in their own buffer, their control words tell
their lengths and status, and nothing else has changed in guest RAM. -/
structure Holds
    (core : Core)
    (arrivals : List Arrival)
    (count : Nat)
    (ram : Memory Uint8) : Prop where
  buffers : ∀ i < count, ∀ arrival, arrivals[i]? = some arrival →
    ram.read (core.rxMet i).addr.toNat (core.rxKept arrival) =
      arrival.data.read 0 (core.rxKept arrival)
  controls : ∀ i < count, ∀ arrival, arrivals[i]? = some arrival →
    ramWord ram (core.rxMetAddr i) =
      rxCtrl core.regs (core.rxMet i).ctrl arrival.len arrival.att
  nothingElse :
    Memory.SameOutside (core.Filled arrivals count) core.host.ram ram

/-- Interrupts due for the first packets: one for each descriptor that asks for
it, under the mask bit the receiver consults. -/
def rxPulsesDue (core : Core) (count : Nat) : Nat :=
  if checkbit core.regs.chn spwchnTI then
    (List.range count).countP fun i => checkbit (core.rxMet i).ctrl spwtrw0IE
  else 0

/-- The state once the first packets are stored. -/
structure Filling
    (core : Core)
    (arrivals : List Arrival)
    (now : Core)
    (index : Nat) : Prop where
  placed : RxPlaced now
  available : checkbit now.regs.chn spwchnRD = true
  rxl_eq : now.regs.rxl = core.regs.rxl
  accepts_eq : ∀ data, rxAccepts now.regs data = rxAccepts core.regs data
  rxd_eq : now.regs.rxd.toNat = core.rxMetAddr index
  inStep : now.device.rxdCur.toNat = rxRing.selector now.regs.rxd.toNat
  mask_eq : checkbit now.regs.chn spwchnTI = checkbit core.regs.chn spwchnTI
  pulses_eq : now.pulses = core.pulses + core.rxPulsesDue index
  holds : core.Holds arrivals index now.host.ram

section Steps

variable
  {layout : Layout}
  {core now : Core}
  {arrivals : List Arrival}
  {index : Nat}

theorem stride_dvd_rxMetAddr
    (aligned : rxRing.stride ∣ core.regs.rxd.toNat)
    (index : Nat) :
    8 ∣ core.rxMetAddr index :=
  rxRing.stride_dvd_met aligned _ index

/-- Descriptors met at different addresses do not overlap. -/
theorem rxMetAddr_apart
    (aligned : rxRing.stride ∣ core.regs.rxd.toNat)
    {i j : Nat}
    (different : core.rxMetAddr i ≠ core.rxMetAddr j) :
    core.rxMetAddr i + 8 ≤ core.rxMetAddr j ∨
      core.rxMetAddr j + 8 ≤ core.rxMetAddr i :=
  rxRing.apart_of_ne (stride_dvd_rxMetAddr aligned i)
    (stride_dvd_rxMetAddr aligned j) different

/-- A descriptor not met before is still as it was. -/
theorem Holds.rxDescAt_eq
    {ram : Memory Uint8}
    (aligned : rxRing.stride ∣ core.regs.rxd.toNat)
    (receivable : Receivable core arrivals)
    (holds : core.Holds arrivals index ram)
    (within : index ≤ arrivals.length)
    (new : ∀ i < index, core.rxMetAddr i ≠ core.rxMetAddr index) :
    rxDescAt ram (core.rxMetAddr index) = core.rxMet index := by
  apply rxDescAt_congr
  intro cell above below
  apply holds.nothingElse
  rintro ⟨i, before, inBuffer | inControl⟩
  · exact receivable.tableApart i cell inBuffer index within ⟨above, below⟩
  · have apart := rxMetAddr_apart aligned (new i before)
    omega

/-- The descriptor the next packet finds. -/
theorem Filling.rxDesc_eq
    (aligned : rxRing.stride ∣ core.regs.rxd.toNat)
    (receivable : Receivable core arrivals)
    (filling : Filling core arrivals now index)
    (below : index < arrivals.length) :
    now.rxDesc = core.rxMet index := by
  rw [rxDesc, filling.rxd_eq]
  refine filling.holds.rxDescAt_eq aligned receivable (Nat.le_of_lt below) ?_
  intro i before same
  have equal := receivable.distinct i (by omega) index below same
  omega

/-- Storing a packet leaves the receiver's checks as they are. -/
theorem rxAccepts_rxStored
    (arrival : Arrival)
    (data : Memory Uint8) :
    rxAccepts (now.rxStored arrival.data arrival.len arrival.att).regs data =
      rxAccepts now.regs data := by
  have kept : checkbit (setbit now.regs.chn spwchnPR) spwchnRE =
      checkbit now.regs.chn spwchnRE :=
    checkbit_setbit_of_disjoint (by decide)
  rw [rxStored_regs]
  unfold rxAccepts
  rw [← kept]
  rfl

/-- A packet more is in its buffer, and those before are untouched. -/
theorem Filling.holds_succ
    (aligned : rxRing.stride ∣ core.regs.rxd.toNat)
    (receivable : Receivable core arrivals)
    (filling : Filling core arrivals now index)
    {arrival : Arrival}
    (next : arrivals[index]? = some arrival) :
    core.Holds arrivals (index + 1)
      (now.rxStored arrival.data arrival.len arrival.att).host.ram := by
  have below : index < arrivals.length := (List.getElem?_eq_some_iff.mp next).1
  have desc := filling.rxDesc_eq aligned receivable below
  have kept : rxLength now.regs arrival.len = rxLength core.regs arrival.len := by
    unfold rxLength
    rw [filling.rxl_eq]
  have ram : (now.rxStored arrival.data arrival.len arrival.att).host.ram =
      (now.host.ram.write (core.rxMet index).addr.toNat
        (arrival.data.read 0 (core.rxKept arrival))).write
          (core.rxMetAddr index)
          (ramBytes (rxCtrl core.regs (core.rxMet index).ctrl arrival.len
            arrival.att)) := by
    have ctrl : rxCtrl now.regs now.rxDesc.ctrl arrival.len arrival.att =
        rxCtrl core.regs (core.rxMet index).ctrl arrival.len arrival.att := by
      unfold rxCtrl
      rw [desc, kept, filling.rxl_eq]
    rw [rxStored_ram, rxPayloadRam, ctrl, kept, desc, filling.rxd_eq]
    rfl
  have outside : ∀ cell, ¬core.InBuffer arrivals index cell →
      ¬(core.rxMetAddr index ≤ cell ∧ cell < core.rxMetAddr index + 4) →
      (now.rxStored arrival.data arrival.len arrival.att).host.ram cell =
        now.host.ram cell := by
    intro cell notBuffer notControl
    rw [ram, Memory.write_apply_of_outside _ _ _ _ (by
        rw [length_ramBytes]
        omega),
      Memory.write_apply_of_outside]
    rw [Memory.length_read]
    by_contra inside
    exact notBuffer ⟨arrival, next, by omega, by omega⟩
  constructor
  · intro i upTo stored isStored
    by_cases last : i = index
    · subst last
      rw [next] at isStored
      cases isStored
      rw [ram]
      have inBuffer : ∀ offset < core.rxKept arrival,
          core.InBuffer arrivals i ((core.rxMet i).addr.toNat + offset) :=
        fun offset within => ⟨arrival, next, by omega, by omega⟩
      have slice := Memory.read_write_same now.host.ram
        (core.rxMet i).addr.toNat (arrival.data.read 0 (core.rxKept arrival))
      rw [Memory.length_read] at slice
      refine Eq.trans (Memory.read_congr ?_) slice
      intro offset within
      apply Memory.write_apply_of_outside
      have apart := receivable.tableApart i _ (inBuffer offset within) i
        (Nat.le_of_lt below)
      rw [length_ramBytes]
      omega
    · have earlier : i < index := by omega
      rw [← filling.holds.buffers i earlier stored isStored]
      apply Memory.read_congr
      intro offset within
      have inBuffer : core.InBuffer arrivals i
          ((core.rxMet i).addr.toNat + offset) :=
        ⟨stored, isStored, by omega, by omega⟩
      apply outside
      · intro inLast
        exact last (receivable.buffersApart i index _ inBuffer inLast)
      · have apart := receivable.tableApart i _ inBuffer index
          (Nat.le_of_lt below)
        omega
  · intro i upTo stored isStored
    by_cases last : i = index
    · subst last
      rw [next] at isStored
      cases isStored
      rw [ram, ramWord_write_ramBytes]
    · have earlier : i < index := by omega
      rw [← filling.holds.controls i earlier stored isStored]
      apply ramWord_congr
      intro cell above beneath
      have apart := rxMetAddr_apart aligned fun same =>
        last (receivable.distinct i (by omega) index below same)
      apply outside
      · intro inLast
        exact receivable.tableApart index cell inLast i (by omega)
          ⟨above, by omega⟩
      · omega
  · intro cell untouched
    have notLast : ¬core.InBuffer arrivals index cell ∧
        ¬(core.rxMetAddr index ≤ cell ∧ cell < core.rxMetAddr index + 4) := by
      constructor
      · exact fun inside => untouched ⟨index, by omega, Or.inl inside⟩
      · exact fun inside => untouched ⟨index, by omega, Or.inr inside⟩
    rw [outside cell notLast.1 notLast.2]
    apply filling.holds.nothingElse
    rintro ⟨i, before, inside⟩
    exact untouched ⟨i, by omega, inside⟩

theorem rxPulsesDue_succ (core : Core) (count : Nat) :
    core.rxPulsesDue (count + 1) = core.rxPulsesDue count +
      if checkbit (core.rxMet count).ctrl spwtrw0IE &&
        checkbit core.regs.chn spwchnTI then 1 else 0 := by
  unfold rxPulsesDue
  cases checkbit core.regs.chn spwchnTI with
  | false => simp
  | true =>
      rw [List.range_succ, List.countP_append]
      cases armed : checkbit (core.rxMet count).ctrl spwtrw0IE <;> simp [armed]

/-- One packet takes the ring one descriptor further. -/
theorem Filling.step
    (aligned : rxRing.stride ∣ core.regs.rxd.toNat)
    (receivable : Receivable core arrivals)
    (filling : Filling core arrivals now index)
    {arrival : Arrival}
    (next : arrivals[index]? = some arrival) :
    ∃ after, Grspw.step layout now arrival.input = .ok after ∧
      Filling core arrivals after (index + 1) := by
  have below : index < arrivals.length := (List.getElem?_eq_some_iff.mp next).1
  have desc := filling.rxDesc_eq aligned receivable below
  have armed : checkbit now.rxDesc.ctrl spwtrw0EN = true := by
    rw [desc]
    exact receivable.armed index below
  have accepts : rxAccepts now.regs arrival.data = true := by
    rw [filling.accepts_eq]
    exact receivable.accepted arrival (List.mem_of_getElem? next)
  have fetches : RxFetches layout now arrival.data :=
    ⟨accepts, filling.available, fun _ => filling.placed.within⟩
  have moves : Grspw.step layout now arrival.input =
      .ok (now.rxStored arrival.data arrival.len arrival.att) :=
    rxenable_stored fetches armed
  have maskKept : checkbit (setbit now.regs.chn spwchnPR) spwchnTI =
      checkbit now.regs.chn spwchnTI :=
    checkbit_setbit_of_disjoint (by decide)
  have moved : (now.rxRegs arrival.att).rxd.toNat =
      core.rxMetAddr (index + 1) := by
    rw [(rxRegs_rxd_eq_successor_iff filling.placed arrival.att).mpr
      fun _ => filling.inStep, desc, filling.rxd_eq]
    rfl
  refine ⟨_, moves, ?_⟩
  constructor
  · exact filling.placed.rxStored _ _ _
  · have kept : checkbit (setbit now.regs.chn spwchnPR) spwchnRD =
        checkbit now.regs.chn spwchnRD :=
      checkbit_setbit_of_disjoint (by decide)
    rw [rxStored_regs]
    exact kept.trans filling.available
  · rw [rxStored_regs]
    exact filling.rxl_eq
  · intro data
    rw [rxAccepts_rxStored, filling.accepts_eq]
  · rw [rxStored_regs]
    exact moved
  · rw [rxStored_rxdCur, rxStored_regs, moved, toNat_rxNext, desc,
      filling.inStep, filling.rxd_eq]
    exact (rxRing.selector_successor (core.rxMetAddr index)
      (checkbit (core.rxMet index).ctrl spwtrw0WR)).symm
  · rw [rxStored_regs]
    exact maskKept.trans filling.mask_eq
  · have pulsed : now.PulsesOnceIf
        (now.rxStored arrival.data arrival.len arrival.att) _ :=
      pulsesOnceIf_rxenable moves
    unfold PulsesOnceIf at pulsed
    rw [pulsed, rxStoring, accepts, filling.available, armed, filling.pulses_eq,
      filling.mask_eq, desc, rxPulsesDue_succ, Nat.add_assoc]
    rfl
  · exact filling.holds_succ aligned receivable next

/-- The packets still to come are stored as well. -/
theorem Filling.run
    (aligned : rxRing.stride ∣ core.regs.rxd.toNat)
    (receivable : Receivable core arrivals)
    {later : List Arrival}
    (filling : Filling core arrivals now index)
    (split : arrivals.drop index = later) :
    ∃ last,
      Machine.run (Grspw.step layout) now (later.map Arrival.input) =
        .ok last ∧
      Filling core arrivals last (index + later.length) := by
  induction later generalizing now index with
  | nil => exact ⟨now, rfl, filling⟩
  | cons arrival later inductionHypothesis =>
      have next : arrivals[index]? = some arrival := by
        rw [← List.head?_drop, split, List.head?_cons]
      obtain ⟨after, moves, filled⟩ :=
        @Filling.step layout _ _ _ _ aligned receivable filling _ next
      have rest : arrivals.drop (index + 1) = later := by
        rw [← List.tail_drop, split, List.tail_cons]
      obtain ⟨last, reaches, finished⟩ := inductionHypothesis filled rest
      refine ⟨last, ?_, ?_⟩
      · rw [List.map_cons, Machine.run_cons_of_ok moves, reaches]
      · rw [List.length_cons]
        have total : index + (later.length + 1) = index + 1 + later.length := by
          omega
        rw [total]
        exact finished

/-! ## When the ring is used up -/

end Steps

end Core

end Grspw
