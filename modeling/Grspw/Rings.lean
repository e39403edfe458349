import Mathlib.Data.Nat.ModEq
import Grspw.Bus
import Grspw.Lib.Ring

/-!
# The two descriptor rings of a core

Each engine keeps its ring position twice: in the selector of its table
register, where it fetches, and in a private index, from which the next
selector is computed.  A write of the table register or a reset moves the first
alone.  Every run whose steps never use the private index while the two differ
fetches in ring order.
-/

namespace Grspw

/-- The ring of transmit descriptors. -/
def txRing : DescriptorRing := ⟨16, 64, by decide, by decide⟩

/-- The ring of receive descriptors. -/
def rxRing : DescriptorRing := ⟨8, 128, by decide, by decide⟩

/-! ## Table registers as addresses -/

/-- The value written to a field of a table register, as an address. -/
theorem toNat_deposit_selector
    (reg value : Uint32)
    (low len : Nat)
    (fits : low + len ≤ 32)
    (aligned : 2 ^ low ∣ reg.toNat) :
    (deposit reg (fieldmask len <<< low) (value <<< low)).toNat =
      reg.toNat / (2 ^ low * 2 ^ len) * (2 ^ low * 2 ^ len) +
        2 ^ low * (value.toNat % 2 ^ len) := by
  have digit : (value <<< low).toNat / 2 ^ low % 2 ^ len =
      value.toNat % 2 ^ len := by
    have split : 2 ^ 32 = 2 ^ low * 2 ^ (32 - low) := by
      rw [← Nat.pow_add]
      congr 1
      omega
    have divides : 2 ^ len ∣ 2 ^ (32 - low) := Nat.pow_dvd_pow 2 (by omega)
    rw [BitVec.toNat_shiftLeft, Nat.shiftLeft_eq, Nat.mul_comm, split,
      Nat.mul_mod_mul_left, Nat.mul_div_cancel_left _ (Nat.two_pow_pos low),
      Nat.mod_mod_of_dvd _ divides]
  obtain ⟨index, isIndex⟩ := aligned
  have kept : index - index % 2 ^ len = index / 2 ^ len * 2 ^ len := by
    have division := Nat.div_add_mod index (2 ^ len)
    rw [Nat.mul_comm] at division
    omega
  rw [deposit, Word.toNat_replace_field reg _ low len fits, digit, isIndex,
    Nat.mul_div_cancel_left _ (Nat.two_pow_pos low),
    Nat.mul_div_mul_left _ _ (Nat.two_pow_pos low), Nat.mul_comm (2 ^ low) index,
    ← Nat.sub_mul, kept, Nat.mul_assoc, Nat.mul_comm (2 ^ len) (2 ^ low),
    Nat.mul_comm (2 ^ low) (value.toNat % 2 ^ len)]

/-- The address a guest selects by a value for a table register. -/
theorem toNat_table_value
    (ring : DescriptorRing)
    (value : Uint32)
    (low len : Nat)
    (fits : low + len = 32)
    (isStride : ring.stride = 2 ^ low) :
    (value &&& fieldmask len <<< low).toNat =
      ring.entry (ring.base value.toNat) (ring.selector value.toNat) := by
  have bound := value.isLt
  have small : value.toNat / 2 ^ low < 2 ^ len := by
    rw [Nat.div_lt_iff_lt_mul (Nat.two_pow_pos low), ← Nat.pow_add,
      Nat.add_comm, fits]
    exact bound
  have digits : (value &&& fieldmask len <<< low).toNat =
      value.toNat / ring.stride * ring.stride := by
    rw [isStride, Word.toNat_and_field value low len (by omega),
      Nat.mod_eq_of_lt small]
  have split := Nat.div_add_mod value.toNat ring.stride
  have aligned : ring.stride ∣ value.toNat / ring.stride * ring.stride :=
    Nat.dvd_mul_left ring.stride _
  have sameEntry :
      (value.toNat / ring.stride * ring.stride) / ring.stride =
        value.toNat / ring.stride :=
    Nat.mul_div_cancel _ ring.stride_pos
  have sameBase :
      ring.base (value.toNat / ring.stride * ring.stride) =
        ring.base value.toNat := by
    unfold DescriptorRing.base DescriptorRing.span
    rw [← Nat.div_div_eq_div_mul, ← Nat.div_div_eq_div_mul, sameEntry]
  have sameSelector :
      ring.selector (value.toNat / ring.stride * ring.stride) =
        ring.selector value.toNat := by
    unfold DescriptorRing.selector DescriptorRing.span
    rw [Nat.mod_mul_right_div_self, Nat.mod_mul_right_div_self, sameEntry]
  rw [digits, ← sameBase, ← sameSelector]
  exact (ring.entry_base_selector aligned).symm

/-- A value for a table register selects an aligned address. -/
theorem stride_dvd_table_value
    (ring : DescriptorRing)
    (value : Uint32)
    (low len : Nat)
    (fits : low + len = 32)
    (isStride : ring.stride = 2 ^ low) :
    ring.stride ∣ (value &&& fieldmask len <<< low).toNat := by
  rw [toNat_table_value ring value low len fits isStride]
  exact ring.stride_dvd_entry (ring.stride_dvd_base value.toNat) _

/-- Putting the position after `position` into a table register moves it along
the ring exactly when the entry wraps or the register selected `position`. -/
theorem toNat_deposit_eq_successor_iff
    (ring : DescriptorRing)
    {reg next : Uint32}
    {low len position : Nat}
    {wraps : Bool}
    (fits : low + len ≤ 32)
    (isStride : ring.stride = 2 ^ low)
    (isCount : ring.count = 2 ^ len)
    (aligned : ring.stride ∣ reg.toNat)
    (within : position < ring.count)
    (isNext : next.toNat =
      if wraps then 0 else (position + 1) % ring.count) :
    (deposit reg (fieldmask len <<< low) (next <<< low)).toNat =
        ring.successor reg.toNat wraps ↔
      (wraps = false → position = ring.selector reg.toNat) := by
  have moved :
      (deposit reg (fieldmask len <<< low) (next <<< low)).toNat =
        ring.entry (ring.base reg.toNat) (next.toNat % ring.count) := by
    rw [isStride] at aligned
    rw [toNat_deposit_selector reg next low len fits aligned, ← isStride,
      ← isCount]
    rfl
  have bound := ring.selector_lt reg.toNat
  rw [moved, isNext, DescriptorRing.successor]
  cases wraps with
  | true => simp [DescriptorRing.entry]
  | false =>
      simp only [Bool.false_eq_true, if_false, Nat.mod_mod, forall_const]
      constructor
      · intro equal
        have selectors := ring.entry_injective equal
        have congruent : position ≡ ring.selector reg.toNat [MOD ring.count] :=
          Nat.ModEq.add_right_cancel' 1 selectors
        exact congruent.eq_of_lt_of_lt within bound
      · intro equal
        rw [equal]

/-! ## The transmit ring -/

/-- What a call shows of the transmit ring. -/
def txEvent (core : Core) : Input → DescriptorRing.Event
  | .write .txd value =>
      .tableWritten
        (txRing.entry (txRing.base value.toNat) (txRing.selector value.toNat))
  | .write .ctr value =>
      if checkbit value spwctrRS then .tableReset else .quiet
  | .transmit =>
      if checkbit core.regs.chn spwchnTE then
        .fetched core.regs.txd.toNat
          (if checkbit core.txDescr.ctrl spwtdw0EN then
            some (checkbit core.txDescr.ctrl spwtdw0WR)
          else none)
      else .quiet
  | _ => .quiet

/-- A transmit call that processes a descriptor without wrap does so while the
private index equals the selector of SPWTXD. -/
def TxInStep (core : Core) : Input → Prop
  | .transmit =>
      checkbit core.regs.chn spwchnTE = true →
      checkbit core.txDescr.ctrl spwtdw0EN = true →
      checkbit core.txDescr.ctrl spwtdw0WR = false →
        core.device.txdCur.toNat = txRing.selector core.regs.txd.toNat
  | _ => True

instance (core : Core) (input : Input) : Decidable (TxInStep core input) :=
  match input with
  | .transmit => inferInstanceAs (Decidable (_ → _ → _ → _))
  | .write _ _ => isTrue trivial
  | .read _ => isTrue trivial
  | .packet _ _ _ => isTrue trivial
  | .timecode _ => isTrue trivial
  | .ambient _ _ => isTrue trivial

/-- SPWTXD is a multiple of the entry size and the private index is in range. -/
structure TxPlaced (core : Core) : Prop where
  aligned : txRing.stride ∣ core.regs.txd.toNat
  within : core.device.txdCur.toNat < txRing.count

/-- The selector computed for the next packet, unless the fetch ran into the ring
positions. -/
theorem toNat_txNext_of_clear
    {layout : Layout}
    {core : Core}
    (admits : layout.Admits core.device.txdCur nbTxDescriptor)
    (clear : layout = .packed → core.device.txdCur.toNat ≠ 63) :
    (core.txNext layout).toNat =
      if checkbit core.txDescr.ctrl spwtdw0WR then 0
      else (core.device.txdCur.toNat + 1) % txRing.count := by
  have fetched := core.txFetched_txdCur layout admits
  rw [if_neg fun last => clear last.1 last.2] at fetched
  rw [Core.txNext, fetched]
  cases checkbit core.txDescr.ctrl spwtdw0WR with
  | true => rfl
  | false => exact toNat_succ_umod_nbTxDescriptor core.device.txdCur

/-- The selector computed for the next packet. -/
theorem toNat_txNext (core : Core) :
    (core.txNext .disjoint).toNat =
      if checkbit core.txDescr.ctrl spwtdw0WR then 0
      else (core.device.txdCur.toNat + 1) % txRing.count :=
  toNat_txNext_of_clear (Layout.admits_disjoint _ _) (by
    intro packed
    cases packed)

/-- Wherever the scratch copies lie, the next ring position is in range. -/
theorem toNat_txNext_lt (layout : Layout) (core : Core) :
    (core.txNext layout).toNat < txRing.count := by
  unfold Core.txNext
  split
  · exact txRing.count_pos
  · rw [toNat_succ_umod_nbTxDescriptor]
    exact Nat.mod_lt _ txRing.count_pos

/-- A packet moves SPWTXD along the ring exactly when it was sent in step. -/
theorem txRegs_txd_eq_successor_iff
    {core : Core}
    (placed : TxPlaced core) :
    (core.txRegs .disjoint).txd.toNat =
        txRing.successor core.regs.txd.toNat
          (checkbit core.txDescr.ctrl spwtdw0WR) ↔
      (checkbit core.txDescr.ctrl spwtdw0WR = false →
        core.device.txdCur.toNat = txRing.selector core.regs.txd.toNat) :=
  toNat_deposit_eq_successor_iff txRing (by decide) rfl rfl placed.aligned
    placed.within (toNat_txNext core)

/-- A packet keeps SPWTXD aligned. -/
theorem stride_dvd_txRegs_txd
    {core : Core}
    (aligned : txRing.stride ∣ core.regs.txd.toNat)
    (layout : Layout) :
    txRing.stride ∣ (core.txRegs layout).txd.toNat := by
  have moved := toNat_deposit_selector core.regs.txd (core.txNext layout) 4 6
    (by decide) aligned
  change txRing.stride ∣ (deposit core.regs.txd (fieldmask 6 <<< 4)
    (core.txNext layout <<< 4)).toNat
  rw [moved]
  exact txRing.stride_dvd_entry (txRing.stride_dvd_base core.regs.txd.toNat) _

theorem stride_dvd_txReleased_txd
    {core : Core}
    (aligned : txRing.stride ∣ core.regs.txd.toNat)
    (layout : Layout) :
    txRing.stride ∣ (core.txReleased layout).regs.txd.toNat := by
  rw [Core.txReleased_regs]
  exact stride_dvd_txRegs_txd aligned layout

/-- A register write keeps SPWTXD aligned. -/
theorem stride_dvd_written_txd
    {core : Core}
    (aligned : txRing.stride ∣ core.regs.txd.toNat)
    (regOffset : RegOffset)
    (value : Uint32) :
    txRing.stride ∣ (core.written regOffset value).regs.txd.toNat := by
  have register : (core.written regOffset value).regs.txd = _ :=
    regsWritten_txd core.device.grspwId core.regs value regOffset
  rw [register]
  cases regOffset with
  | ctr =>
      cases checkbit value spwctrRS with
      | true => exact Nat.dvd_zero _
      | false => exact aligned
  | txd => exact stride_dvd_table_value txRing value 4 28 rfl rfl
  | _ => exact aligned

/-- Every step keeps the transmit position well formed. -/
theorem txPlaced_step
    {core after : Core}
    {input : Input}
    (placed : TxPlaced core)
    (moves : step .disjoint core input = .ok after) :
    TxPlaced after := by
  cases stepped_of_step moves with
  | written regOffset value =>
      exact ⟨stride_dvd_written_txd placed.aligned regOffset value,
        placed.within⟩
  | polled polls =>
      refine ⟨placed.aligned, ?_⟩
      rw [Core.txPolled_txdCur, Core.txFetched_txdCur _ _ polls.admits,
        if_neg (by simp)]
      exact placed.within
  | sent sends =>
      constructor
      · exact stride_dvd_txReleased_txd placed.aligned .disjoint
      · rw [Core.txReleased_txdCur _ _ sends.admits]
        exact toNat_txNext_lt .disjoint core
  | stored data len att fetches armed =>
      refine ⟨?_, placed.within⟩
      rw [Core.rxStored_regs]
      exact placed.aligned
  | _ => exact ⟨placed.aligned, placed.within⟩

theorem txPlaced_apbgrspwInit (grspwId : GrspwId) (ram : Memory Uint8) :
    TxPlaced (apbgrspwInit grspwId ram) :=
  ⟨Nat.dvd_zero _, txRing.count_pos⟩

/-- Every step in step moves SPWTXD along the ring. -/
theorem txFollows
    {core after : Core}
    {input : Input}
    (placed : TxPlaced core)
    (inStep : TxInStep core input)
    (moves : step .disjoint core input = .ok after) :
    txRing.Follows core.regs.txd.toNat after.regs.txd.toNat
      (txEvent core input) := by
  cases stepped_of_step moves with
  | written regOffset value =>
      have register : (core.written regOffset value).regs.txd = _ :=
        regsWritten_txd core.device.grspwId core.regs value regOffset
      rw [register]
      cases regOffset with
      | ctr =>
          simp only [txEvent]
          cases checkbit value spwctrRS with
          | true => trivial
          | false => rfl
      | txd => exact toNat_table_value txRing value 4 28 rfl rfl
      | _ => rfl
  | idle disabled =>
      simp only [txEvent, disabled, Bool.false_eq_true, if_false]
      rfl
  | polled polls =>
      simp only [txEvent, polls.enabled, polls.unarmed, Bool.false_eq_true,
        if_false, if_true]
      rfl
  | sent sends =>
      simp only [txEvent, sends.enabled, sends.armed, if_true]
      rw [Core.txReleased_regs]
      exact (txRegs_txd_eq_successor_iff placed).mpr
        (inStep sends.enabled sends.armed)
  | stored data len att fetches armed =>
      rw [Core.rxStored_regs]
      rfl
  | _ => rfl

/-- The transmitter fetches at SPWTXD. -/
theorem txEvent_fetched
    {core : Core}
    {input : Input}
    {addr : Nat}
    {processed : Option Bool}
    (seen : txEvent core input = .fetched addr processed) :
    addr = core.regs.txd.toNat := by
  unfold txEvent at seen
  split at seen
  · cases seen
  · split_ifs at seen
  · split_ifs at seen <;> cases seen <;> rfl
  · cases seen

/-- **The transmit ring.**  Where the scratch copies overlap nothing, every run
in which descriptors without wrap are only processed in step fetches its
descriptors in ring order. -/
theorem txRing_accepts
    (grspwId : GrspwId)
    (ram : Memory Uint8)
    (inputs : List Input)
    (inStep : Machine.Guarded (step .disjoint) TxInStep
      (apbgrspwInit grspwId ram) inputs) :
    txRing.monitor.Accepts none
      (Machine.observe (step .disjoint) txEvent (apbgrspwInit grspwId ram)
        inputs) :=
  txRing.accepts_of_follows (fun core : Core => core.regs.txd.toNat)
    (fun _ _ _ _ => txEvent_fetched) (fun _ _ _ => txFollows)
    (fun _ _ _ => txPlaced_step) (txPlaced_apbgrspwInit grspwId ram) inStep

theorem txRing_accepts_first_packets :
    txRing.monitor.Accepts none
      (Machine.observe (step .disjoint) txEvent
        (apbgrspwInit 0 (enabledRam 16 2 0x10))
        (busCalls [.write .chn 1, .write .key 0, .write .key 0])) :=
  txRing_accepts 0 (enabledRam 16 2 0x10)
    (busCalls [.write .chn 1, .write .key 0, .write .key 0]) (by decide)

/-- A guest that selects entry 1 has it sent and then fetched again. -/
theorem not_txRing_accepts :
    ¬∀ (grspwId : GrspwId) (ram : Memory Uint8) (inputs : List Input),
      txRing.monitor.Accepts none
        (Machine.observe (step .disjoint) txEvent (apbgrspwInit grspwId ram)
          inputs) := by
  intro all
  exact absurd
    (all 0 (enabledRam 16 2 0x10)
      (busCalls [.write .txd 0x10, .write .chn 1, .write .key 0]))
    (by decide)

/-- Sending out of step breaks the order at the next fetch. -/
theorem not_txRing_accepts_of_not_inStep
    {core : Core}
    (placed : TxPlaced core)
    (sends : TxSends .disjoint core)
    (outOfStep : ¬TxInStep core .transmit) :
    ¬txRing.monitor.Accepts none
      (Machine.observe (step .disjoint) txEvent core
        [.transmit, .transmit]) := by
  have moves : step .disjoint core .transmit =
      .ok (core.txReleased .disjoint) := by
    simp [step, sends.txenable_eq, Except.map]
  have stillEnabled :
      checkbit (core.txReleased .disjoint).regs.chn spwchnTE = true := by
    rw [Core.txReleased_regs]
    have kept : checkbit (setbit core.regs.chn spwchnPS) spwchnTE =
        checkbit core.regs.chn spwchnTE :=
      checkbit_setbit_of_disjoint (by decide)
    exact kept.trans sends.enabled
  intro accepts
  simp only [Machine.observe, moves, txEvent, sends.enabled, sends.armed,
    stillEnabled, if_true] at accepts
  obtain ⟨_, next, _⟩ := accepts
  cases next with
  | inl none => cases none
  | inr due =>
      have reached := (Option.some.inj due).symm
      rw [Core.txReleased_regs] at reached
      exact outOfStep fun _ _ =>
        (txRegs_txd_eq_successor_iff placed).mp reached

/-! ## The receive ring -/

/-- What a call shows of the receive ring. -/
def rxEvent (core : Core) : Input → DescriptorRing.Event
  | .write .rxd value =>
      .tableWritten
        (rxRing.entry (rxRing.base value.toNat) (rxRing.selector value.toNat))
  | .write .ctr value =>
      if checkbit value spwctrRS then .tableReset else .quiet
  | .packet data _ _ =>
      if rxAccepts core.regs data && checkbit core.regs.chn spwchnRD then
        .fetched core.regs.rxd.toNat
          (if checkbit core.rxDesc.ctrl spwtrw0EN then
            some (checkbit core.rxDesc.ctrl spwtrw0WR)
          else none)
      else .quiet
  | _ => .quiet

/-- A packet stored through a descriptor without wrap arrives while the private
index equals the selector of SPWRXD. -/
def RxInStep (core : Core) : Input → Prop
  | .packet data _ _ =>
      rxAccepts core.regs data = true →
      checkbit core.regs.chn spwchnRD = true →
      checkbit core.rxDesc.ctrl spwtrw0EN = true →
      checkbit core.rxDesc.ctrl spwtrw0WR = false →
        core.device.rxdCur.toNat = rxRing.selector core.regs.rxd.toNat
  | _ => True

instance (core : Core) (input : Input) : Decidable (RxInStep core input) :=
  match input with
  | .packet _ _ _ => inferInstanceAs (Decidable (_ → _ → _ → _ → _))
  | .write _ _ => isTrue trivial
  | .read _ => isTrue trivial
  | .transmit => isTrue trivial
  | .timecode _ => isTrue trivial
  | .ambient _ _ => isTrue trivial

/-- SPWRXD is a multiple of the entry size and the private index is in range. -/
structure RxPlaced (core : Core) : Prop where
  aligned : rxRing.stride ∣ core.regs.rxd.toNat
  within : core.device.rxdCur.toNat < rxRing.count

/-- The selector computed for the next packet. -/
theorem toNat_rxNext (core : Core) :
    core.rxNext.toNat =
      if checkbit core.rxDesc.ctrl spwtrw0WR then 0
      else (core.device.rxdCur.toNat + 1) % rxRing.count := by
  unfold Core.rxNext
  cases checkbit core.rxDesc.ctrl spwtrw0WR with
  | true => rfl
  | false => exact toNat_succ_umod_nbRxDescriptor core.device.rxdCur

theorem toNat_rxNext_lt (core : Core) :
    core.rxNext.toNat < rxRing.count := by
  rw [toNat_rxNext]
  split
  · exact rxRing.count_pos
  · exact Nat.mod_lt _ rxRing.count_pos

/-- A packet moves SPWRXD along the ring exactly when it was stored in step. -/
theorem rxRegs_rxd_eq_successor_iff
    {core : Core}
    (placed : RxPlaced core)
    (att : RecvAtt) :
    (core.rxRegs att).rxd.toNat =
        rxRing.successor core.regs.rxd.toNat
          (checkbit core.rxDesc.ctrl spwtrw0WR) ↔
      (checkbit core.rxDesc.ctrl spwtrw0WR = false →
        core.device.rxdCur.toNat = rxRing.selector core.regs.rxd.toNat) :=
  toNat_deposit_eq_successor_iff rxRing (by decide) rfl rfl placed.aligned
    placed.within (toNat_rxNext core)

/-- A packet keeps SPWRXD aligned. -/
theorem stride_dvd_rxRegs_rxd
    {core : Core}
    (aligned : rxRing.stride ∣ core.regs.rxd.toNat)
    (att : RecvAtt) :
    rxRing.stride ∣ (core.rxRegs att).rxd.toNat := by
  have moved := toNat_deposit_selector core.regs.rxd core.rxNext 3 7
    (by decide) aligned
  change rxRing.stride ∣ (deposit core.regs.rxd (fieldmask 7 <<< 3)
    (core.rxNext <<< 3)).toNat
  rw [moved]
  exact rxRing.stride_dvd_entry (rxRing.stride_dvd_base core.regs.rxd.toNat) _

/-- A register write keeps SPWRXD aligned. -/
theorem stride_dvd_written_rxd
    {core : Core}
    (aligned : rxRing.stride ∣ core.regs.rxd.toNat)
    (regOffset : RegOffset)
    (value : Uint32) :
    rxRing.stride ∣ (core.written regOffset value).regs.rxd.toNat := by
  have register : (core.written regOffset value).regs.rxd = _ :=
    regsWritten_rxd core.device.grspwId core.regs value regOffset
  rw [register]
  cases regOffset with
  | ctr =>
      cases checkbit value spwctrRS with
      | true => exact Nat.dvd_zero _
      | false => exact aligned
  | rxd => exact stride_dvd_table_value rxRing value 3 29 rfl rfl
  | _ => exact aligned

/-- A packet stored keeps the receive position well formed. -/
theorem RxPlaced.rxStored
    {core : Core}
    (placed : RxPlaced core)
    (data : Memory Uint8)
    (len : Uint32)
    (att : RecvAtt) :
    RxPlaced (core.rxStored data len att) := by
  constructor
  · rw [Core.rxStored_regs]
    exact stride_dvd_rxRegs_rxd placed.aligned att
  · rw [Core.rxStored_rxdCur]
    exact toNat_rxNext_lt core

/-- Every step keeps the receive position well formed. -/
theorem rxPlaced_step
    {core after : Core}
    {input : Input}
    (placed : RxPlaced core)
    (moves : step .disjoint core input = .ok after) :
    RxPlaced after := by
  cases stepped_of_step moves with
  | written regOffset value =>
      exact ⟨stride_dvd_written_rxd placed.aligned regOffset value,
        placed.within⟩
  | polled polls =>
      refine ⟨placed.aligned, ?_⟩
      rw [Core.txPolled_rxdCur, Core.txFetched_rxdCur _ _ polls.admits,
        if_neg (by simp)]
      exact placed.within
  | sent sends =>
      constructor
      · rw [Core.txReleased_regs]
        exact placed.aligned
      · rw [Core.txReleased_rxdCur _ _ sends.admits,
          Core.txFetched_rxdCur _ _ sends.admits, if_neg (by simp)]
        exact placed.within
  | stored data len att fetches armed => exact placed.rxStored data len att
  | _ => exact ⟨placed.aligned, placed.within⟩

theorem rxPlaced_apbgrspwInit (grspwId : GrspwId) (ram : Memory Uint8) :
    RxPlaced (apbgrspwInit grspwId ram) :=
  ⟨Nat.dvd_zero _, rxRing.count_pos⟩

/-- Every step in step moves SPWRXD along the ring; a packet that is not stored
does not move it. -/
theorem rxFollows
    {core after : Core}
    {input : Input}
    (placed : RxPlaced core)
    (inStep : RxInStep core input)
    (moves : step .disjoint core input = .ok after) :
    rxRing.Follows core.regs.rxd.toNat after.regs.rxd.toNat
      (rxEvent core input) := by
  cases stepped_of_step moves with
  | written regOffset value =>
      have register : (core.written regOffset value).regs.rxd = _ :=
        regsWritten_rxd core.device.grspwId core.regs value regOffset
      rw [register]
      cases regOffset with
      | ctr =>
          simp only [rxEvent]
          cases checkbit value spwctrRS with
          | true => trivial
          | false => rfl
      | rxd => exact toNat_table_value rxRing value 3 29 rfl rfl
      | _ => rfl
  | sent sends =>
      rw [Core.txReleased_regs]
      rfl
  | deaf data len att refused =>
      simp only [rxEvent, refused, Bool.false_and, Bool.false_eq_true, if_false]
      rfl
  | dropped data len att accepts unavailable =>
      simp only [rxEvent, unavailable, Bool.and_false, Bool.false_eq_true,
        if_false]
      rfl
  | refused data len att fetches unarmed =>
      simp only [rxEvent, fetches.accepts, fetches.available, unarmed,
        Bool.and_self, Bool.false_eq_true, if_true, if_false]
      rfl
  | stored data len att fetches armed =>
      simp only [rxEvent, fetches.accepts, fetches.available, armed,
        Bool.and_self, if_true]
      rw [Core.rxStored_regs]
      exact (rxRegs_rxd_eq_successor_iff placed att).mpr
        (inStep fetches.accepts fetches.available armed)
  | _ => rfl

/-- The receiver fetches at SPWRXD. -/
theorem rxEvent_fetched
    {core : Core}
    {input : Input}
    {addr : Nat}
    {processed : Option Bool}
    (seen : rxEvent core input = .fetched addr processed) :
    addr = core.regs.rxd.toNat := by
  unfold rxEvent at seen
  split at seen
  · cases seen
  · split_ifs at seen
  · split_ifs at seen <;> cases seen <;> rfl
  · cases seen

/-- **The receive ring.**  Where the scratch copies overlap nothing, every run
in which descriptors without wrap are only used in step fetches its descriptors
in ring order. -/
theorem rxRing_accepts
    (grspwId : GrspwId)
    (ram : Memory Uint8)
    (inputs : List Input)
    (inStep : Machine.Guarded (step .disjoint) RxInStep
      (apbgrspwInit grspwId ram) inputs) :
    rxRing.monitor.Accepts none
      (Machine.observe (step .disjoint) rxEvent (apbgrspwInit grspwId ram)
        inputs) :=
  rxRing.accepts_of_follows (fun core : Core => core.regs.rxd.toNat)
    (fun _ _ _ _ => rxEvent_fetched) (fun _ _ _ => rxFollows)
    (fun _ _ _ => rxPlaced_step) (rxPlaced_apbgrspwInit grspwId ram) inStep

theorem rxRing_accepts_first_packets :
    rxRing.monitor.Accepts none
      (Machine.observe (step .disjoint) rxEvent
        (apbgrspwInit 0 (enabledRam 8 0 0x02))
        (busCalls [.write .chn 0x802, nodePacket, nodePacket])) :=
  rxRing_accepts 0 (enabledRam 8 0 0x02)
    (busCalls [.write .chn 0x802, nodePacket, nodePacket]) (by decide)

/-- A guest that selects entry 1 has two packets stored through it. -/
theorem not_rxRing_accepts :
    ¬∀ (grspwId : GrspwId) (ram : Memory Uint8) (inputs : List Input),
      rxRing.monitor.Accepts none
        (Machine.observe (step .disjoint) rxEvent (apbgrspwInit grspwId ram)
          inputs) := by
  intro all
  exact absurd
    (all 0 (enabledRam 8 0 0x02)
      (busCalls [.write .rxd 8, .write .chn 0x802, nodePacket, nodePacket]))
    (by decide)

/-- Storing out of step breaks the order at the next fetch. -/
theorem not_rxRing_accepts_of_not_inStep
    {core : Core}
    {data : Memory Uint8}
    {len : Uint32}
    {att : RecvAtt}
    (placed : RxPlaced core)
    (outOfStep : ¬RxInStep core (.packet data len att)) :
    ¬rxRing.monitor.Accepts none
      (Machine.observe (step .disjoint) rxEvent core
        [.packet data len att, .packet data len att]) := by
  simp only [RxInStep, Classical.not_imp] at outOfStep
  obtain ⟨accepted, available, armed, noWrap, apart⟩ := outOfStep
  have fetches : RxFetches .disjoint core data :=
    ⟨accepted, available, Layout.admits_disjoint _ _⟩
  have moves : step .disjoint core (.packet data len att) =
      .ok (core.rxStored data len att) := rxenable_stored fetches armed
  have stillAvailable :
      checkbit (core.rxStored data len att).regs.chn spwchnRD = true := by
    rw [Core.rxStored_regs]
    have kept : checkbit (setbit core.regs.chn spwchnPR) spwchnRD =
        checkbit core.regs.chn spwchnRD :=
      checkbit_setbit_of_disjoint (by decide)
    exact kept.trans available
  have stillAccepted :
      rxAccepts (core.rxStored data len att).regs data = true := by
    rw [Core.rxStored_regs, ← accepted]
    have kept : checkbit (setbit core.regs.chn spwchnPR) spwchnRE =
        checkbit core.regs.chn spwchnRE :=
      checkbit_setbit_of_disjoint (by decide)
    unfold rxAccepts
    rw [← kept]
    rfl
  intro accepts
  simp only [Machine.observe, moves, rxEvent, accepted, available, armed,
    stillAccepted, stillAvailable, Bool.and_self, if_true] at accepts
  obtain ⟨_, next, _⟩ := accepts
  cases next with
  | inl none => cases none
  | inr due =>
      have reached := (Option.some.inj due).symm
      rw [Core.rxStored_regs] at reached
      exact apart ((rxRegs_rxd_eq_successor_iff placed att).mp reached noWrap)

end Grspw
