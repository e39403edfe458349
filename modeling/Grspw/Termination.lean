import Mathlib.Data.Finset.Card
import Grspw.Drain
import Grspw.Footprint
import Grspw.Lib.Loop

/-!
# The transmit loop stops

Nothing in the transmit loop counts down: what each packet takes away is one
enabled control word of the 64 in the table, whichever entry the ring position
and the selector lead to.
-/

namespace Grspw

namespace Core

/-- The entries of the table in use whose control word is enabled. -/
def txEnabled (core : Core) : Finset Nat :=
  (Finset.range txRing.count).filter fun position =>
    checkbit
      (ramWord core.host.ram
        (txRing.entry (txRing.base core.regs.txd.toNat) position))
      spwtdw0EN = true

theorem card_txEnabled_le (core : Core) :
    core.txEnabled.card ≤ txRing.count :=
  calc core.txEnabled.card
      ≤ (Finset.range txRing.count).card := Finset.card_filter_le _ _
    _ = txRing.count := Finset.card_range _

section Release

variable
  {layout : Layout}
  {core : Core}

/-- A packet leaves SPWTXD in its table. -/
theorem base_txReleased
    (aligned : txRing.stride ∣ core.regs.txd.toNat) :
    txRing.base (core.txReleased layout).regs.txd.toNat =
      txRing.base core.regs.txd.toNat := by
  have moved := toNat_deposit_selector core.regs.txd (core.txNext layout) 4 6
    (by decide) aligned
  have register : (core.txReleased layout).regs.txd.toNat =
      txRing.entry (txRing.base core.regs.txd.toNat)
        ((core.txNext layout).toNat % 2 ^ 6) := by
    rw [txReleased_regs]
    exact moved
  rw [register]
  exact txRing.base_entry _ (Nat.mod_lt _ (by decide))

/-- A packet releases the entry it was fetched from. -/
theorem released_entry
    (aligned : txRing.stride ∣ core.regs.txd.toNat)
    (sends : TxSends layout core) :
    checkbit
      (ramWord (core.txReleased layout).host.ram
        (txRing.entry (txRing.base core.regs.txd.toNat)
          (txRing.selector core.regs.txd.toNat)))
      spwtdw0EN = false := by
  rw [txRing.entry_base_selector aligned, ramWord_txReleased sends]
  exact checkbit_clearbit_self (by decide)

/-- A packet leaves the control words of all other entries alone. -/
theorem other_entry
    (aligned : txRing.stride ∣ core.regs.txd.toNat)
    (sends : TxSends layout core)
    {position : Nat}
    (other : position ≠ txRing.selector core.regs.txd.toNat) :
    ramWord (core.txReleased layout).host.ram
        (txRing.entry (txRing.base core.regs.txd.toNat) position) =
      ramWord core.host.ram
        (txRing.entry (txRing.base core.regs.txd.toNat) position) := by
  have fetched := txRing.entry_base_selector aligned
  rw [txReleased_ram sends]
  apply ramWord_write_of_disjoint
  have stride : txRing.stride = 16 := rfl
  rw [length_ramBytes]
  simp only [DescriptorRing.entry, stride] at fetched ⊢
  omega

theorem selector_mem_txEnabled
    (aligned : txRing.stride ∣ core.regs.txd.toNat)
    (armed : checkbit core.txDescr.ctrl spwtdw0EN = true) :
    txRing.selector core.regs.txd.toNat ∈ core.txEnabled := by
  simp only [txEnabled, Finset.mem_filter, Finset.mem_range,
    txRing.entry_base_selector aligned]
  exact ⟨txRing.selector_lt _, armed⟩

/-- A packet takes the entry it was fetched from out of those enabled. -/
theorem txEnabled_txReleased
    (aligned : txRing.stride ∣ core.regs.txd.toNat)
    (sends : TxSends layout core) :
    (core.txReleased layout).txEnabled =
      core.txEnabled.erase (txRing.selector core.regs.txd.toNat) := by
  ext position
  rw [Finset.mem_erase]
  simp only [txEnabled, Finset.mem_filter, Finset.mem_range,
    base_txReleased aligned]
  by_cases own : position = txRing.selector core.regs.txd.toNat
  · subst own
    simp [released_entry aligned sends]
  · simp [own, other_entry aligned sends own]

/-- A packet takes one entry from those enabled. -/
theorem card_txEnabled_txReleased
    (aligned : txRing.stride ∣ core.regs.txd.toNat)
    (sends : TxSends layout core) :
    (core.txReleased layout).txEnabled.card + 1 = core.txEnabled.card := by
  rw [txEnabled_txReleased aligned sends]
  exact Finset.card_erase_add_one (selector_mem_txEnabled aligned sends.armed)

/-- A packet leaves a placed core placed. -/
theorem txPlaced_txReleased
    (placed : TxPlaced core)
    (layout : Layout) :
    TxPlaced (core.txReleased layout) := by
  have admits : layout.Admits core.device.txdCur nbTxDescriptor :=
    fun _ => placed.within
  constructor
  · exact stride_dvd_txReleased_txd placed.aligned layout
  · rw [txReleased_txdCur _ _ admits]
    exact toNat_txNext_lt layout core

end Release

/-- One transmit call of a placed core fails to send, or stops with the
transmitter off, or leaves a placed core with fewer entries enabled. -/
theorem txenable_moves
    {layout : Layout}
    {core : Core}
    (placed : TxPlaced core) :
    (∃ fault, (∃ msg, fault = Fault.checkFatal msg) ∧
      txenable layout core = .error fault) ∨
    (∃ next, txenable layout core = .ok (true, next) ∧
      checkbit next.regs.chn spwchnTE = false) ∨
    (∃ next, txenable layout core = .ok (false, next) ∧ TxPlaced next ∧
      next.txEnabled.card < core.txEnabled.card) := by
  have admits : layout.Admits core.device.txdCur nbTxDescriptor :=
    fun _ => placed.within
  cases enabled : checkbit core.regs.chn spwchnTE with
  | false => exact Or.inr (Or.inl ⟨core, txenable_idle enabled, enabled⟩)
  | true =>
      cases armed : checkbit core.txDescr.ctrl spwtdw0EN with
      | false =>
          refine Or.inr (Or.inl ⟨_, txenable_polled enabled admits armed, ?_⟩)
          rw [txPolled_regs]
          exact checkbit_clearbit_self (by decide)
      | true =>
          have call := txenable_armed enabled admits armed
          by_cases fits : Fits core.txHeader core.txData
          · have sends : TxSends layout core := ⟨enabled, admits, armed, fits⟩
            have released := card_txEnabled_txReleased placed.aligned sends
            exact Or.inr (Or.inr ⟨_, sends.txenable_eq,
              txPlaced_txReleased placed layout, by omega⟩)
          · rw [if_neg fits] at call
            exact Or.inl ⟨_, ⟨_, rfl⟩, call⟩

end Core

/-- **Termination.**  From every device whose ring position is in range and
whose SPWTXD is aligned, over every guest RAM, and wherever the scratch copies
lie: if no send fails, the transmit loop stops after at most 65 calls with the
transmitter off, and one more call changes nothing. -/
theorem txUntilStopped_terminates
    (layout : Layout)
    (core : Core)
    (within : core.device.txdCur.toNat < 64)
    (aligned : 16 ∣ core.regs.txd.toNat)
    (sends : ∀ fuel msg,
      txUntilStopped layout fuel core ≠ .error (.checkFatal msg)) :
    ∃ after, txUntilStopped layout 65 core = .ok (some after) ∧
      checkbit after.regs.chn spwchnTE = false ∧
      txenable layout after = .ok (true, after) := by
  have avoids : Loop.Avoids (txenable layout)
      (fun fault => ∃ msg, fault = Fault.checkFatal msg) core := by
    rintro fuel fault ⟨msg, rfl⟩
    exact sends fuel msg
  have atMost : core.txEnabled.card < 65 :=
    Nat.lt_succ_of_le core.card_txEnabled_le
  obtain ⟨after, stopped, off⟩ := Loop.exists_stopped_of_measure
    (fun core : Core => core.txEnabled.card)
    (fun _ placed => Core.txenable_moves placed)
    (⟨aligned, within⟩ : TxPlaced core) avoids atMost
  exact ⟨after, stopped, off, txenable_idle off⟩

/-- The loop on a fresh core before two armed descriptors. -/
theorem txUntilStopped_terminates_twoArmed :
    ∃ after,
      txUntilStopped .disjoint 65 (Core.twoArmed.written .chn spwchnTE) =
        .ok (some after) ∧
      checkbit after.regs.chn spwchnTE = false ∧
      txenable .disjoint after = .ok (true, after) := by
  have aligned : txRing.stride ∣ Core.twoArmed.regs.txd.toNat := Nat.dvd_zero _
  have enables : checkbit spwchnTE spwchnTE = true := by decide
  obtain ⟨last, stopped, _⟩ := Core.txUntilStopped_drains aligned
    Core.drainable_twoArmed (Core.twoArmed.clearOfLast_disjoint 2) enables
    (by decide)
  apply txUntilStopped_terminates
  · decide
  · exact aligned
  · intro fuel msg
    exact Loop.avoids_of_stopped stopped (fun _ => True) fuel _ trivial

end Grspw
