import Grspw.Transmit

/-!
# The transmit scratch array and the ring positions

In the C layout the copy of the descriptor at ring position 63 reaches past the
scratch array, over the two ring positions.  This file says what a transmit
call should leave of them and when it does.
-/

namespace Grspw

namespace Core

/-- The ring position a transmit call should leave. -/
def txdCurAfter (core : Core) : Uint32 :=
  if checkbit core.txDescr.ctrl spwtdw0EN then
    if checkbit core.txDescr.ctrl spwtdw0WR then 0
    else (core.device.txdCur + 1) % nbTxDescriptor
  else core.device.txdCur

/-- What a transmit call should keep and set of the ring positions and the
registers. -/
structure KeepsRing (before after : Core) : Prop where
  rxdCur_eq : after.device.rxdCur = before.device.rxdCur
  regs_eq : after.regs =
    { before.regs with chn := after.regs.chn, txd := after.regs.txd }
  txdCur_eq : after.device.txdCur = before.txdCurAfter

/-- The transmit call returns and leaves the ring as it should. -/
def TxenableKeepsRing (layout : Layout) (core : Core) : Prop :=
  ∃ stop after, txenable layout core = .ok (stop, after) ∧
    KeepsRing core after

/-- An enabled descriptor's message is accepted by the queue. -/
def TxSendable (core : Core) : Prop :=
  checkbit core.txDescr.ctrl spwtdw0EN = true →
    Fits core.txHeader core.txData

instance (core : Core) : Decidable core.TxSendable :=
  inferInstanceAs (Decidable (_ → _))

/-- The last two words of the descriptor are what the ring positions under the
scratch copy should become. -/
def OverlapHarmless (core : Core) : Prop :=
  core.txDescr.data = core.device.rxdCur ∧
    if checkbit core.txDescr.ctrl spwtdw0EN then
      checkbit core.txDescr.ctrl spwtdw0WR = true ∨
        core.txDescr.len % nbTxDescriptor = 63
    else core.txDescr.len = 63

instance (core : Core) : Decidable core.OverlapHarmless :=
  inferInstanceAs (Decidable (_ ∧ _))

end Core

/-- Advancing modulo 64 gives the position after 63 exactly from a word that
ends in 63. -/
theorem succ_umod_eq_succ_umod_iff (word : Uint32) :
    (word + 1) % nbTxDescriptor = (63 + 1) % nbTxDescriptor ↔
      word % nbTxDescriptor = 63 := by
  rw [← BitVec.toNat_inj, ← BitVec.toNat_inj, toNat_succ_umod_nbTxDescriptor,
    toNat_succ_umod_nbTxDescriptor]
  simp only [nbTxDescriptor, BitVec.ofNat_eq_ofNat, BitVec.toNat_umod,
    BitVec.toNat_ofNat, Nat.reducePow, Nat.reduceMod, Nat.reduceAdd]
  omega

namespace Core

variable (layout : Layout) (core : Core)

/-- Registers other than SPWCHN and SPWTXD survive a packet. -/
theorem txReleased_regs_eq :
    (core.txReleased layout).regs =
      { core.regs with
        chn := (core.txReleased layout).regs.chn
        txd := (core.txReleased layout).regs.txd } := by
  rw [txReleased_regs]
  rfl

/-- Registers other than SPWCHN survive a disabled descriptor. -/
theorem txPolled_regs_eq :
    (core.txPolled layout).regs =
      { core.regs with
        chn := (core.txPolled layout).regs.chn
        txd := (core.txPolled layout).regs.txd } := rfl

variable {layout core}

/-- Apart from the overlap, a packet leaves the ring as it should. -/
theorem keepsRing_txReleased_iff
    (admits : layout.Admits core.device.txdCur nbTxDescriptor)
    (armed : checkbit core.txDescr.ctrl spwtdw0EN = true) :
    KeepsRing core (core.txReleased layout) ↔
      (core.txFetched layout).rxdCur = core.device.rxdCur ∧
        (checkbit core.txDescr.ctrl spwtdw0WR = true ∨
          ((core.txFetched layout).txdCur + 1) % nbTxDescriptor =
            (core.device.txdCur + 1) % nbTxDescriptor) := by
  have position : (core.txReleased layout).device.txdCur = core.txdCurAfter ↔
      checkbit core.txDescr.ctrl spwtdw0WR = true ∨
        ((core.txFetched layout).txdCur + 1) % nbTxDescriptor =
          (core.device.txdCur + 1) % nbTxDescriptor := by
    rw [txReleased_txdCur layout core admits, txNext, txdCurAfter, if_pos armed]
    cases wraps : checkbit core.txDescr.ctrl spwtdw0WR with
    | true => simp
    | false => simp
  constructor
  · intro keeps
    have receive := keeps.rxdCur_eq
    rw [txReleased_rxdCur layout core admits] at receive
    exact ⟨receive, position.mp keeps.txdCur_eq⟩
  · rintro ⟨receive, transmit⟩
    refine ⟨?_, core.txReleased_regs_eq layout, position.mpr transmit⟩
    rw [txReleased_rxdCur layout core admits]
    exact receive

/-- Apart from the overlap, a disabled descriptor leaves the ring alone. -/
theorem keepsRing_txPolled_iff
    (unarmed : checkbit core.txDescr.ctrl spwtdw0EN = false) :
    KeepsRing core (core.txPolled layout) ↔
      (core.txFetched layout).rxdCur = core.device.rxdCur ∧
        (core.txFetched layout).txdCur = core.device.txdCur := by
  have position : core.txdCurAfter = core.device.txdCur := by
    simp [txdCurAfter, unarmed]
  constructor
  · intro keeps
    have transmit := keeps.txdCur_eq
    rw [position] at transmit
    exact ⟨keeps.rxdCur_eq, transmit⟩
  · rintro ⟨receive, transmit⟩
    exact ⟨receive, core.txPolled_regs_eq layout, transmit.trans position.symm⟩

/-- Below position 63, and in a layout without overlap everywhere, the fetch
touches no ring position. -/
theorem txFetched_positions
    (admits : layout.Admits core.device.txdCur nbTxDescriptor)
    (apart : layout = .packed → core.device.txdCur.toNat ≠ 63) :
    (core.txFetched layout).txdCur = core.device.txdCur ∧
      (core.txFetched layout).rxdCur = core.device.rxdCur := by
  have nowhere : ¬(layout = .packed ∧ core.device.txdCur.toNat = 63) := by
    rintro ⟨packed, last⟩
    exact apart packed last
  rw [txFetched_txdCur layout core admits, txFetched_rxdCur layout core admits,
    if_neg nowhere, if_neg nowhere]
  exact ⟨rfl, rfl⟩

/-- Where the scratch copies overlap nothing, every transmit call that returns
leaves the ring as it should. -/
theorem keepsRing_of_disjoint
    {stop : Bool}
    {after : Core}
    (enabled : checkbit core.regs.chn spwchnTE = true)
    (returns : txenable .disjoint core = .ok (stop, after)) :
    KeepsRing core after := by
  have admits := Layout.admits_disjoint core.device.txdCur nbTxDescriptor
  obtain ⟨transmit, receive⟩ :=
    txFetched_positions admits (by intro packed; cases packed)
  obtain ⟨_, disabled, _⟩ | ⟨_, polls, rfl⟩ | ⟨_, sends, rfl⟩ :=
    txenable_cases returns
  · rw [enabled] at disabled
    cases disabled
  · exact (keepsRing_txPolled_iff polls.unarmed).mpr ⟨receive, transmit⟩
  · refine (keepsRing_txReleased_iff admits sends.armed).mpr ⟨receive, ?_⟩
    rw [transmit]
    exact Or.inr rfl

/-- Polling a disabled descriptor returns, whatever its other words. -/
theorem txenableKeepsRing_iff_of_unarmed
    (enabled : checkbit core.regs.chn spwchnTE = true)
    (admits : layout.Admits core.device.txdCur nbTxDescriptor)
    (unarmed : checkbit core.txDescr.ctrl spwtdw0EN = false) :
    core.TxenableKeepsRing layout ↔
      (core.txFetched layout).rxdCur = core.device.rxdCur ∧
        (core.txFetched layout).txdCur = core.device.txdCur := by
  have calls := txenable_polled enabled admits unarmed
  have returns : core.TxenableKeepsRing layout ↔
      KeepsRing core (core.txPolled layout) := by
    simp [TxenableKeepsRing, calls]
  rw [returns]
  exact keepsRing_txPolled_iff unarmed

/-- A call on an enabled descriptor returns if the queue takes its message. -/
theorem txenableKeepsRing_iff_of_armed
    (enabled : checkbit core.regs.chn spwchnTE = true)
    (admits : layout.Admits core.device.txdCur nbTxDescriptor)
    (armed : checkbit core.txDescr.ctrl spwtdw0EN = true) :
    core.TxenableKeepsRing layout ↔
      core.TxSendable ∧ (core.txFetched layout).rxdCur = core.device.rxdCur ∧
        (checkbit core.txDescr.ctrl spwtdw0WR = true ∨
          ((core.txFetched layout).txdCur + 1) % nbTxDescriptor =
            (core.device.txdCur + 1) % nbTxDescriptor) := by
  have calls := txenable_armed enabled admits armed
  by_cases fits : Fits core.txHeader core.txData
  · rw [if_pos fits] at calls
    have returns : core.TxenableKeepsRing layout ↔
        KeepsRing core (core.txReleased layout) := by
      simp [TxenableKeepsRing, calls]
    have sendable : core.TxSendable := fun _ => fits
    rw [returns, keepsRing_txReleased_iff admits armed]
    exact (and_iff_right sendable).symm
  · rw [if_neg fits] at calls
    constructor
    · rintro ⟨stop, after, returns, _⟩
      rw [calls] at returns
      cases returns
    · rintro ⟨sendable, _⟩
      exact absurd (sendable armed) fits

/-- **The overlap.**  In the C layout a transmit call keeps the ring state
exactly when its message can be sent and it is not at position 63, or the
descriptor there happens to hold the right words. -/
theorem txenableKeepsRing_packed_iff
    (core : Core)
    (within : core.device.txdCur.toNat < 64)
    (enabled : checkbit core.regs.chn spwchnTE = true) :
    core.TxenableKeepsRing .packed ↔
      core.TxSendable ∧
        (core.device.txdCur.toNat < 63 ∨ core.OverlapHarmless) := by
  have admits : Layout.packed.Admits core.device.txdCur nbTxDescriptor :=
    fun _ => within
  have fetched : core.device.txdCur.toNat = 63 →
      (core.txFetched .packed).txdCur = core.txDescr.len ∧
        (core.txFetched .packed).rxdCur = core.txDescr.data := by
    intro last
    rw [txFetched_txdCur .packed core admits,
      txFetched_rxdCur .packed core admits, if_pos ⟨rfl, last⟩,
      if_pos ⟨rfl, last⟩]
    exact ⟨rfl, rfl⟩
  have apart : core.device.txdCur.toNat < 63 →
      (core.txFetched .packed).txdCur = core.device.txdCur ∧
        (core.txFetched .packed).rxdCur = core.device.rxdCur := by
    intro below
    exact txFetched_positions admits (fun _ => Nat.ne_of_lt below)
  have position : core.device.txdCur.toNat = 63 → core.device.txdCur = 63 :=
    fun last => BitVec.eq_of_toNat_eq last
  cases armed : checkbit core.txDescr.ctrl spwtdw0EN with
  | false =>
      have sendable : core.TxSendable := by
        intro wrong
        rw [armed] at wrong
        cases wrong
      rw [txenableKeepsRing_iff_of_unarmed enabled admits armed]
      by_cases below : core.device.txdCur.toNat < 63
      · simp [apart below, sendable, below]
      · have last : core.device.txdCur.toNat = 63 := by omega
        simp [fetched last, sendable, OverlapHarmless, armed, position last]
  | true =>
      rw [txenableKeepsRing_iff_of_armed enabled admits armed]
      by_cases below : core.device.txdCur.toNat < 63
      · simp [apart below, below]
      · have last : core.device.txdCur.toNat = 63 := by omega
        rw [(fetched last).1, (fetched last).2, position last,
          succ_umod_eq_succ_umod_iff]
        simp [OverlapHarmless, armed]

/-- A core with its transmitter enabled, at a given ring position. -/
def transmitterAt (position : Uint32) (ram : Memory Uint8) : Core :=
  let core := apbgrspwInit 0 ram
  { core with
    device :=
      { core.device with
        grspwReg := { core.regs with chn := spwchnTE }
        txdCur := position } }

theorem txenableKeepsRing_packed_iff_at_seven :
    (transmitterAt 7 fun _ => 0).TxenableKeepsRing .packed :=
  (txenableKeepsRing_packed_iff (transmitterAt 7 fun _ => 0) (by decide)
    rfl).mpr ⟨by decide, by decide⟩

/-- Polling a disabled descriptor of zeros at position 63 sends the ring back
to 0. -/
theorem not_txenableKeepsRing_at_last :
    ¬∀ core : Core, core.device.txdCur.toNat < 64 →
      checkbit core.regs.chn spwchnTE = true →
      core.TxSendable → core.TxenableKeepsRing .packed := by
  intro all
  have polled := @txenable_polled .packed (transmitterAt 63 fun _ => 0) rfl
    (by decide) rfl
  obtain ⟨stop, after, returns, keeps⟩ :=
    all (transmitterAt 63 fun _ => 0) (by decide) rfl (by decide)
  rw [polled] at returns
  cases returns
  exact absurd keeps.txdCur_eq (by decide)

end Core

end Grspw
