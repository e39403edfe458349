import Grspw.Footprint
import Grspw.Rings

/-!
# One use of a descriptor for each arming

After a descriptor is used its Enable bit is clear in guest RAM, and the engine
itself never sets such a bit: its write-backs hit whole aligned words and clear
it there.  So between two uses of one descriptor somebody else has set the bit,
whatever the ring positions are.
-/

namespace Grspw

/-- The Enable bit of the control word at an address of guest RAM. -/
def Core.Armed (core : Core) (enable : Uint32) (addr : Nat) : Prop :=
  checkbit (ramWord core.host.ram addr) enable = true

instance (core : Core) (enable : Uint32) (addr : Nat) :
    Decidable (core.Armed enable addr) :=
  inferInstanceAs (Decidable (_ = true))

/-- Two aligned words at different addresses do not overlap. -/
theorem disjoint_of_aligned
    {left right : Nat}
    (leftAligned : 8 ∣ left)
    (rightAligned : 8 ∣ right)
    (different : left ≠ right) :
    right + 4 ≤ left ∨ left + 4 ≤ right := by
  omega

/-- Writing back one aligned word leaves another alone. -/
theorem ramWord_write_aligned
    {addr addr' : Nat}
    (ram : Memory Uint8)
    (word : Uint32)
    (aligned : 8 ∣ addr)
    (aligned' : 8 ∣ addr')
    (different : addr ≠ addr') :
    ramWord (ram.write addr (ramBytes word)) addr' = ramWord ram addr' :=
  ramWord_write_of_disjoint ram addr addr' (ramBytes word)
    (by rw [length_ramBytes]
        exact disjoint_of_aligned aligned aligned' different)

/-! ## What can arm a descriptor -/

/-- Arming a descriptor changes guest RAM. -/
theorem ram_ne_of_arms
    {before after : Core}
    {enable : Uint32}
    {addr : Nat}
    (unarmed : ¬before.Armed enable addr)
    (armed : after.Armed enable addr) :
    after.host.ram ≠ before.host.ram := by
  intro same
  unfold Core.Armed at unarmed armed
  rw [same] at armed
  exact unarmed armed

/-- A transmit call writes a control word back with its Enable bit clear and
leaves every other aligned word alone. -/
theorem ramWord_transmit
    {core after : Core}
    (placed : TxPlaced core)
    (moves : step .disjoint core .transmit = .ok after)
    {addr : Nat}
    (aligned : 8 ∣ addr) :
    ramWord after.host.ram addr = ramWord core.host.ram addr ∨
      ramWord after.host.ram addr =
        clearbit (ramWord core.host.ram addr) spwtdw0EN := by
  cases stepped_of_step moves with
  | idle disabled => exact Or.inl rfl
  | polled polls => exact Or.inl rfl
  | sent sends =>
      have txdAligned : 8 ∣ core.regs.txd.toNat :=
        Nat.dvd_trans (by decide) placed.aligned
      by_cases same : core.regs.txd.toNat = addr
      · right
        rw [← same]
        exact Core.ramWord_txReleased sends
      · left
        rw [Core.txReleased_ram sends]
        exact ramWord_write_aligned _ _ txdAligned aligned same

/-- A transmit call arms no transmit descriptor. -/
theorem not_armed_transmit
    {core after : Core}
    (placed : TxPlaced core)
    (moves : step .disjoint core .transmit = .ok after)
    {addr : Nat}
    (aligned : 8 ∣ addr)
    (unarmed : ¬core.Armed spwtdw0EN addr) :
    ¬after.Armed spwtdw0EN addr := by
  unfold Core.Armed at unarmed ⊢
  obtain same | released := ramWord_transmit placed moves aligned
  · rw [same]
    exact unarmed
  · rw [released, checkbit_clearbit_self (by decide)]
    decide

/-- A transmit call arms no receive descriptor either. -/
theorem not_rxArmed_transmit
    {core after : Core}
    (placed : TxPlaced core)
    (moves : step .disjoint core .transmit = .ok after)
    {addr : Nat}
    (aligned : 8 ∣ addr)
    (unarmed : ¬core.Armed spwtrw0EN addr) :
    ¬after.Armed spwtrw0EN addr := by
  unfold Core.Armed at unarmed ⊢
  obtain same | released := ramWord_transmit placed moves aligned
  · rw [same]
    exact unarmed
  · rw [released, checkbit_clearbit_of_disjoint (by decide)]
    exact unarmed

/-- The write-back of a packet clears the Enable bit of its own descriptor. -/
theorem not_armed_rxStored
    (core : Core)
    (data : Memory Uint8)
    (len : Uint32)
    (att : RecvAtt) :
    ¬(core.rxStored data len att).Armed spwtrw0EN core.regs.rxd.toNat := by
  unfold Core.Armed
  rw [Core.ramWord_rxStored, rxCtrl, checkbit_clearbit_self (by decide)]
  decide

/-- A packet arms a receive descriptor only by its payload. -/
theorem armed_payload_of_packet
    {core after : Core}
    {data : Memory Uint8}
    {len : Uint32}
    {att : RecvAtt}
    (placed : RxPlaced core)
    (moves : step .disjoint core (.packet data len att) = .ok after)
    {addr : Nat}
    (aligned : 8 ∣ addr)
    (unarmed : ¬core.Armed spwtrw0EN addr)
    (armed : after.Armed spwtrw0EN addr) :
    core.rxStoring data = true ∧
      checkbit (ramWord (core.rxPayloadRam data len) addr) spwtrw0EN =
        true := by
  have storing := (rxFootprint_of_packet moves).onlyStored
    (ram_ne_of_arms unarmed armed)
  refine ⟨storing, ?_⟩
  have returns : after = core.rxStored data len att := by
    have stores : step .disjoint core (.packet data len att) =
        .ok (core.rxStored data len att) :=
      Core.rxenable_of_rxStoring len att
        (Layout.admits_disjoint _ _) storing
    exact Except.ok.inj (moves.symm.trans stores)
  have apart : core.regs.rxd.toNat ≠ addr := by
    intro same
    rw [returns, ← same] at armed
    exact not_armed_rxStored core data len att armed
  rw [returns, Core.Armed, Core.rxStored_ram,
    ramWord_write_aligned _ _ placed.aligned aligned apart] at armed
  exact armed

/-! ## Between two uses -/

/-- Some call of a run, of a kind, finds the Enable bit at an address clear and
leaves it set. -/
def RearmedBetween
    (kind : Core → Input → Prop)
    (enable : Uint32)
    (addr : Nat)
    (start : Core)
    (between : List Input) : Prop :=
  ∃ first input second middle next,
    between = first ++ input :: second ∧
    Machine.run (step .disjoint) start first = .ok middle ∧
    step .disjoint middle input = .ok next ∧
    ¬middle.Armed enable addr ∧ next.Armed enable addr ∧ kind middle input

/-- A write of guest RAM by anybody but the transmitter. -/
def NotByTransmitter : Core → Input → Prop
  | _, .ambient _ _ => True
  | core, .packet data _ _ => core.rxStoring data = true
  | _, _ => False

/-- A write of guest RAM by anybody but the receiver's write-back: by software,
or by the payload of a packet, which has already set the bit. -/
def NotByWriteBack (addr : Nat) : Core → Input → Prop
  | _, .ambient _ _ => True
  | core, .packet data len _ =>
      core.rxStoring data = true ∧
        checkbit (ramWord (core.rxPayloadRam data len) addr) spwtrw0EN = true
  | _, _ => False

/-- A call that arms a descriptor writes guest RAM. -/
theorem writes_ram_of_arms
    {enable : Uint32}
    {addr : Nat}
    {core after : Core}
    {input : Input}
    (moves : step .disjoint core input = .ok after)
    (unarmed : ¬core.Armed enable addr)
    (armed : after.Armed enable addr) :
    input = .transmit ∨ (∃ data len att, input = .packet data len att) ∨
      ∃ ram txbuffer, input = .ambient ram txbuffer := by
  have changed := ram_ne_of_arms unarmed armed
  cases input with
  | transmit => exact Or.inl rfl
  | packet data len att => exact Or.inr (Or.inl ⟨data, len, att, rfl⟩)
  | ambient ram txbuffer => exact Or.inr (Or.inr ⟨ram, txbuffer, rfl⟩)
  | write regOffset value => exact absurd (ram_of_write moves) changed
  | read regOffset =>
      cases moves
      exact absurd rfl changed
  | timecode timecode =>
      cases moves
      exact absurd (rxtimecode_ram core timecode) changed

variable {core after later : Core} {between : List Input}

/-- After a run from a reachable state both table registers are aligned. -/
theorem placed_of_reachable
    {grspwId : GrspwId}
    {ram : Memory Uint8}
    (reachable : Machine.Reachable (step .disjoint)
      (apbgrspwInit grspwId ram) core) :
    TxPlaced core ∧ RxPlaced core :=
  ⟨Machine.reachable_invariant (fun _ _ _ => txPlaced_step)
      (txPlaced_apbgrspwInit grspwId ram) reachable,
    Machine.reachable_invariant (fun _ _ _ => rxPlaced_step)
      (rxPlaced_apbgrspwInit grspwId ram) reachable⟩

/-- Both table registers stay aligned along a run. -/
theorem placed_run
    (placed : TxPlaced core ∧ RxPlaced core)
    (reaches : Machine.run (step .disjoint) core between = .ok later) :
    TxPlaced later ∧ RxPlaced later :=
  ⟨Machine.reachable_invariant (fun _ _ _ => txPlaced_step) placed.1
      ⟨between, reaches⟩,
    Machine.reachable_invariant (fun _ _ _ => rxPlaced_step) placed.2
      ⟨between, reaches⟩⟩

/-- A core that is about to send finds its descriptor armed. -/
theorem armed_of_txSending
    (sending : core.txSending = true) :
    core.Armed spwtdw0EN core.regs.txd.toNat := by
  simp only [Core.txSending, Bool.and_eq_true] at sending
  unfold Core.Armed
  exact sending.2

/-- A core that is about to store a packet finds its descriptor armed. -/
theorem armed_of_rxStoring
    {data : Memory Uint8}
    (storing : core.rxStoring data = true) :
    core.Armed spwtrw0EN core.regs.rxd.toNat := by
  simp only [Core.rxStoring, Bool.and_eq_true] at storing
  unfold Core.Armed
  exact storing.2

/-- A transmission leaves its descriptor without the Enable bit. -/
theorem not_armed_of_txSending
    (sending : core.txSending = true)
    (moves : step .disjoint core .transmit = .ok after) :
    ¬after.Armed spwtdw0EN core.regs.txd.toNat := by
  have armed := armed_of_txSending sending
  unfold Core.Armed at armed ⊢
  cases stepped_of_step moves with
  | idle disabled =>
      simp only [Core.txSending, disabled, Bool.false_and] at sending
      cases sending
  | polled polls =>
      have unarmed := polls.unarmed
      unfold Core.txDescr txDescrAt at unarmed
      rw [armed] at unarmed
      cases unarmed
  | sent sends =>
      rw [Core.ramWord_txReleased sends, checkbit_clearbit_self (by decide)]
      decide

/-- A run that arms a descriptor has a call that arms it. -/
theorem exists_arming_of_run
    {enable : Uint32}
    {addr : Nat}
    (unarmed : ¬core.Armed enable addr)
    (armed : later.Armed enable addr)
    (reaches : Machine.run (step .disjoint) core between = .ok later) :
    ∃ first input second middle next,
      between = first ++ input :: second ∧
      Machine.run (step .disjoint) core first = .ok middle ∧
      step .disjoint middle input = .ok next ∧
      ¬middle.Armed enable addr ∧ next.Armed enable addr :=
  @Machine.exists_step_of_run _ _ _ (step .disjoint)
    (fun state => state.Armed enable addr) core later between unarmed armed
    reaches

/-- Between two packets sent from one descriptor it was armed again, and not by
the transmitter. -/
theorem txRearmed
    (placed : TxPlaced core ∧ RxPlaced core)
    (sending : core.txSending = true)
    (moves : step .disjoint core .transmit = .ok after)
    (reaches : Machine.run (step .disjoint) after between = .ok later)
    (sendingAgain : later.txSending = true)
    (same : later.regs.txd = core.regs.txd) :
    RearmedBetween NotByTransmitter spwtdw0EN core.regs.txd.toNat after
      between := by
  have aligned : 8 ∣ core.regs.txd.toNat :=
    Nat.dvd_trans (by decide) placed.1.aligned
  have released := not_armed_of_txSending sending moves
  have afterPlaced : TxPlaced after ∧ RxPlaced after :=
    ⟨txPlaced_step placed.1 moves, rxPlaced_step placed.2 moves⟩
  have armedAgain : later.Armed spwtdw0EN core.regs.txd.toNat := by
    rw [← same]
    exact armed_of_txSending sendingAgain
  obtain ⟨first, input, second, middle, next, split, taken, arms, unarmed,
    armed⟩ := exists_arming_of_run released armedAgain reaches
  have middlePlaced := placed_run afterPlaced taken
  refine ⟨first, input, second, middle, next, split, taken, arms, unarmed,
    armed, ?_⟩
  obtain rfl | ⟨data, len, att, rfl⟩ | ⟨ram, txbuffer, rfl⟩ :=
    writes_ram_of_arms arms unarmed armed
  · exact absurd armed
      (not_armed_transmit middlePlaced.1 arms aligned unarmed)
  · exact (rxFootprint_of_packet arms).onlyStored (ram_ne_of_arms unarmed armed)
  · trivial

/-- Between two packets stored through one descriptor it was armed again, and
not by a write-back of the receiver. -/
theorem rxRearmed
    {data data' : Memory Uint8}
    {len : Uint32}
    {att : RecvAtt}
    (placed : TxPlaced core ∧ RxPlaced core)
    (storing : core.rxStoring data = true)
    (moves : step .disjoint core (.packet data len att) = .ok after)
    (reaches : Machine.run (step .disjoint) after between = .ok later)
    (storingAgain : later.rxStoring data' = true)
    (same : later.regs.rxd = core.regs.rxd) :
    RearmedBetween (NotByWriteBack core.regs.rxd.toNat) spwtrw0EN
      core.regs.rxd.toNat after between := by
  have aligned : 8 ∣ core.regs.rxd.toNat := placed.2.aligned
  have stores : step .disjoint core (.packet data len att) =
      .ok (core.rxStored data len att) :=
    Core.rxenable_of_rxStoring len att (Layout.admits_disjoint _ _) storing
  have released : ¬after.Armed spwtrw0EN core.regs.rxd.toNat := by
    have returns : after = core.rxStored data len att :=
      Except.ok.inj (moves.symm.trans stores)
    rw [returns]
    exact not_armed_rxStored core data len att
  have afterPlaced : TxPlaced after ∧ RxPlaced after :=
    ⟨txPlaced_step placed.1 moves, rxPlaced_step placed.2 moves⟩
  have armedAgain : later.Armed spwtrw0EN core.regs.rxd.toNat := by
    rw [← same]
    exact armed_of_rxStoring storingAgain
  obtain ⟨first, input, second, middle, next, split, taken, arms, unarmed,
    armed⟩ := exists_arming_of_run released armedAgain reaches
  have middlePlaced := placed_run afterPlaced taken
  refine ⟨first, input, second, middle, next, split, taken, arms, unarmed,
    armed, ?_⟩
  obtain rfl | ⟨data, len, att, rfl⟩ | ⟨ram, txbuffer, rfl⟩ :=
    writes_ram_of_arms arms unarmed armed
  · exact absurd armed
      (not_rxArmed_transmit middlePlaced.1 arms aligned unarmed)
  · exact armed_payload_of_packet middlePlaced.2 arms aligned unarmed armed
  · trivial

/-- **One use for each arming.**  Between two transmissions from one descriptor
address, and between two receptions through one descriptor address, a write
other than the engine's own write-back has set the descriptor's Enable bit. -/
theorem descriptor_rearmed
    (grspwId : GrspwId)
    (ram : Memory Uint8)
    (core : Core)
    (reachable : Machine.Reachable (step .disjoint)
      (apbgrspwInit grspwId ram) core)
    (after later : Core)
    (between : List Input)
    (reaches : Machine.run (step .disjoint) after between = .ok later) :
    (core.txSending = true → step .disjoint core .transmit = .ok after →
      later.txSending = true → later.regs.txd = core.regs.txd →
        RearmedBetween NotByTransmitter spwtdw0EN core.regs.txd.toNat after
          between) ∧
    ∀ data len att data', core.rxStoring data = true →
      step .disjoint core (.packet data len att) = .ok after →
      later.rxStoring data' = true → later.regs.rxd = core.regs.rxd →
        RearmedBetween (NotByWriteBack core.regs.rxd.toNat) spwtrw0EN
          core.regs.rxd.toNat after between := by
  have placed := placed_of_reachable reachable
  constructor
  · intro sending moves sendingAgain same
    exact txRearmed placed sending moves reaches sendingAgain same
  · intro data len att data' storing moves storingAgain same
    exact rxRearmed placed storing moves reaches storingAgain same

/-- Two packets sent from a table of one entry, which software arms again. -/
theorem descriptor_rearmed_one_entry :
    ∃ after,
      step .disjoint
        ((apbgrspwInit 0 (enabledRam 16 2 0x30)).written .chn spwchnTE)
        .transmit = .ok after ∧
      RearmedBetween NotByTransmitter spwtdw0EN 0 after
        [.ambient (enabledRam 16 2 0x30) (fun _ => 0)] := by
  have sends : TxSends .disjoint
      ((apbgrspwInit 0 (enabledRam 16 2 0x30)).written .chn spwchnTE) :=
    ⟨by decide, by decide, by decide, by decide⟩
  have moves : step .disjoint
      ((apbgrspwInit 0 (enabledRam 16 2 0x30)).written .chn spwchnTE)
      .transmit = .ok (Core.txReleased .disjoint
        ((apbgrspwInit 0 (enabledRam 16 2 0x30)).written .chn spwchnTE)) := by
    simp only [step, sends.txenable_eq, Except.map]
  refine ⟨_, moves, ?_⟩
  exact (descriptor_rearmed 0 (enabledRam 16 2 0x30) _
    ⟨[.write .chn spwchnTE], rfl⟩ _ _ [.ambient (enabledRam 16 2 0x30)
      (fun _ => 0)] rfl).1 (by decide) moves (by decide) (by decide)

end Grspw
