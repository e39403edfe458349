import Grspw.Drain
import Grspw.Latches

/-!
# Bus writes drive the transmitter

The handler of a bus write makes one transmit call and nothing repeats it, so a
ring with packets to send empties at the pace of the guest's register writes,
one packet a write.  Register reads have no part in it: after the first packet
none returns.
-/

namespace Grspw

namespace Core

/-! ## Writes that leave the transmitter alone -/

/-- A bus write that neither moves the transmit ring, nor turns the transmitter
on or off, nor sends a time code. -/
def LeavesTransmitter : RegOffset → Uint32 → Prop
  | .txd, _ => False
  | .ctr, value =>
      checkbit value spwctrRS = false ∧ checkbit value spwctrTI = false
  | .chn, value =>
      checkbit value spwchnTE = false ∧ checkbit value spwchnAT = false
  | _, _ => True

instance (regOffset : RegOffset) (value : Uint32) :
    Decidable (LeavesTransmitter regOffset value) :=
  match regOffset with
  | .txd => isFalse id
  | .ctr => inferInstanceAs (Decidable (_ ∧ _))
  | .chn => inferInstanceAs (Decidable (_ ∧ _))
  | .str => isTrue trivial
  | .ndr => isTrue trivial
  | .clk => isTrue trivial
  | .key => isTrue trivial
  | .tim => isTrue trivial
  | .tdr => isTrue trivial
  | .rxl => isTrue trivial
  | .rxd => isTrue trivial
  | .other _ => isTrue trivial

/-- The calls a list of bus writes makes. -/
def busWrites (writes : List (RegOffset × Uint32)) : List Input :=
  busCalls (writes.map fun write => .write write.1 write.2)

section Writes

variable
  {now : Core}
  {regOffset : RegOffset}
  {value : Uint32}
  (leaves : LeavesTransmitter regOffset value)

include leaves

theorem written_host_of_leaves :
    (now.written regOffset value).host = now.host := by
  cases regOffset with
  | ctr =>
      change ctrHost _ _ _ _ = _
      rw [ctrHost, leaves.2]
      rfl
  | _ => rfl

theorem written_txd_of_leaves :
    (now.written regOffset value).regs.txd = now.regs.txd := by
  refine (regsWritten_txd _ _ _ regOffset).trans ?_
  cases regOffset with
  | ctr => exact if_neg (ne_true_of_eq_false leaves.1)
  | txd => exact leaves.elim
  | _ => rfl

theorem written_TE_of_leaves :
    checkbit (now.written regOffset value).regs.chn spwchnTE =
      checkbit now.regs.chn spwchnTE := by
  have quiet : EngineBit.event .TE now (.write regOffset value) = .quiet := by
    cases regOffset with
    | ctr =>
        simp [EngineBit.event, EngineBit.clearedBy, EngineBit.setBy, leaves.1]
    | chn =>
        simp [EngineBit.event, EngineBit.clearedBy, EngineBit.setBy, leaves.1,
          leaves.2]
    | _ => rfl
  have moved := EngineBit.read_written .TE now regOffset value
  rw [quiet] at moved
  exact moved

end Writes

/-! ## One packet a write -/

/-- The state after some transmit calls on a ring with `count` packets: one
packet sent for each call, or all of them and the transmitter off. -/
def Polled (core now : Core) (count calls : Nat) : Prop :=
  (calls ≤ count ∧ Draining core now calls) ∨
    (count < calls ∧ checkbit now.regs.chn spwchnTE = false ∧
      now.host.ram = (core.sentInOrder count).ram ∧
      now.host.spwq = (core.sentInOrder count).spwq)

variable
  {layout : Layout}
  {core now : Core}
  {count calls : Nat}

theorem Polled.written
    (polled : Polled core now count calls)
    {regOffset : RegOffset}
    {value : Uint32}
    (leaves : LeavesTransmitter regOffset value) :
    Polled core (now.written regOffset value) count calls := by
  have host := @written_host_of_leaves now regOffset value leaves
  have enabled := @written_TE_of_leaves now regOffset value leaves
  obtain ⟨atMost, draining⟩ | ⟨beyond, off, ram, spwq⟩ := polled
  · refine Or.inl ⟨atMost, ?_, draining.grspwId_eq, ?_, draining.txdCur_eq,
      ?_, ?_, ?_⟩
    · rw [enabled]
      exact draining.enabled
    · rw [@written_txd_of_leaves now regOffset value leaves]
      exact draining.txd_eq
    · rw [host]
      exact draining.ram_eq
    · rw [host]
      exact draining.txbuffer_eq
    · rw [host]
      exact draining.spwq_eq
  · refine Or.inr ⟨beyond, enabled.trans off, ?_, ?_⟩
    · rw [host]
      exact ram
    · rw [host]
      exact spwq

/-- The transmit call of a bus write sends the next packet, or finds none and
turns the transmitter off, or finds it off. -/
theorem Polled.transmit
    (aligned : txRing.stride ∣ core.regs.txd.toNat)
    (drainable : Drainable core count)
    (clear : core.ClearOfLast layout count)
    (polled : Polled core now count calls) :
    ∃ after, step layout now .transmit = .ok after ∧
      Polled core after count (calls + 1) := by
  obtain ⟨atMost, draining⟩ | ⟨beyond, off, ram, spwq⟩ := polled
  · obtain below | atEnd := Nat.lt_or_eq_of_le atMost
    · obtain ⟨sends, _⟩ :=
        @Draining.txSends core layout _ _ _ drainable draining below
      refine ⟨_, by rw [step, sends.txenable_eq]; rfl,
        Or.inl ⟨below, draining.step aligned drainable clear below⟩⟩
    · subst atEnd
      have polls := @Draining.txPolls core layout _ _ drainable draining
      refine ⟨now.txPolled layout, ?_, Or.inr ⟨Nat.lt_succ_self _, ?_,
        draining.ram_eq, draining.spwq_eq⟩⟩
      · rw [step, txenable_polled polls.enabled polls.admits polls.unarmed]
        rfl
      · rw [txPolled_regs]
        exact checkbit_clearbit_self (by decide)
  · refine ⟨now, ?_, Or.inr ⟨by omega, off, ram, spwq⟩⟩
    rw [step, txenable_idle off]
    rfl

/-- Bus writes make one transmit call each. -/
theorem Polled.run
    (aligned : txRing.stride ∣ core.regs.txd.toNat)
    (drainable : Drainable core count)
    (clear : core.ClearOfLast layout count)
    (polled : Polled core now count calls)
    {writes : List (RegOffset × Uint32)}
    (leave : ∀ write ∈ writes, LeavesTransmitter write.1 write.2) :
    ∃ after, Machine.run (step layout) now (busWrites writes) = .ok after ∧
      Polled core after count (calls + writes.length) := by
  induction writes generalizing now calls with
  | nil => exact ⟨now, rfl, polled⟩
  | cons write writes inductionHypothesis =>
      have rest : ∀ later ∈ writes, LeavesTransmitter later.1 later.2 :=
        fun later member => leave later (List.mem_cons_of_mem write member)
      obtain ⟨next, transmits, polled⟩ := (polled.written
        (leave write List.mem_cons_self)).transmit aligned drainable clear
      obtain ⟨after, runs, polled⟩ := inductionHypothesis polled rest
      refine ⟨after, ?_, ?_⟩
      · change Machine.run (step layout) now
          (.write write.1 write.2 :: .transmit :: busWrites writes) = _
        rw [Machine.run_cons_of_ok (now.write_eq write.1 write.2),
          Machine.run_cons_of_ok transmits]
        exact runs
      · have total : calls + 1 + writes.length =
            calls + (writes.length + 1) := by
          omega
        rw [List.length_cons, ← total]
        exact polled

/-- What the packets sent so far leave behind. -/
theorem Polled.result
    (drainable : Drainable core count)
    (polled : Polled core now count calls) :
    now.host.spwq = (core.sentInOrder (min calls count)).spwq ∧
    (∀ i < count,
      checkbit (txDescrAt now.host.ram (core.txMetAddr i)).ctrl spwtdw0EN =
        decide (calls ≤ i)) ∧
    (checkbit now.regs.chn spwchnTE = true ↔ calls ≤ count) := by
  have sent : now.host.ram = (core.sentInOrder (min calls count)).ram ∧
      now.host.spwq = (core.sentInOrder (min calls count)).spwq := by
    obtain ⟨atMost, draining⟩ | ⟨beyond, _, ram, spwq⟩ := polled
    · rw [Nat.min_eq_left atMost]
      exact ⟨draining.ram_eq, draining.spwq_eq⟩
    · rw [Nat.min_eq_right (by omega)]
      exact ⟨ram, spwq⟩
  refine ⟨sent.2, ?_, ?_⟩
  · intro i below
    rw [sent.1]
    by_cases done : calls ≤ i
    · have atMost : min calls count = calls := by omega
      rw [atMost, decide_eq_true done, core.txDescrAt_sentInOrder]
      · exact drainable.enabled i below
      · intro earlier before equal
        have repeated :=
          drainable.distinct earlier (by omega) i below equal
        omega
    · rw [decide_eq_false done]
      exact core.released_sentInOrder (by omega)
  · obtain ⟨atMost, draining⟩ | ⟨beyond, off, _, _⟩ := polled
    · exact iff_of_true draining.enabled atMost
    · exact iff_of_false (ne_true_of_eq_false off) (by omega)

end Core

end Grspw
