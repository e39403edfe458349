import Grspw.Bus
import Grspw.Codec

/-!
# Time codes between two cores

The sender counts modulo 64 under two control flags; the receiver takes a time
code over when it is greater than the one it has.  Two cores that start equal
stay equal until the counter wraps, and no delivery after the wrap is noticed.
-/

namespace Grspw

/-! ## One tick -/

/-- The value Tick In makes of SPWTIM. -/
def ticked (tim : Uint32) : Uint32 := deposit tim spwtimTimeCounter (tim + 1)

theorem toNat_ticked
    {tim : Uint32}
    (bounded : tim.toNat ≤ 0xFF) :
    (ticked tim).toNat = tim.toNat / 64 * 64 + (tim.toNat + 1) % 64 := by
  have digits := Word.toNat_replace_field tim (tim + 1) 0 6 (by decide)
  have successor : (tim + 1).toNat = tim.toNat + 1 := by
    simp only [BitVec.ofNat_eq_ofNat, BitVec.toNat_add, BitVec.toNat_ofNat]
    omega
  change (ticked tim).toNat = _ at digits
  rw [digits, successor]
  omega

@[simp] theorem linkStart_tim (value : Uint32) (regs : Regs) :
    (linkStart value regs).tim = regs.tim := by
  unfold linkStart
  split <;> rfl

@[simp] theorem linkDisable_tim (value : Uint32) (regs : Regs) :
    (linkDisable value regs).tim = regs.tim := by
  unfold linkDisable
  split <;> rfl

/-- The value asks for a tick and for no reset. -/
structure Ticks (value : Uint32) : Prop where
  tick : checkbit value spwctrTI = true
  noReset : checkbit value spwctrRS = false

theorem Ticks.ctrWritten_tim
    {value : Uint32}
    (ticks : Ticks value)
    (grspwId : GrspwId)
    (regs : Regs) :
    (ctrWritten grspwId regs value).tim = ticked regs.tim := by
  rw [ctrWritten, linkDisable_tim, linkStart_tim]
  simp only [ctrTicked, ctrReset, ticks.tick, ticks.noReset, if_true,
    Bool.false_eq_true, if_false]
  rfl

/-- The message of a tick. -/
def tickMessage (core : Core) : Message :=
  wireImage core.host.txbuffer core.device.grspwId msgqTime []
    [(ticked core.regs.tim).setWidth 8]

theorem Ticks.written_spwq
    {value : Uint32}
    (ticks : Ticks value)
    (core : Core) :
    (core.written .ctr value).host.spwq =
      core.host.spwq ++ [tickMessage core] := by
  have sent : (ctrTicked core.device.grspwId core.regs value).tim =
      ticked core.regs.tim := by
    simp only [ctrTicked, ctrReset, ticks.tick, ticks.noReset, if_true,
      Bool.false_eq_true, if_false]
    rfl
  change (ctrHost core.device.grspwId core.regs core.host value).spwq = _
  unfold ctrHost
  rw [if_pos ticks.tick, sent]
  rfl

/-! ## Two cores -/

/-- The time code the RX thread reads out of a message. -/
def timecodeOf (message : Message) : Except Fault Uint8 :=
  match receivePacket (fun _ => 0) (fun _ => 0) (fun _ => 0) message with
  | .ok received => .ok (received.data 0)
  | .error fault => .error fault

theorem timecodeOf_wireImage
    (txbuffer : Memory Uint8)
    (grspwId : GrspwId)
    (pword timecode : Uint8) :
    timecodeOf (wireImage txbuffer grspwId pword [] [timecode]) =
      .ok timecode := by
  have fits : Fits [] [timecode] := by simp [Fits, maxqSize]
  obtain ⟨received, returns, carries⟩ := receivePacket_wireImage txbuffer
    (fun _ => 0) (fun _ => 0) (fun _ => 0) grspwId pword fits (by decide)
  have first : received.data 0 = timecode :=
    (List.cons.inj carries.data_eq).1
  unfold timecodeOf
  rw [returns]
  exact congrArg Except.ok first

/-- Two cores of which one sends its time codes to the other. -/
structure Link where
  sender : Core
  receiver : Core

namespace Link

/-- The receiver once its guest has acknowledged Tick Out, so that the bit
tells what the next delivery does. -/
def acknowledged (core : Core) : Core := core.written .str spwstrTO

/-- One guest write of SPWCTR on the sender, and the delivery of the time code
it has put on `spwq`. -/
def exchange (link : Link) (value : Uint32) : Except Fault Link :=
  match link.sender.write .ctr value with
  | .error fault => .error fault
  | .ok sender =>
      match sender.host.spwq.getLast? with
      | none => .ok ⟨sender, link.receiver⟩
      | some message =>
          match timecodeOf message with
          | .error fault => .error fault
          | .ok timecode =>
              .ok ⟨sender, rxtimecode (acknowledged link.receiver) timecode⟩

/-- After the last delivery both times are equal and that delivery has set
Tick Out. -/
def Agreed (link : Link) (values : List Uint32) : Prop :=
  ∃ last, Machine.run exchange link values = .ok last ∧
    last.receiver.regs.tim = last.sender.regs.tim ∧
    checkbit last.receiver.regs.str spwstrTO = true

theorem exchange_eq
    (link : Link)
    {value : Uint32}
    (ticks : Ticks value) :
    exchange link value =
      .ok ⟨link.sender.written .ctr value,
        rxtimecode (acknowledged link.receiver)
          ((ticked link.sender.regs.tim).setWidth 8)⟩ := by
  have message : (link.sender.written .ctr value).host.spwq.getLast? =
      some (tickMessage link.sender) := by
    rw [ticks.written_spwq]
    exact List.getLast?_concat
  simp only [exchange, Core.write_eq, message, tickMessage,
    timecodeOf_wireImage]

/-- Both times after a number of ticks from an equal start: the receiver stops
at the last count before the wrap. -/
structure Counts (time count : Nat) (link : Link) : Prop where
  sender_eq :
    link.sender.regs.tim.toNat = time / 64 * 64 + (time + count) % 64
  receiver_eq :
    link.receiver.regs.tim.toNat = time / 64 * 64 + min (time % 64 + count) 63

/-- Acknowledging Tick Out leaves it clear. -/
theorem acknowledged_tickOut (core : Core) :
    checkbit (acknowledged core).regs.str spwstrTO = false := by
  change checkbit (clearbit core.regs.str spwstrTO) spwstrTO = false
  exact checkbit_clearbit_self (by decide)

/-- A delivery takes over the time code exactly when it is greater. -/
theorem tim_delivered (core : Core) (timecode : Uint8) :
    (rxtimecode (acknowledged core) timecode).regs.tim =
      if core.regs.tim < timecode.setWidth 32 then timecode.setWidth 32
      else core.regs.tim := by
  have held : (acknowledged core).regs.tim = core.regs.tim := rfl
  by_cases newer : core.regs.tim < timecode.setWidth 32
  · rw [rxtimecode_newer (held ▸ newer), if_pos newer]
    rfl
  · rw [rxtimecode_stale (held ▸ newer), if_neg newer]
    exact held

/-- A delivery sets Tick Out exactly when the time code is greater. -/
theorem tickOut_delivered (core : Core) (timecode : Uint8) :
    checkbit (rxtimecode (acknowledged core) timecode).regs.str spwstrTO =
        true ↔
      core.regs.tim < timecode.setWidth 32 := by
  have held : (acknowledged core).regs.tim = core.regs.tim := rfl
  by_cases newer : core.regs.tim < timecode.setWidth 32
  · rw [rxtimecode_newer (held ▸ newer)]
    exact iff_of_true (checkbit_setbit_self _ _) newer
  · rw [rxtimecode_stale (held ▸ newer), acknowledged_tickOut]
    exact iff_of_false Bool.false_ne_true newer

/-- One tick more. -/
theorem Counts.exchange
    {time count : Nat}
    {link : Link}
    {value : Uint32}
    (bounded : time ≤ 0xFF)
    (counts : Counts time count link)
    (ticks : Ticks value) :
    ∃ next, link.exchange value = .ok next ∧ Counts time (count + 1) next ∧
      (checkbit next.receiver.regs.str spwstrTO = true ↔
        time % 64 + (count + 1) < 64) := by
  have senderBound : link.sender.regs.tim.toNat ≤ 0xFF := by
    rw [counts.sender_eq]
    omega
  have sent : (ticked link.sender.regs.tim).toNat =
      time / 64 * 64 + (time + (count + 1)) % 64 := by
    rw [toNat_ticked senderBound, counts.sender_eq]
    omega
  have written : (link.sender.written .ctr value).regs.tim =
      ticked link.sender.regs.tim :=
    ticks.ctrWritten_tim _ _
  have delivered : (((ticked link.sender.regs.tim).setWidth 8).setWidth
      32).toNat = time / 64 * 64 + (time + (count + 1)) % 64 := by
    simp only [BitVec.toNat_setWidth, sent]
    omega
  have newer_iff : link.receiver.regs.tim <
      ((ticked link.sender.regs.tim).setWidth 8).setWidth 32 ↔
        time % 64 + (count + 1) < 64 := by
    rw [BitVec.lt_def, delivered, counts.receiver_eq]
    omega
  refine ⟨_, exchange_eq link ticks, ⟨?_, ?_⟩, ?_⟩
  · rw [written, sent]
  · rw [tim_delivered]
    by_cases inTime : time % 64 + (count + 1) < 64
    · rw [if_pos (newer_iff.mpr inTime), delivered]
      omega
    · rw [if_neg fun newer => inTime (newer_iff.mp newer), counts.receiver_eq]
      omega
  · exact (tickOut_delivered _ _).trans newer_iff

/-- Any number of ticks. -/
theorem Counts.run
    {time count : Nat}
    {link : Link}
    {values : List Uint32}
    (bounded : time ≤ 0xFF)
    (counts : Counts time count link)
    (ticks : ∀ value ∈ values, Ticks value) :
    ∃ last, Machine.run Link.exchange link values = .ok last ∧
      Counts time (count + values.length) last ∧
      (values ≠ [] → (checkbit last.receiver.regs.str spwstrTO = true ↔
        time % 64 + (count + values.length) < 64)) := by
  induction values generalizing count link with
  | nil => exact ⟨link, rfl, counts, fun absent => absurd rfl absent⟩
  | cons value values inductionHypothesis =>
      obtain ⟨next, moves, nextCounts, noticed⟩ :=
        counts.exchange bounded (ticks value List.mem_cons_self)
      obtain ⟨last, runs, lastCounts, lastNoticed⟩ :=
        inductionHypothesis nextCounts fun value member =>
          ticks value (List.mem_cons_of_mem _ member)
      have total : count + 1 + values.length =
          count + (value :: values).length := by
        rw [List.length_cons]
        omega
      rw [total] at lastCounts lastNoticed
      refine ⟨last, ?_, lastCounts, ?_⟩
      · rw [Machine.run_cons_of_ok moves]
        exact runs
      · intro _
        cases values with
        | nil =>
            rw [Machine.run_nil] at runs
            cases runs
            exact noticed
        | cons _ _ => exact lastNoticed (List.cons_ne_nil _ _)

/-- **Time codes.**  From an equal start, the last of a number of ticks is
noticed and leaves the times equal exactly when the counter has not wrapped. -/
theorem agreed_iff
    (link : Link)
    (values : List Uint32)
    (equal : link.receiver.regs.tim = link.sender.regs.tim)
    (bounded : link.sender.regs.tim.toNat ≤ 0xFF)
    (nonempty : values ≠ [])
    (ticks : ∀ value ∈ values, Ticks value) :
    Agreed link values ↔
      link.sender.regs.tim.toNat % 64 + values.length < 64 := by
  have start : Counts link.sender.regs.tim.toNat 0 link := by
    constructor
    · omega
    · rw [equal]
      omega
  obtain ⟨last, runs, counts, noticed⟩ := start.run bounded ticks
  have noticedIff := noticed nonempty
  rw [Nat.zero_add] at noticedIff counts
  constructor
  · rintro ⟨other, otherRuns, _, tickOut⟩
    rw [runs] at otherRuns
    cases otherRuns
    exact noticedIff.mp tickOut
  · intro inTime
    refine ⟨last, runs, ?_, noticedIff.mpr inTime⟩
    apply BitVec.eq_of_toNat_eq
    rw [counts.receiver_eq, counts.sender_eq]
    omega

/-- Two fresh cores. -/
def fresh : Link where
  sender := apbgrspwInit 0 fun _ => 0
  receiver := apbgrspwInit 1 fun _ => 0

theorem ticks_spwctrTI : Ticks spwctrTI := ⟨by decide, by decide⟩

theorem agreed_after_two_ticks : Agreed fresh [spwctrTI, spwctrTI] :=
  (agreed_iff fresh [spwctrTI, spwctrTI] rfl (by decide) (by decide)
    (by
      intro value member
      simp only [List.mem_cons, List.not_mem_nil, or_false, or_self] at member
      rw [member]
      exact ticks_spwctrTI)).mpr (by decide)

/-- Two cores at the last count before the wrap. -/
def atLastCount : Link where
  sender := fresh.sender.written .tim 63
  receiver := fresh.receiver.written .tim 63

/-- The tick from 63 to 0 is not noticed. -/
theorem not_agreed_at_wrap :
    ¬∀ (link : Link) (values : List Uint32),
      link.receiver.regs.tim = link.sender.regs.tim →
      link.sender.regs.tim.toNat ≤ 0xFF → values ≠ [] →
      (∀ value ∈ values, Ticks value) → Agreed link values := by
  intro all
  obtain ⟨last, runs, _, tickOut⟩ := all atLastCount [spwctrTI] rfl (by decide)
    (by decide) (by
      intro value member
      rw [List.mem_singleton.mp member]
      exact ticks_spwctrTI)
  rw [Machine.run_cons_of_ok (exchange_eq atLastCount ticks_spwctrTI),
    Machine.run_nil] at runs
  cases runs
  exact absurd tickOut (by decide)

end Link

end Grspw
