import Grspw.TimeCode

/-!
# Sequences of time codes

The time codes a core sends over a run in which nothing but Tick In moves
SPWTIM: one for each tick, counting on from the initial time modulo 64 under the
initial control flags.
-/

namespace Grspw

/-- The time code that a number of ticks make of SPWTIM. -/
def timeAfter (tim : Uint32) (count : Nat) : Uint8 :=
  BitVec.ofNat 8 (tim.toNat &&& 0xC0 ||| (tim.toNat + count) % 64)

/-- Whether a message is a time code. -/
def isTime (message : Message) : Bool := message[pwordIdx]? == some msgqTime

/-- A message that is decoded, over any buffers, as a time code of a core. -/
def CarriesTime
    (grspwId : GrspwId)
    (message : Message)
    (timecode : Uint8) : Prop :=
  ∀ rxbuffer rxHeader rxData, ∃ received,
    receivePacket rxbuffer rxHeader rxData message = .ok received ∧
      received.Carries grspwId msgqTime [] [timecode]

/-- Between two states of a core a number of time codes were sent, counting on
from the first state, and SPWTIM holds the last of them. -/
structure CountsOn (before after : Core) (count : Nat) : Prop where
  messages : ∃ sent,
    after.host.spwq = before.host.spwq ++ sent ∧
    List.Forall₂ (CarriesTime before.device.grspwId) (sent.filter isTime)
      ((List.range count).map fun k => timeAfter before.regs.tim (k + 1))
  tim : after.regs.tim = (timeAfter before.regs.tim count).setWidth 32

namespace Input

/-- A register write. -/
def IsWrite : Input → Prop
  | .write _ _ => True
  | _ => False

/-- A call other than a reset, a write of SPWTIM or an incoming time code. -/
def KeepsTime : Input → Prop
  | .write .ctr value => checkbit value spwctrRS = false
  | .write .tim _ => False
  | .timecode _ => False
  | _ => True

/-- A write of SPWCTR with Tick In. -/
def isTick : Input → Bool
  | .write .ctr value => checkbit value spwctrTI
  | _ => false

end Input

/-! ## The time code after a number of ticks -/

section Times

variable {tim : Uint32} (bounded : tim.toNat ≤ 0xFF)

include bounded

/-- The counter runs modulo 64 under the control flags. -/
theorem toNat_timeAfter (count : Nat) :
    (timeAfter tim count).toNat =
      tim.toNat / 64 * 64 + (tim.toNat + count) % 64 := by
  have field := Word.toNat_and_field tim 6 2 (by decide)
  have mask : (Word.ones 2 <<< 6).toNat = 0xC0 := by decide
  rw [BitVec.toNat_and, mask] at field
  have flags : tim.toNat &&& 0xC0 = 2 ^ 6 * (tim.toNat / 64) := by
    rw [field]
    omega
  have counter : (tim.toNat + count) % 64 < 2 ^ 6 := Nat.mod_lt _ (by decide)
  rw [timeAfter, BitVec.toNat_ofNat, flags,
    ← Nat.two_pow_add_eq_or_of_lt counter]
  omega

theorem timeAfter_zero : (timeAfter tim 0).setWidth 32 = tim := by
  apply BitVec.eq_of_toNat_eq
  rw [BitVec.toNat_setWidth, toNat_timeAfter bounded]
  omega

/-- One tick, then a number of others. -/
theorem timeAfter_ticked (count : Nat) :
    timeAfter (ticked tim) count = timeAfter tim (count + 1) := by
  have stepped := toNat_ticked bounded
  apply BitVec.eq_of_toNat_eq
  rw [toNat_timeAfter (by omega), toNat_timeAfter bounded, stepped]
  omega

/-- The byte a tick sends. -/
theorem ticked_setWidth : (ticked tim).setWidth 8 = timeAfter tim 1 := by
  have stepped := toNat_ticked bounded
  apply BitVec.eq_of_toNat_eq
  rw [BitVec.toNat_setWidth, toNat_timeAfter bounded, stepped]
  omega

end Times

/-! ## One call -/

/-- The protocol word stands in the second byte of every message. -/
theorem isTime_wireImage
    (txbuffer : Memory Uint8)
    (grspwId : GrspwId)
    (pword : Uint8)
    (header data : List Uint8) :
    isTime (wireImage txbuffer grspwId pword header data) =
      (pword == msgqTime) := by
  rw [isTime, wireImage, Memory.getElem?_read, if_pos, Nat.zero_add,
    fillTxbuffer_pwordIdx, Option.some_beq_some]
  rw [pwordIdx]
  omega

/-- The message of a tick carries the next time code. -/
theorem carriesTime_tickMessage
    {core : Core}
    (bounded : core.regs.tim.toNat ≤ 0xFF) :
    CarriesTime core.device.grspwId (tickMessage core)
      (timeAfter core.regs.tim 1) := by
  intro rxbuffer rxHeader rxData
  rw [← ticked_setWidth bounded]
  exact receivePacket_wireImage core.host.txbuffer rxbuffer rxHeader rxData
    core.device.grspwId msgqTime (by simp [Fits, maxqSize]) (by decide)

/-- What a call that keeps the time does to SPWTIM and to the time codes
sent. -/
structure TimeStep (before after : Core) (ticks : Bool) : Prop where
  tim : after.regs.tim =
    if ticks then ticked before.regs.tim else before.regs.tim
  messages : ∃ sent,
    after.host.spwq = before.host.spwq ++ sent ∧
    sent.filter isTime = if ticks then [tickMessage before] else []

/-- A call that moves neither SPWTIM nor the queue. -/
theorem timeStep_of_same
    {before after : Core}
    (tim : after.regs.tim = before.regs.tim)
    (spwq : after.host.spwq = before.host.spwq) :
    TimeStep before after false :=
  ⟨tim, [], by rw [spwq, List.append_nil], rfl⟩

/-- A SPWCTR write without a reset ticks if it asks for it. -/
theorem timeStep_written_ctr
    (core : Core)
    {value : Uint32}
    (noReset : checkbit value spwctrRS = false) :
    TimeStep core (core.written .ctr value) (checkbit value spwctrTI) := by
  cases ticks : checkbit value spwctrTI with
  | true =>
      have asks : Ticks value := ⟨ticks, noReset⟩
      refine ⟨asks.ctrWritten_tim _ _, [tickMessage core],
        asks.written_spwq core, ?_⟩
      rw [List.filter_cons_of_pos]
      · rfl
      · rw [tickMessage, isTime_wireImage]
        rfl
  | false =>
      apply timeStep_of_same
      · change (ctrWritten core.device.grspwId core.regs value).tim = _
        rw [ctrWritten, linkDisable_tim, linkStart_tim]
        simp only [ctrTicked, ctrReset, ticks, noReset, Bool.false_eq_true,
          if_false]
      · change (ctrHost core.device.grspwId core.regs core.host value).spwq = _
        rw [ctrHost, if_neg]
        rw [ticks]
        exact Bool.false_ne_true

/-- A register write that keeps the time. -/
theorem timeStep_written
    (core : Core)
    {regOffset : RegOffset}
    {value : Uint32}
    (keeps : (Input.write regOffset value).KeepsTime) :
    TimeStep core (core.written regOffset value)
      (Input.write regOffset value).isTick := by
  cases regOffset with
  | ctr => exact timeStep_written_ctr core keeps
  | tim => exact absurd keeps id
  | _ => exact timeStep_of_same rfl rfl

/-- A call that keeps the time sends a time code exactly if it is a tick. -/
theorem timeStep_of_step
    {layout : Layout}
    {core after : Core}
    {input : Input}
    (keeps : input.KeepsTime)
    (moves : step layout core input = .ok after) :
    TimeStep core after input.isTick := by
  cases stepped_of_step moves with
  | written regOffset value => exact timeStep_written core keeps
  | readOut regOffset => exact timeStep_of_same rfl rfl
  | idle disabled => exact timeStep_of_same rfl rfl
  | polled polls =>
      apply timeStep_of_same
      · rw [Core.txPolled_regs]
      · rw [Core.txPolled_host]
  | sent sends =>
      refine ⟨?_, [wireImage core.host.txbuffer core.device.grspwId msgqData
        core.txHeader core.txData], ?_, ?_⟩
      · rw [Core.txReleased_regs]
        rfl
      · rw [Core.txReleased_host _ _ sends.admits, Core.txHost_spwq]
      · rw [List.filter_cons_of_neg]
        · rfl
        · rw [isTime_wireImage]
          decide
  | deaf data len att refused => exact timeStep_of_same rfl rfl
  | dropped data len att accepts unavailable =>
      exact timeStep_of_same rfl (discard_spwq _ _)
  | refused data len att fetches unarmed =>
      apply timeStep_of_same
      · rw [Core.rxRefused_regs]
        rfl
      · rw [Core.rxRefused_host, discard_spwq, discard_spwq, Host.emit_spwq]
  | stored data len att fetches armed =>
      apply timeStep_of_same
      · rw [Core.rxStored_regs]
        rfl
      · rw [Core.rxStored_host, discard_spwq, rxHost_spwq]
  | stale timecode notNewer => exact absurd keeps id
  | ticked timecode newer => exact absurd keeps id
  | surrounded ram txbuffer => exact timeStep_of_same rfl rfl

/-! ## Runs -/

/-- A call before a run counts on by what it ticks. -/
theorem CountsOn.cons
    {before middle after : Core}
    {ticks : Bool}
    {count : Nat}
    (bounded : before.regs.tim.toNat ≤ 0xFF)
    (sameId : middle.device.grspwId = before.device.grspwId)
    (first : TimeStep before middle ticks)
    (rest : CountsOn middle after count) :
    CountsOn before after (count + if ticks then 1 else 0) := by
  obtain ⟨sentFirst, queuedFirst, timesFirst⟩ := first.messages
  obtain ⟨sentRest, queuedRest, timesRest⟩ := rest.messages
  have queued : after.host.spwq = before.host.spwq ++ (sentFirst ++ sentRest) := by
    rw [queuedRest, queuedFirst, List.append_assoc]
  have tim := first.tim
  rw [sameId] at timesRest
  cases ticks with
  | false =>
      rw [if_neg Bool.false_ne_true] at tim timesFirst ⊢
      rw [tim] at timesRest
      refine ⟨⟨_, queued, ?_⟩, ?_⟩
      · rw [List.filter_append, timesFirst]
        exact timesRest
      · rw [rest.tim, tim, Nat.add_zero]
  | true =>
      rw [if_pos rfl] at tim timesFirst ⊢
      rw [tim] at timesRest
      refine ⟨⟨_, queued, ?_⟩, ?_⟩
      · rw [List.filter_append, timesFirst, List.range_succ_eq_map,
          List.map_cons, List.map_map]
        refine List.Forall₂.cons (carriesTime_tickMessage bounded) ?_
        simp only [timeAfter_ticked bounded] at timesRest
        exact timesRest
      · rw [rest.tim, tim, timeAfter_ticked bounded]

/-- A call that keeps the time leaves SPWTIM within a byte. -/
theorem TimeStep.toNat_tim_le
    {before after : Core}
    {ticks : Bool}
    (moved : TimeStep before after ticks)
    (bounded : before.regs.tim.toNat ≤ 0xFF) :
    after.regs.tim.toNat ≤ 0xFF := by
  have stepped := toNat_ticked bounded
  rw [moved.tim]
  split
  · omega
  · exact bounded

/-- A run that keeps the time counts on by its ticks. -/
theorem countsOn_of_run
    {layout : Layout}
    {core after : Core}
    {inputs : List Input}
    (bounded : core.regs.tim.toNat ≤ 0xFF)
    (keeps : ∀ input ∈ inputs, input.KeepsTime)
    (reaches : Machine.run (step layout) core inputs = .ok after) :
    CountsOn core after (inputs.countP Input.isTick) := by
  induction inputs generalizing core with
  | nil =>
      cases reaches
      exact ⟨⟨[], (List.append_nil _).symm, .nil⟩,
        (timeAfter_zero bounded).symm⟩
  | cons input inputs inductionHypothesis =>
      obtain ⟨middle, moves, rest⟩ := Machine.run_cons_eq_ok.mp reaches
      have first := timeStep_of_step (keeps input List.mem_cons_self) moves
      have counted := inductionHypothesis (first.toNat_tim_le bounded)
        (fun other member => keeps other (List.mem_cons_of_mem _ member)) rest
      rw [List.countP_cons]
      exact counted.cons bounded (step_grspwId moves) first

/-- Register writes always go through. -/
theorem exists_run_of_writes
    (layout : Layout)
    (core : Core)
    {inputs : List Input}
    (writes : ∀ input ∈ inputs, input.IsWrite) :
    ∃ after, Machine.run (step layout) core inputs = .ok after := by
  induction inputs generalizing core with
  | nil => exact ⟨core, rfl⟩
  | cons input inputs inductionHypothesis =>
      have isWrite := writes input List.mem_cons_self
      cases input with
      | write regOffset value =>
          obtain ⟨after, reaches⟩ :=
            inductionHypothesis (core.written regOffset value)
              fun other member => writes other (List.mem_cons_of_mem _ member)
          refine ⟨after, ?_⟩
          rw [Machine.run_cons_of_ok (core.write_eq regOffset value)]
          exact reaches
      | _ => exact absurd isWrite id

/-- **Time code sequences.**  Register writes always go through, and over every
run of calls among which no reset, no write of SPWTIM and no incoming time code
occurs, one time code is sent for each tick, counting on from SPWTIM modulo 64
under its control flags, and SPWTIM ends as the last of them. -/
theorem timecodes_count_on
    (layout : Layout)
    (core : Core)
    (inputs : List Input)
    (bounded : core.regs.tim ≤ 0xFF)
    (keeps : ∀ input ∈ inputs, input.KeepsTime) :
    ((∀ input ∈ inputs, input.IsWrite) →
      ∃ after, Machine.run (step layout) core inputs = .ok after) ∧
    ∀ after, Machine.run (step layout) core inputs = .ok after →
      CountsOn core after (inputs.countP Input.isTick) :=
  ⟨exists_run_of_writes layout core,
    fun _ => countsOn_of_run (BitVec.le_def.mp bounded) keeps⟩

/-- Two ticks on a fresh core, with a write of SPWNDR between them. -/
theorem timecodes_count_on_twice :
    ∃ after, Machine.run (step .packed) (apbgrspwInit 0 fun _ => 0)
        [.write .ctr spwctrTI, .write .ndr 7, .write .ctr spwctrTI] =
          .ok after ∧
      CountsOn (apbgrspwInit 0 fun _ => 0) after 2 := by
  have keeps : ∀ input ∈ [Input.write .ctr spwctrTI, .write .ndr 7,
      .write .ctr spwctrTI], input.KeepsTime ∧ input.IsWrite := by
    intro input member
    simp only [List.mem_cons, List.not_mem_nil, or_false] at member
    obtain rfl | rfl | rfl := member
    · exact ⟨Link.ticks_spwctrTI.noReset, trivial⟩
    · exact ⟨trivial, trivial⟩
    · exact ⟨Link.ticks_spwctrTI.noReset, trivial⟩
  obtain ⟨goesThrough, counts⟩ := timecodes_count_on .packed
    (apbgrspwInit 0 fun _ => 0) _ (by decide)
    fun input member => (keeps input member).1
  obtain ⟨after, reaches⟩ := goesThrough fun input member =>
    (keeps input member).2
  exact ⟨after, reaches, counts after reaches⟩

end Grspw
