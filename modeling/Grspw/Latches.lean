import Grspw.Interrupts
import Grspw.Invariants
import Grspw.Lib.Latch

/-!
# Status and engine-enable bits as latches

Which calls set and which clear each status bit of SPWCHN and SPWSTR and each
engine-enable bit of SPWCHN.  Every other call leaves the bit alone, so at the
end of every run the bit is 1 exactly when it was set since it was last cleared.
-/

namespace Grspw

/-- SPWCHN is zero from the start. -/
theorem chn_apbgrspwInit (grspwId : GrspwId) (ram : Memory Uint8) :
    (apbgrspwInit grspwId ram).regs.chn = 0 := by
  change (0 : Uint32) &&& spwchnNotresetMask ||| 0 = 0
  decide

/-! ## Status bits -/

/-- The status bits: Packet Received and Packet Sent of SPWCHN, Early EOP/EEP
and Tick Out of SPWSTR. -/
inductive StatusBit
  | PR | PS | EE | TO
  deriving DecidableEq

namespace StatusBit

/-- The register a status bit stands in. -/
def register : StatusBit → RegOffset
  | .PR | .PS => .chn
  | .EE | .TO => .str

/-- The position of a status bit. -/
def mask : StatusBit → Uint32
  | .PR => spwchnPR
  | .PS => spwchnPS
  | .EE => spwstrEE
  | .TO => spwstrTO

/-- The status bit as a read of its register shows it. -/
def read (bit : StatusBit) (regs : Regs) : Bool :=
  checkbit (readRegisters regs bit.register) bit.mask

/-- A call clears a status bit by a reset or by a one written to it. -/
def clearedBy (bit : StatusBit) : Input → Bool
  | .write regOffset value =>
      (regOffset = .ctr && checkbit value spwctrRS) ||
        (regOffset = bit.register && checkbit value bit.mask)
  | _ => false

/-- A call sets a status bit by the event it reports: a packet stored, a packet
sent, a packet stored with the EEP attribute, a time code taken over. -/
def setBy (bit : StatusBit) (core : Core) (input : Input) : Bool :=
  match bit, input with
  | .PR, .packet data _ _ => core.rxStoring data
  | .PS, .transmit => core.txSending
  | .EE, .packet data _ att => core.rxStoring data && att.ep ≠ 0
  | .TO, .timecode timecode => core.regs.tim < timecode.setWidth 32
  | _, _ => false

/-- What a call does to a status bit. -/
def event (bit : StatusBit) (core : Core) (input : Input) : Latch.Event :=
  if bit.clearedBy input then .clear
  else if bit.setBy core input then .set
  else .quiet

/-- A write of SPWCTR clears a status bit exactly when it resets. -/
theorem read_ctrWritten
    (bit : StatusBit)
    (grspwId : GrspwId)
    (regs : Regs)
    (value : Uint32) :
    bit.read (ctrWritten grspwId regs value) =
      (!checkbit value spwctrRS && bit.read regs) := by
  cases bit with
  | PR => exact checkbit_ctrWritten_chn _ _ _ (by decide) (by decide)
  | PS => exact checkbit_ctrWritten_chn _ _ _ (by decide) (by decide)
  | EE => exact checkbit_ctrWritten_str _ _ _ (by decide) (by decide)
  | TO => exact checkbit_ctrWritten_str _ _ _ (by decide) (by decide)

/-- A write of its own register clears a status bit exactly when it carries a
one there. -/
theorem read_regsWritten_register
    (bit : StatusBit)
    (grspwId : GrspwId)
    (regs : Regs)
    (value : Uint32) :
    bit.read (regsWritten grspwId regs bit.register value) =
      (bit.read regs && !checkbit value bit.mask) := by
  have channel : ∀ position, position = 5 ∨ position = 6 →
      checkbit (writeChn regs value).chn (1#32 <<< position) =
        (checkbit regs.chn (1#32 <<< position) &&
          !checkbit value (1#32 <<< position)) := by
    rintro position (rfl | rfl)
    all_goals
      rw [checkbit_writeChn _ _ (by decide), checkbit_bit _ (by decide),
        checkbit_bit _ (by decide)]
      rfl
  have status : ∀ position, position = 0 ∨ position = 8 →
      checkbit (writeStr regs value).str (1#32 <<< position) =
        (checkbit regs.str (1#32 <<< position) &&
          !checkbit value (1#32 <<< position)) := by
    rintro position (rfl | rfl)
    all_goals
      rw [checkbit_writeStr _ _ (by decide), checkbit_bit _ (by decide),
        checkbit_bit _ (by decide)]
      rfl
  cases bit with
  | PR => exact channel 6 (Or.inr rfl)
  | PS => exact channel 5 (Or.inl rfl)
  | EE => exact status 8 (Or.inr rfl)
  | TO => exact status 0 (Or.inl rfl)

/-- Writes of other registers leave a status bit alone. -/
theorem read_regsWritten_other
    (bit : StatusBit)
    (grspwId : GrspwId)
    (regs : Regs)
    {regOffset : RegOffset}
    (value : Uint32)
    (notControl : regOffset ≠ .ctr)
    (notOwn : regOffset ≠ bit.register) :
    bit.read (regsWritten grspwId regs regOffset value) = bit.read regs := by
  cases regOffset with
  | ctr => exact absurd rfl notControl
  | str =>
      cases bit with
      | PR => rfl
      | PS => rfl
      | EE => exact absurd rfl notOwn
      | TO => exact absurd rfl notOwn
  | chn =>
      cases bit with
      | PR => exact absurd rfl notOwn
      | PS => exact absurd rfl notOwn
      | EE => rfl
      | TO => rfl
  | _ => cases bit <;> rfl

/-- A register write does to a status bit what its event says. -/
theorem read_written
    (bit : StatusBit)
    (core : Core)
    (regOffset : RegOffset)
    (value : Uint32) :
    bit.read (core.written regOffset value).regs =
      (bit.event core (.write regOffset value)).apply (bit.read core.regs) := by
  have notSet : bit.setBy core (.write regOffset value) = false := by
    cases bit <;> rfl
  have event_eq : bit.event core (.write regOffset value) =
      if bit.clearedBy (.write regOffset value) then .clear else .quiet := by
    simp only [event, notSet, Bool.false_eq_true, if_false]
  have applied : (bit.event core (.write regOffset value)).apply
      (bit.read core.regs) =
        (!bit.clearedBy (.write regOffset value) && bit.read core.regs) := by
    rw [event_eq]
    cases bit.clearedBy (.write regOffset value) <;> rfl
  have stored : (core.written regOffset value).regs =
    regsWritten core.device.grspwId core.regs regOffset value := rfl
  have notControl : bit.register ≠ .ctr := by cases bit <;> decide
  rw [applied, stored]
  by_cases control : regOffset = .ctr
  · subst control
    rw [regsWritten, read_ctrWritten]
    simp [clearedBy, notControl.symm]
  · by_cases own : regOffset = bit.register
    · subst own
      rw [read_regsWritten_register, Bool.and_comm]
      simp [clearedBy, notControl]
    · rw [read_regsWritten_other _ _ _ _ control own]
      simp [clearedBy, control, own]

/-- A transmit call sets Packet Sent if it sends, and no other status bit. -/
theorem read_transmit
    {layout : Layout}
    {core after : Core}
    (bit : StatusBit)
    (moves : step layout core .transmit = .ok after) :
    bit.read after.regs =
      (bit.event core .transmit).apply (bit.read core.regs) := by
  cases stepped_of_step moves with
  | idle disabled =>
      have silent : core.txSending = false := by
        simp [Core.txSending, disabled]
      cases bit <;> simp [event, clearedBy, setBy, silent, Latch.Event.apply]
  | polled polls =>
      have silent : core.txSending = false := by
        simp [Core.txSending, polls.unarmed]
      have quiet : bit.event core .transmit = .quiet := by
        cases bit <;> simp [event, clearedBy, setBy, silent]
      rw [quiet, Core.txPolled_regs]
      cases bit with
      | PR => exact checkbit_clearbit_of_disjoint (by decide)
      | PS => exact checkbit_clearbit_of_disjoint (by decide)
      | EE => rfl
      | TO => rfl
  | sent sends =>
      have sending : core.txSending = true := by
        simp [Core.txSending, sends.enabled, sends.armed]
      rw [Core.txReleased_regs]
      cases bit with
      | PR => exact checkbit_setbit_of_disjoint (by decide)
      | PS =>
          have isSet : PS.event core .transmit = .set := by
            simp [event, clearedBy, setBy, sending]
          rw [isSet]
          exact checkbit_setbit_self _ _
      | EE => rfl
      | TO => rfl

/-- A packet sets Packet Received, and Early EOP/EEP with its attribute, if it is
stored, and no other status bit. -/
theorem read_packet
    {layout : Layout}
    {core after : Core}
    {data : Memory Uint8}
    {len : Uint32}
    {att : RecvAtt}
    (bit : StatusBit)
    (moves : step layout core (.packet data len att) = .ok after) :
    bit.read after.regs =
      (bit.event core (.packet data len att)).apply (bit.read core.regs) := by
  cases stepped_of_step moves with
  | deaf data len att refused =>
      have quiet : bit.event core (.packet data len att) = .quiet := by
        cases bit <;> simp [event, clearedBy, setBy, Core.rxStoring, refused]
      rw [quiet]
      rfl
  | dropped data len att accepts unavailable =>
      have quiet : bit.event core (.packet data len att) = .quiet := by
        cases bit <;>
          simp [event, clearedBy, setBy, Core.rxStoring, unavailable]
      rw [quiet]
      rfl
  | refused data len att fetches unarmed =>
      have quiet : bit.event core (.packet data len att) = .quiet := by
        cases bit <;> simp [event, clearedBy, setBy, Core.rxStoring, unarmed]
      rw [quiet, Core.rxRefused_regs]
      cases bit with
      | PR => exact checkbit_clearbit_of_disjoint (by decide)
      | PS => exact checkbit_clearbit_of_disjoint (by decide)
      | EE => rfl
      | TO => rfl
  | stored data len att fetches armed =>
      have storing : core.rxStoring data = true := by
        simp [Core.rxStoring, fetches.accepts, fetches.available, armed]
      rw [Core.rxStored_regs]
      cases bit with
      | PR =>
          have isSet : PR.event core (.packet data len att) = .set := by
            simp [event, clearedBy, setBy, storing]
          rw [isSet]
          exact checkbit_setbit_self _ _
      | PS => exact checkbit_setbit_of_disjoint (by decide)
      | EE =>
          by_cases eep : att.ep = 0
          · have quiet : EE.event core (.packet data len att) = .quiet := by
              simp [event, clearedBy, setBy, eep]
            rw [quiet]
            simp [read, readRegisters, register, Core.rxRegs, eep,
              Latch.Event.apply]
          · have isSet : EE.event core (.packet data len att) = .set := by
              simpa [event, clearedBy, setBy, storing] using eep
            rw [isSet]
            simp only [read, readRegisters, register, Core.rxRegs, ne_eq, eep,
              not_false_eq_true, if_true]
            exact checkbit_setbit_self _ _
      | TO =>
          simp only [read, readRegisters, register, Core.rxRegs]
          split
          · exact checkbit_setbit_of_disjoint (by decide)
          · rfl

/-- A time code taken over sets Tick Out, and no other status bit. -/
theorem read_timecode
    {layout : Layout}
    {core after : Core}
    {timecode : Uint8}
    (bit : StatusBit)
    (moves : step layout core (.timecode timecode) = .ok after) :
    bit.read after.regs =
      (bit.event core (.timecode timecode)).apply (bit.read core.regs) := by
  cases stepped_of_step moves with
  | stale timecode notNewer =>
      have quiet : bit.event core (.timecode timecode) = .quiet := by
        cases bit <;> simp [event, clearedBy, setBy, notNewer]
      rw [quiet]
      rfl
  | ticked timecode newer =>
      cases bit with
      | PR => rfl
      | PS => rfl
      | EE => exact checkbit_setbit_of_disjoint (by decide)
      | TO =>
          have isSet : TO.event core (.timecode timecode) = .set := by
            simp [event, clearedBy, setBy, newer]
          rw [isSet]
          exact checkbit_setbit_self _ _

/-- Every step does to a status bit what its event says. -/
theorem read_step
    {layout : Layout}
    {core after : Core}
    {input : Input}
    (bit : StatusBit)
    (moves : step layout core input = .ok after) :
    bit.read after.regs = (bit.event core input).apply (bit.read core.regs) := by
  cases input with
  | write regOffset value =>
      have writes : core.write regOffset value = .ok after := moves
      rw [Core.write_eq] at writes
      cases writes
      exact bit.read_written core regOffset value
  | transmit => exact bit.read_transmit moves
  | packet data len att => exact bit.read_packet moves
  | timecode timecode => exact bit.read_timecode moves
  | read regOffset =>
      cases moves
      cases bit <;> rfl
  | ambient ram txbuffer =>
      cases moves
      cases bit <;> rfl

/-- Every status bit is clear from the start. -/
theorem read_apbgrspwInit
    (bit : StatusBit)
    (grspwId : GrspwId)
    (ram : Memory Uint8) :
    bit.read (apbgrspwInit grspwId ram).regs = false := by
  have channel : ∀ mask, mask ≠ 0 →
      checkbit (apbgrspwInit grspwId ram).regs.chn mask = false := by
    intro mask nonzero
    rw [chn_apbgrspwInit]
    simpa [checkbit] using nonzero
  have status : ∀ mask, mask ≠ 0 →
      checkbit (apbgrspwInit grspwId ram).regs.str mask = false := by
    intro mask nonzero
    change checkbit 0 mask = false
    simpa [checkbit] using nonzero
  cases bit with
  | PR => exact channel _ (by decide)
  | PS => exact channel _ (by decide)
  | EE => exact status _ (by decide)
  | TO => exact status _ (by decide)

/-- A bus write that does not clear a status bit leaves it alone, unless its
transmit call reports a packet sent. -/
theorem read_apbgrspwWrite
    {layout : Layout}
    {core after : Core}
    {regOffset : RegOffset}
    {value : Uint32}
    (bit : StatusBit)
    (kept : bit.clearedBy (.write regOffset value) = false)
    (returns : core.apbgrspwWrite layout regOffset value = .ok after) :
    bit.read after.regs = bit.read core.regs ∨
      bit = .PS ∧ bit.read after.regs = true := by
  have stored : bit.read (core.written regOffset value).regs =
      bit.read core.regs := by
    have quiet : bit.event core (.write regOffset value) = .quiet := by
      cases bit <;> simp [event, kept, setBy]
    rw [read_written, quiet]
    rfl
  rw [Core.apbgrspwWrite_eq] at returns
  have moved := @read_step layout _ _ .transmit bit returns
  rw [moved, stored]
  cases sets : bit.setBy (core.written regOffset value) .transmit with
  | false => simp [event, clearedBy, sets, Latch.Event.apply]
  | true =>
      have isSent : bit = .PS := by
        cases bit with
        | PS => rfl
        | PR => cases sets
        | EE => cases sets
        | TO => cases sets
      exact Or.inr ⟨isSent, by simp [event, clearedBy, sets, Latch.Event.apply]⟩

end StatusBit

/-- **Status bits.**  At the end of every run a status bit is 1 exactly when the
event it reports has happened since the bit was last cleared, by a reset or by a
one written to it; and no other write moves it, a packet sent by the transmit
call that follows apart. -/
theorem statusBit_latched
    (layout : Layout)
    (grspwId : GrspwId)
    (ram : Memory Uint8)
    (inputs : List Input)
    (last : Core)
    (reaches : Machine.run (step layout) (apbgrspwInit grspwId ram) inputs =
      .ok last)
    (bit : StatusBit) :
    (bit.read last.regs = true ↔
      Latch.SetSinceClear (Machine.observe (step layout) bit.event
        (apbgrspwInit grspwId ram) inputs)) ∧
    ∀ regOffset value, bit.clearedBy (.write regOffset value) = false →
      bit.read (last.written regOffset value).regs = bit.read last.regs ∧
      ∀ after, last.apbgrspwWrite layout regOffset value = .ok after →
        bit.read after.regs = bit.read last.regs ∨
          bit = .PS ∧ bit.read after.regs = true := by
  constructor
  · exact Latch.latched_iff (fun _ _ _ => bit.read_step)
      (bit.read_apbgrspwInit grspwId ram) reaches
  · intro regOffset value kept
    refine ⟨?_, fun after => bit.read_apbgrspwWrite kept⟩
    have quiet : bit.event last (.write regOffset value) = .quiet := by
      cases bit <;> simp [StatusBit.event, kept, StatusBit.setBy]
    rw [bit.read_written, quiet]
    rfl

/-- A packet sent, and the bit cleared by a write of its own position. -/
theorem statusBit_latched_packet_sent :
    ∃ last, StatusBit.PS.read last.regs = true ∧
      Machine.run (step .packed) (apbgrspwInit 0 (enabledRam 16 2 0x10))
        (busCalls [.write .chn spwchnTE, .write .chn spwchnPR]) = .ok last := by
  have finishes : (Machine.run (step .packed)
      (apbgrspwInit 0 (enabledRam 16 2 0x10))
      (busCalls [.write .chn spwchnTE, .write .chn spwchnPR])).isOk = true := by
    decide
  cases reaches : Machine.run (step .packed)
      (apbgrspwInit 0 (enabledRam 16 2 0x10))
      (busCalls [.write .chn spwchnTE, .write .chn spwchnPR]) with
  | error fault =>
      rw [reaches] at finishes
      cases finishes
  | ok last =>
      exact ⟨last, (statusBit_latched .packed 0 (enabledRam 16 2 0x10) _ last
        reaches .PS).1.mpr (by decide), rfl⟩

/-! ## Engine-enable bits -/

/-- The engine-enable bits of SPWCHN: Transmitter Enable and RX Descriptors
Available. -/
inductive EngineBit
  | TE | RD
  deriving DecidableEq

namespace EngineBit

/-- The position of an engine-enable bit. -/
def mask : EngineBit → Uint32
  | .TE => spwchnTE
  | .RD => spwchnRD

/-- The bit as a read of SPWCHN shows it. -/
def read (bit : EngineBit) (regs : Regs) : Bool :=
  checkbit (readRegisters regs .chn) bit.mask

/-- A call stops an engine: a reset, an abort of the transmitter, or the engine
finding its descriptor disabled. -/
def clearedBy (bit : EngineBit) (core : Core) (input : Input) : Bool :=
  match bit, input with
  | _, .write .ctr value => checkbit value spwctrRS
  | .TE, .write .chn value => checkbit value spwchnAT
  | .TE, .transmit =>
      checkbit core.regs.chn spwchnTE && !checkbit core.txDescr.ctrl spwtdw0EN
  | .RD, .packet data _ _ =>
      rxAccepts core.regs data && checkbit core.regs.chn spwchnRD &&
        !checkbit core.rxDesc.ctrl spwtrw0EN
  | _, _ => false

/-- A write of SPWCHN starts an engine by a one at its bit, the transmitter only
without an abort. -/
def setBy (bit : EngineBit) (input : Input) : Bool :=
  match bit, input with
  | .TE, .write .chn value =>
      checkbit value spwchnTE && !checkbit value spwchnAT
  | .RD, .write .chn value => checkbit value spwchnRD
  | _, _ => false

/-- What a call does to an engine-enable bit. -/
def event (bit : EngineBit) (core : Core) (input : Input) : Latch.Event :=
  if bit.clearedBy core input then .clear
  else if bit.setBy input then .set
  else .quiet

/-- A write of SPWCHN starts an engine or leaves it running; only an abort stops
the transmitter. -/
theorem read_writeChn
    (bit : EngineBit)
    (regs : Regs)
    (value : Uint32) :
    bit.read (writeChn regs value) =
      match bit with
      | .TE => (bit.read regs || checkbit value spwchnTE) &&
          !checkbit value spwchnAT
      | .RD => bit.read regs || checkbit value spwchnRD := by
  cases bit with
  | TE =>
      simp only [read, readRegisters, mask, spwchnTE, spwchnAT]
      rw [checkbit_writeChn _ _ (by decide), checkbit_bit _ (by decide),
        checkbit_bit _ (by decide), checkbit_bit _ (by decide)]
      rfl
  | RD =>
      simp only [read, readRegisters, mask, spwchnRD]
      rw [checkbit_writeChn _ _ (by decide), checkbit_bit _ (by decide),
        checkbit_bit _ (by decide)]
      rfl

/-- A write of SPWCTR stops an engine exactly when it resets. -/
theorem read_ctrWritten
    (bit : EngineBit)
    (grspwId : GrspwId)
    (regs : Regs)
    (value : Uint32) :
    bit.read (ctrWritten grspwId regs value) =
      (!checkbit value spwctrRS && bit.read regs) := by
  cases bit with
  | TE => exact checkbit_ctrWritten_chn _ _ _ (by decide) (by decide)
  | RD => exact checkbit_ctrWritten_chn _ _ _ (by decide) (by decide)

/-- A register write does to an engine-enable bit what its event says. -/
theorem read_written
    (bit : EngineBit)
    (core : Core)
    (regOffset : RegOffset)
    (value : Uint32) :
    bit.read (core.written regOffset value).regs =
      (bit.event core (.write regOffset value)).apply (bit.read core.regs) := by
  have stored : (core.written regOffset value).regs =
    regsWritten core.device.grspwId core.regs regOffset value := rfl
  rw [stored]
  cases regOffset with
  | ctr =>
      have notSet : bit.setBy (.write .ctr value) = false := by
        cases bit <;> rfl
      rw [regsWritten, read_ctrWritten]
      cases resets : checkbit value spwctrRS <;>
        simp [event, clearedBy, notSet, resets, Latch.Event.apply]
  | chn =>
      rw [regsWritten, read_writeChn]
      cases bit with
      | TE =>
          cases aborts : checkbit value spwchnAT <;>
            cases starts : checkbit value spwchnTE <;>
              simp [event, clearedBy, setBy, aborts, starts, Latch.Event.apply]
      | RD =>
          cases starts : checkbit value spwchnRD <;>
            simp [event, clearedBy, setBy, starts, Latch.Event.apply]
  | _ => cases bit <;> rfl

/-- Every step does to an engine-enable bit what its event says. -/
theorem read_step
    {layout : Layout}
    {core after : Core}
    {input : Input}
    (bit : EngineBit)
    (moves : step layout core input = .ok after) :
    bit.read after.regs = (bit.event core input).apply (bit.read core.regs) := by
  cases stepped_of_step moves with
  | written regOffset value => exact bit.read_written core regOffset value
  | idle disabled =>
      have quiet : bit.event core .transmit = .quiet := by
        cases bit <;> simp [event, clearedBy, setBy, disabled]
      rw [quiet]
      rfl
  | polled polls =>
      rw [Core.txPolled_regs]
      cases bit with
      | TE =>
          have stops : TE.event core .transmit = .clear := by
            simp [event, clearedBy, polls.enabled, polls.unarmed]
          rw [stops]
          exact checkbit_clearbit_self (by decide)
      | RD => exact checkbit_clearbit_of_disjoint (by decide)
  | sent sends =>
      have quiet : bit.event core .transmit = .quiet := by
        cases bit <;> simp [event, clearedBy, setBy, sends.armed]
      rw [quiet, Core.txReleased_regs]
      cases bit with
      | TE => exact checkbit_setbit_of_disjoint (by decide)
      | RD => exact checkbit_setbit_of_disjoint (by decide)
  | deaf data len att refused =>
      have quiet : bit.event core (.packet data len att) = .quiet := by
        cases bit <;> simp [event, clearedBy, setBy, refused]
      rw [quiet]
      rfl
  | dropped data len att accepts unavailable =>
      have quiet : bit.event core (.packet data len att) = .quiet := by
        cases bit <;> simp [event, clearedBy, setBy, unavailable]
      rw [quiet]
      rfl
  | refused data len att fetches unarmed =>
      rw [Core.rxRefused_regs]
      cases bit with
      | TE => exact checkbit_clearbit_of_disjoint (by decide)
      | RD =>
          have stops : RD.event core (.packet data len att) = .clear := by
            simp [event, clearedBy, fetches.accepts, fetches.available, unarmed]
          rw [stops]
          exact checkbit_clearbit_self (by decide)
  | stored data len att fetches armed =>
      have quiet : bit.event core (.packet data len att) = .quiet := by
        cases bit <;> simp [event, clearedBy, setBy, armed]
      rw [quiet, Core.rxStored_regs]
      cases bit with
      | TE => exact checkbit_setbit_of_disjoint (by decide)
      | RD => exact checkbit_setbit_of_disjoint (by decide)
  | _ => cases bit <;> rfl

/-- Both engines are off from the start. -/
theorem read_apbgrspwInit
    (bit : EngineBit)
    (grspwId : GrspwId)
    (ram : Memory Uint8) :
    bit.read (apbgrspwInit grspwId ram).regs = false := by
  have chn := chn_apbgrspwInit grspwId ram
  simp only [read, readRegisters, chn]
  cases bit <;> decide

end EngineBit

/-- **Engine-enable bits.**  At the end of every run an engine-enable bit is 1
exactly when SPWCHN was written to start the engine since it was last stopped.
A write of SPWCHN without Abort TX stops no engine, one with it not the
receiver, and Abort TX reads 0. -/
theorem engineBit_latched
    (layout : Layout)
    (grspwId : GrspwId)
    (ram : Memory Uint8)
    (inputs : List Input)
    (last : Core)
    (reaches : Machine.run (step layout) (apbgrspwInit grspwId ram) inputs =
      .ok last) :
    (∀ bit : EngineBit, bit.read last.regs = true ↔
      Latch.SetSinceClear (Machine.observe (step layout) bit.event
        (apbgrspwInit grspwId ram) inputs)) ∧
    (∀ (bit : EngineBit) (value : Uint32),
      (bit = .TE → checkbit value spwchnAT = false) →
      bit.read last.regs = true →
        bit.read (last.written .chn value).regs = true) ∧
    checkbit (readRegisters last.regs .chn) spwchnAT = false := by
  refine ⟨?_, ?_, ?_⟩
  · intro bit
    exact Latch.latched_iff (fun _ _ _ => bit.read_step)
      (bit.read_apbgrspwInit grspwId ram) reaches
  · intro bit value noAbort running
    have stored : (last.written .chn value).regs = writeChn last.regs value :=
      rfl
    rw [stored, EngineBit.read_writeChn]
    cases bit with
    | TE => simp [running, noAbort rfl]
    | RD => simp [running]
  · have formed : RegsFormed last.device.grspwId last.regs := by
      refine @Machine.reachable_invariant _ _ _ (step layout)
        (fun core => RegsFormed core.device.grspwId core.regs) ?_ _ _
          (regsFormed_apbgrspwInit grspwId ram) ⟨inputs, reaches⟩
      exact fun _ _ _ => regsFormed_step
    exact formed.chn.abortClear

/-- Both engines started, the transmitter stopped by its disabled
descriptor. -/
theorem engineBit_latched_polled :
    ∃ last, EngineBit.TE.read last.regs = false ∧
      EngineBit.RD.read last.regs = true ∧
      Machine.run (step .packed) (apbgrspwInit 0 (fun _ => 0))
        (busCalls [.write .chn (spwchnTE ||| spwchnRD)]) = .ok last := by
  have finishes : (Machine.run (step .packed) (apbgrspwInit 0 (fun _ => 0))
      (busCalls [.write .chn (spwchnTE ||| spwchnRD)])).isOk = true := by
    decide
  cases reaches : Machine.run (step .packed) (apbgrspwInit 0 (fun _ => 0))
      (busCalls [.write .chn (spwchnTE ||| spwchnRD)]) with
  | error fault =>
      rw [reaches] at finishes
      cases finishes
  | ok last =>
      have latched := (engineBit_latched .packed 0 (fun _ => 0) _ last
        reaches).1
      have transmitter : EngineBit.TE.read last.regs = false := by
        rw [Bool.eq_false_iff, ne_eq, latched]
        decide
      exact ⟨last, transmitter, (latched .RD).mpr (by decide), rfl⟩

end Grspw
