import Grspw.Rings

/-!
# Interrupt gating

Each engine raises the core's interrupt when a descriptor it has used asks for
it and the engine's mask bit in SPWCHN is set.  The transmitter consults its
mask, Transmit Interrupt.  The receiver consults the same bit, not Receive
Interrupt, so it is gated as documented only while the two agree.
-/

namespace Grspw

/-! ## Counting pulses -/

namespace Host

/-- How often a core's interrupt was pulsed. -/
def pulses (host : Host) (grspwId : GrspwId) : Nat :=
  host.log.count (.irqPulse grspwId)

variable (host : Host) (grspwId : GrspwId)

@[simp] theorem pulses_emit_irqPulse :
    (host.emit (.irqPulse grspwId)).pulses grspwId =
      host.pulses grspwId + 1 := by
  simp [pulses]

@[simp] theorem pulses_emit_warning (msg : String) :
    (host.emit (.warning msg)).pulses grspwId = host.pulses grspwId := by
  simp [pulses]

@[simp] theorem pulses_writeRam (addr : Uint32) (values : List Uint8) :
    (host.writeRam addr values).pulses grspwId = host.pulses grspwId := by
  simp [pulses]

@[simp] theorem pulses_sent
    (sender : GrspwId) (pword : Uint8) (header data : List Uint8) :
    (host.sent sender pword header data).pulses grspwId =
      host.pulses grspwId := rfl

@[simp] theorem pulses_discard (device : Device) :
    (discard device host).pulses grspwId = host.pulses grspwId := by
  unfold discard
  split
  · exact host.pulses_emit_warning grspwId msgDiscarded
  · rfl

end Host

namespace Core

/-- How often the core's own interrupt was pulsed. -/
def pulses (core : Core) : Nat := core.host.pulses core.device.grspwId

/-- A call pulses the interrupt once if it should, and not at all if not. -/
def PulsesOnceIf (core after : Core) (should : Bool) : Prop :=
  after.pulses = core.pulses + if should then 1 else 0

instance (core after : Core) (should : Bool) :
    Decidable (core.PulsesOnceIf after should) :=
  inferInstanceAs (Decidable (_ = _))

theorem pulsesOnceIf_iff
    {core after : Core}
    {does : Bool}
    (pulses_eq : core.PulsesOnceIf after does)
    (should : Bool) :
    core.PulsesOnceIf after should ↔ does = should := by
  unfold PulsesOnceIf at pulses_eq ⊢
  rw [pulses_eq]
  cases does <;> cases should <;> simp

/-- A transmit call that returns sends a packet. -/
def txSending (core : Core) : Bool :=
  checkbit core.regs.chn spwchnTE && checkbit core.txDescr.ctrl spwtdw0EN

/-- A receive call that returns stores its packet. -/
def rxStoring (core : Core) (data : Memory Uint8) : Bool :=
  rxAccepts core.regs data && checkbit core.regs.chn spwchnRD &&
    checkbit core.rxDesc.ctrl spwtrw0EN

/-! ## What the engines do -/

/-- The transmitter pulses for a packet sent whose descriptor asks for it, under
Transmit Interrupt. -/
theorem pulsesOnceIf_txenable
    {layout : Layout}
    {core after : Core}
    {stop : Bool}
    (returns : txenable layout core = .ok (stop, after)) :
    core.PulsesOnceIf after
      (core.txSending && checkbit core.txDescr.ctrl spwtdw0IE &&
        checkbit core.regs.chn spwchnTI) := by
  unfold PulsesOnceIf pulses txSending
  obtain ⟨_, disabled, rfl⟩ | ⟨_, polls, rfl⟩ | ⟨_, sends, rfl⟩ :=
    txenable_cases returns
  · simp [disabled]
  · simp [polls.unarmed]
  · rw [txReleased_host _ _ sends.admits, txReleased_grspwId]
    simp only [sends.enabled, sends.armed, Bool.and_self, Bool.true_and]
    unfold txHost txInterrupts
    cases checkbit core.txDescr.ctrl spwtdw0IE &&
        checkbit core.regs.chn spwchnTI with
    | true => simp
    | false => simp

/-- The receiver pulses for a packet stored whose descriptor asks for it, under
Transmit Interrupt as well. -/
theorem pulsesOnceIf_rxenable
    {layout : Layout}
    {core after : Core}
    {data : Memory Uint8}
    {len : Uint32}
    {att : RecvAtt}
    (returns : rxenable layout core data len att = .ok after) :
    core.PulsesOnceIf after
      (core.rxStoring data && checkbit core.rxDesc.ctrl spwtrw0IE &&
        checkbit core.regs.chn spwchnTI) := by
  unfold PulsesOnceIf pulses rxStoring
  obtain ⟨refused, rfl⟩ | ⟨_, unavailable, rfl⟩ | ⟨_, unarmed, rfl⟩ |
    ⟨fetches, armed, rfl⟩ := rxenable_cases returns
  · simp [refused]
  · simp [unavailable, rxDropped]
  · simp [unarmed, rxRefused_host]
  · rw [rxStored_host, rxStored_grspwId, Host.pulses_discard]
    simp only [fetches.accepts, fetches.available, armed, Bool.and_self,
      Bool.true_and]
    unfold rxHost rxInterrupts
    cases checkbit core.rxDesc.ctrl spwtrw0IE &&
        checkbit core.regs.chn spwchnTI with
    | true =>
        by_cases truncates : core.regs.rxl &&& spwrxlRxMaxLength < len
        · simp [truncates]
        · simp [truncates]
    | false =>
        by_cases truncates : core.regs.rxl &&& spwrxlRxMaxLength < len
        · simp [truncates]
        · simp [truncates]

/-! ## Gating over runs -/

/-- Whether a call should pulse the interrupt; other inputs are not engines'
calls. -/
def shouldPulse (core : Core) : Input → Option Bool
  | .transmit =>
      some (core.txSending && checkbit core.txDescr.ctrl spwtdw0IE &&
        checkbit core.regs.chn spwchnTI)
  | .packet data _ _ =>
      some (core.rxStoring data && checkbit core.rxDesc.ctrl spwtrw0IE &&
        checkbit core.regs.chn spwchnRI)
  | _ => none

/-- A call of an engine pulses exactly when it should. -/
def Gated (layout : Layout) (core : Core) (input : Input) : Prop :=
  match step layout core input, core.shouldPulse input with
  | .ok after, some should => core.PulsesOnceIf after should
  | _, _ => True

instance (layout : Layout) (core : Core) (input : Input) :
    Decidable (core.Gated layout input) := by
  unfold Gated
  split <;> infer_instance

/-- A packet stored through a descriptor that asks for the interrupt finds the
two masks equal. -/
def MasksAgree (layout : Layout) (core : Core) : Input → Prop
  | .packet data _ _ =>
      layout.Admits core.device.rxdCur nbRxDescriptor →
      core.rxStoring data = true →
      checkbit core.rxDesc.ctrl spwtrw0IE = true →
        checkbit core.regs.chn spwchnTI = checkbit core.regs.chn spwchnRI
  | _ => True

/-- A receive call that returns and stores its packet had its index in range. -/
theorem admits_of_rxStoring
    {layout : Layout}
    {core after : Core}
    {data : Memory Uint8}
    {len : Uint32}
    {att : RecvAtt}
    (storing : core.rxStoring data = true)
    (returns : rxenable layout core data len att = .ok after) :
    layout.Admits core.device.rxdCur nbRxDescriptor := by
  simp only [rxStoring, Bool.and_eq_true] at storing
  by_contra outside
  rw [rxenable_outOfBounds storing.1.1 storing.1.2 outside] at returns
  cases returns

/-- A receive call whose packet is to be stored returns. -/
theorem rxenable_of_rxStoring
    {layout : Layout}
    {core : Core}
    {data : Memory Uint8}
    (len : Uint32)
    (att : RecvAtt)
    (admits : layout.Admits core.device.rxdCur nbRxDescriptor)
    (storing : core.rxStoring data = true) :
    rxenable layout core data len att =
      .ok (core.rxStored data len att) := by
  simp only [rxStoring, Bool.and_eq_true] at storing
  exact rxenable_stored ⟨storing.1.1, storing.1.2, admits⟩ storing.2

/-- A receive call is gated exactly when the masks agree where it matters. -/
theorem gated_packet_iff
    (layout : Layout)
    (core : Core)
    (data : Memory Uint8)
    (len : Uint32)
    (att : RecvAtt) :
    core.Gated layout (.packet data len att) ↔
      core.MasksAgree layout (.packet data len att) := by
  have calls : step layout core (.packet data len att) =
    rxenable layout core data len att := rfl
  cases result : rxenable layout core data len att with
  | error fault =>
      simp only [Gated, calls, result, true_iff]
      intro admits storing _
      rw [rxenable_of_rxStoring len att admits storing] at result
      cases result
  | ok after =>
      simp only [Gated, calls, result, shouldPulse, MasksAgree]
      rw [pulsesOnceIf_iff (pulsesOnceIf_rxenable result)]
      cases storing : core.rxStoring data with
      | false => simp
      | true =>
          have admits := admits_of_rxStoring storing result
          cases checkbit core.rxDesc.ctrl spwtrw0IE with
          | false => simp
          | true => simp [admits]

/-- A transmit call is always gated. -/
theorem gated_transmit (layout : Layout) (core : Core) :
    core.Gated layout .transmit := by
  cases result : txenable layout core with
  | error fault => simp [Gated, step, result, Except.map]
  | ok returned =>
      obtain ⟨stop, after⟩ := returned
      simp only [Gated, step, result, Except.map, shouldPulse]
      exact pulsesOnceIf_txenable result

/-- A step is gated exactly when the masks agree where it matters. -/
theorem gated_iff (layout : Layout) (core : Core) (input : Input) :
    core.Gated layout input ↔ core.MasksAgree layout input := by
  cases input with
  | packet data len att => exact gated_packet_iff layout core data len att
  | transmit =>
      exact iff_of_true (core.gated_transmit layout) trivial
  | _ => exact iff_of_true (by simp [Gated, shouldPulse]) trivial

end Core

/-- **Gating.**  In every run, each engine's calls pulse the interrupt exactly
as documented if and only if no packet is stored, through a descriptor that asks
for the interrupt, while the two mask bits differ. -/
theorem gated_run_iff
    (layout : Layout)
    (grspwId : GrspwId)
    (ram : Memory Uint8)
    (inputs : List Input) :
    Machine.Guarded (step layout) (Core.Gated layout)
        (apbgrspwInit grspwId ram) inputs ↔
      Machine.Guarded (step layout) (Core.MasksAgree layout)
        (apbgrspwInit grspwId ram) inputs :=
  Machine.guarded_congr (Core.gated_iff layout) _ inputs

/-- With Receive Interrupt alone set, a stored packet raises nothing. -/
theorem not_gated_run :
    ¬∀ (layout : Layout) (grspwId : GrspwId) (ram : Memory Uint8)
      (inputs : List Input),
      Machine.Guarded (step layout) (Core.Gated layout)
        (apbgrspwInit grspwId ram) inputs := by
  intro all
  exact absurd
    (all .packed 0 (enabledRam 8 0 0x0A)
      (busCalls [.write .chn (spwchnRE ||| spwchnRD ||| spwchnRI), nodePacket]))
    (by decide)

end Grspw
