import Grspw.Lib.Machine
import Grspw.Receive
import Grspw.Transmit

/-!
# A core as a machine

One core driven by the calls the plugin makes on it.  A bus write is two calls,
`grlib_reggrspw_write_registers` and one `grlib_comgrspw_txenable`; they are two
inputs here, so that the other calls may come between them.  Everything the
rest of the emulator does to the shared state is the input `ambient`.
-/

namespace Grspw

/-- The calls made on a core, and what happens around it. -/
inductive Input
  | write (regOffset : RegOffset) (value : Uint32)
  | read (regOffset : RegOffset)
  | transmit
  | packet (data : Memory Uint8) (len : Uint32) (att : RecvAtt)
  | timecode (timecode : Uint8)
  /-- Guest RAM and the shared transmit buffer take any contents. -/
  | ambient (ram txbuffer : Memory Uint8)

namespace Core

/-- The register write of a bus write. -/
def write
    (core : Core)
    (regOffset : RegOffset)
    (value : Uint32) : Except Fault Core :=
  match writeRegisters core.device.grspwId core.regs core.host regOffset
      value with
  | .ok (regs, host) => .ok ⟨{ core.device with grspwReg := regs }, host⟩
  | .error fault => .error fault

/-- A bus read: the value is logged. -/
def read (core : Core) (regOffset : RegOffset) : Core :=
  { core with
    host := core.host.emit (.regRead (readRegisters core.regs regOffset)) }

/-- Other contents for what the core shares with the rest of the emulator. -/
def ambient (core : Core) (ram txbuffer : Memory Uint8) : Core :=
  { core with host := { core.host with ram := ram, txbuffer := txbuffer } }

/-- A bus write: the register write, then one transmit call whose result is
not looked at. -/
def apbgrspwWrite
    (layout : Layout)
    (core : Core)
    (regOffset : RegOffset)
    (value : Uint32) : Except Fault Core :=
  match core.write regOffset value with
  | .error fault => .error fault
  | .ok core =>
      match txenable layout core with
      | .error fault => .error fault
      | .ok (_, core) => .ok core

/-- What the surroundings have seen of a core. -/
def output (core : Core) : List Message × List Effect :=
  (core.host.spwq, core.host.log)

end Core

/-- One call on a core. -/
def step (layout : Layout) (core : Core) : Input → Except Fault Core
  | .write regOffset value => core.write regOffset value
  | .read regOffset => .ok (core.read regOffset)
  | .transmit => (txenable layout core).map Prod.snd
  | .packet data len att => rxenable layout core data len att
  | .timecode timecode => .ok (rxtimecode core timecode)
  | .ambient ram txbuffer => .ok (core.ambient ram txbuffer)

/-- The calls a bus makes: each register write is followed by a transmit
call. -/
def busCalls (inputs : List Input) : List Input :=
  inputs.flatMap fun
    | .write regOffset value => [.write regOffset value, .transmit]
    | input => [input]

/-- Guest RAM with one byte set in every entry of a table. -/
def enabledRam (stride index : Nat) (bits : Uint8) : Memory Uint8 :=
  fun addr => if addr % stride = index then bits else 0

/-- A one-byte packet to the default node address, without errors. -/
def nodePacket : Input := .packet (fun _ => 254) 1 ⟨0, 0, 0⟩

/-- A bus write is its two calls in a row. -/
theorem apbgrspwWrite_eq_run
    (layout : Layout)
    (core : Core)
    (regOffset : RegOffset)
    (value : Uint32) :
    core.apbgrspwWrite layout regOffset value =
      Machine.run (step layout) core (busCalls [.write regOffset value]) := by
  change _ = Machine.run (step layout) core [.write regOffset value, .transmit]
  unfold Core.apbgrspwWrite
  cases writes : core.write regOffset value with
  | error fault => rw [Machine.run_cons_of_error writes]
  | ok middle =>
      rw [Machine.run_cons_of_ok writes]
      cases sends : txenable layout middle with
      | error fault =>
          have stops : step layout middle .transmit = .error fault := by
            simp [step, sends, Except.map]
          rw [Machine.run_cons_of_error stops]
          simp only [sends]
      | ok result =>
          have moves : step layout middle .transmit = .ok result.2 := by
            simp [step, sends, Except.map]
          rw [Machine.run_cons_of_ok moves, Machine.run_nil]
          simp only [sends]

/-! ## Steps -/

namespace Core

/-- The state after a register write. -/
def written (core : Core) (regOffset : RegOffset) (value : Uint32) : Core where
  device :=
    { core.device with
      grspwReg := regsWritten core.device.grspwId core.regs regOffset value }
  host := hostWritten core.device.grspwId core.regs core.host regOffset value

theorem write_eq (core : Core) (regOffset : RegOffset) (value : Uint32) :
    core.write regOffset value = .ok (core.written regOffset value) := by
  simp only [write, writeRegisters_eq]
  rfl

/-- A register write puts at most a time code on `spwq`. -/
theorem written_spwq (core : Core) (regOffset : RegOffset) (value : Uint32) :
    (core.written regOffset value).host.spwq = core.host.spwq ∨
      ∃ timecode, (core.written regOffset value).host.spwq =
        core.host.spwq ++
          [wireImage core.host.txbuffer core.device.grspwId msgqTime []
            [timecode]] := by
  cases regOffset with
  | ctr =>
      have host : (core.written .ctr value).host =
        ctrHost core.device.grspwId core.regs core.host value := rfl
      rw [host, ctrHost]
      cases checkbit value spwctrTI with
      | true => exact Or.inr ⟨_, rfl⟩
      | false => exact Or.inl rfl
  | _ => exact Or.inl rfl

/-- A bus write fails only in its transmit call. -/
theorem apbgrspwWrite_eq
    (layout : Layout)
    (core : Core)
    (regOffset : RegOffset)
    (value : Uint32) :
    core.apbgrspwWrite layout regOffset value =
      (txenable layout (core.written regOffset value)).map Prod.snd := by
  unfold apbgrspwWrite
  rw [write_eq]
  simp only
  cases txenable layout (core.written regOffset value) with
  | error fault => rfl
  | ok result => rfl

end Core

/-- All a step of a core can have done. -/
inductive Stepped (layout : Layout) (core : Core) : Input → Core → Prop
  | written (regOffset : RegOffset) (value : Uint32) :
      Stepped layout core (.write regOffset value)
        (core.written regOffset value)
  | readOut (regOffset : RegOffset) :
      Stepped layout core (.read regOffset) (core.read regOffset)
  | idle (disabled : checkbit core.regs.chn spwchnTE = false) :
      Stepped layout core .transmit core
  | polled (polls : TxPolls layout core) :
      Stepped layout core .transmit (core.txPolled layout)
  | sent (sends : TxSends layout core) :
      Stepped layout core .transmit (core.txReleased layout)
  | deaf (data : Memory Uint8) (len : Uint32) (att : RecvAtt)
      (refused : rxAccepts core.regs data = false) :
      Stepped layout core (.packet data len att) core
  | dropped (data : Memory Uint8) (len : Uint32) (att : RecvAtt)
      (accepts : rxAccepts core.regs data = true)
      (unavailable : checkbit core.regs.chn spwchnRD = false) :
      Stepped layout core (.packet data len att) core.rxDropped
  | refused (data : Memory Uint8) (len : Uint32) (att : RecvAtt)
      (fetches : RxFetches layout core data)
      (unarmed : checkbit core.rxDesc.ctrl spwtrw0EN = false) :
      Stepped layout core (.packet data len att) core.rxRefused
  | stored (data : Memory Uint8) (len : Uint32) (att : RecvAtt)
      (fetches : RxFetches layout core data)
      (armed : checkbit core.rxDesc.ctrl spwtrw0EN = true) :
      Stepped layout core (.packet data len att) (core.rxStored data len att)
  | stale (timecode : Uint8)
      (notNewer : ¬core.regs.tim < timecode.setWidth 32) :
      Stepped layout core (.timecode timecode) core
  | ticked (timecode : Uint8)
      (newer : core.regs.tim < timecode.setWidth 32) :
      Stepped layout core (.timecode timecode) (core.tickedOut timecode)
  | surrounded (ram txbuffer : Memory Uint8) :
      Stepped layout core (.ambient ram txbuffer) (core.ambient ram txbuffer)

/-- Every step that goes through is one of these. -/
theorem stepped_of_step
    {layout : Layout}
    {core after : Core}
    {input : Input}
    (moves : step layout core input = .ok after) :
    Stepped layout core input after := by
  cases input with
  | write regOffset value =>
      have writes : core.write regOffset value = .ok after := moves
      rw [Core.write_eq] at writes
      cases writes
      exact .written regOffset value
  | read regOffset =>
      cases moves
      exact .readOut regOffset
  | transmit =>
      cases calls : txenable layout core with
      | error fault =>
          simp [step, calls, Except.map] at moves
      | ok result =>
          obtain ⟨stop, final⟩ := result
          have same : final = after := by
            simpa [step, calls, Except.map] using moves
          subst same
          obtain ⟨_, disabled, rfl⟩ | ⟨_, polls, rfl⟩ | ⟨_, sends, rfl⟩ :=
            txenable_cases calls
          · exact .idle disabled
          · exact .polled polls
          · exact .sent sends
  | packet data len att =>
      have receives : rxenable layout core data len att = .ok after := moves
      obtain ⟨deaf, rfl⟩ | ⟨accepts, unavailable, rfl⟩ |
        ⟨fetches, unarmed, rfl⟩ | ⟨fetches, armed, rfl⟩ :=
        rxenable_cases receives
      · exact .deaf data len att deaf
      · exact .dropped data len att accepts unavailable
      · exact .refused data len att fetches unarmed
      · exact .stored data len att fetches armed
  | timecode timecode =>
      by_cases newer : core.regs.tim < timecode.setWidth 32
      · have ticks : after = core.tickedOut timecode := by
          rw [← rxtimecode_newer newer]
          exact (Except.ok.inj moves).symm
        rw [ticks]
        exact .ticked timecode newer
      · have unchanged : after = core :=
          (Except.ok.inj moves).symm.trans (rxtimecode_stale newer)
        rw [unchanged]
        exact .stale timecode newer
  | ambient ram txbuffer =>
      cases moves
      exact .surrounded ram txbuffer

/-- No step changes which core it is. -/
theorem step_grspwId
    {layout : Layout}
    {core after : Core}
    {input : Input}
    (moves : step layout core input = .ok after) :
    after.device.grspwId = core.device.grspwId := by
  cases stepped_of_step moves with
  | polled polls => exact core.txPolled_grspwId layout
  | sent sends => exact core.txReleased_grspwId layout
  | _ => rfl

end Grspw
