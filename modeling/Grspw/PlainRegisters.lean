import Grspw.Lib.Cell
import Grspw.Queues
import Grspw.WholePlugin

/-!
# Registers that hold what was written

SPWNDR, SPWCLK, SPWKEY, SPWTDR and SPWRXL are cells: over every run of the plugin
a read of one shows the last value written to it on its core, under its mask, or
its default after a reset.  No engine, no message and no other core moves it.
-/

namespace Grspw

/-- A register that no engine moves. -/
inductive PlainRegister
  | ndr | clk | key | tdr | rxl
  deriving DecidableEq

namespace PlainRegister

/-- Where the register is. -/
def offset : PlainRegister → RegOffset
  | .ndr => .ndr
  | .clk => .clk
  | .key => .key
  | .tdr => .tdr
  | .rxl => .rxl

/-- The bits of the register a write can set. -/
def mask : PlainRegister → Uint32
  | .ndr => spwndrMask
  | .clk => spwclkDivisorLink ||| spwclkDivisorRun
  | .key => spwkeyKey
  | .tdr => spwtdrDisconnect ||| spwtdrTimer64
  | .rxl => spwrxlRxMaxLength

/-- The value a reset leaves. -/
def default : PlainRegister → Uint32
  | .ndr => 254
  | .clk => 0x404
  | .key => 0
  | .tdr => 0x27140
  | .rxl => 0

/-- The register as a read shows it. -/
def read (register : PlainRegister) (regs : Regs) : Uint32 :=
  readRegisters regs register.offset

/-- What a call writes to the register. -/
def writtenBy (register : PlainRegister) : Input → List Uint32
  | .write regOffset value =>
      if regOffset = register.offset then [value &&& register.mask]
      else if regOffset = .ctr ∧ checkbit value spwctrRS = true then
        [register.default]
      else []
  | _ => []

variable (register : PlainRegister)

theorem read_apbgrspwInit (grspwId : GrspwId) (ram : Memory Uint8) :
    register.read (apbgrspwInit grspwId ram).regs = register.default := by
  cases register <;> rfl

/-- A write of SPWCTR moves the register exactly when it resets. -/
theorem read_ctrWritten (grspwId : GrspwId) (regs : Regs) (value : Uint32) :
    register.read (ctrWritten grspwId regs value) =
      if checkbit value spwctrRS then register.default
      else register.read regs := by
  rw [ctrWritten_eq]
  cases checkbit value spwctrRS with
  | true => cases register <;> rfl
  | false => cases register <;> rfl

/-- A register write leaves the register as its writes say. -/
theorem read_written
    (core : Core)
    (regOffset : RegOffset)
    (value : Uint32) :
    register.read (core.written regOffset value).regs =
      Cell.content (register.read core.regs)
        (register.writtenBy (.write regOffset value)) := by
  change register.read
    (regsWritten core.device.grspwId core.regs regOffset value) = _
  cases regOffset with
  | ctr =>
      have elsewhere : RegOffset.ctr ≠ register.offset := by
        cases register <;> decide
      rw [regsWritten, read_ctrWritten, writtenBy, if_neg elsewhere]
      cases checkbit value spwctrRS <;> rfl
  | _ => cases register <;> rfl

/-- Every call leaves the register as its writes say. -/
theorem read_step
    {layout : Layout}
    {core after : Core}
    {input : Input}
    (moves : step layout core input = .ok after) :
    register.read after.regs =
      Cell.content (register.read core.regs) (register.writtenBy input) := by
  cases stepped_of_step moves with
  | written regOffset value => exact register.read_written core regOffset value
  | polled polls =>
      rw [Core.txPolled_regs]
      cases register <;> rfl
  | sent sends =>
      rw [Core.txReleased_regs]
      cases register <;> rfl
  | refused data len att fetches unarmed =>
      rw [Core.rxRefused_regs]
      cases register <;> rfl
  | stored data len att fetches armed =>
      rw [Core.rxStored_regs]
      cases register <;> rfl
  | ticked timecode newer => cases register <;> rfl
  | _ => rfl

end PlainRegister

namespace Plugin

/-- What an action writes to a register of a core. -/
def writtenOn
    (grspwId : GrspwId)
    (register : PlainRegister)
    (plugin : Plugin)
    (action : Action) : List Uint32 :=
  (plugin.callOn grspwId action).flatMap register.writtenBy

/-- **Read back.**  In every run of the plugin, whatever the order of its
actions, each of these registers of each core reads as the last value written to
it there, or its default if that core was reset since or nothing was written. -/
theorem registers_read_back
    (layout : Layout)
    (ram : Memory Uint8)
    (recvAtt : RecvAtt)
    (actions : List Action)
    (last : Plugin)
    (reaches : Machine.run (Plugin.step layout) (init ram recvAtt) actions =
      .ok last)
    (grspwId : GrspwId)
    (register : PlainRegister) :
    register.read (last.core grspwId).regs =
      Cell.content register.default
        (history layout (writtenOn grspwId register) (init ram recvAtt)
          actions) := by
  rw [← register.read_apbgrspwInit grspwId ram]
  refine @Cell.eq_content_of_run _ _ _ _ (Plugin.step layout)
    (writtenOn grspwId register)
    (fun plugin => register.read (plugin.core grspwId).regs)
    (FrameWithin layout grspwId)
    (fun _ _ _ within moves => frameWithin_step within moves) ?_ _ _ _
    (frameWithin_init ram recvAtt) reaches
  intro plugin action next within moves
  exact (delivered_of_step within moves).reading_eq (fun _ => rfl)
    (fun called => register.read_step called)

/-- The node address of the first core is written, the second core is reset,
and a packet arrives. -/
def configuredRun : List Action :=
  [.write 0 .ndr 0x142, .write 1 .ctr spwctrRS,
    .put (wireImage (fun _ => 0) 0 msgqData [] [0x42]), .receive none]

theorem registers_read_back_configuredRun :
    ∃ last,
      Machine.run (Plugin.step .packed) (init tablesRam ⟨0, 0, 0⟩)
        configuredRun = .ok last ∧
      PlainRegister.ndr.read (last.core 0).regs = 0x42 := by
  have reaches : ∃ last, Machine.run (Plugin.step .packed)
      (init tablesRam ⟨0, 0, 0⟩) configuredRun = .ok last := ⟨_, rfl⟩
  obtain ⟨last, reaches⟩ := reaches
  have readsBack := registers_read_back .packed tablesRam ⟨0, 0, 0⟩
    configuredRun last reaches 0 .ndr
  exact ⟨last, reaches, readsBack.trans (by decide)⟩

end Plugin

end Grspw
