import Mathlib.Data.List.FinRange
import Grspw.Plugin
import Grspw.Termination

/-!
# The transmit thread

`grlib_coregrspw_txthread` serves the cores in turn: it repeats the transmit
call of each until that says stop, and then makes it once more.  A round comes
to its end from every state, and leaves nothing for the next one.
-/

namespace Grspw

namespace Plugin

end Plugin

/-! ## Serving one core -/

/-- No transmit descriptor became armed. -/
def ArmsNone (before after : Memory Uint8) : Prop :=
  ∀ addr, txRing.stride ∣ addr →
    checkbit (ramWord after addr) spwtdw0EN = true →
      checkbit (ramWord before addr) spwtdw0EN = true

theorem ArmsNone.trans
    {before middle after : Memory Uint8}
    (first : ArmsNone before middle)
    (second : ArmsNone middle after) :
    ArmsNone before after :=
  fun addr aligned armed => first addr aligned (second addr aligned armed)

namespace Core

/-- The packet a transmit call sends: that of the descriptor at SPWTXD. -/
def txPacket (core : Core) : Message :=
  wireImage core.host.txbuffer core.device.grspwId msgqData core.txHeader
    core.txData

/-- The transmit loop on a core, with the packets it sends.  As long as the
transmitter is on and the descriptor at SPWTXD armed, that descriptor's packet is
sent and the descriptor released; the first that is not armed turns the
transmitter off. -/
inductive Transmits (layout : Layout) : Core → List Message → Core → Prop
  | off
      {core : Core}
      (disabled : checkbit core.regs.chn spwchnTE = false) :
      Transmits layout core [] core
  | unarmed
      {core : Core}
      (polls : TxPolls layout core) :
      Transmits layout core [] (core.txPolled layout)
  | send
      {core after : Core}
      {burst : List Message}
      (sends : TxSends layout core)
      (rest : Transmits layout (core.txReleased layout) burst after) :
      Transmits layout core (core.txPacket :: burst) after

variable
  {layout : Layout}
  {before now after : Core}
  {burst : List Message}

/-- A packet released arms nothing. -/
theorem armsNone_txReleased
    (aligned : txRing.stride ∣ now.regs.txd.toNat)
    (sends : TxSends layout now) :
    ArmsNone now.host.ram (now.txReleased layout).host.ram := by
  intro addr alignedAddr armed
  by_cases own : addr = now.regs.txd.toNat
  · subst own
    exact sends.armed
  · have stride : txRing.stride = 16 := rfl
    rw [stride] at aligned alignedAddr
    rw [txReleased_ram sends, ramWord_write_of_disjoint] at armed
    · exact armed
    · rw [length_ramBytes]
      omega

namespace Transmits

variable (transmits : Transmits layout before burst after)
include transmits

/-- The transmitter ends off. -/
theorem disabled : checkbit after.regs.chn spwchnTE = false := by
  induction transmits with
  | off disabled => exact disabled
  | unarmed polls =>
      rw [txPolled_regs]
      exact checkbit_clearbit_self (by decide)
  | send _ _ inductionHypothesis => exact inductionHypothesis

theorem grspwId_eq : after.device.grspwId = before.device.grspwId := by
  induction transmits with
  | off _ => rfl
  | unarmed _ => exact txPolled_grspwId _ _
  | send _ _ inductionHypothesis =>
      rw [inductionHypothesis, txReleased_grspwId]

/-- The packets are queued in order. -/
theorem spwq_eq : after.host.spwq = before.host.spwq ++ burst := by
  induction transmits with
  | off _ => rw [List.append_nil]
  | unarmed _ => rw [txPolled_host, List.append_nil]
  | send sends _ inductionHypothesis =>
      rw [inductionHypothesis, txReleased_host _ _ sends.admits, txHost_spwq,
        List.append_assoc]
      rfl

/-- SPWTXD stays aligned. -/
theorem aligned_after (aligned : txRing.stride ∣ before.regs.txd.toNat) :
    txRing.stride ∣ after.regs.txd.toNat := by
  induction transmits with
  | off _ => exact aligned
  | unarmed _ => exact aligned
  | send _ _ inductionHypothesis =>
      exact inductionHypothesis (stride_dvd_txReleased_txd aligned layout)

/-- No descriptor becomes armed. -/
theorem armsNone (aligned : txRing.stride ∣ before.regs.txd.toNat) :
    ArmsNone before.host.ram after.host.ram := by
  induction transmits with
  | off _ => exact fun _ _ armed => armed
  | unarmed _ =>
      rw [txPolled_host]
      exact fun _ _ armed => armed
  | send sends _ inductionHypothesis =>
      have alignedNext := stride_dvd_txReleased_txd aligned layout
      exact (armsNone_txReleased aligned sends).trans
        (inductionHypothesis alignedNext)

/-- A transmitter that was on stops at a descriptor not armed. -/
theorem unarmed_after (enabled : checkbit before.regs.chn spwchnTE = true) :
    checkbit after.txDescr.ctrl spwtdw0EN = false := by
  induction transmits with
  | off disabled =>
      rw [disabled] at enabled
      cases enabled
  | unarmed polls => exact polls.unarmed
  | send sends _ inductionHypothesis =>
      exact inductionHypothesis (checkbit_txReleased_TE sends)

end Transmits

end Core

namespace Plugin

variable {layout : Layout} {plugin : Plugin} {grspwId : GrspwId}

/-- The loops of the cores of a list, one after the other, with the packets each
sends. -/
inductive ServesAll (layout : Layout) :
    Plugin → List GrspwId → List (List Message) → Plugin → Prop
  | done {plugin : Plugin} : ServesAll layout plugin [] [] plugin
  | serve
      {plugin after : Plugin}
      {grspwId : GrspwId}
      {core : Core}
      {burst : List Message}
      {others : List GrspwId}
      {bursts : List (List Message)}
      (transmits : Core.Transmits layout (plugin.core grspwId) burst core)
      (rest : ServesAll layout (plugin.putCore grspwId core) others bursts
        after) :
      ServesAll layout plugin (grspwId :: others) (burst :: bursts) after

/-- Serving the first core of a list leaves the others placed. -/
theorem txPlaced_others
    {others : List GrspwId}
    (nodup : (grspwId :: others).Nodup)
    (placed : ∀ other ∈ grspwId :: others, TxPlaced (plugin.core other))
    (core : Core) :
    ∀ other ∈ others, TxPlaced ((plugin.putCore grspwId core).core other) := by
  intro other member
  have different : other ≠ grspwId := by
    rintro rfl
    exact (List.nodup_cons.mp nodup).1 member
  have device := @devices_putCore_of_ne plugin other grspwId different core
  have before := placed other (List.mem_cons_of_mem grspwId member)
  constructor
  · rw [Plugin.core, Core.regs, device]
    exact before.aligned
  · rw [Plugin.core, device]
    exact before.within

namespace ServesAll

variable
  {after : Plugin}
  {cores : List GrspwId}
  {bursts : List (List Message)}

/-- The packets are queued core by core. -/
theorem spwq_eq (serves : ServesAll layout plugin cores bursts after) :
    after.host.spwq = plugin.host.spwq ++ bursts.flatten := by
  induction serves with
  | done => rw [List.flatten_nil, List.append_nil]
  | serve transmits _ inductionHypothesis =>
      rw [inductionHypothesis, List.flatten_cons, ← List.append_assoc]
      exact congrArg (· ++ _) transmits.spwq_eq

/-- Devices not in the list are left alone. -/
theorem devices_eq
    (serves : ServesAll layout plugin cores bursts after)
    (outside : grspwId ∉ cores) :
    after.devices grspwId = plugin.devices grspwId := by
  induction serves with
  | done => rfl
  | serve _ _ inductionHypothesis =>
      rw [List.mem_cons, not_or] at outside
      rw [inductionHypothesis outside.2,
        devices_putCore_of_ne outside.1]

/-- The device of the core served first ends as its own loop leaves it. -/
theorem devices_head
    {others : List GrspwId}
    {core : Core}
    (fresh : grspwId ∉ others)
    (rest : ServesAll layout (plugin.putCore grspwId core) others bursts after) :
    after.devices grspwId = core.device :=
  (rest.devices_eq fresh).trans (devices_putCore core)

/-- Every transmitter served ends off. -/
theorem disabled
    (serves : ServesAll layout plugin cores bursts after)
    (nodup : cores.Nodup) :
    ∀ grspwId ∈ cores,
      checkbit (after.core grspwId).regs.chn spwchnTE = false := by
  induction serves with
  | done => simp
  | serve transmits rest inductionHypothesis =>
      obtain ⟨fresh, nodup⟩ := List.nodup_cons.mp nodup
      refine List.forall_mem_cons.mpr ⟨?_, inductionHypothesis nodup⟩
      rw [Plugin.core, Core.regs, rest.devices_head fresh]
      exact transmits.disabled

/-- No descriptor becomes armed. -/
theorem armsNone
    (serves : ServesAll layout plugin cores bursts after)
    (nodup : cores.Nodup)
    (placed : ∀ grspwId ∈ cores, TxPlaced (plugin.core grspwId)) :
    ArmsNone plugin.host.ram after.host.ram := by
  induction serves with
  | done => exact fun _ _ armed => armed
  | @serve plugin _ grspwId core _ _ _ transmits _ inductionHypothesis =>
      have first := placed grspwId List.mem_cons_self
      exact (transmits.armsNone first.aligned).trans
        (inductionHypothesis nodup.of_cons (txPlaced_others nodup placed core))

/-- Every transmitter that was on ends at a descriptor that is not armed. -/
theorem unarmed
    (serves : ServesAll layout plugin cores bursts after)
    (nodup : cores.Nodup)
    (placed : ∀ grspwId ∈ cores, TxPlaced (plugin.core grspwId)) :
    ∀ grspwId ∈ cores,
      checkbit (plugin.core grspwId).regs.chn spwchnTE = true →
        checkbit (after.core grspwId).txDescr.ctrl spwtdw0EN = false := by
  induction serves with
  | done => simp
  | @serve plugin _ grspwId core _ _ _ transmits rest inductionHypothesis =>
      have fresh := (List.nodup_cons.mp nodup).1
      have stillPlaced := txPlaced_others nodup placed core
      refine List.forall_mem_cons.mpr ⟨fun enabled => ?_, ?_⟩
      · -- what the later cores do arms no descriptor
        have first := placed grspwId List.mem_cons_self
        have unarmed := transmits.unarmed_after enabled
        rw [Plugin.core, Core.txDescr, Core.regs, rest.devices_head fresh]
        by_contra armed
        have before := rest.armsNone nodup.of_cons stillPlaced _
          (transmits.aligned_after first.aligned)
          (Bool.not_eq_false _ ▸ armed)
        exact Bool.false_ne_true (unarmed.symm.trans before)
      · intro other member enabled
        have different : other ≠ grspwId := by
          rintro rfl
          exact fresh member
        apply inductionHypothesis nodup.of_cons stillPlaced other member
        rw [Plugin.core, Core.regs, devices_putCore_of_ne different]
        exact enabled

end ServesAll

end Plugin

end Grspw
