import Grspw.Lib.Clock
import Grspw.TimeCode
import Grspw.WholePlugin
import Grspw.Queues

/-!
# The clock of every core

Over every run of the plugin SPWTIM of a core is a clock: put back by a reset, set
by a write of SPWTIM, ticked by Tick In and made to hear the time codes that
arrive.  The time codes the core has put on `spwq` are the times its clock told.
-/

namespace Grspw

/-- What a call is to the clock of its core.  One write of SPWCTR may both reset
and tick. -/
def Input.clockEvents : Input → List Clock.Event
  | .write .ctr value =>
      (if checkbit value spwctrRS then [.reset] else []) ++
        if checkbit value spwctrTI then [.tick] else []
  | .write .tim value =>
      [.set (value &&& (spwtimTimeCtrl ||| spwtimTimeCounter)).toNat]
  | .timecode heard => [.hear heard.toNat]
  | _ => []

/-- The number of times the six-bit time counter can hold. -/
def timeSpan : Nat := 64

/-! ## One call -/

section Written

variable
  {regs : Regs}
  (bounded : regs.tim.toNat ≤ 0xFF)

include bounded

/-- A tick of SPWTIM is a tick of the clock, within a byte. -/
theorem toNat_ticked_eq :
    (ticked regs.tim).toNat =
      Clock.Event.tick.apply timeSpan regs.tim.toNat :=
  toNat_ticked bounded

/-- SPWTIM before the link actions of a SPWCTR write. -/
theorem toNat_ctrTicked_tim (grspwId : GrspwId) (value : Uint32) :
    (ctrTicked grspwId regs value).tim.toNat =
      Clock.time timeSpan regs.tim.toNat
        (Input.write .ctr value).clockEvents := by
  have zeroTicked : (ticked 0).toNat = Clock.Event.tick.apply timeSpan 0 :=
    toNat_ticked (by decide)
  have ownTicked := toNat_ticked_eq bounded
  simp only [Clock.time, Input.clockEvents, ctrTicked, ctrReset]
  cases checkbit value spwctrRS <;> cases checkbit value spwctrTI
  · rfl
  · exact ownTicked
  · rfl
  · exact zeroTicked

theorem toNat_ctrTicked_tim_le (grspwId : GrspwId) (value : Uint32) :
    (ctrTicked grspwId regs value).tim.toNat ≤ 0xFF := by
  have zeroTicked : (ticked 0).toNat ≤ 0xFF := by decide
  have ownTicked := toNat_ticked bounded
  simp only [ctrTicked, ctrReset]
  cases checkbit value spwctrRS <;> cases checkbit value spwctrTI
  · exact bounded
  · change (ticked regs.tim).toNat ≤ 0xFF
    omega
  · exact Nat.zero_le _
  · exact zeroTicked

/-- The time code a SPWCTR write sends is the time the clock tells. -/
theorem told_ctr (grspwId : GrspwId) (value : Uint32) :
    (if checkbit value spwctrTI then
        [((ctrTicked grspwId regs value).tim.setWidth 8 : Uint8).toNat]
      else []) =
      Clock.told timeSpan regs.tim.toNat
        (Input.write .ctr value).clockEvents := by
  have moved := toNat_ctrTicked_tim bounded grspwId value
  have byte := toNat_ctrTicked_tim_le bounded grspwId value
  have silent : Clock.told timeSpan regs.tim.toNat
      (if checkbit value spwctrRS then [.reset] else []) = [] := by
    split <;> rfl
  simp only [Input.clockEvents] at moved ⊢
  cases ticks : checkbit value spwctrTI with
  | false =>
      simp only [Bool.false_eq_true, if_false, List.append_nil]
      exact silent.symm
  | true =>
      simp only [ticks, if_true] at moved ⊢
      rw [Clock.told_append_tick, silent, ← moved, BitVec.toNat_setWidth,
        Nat.mod_eq_of_lt (by omega)]
      rfl

end Written

/-- Every call moves SPWTIM as the clock of its core. -/
theorem toNat_tim_step
    {layout : Layout}
    {core after : Core}
    {input : Input}
    (bounded : core.regs.tim.toNat ≤ 0xFF)
    (moves : step layout core input = .ok after) :
    after.regs.tim.toNat =
      Clock.time timeSpan core.regs.tim.toNat input.clockEvents := by
  have kept : input.clockEvents = [] → after.regs.tim = core.regs.tim →
      after.regs.tim.toNat =
        Clock.time timeSpan core.regs.tim.toNat input.clockEvents := by
    intro quiet same
    rw [quiet, same]
    rfl
  cases stepped_of_step moves with
  | written regOffset value =>
      cases regOffset with
      | ctr =>
          rw [← toNat_ctrTicked_tim bounded core.device.grspwId value]
          change (ctrWritten core.device.grspwId core.regs value).tim.toNat = _
          rw [ctrWritten, linkDisable_tim, linkStart_tim]
      | tim => rfl
      | _ => exact kept rfl rfl
  | polled polls =>
      apply kept rfl
      rw [Core.txPolled_regs]
  | sent sends =>
      apply kept rfl
      rw [Core.txReleased_regs]
      rfl
  | refused data len att fetches unarmed =>
      apply kept rfl
      rw [Core.rxRefused_regs]
      rfl
  | stored data len att fetches armed =>
      apply kept rfl
      rw [Core.rxStored_regs]
      rfl
  | stale timecode notNewer =>
      have behind := BitVec.not_lt.mp notNewer
      rw [BitVec.le_def, BitVec.toNat_setWidth_of_le (by decide)] at behind
      exact (Nat.max_eq_left behind).symm
  | ticked timecode newer =>
      have ahead := BitVec.lt_def.mp newer
      rw [BitVec.toNat_setWidth_of_le (by decide)] at ahead
      change (timecode.setWidth 32 : Uint32).toNat = _
      rw [BitVec.toNat_setWidth_of_le (by decide)]
      exact (Nat.max_eq_right ahead.le).symm
  | _ => exact kept rfl rfl

/-! ## Time codes on `spwq` -/

/-- The time code of a core that a message carries. -/
def timecodeFrom (grspwId : GrspwId) (message : Message) : Option Nat :=
  if addressee msgqTime message = some grspwId then
    match timecodeOf message with
    | .ok timecode => some timecode.toNat
    | .error _ => none
  else none

theorem timecodeFrom_time
    (txbuffer : Memory Uint8)
    (grspwId sender : GrspwId)
    (timecode : Uint8) :
    timecodeFrom grspwId (wireImage txbuffer sender msgqTime [] [timecode]) =
      if sender = grspwId then some timecode.toNat else none := by
  rw [timecodeFrom, addressee_wireImage, if_pos rfl, timecodeOf_wireImage]
  simp only [Option.some.injEq]

theorem timecodeFrom_data
    (txbuffer : Memory Uint8)
    (grspwId sender : GrspwId)
    (header data : List Uint8) :
    timecodeFrom grspwId (wireImage txbuffer sender msgqData header data) =
      none := by
  have noTime : msgqData ≠ msgqTime := by decide
  rw [timecodeFrom, addressee_wireImage, if_neg noTime]
  exact if_neg nofun

namespace Plugin

/-- What an action is to the clock of a core. -/
def clockEvents
    (grspwId : GrspwId)
    (plugin : Plugin)
    (action : Action) : List Clock.Event :=
  (plugin.callOn grspwId action).flatMap Input.clockEvents

/-- The time codes of a core an action puts on `spwq`. -/
def tells
    (grspwId : GrspwId)
    (plugin : Plugin)
    (action : Action) : List Nat :=
  (plugin.sends action).filterMap (timecodeFrom grspwId)

section Runs

variable
  {layout : Layout}
  {grspwId : GrspwId}
  {plugin last : Plugin}

/-- Nothing that arrives makes a core tell the time. -/
theorem tick_notMem_deliveredTo :
    .tick ∉ (plugin.deliveredTo grspwId).flatMap Input.clockEvents := by
  unfold deliveredTo
  cases plugin.devq with
  | nil => simp
  | cons message devq =>
      cases decoded : receivePacket plugin.rxbuffer plugin.rxheader
          plugin.rxdata message with
      | error fault => simp [decoded]
      | ok received =>
          simp only [decoded]
          split_ifs <;> simp [Input.clockEvents]

/-- An action tells what it is to the clock of a core. -/
theorem tells_eq
    (ownIds : ∀ other, (plugin.devices other).grspwId = other)
    (bounded : (plugin.core grspwId).regs.tim.toNat ≤ 0xFF)
    (action : Action) :
    plugin.tells grspwId action =
      Clock.told timeSpan (plugin.core grspwId).regs.tim.toNat
        (plugin.clockEvents grspwId action) := by
  have silent : plugin.tells grspwId action = [] →
      .tick ∉ plugin.clockEvents grspwId action →
        plugin.tells grspwId action =
          Clock.told timeSpan (plugin.core grspwId).regs.tim.toNat
            (plugin.clockEvents grspwId action) := by
    intro nothing noTick
    rw [nothing, Clock.told_eq_nil noTick]
  cases action with
  | write other regOffset value =>
      by_cases own : other = grspwId
      · subst own
        cases regOffset with
        | ctr =>
            have told := told_ctr bounded other value
            simp only [tells, sends, clockEvents, callOn, if_true,
              List.flatMap_cons, List.flatMap_nil, List.append_nil, ← told]
            split
            · rw [List.filterMap_cons, timecodeFrom_time, if_pos (ownIds other)]
              rw [ownIds other]
              rfl
            · rfl
        | tim =>
            apply silent rfl
            simp [clockEvents, callOn, Input.clockEvents]
        | _ =>
            apply silent rfl
            simp [clockEvents, callOn, Input.clockEvents]
      · apply silent
        · cases regOffset with
          | ctr =>
              simp only [tells, sends]
              split
              · rw [List.filterMap_cons, timecodeFrom_time, ownIds other,
                  if_neg own]
                rfl
              · rfl
          | _ => rfl
        · simp [clockEvents, callOn, own]
  | send other =>
      apply silent
      · simp only [tells, sends]
        split
        · rw [List.filterMap_cons, timecodeFrom_data]
          rfl
        · rfl
      · simp only [clockEvents, callOn]
        split <;> simp [Input.clockEvents]
  | receive wakes =>
      apply silent rfl
      simp only [clockEvents, callOn]
      split
      · exact tick_notMem_deliveredTo
      · simp
  | _ => exact silent rfl (by simp [clockEvents, callOn])

/-- Over every run that starts at a reachable plugin every core is a clock. -/
theorem clock_of_run
    {ram : Memory Uint8}
    {recvAtt : RecvAtt}
    {actions : List Action}
    (reachable : Machine.Reachable (Plugin.step layout) (init ram recvAtt)
      plugin)
    (reaches : Machine.run (Plugin.step layout) plugin actions = .ok last)
    (grspwId : GrspwId) :
    (last.core grspwId).regs.tim.toNat =
        Clock.time timeSpan (plugin.core grspwId).regs.tim.toNat
          (history layout (clockEvents grspwId) plugin actions) ∧
      (history layout sends plugin actions).filterMap (timecodeFrom grspwId) =
        Clock.told timeSpan (plugin.core grspwId).regs.tim.toNat
          (history layout (clockEvents grspwId) plugin actions) := by
  have follows := @Clock.follows_of_run timeSpan _ _ _ (Plugin.step layout)
    (clockEvents grspwId) (tells grspwId)
    (fun plugin => (plugin.core grspwId).regs.tim.toNat)
    (Machine.Reachable (Plugin.step layout) (init ram recvAtt))
    (fun _ _ _ reached moves => reached.step moves) ?_ plugin last actions
    reachable reaches
  · obtain ⟨time, told⟩ := follows
    refine ⟨time, Eq.trans ?_ told⟩
    exact (Fifo.flatten_observe_filterMap (Plugin.step layout) sends
      (timecodeFrom grspwId) plugin actions).symm
  · intro state action next reached moves
    obtain ⟨_, formed⟩ := regsFormed_of_plugin_reachable reached grspwId
    have bounded := BitVec.le_def.mp formed.tim
    have within : FrameWithin layout grspwId state :=
      frameWithin_of_reachable reached
    constructor
    · exact @Delivered.reading_eq layout grspwId state next _ _
        (fun regs => regs.tim.toNat) Input.clockEvents (Clock.time timeSpan)
        action (delivered_of_step within moves) (fun _ => rfl)
        (fun called => toNat_tim_step bounded called)
    · apply tells_eq _ bounded
      exact fun other => (regsFormed_of_plugin_reachable reached other).1

/-- **Every core a clock.**  In every run of the plugin, whatever the order of
its actions, SPWTIM of each core is at the time of a clock that heard the time
codes received, ticked at its Tick Ins, and was put back or set by the resets and
SPWTIM writes of that core alone, and the time codes of the core among all the
messages put on `spwq` are what the clock told, in order. -/
theorem cores_are_clocks
    (layout : Layout)
    (ram : Memory Uint8)
    (recvAtt : RecvAtt)
    (actions : List Action)
    (last : Plugin)
    (reaches : Machine.run (Plugin.step layout) (init ram recvAtt) actions =
      .ok last)
    (grspwId : GrspwId) :
    (last.core grspwId).regs.tim.toNat =
        Clock.time timeSpan 0
          (history layout (clockEvents grspwId) (init ram recvAtt) actions) ∧
      (history layout sends (init ram recvAtt) actions).filterMap
          (timecodeFrom grspwId) =
        Clock.told timeSpan 0
          (history layout (clockEvents grspwId) (init ram recvAtt) actions) :=
  clock_of_run (Machine.Reachable.refl _ _) reaches grspwId

/-- The first core ticks, receives a later time code and ticks again. -/
def tickedRun : List Action :=
  [.write 0 .ctr spwctrTI, .put (wireImage (fun _ => 0) 0 msgqTime [] [5]),
    .receive none, .write 0 .ctr spwctrTI]

theorem cores_are_clocks_tickedRun :
    ∃ last,
      Machine.run (Plugin.step .packed) (init tablesRam ⟨0, 0, 0⟩)
        tickedRun = .ok last ∧
      (last.core 0).regs.tim.toNat = 6 ∧
      (history .packed sends (init tablesRam ⟨0, 0, 0⟩)
        tickedRun).filterMap (timecodeFrom 0) = [1, 6] := by
  have reaches : ∃ last, Machine.run (Plugin.step .packed)
      (init tablesRam ⟨0, 0, 0⟩) tickedRun = .ok last := ⟨_, rfl⟩
  obtain ⟨last, reaches⟩ := reaches
  obtain ⟨time, told⟩ := cores_are_clocks .packed tablesRam ⟨0, 0, 0⟩
    tickedRun last reaches 0
  exact ⟨last, reaches, time.trans (by decide), told.trans (by decide)⟩

/-- **Time goes on.**  Over every run from a reachable state in which nothing
sets a core's clock back (no reset, no write of a smaller SPWTIM, no tick past
the end of the counter), SPWTIM ends no less than it started and than every time
code received, and the time codes put on `spwq` increase from where it started to
where it ends. -/
theorem time_goes_on
    (layout : Layout)
    (ram : Memory Uint8)
    (recvAtt : RecvAtt)
    (actions : List Action)
    (plugin last : Plugin)
    (grspwId : GrspwId)
    (reachable : Machine.Reachable (Plugin.step layout) (init ram recvAtt)
      plugin)
    (reaches : Machine.run (Plugin.step layout) plugin actions = .ok last)
    (forward : Clock.isForward timeSpan (plugin.core grspwId).regs.tim.toNat
      (history layout (clockEvents grspwId) plugin actions) = true) :
    (plugin.core grspwId).regs.tim ≤ (last.core grspwId).regs.tim ∧
    (∀ heard,
      .hear heard ∈ history layout (clockEvents grspwId) plugin actions →
        heard ≤ (last.core grspwId).regs.tim.toNat) ∧
    ((plugin.core grspwId).regs.tim.toNat ::
      (history layout sends plugin actions).filterMap
        (timecodeFrom grspwId)).Pairwise (· < ·) ∧
    ∀ timecode ∈ (history layout sends plugin actions).filterMap
        (timecodeFrom grspwId),
      timecode ≤ (last.core grspwId).regs.tim.toNat := by
  obtain ⟨time, told⟩ := clock_of_run reachable reaches grspwId
  obtain ⟨increasing, bounded⟩ := Clock.told_increasing forward
  rw [BitVec.le_def, time, told]
  exact ⟨Clock.le_time_of_forward forward,
    fun _ member => Clock.heard_le_time forward member, increasing, bounded⟩

theorem time_goes_on_tickedRun :
    ∃ last,
      Machine.run (Plugin.step .packed) (init tablesRam ⟨0, 0, 0⟩)
        tickedRun = .ok last ∧
      5 ≤ (last.core 0).regs.tim.toNat := by
  have reaches : ∃ last, Machine.run (Plugin.step .packed)
      (init tablesRam ⟨0, 0, 0⟩) tickedRun = .ok last := ⟨_, rfl⟩
  obtain ⟨last, reaches⟩ := reaches
  have goesOn := time_goes_on .packed tablesRam ⟨0, 0, 0⟩ tickedRun _ last 0
    (Machine.Reachable.refl _ _) reaches (by decide)
  exact ⟨last, reaches, goesOn.2.1 5 (by decide)⟩

end Runs

end Plugin

end Grspw
