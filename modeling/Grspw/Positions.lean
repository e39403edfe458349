import Grspw.Decoder
import Grspw.Projection
import Grspw.Rings

/-!
# Ring positions in range

Transmit and receive calls index their descriptor arrays with the private ring
positions.  In the C layout a transmit call through the last entry copies its
descriptor over both positions.  This file says of whole runs exactly which keep
the positions in range, and that these leave no descriptor array.
-/

namespace Grspw

/-! ## One core -/

/-- Both ring positions are in range. -/
structure Device.InRange (device : Device) : Prop where
  transmit : device.txdCur.toNat < txRing.count
  receive : device.rxdCur.toNat < rxRing.count

theorem SameDevice.inRange_iff
    {left right : Device}
    (same : SameDevice left right) :
    left.InRange ↔ right.InRange := by
  constructor
  · rintro ⟨transmit, receive⟩
    exact ⟨same.txdCur_eq ▸ transmit, same.rxdCur_eq ▸ receive⟩
  · rintro ⟨transmit, receive⟩
    exact ⟨same.txdCur_eq.symm ▸ transmit, same.rxdCur_eq.symm ▸ receive⟩

namespace Core

/-- Whether a transmit call leaves the ring positions in range.  Through the last
entry of the C layout the descriptor's length word lands on the transmit position
and its data address on the receive position; a packet sent then moves the
transmit position on. -/
def SparesPositions (layout : Layout) (core : Core) : Prop :=
  layout = .packed → core.device.txdCur.toNat = 63 →
    (TxSends layout core → core.txDescr.data.toNat < rxRing.count) ∧
    (TxPolls layout core → core.txDescr.len.toNat < txRing.count ∧
      core.txDescr.data.toNat < rxRing.count)

instance (layout : Layout) (core : Core) : Decidable (TxSends layout core) :=
  decidable_of_iff
    (checkbit core.regs.chn spwchnTE = true ∧
      layout.Admits core.device.txdCur nbTxDescriptor ∧
      checkbit core.txDescr.ctrl spwtdw0EN = true ∧
      Fits core.txHeader core.txData)
    ⟨fun ⟨enabled, admits, armed, fits⟩ => ⟨enabled, admits, armed, fits⟩,
      fun sends => ⟨sends.enabled, sends.admits, sends.armed, sends.fits⟩⟩

instance (layout : Layout) (core : Core) : Decidable (TxPolls layout core) :=
  decidable_of_iff
    (checkbit core.regs.chn spwchnTE = true ∧
      layout.Admits core.device.txdCur nbTxDescriptor ∧
      checkbit core.txDescr.ctrl spwtdw0EN = false)
    ⟨fun ⟨enabled, admits, unarmed⟩ => ⟨enabled, admits, unarmed⟩,
      fun polls => ⟨polls.enabled, polls.admits, polls.unarmed⟩⟩

instance (layout : Layout) (core : Core) :
    Decidable (core.SparesPositions layout) :=
  inferInstanceAs (Decidable (_ → _))

variable
  {layout : Layout}
  {core after : Core}

/-- The receive position once a descriptor is fetched. -/
theorem txFetched_rxdCur_lt_iff
    (inRange : core.device.InRange)
    (admits : layout.Admits core.device.txdCur nbTxDescriptor) :
    (core.txFetched layout).rxdCur.toNat < rxRing.count ↔
      (layout = .packed → core.device.txdCur.toNat = 63 →
        core.txDescr.data.toNat < rxRing.count) := by
  rw [core.txFetched_rxdCur layout admits]
  split_ifs with last
  · exact ⟨fun within _ _ => within, fun spares => spares last.1 last.2⟩
  · exact iff_of_true inRange.receive fun packed isLast =>
      absurd ⟨packed, isLast⟩ last

/-- The transmit position once a descriptor is fetched. -/
theorem txFetched_txdCur_lt_iff
    (inRange : core.device.InRange)
    (admits : layout.Admits core.device.txdCur nbTxDescriptor) :
    (core.txFetched layout).txdCur.toNat < txRing.count ↔
      (layout = .packed → core.device.txdCur.toNat = 63 →
        core.txDescr.len.toNat < txRing.count) := by
  rw [core.txFetched_txdCur layout admits]
  split_ifs with last
  · exact ⟨fun within _ _ => within, fun spares => spares last.1 last.2⟩
  · exact iff_of_true inRange.transmit fun packed isLast =>
      absurd ⟨packed, isLast⟩ last

theorem inRange_txReleased_iff
    (inRange : core.device.InRange)
    (sends : TxSends layout core) :
    (core.txReleased layout).device.InRange ↔ core.SparesPositions layout := by
  have receive := txFetched_rxdCur_lt_iff inRange sends.admits
  rw [← txReleased_rxdCur _ _ sends.admits] at receive
  have transmit : (core.txReleased layout).device.txdCur.toNat <
      txRing.count := by
    rw [txReleased_txdCur _ _ sends.admits]
    exact toNat_txNext_lt layout core
  constructor
  · rintro ⟨_, within⟩ packed last
    refine ⟨fun _ => receive.mp within packed last, fun polls => ?_⟩
    exact absurd (polls.unarmed.symm.trans sends.armed) Bool.false_ne_true
  · intro spares
    exact ⟨transmit, receive.mpr fun packed last =>
      (spares packed last).1 sends⟩

theorem inRange_txPolled_iff
    (inRange : core.device.InRange)
    (polls : TxPolls layout core) :
    (core.txPolled layout).device.InRange ↔ core.SparesPositions layout := by
  have transmit := txFetched_txdCur_lt_iff inRange polls.admits
  have receive := txFetched_rxdCur_lt_iff inRange polls.admits
  constructor
  · rintro ⟨withinTx, withinRx⟩ packed last
    refine ⟨fun sends => ?_, fun _ =>
      ⟨transmit.mp withinTx packed last, receive.mp withinRx packed last⟩⟩
    exact absurd (polls.unarmed.symm.trans sends.armed) Bool.false_ne_true
  · intro spares
    exact ⟨transmit.mpr fun packed last => ((spares packed last).2 polls).1,
      receive.mpr fun packed last => ((spares packed last).2 polls).2⟩

/-- A call of a core keeps the positions in range exactly when it spares them;
only a transmit call can fail to. -/
theorem inRange_step_iff
    (inRange : core.device.InRange)
    {input : Input}
    (moves : step layout core input = .ok after) :
    after.device.InRange ↔ (input = .transmit → core.SparesPositions layout) := by
  cases stepped_of_step moves with
  | idle disabled =>
      refine iff_of_true inRange fun _ _ _ => ⟨fun sends => ?_, fun polls => ?_⟩
      · exact absurd (disabled.symm.trans sends.enabled) Bool.false_ne_true
      · exact absurd (disabled.symm.trans polls.enabled) Bool.false_ne_true
  | polled polls => simpa using inRange_txPolled_iff inRange polls
  | sent sends => simpa using inRange_txReleased_iff inRange sends
  | stored data len att fetches armed =>
      refine iff_of_true ⟨inRange.transmit, ?_⟩ (by simp)
      rw [rxStored_rxdCur]
      exact toNat_rxNext_lt core
  | _ => exact iff_of_true ⟨inRange.transmit, inRange.receive⟩ (by simp)

end Core

/-! ## The plugin -/

namespace Plugin

/-- Every index into a descriptor array is in range: the ring positions, and the
entries of the calls under way. -/
structure InRange (plugin : Plugin) : Prop where
  devices : ∀ grspwId, (plugin.devices grspwId).InRange
  frames : ∀ grspwId, ∀ frame ∈ (plugin.calls grspwId).frame?,
    frame.txdCur < txRing.count

/-- Whether an action leaves the ring positions in range. -/
def SparesPositions (layout : Layout) (plugin : Plugin) : Action → Prop
  | .send grspwId =>
      plugin.calls grspwId = .idle →
        (plugin.core grspwId).SparesPositions layout
  | _ => True

instance (layout : Layout) (plugin : Plugin) (action : Action) :
    Decidable (plugin.SparesPositions layout action) :=
  match action with
  | .send _ => inferInstanceAs (Decidable (_ → _))
  | .write _ _ _ => isTrue trivial
  | .txwaitack _ => isTrue trivial
  | .resume _ => isTrue trivial
  | .receive _ => isTrue trivial
  | .take => isTrue trivial
  | .acknowledge => isTrue trivial
  | .put _ => isTrue trivial
  | .ambient _ => isTrue trivial

theorem inRange_init (ram : Memory Uint8) (recvAtt : RecvAtt) :
    InRange (init ram recvAtt) where
  devices := fun _ => ⟨txRing.count_pos, rxRing.count_pos⟩
  frames := by
    intro _ _ held
    cases held

variable
  {layout : Layout}
  {plugin after : Plugin}

theorem InRange.frameWithin
    (inRange : InRange plugin)
    (grspwId : GrspwId) :
    FrameWithin layout grspwId plugin :=
  fun frame held _ => inRange.frames grspwId frame held

/-- Only a bus write makes a transmit call on a core. -/
theorem eq_send_of_transmit_mem
    {grspwId : GrspwId}
    {action : Action}
    (called : Input.transmit ∈ plugin.callOn grspwId action) :
    action = .send grspwId ∧ plugin.calls grspwId = .idle := by
  cases action with
  | write other regOffset value =>
      simp only [callOn] at called
      split at called <;> simp at called
  | send other =>
      simp only [callOn] at called
      split at called
      · rename_i own
        obtain ⟨rfl, idle⟩ := own
        exact ⟨rfl, idle⟩
      · cases called
  | receive wakes =>
      simp only [callOn, deliveredTo] at called
      split at called
      · split at called
        · cases called
        · split at called
          · cases called
          · split_ifs at called <;> simp at called
      · cases called
  | _ => cases called

/-- A step from a state in range stays in range exactly when its action spares
the positions. -/
theorem inRange_step_iff
    (inRange : InRange plugin)
    {action : Action}
    (moves : plugin.step layout action = .ok after) :
    after.InRange ↔ plugin.SparesPositions layout action := by
  constructor
  · intro afterInRange
    cases action with
    | send grspwId =>
        intro idle
        have isCall : plugin.callOn grspwId (.send grspwId) = [.transmit] :=
          if_pos ⟨rfl, idle⟩
        cases delivered_of_step (inRange.frameWithin grspwId) moves with
        | idle uncalled device =>
            rw [isCall] at uncalled
            cases uncalled
        | called isInput calls device =>
            rw [isCall] at isInput
            cases isInput
            have calledInRange :=
              device.inRange_iff.mp (afterInRange.devices grspwId)
            exact (Core.inRange_step_iff (inRange.devices grspwId) calls).mp
              calledInRange rfl
    | _ => trivial
  · intro spares
    constructor
    · intro grspwId
      cases delivered_of_step (inRange.frameWithin grspwId) moves with
      | idle uncalled device =>
          exact device.inRange_iff.mpr (inRange.devices grspwId)
      | called isCall calls device =>
          apply device.inRange_iff.mpr
          apply (Core.inRange_step_iff (inRange.devices grspwId) calls).mpr
          rintro rfl
          obtain ⟨rfl, idle⟩ := eq_send_of_transmit_mem
            (isCall ▸ List.mem_singleton_self Input.transmit)
          exact spares idle
    · intro grspwId frame held
      obtain old | ⟨rfl, sends⟩ := frame_of_step moves held
      · exact inRange.frames grspwId frame old
      · exact (inRange.devices grspwId).transmit

end Plugin

end Grspw
