import Grspw.HeldBack

/-!
# Descriptors released late

In runs that stay clear of the control words still to be written back, and leave
Transmit Interrupt alone meanwhile, a plugin whose calls release their
descriptors after the acknowledge is one whose calls do so in the step that
sends the packet.
-/

namespace Grspw

namespace Plugin

/-- What the calls under way hold back from guest RAM. -/
def held (plugin : Plugin) : Overlay.Held GrspwId Uint8 := fun grspwId =>
  (plugin.calls grspwId).held (plugin.devices grspwId)

/-- The interrupts they hold back. -/
def due (plugin : Plugin) (grspwId : GrspwId) : Nat :=
  (plugin.calls grspwId).due (plugin.devices grspwId)

/-- A transmit call that releases its descriptor before its wait. -/
def sendAtOnce
    (plugin : Plugin)
    (grspwId : GrspwId) : Except Fault Plugin :=
  match plugin.calls grspwId with
  | .idle =>
      match txenableSend .disjoint (plugin.core grspwId) with
      | .error fault => .error fault
      | .ok (none, core) => .ok (plugin.putCore grspwId core)
      | .ok (some frame, core) =>
          .ok ((plugin.putCore grspwId
            (txenableAcked .disjoint frame core)).putCall grspwId
              (.sent frame))
  | _ => .ok plugin

/-- A woken call has nothing left to do. -/
def resumeAtOnce (plugin : Plugin) (grspwId : GrspwId) : Plugin :=
  match plugin.calls grspwId with
  | .woken _ => plugin.putCall grspwId .idle
  | _ => plugin

/-- One action where descriptors are released at once. -/
def stepAtOnce (plugin : Plugin) : Action → Except Fault Plugin
  | .send grspwId => plugin.sendAtOnce grspwId
  | .resume grspwId => .ok (plugin.resumeAtOnce grspwId)
  | action => plugin.step .disjoint action

/-- The action for it: guest RAM, where the surroundings change it, is what it
will be once everything held back is written. -/
def actionsAtOnce (plugin : Plugin) : Action → List Action
  | .ambient ram =>
      [.ambient (Overlay.apply plugin.held ram (List.finRange 4))]
  | action => [action]

/-- A call on a core that touches nothing held back, and keeps Transmit Interrupt
while one is under way. -/
def KeepsClear (plugin : Plugin) (grspwId : GrspwId) : Input → Prop
  | .write regOffset value =>
      plugin.calls grspwId = .idle ∨
        checkbit ((plugin.core grspwId).written regOffset value).regs.chn
            spwchnTI =
          checkbit (plugin.core grspwId).regs.chn spwchnTI
  | .transmit =>
      checkbit (plugin.core grspwId).regs.chn spwchnTE = true →
        (plugin.core grspwId).TxClear plugin.held
  | .packet data len _ =>
      rxAccepts (plugin.core grspwId).regs data = true →
        checkbit (plugin.core grspwId).regs.chn spwchnRD = true →
          (plugin.core grspwId).RxClear plugin.held len
  | _ => True

instance (plugin : Plugin) (grspwId : GrspwId) (input : Input) :
    Decidable (plugin.KeepsClear grspwId input) :=
  match input with
  | .write _ _ => inferInstanceAs (Decidable (_ ∨ _))
  | .transmit => inferInstanceAs (Decidable (_ → _))
  | .packet _ _ _ => inferInstanceAs (Decidable (_ → _ → _))
  | .read _ => isTrue trivial
  | .timecode _ => isTrue trivial
  | .ambient _ _ => isTrue trivial

/-- An action that touches nothing held back and keeps Transmit Interrupt of a
core during its call. -/
def Undisturbed (plugin : Plugin) (action : Action) : Prop :=
  ∀ grspwId, ∀ input ∈ plugin.callOn grspwId action,
    plugin.KeepsClear grspwId input

instance (plugin : Plugin) (action : Action) :
    Decidable (plugin.Undisturbed action) :=
  inferInstanceAs (Decidable (∀ _, ∀ _ ∈ _, _))

/-- The plugin is behind the one that releases at once by what its calls under
way hold back. -/
structure Lags (late atOnce : Plugin) : Prop where
  devices : ∀ grspwId,
    SameDevice (late.devices grspwId) (atOnce.devices grspwId)
  host : Behind late.held late.due late.host atOnce.host
  apart : Overlay.Apart late.held
  calls : atOnce.calls = late.calls
  devq : atOnce.devq = late.devq
  rxbuffer : atOnce.rxbuffer = late.rxbuffer
  rxheader : atOnce.rxheader = late.rxheader
  rxdata : atOnce.rxdata = late.rxdata
  recvAtt : atOnce.recvAtt = late.recvAtt
  taken : atOnce.taken = late.taken

section Lagging

variable {late atOnce after : Plugin} {grspwId : GrspwId}

theorem held_of_idle (idle : late.calls grspwId = .idle) :
    late.held grspwId = none := by
  rw [held, idle]
  rfl

theorem due_of_idle (idle : late.calls grspwId = .idle) :
    late.due grspwId = 0 := by
  rw [due, idle]
  rfl

/-- Only the call and the device of a core decide what it holds back. -/
theorem held_congr
    (frame : (after.calls grspwId).frame? = (late.calls grspwId).frame?)
    (txdMap : (after.devices grspwId).txdMap = (late.devices grspwId).txdMap) :
    after.held grspwId = late.held grspwId := by
  simp only [held, Call.held, frame, Device.releaseWord, Device.loadTxd, txdMap]

theorem due_congr
    (frame : (after.calls grspwId).frame? = (late.calls grspwId).frame?)
    (txdMap : (after.devices grspwId).txdMap = (late.devices grspwId).txdMap)
    (mask : checkbit (after.devices grspwId).grspwReg.chn spwchnTI =
      checkbit (late.devices grspwId).grspwReg.chn spwchnTI) :
    after.due grspwId = late.due grspwId := by
  have interrupts : (after.devices grspwId).releaseInterrupts =
      (late.devices grspwId).releaseInterrupts := by
    funext frame
    simp only [Device.releaseInterrupts, Device.releaseWord, Device.loadTxd,
      txdMap, mask]
  simp only [due, Call.due, frame, interrupts]

/-- A call that leaves what is held back alone, made on both. -/
theorem Lags.putCore
    (lags : Lags late atOnce)
    {core core' : Core}
    (device : SameDevice core.device core'.device)
    (host : Behind late.held late.due core.host core'.host)
    (keeps : late.calls grspwId = .idle ∨
      (core.device.txdMap = (late.devices grspwId).txdMap ∧
        checkbit core.regs.chn spwchnTI =
          checkbit (late.devices grspwId).grspwReg.chn spwchnTI)) :
    Lags (late.putCore grspwId core) (atOnce.putCore grspwId core') := by
  have sameHeld : (late.putCore grspwId core).held = late.held := by
    funext other
    by_cases own : other = grspwId
    · subst own
      obtain idle | ⟨txdMap, _⟩ := keeps
      · rw [held_of_idle idle]
        exact held_of_idle idle
      · exact held_congr rfl (by rw [devices_putCore]; exact txdMap)
    · exact held_congr rfl (by rw [devices_putCore_of_ne own])
  have sameDue : (late.putCore grspwId core).due = late.due := by
    funext other
    by_cases own : other = grspwId
    · subst own
      obtain idle | ⟨txdMap, mask⟩ := keeps
      · rw [due_of_idle idle]
        exact due_of_idle idle
      · exact due_congr rfl (by rw [devices_putCore]; exact txdMap)
          (by rw [devices_putCore]; exact mask)
    · exact due_congr rfl (by rw [devices_putCore_of_ne own])
        (by rw [devices_putCore_of_ne own])
  refine { lags with devices := ?_, host := ?_, apart := ?_ }
  · intro other
    by_cases own : other = grspwId
    · subst own
      rw [devices_putCore, devices_putCore]
      exact device
    · rw [devices_putCore_of_ne own, devices_putCore_of_ne own]
      exact lags.devices other
  · rw [sameHeld, sameDue]
    exact host
  · rw [sameHeld]
    exact lags.apart

/-- A call that moves on with its locals holds back what it did. -/
theorem Lags.putCall
    (lags : Lags late atOnce)
    {call : Call}
    (frame : call.frame? = (late.calls grspwId).frame?) :
    Lags (late.putCall grspwId call) (atOnce.putCall grspwId call) := by
  have frames : ∀ other, ((late.putCall grspwId call).calls other).frame? =
      (late.calls other).frame? := by
    intro other
    rw [frame?_putCall]
    split_ifs with own
    · rw [own, frame]
    · rfl
  have sameHeld : (late.putCall grspwId call).held = late.held := by
    funext other
    exact held_congr (frames other) rfl
  have sameDue : (late.putCall grspwId call).due = late.due := by
    funext other
    exact due_congr (frames other) rfl rfl
  refine { lags with host := ?_, apart := ?_, calls := ?_ }
  · rw [sameHeld, sameDue]
    exact lags.host
  · rw [sameHeld]
    exact lags.apart
  · exact congrArg (Function.update · grspwId call) lags.calls

/-! ### One action of both -/

theorem Lags.write
    (lags : Lags late atOnce)
    (regOffset : RegOffset)
    (value : Uint32)
    (clear : late.KeepsClear grspwId (.write regOffset value)) :
    Lags
      (late.putCore grspwId ((late.core grspwId).written regOffset value))
      (atOnce.putCore grspwId
        ((atOnce.core grspwId).written regOffset value)) := by
  have same := lags.devices grspwId
  have sameRegs : (atOnce.core grspwId).regs = (late.core grspwId).regs :=
    same.regs_eq.symm
  refine lags.putCore ⟨same.grspwId_eq, ?_, same.txdCur_eq, same.rxdCur_eq⟩
    (@Behind.written _ _ (late.core grspwId) (atOnce.core grspwId) same
      lags.host regOffset value)
    (clear.imp_right fun mask => ⟨rfl, mask⟩)
  simp only [Core.written, sameRegs]
  exact congrArg (fun id => regsWritten id _ regOffset value) same.grspwId_eq

/-- What a call has to write back and to raise is fixed once its packet is
sent. -/
theorem releaseWord_txSent (core : Core) :
    (core.txSent .disjoint).device.releaseWord core.txFrame =
      core.txWriteBack := by
  rw [Device.releaseWord]
  exact congrArg (clearbit · spwtdw0EN)
    (Core.txSent_loadTxd .disjoint core (Layout.admits_disjoint _ _))

theorem releaseInterrupts_txSent (core : Core) :
    (core.txSent .disjoint).device.releaseInterrupts core.txFrame =
      core.txInterrupts := by
  have interruptEnable : checkbit core.txWriteBack spwtdw0IE =
      checkbit core.txDescr.ctrl spwtdw0IE :=
    checkbit_clearbit_of_disjoint (by decide)
  have mask : checkbit (setbit core.regs.chn spwchnPS) spwchnTI =
      checkbit core.regs.chn spwchnTI :=
    checkbit_setbit_of_disjoint (by decide)
  rw [Device.releaseInterrupts, releaseWord_txSent, interruptEnable,
    Core.txInterrupts, ← mask]
  rfl

/-- A call that moves on together with its core changes what that core holds
back. -/
theorem held_moved (core : Core) (call : Call) :
    ((late.putCore grspwId core).putCall grspwId call).held =
      Function.update late.held grspwId (call.held core.device) := by
  funext other
  by_cases own : other = grspwId
  · subst own
    rw [Function.update_self]
    simp [held, putCall, putCore]
  · rw [Function.update_of_ne own]
    exact held_congr (by rw [frame?_putCall, if_neg own]; rfl)
      (congrArg Device.txdMap (devices_putCore_of_ne own _))

theorem due_moved (core : Core) (call : Call) :
    ((late.putCore grspwId core).putCall grspwId call).due =
      Function.update late.due grspwId (call.due core.device) := by
  funext other
  by_cases own : other = grspwId
  · subst own
    rw [Function.update_self]
    simp [due, putCall, putCore]
  · rw [Function.update_of_ne own]
    have device := @devices_putCore_of_ne late other grspwId own core
    exact due_congr (by rw [frame?_putCall, if_neg own]; rfl)
      (congrArg Device.txdMap device)
      (congrArg (fun device => checkbit device.grspwReg.chn spwchnTI) device)

/-- The call of a core that has sent a packet holds back its release. -/
theorem held_sent (core : Core) :
    Call.held (.sent core.txFrame) (core.txSent .disjoint).device =
      some (core.regs.txd.toNat, ramBytes core.txWriteBack) := by
  rw [← releaseWord_txSent]
  rfl

theorem due_sent (core : Core) :
    Call.due (.sent core.txFrame) (core.txSent .disjoint).device =
      if core.txInterrupts then 1 else 0 := by
  rw [← releaseInterrupts_txSent]
  rfl

theorem Lags.send
    (lags : Lags late atOnce)
    (named : (late.devices grspwId).grspwId = grspwId)
    (clear : Undisturbed late (.send grspwId))
    (returns : late.send .disjoint grspwId = .ok after) :
    ∃ after', atOnce.sendAtOnce grspwId = .ok after' ∧ Lags after after' := by
  have same : SameDevice (late.core grspwId).device
      (atOnce.core grspwId).device := lags.devices grspwId
  unfold sendAtOnce
  rw [lags.calls]
  obtain ⟨busy, rfl⟩ | ⟨idle, core, sends, rfl⟩ |
    ⟨idle, frame, core, sends, rfl⟩ := send_cases returns
  · refine ⟨atOnce, ?_, lags⟩
    cases phase : after.calls grspwId with
    | idle => exact absurd phase busy
    | _ => rfl
  · have clear : late.KeepsClear grspwId .transmit :=
      clear grspwId .transmit (by simp [callOn, idle])
    obtain ⟨core', sends', device, host⟩ :=
      Behind.txenableSend_none same lags.host clear sends
    refine ⟨atOnce.putCore grspwId core', ?_,
      lags.putCore device host (Or.inl idle)⟩
    simp only [idle, sends']
  · have clear : late.KeepsClear grspwId .transmit :=
      clear grspwId .transmit (by simp [callOn, idle])
    obtain ⟨sending, rfl, rfl⟩ := txSends_of_txenableSend sends
    have clear := clear sending.enabled
    obtain ⟨sends', frame, device⟩ :=
      Behind.txSends same lags.host clear sending
    refine ⟨(atOnce.putCore grspwId
      ((atOnce.core grspwId).txReleased .disjoint)).putCall grspwId
        (.sent (late.core grspwId).txFrame),
      by simp only [idle, sends', Core.txReleased, frame], ?_⟩
    have named : (late.core grspwId).device.grspwId = grspwId := named
    have host := Behind.txReleased same lags.host clear sending
      (by rw [named]; exact held_of_idle idle)
      (by rw [named]; exact due_of_idle idle)
    rw [named] at host
    have control : Overlay.Clear late.held (late.core grspwId).regs.txd.toNat
        (ramBytes (late.core grspwId).txWriteBack).length := by
      intro party write holds
      have apart := clear.descriptor party write holds
      rw [length_ramBytes]
      omega
    refine { lags with devices := ?_, host := ?_, apart := ?_, calls := ?_ }
    · intro other
      by_cases own : other = grspwId
      · subst own
        simp only [Plugin.putCall, devices_putCore]
        exact device
      · simp only [Plugin.putCall, devices_putCore_of_ne own]
        exact lags.devices other
    · rw [held_moved, due_moved, held_sent, due_sent]
      exact host
    · rw [held_moved, held_sent]
      exact @Overlay.Apart.update_some _ _ _ _ _
        ((late.core grspwId).regs.txd.toNat,
          ramBytes (late.core grspwId).txWriteBack) lags.apart control
    · exact congrArg (Function.update · grspwId _) lags.calls

/-- The release at last, the two shared states agree on what was held back. -/
theorem Behind.acked
    {held : Overlay.Held GrspwId Uint8}
    {due : GrspwId → Nat}
    {core : Core}
    {host : Host}
    (behind : Behind held due core.host host)
    (apart : Overlay.Apart held)
    {frame : TxFrame}
    (named : core.device.grspwId = grspwId)
    (holds : held grspwId = some (frame.txdAddr.toNat,
      ramBytes (core.device.releaseWord frame)))
    (raises : due grspwId =
      if core.device.releaseInterrupts frame then 1 else 0) :
    Behind (Function.update held grspwId none) (Function.update due grspwId 0)
      (txenableAcked .disjoint frame core).host host := by
  have ram : (txenableAcked .disjoint frame core).host.ram =
      core.host.ram.write frame.txdAddr.toNat
        (ramBytes (core.device.releaseWord frame)) := by
    rw [txenableAcked_host]
    simp only
    split <;> rfl
  have pulses : ∀ other,
      (txenableAcked .disjoint frame core).host.pulses other =
        core.host.pulses other +
          if grspwId = other then (core.device.releaseInterrupts frame).toNat
          else 0 := by
    intro other
    rw [txenableAcked_host, named]
    exact (Host.pulses_raise _ _ _ _).trans
      (congrArg (· + _) (Host.pulses_writeRam _ _ _ _))
  refine ⟨?_, ?_, ?_, ?_⟩
  · rw [ram, behind.ram]
    exact (Overlay.apply_update_none holds apart (List.mem_finRange _)
      (List.nodup_finRange 4) _).symm
  · rw [behind.txbuffer, txenableAcked_host]
    simp only
    split <;> rfl
  · rw [behind.spwq, txenableAcked_spwq]
  · intro other
    rw [pulses, behind.pulses]
    by_cases own : other = grspwId
    · subst own
      rw [Function.update_self, raises, if_pos rfl]
      cases core.device.releaseInterrupts frame <;> rfl
    · rw [Function.update_of_ne own, if_neg (Ne.symm own), Nat.add_zero]

theorem Lags.resume
    (lags : Lags late atOnce)
    (named : (late.devices grspwId).grspwId = grspwId) :
    Lags (late.resume .disjoint grspwId) (atOnce.resumeAtOnce grspwId) := by
  unfold Plugin.resume resumeAtOnce
  rw [lags.calls]
  cases phase : late.calls grspwId with
  | woken frame =>
      have holds : late.held grspwId = some (frame.txdAddr.toNat,
          ramBytes ((late.core grspwId).device.releaseWord frame)) := by
        rw [held, phase]
        rfl
      have raises : late.due grspwId =
          if (late.core grspwId).device.releaseInterrupts frame then 1
          else 0 := by
        rw [due, phase]
        rfl
      have host := @Behind.acked grspwId _ _ (late.core grspwId) _ lags.host
        lags.apart frame named holds raises
      refine { lags with devices := ?_, host := ?_, apart := ?_, calls := ?_ }
      · intro other
        by_cases own : other = grspwId
        · subst own
          simp only [Plugin.putCall, devices_putCore]
          exact (sameDevice_txenableAcked_disjoint frame _).trans
            (lags.devices other)
        · simp only [Plugin.putCall, devices_putCore_of_ne own]
          exact lags.devices other
      · rw [held_moved, due_moved]
        exact host
      · rw [held_moved]
        exact lags.apart.update_none
      · exact congrArg (Function.update · grspwId _) lags.calls
  | _ => exact lags

/-- Neither a packet nor a time code changes what a release looks at. -/
theorem release_rxenable
    {core stored : Core}
    {data : Memory Uint8}
    {len : Uint32}
    {att : RecvAtt}
    (returns : rxenable .disjoint core data len att = .ok stored) :
    stored.device.txdMap = core.device.txdMap ∧
      checkbit stored.regs.chn spwchnTI = checkbit core.regs.chn spwchnTI := by
  refine ⟨txdMap_rxenable returns, ?_⟩
  obtain ⟨_, rfl⟩ | ⟨_, _, rfl⟩ | ⟨_, _, rfl⟩ | ⟨_, _, rfl⟩ :=
    rxenable_cases returns
  · rfl
  · rfl
  · exact checkbit_clearbit_of_disjoint (by decide)
  · rw [Core.rxStored_regs]
    exact checkbit_setbit_of_disjoint (by decide)

theorem release_rxtimecode (core : Core) (timecode : Uint8) :
    (rxtimecode core timecode).device.txdMap = core.device.txdMap ∧
      checkbit (rxtimecode core timecode).regs.chn spwchnTI =
        checkbit core.regs.chn spwchnTI := by
  refine ⟨txdMap_rxtimecode core timecode, ?_⟩
  by_cases newer : core.regs.tim < timecode.setWidth 32
  · rw [rxtimecode_newer newer]
    rfl
  · rw [rxtimecode_stale newer]

theorem Lags.mayWake
    (lags : Lags late atOnce)
    (wakes : Option GrspwId) :
    atOnce.MayWake wakes = late.MayWake wakes := by
  cases wakes with
  | none => simp only [MayWake, Waits, lags.calls]
  | some grspwId => simp only [MayWake, Waits, lags.calls]

theorem Lags.signal
    (lags : Lags late atOnce)
    (wakes : Option GrspwId) :
    Lags (late.signal wakes) (atOnce.signal wakes) := by
  cases wakes with
  | none => exact lags
  | some grspwId =>
      simp only [Plugin.signal, lags.calls]
      split
      · rename_i frame waits
        exact lags.putCall (by rw [waits]; rfl)
      · exact lags

/-- One iteration of the RX thread with a packet that touches nothing held
back. -/
theorem Lags.dispatch
    (lags : Lags late atOnce)
    {received : Received}
    {wakes : Option GrspwId}
    (clear : received.pword ≠ msgqAck → received.pword = msgqData →
      late.KeepsClear received.grspwId
        (.packet received.data received.dataLen late.recvAtt))
    (dispatches : late.dispatch .disjoint received wakes = .ok after) :
    ∃ after', atOnce.dispatch .disjoint received wakes = .ok after' ∧
      Lags after after' := by
  have same : SameDevice (late.core received.grspwId).device
      (atOnce.core received.grspwId).device := lags.devices _
  unfold Plugin.dispatch
  obtain ⟨isAck, rfl⟩ | ⟨notAck, isData, called, stores, rfl⟩ |
    ⟨notAck, notData, isTime, rfl⟩ | ⟨notAck, notData, notTime, rfl⟩ :=
    dispatch_cases dispatches
  · exact ⟨_, if_pos isAck, lags.signal wakes⟩
  · obtain ⟨called', stores', device, host⟩ :=
      Behind.rxenable same lags.host (clear notAck isData) stores
    refine ⟨atOnce.putCore received.grspwId called', ?_,
      lags.putCore device host (Or.inr (release_rxenable stores))⟩
    simp only [if_neg notAck, if_pos isData, lags.recvAtt, stores']
  · obtain ⟨device, host⟩ := Behind.rxtimecode same lags.host (received.data 0)
    refine ⟨_, ?_,
      lags.putCore device host (Or.inr (release_rxtimecode _ _))⟩
    simp only [if_neg notAck, if_neg notData, if_pos isTime]
  · refine ⟨atOnce, ?_, lags⟩
    simp only [if_neg notAck, if_neg notData, if_neg notTime]

theorem Lags.receive
    (lags : Lags late atOnce)
    {wakes : Option GrspwId}
    (clear : Undisturbed late (.receive wakes))
    (returns : late.step .disjoint (.receive wakes) = .ok after) :
    ∃ after', atOnce.step .disjoint (.receive wakes) = .ok after' ∧
      Lags after after' := by
  simp only [step, lags.mayWake wakes] at returns ⊢
  by_cases mayWake : late.MayWake wakes
  swap
  · rw [if_neg mayWake] at returns ⊢
    cases returns
    exact ⟨atOnce, rfl, lags⟩
  rw [if_pos mayWake] at returns ⊢
  obtain ⟨empty, rfl⟩ | ⟨message, devq, received, queue, decodes, dispatches⟩ :=
    rxthread_cases returns
  · refine ⟨atOnce, ?_, lags⟩
    simp only [rxthread, lags.devq, empty]
  have tookOff : Lags (late.tookOff devq received)
      (atOnce.tookOff devq received) :=
    { lags with devq := rfl, rxbuffer := rfl, rxheader := rfl, rxdata := rfl }
  have kept : received.pword ≠ msgqAck → received.pword = msgqData →
      late.KeepsClear received.grspwId
        (.packet received.data received.dataLen late.recvAtt) := by
    intro notAck isData
    apply clear received.grspwId
    rw [callOn, if_pos mayWake, deliveredTo_cons queue decodes, if_pos rfl,
      if_neg notAck, if_pos isData]
    exact List.mem_cons_self
  obtain ⟨after', dispatches', lags'⟩ := tookOff.dispatch kept dispatches
  refine ⟨after', ?_, lags'⟩
  simp only [rxthread, lags.devq, queue, lags.rxbuffer, lags.rxheader,
    lags.rxdata, decodes]
  exact dispatches'

/-- **One action.**  Each undisturbed action is matched by the same action of the
plugin that releases at once. -/
theorem Lags.step
    (lags : Lags late atOnce)
    (named : ∀ grspwId, (late.devices grspwId).grspwId = grspwId)
    {action : Action}
    (clear : Undisturbed late action)
    (moves : late.step .disjoint action = .ok after) :
    ∃ after',
      Machine.run stepAtOnce atOnce (late.actionsAtOnce action) = .ok after' ∧
      Lags after after' := by
  have single : ∀ {action' : Action} {after' : Plugin},
      stepAtOnce atOnce action' = .ok after' →
        Machine.run stepAtOnce atOnce [action'] = .ok after' :=
    fun moves' => Machine.run_cons_of_ok moves' []
  cases action with
  | write grspwId regOffset value =>
      rw [Plugin.step, Core.write_eq] at moves
      cases moves
      refine ⟨_, single ?_, lags.write regOffset value
        (clear grspwId _ (by simp [callOn]))⟩
      change atOnce.step .disjoint (.write grspwId regOffset value) = _
      rw [Plugin.step, Core.write_eq]
  | send grspwId =>
      obtain ⟨after', sends, lags'⟩ := lags.send (named grspwId) clear moves
      exact ⟨after', single sends, lags'⟩
  | txwaitack grspwId =>
      cases moves
      refine ⟨atOnce.txwaitack grspwId, single rfl, ?_⟩
      unfold Plugin.txwaitack
      rw [lags.calls]
      split
      · rename_i frame sent
        exact lags.putCall (by rw [sent]; rfl)
      · exact lags
  | resume grspwId =>
      cases moves
      exact ⟨_, single rfl, lags.resume (named grspwId)⟩
  | receive wakes =>
      obtain ⟨after', receives, lags'⟩ := lags.receive clear moves
      exact ⟨after', single receives, lags'⟩
  | take =>
      cases moves
      refine ⟨atOnce.take, single rfl, ?_⟩
      unfold Plugin.take
      rw [lags.host.spwq]
      cases late.host.spwq with
      | nil => exact lags
      | cons message spwq =>
          exact { lags with
            host := { lags.host with spwq := rfl }
            taken := by simp only [lags.taken] }
  | acknowledge =>
      cases moves
      refine ⟨atOnce.acknowledge, single rfl, ?_⟩
      unfold Plugin.acknowledge
      rw [lags.taken]
      cases late.taken with
      | nil => exact lags
      | cons grspwId taken =>
          exact { lags with
            taken := rfl
            devq := by simp only [lags.devq] }
  | put message =>
      cases moves
      refine ⟨_, single rfl, ?_⟩
      exact { lags with devq := by simp only [lags.devq] }
  | ambient ram =>
      cases moves
      refine ⟨_, single rfl, ?_⟩
      exact { lags with host := { lags.host with ram := rfl } }

/-! ## Runs -/

/-- Every device keeps its own id. -/
theorem named_of_step
    (named : ∀ grspwId, (late.devices grspwId).grspwId = grspwId)
    {action : Action}
    (moves : late.step .disjoint action = .ok after)
    (grspwId : GrspwId) :
    (after.devices grspwId).grspwId = grspwId := by
  have within : FrameWithin .disjoint grspwId late :=
    fun _ _ packed => absurd packed (by decide)
  cases delivered_of_step within moves with
  | idle uncalled device => exact device.grspwId_eq.trans (named grspwId)
  | called isCall stepped device =>
      exact device.grspwId_eq.trans
        ((step_grspwId stepped).trans (named grspwId))

theorem lags_init (ram : Memory Uint8) (recvAtt : RecvAtt) :
    Lags (init ram recvAtt) (init ram recvAtt) where
  devices := fun _ => SameDevice.refl _
  host :=
    ⟨(Overlay.apply_of_forall_none (fun _ => rfl) ram _).symm, rfl, rfl,
      fun _ => rfl⟩
  apart := by
    intro party write holds
    cases holds
  calls := rfl
  devq := rfl
  rxbuffer := rfl
  rxheader := rfl
  rxdata := rfl
  recvAtt := rfl
  taken := rfl

/-- With no call under way nothing is held back. -/
theorem Lags.settled
    (lags : Lags late atOnce)
    (idle : ∀ grspwId, late.calls grspwId = .idle) :
    atOnce.host.ram = late.host.ram ∧
      ∀ grspwId, atOnce.host.pulses grspwId = late.host.pulses grspwId := by
  constructor
  · rw [lags.host.ram, Overlay.apply_of_forall_none]
    exact fun grspwId => held_of_idle (idle grspwId)
  · intro grspwId
    rw [lags.host.pulses, due_of_idle (idle grspwId), Nat.add_zero]

end Lagging

/-- **Releasing late is releasing at once.**  In every run that keeps clear of
the control words still to be written back, and changes Transmit Interrupt of no
core during its call, the plugin is at every moment where the one that releases
each descriptor as its packet leaves would be, but for those words and the
interrupts that go with them.  With no call under way guest RAM and interrupts
agree as well. -/
theorem releases_at_once
    (ram : Memory Uint8)
    (recvAtt : RecvAtt)
    (actions : List Action)
    (last : Plugin)
    (undisturbed : Machine.Guarded (Plugin.step .disjoint) Undisturbed
      (init ram recvAtt) actions)
    (reaches : Machine.run (Plugin.step .disjoint) (init ram recvAtt) actions =
      .ok last) :
    ∃ atOnce,
      Machine.run stepAtOnce (init ram recvAtt)
        (Machine.observe (Plugin.step .disjoint) actionsAtOnce
          (init ram recvAtt) actions).flatten = .ok atOnce ∧
      Lags last atOnce ∧
      ((∀ grspwId, last.calls grspwId = .idle) →
        atOnce.host.ram = last.host.ram ∧
          ∀ grspwId,
            atOnce.host.pulses grspwId = last.host.pulses grspwId) := by
  obtain ⟨atOnce, reached, _, lags⟩ := Machine.exists_run_of_simulation
    actionsAtOnce
    (fun late atOnce =>
      (∀ grspwId, (late.devices grspwId).grspwId = grspwId) ∧
        Lags late atOnce)
    (by
      rintro late action after atOnce ⟨named, lags⟩ clear moves
      obtain ⟨after', moves', lags'⟩ := lags.step named clear moves
      exact ⟨after', moves', named_of_step named moves, lags'⟩)
    ⟨fun _ => rfl, lags_init ram recvAtt⟩ undisturbed reaches
  exact ⟨atOnce, reached, lags, lags.settled⟩

/-- Guest RAM with an armed transmit descriptor for each of two cores, at 0 and
1024, and a receive descriptor at 2048 with its buffer at 4096. -/
def apartRam : Memory Uint8
  | 2 | 1026 => 0x50
  | 2048 => 0x0A
  | 2054 => 16
  | _ => 0

/-- Two cores send.  While both wait the second one gets a packet, and then they
are released one after the other. -/
def apartRun : List Action :=
  busWrite 0x20 5 ++ busWrite 0x124 16 ++ busWrite 0x128 0x400 ++
    busWrite 0x12C 0x800 ++ busWrite 0x120 0x807 ++
    [.txwaitack 0, .txwaitack 1,
      .put (wireImage (fun _ => 0) 1 msgqData [] [254]), .receive (some 0),
      .take, .acknowledge, .receive (some 0), .resume 0,
      .take, .acknowledge, .receive (some 1), .resume 1]

theorem releases_at_once_apartRun :
    ∃ last atOnce,
      Machine.run (Plugin.step .disjoint) (init apartRam ⟨0, 0, 0⟩) apartRun =
        .ok last ∧
      Machine.run stepAtOnce (init apartRam ⟨0, 0, 0⟩)
        (Machine.observe (Plugin.step .disjoint) actionsAtOnce
          (init apartRam ⟨0, 0, 0⟩) apartRun).flatten = .ok atOnce ∧
      atOnce.host.ram = last.host.ram := by
  have reaches : ∃ last, Machine.run (Plugin.step .disjoint)
      (init apartRam ⟨0, 0, 0⟩) apartRun = .ok last ∧
        ∀ grspwId, last.calls grspwId = .idle := ⟨_, rfl, by decide⟩
  obtain ⟨last, reaches, idle⟩ := reaches
  obtain ⟨atOnce, reached, _, settled⟩ := releases_at_once apartRam ⟨0, 0, 0⟩
    apartRun last (by decide) reaches
  exact ⟨last, atOnce, reaches, reached, (settled idle).1⟩

end Plugin

end Grspw
