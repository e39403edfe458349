import Grspw.Rings

/-!
# Software reset against a fresh core

A guest write of SPWCTR with only Reset set restores the register block, not the
ring positions kept beside it.  The core then behaves like a freshly initialised
one exactly when both positions happen to be 0; the scratch copies never matter,
since every call overwrites the entry it uses.
-/

namespace Grspw

/-! ## Scratch copies do not matter -/

namespace Core

/-- Two cores that differ in their scratch copies only. -/
structure SameButScratch (left right : Core) : Prop where
  grspwId_eq : left.device.grspwId = right.device.grspwId
  regs_eq : left.regs = right.regs
  txdCur_eq : left.device.txdCur = right.device.txdCur
  rxdCur_eq : left.device.rxdCur = right.device.rxdCur
  host_eq : left.host = right.host

/-- The same core with other scratch copies. -/
def withScratch
    (core : Core)
    (rxdMap : Nat → RxDesc)
    (txdMap : Nat → Uint32) : Core :=
  { core with device := { core.device with rxdMap := rxdMap, txdMap := txdMap } }

theorem SameButScratch.eq_withScratch
    {left right : Core}
    (same : SameButScratch left right) :
    right = left.withScratch right.device.rxdMap right.device.txdMap := by
  obtain ⟨⟨_, _, rxdMap, txdMap, _, _⟩, _⟩ := right
  obtain ⟨sameId, sameRegs, sameTxdCur, sameRxdCur, sameHost⟩ := same
  simp only at sameId sameRegs sameTxdCur sameRxdCur sameHost
  subst sameId sameRegs sameTxdCur sameRxdCur sameHost
  rfl

variable
  {layout : Layout}
  (core : Core)
  (rxdMap : Nat → RxDesc)
  (txdMap : Nat → Uint32)

theorem sameButScratch_txPolled
    (admits : layout.Admits core.device.txdCur nbTxDescriptor) :
    SameButScratch (core.txPolled layout)
      ((core.withScratch rxdMap txdMap).txPolled layout) := by
  refine ⟨?_, ?_, ?_, ?_, rfl⟩
  · rw [txPolled_grspwId, txPolled_grspwId]
    rfl
  · rw [txPolled_regs, txPolled_regs]
    rfl
  · rw [txPolled_txdCur, txPolled_txdCur, txFetched_txdCur _ _ admits,
      txFetched_txdCur _ (core.withScratch rxdMap txdMap) admits]
    rfl
  · rw [txPolled_rxdCur, txPolled_rxdCur, txFetched_rxdCur _ _ admits,
      txFetched_rxdCur _ (core.withScratch rxdMap txdMap) admits]
    rfl

theorem txNext_withScratch
    (admits : layout.Admits core.device.txdCur nbTxDescriptor) :
    (core.withScratch rxdMap txdMap).txNext layout = core.txNext layout := by
  unfold txNext
  rw [txFetched_txdCur _ _ admits,
    txFetched_txdCur _ (core.withScratch rxdMap txdMap) admits]
  rfl

theorem sameButScratch_txReleased
    (admits : layout.Admits core.device.txdCur nbTxDescriptor) :
    SameButScratch (core.txReleased layout)
      ((core.withScratch rxdMap txdMap).txReleased layout) := by
  have next := txNext_withScratch core rxdMap txdMap admits
  refine ⟨?_, ?_, ?_, ?_, ?_⟩
  · rw [txReleased_grspwId, txReleased_grspwId]
    rfl
  · rw [txReleased_regs, txReleased_regs, txRegs, txRegs, next]
    rfl
  · rw [txReleased_txdCur _ _ admits,
      txReleased_txdCur _ (core.withScratch rxdMap txdMap) admits, next]
  · rw [txReleased_rxdCur _ _ admits,
      txReleased_rxdCur _ (core.withScratch rxdMap txdMap) admits,
      txFetched_rxdCur _ _ admits,
      txFetched_rxdCur _ (core.withScratch rxdMap txdMap) admits]
    rfl
  · rw [txReleased_host _ _ admits,
      txReleased_host _ (core.withScratch rxdMap txdMap) admits]
    rfl

theorem sameButScratch_rxStored
    (data : Memory Uint8)
    (len : Uint32)
    (att : RecvAtt) :
    SameButScratch (core.rxStored data len att)
      ((core.withScratch rxdMap txdMap).rxStored data len att) := by
  refine ⟨?_, ?_, ?_, ?_, ?_⟩
  · rw [rxStored_grspwId, rxStored_grspwId]
    rfl
  · rw [rxStored_regs, rxStored_regs]
    rfl
  · rw [rxStored_txdCur, rxStored_txdCur]
    rfl
  · rw [rxStored_rxdCur, rxStored_rxdCur]
    rfl
  · rw [rxStored_host, rxStored_host]
    rfl

end Core

/-- Both steps stop with the same fault, or both go through and their states
still differ in the scratch copies only. -/
def Matched (left right : Except Fault Core) : Prop :=
  (∃ fault, left = .error fault ∧ right = .error fault) ∨
    ∃ left' right', left = .ok left' ∧ right = .ok right' ∧
      Core.SameButScratch left' right'

section Scratch

variable
  (layout : Layout)
  (core : Core)
  (rxdMap : Nat → RxDesc)
  (txdMap : Nat → Uint32)

theorem matched_transmit :
    Matched (step layout core .transmit)
      (step layout (core.withScratch rxdMap txdMap) .transmit) := by
  simp only [step]
  cases enabled : checkbit core.regs.chn spwchnTE with
  | false =>
      rw [txenable_idle enabled,
        @txenable_idle layout (core.withScratch rxdMap txdMap) enabled]
      exact Or.inr ⟨_, _, rfl, rfl, rfl, rfl, rfl, rfl, rfl⟩
  | true =>
      by_cases admits : layout.Admits core.device.txdCur nbTxDescriptor
      · cases armed : checkbit core.txDescr.ctrl spwtdw0EN with
        | false =>
            rw [txenable_polled enabled admits armed,
              @txenable_polled layout (core.withScratch rxdMap txdMap) enabled
                admits armed]
            exact Or.inr ⟨_, _, rfl, rfl,
              core.sameButScratch_txPolled rxdMap txdMap admits⟩
        | true =>
            rw [txenable_armed enabled admits armed,
              @txenable_armed layout (core.withScratch rxdMap txdMap) enabled
                admits armed]
            by_cases fits : Fits core.txHeader core.txData
            · have fits' : Fits (core.withScratch rxdMap txdMap).txHeader
                  (core.withScratch rxdMap txdMap).txData := fits
              rw [if_pos fits, if_pos fits']
              exact Or.inr ⟨_, _, rfl, rfl,
                core.sameButScratch_txReleased rxdMap txdMap admits⟩
            · have long : ¬Fits (core.withScratch rxdMap txdMap).txHeader
                  (core.withScratch rxdMap txdMap).txData := fits
              rw [if_neg fits, if_neg long]
              exact Or.inl ⟨_, rfl, rfl⟩
      · rw [txenable_outOfBounds enabled admits,
          @txenable_outOfBounds layout (core.withScratch rxdMap txdMap) enabled
            admits]
        exact Or.inl ⟨_, rfl, rfl⟩

theorem matched_packet
    (data : Memory Uint8)
    (len : Uint32)
    (att : RecvAtt) :
    Matched (step layout core (.packet data len att))
      (step layout (core.withScratch rxdMap txdMap)
        (.packet data len att)) := by
  simp only [step]
  let other := core.withScratch rxdMap txdMap
  cases accepts : rxAccepts core.regs data with
  | false =>
      rw [rxenable_refused accepts,
        @rxenable_refused layout other data len att accepts]
      exact Or.inr ⟨_, _, rfl, rfl, rfl, rfl, rfl, rfl, rfl⟩
  | true =>
      cases available : checkbit core.regs.chn spwchnRD with
      | false =>
          rw [rxenable_unavailable accepts available,
            @rxenable_unavailable layout other data len att accepts available]
          exact Or.inr ⟨_, _, rfl, rfl, rfl, rfl, rfl, rfl, rfl⟩
      | true =>
          by_cases admits : layout.Admits core.device.rxdCur nbRxDescriptor
          · have fetches : RxFetches layout core data :=
              ⟨accepts, available, admits⟩
            have fetches' : RxFetches layout other data :=
              ⟨accepts, available, admits⟩
            cases armed : checkbit core.rxDesc.ctrl spwtrw0EN with
            | false =>
                rw [rxenable_disabled fetches armed,
                  rxenable_disabled fetches' armed]
                refine Or.inr ⟨_, _, rfl, rfl, rfl, rfl, rfl, rfl, ?_⟩
                rw [Core.rxRefused_host, Core.rxRefused_host]
                rfl
            | true =>
                rw [rxenable_stored fetches armed,
                  rxenable_stored fetches' armed]
                exact Or.inr ⟨_, _, rfl, rfl,
                  core.sameButScratch_rxStored rxdMap txdMap data len att⟩
          · rw [rxenable_outOfBounds accepts available admits,
              @rxenable_outOfBounds layout other data len att accepts available
                admits]
            exact Or.inl ⟨_, rfl, rfl⟩

theorem matched_timecode (timecode : Uint8) :
    Matched (step layout core (.timecode timecode))
      (step layout (core.withScratch rxdMap txdMap) (.timecode timecode)) := by
  refine Or.inr ⟨_, _, rfl, rfl, ?_⟩
  by_cases newer : core.regs.tim < timecode.setWidth 32
  · rw [rxtimecode_newer newer,
      @rxtimecode_newer (core.withScratch rxdMap txdMap) timecode newer]
    exact ⟨rfl, rfl, rfl, rfl, rfl⟩
  · rw [rxtimecode_stale newer,
      @rxtimecode_stale (core.withScratch rxdMap txdMap) timecode newer]
    exact ⟨rfl, rfl, rfl, rfl, rfl⟩

/-- No step looks at an earlier scratch copy. -/
theorem matched_step (input : Input) :
    Matched (step layout core input)
      (step layout (core.withScratch rxdMap txdMap) input) := by
  cases input with
  | write regOffset value =>
      refine Or.inr ⟨_, _, core.write_eq regOffset value,
        (core.withScratch rxdMap txdMap).write_eq regOffset value, ?_⟩
      exact ⟨rfl, rfl, rfl, rfl, rfl⟩
  | read regOffset => exact Or.inr ⟨_, _, rfl, rfl, rfl, rfl, rfl, rfl, rfl⟩
  | transmit => exact matched_transmit layout core rxdMap txdMap
  | packet data len att =>
      exact matched_packet layout core rxdMap txdMap data len att
  | timecode timecode =>
      exact matched_timecode layout core rxdMap txdMap timecode
  | ambient ram txbuffer =>
      exact Or.inr ⟨_, _, rfl, rfl, rfl, rfl, rfl, rfl, rfl⟩

end Scratch

namespace Core

/-- Accesses of a bus and messages of an external device; guest RAM is the
core's alone. -/
def OnCore : Input → Prop
  | .ambient _ _ => False
  | _ => True

instance (input : Input) : Decidable (OnCore input) :=
  match input with
  | .ambient _ _ => isFalse id
  | .write _ _ => isTrue trivial
  | .read _ => isTrue trivial
  | .transmit => isTrue trivial
  | .packet _ _ _ => isTrue trivial
  | .timecode _ => isTrue trivial

/-- Nothing a bus and an external device can do tells the two cores apart. -/
def Indistinguishable (layout : Layout) (left right : Core) : Prop :=
  ∀ inputs, (∀ input ∈ inputs, OnCore input) →
    Machine.outcome (step layout) output left (busCalls inputs) =
      Machine.outcome (step layout) output right (busCalls inputs)

/-- The two cores are indistinguishable over the same shared memory, whatever
it holds. -/
def Equivalent (layout : Layout) (left right : Core) : Prop :=
  ∀ ram txbuffer, Indistinguishable layout (left.ambient ram txbuffer)
    (right.ambient ram txbuffer)

/-- Cores that differ in their scratch copies only have the same outcomes, also
where guest RAM changes on the way. -/
theorem SameButScratch.outcome_eq
    {left right : Core}
    (same : SameButScratch left right)
    (layout : Layout)
    (inputs : List Input) :
    Machine.outcome (step layout) output left inputs =
      Machine.outcome (step layout) output right inputs := by
  refine Machine.outcome_eq_of_bisimulation SameButScratch ?_ ?_ same inputs
  · intro left right same
    simp only [output, same.host_eq]
  · intro left right input same
    have matched := matched_step layout left right.device.rxdMap
      right.device.txdMap input
    rw [← same.eq_withScratch] at matched
    exact matched

theorem SameButScratch.equivalent
    {left right : Core}
    (same : SameButScratch left right)
    (layout : Layout) :
    Equivalent layout left right := by
  intro ram txbuffer inputs _
  have surrounded : SameButScratch (left.ambient ram txbuffer)
      (right.ambient ram txbuffer) := by
    refine ⟨same.grspwId_eq, same.regs_eq, same.txdCur_eq, same.rxdCur_eq, ?_⟩
    simp only [ambient, same.host_eq]
  exact surrounded.outcome_eq layout (busCalls inputs)

end Core

/-! ## The reset -/

/-- A reset clears Transmitter Enable. -/
theorem checkbit_resetRegisters_TE (grspwId : GrspwId) (regs : Regs) :
    checkbit (resetRegisters grspwId regs).chn spwchnTE = false := by
  have cleared : (regs.chn &&& spwchnNotresetMask ||| 0) &&& spwchnTE = 0 := by
    have apart : spwchnNotresetMask &&& spwchnTE = 0 := by decide
    rw [Word.or_and_of_disjoint (by decide), BitVec.and_assoc, apart]
    exact BitVec.and_zero
  simp only [checkbit, resetRegisters, cleared]
  decide

namespace Core

/-- The state after a guest write of SPWCTR with only Reset set. -/
def afterReset (core : Core) : Core := core.written .ctr spwctrRS

/-- The transmit call that follows finds the transmitter off. -/
theorem apbgrspwWrite_reset (layout : Layout) (core : Core) :
    core.apbgrspwWrite layout .ctr spwctrRS = .ok core.afterReset := by
  have off : checkbit core.afterReset.regs.chn spwchnTE = false :=
    checkbit_resetRegisters_TE _ _
  rw [apbgrspwWrite_eq]
  change (txenable layout core.afterReset).map Prod.snd = _
  rw [txenable_idle off]
  rfl

/-- A freshly initialised core with the same not-reset bits, in the same
surroundings. -/
def freshLike (core : Core) : Core where
  device :=
    let device := initDevice core.device.grspwId
    { device with
      grspwReg :=
        { device.grspwReg with
          ctr := deposit device.grspwReg.ctr spwctrNotresetMask core.regs.ctr
          chn :=
            deposit device.grspwReg.chn spwchnNotresetMask core.regs.chn } }
  host := core.host

end Core

/-- Taking over the kept bits of a reset word gives that word. -/
theorem deposit_reset (word mask preset clear : Uint32) :
    deposit (clearbit (0 &&& mask ||| preset) clear) mask
        (clearbit (word &&& mask ||| preset) clear) =
      clearbit (word &&& mask ||| preset) clear := by
  apply BitVec.eq_of_getLsbD_eq
  intro i bound
  simp only [deposit, clearbit, BitVec.getLsbD_or, BitVec.getLsbD_and,
    BitVec.getLsbD_not, bound, decide_true, Bool.true_and,
    BitVec.ofNat_eq_ofNat, BitVec.getLsbD_zero, Bool.false_and, Bool.false_or]
  cases word.getLsbD i <;> cases mask.getLsbD i <;> cases preset.getLsbD i <;>
    cases clear.getLsbD i <;> rfl

/-- After a reset the registers are those of the fresh core. -/
theorem resetRegisters_eq_fresh (grspwId : GrspwId) (regs : Regs) :
    resetRegisters grspwId regs =
      { resetRegisters grspwId zeroRegs with
        ctr := deposit (resetRegisters grspwId zeroRegs).ctr spwctrNotresetMask
          (resetRegisters grspwId regs).ctr
        chn := deposit (resetRegisters grspwId zeroRegs).chn spwchnNotresetMask
          (resetRegisters grspwId regs).chn } := by
  have control :
      deposit (resetRegisters grspwId zeroRegs).ctr spwctrNotresetMask
          (resetRegisters grspwId regs).ctr =
        (resetRegisters grspwId regs).ctr := by
    simp only [resetRegisters, zeroRegs]
    split
    · exact deposit_reset regs.ctr spwctrNotresetMask 0x00010002 spwctrRS
    · exact deposit_reset regs.ctr spwctrNotresetMask 0xA0010002 spwctrRS
  have channel :
      deposit (resetRegisters grspwId zeroRegs).chn spwchnNotresetMask
          (resetRegisters grspwId regs).chn =
        (resetRegisters grspwId regs).chn := by
    have kept := deposit_reset regs.chn spwchnNotresetMask 0 0
    simp only [clearbit, BitVec.ofNat_eq_ofNat, BitVec.not_zero,
      BitVec.and_allOnes] at kept
    exact kept
  rw [control, channel]
  rfl

namespace Core

/-- Only the ring positions tell a reset core from a fresh one. -/
theorem sameButScratch_freshLike
    {core : Core}
    (transmit : core.device.txdCur = 0)
    (receive : core.device.rxdCur = 0) :
    SameButScratch core.afterReset core.afterReset.freshLike where
  grspwId_eq := rfl
  regs_eq := resetRegisters_eq_fresh _ _
  txdCur_eq := transmit
  rxdCur_eq := receive
  host_eq := rfl

/-! ## Telling the ring positions -/

/-- The registers are as a reset leaves them, as far as the probes need. -/
structure AtReset (core : Core) : Prop where
  txd_eq : core.regs.txd = 0
  rxd_eq : core.regs.rxd = 0
  ndr_eq : core.regs.ndr = 254
  transmitterOff : checkbit core.regs.chn spwchnTE = false

theorem atReset_afterReset (core : Core) : AtReset core.afterReset :=
  ⟨rfl, rfl, rfl, checkbit_resetRegisters_TE _ _⟩

theorem atReset_freshLike (core : Core) :
    AtReset core.afterReset.freshLike := by
  refine ⟨rfl, rfl, rfl, ?_⟩
  have same : core.afterReset.freshLike.regs = core.afterReset.regs :=
    (resetRegisters_eq_fresh _ _).symm
  rw [same]
  exact checkbit_resetRegisters_TE _ _

/-- Send one packet and read back SPWTXD. -/
def txProbe : List Input := [.write .chn spwchnTE, .read .txd]

/-- The probe shows SPWTXD as the packet leaves it. -/
theorem outcome_txProbe
    {layout : Layout}
    {core : Core}
    (sends : TxSends layout (core.written .chn spwchnTE)) :
    ∃ spwq log,
      Machine.outcome (step layout) output core (busCalls txProbe) =
        .ok (spwq, log ++ [.regRead
          ((core.written .chn spwchnTE).txReleased layout).regs.txd]) := by
  let probed := core.written .chn spwchnTE
  have writes : step layout core (.write .chn spwchnTE) = .ok probed :=
    write_eq _ .chn spwchnTE
  have calls : step layout probed .transmit =
      .ok (probed.txReleased layout) := by
    simp only [step, sends.txenable_eq, Except.map, probed]
  refine ⟨(probed.txReleased layout).host.spwq,
    (probed.txReleased layout).host.log, ?_⟩
  change Machine.outcome (step layout) output core
    [.write .chn spwchnTE, .transmit, .read .txd] = _
  unfold Machine.outcome
  rw [Machine.run_cons_of_ok writes, Machine.run_cons_of_ok calls,
    Machine.run_cons_of_ok rfl, Machine.run_nil]
  rfl

/-- Cores that show different SPWTXD to the probe are told apart. -/
theorem txd_eq_of_txProbe
    {layout : Layout}
    {left right : Core}
    (leftSends : TxSends layout (left.written .chn spwchnTE))
    (rightSends : TxSends layout (right.written .chn spwchnTE))
    (same : Machine.outcome (step layout) output left (busCalls txProbe) =
      Machine.outcome (step layout) output right (busCalls txProbe)) :
    ((left.written .chn spwchnTE).txReleased layout).regs.txd =
      ((right.written .chn spwchnTE).txReleased layout).regs.txd := by
  obtain ⟨leftQueue, leftLog, leftSees⟩ := outcome_txProbe leftSends
  obtain ⟨rightQueue, rightLog, rightSees⟩ := outcome_txProbe rightSends
  rw [leftSees, rightSees] at same
  have logs := congrArg Prod.snd (Except.ok.inj same)
  exact Effect.regRead.inj (List.cons.inj (List.append_inj' logs rfl).2).1

/-- Past the end of the scratch array the probe has no defined effect. -/
theorem outcome_txProbe_outOfBounds
    {layout : Layout}
    {core : Core}
    (outside : ¬layout.Admits core.device.txdCur nbTxDescriptor) :
    Machine.outcome (step layout) output core (busCalls txProbe) =
      .error .outOfBounds := by
  have enabled : checkbit (core.written .chn spwchnTE).regs.chn spwchnTE =
      true :=
    checkbit_writeChn_TE (by decide) (by decide)
  have stops : step layout (core.written .chn spwchnTE) .transmit =
      .error .outOfBounds := by
    have calls :=
      @txenable_outOfBounds layout (core.written .chn spwchnTE) enabled outside
    simp only [step, calls, Except.map]
  have writes : step layout core (.write .chn spwchnTE) =
      .ok (core.written .chn spwchnTE) :=
    write_eq _ .chn spwchnTE
  change Machine.outcome (step layout) output core
    [.write .chn spwchnTE, .transmit, .read .txd] = _
  unfold Machine.outcome
  rw [Machine.run_cons_of_ok writes, Machine.run_cons_of_error stops]
  rfl

/-- Once the transmitter is off, a table write before the probe only moves
SPWTXD. -/
theorem outcome_txd_txProbe
    {core : Core}
    (atReset : AtReset core)
    (layout : Layout)
    (value : Uint32) :
    Machine.outcome (step layout) output core
        (busCalls (.write .txd value :: txProbe)) =
      Machine.outcome (step layout) output (core.written .txd value)
        (busCalls txProbe) := by
  have writes : step layout core (.write .txd value) =
      .ok (core.written .txd value) :=
    write_eq core .txd value
  have off : checkbit (core.written .txd value).regs.chn spwchnTE = false :=
    atReset.transmitterOff
  have rests : step layout (core.written .txd value) .transmit =
      .ok (core.written .txd value) := by
    simp only [step, txenable_idle off, Except.map]
  change Machine.outcome (step layout) output core
    (.write .txd value :: .transmit :: busCalls txProbe) = _
  unfold Machine.outcome
  rw [Machine.run_cons_of_ok writes, Machine.run_cons_of_ok rests]

/-- Guest RAM full of enabled transmit descriptors of five data bytes. -/
def txProbeRam : Memory Uint8 := fun addr =>
  if addr % 16 = 2 then 0x10 else if addr % 16 = 11 then 5 else 0

/-- The core over the probe's RAM. -/
def overTxProbeRam (core : Core) : Core := core.ambient txProbeRam fun _ => 0

/-- The position after the probe's packet, whose length word is 5. -/
def txProbeNext (layout : Layout) (core : Core) : Uint32 :=
  ((if layout = .packed ∧ core.device.txdCur.toNat = 63 then 5
    else core.device.txdCur) + 1) % nbTxDescriptor

section TxProbe

variable
  {layout : Layout}
  {core : Core}

theorem txDescr_overTxProbeRam (atReset : AtReset core) :
    (core.overTxProbeRam.written .chn spwchnTE).txDescr =
      txDescrAt txProbeRam 0 := by
  have table : (core.overTxProbeRam.written .chn spwchnTE).regs.txd = 0 :=
    atReset.txd_eq
  unfold txDescr
  rw [table]
  rfl

/-- Over its RAM the probe has a packet to send. -/
theorem txSends_overTxProbeRam
    (atReset : AtReset core)
    (admits : layout.Admits core.device.txdCur nbTxDescriptor) :
    TxSends layout (core.overTxProbeRam.written .chn spwchnTE) := by
  have descr := txDescr_overTxProbeRam atReset
  refine ⟨checkbit_writeChn_TE (by decide) (by decide), admits, ?_, ?_⟩
  · rw [descr]
    decide
  · unfold txHeader txData
    rw [descr]
    exact (by decide : Fits
      ((txDescrAt txProbeRam 0).headerBytes txProbeRam)
      ((txDescrAt txProbeRam 0).dataBytes txProbeRam))

/-- What the probe shows over its RAM: the selector of the next position. -/
theorem txd_overTxProbeRam
    (atReset : AtReset core)
    (admits : layout.Admits core.device.txdCur nbTxDescriptor) :
    ((core.overTxProbeRam.written .chn spwchnTE).txReleased layout).regs.txd =
      deposit 0 spwtxdTxDescSelect (core.txProbeNext layout <<< 4) := by
  have table : (core.overTxProbeRam.written .chn spwchnTE).regs.txd = 0 :=
    atReset.txd_eq
  have noWrap : checkbit (txDescrAt txProbeRam 0).ctrl spwtdw0WR = false := by
    decide
  have length : (txDescrAt txProbeRam 0).len = 5 := by decide
  have position : (core.overTxProbeRam.written .chn spwchnTE).txNext layout =
      core.txProbeNext layout := by
    unfold txNext
    rw [txFetched_txdCur _ (core.overTxProbeRam.written .chn spwchnTE) admits,
      txDescr_overTxProbeRam atReset, noWrap, length]
    rfl
  simp only [txReleased_regs, txRegs, table, position]

end TxProbe

/-- Let one packet to the default node address be stored and read back
SPWRXD. -/
def rxProbe : List Input :=
  [.write .chn (spwchnRE ||| spwchnRD), nodePacket, .read .rxd]

/-- The core over guest RAM full of enabled receive descriptors. -/
def overRxProbeRam (core : Core) : Core :=
  core.ambient (enabledRam 8 0 0x02) fun _ => 0

/-- The core with its receiver enabled over the probe's RAM. -/
def rxProbed (core : Core) : Core :=
  core.overRxProbeRam.written .chn (spwchnRE ||| spwchnRD)

theorem writeChn_RE_RD (regs : Regs) :
    (writeChn regs (spwchnRE ||| spwchnRD)).chn =
      setbit (deposit regs.chn (spwchnClearsetMask ||| spwchnNotresetMask)
        (spwchnRE ||| spwchnRD)) spwchnRD := rfl

theorem rxProbed_transmitterOff
    {core : Core}
    (atReset : AtReset core) :
    checkbit core.rxProbed.regs.chn spwchnTE = false := by
  have channel : core.rxProbed.regs.chn = _ :=
    writeChn_RE_RD core.overRxProbeRam.regs
  rw [channel, checkbit_setbit_of_disjoint (by decide),
    checkbit_deposit_of_disjoint (by decide)]
  exact atReset.transmitterOff

theorem rxProbed_available (core : Core) :
    checkbit core.rxProbed.regs.chn spwchnRD = true := by
  have channel : core.rxProbed.regs.chn = _ :=
    writeChn_RE_RD core.overRxProbeRam.regs
  rw [channel]
  exact checkbit_setbit_self _ _

theorem rxProbed_accepts
    {core : Core}
    (atReset : AtReset core) :
    rxAccepts core.rxProbed.regs (fun _ => 254) = true := by
  have channel : core.rxProbed.regs.chn = _ :=
    writeChn_RE_RD core.overRxProbeRam.regs
  have receiver : checkbit core.rxProbed.regs.chn spwchnRE = true := by
    rw [channel, checkbit_setbit_of_disjoint (by decide),
      checkbit_deposit_of_subset (by decide)]
    decide
  have node : core.rxProbed.regs.ndr = 254 := atReset.ndr_eq
  unfold rxAccepts
  rw [receiver, node]
  simp

/-- The receive probe comes down to its packet and the read. -/
theorem outcome_rxProbe_eq
    {core : Core}
    (atReset : AtReset core)
    (layout : Layout) :
    Machine.outcome (step layout) output core.overRxProbeRam
        (busCalls rxProbe) =
      Machine.outcome (step layout) output core.rxProbed
        [nodePacket, .read .rxd] := by
  have writes : step layout core.overRxProbeRam
      (.write .chn (spwchnRE ||| spwchnRD)) = .ok core.rxProbed :=
    write_eq _ .chn _
  have rests : step layout core.rxProbed .transmit = .ok core.rxProbed := by
    simp only [step, txenable_idle (rxProbed_transmitterOff atReset),
      Except.map]
  change Machine.outcome (step layout) output core.overRxProbeRam
    [.write .chn (spwchnRE ||| spwchnRD), .transmit, nodePacket,
      .read .rxd] = _
  unfold Machine.outcome
  rw [Machine.run_cons_of_ok writes, Machine.run_cons_of_ok rests]

/-- The probe stores a packet and reads the next selector. -/
theorem outcome_rxProbe
    {layout : Layout}
    {core : Core}
    (atReset : AtReset core)
    (admits : layout.Admits core.device.rxdCur nbRxDescriptor) :
    ∃ spwq log,
      Machine.outcome (step layout) output core.overRxProbeRam
          (busCalls rxProbe) =
        .ok (spwq, log ++
          [.regRead (deposit 0 spwrxdRxDescSelect
            (((core.device.rxdCur + 1) % nbRxDescriptor) <<< 3))]) := by
  have table : core.rxProbed.regs.rxd = 0 := atReset.rxd_eq
  have desc : core.rxProbed.rxDesc = rxDescAt (enabledRam 8 0 0x02) 0 := by
    unfold rxDesc
    rw [table]
    rfl
  have fetches : RxFetches layout core.rxProbed fun _ => 254 :=
    ⟨rxProbed_accepts atReset, rxProbed_available core, admits⟩
  have armed : checkbit core.rxProbed.rxDesc.ctrl spwtrw0EN = true := by
    rw [desc]
    decide
  have position : core.rxProbed.rxNext =
      (core.device.rxdCur + 1) % nbRxDescriptor := by
    unfold rxNext
    rw [desc]
    rfl
  have stores : step layout core.rxProbed nodePacket =
      .ok (core.rxProbed.rxStored (fun _ => 254) 1 ⟨0, 0, 0⟩) :=
    rxenable_stored fetches armed
  refine ⟨(core.rxProbed.rxStored (fun _ => 254) 1 ⟨0, 0, 0⟩).host.spwq,
    (core.rxProbed.rxStored (fun _ => 254) 1 ⟨0, 0, 0⟩).host.log, ?_⟩
  rw [outcome_rxProbe_eq atReset]
  unfold Machine.outcome
  rw [Machine.run_cons_of_ok stores, Machine.run_cons_of_ok rfl,
    Machine.run_nil]
  simp only [Except.map, output, read, readRegisters, Host.emit_log,
    Host.emit_spwq, rxStored_regs, rxRegs, table, position]

/-- Past the end of the scratch array the probe has no defined effect. -/
theorem outcome_rxProbe_outOfBounds
    {layout : Layout}
    {core : Core}
    (atReset : AtReset core)
    (outside : ¬layout.Admits core.device.rxdCur nbRxDescriptor) :
    Machine.outcome (step layout) output core.overRxProbeRam
        (busCalls rxProbe) =
      .error .outOfBounds := by
  have stops : step layout core.rxProbed nodePacket = .error .outOfBounds :=
    rxenable_outOfBounds (rxProbed_accepts atReset) (rxProbed_available core)
      outside
  rw [outcome_rxProbe_eq atReset]
  unfold Machine.outcome
  rw [Machine.run_cons_of_error stops]
  rfl

/-- A transmit position at 0 is told from every other one. -/
theorem txdCur_eq_zero_of_equivalent
    {layout : Layout}
    {core fresh : Core}
    (atReset : AtReset core)
    (freshAtReset : AtReset fresh)
    (fresh_eq : fresh.device.txdCur = 0)
    (within : layout = .disjoint → core.device.txdCur.toNat < 64)
    (equivalent : Equivalent layout core fresh) :
    core.device.txdCur = 0 := by
  have admitsFresh : layout.Admits fresh.device.txdCur nbTxDescriptor := by
    intro _
    rw [fresh_eq]
    decide
  have freshSends := txSends_overTxProbeRam freshAtReset admitsFresh
  have same := equivalent txProbeRam (fun _ => 0) txProbe (by decide)
  by_cases admits : layout.Admits core.device.txdCur nbTxDescriptor
  · have shown := txd_eq_of_txProbe (txSends_overTxProbeRam atReset admits)
      freshSends same
    have positions := congrArg BitVec.toNat shown
    have freshNext : (fresh.txProbeNext layout).toNat = 1 := by
      unfold txProbeNext
      rw [fresh_eq]
      simp [nbTxDescriptor]
    have next : (core.txProbeNext layout).toNat =
        ((if layout = .packed ∧ core.device.txdCur.toNat = 63 then 5
          else core.device.txdCur).toNat + 1) % 64 :=
      toNat_succ_umod_nbTxDescriptor _
    have bound : core.device.txdCur.toNat < 64 := by
      cases layout with
      | disjoint => exact within rfl
      | packed => exact admits rfl
    change ((core.overTxProbeRam.written .chn spwchnTE).txReleased
        layout).regs.txd.toNat =
      ((fresh.overTxProbeRam.written .chn spwchnTE).txReleased
        layout).regs.txd.toNat at positions
    rw [txd_overTxProbeRam atReset admits,
      txd_overTxProbeRam freshAtReset admitsFresh] at positions
    change (deposit 0 (fieldmask 6 <<< 4) _).toNat =
      (deposit 0 (fieldmask 6 <<< 4) _).toNat at positions
    rw [toNat_deposit_selector _ _ _ _ (by decide) (Nat.dvd_zero _),
      toNat_deposit_selector _ _ _ _ (by decide) (Nat.dvd_zero _),
      freshNext, next] at positions
    apply BitVec.eq_of_toNat_eq
    simp only [BitVec.ofNat_eq_ofNat, BitVec.toNat_ofNat] at positions ⊢
    split at positions
    · simp at positions
    · omega
  · obtain ⟨queue, log, freshSees⟩ := outcome_txProbe freshSends
    have coreSees := @outcome_txProbe_outOfBounds layout core.overTxProbeRam
      admits
    have conflict := coreSees.symm.trans (same.trans freshSees)
    cases conflict

/-- A receive position at 0 is told from every other one. -/
theorem rxdCur_eq_zero_of_equivalent
    {layout : Layout}
    {core fresh : Core}
    (atReset : AtReset core)
    (freshAtReset : AtReset fresh)
    (fresh_eq : fresh.device.rxdCur = 0)
    (within : layout = .disjoint → core.device.rxdCur.toNat < 128)
    (equivalent : Equivalent layout core fresh) :
    core.device.rxdCur = 0 := by
  have admitsFresh : layout.Admits fresh.device.rxdCur nbRxDescriptor := by
    intro _
    rw [fresh_eq]
    decide
  obtain ⟨freshQueue, freshLog, freshSees⟩ :=
    outcome_rxProbe freshAtReset admitsFresh
  have same : Machine.outcome (step layout) output core.overRxProbeRam
      (busCalls rxProbe) =
    Machine.outcome (step layout) output fresh.overRxProbeRam
      (busCalls rxProbe) :=
    equivalent (enabledRam 8 0 0x02) (fun _ => 0) rxProbe (by decide)
  rw [freshSees] at same
  by_cases admits : layout.Admits core.device.rxdCur nbRxDescriptor
  · obtain ⟨queue, log, coreSees⟩ := outcome_rxProbe atReset admits
    rw [coreSees] at same
    have logs := congrArg Prod.snd (Except.ok.inj same)
    have selectors := Effect.regRead.inj
      (List.cons.inj (List.append_inj' logs rfl).2).1
    have positions := congrArg BitVec.toNat selectors
    change (deposit 0 (fieldmask 7 <<< 3) _).toNat =
      (deposit 0 (fieldmask 7 <<< 3) _).toNat at positions
    rw [toNat_deposit_selector _ _ _ _ (by decide) (Nat.dvd_zero _),
      toNat_deposit_selector _ _ _ _ (by decide) (Nat.dvd_zero _),
      toNat_succ_umod_nbRxDescriptor, toNat_succ_umod_nbRxDescriptor,
      fresh_eq] at positions
    have bound : core.device.rxdCur.toNat < 128 := by
      cases layout with
      | disjoint => exact within rfl
      | packed => exact admits rfl
    apply BitVec.eq_of_toNat_eq
    simp only [BitVec.ofNat_eq_ofNat, BitVec.toNat_ofNat] at positions ⊢
    omega
  · rw [outcome_rxProbe_outOfBounds atReset admits] at same
    cases same

/-- After a reset by the guest the core is equivalent to a fresh one. -/
def ResetsToFresh (layout : Layout) (core : Core) : Prop :=
  ∃ after, core.apbgrspwWrite layout .ctr spwctrRS = .ok after ∧
    Equivalent layout after after.freshLike

theorem positions_eq_zero_of_resetsToFresh
    {layout : Layout}
    {core : Core}
    (transmitWithin : layout = .disjoint → core.device.txdCur.toNat < 64)
    (receiveWithin : layout = .disjoint → core.device.rxdCur.toNat < 128)
    (resets : core.ResetsToFresh layout) :
    core.device.txdCur = 0 ∧ core.device.rxdCur = 0 := by
  obtain ⟨after, returns, equivalent⟩ := resets
  rw [core.apbgrspwWrite_reset layout] at returns
  cases returns
  have transmit : core.afterReset.device.txdCur = 0 :=
    txdCur_eq_zero_of_equivalent (atReset_afterReset core)
      (atReset_freshLike core) rfl transmitWithin equivalent
  have receive : core.afterReset.device.rxdCur = 0 :=
    rxdCur_eq_zero_of_equivalent (atReset_afterReset core)
      (atReset_freshLike core) rfl receiveWithin equivalent
  exact ⟨transmit, receive⟩

end Core

/-- **Reset.**  A reachable core is reset to a fresh one exactly when both ring
positions are 0. -/
theorem resetsToFresh_iff
    (layout : Layout)
    (grspwId : GrspwId)
    (ram : Memory Uint8)
    (core : Core)
    (reachable : Machine.Reachable (step layout) (apbgrspwInit grspwId ram)
      core) :
    core.ResetsToFresh layout ↔
      core.device.txdCur = 0 ∧ core.device.rxdCur = 0 := by
  constructor
  · intro resets
    refine Core.positions_eq_zero_of_resetsToFresh ?_ ?_ resets
    · rintro rfl
      exact (Machine.reachable_invariant (fun _ _ _ => txPlaced_step)
        (txPlaced_apbgrspwInit grspwId ram) reachable).within
    · rintro rfl
      exact (Machine.reachable_invariant (fun _ _ _ => rxPlaced_step)
        (rxPlaced_apbgrspwInit grspwId ram) reachable).within
  · rintro ⟨transmit, receive⟩
    exact ⟨core.afterReset, core.apbgrspwWrite_reset layout,
      (Core.sameButScratch_freshLike transmit receive).equivalent layout⟩

theorem resetsToFresh_of_init :
    (apbgrspwInit 0 fun _ => 0).ResetsToFresh .packed :=
  (resetsToFresh_iff .packed 0 (fun _ => 0) (apbgrspwInit 0 fun _ => 0)
    (Machine.Reachable.refl _ _)).mpr ⟨rfl, rfl⟩

/-- The fresh core with its transmitter enabled over guest RAM full of armed
descriptors. -/
def firstPacket : Core :=
  (apbgrspwInit 0 (enabledRam 16 2 0x10)).written .chn spwchnTE

/-- One packet sent before the reset shows afterwards, without any change of
guest RAM: the descriptor at 16 then leaves the selector at 2, not at 1. -/
theorem not_resetsToFresh :
    ¬∀ (layout : Layout) (grspwId : GrspwId) (ram : Memory Uint8)
      (core : Core),
      Machine.Reachable (step layout) (apbgrspwInit grspwId ram) core →
        ∃ after, core.apbgrspwWrite layout .ctr spwctrRS = .ok after ∧
          Core.Indistinguishable layout after after.freshLike := by
  intro all
  have sends : TxSends .packed firstPacket :=
    ⟨by decide, by decide, by decide, by decide⟩
  have calls : step .packed firstPacket .transmit =
      .ok (firstPacket.txReleased .packed) := by
    simp only [step, sends.txenable_eq, Except.map]
  have writes : step .packed (apbgrspwInit 0 (enabledRam 16 2 0x10))
      (.write .chn spwchnTE) = .ok firstPacket :=
    Core.write_eq _ .chn spwchnTE
  have reachable := ((Machine.Reachable.refl (step .packed)
    (apbgrspwInit 0 (enabledRam 16 2 0x10))).step writes).step calls
  obtain ⟨after, resets, same⟩ := all .packed 0 _ _ reachable
  rw [Core.apbgrspwWrite_reset] at resets
  cases resets
  have probed := same (.write .txd 16 :: Core.txProbe) (by decide)
  rw [Core.outcome_txd_txProbe (Core.atReset_afterReset _),
    Core.outcome_txd_txProbe (Core.atReset_freshLike _)] at probed
  have shown := Core.txd_eq_of_txProbe
    ⟨by decide, by decide, by decide, by decide⟩
    ⟨by decide, by decide, by decide, by decide⟩ probed
  exact absurd shown (by decide)

end Grspw
