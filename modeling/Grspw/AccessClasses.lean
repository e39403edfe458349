import Grspw.Access

/-!
# Two documented access classes

The register map documents some bits as not reset, which a guest sets once and
only a reset clears, and some as read-only.  The write functions keep neither
promise: a write of SPWCHN with a zero clears its three not-reset bits, a reset
clears none, and SPWTIM and RX Active take the value written.
-/

namespace Grspw

/-! ## Not-reset bits -/

/-- The not-reset bits: Autostart of SPWCTR, and AHB Error, Receive and Transmit
Interrupt of SPWCHN. -/
inductive NotResetBit
  | AS | AI | RI | TI
  deriving DecidableEq

namespace NotResetBit

/-- The register a not-reset bit stands in. -/
def register : NotResetBit → RegOffset
  | .AS => .ctr
  | .AI | .RI | .TI => .chn

/-- The position of a not-reset bit. -/
def mask : NotResetBit → Uint32
  | .AS => spwctrAS
  | .AI => spwchnAI
  | .RI => spwchnRI
  | .TI => spwchnTI

/-- The bit as a read of its register shows it. -/
def read (bit : NotResetBit) (regs : Regs) : Bool :=
  checkbit (readRegisters regs bit.register) bit.mask

/-- A guest write carries a one at the bit. -/
def setBy (bit : NotResetBit) : Input → Bool
  | .write regOffset value => regOffset = bit.register && checkbit value bit.mask
  | _ => false

/-- A guest write carries a zero at the bit. -/
def zeroedBy (bit : NotResetBit) : Input → Bool
  | .write regOffset value =>
      regOffset = bit.register && !checkbit value bit.mask
  | _ => false

/-- A write of SPWCTR with Reset. -/
def resetBy : Input → Bool
  | .write .ctr value => checkbit value spwctrRS
  | _ => false

/-- A write of SPWCTR with only Reset. -/
def onlyResetBy : Input → Bool
  | .write .ctr value => value = spwctrRS
  | _ => false

/-- Whether the bit has to stay set after a call: a guest write has set it and
no reset has come since. -/
def due (bit : NotResetBit) (before : Bool) (input : Input) : Bool :=
  bit.setBy input || (before && !resetBy input)

/-- The documented behaviour, as a monitor of the calls and the level after each
call that returns: a bit that is due is set, and a write with only Reset leaves
it clear. -/
def documented (bit : NotResetBit) :
    Machine.Monitor (Input × Option Bool) Bool where
  next before seen := bit.due before seen.1
  ok before seen := ∀ level ∈ seen.2,
    (bit.due before seen.1 = true → level = true) ∧
      (onlyResetBy seen.1 = true → level = false)

/-- The calls under which the bit behaves so, as a monitor of the calls and the
level before each: no write of SPWCHN carries a zero at a bit that is due, and a
write with only Reset finds the bit clear. -/
def harmless (bit : NotResetBit) : Machine.Monitor (Input × Bool) Bool where
  next before seen := bit.due before seen.1
  ok before seen :=
    (bit.register = .chn → before = true → bit.zeroedBy seen.1 = false) ∧
      (onlyResetBy seen.1 = true → seen.2 = false)

instance (bit : NotResetBit) (before : Bool) (seen : Input × Option Bool) :
    Decidable (bit.documented.ok before seen) :=
  inferInstanceAs (Decidable (∀ level ∈ seen.2, _ ∧ _))

/-- The level after a call, if it returns. -/
def seenAfter
    (bit : NotResetBit)
    (layout : Layout)
    (core : Core)
    (input : Input) : Input × Option Bool :=
  (input, (step layout core input).toOption.map fun core => bit.read core.regs)

/-- The level before a call. -/
def seenBefore (bit : NotResetBit) (core : Core) (input : Input) : Input × Bool :=
  (input, bit.read core.regs)

/-- What a call makes of a not-reset bit: Autostart is only ever set, the bits
of SPWCHN take the value written. -/
def moved (bit : NotResetBit) (level : Bool) (input : Input) : Bool :=
  match bit with
  | .AS => level || bit.setBy input
  | _ => bit.setBy input || (level && !bit.zeroedBy input)

theorem read_writeChn
    (bit : NotResetBit)
    (inChannel : bit.register = .chn)
    (regs : Regs)
    (value : Uint32) :
    bit.read (writeChn regs value) = checkbit value bit.mask := by
  have takes : ∀ position, position = 2 ∨ position = 3 ∨ position = 4 →
      checkbit (writeChn regs value).chn (1#32 <<< position) =
        checkbit value (1#32 <<< position) := by
    rintro position (rfl | rfl | rfl)
    all_goals
      rw [checkbit_writeChn _ _ (by decide), checkbit_bit _ (by decide)]
      rfl
  cases bit with
  | AS => cases inChannel
  | AI => exact takes 4 (Or.inr (Or.inr rfl))
  | RI => exact takes 3 (Or.inr (Or.inl rfl))
  | TI => exact takes 2 (Or.inl rfl)

/-- A write of SPWCTR moves Autostart alone, and only to one. -/
theorem read_ctrWritten
    (bit : NotResetBit)
    (grspwId : GrspwId)
    (regs : Regs)
    (value : Uint32) :
    bit.read (ctrWritten grspwId regs value) =
      match bit with
      | .AS => bit.read regs || checkbit value spwctrAS
      | _ => bit.read regs := by
  have kept : ∀ mask, spwchnNotresetMask &&& mask = mask →
      checkbit (ctrWritten grspwId regs value).chn mask =
        checkbit regs.chn mask := by
    intro mask inside
    rw [ctrWritten_chn]
    split
    · apply checkbit_congr
      rw [BitVec.and_assoc, inside]
    · rfl
  cases bit with
  | AS => exact checkbit_ctrWritten_AS grspwId regs value
  | AI => exact kept _ (by decide)
  | RI => exact kept _ (by decide)
  | TI => exact kept _ (by decide)

/-- A register write moves a not-reset bit as told. -/
theorem read_written
    (bit : NotResetBit)
    (core : Core)
    (regOffset : RegOffset)
    (value : Uint32) :
    bit.read (core.written regOffset value).regs =
      bit.moved (bit.read core.regs) (.write regOffset value) := by
  have stored : (core.written regOffset value).regs =
    regsWritten core.device.grspwId core.regs regOffset value := rfl
  rw [stored]
  cases regOffset with
  | ctr =>
      rw [regsWritten, read_ctrWritten]
      cases bit <;> simp [moved, setBy, zeroedBy, register, mask]
  | chn =>
      cases bit with
      | AS => simp [moved, setBy, register, read, regsWritten, readRegisters,
          writeChn]
      | AI =>
          rw [regsWritten, read_writeChn AI rfl]
          simp [moved, setBy, zeroedBy, register]
      | RI =>
          rw [regsWritten, read_writeChn RI rfl]
          simp [moved, setBy, zeroedBy, register]
      | TI =>
          rw [regsWritten, read_writeChn TI rfl]
          simp [moved, setBy, zeroedBy, register]
  | _ =>
      cases bit <;>
        simp [moved, setBy, zeroedBy, register, read, regsWritten,
          readRegisters, writeStr]

/-- A call other than a register write leaves a not-reset bit alone. -/
theorem moved_of_not_write
    (bit : NotResetBit)
    (level : Bool)
    {input : Input}
    (notWrite : ∀ regOffset value, input ≠ .write regOffset value) :
    bit.moved level input = level := by
  cases input with
  | write regOffset value => exact absurd rfl (notWrite regOffset value)
  | _ => cases bit <;> simp [moved, setBy, zeroedBy]

/-- Bits of SPWCHN that are not not-reset bits may change under a not-reset
bit. -/
theorem read_chn
    (bit : NotResetBit)
    {regs : Regs}
    {chn : Uint32}
    (same : ∀ mask, mask &&& spwchnNotresetMask = mask →
      checkbit chn mask = checkbit regs.chn mask)
    (str rxd txd tim : Uint32) :
    bit.read
        { regs with chn := chn, str := str, rxd := rxd, txd := txd, tim := tim } =
      bit.read regs := by
  cases bit with
  | AS => rfl
  | AI => exact same _ (by decide)
  | RI => exact same _ (by decide)
  | TI => exact same _ (by decide)

/-- Every step moves a not-reset bit as told. -/
theorem read_step
    {layout : Layout}
    {core after : Core}
    {input : Input}
    (bit : NotResetBit)
    (moves : step layout core input = .ok after) :
    bit.read after.regs = bit.moved (bit.read core.regs) input := by
  have outside : ∀ {other mask : Uint32},
      mask &&& spwchnNotresetMask = mask →
      spwchnNotresetMask &&& other = 0 → mask &&& other = 0 := by
    intro other mask inside apart
    rw [← inside, BitVec.and_assoc, apart]
    simp
  cases stepped_of_step moves with
  | written regOffset value => exact bit.read_written core regOffset value
  | polled polls =>
      rw [moved_of_not_write _ _ (by simp), Core.txPolled_regs]
      refine bit.read_chn ?_ core.regs.str core.regs.rxd core.regs.txd
        core.regs.tim
      intro mask inside
      exact checkbit_clearbit_of_disjoint (outside inside (by decide))
  | sent sends =>
      rw [moved_of_not_write _ _ (by simp), Core.txReleased_regs]
      refine bit.read_chn ?_ core.regs.str core.regs.rxd
        (core.txRegs layout).txd core.regs.tim
      intro mask inside
      exact checkbit_setbit_of_disjoint (outside inside (by decide))
  | refused data len att fetches unarmed =>
      rw [moved_of_not_write _ _ (by simp), Core.rxRefused_regs]
      refine bit.read_chn ?_ core.regs.str core.regs.rxd core.regs.txd
        core.regs.tim
      intro mask inside
      exact checkbit_clearbit_of_disjoint (outside inside (by decide))
  | stored data len att fetches armed =>
      rw [moved_of_not_write _ _ (by simp), Core.rxStored_regs]
      refine bit.read_chn ?_ (core.rxRegs att).str (core.rxRegs att).rxd
        core.regs.txd core.regs.tim
      intro mask inside
      exact checkbit_setbit_of_disjoint (outside inside (by decide))
  | ticked timecode newer =>
      rw [moved_of_not_write _ _ (by simp)]
      exact bit.read_chn (fun _ _ => rfl) (setbit core.regs.str spwstrTO)
        core.regs.rxd core.regs.txd (timecode.setWidth 32)
  | _ => exact (bit.moved_of_not_write _ (by simp)).symm

/-- A bit of SPWCHN is set by a one written and cleared by a zero. -/
theorem moved_of_channel
    {bit : NotResetBit}
    (inChannel : bit.register = .chn)
    (level : Bool)
    (input : Input) :
    bit.moved level input =
      (bit.setBy input || (level && !bit.zeroedBy input)) := by
  cases bit with
  | AS => cases inChannel
  | _ => rfl

/-- A bit that is not in SPWCHN is Autostart. -/
theorem eq_AS_of_register_ne
    {bit : NotResetBit}
    (elsewhere : bit.register ≠ .chn) :
    bit = .AS := by
  cases bit with
  | AS => rfl
  | _ => exact absurd rfl elsewhere

/-- A zero written at a bit of SPWCHN is neither a one nor a reset. -/
theorem silent_of_zeroedBy
    {bit : NotResetBit}
    {input : Input}
    (inChannel : bit.register = .chn)
    (zeroed : bit.zeroedBy input = true) :
    bit.setBy input = false ∧ resetBy input = false := by
  cases input with
  | write regOffset value =>
      simp only [zeroedBy, Bool.and_eq_true, decide_eq_true_eq,
        Bool.not_eq_true'] at zeroed
      refine ⟨by simp [setBy, zeroed.2], ?_⟩
      rw [zeroed.1, inChannel]
      rfl
  | _ => cases zeroed

/-- A write with only Reset writes neither a one nor a zero at the bit, Autostart
apart, which it writes with a zero. -/
theorem silent_of_onlyResetBy
    (bit : NotResetBit)
    {input : Input}
    (onlyReset : onlyResetBy input = true) :
    bit.setBy input = false ∧
      (bit.register = .chn → bit.zeroedBy input = false) := by
  cases input with
  | write regOffset value =>
      cases regOffset with
      | ctr =>
          have isReset : value = spwctrRS := by
            simpa [onlyResetBy] using onlyReset
          subst isReset
          cases bit <;> decide
      | _ => cases onlyReset
  | _ => cases onlyReset

/-- A due bit stays set exactly when no zero is written at it. -/
theorem due_moved_iff
    (bit : NotResetBit)
    {level owed : Bool}
    (input : Input)
    (kept : owed = true → level = true) :
    (bit.due owed input = true → bit.moved level input = true) ↔
      (bit.register = .chn → owed = true → bit.zeroedBy input = false) := by
  by_cases inChannel : bit.register = .chn
  · simp only [inChannel, true_implies, due, moved_of_channel inChannel]
    cases zeroed : bit.zeroedBy input with
    | false =>
        simp only [implies_true, iff_true, Bool.or_eq_true, Bool.and_eq_true]
        rintro (isSet | ⟨isOwed, _⟩)
        · exact Or.inl isSet
        · exact Or.inr ⟨kept isOwed, rfl⟩
    | true =>
        obtain ⟨notSet, noReset⟩ := silent_of_zeroedBy inChannel zeroed
        simp [notSet, noReset]
  · simp only [inChannel, false_implies, iff_true]
    have isAutostart := eq_AS_of_register_ne inChannel
    subst isAutostart
    simp only [due, moved, Bool.or_eq_true, Bool.and_eq_true]
    rintro (isSet | ⟨isOwed, _⟩)
    · exact Or.inr isSet
    · exact Or.inl (kept isOwed)

/-- A write with only Reset leaves every not-reset bit as it is. -/
theorem moved_of_onlyResetBy
    (bit : NotResetBit)
    (level : Bool)
    {input : Input}
    (onlyReset : onlyResetBy input = true) :
    bit.moved level input = level := by
  obtain ⟨notSet, notZeroed⟩ := bit.silent_of_onlyResetBy onlyReset
  by_cases inChannel : bit.register = .chn
  · rw [moved_of_channel inChannel, notSet, notZeroed inChannel]
    simp
  · have isAutostart := eq_AS_of_register_ne inChannel
    subst isAutostart
    rw [moved, notSet, Bool.or_false]

/-- A call that returns leaves the bit at the level it moves it to. -/
theorem mem_seenAfter
    (bit : NotResetBit)
    {layout : Layout}
    {core : Core}
    {input : Input}
    {level : Bool}
    (shown : level ∈ (bit.seenAfter layout core input).2) :
    level = bit.moved (bit.read core.regs) input := by
  simp only [seenAfter, Option.mem_def, Option.map_eq_some_iff] at shown
  obtain ⟨after, returns, rfl⟩ := shown
  cases moves : step layout core input with
  | error fault => simp [moves, Except.toOption] at returns
  | ok next =>
      have same : next = after := by
        simpa [moves, Except.toOption] using returns
      rw [← same, bit.read_step moves]

/-- A register write shows its level, as it returns. -/
theorem mem_seenAfter_write
    (bit : NotResetBit)
    (layout : Layout)
    (core : Core)
    (regOffset : RegOffset)
    (value : Uint32) :
    bit.moved (bit.read core.regs) (.write regOffset value) ∈
      (bit.seenAfter layout core (.write regOffset value)).2 := by
  have moves : step layout core (.write regOffset value) =
    .ok (core.written regOffset value) := core.write_eq regOffset value
  simp only [seenAfter, moves, Except.toOption, Option.map_some]
  rw [bit.read_written]
  rfl

/-- In a state where a due bit is set, a call behaves as documented exactly when
it is harmless. -/
theorem documented_ok_iff
    (bit : NotResetBit)
    (layout : Layout)
    {core : Core}
    (input : Input)
    {owed : Bool}
    (kept : owed = true → bit.read core.regs = true) :
    bit.documented.ok owed (bit.seenAfter layout core input) ↔
      bit.harmless.ok owed (bit.seenBefore core input) := by
  constructor
  · intro behaves
    cases input with
    | write regOffset value =>
        obtain ⟨staysSet, isCleared⟩ := behaves _
          (bit.mem_seenAfter_write layout core regOffset value)
        refine ⟨(bit.due_moved_iff _ kept).mp staysSet, ?_⟩
        intro onlyReset
        have stays := bit.moved_of_onlyResetBy (bit.read core.regs) onlyReset
        exact stays.symm.trans (isCleared onlyReset)
    | _ =>
        -- only a register write can harm
        refine ⟨fun _ _ => rfl, fun onlyReset => ?_⟩
        cases onlyReset
  · rintro ⟨noZero, finds⟩ level shown
    rw [bit.mem_seenAfter shown]
    refine ⟨(bit.due_moved_iff input kept).mpr noZero, ?_⟩
    intro onlyReset
    have stays := bit.moved_of_onlyResetBy (bit.read core.regs) onlyReset
    exact stays.trans (finds onlyReset)

end NotResetBit

/-- **Not-reset bits.**  In every run from initialisation, each not-reset bit
behaves as documented if and only if no write of SPWCHN carries a zero at a bit
of it that is due, and every write with only Reset finds the bit clear. -/
theorem notReset_run_iff
    (bit : NotResetBit)
    (layout : Layout)
    (grspwId : GrspwId)
    (ram : Memory Uint8)
    (inputs : List Input) :
    bit.documented.Accepts false
        (Machine.observe (step layout) (bit.seenAfter layout)
          (apbgrspwInit grspwId ram) inputs) ↔
      bit.harmless.Accepts false
        (Machine.observe (step layout) bit.seenBefore
          (apbgrspwInit grspwId ram) inputs) := by
  refine Machine.accepts_iff_accepts
    (fun core owed => owed = true → bit.read core.regs = true) ?_ ?_ ?_ ?_ inputs
  · intro core input owed kept
    exact bit.documented_ok_iff layout input kept
  · intro core input owed
    rfl
  · intro core input after owed kept accepted moves
    have level : bit.read after.regs ∈
        (bit.seenAfter layout core input).2 := by
      simp [NotResetBit.seenAfter, moves, Except.toOption]
    exact (accepted _ level).1
  · intro owed
    cases owed

/-- A write of SPWCHN with zeroes clears AHB Error Interrupt. -/
theorem not_notReset_run :
    ¬∀ (bit : NotResetBit) (layout : Layout) (grspwId : GrspwId)
      (ram : Memory Uint8) (inputs : List Input),
      bit.documented.Accepts false
        (Machine.observe (step layout) (bit.seenAfter layout)
          (apbgrspwInit grspwId ram) inputs) := by
  intro all
  exact absurd
    (all .AI .disjoint 0 (fun _ => 0)
      [.write .chn spwchnAI, .write .chn 0])
    (by decide)

/-! ## Read-only bits -/

/-- The bits the register map documents as read-only. -/
def readOnlyMask : RegOffset → Uint32
  | .ctr => spwctrReadonlyMask
  | .str => spwstrLS
  | .tim => spwtimTimeCtrl ||| spwtimTimeCounter
  | .chn => spwchnRX
  | _ => 0

/-- Two calls that differ at most in read-only bits of a value written. -/
inductive SameButReadOnly : Input → Input → Prop
  | same (input : Input) : SameButReadOnly input input
  | written {regOffset : RegOffset} {value value' : Uint32}
      (agree : value &&& ~~~readOnlyMask regOffset =
        value' &&& ~~~readOnlyMask regOffset) :
      SameButReadOnly (.write regOffset value) (.write regOffset value')

/-- Two calls agree in the read-only bits that are stored all the same: all of
SPWTIM, and RX Active. -/
def AgreesWhereStored : Input × Input → Prop
  | (.write .tim value, .write .tim value') =>
      value &&& readOnlyMask .tim = value' &&& readOnlyMask .tim
  | (.write .chn value, .write .chn value') =>
      value &&& readOnlyMask .chn = value' &&& readOnlyMask .chn
  | _ => True

/-- What is seen of a call: the registers, the messages and the effects it
leaves, or its fault. -/
def Core.seen
    (layout : Layout)
    (core : Core)
    (input : Input) : Except Fault (Regs × List Message × List Effect) :=
  (step layout core input).map fun after => (after.regs, after.output)

/-- Words that agree under a mask agree under every part of it. -/
theorem and_eq_of_subset
    {left right whole part : Uint32}
    (agree : left &&& whole = right &&& whole)
    (subset : whole &&& part = part) :
    left &&& part = right &&& part := by
  rw [← subset, ← BitVec.and_assoc, agree, BitVec.and_assoc]

/-- Words that agree under a mask and outside it are equal. -/
theorem eq_of_and_eq
    {left right mask : Uint32}
    (inside : left &&& mask = right &&& mask)
    (outside : left &&& ~~~mask = right &&& ~~~mask) :
    left = right := by
  apply BitVec.eq_of_toNat_eq
  rw [← Word.toNat_and_add_toNat_and_not left mask,
    ← Word.toNat_and_add_toNat_and_not right mask, inside, outside]

/-- A write of SPWCTR ignores the read-only bits. -/
theorem written_ctr_congr
    {value value' : Uint32}
    (agree : value &&& ~~~readOnlyMask .ctr = value' &&& ~~~readOnlyMask .ctr)
    (core : Core) :
    core.written .ctr value = core.written .ctr value' := by
  have tested : ∀ mask, ~~~spwctrReadonlyMask &&& mask = mask →
      checkbit value mask = checkbit value' mask := fun mask subset =>
    checkbit_congr (and_eq_of_subset agree subset)
  have resets := tested spwctrRS (by decide)
  have ticks := tested spwctrTI (by decide)
  have starts := tested spwctrLS (by decide)
  have stops := tested spwctrLD (by decide)
  have stored : ctrStored core.regs value = ctrStored core.regs value' := by
    rw [ctrStored_eq, ctrStored_eq, and_eq_of_subset agree (by decide)]
  have ticked : ctrTicked core.device.grspwId core.regs value =
      ctrTicked core.device.grspwId core.regs value' := by
    simp only [ctrTicked, ctrReset, resets, ticks, stored]
  simp only [Core.written, regsWritten, hostWritten, ctrWritten, ctrHost,
    linkStart, linkDisable, ticks, starts, stops, ticked]

/-- A write of SPWSTR ignores the link state. -/
theorem written_str_congr
    {value value' : Uint32}
    (agree : value &&& ~~~readOnlyMask .str = value' &&& ~~~readOnlyMask .str)
    (core : Core) :
    core.written .str value = core.written .str value' := by
  have cleared : ∀ mask reg, ~~~spwstrLS &&& mask = mask →
      clearOnOne value mask reg = clearOnOne value' mask reg := by
    intro mask reg subset
    unfold clearOnOne
    rw [checkbit_congr (and_eq_of_subset agree subset)]
  have same : writeStr core.regs value = writeStr core.regs value' := by
    simp only [writeStr]
    rw [cleared spwstrEE _ (by decide), cleared spwstrIA _ (by decide),
      cleared spwstrWE _ (by decide), cleared spwstrPE _ (by decide),
      cleared spwstrDE _ (by decide), cleared spwstrER _ (by decide),
      cleared spwstrCE _ (by decide), cleared spwstrTO _ (by decide)]
  simp only [Core.written, regsWritten, hostWritten, same]

/-- Calls that differ in read-only bits alone, and not in stored ones, do the
same. -/
theorem step_eq_of_agreesWhereStored
    {left right : Input}
    (rewritten : SameButReadOnly left right)
    (agrees : AgreesWhereStored (left, right))
    (layout : Layout)
    (core : Core) :
    step layout core left = step layout core right := by
  cases rewritten with
  | same => rfl
  | @written regOffset value value' agree =>
      have writes : ∀ value, step layout core (.write regOffset value) =
        .ok (core.written regOffset value) := core.write_eq regOffset
      rw [writes, writes]
      cases regOffset with
      | ctr => rw [written_ctr_congr agree]
      | str => rw [written_str_congr agree]
      | tim => rw [eq_of_and_eq agrees agree]
      | chn => rw [eq_of_and_eq agrees agree]
      | _ => rw [@eq_of_and_eq _ _ 0 (by simp) agree]

/-- Calls that differ in stored read-only bits leave different registers. -/
theorem agreesWhereStored_of_seen_eq
    {left right : Input}
    {layout : Layout}
    {core : Core}
    (rewritten : SameButReadOnly left right)
    (same : core.seen layout left = core.seen layout right) :
    AgreesWhereStored (left, right) := by
  cases rewritten with
  | same input =>
      unfold AgreesWhereStored
      split
      · rename_i equal
        cases equal
        rfl
      · rename_i equal
        cases equal
        rfl
      · trivial
  | @written regOffset value value' agree =>
      have views : ∀ value, core.seen layout (.write regOffset value) =
          .ok ((core.written regOffset value).regs,
            (core.written regOffset value).output) := by
        intro value
        have moves : step layout core (.write regOffset value) =
          .ok (core.written regOffset value) := core.write_eq regOffset value
        rw [Core.seen, moves]
        rfl
      rw [views, views] at same
      have regs : (core.written regOffset value).regs =
          (core.written regOffset value').regs :=
        congrArg Prod.fst (Except.ok.inj same)
      cases regOffset with
      | tim => exact congrArg Regs.tim regs
      | chn =>
          have channel : ∀ value, (core.written .chn value).regs.chn =
            (writeChn core.regs value).chn := fun _ => rfl
          have active : ∀ value : Uint32, value &&& readOnlyMask .chn =
              if (writeChn core.regs value).chn.getLsbD 10 then spwchnRX
              else 0 := by
            intro value
            rw [getLsbD_writeChn _ _ (by decide), readOnlyMask, spwchnRX,
              ← BitVec.twoPow_eq, BitVec.and_twoPow]
            rfl
          change value &&& readOnlyMask .chn = value' &&& readOnlyMask .chn
          rw [active, active, ← channel, ← channel, regs]
      | _ => trivial

/-- **Read-only bits.**  Two runs whose calls differ only in read-only bits of
the values written show the same registers, messages and register reads after
every call if and only if, in the calls executed, the bits of SPWTIM and RX
Active agree. -/
theorem readOnly_run_iff
    (layout : Layout)
    (core : Core)
    (pairs : List (Input × Input))
    (rewritten : ∀ pair ∈ pairs, SameButReadOnly pair.1 pair.2) :
    Machine.observe (step layout) (Core.seen layout) core
          (pairs.map Prod.fst) =
        Machine.observe (step layout) (Core.seen layout) core
          (pairs.map Prod.snd) ↔
      Machine.Guarded (fun core pair => step layout core pair.1)
        (fun _ pair => AgreesWhereStored pair) core pairs := by
  induction pairs generalizing core with
  | nil => exact iff_of_true rfl trivial
  | cons pair pairs inductionHypothesis =>
      have head := rewritten pair List.mem_cons_self
      have tail : ∀ other ∈ pairs, SameButReadOnly other.1 other.2 :=
        fun other member => rewritten other (List.mem_cons_of_mem _ member)
      simp only [List.map_cons, Machine.observe]
      constructor
      · intro same
        obtain ⟨sameSeen, sameRest⟩ := List.cons.inj same
        have agrees := agreesWhereStored_of_seen_eq head sameSeen
        refine ⟨agrees, ?_⟩
        intro next moves
        rw [← step_eq_of_agreesWhereStored head agrees] at sameRest
        simp only [moves] at sameRest
        exact (inductionHypothesis next tail).mp sameRest
      · rintro ⟨agrees, guarded⟩
        have sameStep := step_eq_of_agreesWhereStored head agrees layout core
        have sameSeen : core.seen layout pair.1 = core.seen layout pair.2 := by
          unfold Core.seen
          rw [sameStep]
        rw [sameSeen, ← sameStep]
        cases moves : step layout core pair.1 with
        | error fault => rfl
        | ok next =>
            exact congrArg _ ((inductionHypothesis next tail).mpr
              (guarded next moves))

/-- The three RMAP bits and the link state can be written as one likes. -/
theorem readOnly_run_rmap_bits :
    Machine.observe (step .packed) (Core.seen .packed)
        (apbgrspwInit 2 fun _ => 0)
        [.write .ctr 0xE0000002, .write .str spwstrLSRUN, .read .ctr] =
      Machine.observe (step .packed) (Core.seen .packed)
        (apbgrspwInit 2 fun _ => 0)
        [.write .ctr 0x2, .write .str 0, .read .ctr] := by
  have rewritten : ∀ pair ∈ [(Input.write .ctr 0xE0000002, Input.write .ctr 0x2),
      (Input.write .str spwstrLSRUN, Input.write .str 0),
      (Input.read .ctr, Input.read .ctr)],
      SameButReadOnly pair.1 pair.2 := by
    simp only [List.forall_mem_cons]
    exact ⟨.written (by decide), .written (by decide), .same _, by simp⟩
  refine (readOnly_run_iff .packed _ _ rewritten).mpr ?_
  exact ⟨trivial, fun _ _ => ⟨trivial, fun _ _ => ⟨trivial, fun _ _ => trivial⟩⟩⟩

/-- Writing 5 instead of 0 to SPWTIM shows. -/
theorem not_readOnly_run :
    ¬∀ (layout : Layout) (core : Core) (pairs : List (Input × Input)),
      (∀ pair ∈ pairs, SameButReadOnly pair.1 pair.2) →
      Machine.observe (step layout) (Core.seen layout) core
          (pairs.map Prod.fst) =
        Machine.observe (step layout) (Core.seen layout) core
          (pairs.map Prod.snd) := by
  intro all
  have same := all .disjoint (apbgrspwInit 0 fun _ => 0)
    [(.write .tim 0, .write .tim 5)] (by
      simp only [List.forall_mem_cons]
      exact ⟨.written (by decide), by simp⟩)
  have agrees : AgreesWhereStored (.write .tim 0, .write .tim 5) :=
    agreesWhereStored_of_seen_eq (.written (by decide)) (List.cons.inj same).1
  exact absurd agrees (by
    change ¬(0 : Uint32) &&& readOnlyMask .tim = 5 &&& readOnlyMask .tim
    decide)

end Grspw
