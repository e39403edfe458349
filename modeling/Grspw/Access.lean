import Mathlib.Tactic.IntervalCases
import Grspw.Bus

/-!
# What a register write makes of each bit

The access law of SPWCTR, SPWSTR and SPWCHN, bit by bit, read off the masks of
the write functions and of the reset nested in a SPWCTR write.  Every property
of whole runs of register writes rests on these laws and on nothing else of the
write functions.
-/

namespace Grspw

/-! ## Single bits of a write -/

/-- Clearing on a written one leaves the other bits alone. -/
theorem getLsbD_clearOnOne
    (value reg : Uint32)
    {bit : Nat}
    (within : bit < 32)
    (i : Nat) :
    (clearOnOne value (1#32 <<< bit) reg).getLsbD i =
      (reg.getLsbD i && !(decide (i = bit) && value.getLsbD bit)) := by
  unfold clearOnOne
  rw [checkbit_bit value within, ← BitVec.twoPow_eq]
  cases written : value.getLsbD bit with
  | false => simp
  | true =>
      simp only [if_true, clearbit, BitVec.getLsbD_and, BitVec.getLsbD_not,
        BitVec.getLsbD_twoPow, Bool.and_true]
      by_cases inside : i < 32
      · by_cases same : i = bit
        · simp [same, within]
        · simp [inside, same, Ne.symm same]
      · simp [BitVec.getLsbD_of_ge reg i (by omega)]

/-- What a write of SPWCHN makes of one bit. -/
def chnBit (chn value : Uint32) (bit : Nat) : Bool :=
  match bit with
  -- Transmitter Enable: set by a one unless Abort TX comes with it
  | 0 => (chn.getLsbD 0 || value.getLsbD 0) && !value.getLsbD 9
  -- clear-set and not-reset bits take the written value
  | 1 | 2 | 3 | 4 | 10 | 12 | 16 => value.getLsbD bit
  -- Packet Sent to Abort RX AHB Error, and Abort TX: cleared by a one
  | 5 | 6 | 7 | 8 | 9 => chn.getLsbD bit && !value.getLsbD bit
  -- RX Descriptors Available: set by a one
  | 11 => chn.getLsbD 11 || value.getLsbD 11
  | _ => chn.getLsbD bit

/-- The access law of SPWCHN. -/
theorem getLsbD_writeChn
    (regs : Regs)
    (value : Uint32)
    {bit : Nat}
    (within : bit < 32) :
    (writeChn regs value).chn.getLsbD bit = chnBit regs.chn value bit := by
  have aborts : checkbit value spwchnAT = value.getLsbD 9 :=
    checkbit_bit value (by decide)
  have cleared : ∀ reg : Uint32,
      (clearOnOne value spwchnPS (clearOnOne value spwchnPR
        (clearOnOne value spwchnTA (clearOnOne value spwchnRA reg)))).getLsbD
          bit =
      (reg.getLsbD bit &&
        !(decide (bit = 8) && value.getLsbD 8) &&
        !(decide (bit = 7) && value.getLsbD 7) &&
        !(decide (bit = 6) && value.getLsbD 6) &&
        !(decide (bit = 5) && value.getLsbD 5)) := by
    intro reg
    rw [spwchnPS, getLsbD_clearOnOne _ _ (by decide), spwchnPR,
      getLsbD_clearOnOne _ _ (by decide), spwchnTA,
      getLsbD_clearOnOne _ _ (by decide), spwchnRA,
      getLsbD_clearOnOne _ _ (by decide)]
  unfold writeChn
  simp only [cleared, aborts]
  simp only [apply_ite (fun reg : Uint32 => reg.getLsbD bit), deposit, setbit,
    clearbit, spwchnClearsetMask, spwchnNotresetMask, spwchnSelfclearMask,
    spwchnTE, spwchnAT, BitVec.getLsbD_or, BitVec.getLsbD_and,
    BitVec.getLsbD_not]
  cases aborted : value.getLsbD 9 with
  | false =>
      have kept : value[9] = false := aborted
      interval_cases bit <;> simp [chnBit, kept]
  | true =>
      have stopped : value[9] = true := aborted
      interval_cases bit <;> simp [chnBit, stopped]

theorem checkbit_writeChn
    (regs : Regs)
    (value : Uint32)
    {bit : Nat}
    (within : bit < 32) :
    checkbit (writeChn regs value).chn (1#32 <<< bit) =
      chnBit regs.chn value bit := by
  rw [checkbit_bit _ within, getLsbD_writeChn regs value within]

/-- A write of SPWCHN leaves its reserved bits alone. -/
theorem writeChn_reserved (regs : Regs) (value : Uint32) :
    (writeChn regs value).chn &&& spwchnReservedMask =
      regs.chn &&& spwchnReservedMask := by
  apply BitVec.eq_of_getLsbD_eq
  intro bit within
  rw [BitVec.getLsbD_and, BitVec.getLsbD_and, getLsbD_writeChn regs value within]
  interval_cases bit <;> simp [chnBit, spwchnReservedMask]

/-! ## SPWSTR -/

/-- What a write of SPWSTR makes of one bit: all error bits and Tick Out are
cleared by a one. -/
def strBit (str value : Uint32) (bit : Nat) : Bool :=
  match bit with
  | 0 | 1 | 2 | 3 | 4 | 6 | 7 | 8 =>
      str.getLsbD bit && !value.getLsbD bit
  | _ => str.getLsbD bit

/-- The access law of SPWSTR. -/
theorem getLsbD_writeStr
    (regs : Regs)
    (value : Uint32)
    {bit : Nat}
    (within : bit < 32) :
    (writeStr regs value).str.getLsbD bit = strBit regs.str value bit := by
  unfold writeStr
  simp only
  rw [spwstrTO, getLsbD_clearOnOne _ _ (by decide), spwstrCE,
    getLsbD_clearOnOne _ _ (by decide), spwstrER,
    getLsbD_clearOnOne _ _ (by decide), spwstrDE,
    getLsbD_clearOnOne _ _ (by decide), spwstrPE,
    getLsbD_clearOnOne _ _ (by decide), spwstrWE,
    getLsbD_clearOnOne _ _ (by decide), spwstrIA,
    getLsbD_clearOnOne _ _ (by decide), spwstrEE,
    getLsbD_clearOnOne _ _ (by decide)]
  interval_cases bit <;> simp [strBit]

theorem checkbit_writeStr
    (regs : Regs)
    (value : Uint32)
    {bit : Nat}
    (within : bit < 32) :
    checkbit (writeStr regs value).str (1#32 <<< bit) =
      strBit regs.str value bit := by
  rw [checkbit_bit _ within, getLsbD_writeStr regs value within]

/-- A write of SPWSTR only clears bits. -/
theorem writeStr_and_eq_zero
    {regs : Regs}
    {mask : Uint32}
    (clear : regs.str &&& mask = 0)
    (value : Uint32) :
    (writeStr regs value).str &&& mask = 0 := by
  apply BitVec.eq_of_getLsbD_eq
  intro bit within
  have before := congrArg (fun word => word.getLsbD bit) clear
  simp only [BitVec.getLsbD_and, BitVec.ofNat_eq_ofNat,
    BitVec.getLsbD_zero] at before
  have lowered : strBit regs.str value bit = true →
      regs.str.getLsbD bit = true := by
    unfold strBit
    split <;> simp +contextual
  rw [BitVec.getLsbD_and, getLsbD_writeStr regs value within]
  revert before lowered
  cases strBit regs.str value bit <;> cases regs.str.getLsbD bit <;>
    cases mask.getLsbD bit <;> simp

/-- A write of SPWSTR leaves the link state alone. -/
theorem writeStr_linkState (regs : Regs) (value : Uint32) :
    (writeStr regs value).str &&& spwstrLS = regs.str &&& spwstrLS := by
  have mask : spwstrLS = 0xE00000#32 := by decide
  rw [mask]
  apply BitVec.eq_of_getLsbD_eq
  intro bit within
  rw [BitVec.getLsbD_and, BitVec.getLsbD_and, getLsbD_writeStr regs value within]
  interval_cases bit <;> simp [strBit]

/-! ## SPWCTR -/

/-- The bits of SPWCTR a write can set. -/
def spwctrWritable : Uint32 :=
  (spwctrClearsetMask ||| spwctrNotresetMask) ||| spwctrSelfclearMask

/-- Storing to SPWCTR sets the bits written with a one and clears none: the
old register is merged in twice. -/
theorem ctrStored_eq (regs : Regs) (value : Uint32) :
    ctrStored regs value = regs.ctr ||| (value &&& spwctrWritable) := by
  unfold ctrStored deposit setbit spwctrWritable
  apply BitVec.eq_of_getLsbD_eq
  intro bit within
  simp only [BitVec.getLsbD_or, BitVec.getLsbD_and, BitVec.getLsbD_not, within,
    decide_true, Bool.true_and]
  cases regs.ctr.getLsbD bit <;> cases value.getLsbD bit <;>
    cases spwctrClearsetMask.getLsbD bit <;>
      cases spwctrNotresetMask.getLsbD bit <;>
        cases spwctrSelfclearMask.getLsbD bit <;> rfl

theorem checkbit_ctrStored
    (regs : Regs)
    (value : Uint32)
    {bit : Nat}
    (within : bit < 32)
    (writable : spwctrWritable.getLsbD bit = true) :
    checkbit (ctrStored regs value) (1#32 <<< bit) =
      (checkbit regs.ctr (1#32 <<< bit) ||
        checkbit value (1#32 <<< bit)) := by
  rw [checkbit_bit _ within, checkbit_bit _ within, checkbit_bit _ within,
    ctrStored_eq, BitVec.getLsbD_or, BitVec.getLsbD_and, writable,
    Bool.and_true]

section ControlWrite

variable (grspwId : GrspwId) (regs : Regs) (value : Uint32)

/-- Only SPWCTR, SPWSTR and SPWTIM tell a SPWCTR write from the reset it may
contain. -/
theorem ctrWritten_eq :
    ctrWritten grspwId regs value =
      { (if checkbit value spwctrRS then resetRegisters grspwId regs
          else regs) with
        ctr := (ctrWritten grspwId regs value).ctr
        str := (ctrWritten grspwId regs value).str
        tim := (ctrWritten grspwId regs value).tim } := by
  simp only [ctrWritten, linkDisable, linkStart, ctrTicked, ctrReset]
  cases checkbit value spwctrRS <;> cases checkbit value spwctrTI <;>
    cases checkbit value spwctrLS <;> cases checkbit value spwctrLD <;> rfl

/-- SPWCTR after a write: stored, reset if asked, then each action clears the
bit it owns. -/
theorem ctrWritten_ctr :
    (ctrWritten grspwId regs value).ctr =
      let reg :=
        if checkbit value spwctrRS then
          (resetRegisters grspwId
            { regs with ctr := ctrStored regs value }).ctr
        else ctrStored regs value
      let reg := clearOnOne value spwctrTI reg
      let reg := if checkbit value spwctrLS then clearbit reg spwctrLD else reg
      if checkbit value spwctrLD then clearbit reg spwctrLS else reg := by
  simp only [ctrWritten, linkDisable, linkStart, ctrTicked, ctrReset,
    clearOnOne]
  cases checkbit value spwctrRS <;> cases checkbit value spwctrTI <;>
    cases checkbit value spwctrLS <;> cases checkbit value spwctrLD <;> rfl

/-- SPWSTR after a SPWCTR write: only a reset and the two link actions move
it. -/
theorem ctrWritten_str :
    (ctrWritten grspwId regs value).str =
      let str := if checkbit value spwctrRS then 0 else regs.str
      let str :=
        if checkbit value spwctrLS then deposit str spwstrLS spwstrLSRUN
        else str
      if checkbit value spwctrLD then deposit str spwstrLS 0 else str := by
  simp only [ctrWritten, linkDisable, linkStart, ctrTicked, ctrReset]
  cases checkbit value spwctrRS <;> cases checkbit value spwctrTI <;>
    cases checkbit value spwctrLS <;> cases checkbit value spwctrLD <;> rfl

/-- SPWTIM after a SPWCTR write: only a reset and a tick move it. -/
theorem ctrWritten_tim :
    (ctrWritten grspwId regs value).tim =
      let tim := if checkbit value spwctrRS then 0 else regs.tim
      if checkbit value spwctrTI then
        deposit tim spwtimTimeCounter (tim + 1)
      else tim := by
  simp only [ctrWritten, linkDisable, linkStart, ctrTicked, ctrReset]
  cases checkbit value spwctrRS <;> cases checkbit value spwctrTI <;>
    cases checkbit value spwctrLS <;> cases checkbit value spwctrLD <;> rfl

/-- SPWCHN after a SPWCTR write: a reset keeps its not-reset bits. -/
theorem ctrWritten_chn :
    (ctrWritten grspwId regs value).chn =
      if checkbit value spwctrRS then regs.chn &&& spwchnNotresetMask
      else regs.chn := by
  rw [ctrWritten_eq]
  cases checkbit value spwctrRS with
  | true => simp [resetRegisters]
  | false => rfl

/-- A bit of SPWCHN that a reset does not keep is cleared by it and by nothing
else of a SPWCTR write. -/
theorem checkbit_ctrWritten_chn
    {mask : Uint32}
    (nonzero : mask ≠ 0)
    (notKept : spwchnNotresetMask &&& mask = 0) :
    checkbit (ctrWritten grspwId regs value).chn mask =
      (!checkbit value spwctrRS && checkbit regs.chn mask) := by
  rw [ctrWritten_chn]
  cases checkbit value spwctrRS with
  | true =>
      rw [if_pos rfl, checkbit, BitVec.and_assoc, notKept]
      simpa using nonzero
  | false => rfl

/-- A bit of SPWSTR outside the link state is cleared by a reset and by nothing
else of a SPWCTR write. -/
theorem checkbit_ctrWritten_str
    {mask : Uint32}
    (nonzero : mask ≠ 0)
    (notLink : mask &&& spwstrLS = 0) :
    checkbit (ctrWritten grspwId regs value).str mask =
      (!checkbit value spwctrRS && checkbit regs.str mask) := by
  rw [ctrWritten_str]
  simp only
  rw [apply_ite (checkbit · mask), checkbit_deposit_of_disjoint notLink,
    ite_self, apply_ite (checkbit · mask),
    checkbit_deposit_of_disjoint notLink, ite_self]
  cases checkbit value spwctrRS with
  | true => simpa [checkbit] using nonzero
  | false => rfl

/-- What a reset makes of a bit of SPWCTR other than Reset itself. -/
theorem checkbit_resetRegisters_ctr
    {mask : Uint32}
    (notReset : mask &&& spwctrRS = 0)
    (notPreset : mask &&& 0xA0010002 = 0)
    (kept : mask &&& spwctrNotresetMask = mask) :
    checkbit (resetRegisters grspwId regs).ctr mask =
      checkbit regs.ctr mask := by
  have notPreset' : mask &&& 0x00010002 = 0 := by
    have narrower : (0x00010002 : Uint32) = 0xA0010002 &&& 0x00010002 := by
      decide
    rw [narrower, ← BitVec.and_assoc, notPreset]
    simp
  have inside : checkbit (regs.ctr &&& spwctrNotresetMask) mask =
      checkbit regs.ctr mask := by
    apply checkbit_congr
    rw [BitVec.and_assoc, BitVec.and_comm spwctrNotresetMask, kept]
  simp only [resetRegisters]
  rw [checkbit_clearbit_of_disjoint notReset]
  split
  · rw [checkbit_congr (Word.or_and_of_disjoint notPreset'), inside]
  · rw [checkbit_congr (Word.or_and_of_disjoint notPreset), inside]

/-- Autostart is set by a one and never cleared, not even by a reset. -/
theorem checkbit_ctrWritten_AS :
    checkbit (ctrWritten grspwId regs value).ctr spwctrAS =
      (checkbit regs.ctr spwctrAS || checkbit value spwctrAS) := by
  have stored : checkbit (ctrStored regs value) spwctrAS =
      (checkbit regs.ctr spwctrAS || checkbit value spwctrAS) :=
    checkbit_ctrStored regs value (by decide) (by decide)
  rw [ctrWritten_ctr]
  simp only
  rw [apply_ite (checkbit · spwctrAS),
    checkbit_clearbit_of_disjoint (by decide), ite_self,
    apply_ite (checkbit · spwctrAS),
    checkbit_clearbit_of_disjoint (by decide), ite_self,
    checkbit_clearOnOne_of_disjoint (by decide),
    apply_ite (checkbit · spwctrAS),
    checkbit_resetRegisters_ctr _ _ (by decide) (by decide) (by decide),
    ite_self]
  exact stored

/-- Link Start: set by a one or a reset, cleared by Link Disable. -/
theorem checkbit_ctrWritten_LS :
    checkbit (ctrWritten grspwId regs value).ctr spwctrLS =
      ((checkbit value spwctrRS || checkbit regs.ctr spwctrLS ||
        checkbit value spwctrLS) && !checkbit value spwctrLD) := by
  have stored : checkbit (ctrStored regs value) spwctrLS =
      (checkbit regs.ctr spwctrLS || checkbit value spwctrLS) :=
    checkbit_ctrStored regs value (by decide) (by decide)
  have preset : checkbit (resetRegisters grspwId
      { regs with ctr := ctrStored regs value }).ctr spwctrLS = true := by
    simp only [resetRegisters]
    rw [checkbit_clearbit_of_disjoint (by decide), spwctrLS,
      checkbit_bit _ (by decide)]
    split <;> simp
  rw [ctrWritten_ctr]
  simp only
  cases checkbit value spwctrLD with
  | true =>
      rw [if_pos rfl, checkbit_clearbit_self (by decide)]
      simp
  | false =>
      rw [if_neg (by decide), apply_ite (checkbit · spwctrLS),
        checkbit_clearbit_of_disjoint (by decide), ite_self,
        checkbit_clearOnOne_of_disjoint (by decide)]
      cases checkbit value spwctrRS with
      | true => simp [preset]
      | false => simpa using stored

/-- Link Disable: set by a one, cleared by Link Start, kept by a reset. -/
theorem checkbit_ctrWritten_LD :
    checkbit (ctrWritten grspwId regs value).ctr spwctrLD =
      ((checkbit regs.ctr spwctrLD || checkbit value spwctrLD) &&
        !checkbit value spwctrLS) := by
  have stored : checkbit (ctrStored regs value) spwctrLD =
      (checkbit regs.ctr spwctrLD || checkbit value spwctrLD) :=
    checkbit_ctrStored regs value (by decide) (by decide)
  have kept : checkbit (resetRegisters grspwId
      { regs with ctr := ctrStored regs value }).ctr spwctrLD =
      checkbit (ctrStored regs value) spwctrLD :=
    checkbit_resetRegisters_ctr _ _ (by decide) (by decide) (by decide)
  rw [ctrWritten_ctr]
  simp only
  rw [apply_ite (checkbit · spwctrLD),
    checkbit_clearbit_of_disjoint (by decide), ite_self]
  cases checkbit value spwctrLS with
  | true =>
      rw [if_pos rfl, checkbit_clearbit_self (by decide)]
      simp
  | false =>
      rw [if_neg (by decide), checkbit_clearOnOne_of_disjoint (by decide),
        apply_ite (checkbit · spwctrLD), kept, ite_self]
      simpa using stored

/-- Reset is never left set. -/
theorem checkbit_ctrWritten_RS
    (clear : checkbit regs.ctr spwctrRS = false) :
    checkbit (ctrWritten grspwId regs value).ctr spwctrRS = false := by
  have stored : checkbit (ctrStored regs value) spwctrRS =
      (checkbit regs.ctr spwctrRS || checkbit value spwctrRS) :=
    checkbit_ctrStored regs value (by decide) (by decide)
  rw [ctrWritten_ctr]
  simp only
  rw [apply_ite (checkbit · spwctrRS),
    checkbit_clearbit_of_disjoint (by decide), ite_self,
    apply_ite (checkbit · spwctrRS),
    checkbit_clearbit_of_disjoint (by decide), ite_self,
    checkbit_clearOnOne_of_disjoint (by decide)]
  cases resets : checkbit value spwctrRS with
  | true =>
      rw [if_pos rfl]
      exact checkbit_clearbit_self (by decide)
  | false =>
      rw [if_neg (by decide), stored, clear, resets]
      rfl

/-- Tick In is never left set. -/
theorem checkbit_ctrWritten_TI
    (clear : checkbit regs.ctr spwctrTI = false) :
    checkbit (ctrWritten grspwId regs value).ctr spwctrTI = false := by
  have stored : checkbit (ctrStored regs value) spwctrTI =
      (checkbit regs.ctr spwctrTI || checkbit value spwctrTI) :=
    checkbit_ctrStored regs value (by decide) (by decide)
  have unset : checkbit (resetRegisters grspwId
      { regs with ctr := ctrStored regs value }).ctr spwctrTI = false := by
    simp only [resetRegisters]
    rw [checkbit_clearbit_of_disjoint (by decide), spwctrTI,
      checkbit_bit _ (by decide)]
    split <;> simp [spwctrNotresetMask]
  rw [ctrWritten_ctr]
  simp only
  rw [apply_ite (checkbit · spwctrTI),
    checkbit_clearbit_of_disjoint (by decide), ite_self,
    apply_ite (checkbit · spwctrTI),
    checkbit_clearbit_of_disjoint (by decide), ite_self]
  unfold clearOnOne
  cases ticks : checkbit value spwctrTI with
  | true =>
      rw [if_pos rfl]
      exact checkbit_clearbit_self (by decide)
  | false =>
      rw [if_neg (by decide), apply_ite (checkbit · spwctrTI), unset, stored,
        clear, ticks, Bool.or_self, ite_self]

/-- Bits of SPWCTR that no write can set take their default on a reset and
otherwise stay. -/
theorem ctrWritten_ctr_and
    {mask : Uint32}
    (unwritable : mask &&& spwctrWritable = 0) :
    (ctrWritten grspwId regs value).ctr &&& mask =
      if checkbit value spwctrRS then
        (if grspwId < 2 then 0x00010002 else 0xA0010002) &&& mask
      else regs.ctr &&& mask := by
  have outside : ∀ set : Uint32, set &&& spwctrWritable = set →
      mask &&& set = 0 := by
    intro set subset
    rw [← subset, BitVec.and_comm set, ← BitVec.and_assoc, unwritable]
    simp
  have cleared : ∀ reg set : Uint32, set &&& spwctrWritable = set →
      clearbit reg set &&& mask = reg &&& mask := fun reg set subset =>
    Word.and_not_and_of_disjoint (outside set subset)
  have stored : ctrStored regs value &&& mask = regs.ctr &&& mask := by
    rw [ctrStored_eq]
    apply Word.or_and_of_disjoint
    rw [BitVec.and_comm value, ← BitVec.and_assoc, unwritable]
    simp
  have preset : (resetRegisters grspwId
      { regs with ctr := ctrStored regs value }).ctr &&& mask =
      (if grspwId < 2 then 0x00010002 else 0xA0010002) &&& mask := by
    have dropped : mask &&& (ctrStored regs value &&& spwctrNotresetMask) =
        0 := by
      rw [BitVec.and_comm (ctrStored regs value), ← BitVec.and_assoc,
        outside _ (by decide)]
      simp
    simp only [resetRegisters]
    rw [cleared _ _ (by decide)]
    split
    · rw [BitVec.or_comm, Word.or_and_of_disjoint dropped]
    · rw [BitVec.or_comm, Word.or_and_of_disjoint dropped]
  rw [ctrWritten_ctr]
  simp only [clearOnOne]
  rw [apply_ite (· &&& mask), cleared _ _ (by decide), ite_self,
    apply_ite (· &&& mask), cleared _ _ (by decide), ite_self,
    apply_ite (· &&& mask), cleared _ _ (by decide), ite_self,
    apply_ite (· &&& mask), preset, stored]

end ControlWrite

end Grspw
