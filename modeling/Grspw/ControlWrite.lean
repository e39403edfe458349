import Grspw.Invariants

/-!
# What a write of SPWCTR promises and does

The access law the register header gives for SPWCTR: clear-set bits take the
written value, read-only and reserved bits stay, self-clearing bits read 0, and
only the actions asked for reach other registers.  The write function merges the
old register in twice, so it keeps the law exactly where no clear-set bit would
have to be cleared.
-/

namespace Grspw

/-- A write of SPWCTR without a reset respects the access classes of its
bits. -/
structure CtrLaw (before after : Regs) (value : Uint32) : Prop where
  clearset : after.ctr &&& spwctrClearsetMask = value &&& spwctrClearsetMask
  readonly : after.ctr &&& spwctrReadonlyMask = before.ctr &&& spwctrReadonlyMask
  reserved : after.ctr &&& spwctrReservedMask = before.ctr &&& spwctrReservedMask
  resetClear : checkbit after.ctr spwctrRS = false
  tickClear : checkbit after.ctr spwctrTI = false
  others : after =
    { before with ctr := after.ctr, str := after.str, tim := after.tim }
  tim : checkbit value spwctrTI = false → after.tim = before.tim
  linkState : after.str &&& ~~~spwstrLS = before.str &&& ~~~spwstrLS
  str : checkbit value spwctrLS = false → checkbit value spwctrLD = false →
    after.str = before.str

section Writes

variable (grspwId : GrspwId) {regs : Regs} {value : Uint32}
  (noReset : checkbit value spwctrRS = false)

include noReset

/-- The actions of a write leave the clear-set bits as they were stored. -/
theorem ctrWritten_and_clearset :
    (ctrWritten grspwId regs value).ctr &&& spwctrClearsetMask =
      ctrStored regs value &&& spwctrClearsetMask := by
  have cleared : ∀ reg : Uint32,
      clearbit reg spwctrTI &&& spwctrClearsetMask = reg &&& spwctrClearsetMask ∧
      clearbit reg spwctrLD &&& spwctrClearsetMask = reg &&& spwctrClearsetMask ∧
      clearbit reg spwctrLS &&& spwctrClearsetMask = reg &&& spwctrClearsetMask :=
    fun reg => ⟨Word.and_not_and_of_disjoint (by decide),
      Word.and_not_and_of_disjoint (by decide),
      Word.and_not_and_of_disjoint (by decide)⟩
  rw [ctrWritten_ctr, noReset]
  simp only [Bool.false_eq_true, if_false, clearOnOne]
  rw [apply_ite (· &&& spwctrClearsetMask), (cleared _).2.2, ite_self,
    apply_ite (· &&& spwctrClearsetMask), (cleared _).2.1, ite_self,
    apply_ite (· &&& spwctrClearsetMask), (cleared _).1, ite_self]

/-- A clear-set bit takes the written value unless it is set already. -/
theorem ctrWritten_clearset_iff :
    (ctrWritten grspwId regs value).ctr &&& spwctrClearsetMask =
        value &&& spwctrClearsetMask ↔
      regs.ctr &&& spwctrClearsetMask &&& ~~~value = 0 := by
  have inside : spwctrWritable &&& spwctrClearsetMask = spwctrClearsetMask := by
    decide
  have stored : ctrStored regs value &&& spwctrClearsetMask =
      (regs.ctr ||| value) &&& spwctrClearsetMask := by
    rw [ctrStored_eq, BitVec.and_or_distrib_right, BitVec.and_assoc, inside,
      ← BitVec.and_or_distrib_right]
  rw [ctrWritten_and_clearset grspwId noReset, stored]
  exact Word.or_and_eq_and_iff

/-- Outside the clear-set bits the law always holds. -/
theorem ctrLaw_of_clearset
    (formed : RegsFormed grspwId regs)
    (clearset : (ctrWritten grspwId regs value).ctr &&& spwctrClearsetMask =
      value &&& spwctrClearsetMask) :
    CtrLaw regs (ctrWritten grspwId regs value) value where
  clearset := clearset
  readonly := by
    rw [ctrWritten_ctr_and _ _ _ (by decide), noReset]
    exact if_neg (by decide)
  reserved := by
    rw [ctrWritten_ctr_and _ _ _ (by decide), noReset]
    exact if_neg (by decide)
  resetClear := checkbit_ctrWritten_RS _ _ _ formed.ctr.resetClear
  tickClear := checkbit_ctrWritten_TI _ _ _ formed.ctr.tickClear
  others := by
    have others := ctrWritten_eq grspwId regs value
    rwa [noReset, if_neg (by decide)] at others
  tim := by
    intro noTick
    rw [ctrWritten_tim, noReset, noTick]
    rfl
  linkState := by
    have deposited : ∀ str state : Uint32,
        deposit str spwstrLS state &&& ~~~spwstrLS = str &&& ~~~spwstrLS := by
      intro str state
      have outside : ~~~spwstrLS &&& (state &&& spwstrLS) = 0 := by
        have apart := Word.and_and_and_not state (~~~spwstrLS) spwstrLS
        rwa [BitVec.and_self, BitVec.and_comm] at apart
      rw [deposit, Word.or_and_of_disjoint outside, BitVec.and_assoc,
        BitVec.and_self]
    rw [ctrWritten_str, noReset]
    simp only [Bool.false_eq_true, if_false]
    rw [apply_ite (· &&& ~~~spwstrLS), deposited, ite_self,
      apply_ite (· &&& ~~~spwstrLS), deposited, ite_self]
  str := by
    intro noStart noDisable
    rw [ctrWritten_str, noReset, noStart, noDisable]
    rfl

end Writes

/-- **Write semantics of SPWCTR.**  In every reachable state, a write without a
reset keeps the access law of SPWCTR exactly when every clear-set bit set in the
register is written with a one. -/
theorem ctrLaw_iff
    (layout : Layout)
    (grspwId : GrspwId)
    (ram : Memory Uint8)
    (core : Core)
    (reachable : Machine.Reachable (step layout)
      (apbgrspwInit grspwId ram) core)
    (value : Uint32)
    (noReset : checkbit value spwctrRS = false) :
    (∃ regs host,
      writeCtr grspwId core.regs core.host value = .ok (regs, host) ∧
        CtrLaw core.regs regs value) ↔
      core.regs.ctr &&& spwctrClearsetMask &&& ~~~value = 0 := by
  have formed := (regsFormed_of_reachable reachable).2
  rw [← ctrWritten_clearset_iff grspwId noReset]
  constructor
  · rintro ⟨regs, host, writes, law⟩
    rw [writeCtr_eq] at writes
    cases writes
    exact law.clearset
  · intro clearset
    exact ⟨_, _, writeCtr_eq _ _ _ _,
      ctrLaw_of_clearset grspwId noReset formed clearset⟩

/-- A fresh core takes a write that leaves RMAP enabled. -/
theorem ctrLaw_of_enable :
    ∃ regs host,
      writeCtr 0 (initDevice 0).grspwReg
          ⟨fun _ => 0, fun _ => 0, [], []⟩ 0x00010020 = .ok (regs, host) ∧
        CtrLaw (initDevice 0).grspwReg regs 0x00010020 :=
  (ctrLaw_iff .packed 0 (fun _ => 0) _ (Machine.Reachable.refl _ _) 0x00010020
    (by decide)).mpr (by decide)

/-- On a fresh core, writing 0 does not clear RMAP Enable. -/
theorem not_ctrLaw_of_clear :
    ¬∀ (layout : Layout) (grspwId : GrspwId) (ram : Memory Uint8) (core : Core),
      Machine.Reachable (step layout) (apbgrspwInit grspwId ram) core →
      ∀ value, checkbit value spwctrRS = false →
        ∃ regs host,
          writeCtr grspwId core.regs core.host value = .ok (regs, host) ∧
            CtrLaw core.regs regs value := by
  intro law
  obtain ⟨regs, host, writes, holds⟩ :=
    law .packed 0 (fun _ => 0) _ (Machine.Reachable.refl _ _) 0 (by decide)
  rw [writeCtr_eq] at writes
  cases writes
  exact absurd holds.clearset (by decide)

end Grspw
