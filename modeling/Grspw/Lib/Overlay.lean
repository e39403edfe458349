import Mathlib.Data.Fintype.Defs
import Mathlib.Data.List.Nodup
import Grspw.Lib.Memory

/-!
# Memories with writes held back

Several parties may each hold back one write to a memory.  The overlay is the
memory as it will be once all of them are made.  Holding a write back is to the
overlay the same as making it, and making it later changes nothing.
-/

namespace Overlay

variable {ι β : Type*}

/-- The write each party holds back: the first cell and the values. -/
abbrev Held (ι β : Type*) := ι → Option (Nat × List β)

/-- The memory once the parties of a list have made their writes. -/
def apply (held : Held ι β) (memory : Memory β) : List ι → Memory β
  | [] => memory
  | party :: parties =>
      match held party with
      | none => apply held memory parties
      | some write => (apply held memory parties).write write.1 write.2

/-- No write held back touches a range. -/
def Clear (held : Held ι β) (addr count : Nat) : Prop :=
  ∀ party, ∀ write ∈ held party,
    addr + count ≤ write.1 ∨ write.1 + write.2.length ≤ addr

instance [Fintype ι] (held : Held ι β) (addr count : Nat) :
    Decidable (Clear held addr count) :=
  inferInstanceAs (Decidable (∀ _, ∀ _ ∈ _, _))

/-- The writes held back touch no cell twice. -/
def Apart (held : Held ι β) : Prop :=
  ∀ party, ∀ write ∈ held party, ∀ other ≠ party, ∀ write' ∈ held other,
    write.1 + write.2.length ≤ write'.1 ∨ write'.1 + write'.2.length ≤ write.1

variable {held : Held ι β}

theorem apply_cons_of_none
    {party : ι}
    (nothing : held party = none)
    (memory : Memory β)
    (parties : List ι) :
    apply held memory (party :: parties) = apply held memory parties := by
  simp only [apply, nothing]

theorem apply_cons_of_some
    {party : ι}
    {write : Nat × List β}
    (holds : held party = some write)
    (memory : Memory β)
    (parties : List ι) :
    apply held memory (party :: parties) =
      (apply held memory parties).write write.1 write.2 := by
  simp only [apply, holds]

/-- With nothing held back the overlay is the memory. -/
theorem apply_of_forall_none
    (nothing : ∀ party, held party = none)
    (memory : Memory β)
    (parties : List ι) :
    apply held memory parties = memory := by
  induction parties with
  | nil => rfl
  | cons party parties inductionHypothesis =>
      rw [apply_cons_of_none (nothing party), inductionHypothesis]

/-- The overlay looks only at what its own parties hold back. -/
theorem apply_congr
    {held' : Held ι β}
    {parties : List ι}
    (agree : ∀ party ∈ parties, held' party = held party)
    (memory : Memory β) :
    apply held' memory parties = apply held memory parties := by
  induction parties with
  | nil => rfl
  | cons party parties inductionHypothesis =>
      have same := agree party List.mem_cons_self
      have rest := inductionHypothesis fun other member =>
        agree other (List.mem_cons_of_mem party member)
      simp only [apply, same, rest]

/-- Cells no write touches are those of the memory. -/
theorem apply_of_clear
    {addr count cell : Nat}
    (clear : Clear held addr count)
    (above : addr ≤ cell)
    (below : cell < addr + count)
    (memory : Memory β)
    (parties : List ι) :
    apply held memory parties cell = memory cell := by
  induction parties with
  | nil => rfl
  | cons party parties inductionHypothesis =>
      cases holds : held party with
      | none => rw [apply_cons_of_none holds, inductionHypothesis]
      | some write =>
          have outside := clear party write holds
          rw [apply_cons_of_some holds,
            Memory.write_apply_of_outside _ _ _ _ (by omega),
            inductionHypothesis]

/-- A write clear of those held back can be made before or after them. -/
theorem apply_write
    {addr : Nat}
    {values : List β}
    (clear : Clear held addr values.length)
    (memory : Memory β)
    (parties : List ι) :
    apply held (memory.write addr values) parties =
      (apply held memory parties).write addr values := by
  induction parties with
  | nil => rfl
  | cons party parties inductionHypothesis =>
      cases holds : held party with
      | none =>
          rw [apply_cons_of_none holds, apply_cons_of_none holds,
            inductionHypothesis]
      | some write =>
          rw [apply_cons_of_some holds, apply_cons_of_some holds,
            inductionHypothesis]
          exact Memory.write_comm _ _ _ (clear party write holds)

section Updates

variable [DecidableEq ι] {party : ι} {write : Nat × List β} {parties : List ι}

/-- Holding a write back is to the overlay the same as making it. -/
theorem apply_update_some
    (nothing : held party = none)
    (clear : Clear held write.1 write.2.length)
    (member : party ∈ parties)
    (nodup : parties.Nodup)
    (memory : Memory β) :
    apply (Function.update held party (some write)) memory parties =
      (apply held memory parties).write write.1 write.2 := by
  induction parties with
  | nil => cases member
  | cons other parties inductionHypothesis =>
      obtain ⟨fresh, nodup⟩ := List.nodup_cons.mp nodup
      by_cases same : other = party
      · subst same
        have rest : ∀ party ∈ parties,
            Function.update held other (some write) party = held party := by
          intro later inRest
          refine Function.update_of_ne ?_ _ _
          rintro rfl
          exact fresh inRest
        rw [apply_cons_of_some (Function.update_self _ _ _),
          apply_cons_of_none nothing, apply_congr rest]
      · have member : party ∈ parties :=
          (List.mem_cons.mp member).resolve_left (Ne.symm same)
        have held_eq : Function.update held party (some write) other =
            held other := Function.update_of_ne same _ _
        have rest := inductionHypothesis member nodup
        cases holds : held other with
        | none =>
            rw [apply_cons_of_none (held_eq.trans holds),
              apply_cons_of_none holds, rest]
        | some earlier =>
            rw [apply_cons_of_some (held_eq.trans holds),
              apply_cons_of_some holds, rest]
            exact Memory.write_comm _ _ _ (clear other earlier holds)

/-- Making at last a write that was held back changes nothing in the overlay. -/
theorem apply_update_none
    (holds : held party = some write)
    (apart : Apart held)
    (member : party ∈ parties)
    (nodup : parties.Nodup)
    (memory : Memory β) :
    apply (Function.update held party none)
        (memory.write write.1 write.2) parties =
      apply held memory parties := by
  have clear : Clear (Function.update held party none) write.1
      write.2.length := by
    intro other earlier holdsEarlier
    by_cases same : other = party
    · rw [same, Function.update_self] at holdsEarlier
      cases holdsEarlier
    · rw [Function.update_of_ne same] at holdsEarlier
      exact apart party write holds other same earlier holdsEarlier
  have restored : Function.update (Function.update held party none) party
      (some write) = held := by
    rw [Function.update_idem, ← holds, Function.update_eq_self]
  rw [apply_write clear, ← apply_update_some (Function.update_self _ _ _)
    clear member nodup, restored]

/-- Writes held back stay apart when one more is clear of them. -/
theorem Apart.update_some
    (apart : Apart held)
    (clear : Clear held write.1 write.2.length) :
    Apart (Function.update held party (some write)) := by
  intro left first holdsFirst right different second holdsSecond
  by_cases isLeft : left = party
  · subst isLeft
    rw [Function.update_self] at holdsFirst
    rw [Function.update_of_ne different] at holdsSecond
    cases holdsFirst
    exact clear right second holdsSecond
  · rw [Function.update_of_ne isLeft] at holdsFirst
    by_cases isRight : right = party
    · subst isRight
      rw [Function.update_self] at holdsSecond
      cases holdsSecond
      exact (clear left first holdsFirst).symm
    · rw [Function.update_of_ne isRight] at holdsSecond
      exact apart left first holdsFirst right different second holdsSecond

theorem Apart.update_none (apart : Apart held) :
    Apart (Function.update held party none) := by
  have old : ∀ other, ∀ write ∈ Function.update held party none other,
      write ∈ held other := by
    intro other write holds
    by_cases same : other = party
    · rw [same, Function.update_self] at holds
      cases holds
    · rwa [Function.update_of_ne same] at holds
  intro left first holdsFirst right different second holdsSecond
  exact apart left first (old _ _ holdsFirst) right different second
    (old _ _ holdsSecond)

end Updates

end Overlay
