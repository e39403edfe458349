import Grspw.Lib.Machine

/-!
# Latches

A latch is a bit that some events set, some clear and all others leave alone.
This file relates the level of a latch to the events it has seen: it is high
exactly when it was set since it was last cleared.
-/

namespace Latch

/-- What an event does to a latch. -/
inductive Event
  | set
  | clear
  | quiet
  deriving DecidableEq

/-- The level after one event. -/
def Event.apply (level : Bool) : Event → Bool
  | .set => true
  | .clear => false
  | .quiet => level

/-- The level after a list of events, the latest last. -/
def level (initial : Bool) (events : List Event) : Bool :=
  events.foldl Event.apply initial

/-- Some event set the latch and none after it cleared it. -/
def SetSinceClear (events : List Event) : Prop :=
  ∃ before after, events = before ++ .set :: after ∧ .clear ∉ after

theorem setSinceClear_cons
    (event : Event)
    (events : List Event) :
    SetSinceClear (event :: events) ↔
      SetSinceClear events ∨ (event = .set ∧ .clear ∉ events) := by
  constructor
  · rintro ⟨before, after, split, notCleared⟩
    cases before with
    | nil =>
        rw [List.nil_append, List.cons.injEq] at split
        obtain ⟨isSet, rest⟩ := split
        exact Or.inr ⟨isSet, rest ▸ notCleared⟩
    | cons first before =>
        rw [List.cons_append, List.cons.injEq] at split
        exact Or.inl ⟨before, after, split.2, notCleared⟩
  · rintro (⟨before, after, split, notCleared⟩ | ⟨isSet, notCleared⟩)
    · exact ⟨event :: before, after, by rw [split, List.cons_append],
        notCleared⟩
    · exact ⟨[], events, by rw [isSet, List.nil_append], notCleared⟩

/-- A latch is high exactly when it was set since it was last cleared, or was
high at the start and never cleared. -/
theorem level_eq_true_iff
    (initial : Bool)
    (events : List Event) :
    level initial events = true ↔
      SetSinceClear events ∨ (initial = true ∧ .clear ∉ events) := by
  induction events generalizing initial with
  | nil => simp [level, SetSinceClear]
  | cons event events inductionHypothesis =>
      have unfolded : level initial (event :: events) =
        level (event.apply initial) events := rfl
      rw [unfolded, inductionHypothesis, setSinceClear_cons]
      cases event with
      | set =>
          simp only [Event.apply, true_and, List.mem_cons, reduceCtorEq,
            false_or]
          exact ⟨Or.inl, fun seen => seen.elim id fun high => Or.inr high.2⟩
      | clear => simp [Event.apply]
      | quiet => simp [Event.apply]

instance (events : List Event) : Decidable (SetSinceClear events) :=
  decidable_of_iff (level false events = true) (by
    simp [level_eq_true_iff])

variable {σ ι ε : Type*}

/-- A bit that every step moves as the step's event says follows the latch. -/
theorem eq_level_of_run
    {step : σ → ι → Except ε σ}
    {event : σ → ι → Event}
    {bit : σ → Bool}
    {invariant : σ → Prop}
    (preserved : ∀ state input next, invariant state →
      step state input = .ok next → invariant next)
    (moved : ∀ state input next, invariant state →
      step state input = .ok next →
        bit next = (event state input).apply (bit state))
    {state last : σ}
    {inputs : List ι}
    (holds : invariant state)
    (reaches : Machine.run step state inputs = .ok last) :
    bit last = level (bit state) (Machine.observe step event state inputs) := by
  induction inputs generalizing state with
  | nil =>
      simp only [Machine.run_nil, Except.ok.injEq] at reaches
      rw [reaches]
      rfl
  | cons input inputs inductionHypothesis =>
      obtain ⟨next, moves, rest⟩ := Machine.run_cons_eq_ok.mp reaches
      rw [inductionHypothesis (preserved state input next holds moves) rest,
        moved state input next holds moves]
      simp only [Machine.observe, moves, level, List.foldl_cons]

/-- **Latch rule.**  Under an invariant, a bit that every step moves as the
step's event says, and that is clear at the start, is set at the end of a run
exactly when it was set since it was last cleared. -/
theorem latched_iff_of_invariant
    {step : σ → ι → Except ε σ}
    {event : σ → ι → Event}
    {bit : σ → Bool}
    {invariant : σ → Prop}
    (preserved : ∀ state input next, invariant state →
      step state input = .ok next → invariant next)
    (moved : ∀ state input next, invariant state →
      step state input = .ok next →
        bit next = (event state input).apply (bit state))
    {state last : σ}
    {inputs : List ι}
    (holds : invariant state)
    (start : bit state = false)
    (reaches : Machine.run step state inputs = .ok last) :
    bit last = true ↔
      SetSinceClear (Machine.observe step event state inputs) := by
  rw [eq_level_of_run preserved moved holds reaches, level_eq_true_iff, start]
  simp

/-- The latch rule where no invariant is needed. -/
theorem latched_iff
    {step : σ → ι → Except ε σ}
    {event : σ → ι → Event}
    {bit : σ → Bool}
    (moved : ∀ state input next, step state input = .ok next →
      bit next = (event state input).apply (bit state))
    {state last : σ}
    {inputs : List ι}
    (start : bit state = false)
    (reaches : Machine.run step state inputs = .ok last) :
    bit last = true ↔
      SetSinceClear (Machine.observe step event state inputs) :=
  @latched_iff_of_invariant _ _ _ _ _ _ (fun _ => True)
    (fun _ _ _ _ _ => trivial)
    (fun state input next _ moves => moved state input next moves) _ _ _
    trivial start reaches

end Latch
