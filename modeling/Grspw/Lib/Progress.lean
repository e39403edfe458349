import Grspw.Lib.Machine

/-!
# Progress of a machine

Inputs that a machine can take only for so long.  Where every input taken under
a guard goes through, keeps an invariant and lowers a measure, no guarded run
faults or is longer than the measure, and some guarded run ends in a state where
no input can be taken any more.
-/

namespace Machine

variable {σ ι ε : Type*}

/-- No input can be taken. -/
def Stuck (guard : σ → ι → Prop) (state : σ) : Prop :=
  ∀ input, ¬guard state input

/-- From a state with the invariant, every input taken goes through, keeps the
invariant and lowers the measure. -/
def Lowers
    (step : σ → ι → Except ε σ)
    (guard : σ → ι → Prop)
    (invariant : σ → Prop)
    (measure : σ → Nat) : Prop :=
  ∀ state input, invariant state → guard state input →
    ∃ next, step state input = .ok next ∧ invariant next ∧
      measure next < measure state

section Measure

variable
  {step : σ → ι → Except ε σ}
  {guard : σ → ι → Prop}
  {invariant : σ → Prop}
  {measure : σ → Nat}
  (lowers : Lowers step guard invariant measure)

include lowers

/-- **Bounded runs.**  A guarded run does not fault, and its length and the
measure it leaves are together at most the measure at its start. -/
theorem exists_run_of_lowers
    {state : σ}
    {inputs : List ι}
    (holds : invariant state)
    (guarded : Guarded step guard state inputs) :
    ∃ last, run step state inputs = .ok last ∧ invariant last ∧
      inputs.length + measure last ≤ measure state := by
  induction inputs generalizing state with
  | nil => exact ⟨state, rfl, holds, by simp⟩
  | cons input inputs inductionHypothesis =>
      obtain ⟨next, moves, nextHolds, lower⟩ :=
        lowers state input holds guarded.1
      obtain ⟨last, reaches, lastHolds, bound⟩ :=
        inductionHypothesis nextHolds (guarded.2 next moves)
      refine ⟨last, ?_, lastHolds, ?_⟩
      · rw [run_cons_of_ok moves, reaches]
      · rw [List.length_cons]
        omega

/-- **Complete runs.**  Some guarded run ends where no input can be taken. -/
theorem exists_run_to_stuck
    {state : σ}
    (holds : invariant state) :
    ∃ inputs last, Guarded step guard state inputs ∧
      run step state inputs = .ok last ∧ Stuck guard last := by
  induction bound : measure state using Nat.strongRecOn generalizing state with
  | ind size inductionHypothesis =>
      by_cases stuck : Stuck guard state
      · exact ⟨[], state, trivial, rfl, stuck⟩
      · unfold Stuck at stuck
        push Not at stuck
        obtain ⟨input, taken⟩ := stuck
        obtain ⟨next, moves, nextHolds, lower⟩ :=
          lowers state input holds taken
        obtain ⟨inputs, last, guarded, reaches, lastStuck⟩ :=
          inductionHypothesis (measure next) (bound ▸ lower) nextHolds rfl
        refine ⟨input :: inputs, last, ?_, ?_, lastStuck⟩
        · exact (guarded_cons_of_ok moves).mpr ⟨taken, guarded⟩
        · rw [run_cons_of_ok moves, reaches]

end Measure

end Machine
