import Mathlib.Tactic.TypeStar

/-!
# Loops over a call that says when to stop

A loop repeats a call on a state until the call says stop or fails.  This file
gives the loop with a bound on its calls, and the measure rule: where every call
that does not stop lowers a measure, the loop stops within that many calls.
-/

namespace Loop

variable {σ ε : Type*}

/-- Repeat a call until it says stop; `none` when the calls allowed run out
first. -/
def untilStopped (call : σ → Except ε (Bool × σ)) :
    Nat → σ → Except ε (Option σ)
  | 0, _ => .ok none
  | fuel + 1, state =>
      match call state with
      | .error fault => .error fault
      | .ok (true, next) => .ok (some next)
      | .ok (false, next) => untilStopped call fuel next

variable {call : σ → Except ε (Bool × σ)}

theorem untilStopped_of_stop
    {state next : σ}
    (stops : call state = .ok (true, next))
    (fuel : Nat) :
    untilStopped call (fuel + 1) state = .ok (some next) := by
  simp [untilStopped, stops]

theorem untilStopped_of_continue
    {state next : σ}
    (continues : call state = .ok (false, next))
    (fuel : Nat) :
    untilStopped call (fuel + 1) state = untilStopped call fuel next := by
  simp [untilStopped, continues]

theorem untilStopped_of_error
    {state : σ}
    {fault : ε}
    (fails : call state = .error fault)
    (fuel : Nat) :
    untilStopped call (fuel + 1) state = .error fault := by
  simp [untilStopped, fails]

/-- However many calls are allowed, the loop does not fail in a given way. -/
def Avoids
    (call : σ → Except ε (Bool × σ))
    (fails : ε → Prop)
    (state : σ) : Prop :=
  ∀ fuel fault, fails fault → untilStopped call fuel state ≠ .error fault

/-- A loop that stops at some time never fails. -/
theorem avoids_of_stopped
    {fuel : Nat}
    {state last : σ}
    (stopped : untilStopped call fuel state = .ok (some last))
    (fails : ε → Prop) :
    Avoids call fails state := by
  induction fuel generalizing state with
  | zero => cases stopped
  | succ fuel inductionHypothesis =>
      intro allowed fault isFailure
      cases allowed with
      | zero =>
          intro failed
          cases failed
      | succ allowed =>
          cases result : call state with
          | error other =>
              rw [untilStopped_of_error result] at stopped
              cases stopped
          | ok returned =>
              obtain ⟨stop, next⟩ := returned
              cases stop with
              | true =>
                  rw [untilStopped_of_stop result]
                  intro failed
                  cases failed
              | false =>
                  rw [untilStopped_of_continue result] at stopped ⊢
                  exact inductionHypothesis stopped allowed fault isFailure

/-- **Measure rule.**  If from every state with an invariant the call fails in
one of some ways, or stops in a finished state, or goes on to a state with the
invariant and a lower measure, then within one call more than the measure the
loop has failed that way or stopped in a finished state. -/
theorem failed_or_stopped_of_measure
    {fails : ε → Prop}
    {invariant finished : σ → Prop}
    (measure : σ → Nat)
    (moves : ∀ state, invariant state →
      (∃ fault, fails fault ∧ call state = .error fault) ∨
      (∃ next, call state = .ok (true, next) ∧ finished next) ∨
      (∃ next, call state = .ok (false, next) ∧ invariant next ∧
        measure next < measure state))
    {state : σ}
    {fuel : Nat}
    (holds : invariant state)
    (enough : measure state < fuel) :
    (∃ fault, fails fault ∧ untilStopped call fuel state = .error fault) ∨
      ∃ last, untilStopped call fuel state = .ok (some last) ∧
        finished last := by
  induction fuel generalizing state with
  | zero => exact absurd enough (Nat.not_lt_zero _)
  | succ fuel inductionHypothesis =>
      obtain ⟨fault, isFailure, failed⟩ | ⟨next, stops, done⟩ |
        ⟨next, continues, nextHolds, lower⟩ := moves state holds
      · exact Or.inl ⟨fault, isFailure, untilStopped_of_error failed fuel⟩
      · exact Or.inr ⟨next, untilStopped_of_stop stops fuel, done⟩
      · rw [untilStopped_of_continue continues]
        exact inductionHypothesis nextHolds (by omega)

/-- A loop that avoids those failures stops in a finished state. -/
theorem exists_stopped_of_measure
    {fails : ε → Prop}
    {invariant finished : σ → Prop}
    (measure : σ → Nat)
    (moves : ∀ state, invariant state →
      (∃ fault, fails fault ∧ call state = .error fault) ∨
      (∃ next, call state = .ok (true, next) ∧ finished next) ∨
      (∃ next, call state = .ok (false, next) ∧ invariant next ∧
        measure next < measure state))
    {state : σ}
    {fuel : Nat}
    (holds : invariant state)
    (avoids : Avoids call fails state)
    (enough : measure state < fuel) :
    ∃ last, untilStopped call fuel state = .ok (some last) ∧ finished last := by
  obtain ⟨fault, isFailure, failed⟩ | stopped :=
    failed_or_stopped_of_measure measure moves holds enough
  · exact absurd failed (avoids fuel fault isFailure)
  · exact stopped

end Loop
