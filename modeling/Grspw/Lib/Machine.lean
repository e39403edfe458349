import Mathlib.Algebra.Ring.Nat
import Mathlib.Data.List.Basic
import Mathlib.Tactic.TypeStar

/-!
# Partial machines, their runs and their monitors

A machine consumes one input at a time and either moves to a next state or
stops with a fault.  Nondeterministic systems fit by putting each choice into
the input.  This file gives the run of a machine over a list of inputs, the
observations made along a run, runs whose steps all meet a guard, and the four
induction rules used for them: invariants, monitors, simulation and output
equivalence.
-/

namespace Machine

variable {σ σ' ι κ ε ε' α β τ ω : Type*}

/-- Run a machine over a list of inputs, stopping at the first fault. -/
def run (step : σ → ι → Except ε σ) : σ → List ι → Except ε σ
  | state, [] => .ok state
  | state, input :: inputs =>
      match step state input with
      | .ok next => run step next inputs
      | .error fault => .error fault

@[simp] theorem run_nil (step : σ → ι → Except ε σ) (state : σ) :
    run step state [] = .ok state := rfl

theorem run_cons_of_ok
    {step : σ → ι → Except ε σ}
    {state next : σ}
    {input : ι}
    (moves : step state input = .ok next)
    (inputs : List ι) :
    run step state (input :: inputs) = run step next inputs := by
  simp [run, moves]

theorem run_cons_of_error
    {step : σ → ι → Except ε σ}
    {state : σ}
    {input : ι}
    {fault : ε}
    (stops : step state input = .error fault)
    (inputs : List ι) :
    run step state (input :: inputs) = .error fault := by
  simp [run, stops]

/-- A run that goes through splits at its first step. -/
theorem run_cons_eq_ok
    {step : σ → ι → Except ε σ}
    {state last : σ}
    {input : ι}
    {inputs : List ι} :
    run step state (input :: inputs) = .ok last ↔
      ∃ next, step state input = .ok next ∧ run step next inputs = .ok last := by
  cases moves : step state input with
  | ok next => simp [run, moves]
  | error fault => simp [run, moves]

/-- Consecutive runs compose. -/
theorem run_append_of_ok
    {step : σ → ι → Except ε σ}
    {state middle : σ}
    {first : List ι}
    (reaches : run step state first = .ok middle)
    (second : List ι) :
    run step state (first ++ second) = run step middle second := by
  induction first generalizing state with
  | nil =>
      simp only [run_nil, Except.ok.injEq] at reaches
      rw [List.nil_append, reaches]
  | cons input inputs inductionHypothesis =>
      obtain ⟨next, moves, rest⟩ := run_cons_eq_ok.mp reaches
      rw [List.cons_append, run_cons_of_ok moves]
      exact inductionHypothesis rest

/-- The states some run of the machine ends in. -/
def Reachable (step : σ → ι → Except ε σ) (start state : σ) : Prop :=
  ∃ inputs, run step start inputs = .ok state

theorem Reachable.refl (step : σ → ι → Except ε σ) (start : σ) :
    Reachable step start start := ⟨[], rfl⟩

/-- One more step from a reachable state. -/
theorem Reachable.step
    {step : σ → ι → Except ε σ}
    {start state next : σ}
    {input : ι}
    (reachable : Reachable step start state)
    (moves : step state input = .ok next) :
    Reachable step start next := by
  obtain ⟨inputs, reaches⟩ := reachable
  refine ⟨inputs ++ [input], ?_⟩
  rw [run_append_of_ok reaches, run_cons_of_ok moves, run_nil]

/-- Every step a run takes, the faulting one included, starts in a state that
meets the guard together with its input. -/
def Guarded (step : σ → ι → Except ε σ) (guard : σ → ι → Prop) :
    σ → List ι → Prop
  | _, [] => True
  | state, input :: inputs =>
      guard state input ∧
        ∀ next, step state input = .ok next → Guarded step guard next inputs

theorem guarded_cons_of_ok
    {step : σ → ι → Except ε σ}
    {guard : σ → ι → Prop}
    {state next : σ}
    {input : ι}
    {inputs : List ι}
    (moves : step state input = .ok next) :
    Guarded step guard state (input :: inputs) ↔
      guard state input ∧ Guarded step guard next inputs := by
  simp [Guarded, moves]

theorem guarded_cons_of_error
    {step : σ → ι → Except ε σ}
    {guard : σ → ι → Prop}
    {state : σ}
    {input : ι}
    {inputs : List ι}
    {fault : ε}
    (stops : step state input = .error fault) :
    Guarded step guard state (input :: inputs) ↔ guard state input := by
  simp [Guarded, stops]

instance decidableGuarded
    (step : σ → ι → Except ε σ)
    (guard : σ → ι → Prop)
    [∀ state input, Decidable (guard state input)] :
    (state : σ) → (inputs : List ι) →
      Decidable (Guarded step guard state inputs)
  | _, [] => isTrue trivial
  | state, input :: inputs =>
      match moves : step state input with
      | .ok next =>
          let _ := decidableGuarded step guard next inputs
          decidable_of_iff _ (guarded_cons_of_ok moves).symm
      | .error _ => decidable_of_iff _ (guarded_cons_of_error moves).symm

/-- A guard that holds in every reachable state guards every run. -/
theorem guarded_of_invariant
    {step : σ → ι → Except ε σ}
    {guard : σ → ι → Prop}
    {invariant : σ → Prop}
    (preserved : ∀ state input next, invariant state →
      step state input = .ok next → invariant next)
    (guards : ∀ state input, invariant state → guard state input)
    {state : σ}
    (holds : invariant state)
    (inputs : List ι) :
    Guarded step guard state inputs := by
  induction inputs generalizing state with
  | nil => trivial
  | cons input inputs inductionHypothesis =>
      refine ⟨guards state input holds, ?_⟩
      intro next moves
      exact inductionHypothesis (preserved state input next holds moves)

/-- Along a guarded run, a weaker guard holds as well. -/
theorem Guarded.mono
    {step : σ → ι → Except ε σ}
    {strong weak : σ → ι → Prop}
    (weaker : ∀ state input, strong state input → weak state input)
    {state : σ}
    {inputs : List ι}
    (guarded : Guarded step strong state inputs) :
    Guarded step weak state inputs := by
  induction inputs generalizing state with
  | nil => trivial
  | cons input inputs inductionHypothesis =>
      exact ⟨weaker state input guarded.1,
        fun next moves => inductionHypothesis (guarded.2 next moves)⟩

/-- A guard on inputs alone is one on the members of the list. -/
theorem guarded_of_forall_mem
    (step : σ → ι → Except ε σ)
    {guard : ι → Prop}
    {inputs : List ι}
    (all : ∀ input ∈ inputs, guard input)
    (state : σ) :
    Guarded step (fun _ => guard) state inputs := by
  induction inputs generalizing state with
  | nil => trivial
  | cons input inputs inductionHypothesis =>
      refine ⟨all input List.mem_cons_self, ?_⟩
      intro next _
      exact inductionHypothesis
        (fun other member => all other (List.mem_cons_of_mem _ member)) next

/-- Two guards of one run guard it together. -/
theorem Guarded.and
    {step : σ → ι → Except ε σ}
    {left right : σ → ι → Prop}
    {state : σ}
    {inputs : List ι}
    (guardedLeft : Guarded step left state inputs)
    (guardedRight : Guarded step right state inputs) :
    Guarded step (fun state input => left state input ∧ right state input) state
      inputs := by
  induction inputs generalizing state with
  | nil => trivial
  | cons input inputs inductionHypothesis =>
      refine ⟨⟨guardedLeft.1, guardedRight.1⟩, ?_⟩
      intro next moves
      exact inductionHypothesis (guardedLeft.2 next moves)
        (guardedRight.2 next moves)

/-- Guards that agree on every step guard the same runs. -/
theorem guarded_congr
    {step : σ → ι → Except ε σ}
    {left right : σ → ι → Prop}
    (agree : ∀ state input, left state input ↔ right state input)
    (state : σ)
    (inputs : List ι) :
    Guarded step left state inputs ↔ Guarded step right state inputs := by
  constructor
  · exact Guarded.mono fun state input => (agree state input).mp
  · exact Guarded.mono fun state input => (agree state input).mpr

/-- **Invariant rule.**  What the guarded steps preserve holds at the end of
every guarded run. -/
theorem run_invariant
    {step : σ → ι → Except ε σ}
    {guard : σ → ι → Prop}
    {invariant : σ → Prop}
    (preserved : ∀ state input next, invariant state → guard state input →
      step state input = .ok next → invariant next)
    {state last : σ}
    {inputs : List ι}
    (holds : invariant state)
    (guarded : Guarded step guard state inputs)
    (reaches : run step state inputs = .ok last) :
    invariant last := by
  induction inputs generalizing state with
  | nil =>
      simp only [run_nil, Except.ok.injEq] at reaches
      exact reaches ▸ holds
  | cons input inputs inductionHypothesis =>
      obtain ⟨next, moves, rest⟩ := run_cons_eq_ok.mp reaches
      exact inductionHypothesis
        (preserved state input next holds guarded.1 moves)
        (guarded.2 next moves) rest

/-- The invariant rule without a guard. -/
theorem reachable_invariant
    {step : σ → ι → Except ε σ}
    {invariant : σ → Prop}
    (preserved : ∀ state input next, invariant state →
      step state input = .ok next → invariant next)
    {start state : σ}
    (holds : invariant start)
    (reachable : Reachable step start state) :
    invariant state := by
  obtain ⟨inputs, reaches⟩ := reachable
  have unguarded : Guarded step (fun _ _ => True) start inputs :=
    guarded_of_invariant preserved (fun _ _ _ => trivial) holds inputs
  exact run_invariant
    (fun state input next before _ moves =>
      preserved state input next before moves) holds unguarded reaches

/-- Consecutive guarded runs are one guarded run. -/
theorem Guarded.append
    {step : σ → ι → Except ε σ}
    {guard : σ → ι → Prop}
    {state middle : σ}
    {first second : List ι}
    (guardedFirst : Guarded step guard state first)
    (reaches : run step state first = .ok middle)
    (guardedSecond : Guarded step guard middle second) :
    Guarded step guard state (first ++ second) := by
  induction first generalizing state with
  | nil =>
      simp only [run_nil, Except.ok.injEq] at reaches
      rw [List.nil_append, reaches]
      exact guardedSecond
  | cons input first inductionHypothesis =>
      obtain ⟨next, moves, rest⟩ := run_cons_eq_ok.mp reaches
      exact (guarded_cons_of_ok moves).mpr
        ⟨guardedFirst.1, inductionHypothesis (guardedFirst.2 next moves) rest⟩

/-- Every state of a run, the first and the last included, has a property. -/
def Always (step : σ → ι → Except ε σ) (property : σ → Prop) :
    σ → List ι → Prop
  | state, [] => property state
  | state, input :: inputs =>
      property state ∧
        ∀ next, step state input = .ok next → Always step property next inputs

theorem Always.head
    {step : σ → ι → Except ε σ}
    {property : σ → Prop}
    {state : σ}
    {inputs : List ι}
    (always : Always step property state inputs) :
    property state := by
  cases inputs with
  | nil => exact always
  | cons input inputs => exact always.1

/-- **Exact guards.**  If, from a state with a property, a step keeps the
property exactly when it meets a guard, then the property holds all along a run
exactly when the run is guarded. -/
theorem always_iff_guarded
    {step : σ → ι → Except ε σ}
    {guard : σ → ι → Prop}
    {property : σ → Prop}
    (exactly : ∀ state input, property state →
      (guard state input ↔
        ∀ next, step state input = .ok next → property next))
    {state : σ}
    (holds : property state)
    (inputs : List ι) :
    Always step property state inputs ↔ Guarded step guard state inputs := by
  induction inputs generalizing state with
  | nil => exact iff_of_true holds trivial
  | cons input inputs inductionHypothesis =>
      have kept := exactly state input holds
      constructor
      · rintro ⟨_, always⟩
        refine ⟨kept.mpr fun next moves => (always next moves).head, ?_⟩
        intro next moves
        have nextHolds : property next := (always next moves).head
        exact (inductionHypothesis nextHolds).mp (always next moves)
      · rintro ⟨guarded, rest⟩
        refine ⟨holds, ?_⟩
        intro next moves
        have nextHolds : property next := kept.mp guarded next moves
        exact (inductionHypothesis nextHolds).mpr (rest next moves)

/-- A run from a state without a property to one with it has a step that
establishes it. -/
theorem exists_step_of_run
    {step : σ → ι → Except ε σ}
    {property : σ → Prop}
    {state last : σ}
    {inputs : List ι}
    (start : ¬property state)
    (finish : property last)
    (reaches : run step state inputs = .ok last) :
    ∃ first input second middle next,
      inputs = first ++ input :: second ∧
      run step state first = .ok middle ∧
      step middle input = .ok next ∧
      ¬property middle ∧ property next := by
  induction inputs generalizing state with
  | nil =>
      simp only [run_nil, Except.ok.injEq] at reaches
      exact absurd (reaches ▸ finish) start
  | cons input inputs inductionHypothesis =>
      obtain ⟨next, moves, rest⟩ := run_cons_eq_ok.mp reaches
      by_cases established : property next
      · exact ⟨[], input, inputs, state, next, rfl, rfl, moves, start,
          established⟩
      · obtain ⟨first, input', second, middle, next', split, taken, moves',
          before, after⟩ := inductionHypothesis established rest
        refine ⟨input :: first, input', second, middle, next', ?_, ?_, moves',
          before, after⟩
        · rw [split, List.cons_append]
        · rw [run_cons_of_ok moves, taken]

/-! ## Observations and monitors -/

/-- What is seen of each step of a run, the faulting one included. -/
def observe (step : σ → ι → Except ε σ) (view : σ → ι → α) :
    σ → List ι → List α
  | _, [] => []
  | state, input :: inputs =>
      view state input ::
        match step state input with
        | .ok next => observe step view next inputs
        | .error _ => []

/-- What is seen of consecutive runs. -/
theorem observe_append_of_ok
    {step : σ → ι → Except ε σ}
    {view : σ → ι → α}
    {state middle : σ}
    {first : List ι}
    (reaches : run step state first = .ok middle)
    (second : List ι) :
    observe step view state (first ++ second) =
      observe step view state first ++ observe step view middle second := by
  induction first generalizing state with
  | nil =>
      simp only [run_nil, Except.ok.injEq] at reaches
      rw [List.nil_append, reaches]
      rfl
  | cons input first inductionHypothesis =>
      obtain ⟨next, moves, rest⟩ := run_cons_eq_ok.mp reaches
      simp only [List.cons_append, observe, moves, inductionHypothesis rest]

/-- **Accounts.**  If every guarded step moves a debt and its cover by the same,
but for some loss, then over a guarded run the debt moves with its cover and all
the losses. -/
theorem debt_of_run
    {step : σ → ι → Except ε σ}
    {guard : σ → ι → Prop}
    {invariant : σ → Prop}
    {debt cover : σ → Nat}
    {loss : σ → ι → Nat}
    (preserved : ∀ state input next, invariant state → guard state input →
      step state input = .ok next → invariant next)
    (moved : ∀ state input next, invariant state → guard state input →
      step state input = .ok next →
        debt next + cover state = debt state + cover next + loss state input)
    {state last : σ}
    {inputs : List ι}
    (holds : invariant state)
    (guarded : Guarded step guard state inputs)
    (reaches : run step state inputs = .ok last) :
    debt last + cover state =
      debt state + cover last + (observe step loss state inputs).sum := by
  induction inputs generalizing state with
  | nil =>
      simp only [run_nil, Except.ok.injEq] at reaches
      rw [reaches]
      rfl
  | cons input inputs inductionHypothesis =>
      obtain ⟨next, moves, rest⟩ := run_cons_eq_ok.mp reaches
      have once := moved state input next holds guarded.1 moves
      have later := inductionHypothesis
        (preserved state input next holds guarded.1 moves)
        (guarded.2 next moves) rest
      simp only [observe, moves, List.sum_cons]
      omega

/-- An abstract specification that reads observations one at a time: how its
own state moves, and which observations it accepts. -/
structure Monitor (α τ : Type*) where
  next : τ → α → τ
  ok : τ → α → Prop

/-- The monitor accepts every observation of a list in turn. -/
def Monitor.Accepts (monitor : Monitor α τ) : τ → List α → Prop
  | _, [] => True
  | state, seen :: rest =>
      monitor.ok state seen ∧ monitor.Accepts (monitor.next state seen) rest

instance Monitor.decidableAccepts
    (monitor : Monitor α τ)
    [∀ state seen, Decidable (monitor.ok state seen)] :
    (state : τ) → (observed : List α) →
      Decidable (monitor.Accepts state observed)
  | _, [] => isTrue trivial
  | state, seen :: rest =>
      let _ := monitor.decidableAccepts (monitor.next state seen) rest
      inferInstanceAs (Decidable (_ ∧ _))

/-- **Monitor rule.**  If a relation between machine and monitor states makes
each guarded step acceptable and survives it, the monitor accepts what is
observed of every guarded run. -/
theorem accepts_of_simulation
    {step : σ → ι → Except ε σ}
    {guard : σ → ι → Prop}
    {view : σ → ι → α}
    {monitor : Monitor α τ}
    (related : σ → τ → Prop)
    (accepted : ∀ state input abstract, related state abstract →
      guard state input → monitor.ok abstract (view state input))
    (preserved : ∀ state input next abstract, related state abstract →
      guard state input → step state input = .ok next →
        related next (monitor.next abstract (view state input)))
    {state : σ}
    {abstract : τ}
    {inputs : List ι}
    (start : related state abstract)
    (guarded : Guarded step guard state inputs) :
    monitor.Accepts abstract (observe step view state inputs) := by
  induction inputs generalizing state abstract with
  | nil => trivial
  | cons input inputs inductionHypothesis =>
      refine ⟨accepted state input abstract start guarded.1, ?_⟩
      cases moves : step state input with
      | error fault => trivial
      | ok next =>
          exact inductionHypothesis
            (preserved state input next abstract start guarded.1 moves)
            (guarded.2 next moves)

/-- **Two monitors.**  If two monitors move their states alike and, in related
states, accept the same steps, and a relation to the machine survives every
accepted step, then they accept the same runs. -/
theorem accepts_iff_accepts
    {step : σ → ι → Except ε σ}
    {view : σ → ι → α}
    {view' : σ → ι → β}
    {monitor : Monitor α τ}
    {monitor' : Monitor β τ}
    (related : σ → τ → Prop)
    (agree : ∀ state input abstract, related state abstract →
      (monitor.ok abstract (view state input) ↔
        monitor'.ok abstract (view' state input)))
    (alike : ∀ state input abstract,
      monitor.next abstract (view state input) =
        monitor'.next abstract (view' state input))
    (preserved : ∀ state input next abstract, related state abstract →
      monitor.ok abstract (view state input) → step state input = .ok next →
        related next (monitor.next abstract (view state input)))
    {state : σ}
    {abstract : τ}
    (start : related state abstract)
    (inputs : List ι) :
    monitor.Accepts abstract (observe step view state inputs) ↔
      monitor'.Accepts abstract (observe step view' state inputs) := by
  induction inputs generalizing state abstract with
  | nil => exact Iff.rfl
  | cons input inputs inductionHypothesis =>
      have heads := agree state input abstract start
      change monitor.ok _ _ ∧ _ ↔ monitor'.ok _ _ ∧ _
      rw [← heads]
      apply and_congr_right
      intro accepted
      rw [← alike state input abstract]
      cases moves : step state input with
      | error fault => exact Iff.rfl
      | ok next =>
          exact inductionHypothesis
            (preserved state input next abstract start accepted moves)

/-! ## Simulation -/

/-- **Simulation rule.**  If every guarded step of one machine is matched, from
related states, by a run of another over inputs read off the step, then so is
every guarded run. -/
theorem exists_run_of_simulation
    {step : σ → ι → Except ε σ}
    {step' : σ' → κ → Except ε' σ'}
    {guard : σ → ι → Prop}
    (inputsOf : σ → ι → List κ)
    (related : σ → σ' → Prop)
    (simulates : ∀ state input next state', related state state' →
      guard state input → step state input = .ok next →
        ∃ next', run step' state' (inputsOf state input) = .ok next' ∧
          related next next')
    {state last : σ}
    {state' : σ'}
    {inputs : List ι}
    (start : related state state')
    (guarded : Guarded step guard state inputs)
    (reaches : run step state inputs = .ok last) :
    ∃ last',
      run step' state' (observe step inputsOf state inputs).flatten =
        .ok last' ∧
      related last last' := by
  induction inputs generalizing state state' with
  | nil =>
      simp only [run_nil, Except.ok.injEq] at reaches
      exact ⟨state', rfl, reaches ▸ start⟩
  | cons input inputs inductionHypothesis =>
      obtain ⟨next, moves, rest⟩ := run_cons_eq_ok.mp reaches
      obtain ⟨next', taken, nextRelated⟩ :=
        simulates state input next state' start guarded.1 moves
      obtain ⟨last', reached, lastRelated⟩ :=
        inductionHypothesis nextRelated (guarded.2 next moves) rest
      refine ⟨last', ?_, lastRelated⟩
      simp only [observe, moves, List.flatten_cons]
      rw [run_append_of_ok taken]
      exact reached

/-! ## Output equivalence -/

/-- The final outputs of a run, or the fault that stopped it. -/
def outcome (step : σ → ι → Except ε σ) (output : σ → ω)
    (state : σ) (inputs : List ι) : Except ε ω :=
  (run step state inputs).map output

/-- **Bisimulation rule.**  Two states joined by a relation that both steps
keep, with equal faults and equal outputs, have the same outcome on every
sequence of inputs. -/
theorem outcome_eq_of_bisimulation
    {step : σ → ι → Except ε σ}
    {step' : σ' → ι → Except ε σ'}
    {output : σ → ω}
    {output' : σ' → ω}
    (related : σ → σ' → Prop)
    (sameOutput : ∀ left right, related left right → output left = output' right)
    (preserved : ∀ left right input, related left right →
      (∃ fault, step left input = .error fault ∧
        step' right input = .error fault) ∨
      ∃ left' right', step left input = .ok left' ∧
        step' right input = .ok right' ∧ related left' right')
    {left : σ}
    {right : σ'}
    (start : related left right)
    (inputs : List ι) :
    outcome step output left inputs = outcome step' output' right inputs := by
  induction inputs generalizing left right with
  | nil =>
      simp only [outcome, run_nil, Except.map]
      rw [sameOutput left right start]
  | cons input inputs inductionHypothesis =>
      obtain ⟨fault, stops, stops'⟩ | ⟨left', right', moves, moves', next⟩ :=
        preserved left right input start
      · simp only [outcome, run_cons_of_error stops, run_cons_of_error stops']
        rfl
      · simp only [outcome, run_cons_of_ok moves, run_cons_of_ok moves']
        exact inductionHypothesis next

end Machine
