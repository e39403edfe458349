import Mathlib.Data.List.Infix
import Grspw.Lib.Machine

/-!
# Queues of a machine

A component of the state is a queue when every step puts some values at its end
and takes some from its front.  Whatever is counted of the values, a queue then
holds what it held, and what was put, less what was taken.
-/

namespace Fifo

variable {σ ι ε α β : Type*}

/-- Every step puts and takes what it is said to. -/
def IsQueue
    (step : σ → ι → Except ε σ)
    (queue : σ → List α)
    (puts takes : σ → ι → List α) : Prop :=
  ∀ state input next, step state input = .ok next →
    queue state ++ puts state input = takes state input ++ queue next

/-- What neither puts nor takes leaves a queue as it is. -/
theorem untouched
    {before after put taken : List α}
    (nonePut : put = [])
    (noneTaken : taken = [])
    (same : after = before) :
    before ++ put = taken ++ after := by
  rw [nonePut, noneTaken, same, List.append_nil, List.nil_append]

/-- What only puts makes a queue longer. -/
theorem appended
    {before after put taken : List α}
    (noneTaken : taken = [])
    (grown : after = before ++ put) :
    before ++ put = taken ++ after := by
  rw [noneTaken, grown, List.nil_append]

variable
  {step : σ → ι → Except ε σ}
  {queue : σ → List α}
  {puts takes : σ → ι → List α}

/-- A value in the queue was there before or is put by the step. -/
theorem IsQueue.mem_or_mem
    (isQueue : IsQueue step queue puts takes)
    {state next : σ}
    {input : ι}
    (moves : step state input = .ok next)
    {value : α}
    (member : value ∈ queue next) :
    value ∈ queue state ∨ value ∈ puts state input := by
  have known : value ∈ queue state ++ puts state input := by
    rw [isQueue state input next moves]
    exact List.mem_append_right _ member
  exact List.mem_append.mp known

/-- **Conservation.**  One step neither loses nor adds any of the values kept. -/
theorem IsQueue.length_filterMap
    (isQueue : IsQueue step queue puts takes)
    (keep : α → Option β)
    {state next : σ}
    {input : ι}
    (moves : step state input = .ok next) :
    ((queue state).filterMap keep).length +
        ((puts state input).filterMap keep).length =
      ((takes state input).filterMap keep).length +
        ((queue next).filterMap keep).length := by
  have same := congrArg (fun values => (values.filterMap keep).length)
    (isQueue state input next moves)
  simpa only [List.filterMap_append, List.length_append] using same

/-- What is kept of each observation is what is kept of them all. -/
theorem flatten_observe_filterMap
    (step : σ → ι → Except ε σ)
    (view : σ → ι → List α)
    (keep : α → Option β)
    (state : σ)
    (inputs : List ι) :
    (Machine.observe step (fun state input => (view state input).filterMap keep)
        state inputs).flatten =
      (Machine.observe step view state inputs).flatten.filterMap keep := by
  induction inputs generalizing state with
  | nil => rfl
  | cons input inputs inductionHypothesis =>
      simp only [Machine.observe, List.flatten_cons, List.filterMap_append]
      cases step state input with
      | ok next => rw [inductionHypothesis]
      | error fault => rfl

end Fifo
