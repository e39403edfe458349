import Grspw.Lib.Machine

/-!
# Cells

A cell holds the last value written to it.
-/

namespace Cell

variable {α σ ι ε : Type*}

/-- The content of a cell after a list of writes, the latest last. -/
def content (initial : α) (writes : List α) : α := writes.getLastD initial

theorem content_append (initial : α) (first second : List α) :
    content initial (first ++ second) =
      content (content initial first) second := by
  simp only [content, List.getLastD_eq_getLast?, List.getLast?_append,
    Option.getD_or]

/-- **Cell rule.**  Under an invariant, a value that every step leaves as the
step's writes to a cell leave it is the content of the cell after every run. -/
theorem eq_content_of_run
    {step : σ → ι → Except ε σ}
    {writes : σ → ι → List α}
    {value : σ → α}
    {invariant : σ → Prop}
    (preserved : ∀ state input next, invariant state →
      step state input = .ok next → invariant next)
    (moved : ∀ state input next, invariant state →
      step state input = .ok next →
        value next = content (value state) (writes state input))
    {state last : σ}
    {inputs : List ι}
    (holds : invariant state)
    (reaches : Machine.run step state inputs = .ok last) :
    value last = content (value state)
      (Machine.observe step writes state inputs).flatten := by
  induction inputs generalizing state with
  | nil =>
      simp only [Machine.run_nil, Except.ok.injEq] at reaches
      rw [reaches]
      rfl
  | cons input inputs inductionHypothesis =>
      obtain ⟨next, moves, rest⟩ := Machine.run_cons_eq_ok.mp reaches
      rw [inductionHypothesis (preserved state input next holds moves) rest,
        moved state input next holds moves]
      simp only [Machine.observe, moves, List.flatten_cons]
      rw [content_append]

end Cell
