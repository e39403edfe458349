import Mathlib.Order.Nat
import Grspw.Lib.Machine

/-!
# Clocks

A clock counts modulo a span under flags that a tick leaves alone.  It can be
put back to zero, set, and made to hear the time of another clock, which it takes
over when that one is ahead.  Each tick tells the new time.  A clock that is not
set back never tells a time twice, and is never behind one it has heard.
-/

namespace Clock

/-- What can happen to a clock. -/
inductive Event
  | reset
  | set (time : Nat)
  | tick
  | hear (time : Nat)
  deriving DecidableEq

/-- The time after one event. -/
def Event.apply (span now : Nat) : Event → Nat
  | .reset => 0
  | .set time => time
  | .tick => now / span * span + (now + 1) % span
  | .hear time => max now time

/-- The times an event tells. -/
def Event.tells (span now : Nat) : Event → List Nat
  | .tick => [Event.tick.apply span now]
  | _ => []

/-- Whether an event does not set the clock back. -/
def Event.isForward (span now : Nat) : Event → Bool
  | .reset => now == 0
  | .set time => now ≤ time
  | .tick => (now + 1) % span != 0
  | .hear _ => true

variable (span : Nat)

/-- The time after a list of events, the latest last. -/
def time (now : Nat) (events : List Event) : Nat :=
  events.foldl (Event.apply span) now

/-- The times told over a list of events. -/
def told : Nat → List Event → List Nat
  | _, [] => []
  | now, event :: events =>
      event.tells span now ++ told (event.apply span now) events

/-- No event of a list sets the clock back. -/
def isForward : Nat → List Event → Bool
  | _, [] => true
  | now, event :: events =>
      event.isForward span now && isForward (event.apply span now) events

variable {span : Nat}

/-! ## Several events -/

theorem time_append (now : Nat) (first second : List Event) :
    time span now (first ++ second) =
      time span (time span now first) second :=
  List.foldl_append

theorem told_append (now : Nat) (first second : List Event) :
    told span now (first ++ second) =
      told span now first ++ told span (time span now first) second := by
  induction first generalizing now with
  | nil => rfl
  | cons event first inductionHypothesis =>
      change event.tells span now ++
          told span (event.apply span now) (first ++ second) =
        event.tells span now ++ told span (event.apply span now) first ++
          told span (time span (event.apply span now) first) second
      rw [inductionHypothesis, List.append_assoc]

/-- Only ticks tell. -/
theorem told_eq_nil
    {now : Nat}
    {events : List Event}
    (silent : .tick ∉ events) :
    told span now events = [] := by
  induction events generalizing now with
  | nil => rfl
  | cons event events inductionHypothesis =>
      obtain ⟨notTick, rest⟩ := List.ne_and_not_mem_of_not_mem_cons silent
      rw [told, inductionHypothesis rest, List.append_nil]
      cases event with
      | tick => exact absurd rfl notTick
      | _ => rfl

/-- A last tick tells the time at the end. -/
theorem told_append_tick (now : Nat) (events : List Event) :
    told span now (events ++ [.tick]) =
      told span now events ++ [time span now (events ++ [.tick])] := by
  rw [told_append, time_append]
  rfl

/-! ## Clocks that are not set back -/

/-- A tick that does not wrap counts one on. -/
theorem apply_tick_of_forward
    {now : Nat}
    (forward : Event.tick.isForward span now = true) :
    Event.tick.apply span now = now + 1 := by
  have noWrap : (now + 1) % span ≠ 0 := by
    simpa [Event.isForward] using forward
  have whole := Nat.div_add_mod (now + 1) span
  have sameFlags : (now + 1) / span = now / span := by
    have inside : ¬span ∣ now + 1 :=
      fun divides => noWrap (Nat.mod_eq_zero_of_dvd divides)
    rw [Nat.succ_div, if_neg inside, Nat.add_zero]
  rw [sameFlags, Nat.mul_comm] at whole
  exact whole

theorem le_apply_of_forward
    {now : Nat}
    {event : Event}
    (forward : event.isForward span now = true) :
    now ≤ event.apply span now := by
  cases event with
  | reset =>
      have zero : now = 0 := by simpa [Event.isForward] using forward
      exact zero.le
  | set time => simpa [Event.isForward, Event.apply] using forward
  | tick =>
      rw [apply_tick_of_forward forward]
      exact Nat.le_succ now
  | hear time => exact Nat.le_max_left now time

theorem isForward_cons
    {now : Nat}
    {event : Event}
    {events : List Event}
    (forward : isForward span now (event :: events) = true) :
    event.isForward span now = true ∧
      isForward span (event.apply span now) events = true := by
  simpa [isForward] using forward

theorem le_time_of_forward
    {now : Nat}
    {events : List Event}
    (forward : isForward span now events = true) :
    now ≤ time span now events := by
  induction events generalizing now with
  | nil => exact le_rfl
  | cons event events inductionHypothesis =>
      obtain ⟨first, rest⟩ := isForward_cons forward
      exact (le_apply_of_forward first).trans (inductionHypothesis rest)

/-- Whatever the clock has heard, it is not behind it. -/
theorem heard_le_time
    {now heard : Nat}
    {events : List Event}
    (forward : isForward span now events = true)
    (member : .hear heard ∈ events) :
    heard ≤ time span now events := by
  induction events generalizing now with
  | nil => cases member
  | cons event events inductionHypothesis =>
      obtain ⟨_, rest⟩ := isForward_cons forward
      obtain rfl | later := List.mem_cons.mp member
      · exact (Nat.le_max_right now heard).trans (le_time_of_forward rest)
      · exact inductionHypothesis rest later

/-- **Increasing times.**  A clock that is not set back tells times that
increase, all of them later than the time it starts from and none later than the
time it ends at. -/
theorem told_increasing
    {now : Nat}
    {events : List Event}
    (forward : isForward span now events = true) :
    (now :: told span now events).Pairwise (· < ·) ∧
      ∀ time' ∈ told span now events, time' ≤ time span now events := by
  induction events generalizing now with
  | nil => exact ⟨List.pairwise_singleton _ _, nofun⟩
  | cons event events inductionHypothesis =>
      obtain ⟨first, rest⟩ := isForward_cons forward
      obtain ⟨increasing, bounded⟩ := inductionHypothesis rest
      have later : ∀ time' ∈ told span (event.apply span now) events,
          event.apply span now < time' :=
        fun _ => List.rel_of_pairwise_cons increasing
      have onward := le_apply_of_forward first
      cases event with
      | tick =>
          have next := apply_tick_of_forward first
          constructor
          · refine List.Pairwise.cons ?_ increasing
            intro time' member
            obtain rfl | member := List.mem_cons.mp member
            · omega
            · exact onward.trans_lt (later time' member)
          · intro time' member
            obtain rfl | member := List.mem_cons.mp member
            · exact le_time_of_forward rest
            · exact bounded time' member
      | _ =>
          refine ⟨List.Pairwise.cons ?_ increasing.of_cons, bounded⟩
          exact fun time' member => onward.trans_lt (later time' member)

/-! ## Machines that keep a clock -/

variable {σ ι ε : Type*}

/-- **Clock rule.**  Under an invariant, a reading that every step moves as its
events say, telling what they tell, follows the clock over every run. -/
theorem follows_of_run
    {step : σ → ι → Except ε σ}
    {events : σ → ι → List Event}
    {tells : σ → ι → List Nat}
    {reading : σ → Nat}
    {invariant : σ → Prop}
    (preserved : ∀ state input next, invariant state →
      step state input = .ok next → invariant next)
    (moved : ∀ state input next, invariant state →
      step state input = .ok next →
        reading next = time span (reading state) (events state input) ∧
          tells state input = told span (reading state) (events state input))
    {state last : σ}
    {inputs : List ι}
    (holds : invariant state)
    (reaches : Machine.run step state inputs = .ok last) :
    reading last = time span (reading state)
        (Machine.observe step events state inputs).flatten ∧
      (Machine.observe step tells state inputs).flatten =
        told span (reading state)
          (Machine.observe step events state inputs).flatten := by
  induction inputs generalizing state with
  | nil =>
      simp only [Machine.run_nil, Except.ok.injEq] at reaches
      rw [reaches]
      exact ⟨rfl, rfl⟩
  | cons input inputs inductionHypothesis =>
      obtain ⟨next, moves, rest⟩ := Machine.run_cons_eq_ok.mp reaches
      obtain ⟨readingNext, toldNext⟩ := moved state input next holds moves
      obtain ⟨readingLast, toldRest⟩ :=
        inductionHypothesis (preserved state input next holds moves) rest
      simp only [Machine.observe, moves, List.flatten_cons]
      rw [time_append, told_append, ← readingNext, ← toldNext, ← toldRest]
      exact ⟨readingLast, rfl⟩

end Clock
