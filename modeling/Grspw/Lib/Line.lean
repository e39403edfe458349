import Grspw.Lib.Machine

/-!
# Request lines

A line is pulsed at once, or for a request put off until it is settled, of which
there is one at a time.  A request is honoured if it asks for a pulse when it is
made and pulses are enabled when it is settled.
-/

namespace Line

/-- What can happen to a line. -/
inductive Event
  /-- A request looked at at once. -/
  | raise (honoured : Bool)
  /-- A request put off. -/
  | defer (asks : Bool)
  /-- The request put off is looked at. -/
  | settle (enabled : Bool)
  deriving DecidableEq

/-- A line: how often it was pulsed, and the request put off. -/
structure State where
  pulses : Nat
  deferred : Option Bool

/-- One event; a request put off has to be settled before the next. -/
def step (state : State) : Event → Except Unit State
  | .raise honoured =>
      .ok { state with pulses := state.pulses + honoured.toNat }
  | .defer asks =>
      match state.deferred with
      | none => .ok { state with deferred := some asks }
      | some _ => .error ()
  | .settle enabled =>
      match state.deferred with
      | none => .error ()
      | some asks => .ok ⟨state.pulses + (asks && enabled).toNat, none⟩

/-- What the requests put off ask for, in turn. -/
def asked (events : List Event) : List Bool :=
  events.filterMap fun
    | .defer asks => some asks
    | _ => none

/-- Whether pulses were enabled when requests were settled, in turn. -/
def settled (events : List Event) : List Bool :=
  events.filterMap fun
    | .settle enabled => some enabled
    | _ => none

/-- The pulses a list of events comes to, with some requests put off before. -/
def due (before : List Bool) (events : List Event) : Nat :=
  events.count (.raise true) +
    ((before ++ asked events).zip (settled events)).count (true, true)

/-! ## One event -/

section Events

variable (before : List Bool) (events : List Event)

theorem due_raise (honoured : Bool) :
    due before (.raise honoured :: events) =
      honoured.toNat + due before events := by
  have others : asked (.raise honoured :: events) = asked events ∧
      settled (.raise honoured :: events) = settled events := ⟨rfl, rfl⟩
  rw [due, due, others.1, others.2, List.count_cons]
  cases honoured with
  | true =>
      simp only [beq_self_eq_true, if_true, Bool.toNat_true]
      omega
  | false => simp

/-- A request put off is the first to be settled. -/
theorem due_defer (asks : Bool) :
    due [] (.defer asks :: events) = due [asks] events := by
  have others : asked (.defer asks :: events) = asks :: asked events ∧
      settled (.defer asks :: events) = settled events := ⟨rfl, rfl⟩
  rw [due, due, others.1, others.2, List.count_cons]
  simp

theorem due_settle (asks enabled : Bool) :
    due [asks] (.settle enabled :: events) =
      (asks && enabled).toNat + due [] events := by
  have others : asked (.settle enabled :: events) = asked events ∧
      settled (.settle enabled :: events) = enabled :: settled events :=
    ⟨rfl, rfl⟩
  rw [due, due, others.1, others.2, List.count_cons, List.singleton_append,
    List.zip_cons_cons, List.count_cons, List.nil_append]
  cases asks <;> cases enabled <;> simp
  omega

end Events

/-! ## Runs -/

/-- **The line adds up.**  Over every run the pulses are those raised at once and
those asked for by a request that was enabled when it was settled, each request
settled before the next is put off. -/
theorem pulses_of_run
    {state last : State}
    {events : List Event}
    (reaches : Machine.run step state events = .ok last) :
    last.pulses = state.pulses + due state.deferred.toList events ∧
      state.deferred.toList.length + (asked events).length =
        (settled events).length + last.deferred.toList.length := by
  induction events generalizing state with
  | nil =>
      simp only [Machine.run_nil, Except.ok.injEq] at reaches
      simp [due, asked, settled, reaches]
  | cons event events inductionHypothesis =>
      obtain ⟨next, moves, rest⟩ := Machine.run_cons_eq_ok.mp reaches
      obtain ⟨pulses, lengths⟩ := inductionHypothesis rest
      obtain ⟨before, deferred⟩ := state
      cases event with
      | raise honoured =>
          cases moves
          refine ⟨?_, lengths⟩
          rw [pulses, due_raise]
          exact Nat.add_assoc _ _ _
      | defer asks =>
          cases deferred with
          | none =>
              cases moves
              refine ⟨?_, ?_⟩
              · rw [pulses]
                exact congrArg (before + ·) (due_defer events asks).symm
              · change 0 + ((asked events).length + 1) = _
                change 1 + (asked events).length = _ at lengths
                change _ = (settled events).length + _
                omega
          | some other => cases moves
      | settle enabled =>
          cases deferred with
          | none => cases moves
          | some asks =>
              cases moves
              refine ⟨?_, ?_⟩
              · rw [pulses]
                change before + (asks && enabled).toNat + due [] events =
                  before + due [asks] (.settle enabled :: events)
                rw [due_settle, Nat.add_assoc]
              · change 1 + (asked events).length =
                  (settled events).length + 1 + _
                change 0 + (asked events).length = _ at lengths
                omega

end Line
