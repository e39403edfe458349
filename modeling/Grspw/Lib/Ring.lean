import Grspw.Lib.Machine

/-!
# Descriptor rings

A ring is an aligned table of equal entries walked in order: from each entry to
the next one, from the last back to the first, and back to the first wherever
the entry itself asks for it.  A monitor reads which entries a device fetches
and how its table register is rewritten, and accepts fetches in ring order.
-/

/-- The shape of a descriptor table. -/
structure DescriptorRing where
  stride : Nat
  count : Nat
  stride_pos : 0 < stride
  count_pos : 0 < count

namespace DescriptorRing

variable (ring : DescriptorRing)

/-! ## Addresses -/

/-- The size of a table, and its alignment. -/
def span : Nat := ring.stride * ring.count

/-- The table an address lies in. -/
def base (addr : Nat) : Nat := addr / ring.span * ring.span

/-- The entry of its table an address lies in. -/
def selector (addr : Nat) : Nat := addr % ring.span / ring.stride

/-- The address of an entry. -/
def entry (base selector : Nat) : Nat := base + ring.stride * selector

/-- The address of the entry that comes next. -/
def successor (addr : Nat) (wraps : Bool) : Nat :=
  if wraps then ring.base addr
  else ring.entry (ring.base addr) ((ring.selector addr + 1) % ring.count)

theorem span_pos : 0 < ring.span := Nat.mul_pos ring.stride_pos ring.count_pos

theorem selector_lt (addr : Nat) : ring.selector addr < ring.count := by
  unfold selector
  rw [Nat.div_lt_iff_lt_mul ring.stride_pos, Nat.mul_comm]
  exact Nat.mod_lt addr ring.span_pos

theorem stride_dvd_base (addr : Nat) : ring.stride ∣ ring.base addr :=
  Nat.dvd_mul_left_of_dvd (Nat.dvd_mul_right ring.stride ring.count) _

/-- An aligned address is the entry it selects in its table. -/
theorem entry_base_selector
    {addr : Nat}
    (aligned : ring.stride ∣ addr) :
    ring.entry (ring.base addr) (ring.selector addr) = addr := by
  have offsetAligned : ring.stride ∣ addr % ring.span :=
    (Nat.dvd_mod_iff (Nat.dvd_mul_right ring.stride ring.count)).mpr aligned
  unfold entry base selector
  rw [Nat.mul_div_cancel' offsetAligned, Nat.mul_comm]
  exact Nat.div_add_mod addr ring.span

theorem stride_dvd_entry
    {base : Nat}
    (aligned : ring.stride ∣ base)
    (selector : Nat) :
    ring.stride ∣ ring.entry base selector :=
  Nat.dvd_add aligned (Nat.dvd_mul_right ring.stride selector)

/-- An entry lies in the table it is an entry of. -/
theorem base_entry
    (addr : Nat)
    {selector : Nat}
    (within : selector < ring.count) :
    ring.base (ring.entry (ring.base addr) selector) = ring.base addr := by
  have inside : ring.stride * selector < ring.span :=
    Nat.mul_lt_mul_of_pos_left within ring.stride_pos
  unfold entry base
  rw [Nat.mul_comm (addr / ring.span) ring.span,
    Nat.mul_add_div ring.span_pos, Nat.div_eq_of_lt inside, Nat.add_zero,
    Nat.mul_comm]

/-- Entries of one table are told apart by their selectors. -/
theorem entry_injective
    {base selector selector' : Nat}
    (equal : ring.entry base selector = ring.entry base selector') :
    selector = selector' := by
  unfold entry at equal
  exact Nat.eq_of_mul_eq_mul_left ring.stride_pos (Nat.add_left_cancel equal)

/-! ## Walking the ring -/

theorem stride_dvd_successor (addr : Nat) (wraps : Bool) :
    ring.stride ∣ ring.successor addr wraps := by
  unfold successor
  split
  · exact ring.stride_dvd_base addr
  · exact ring.stride_dvd_entry (ring.stride_dvd_base addr) _

/-- The first entry of a table is selected by its base. -/
theorem selector_base (addr : Nat) : ring.selector (ring.base addr) = 0 := by
  unfold selector base
  rw [Nat.mul_mod_left, Nat.zero_div]

theorem selector_entry
    (addr : Nat)
    {selector : Nat}
    (within : selector < ring.count) :
    ring.selector (ring.entry (ring.base addr) selector) = selector := by
  have inside : ring.stride * selector < ring.span :=
    Nat.mul_lt_mul_of_pos_left within ring.stride_pos
  have offset : ring.entry (ring.base addr) selector % ring.span =
      ring.stride * selector := by
    unfold entry base
    rw [Nat.add_comm, Nat.add_mul_mod_self_right, Nat.mod_eq_of_lt inside]
  unfold DescriptorRing.selector
  rw [offset, Nat.mul_div_cancel_left _ ring.stride_pos]

/-- The selector that comes next. -/
theorem selector_successor (addr : Nat) (wraps : Bool) :
    ring.selector (ring.successor addr wraps) =
      if wraps then 0 else (ring.selector addr + 1) % ring.count := by
  unfold successor
  cases wraps with
  | true => exact ring.selector_base addr
  | false => exact ring.selector_entry addr (Nat.mod_lt _ ring.count_pos)

/-- The entries met from an address on, given which ask to wrap. -/
def met (wraps : Nat → Bool) (addr : Nat) : Nat → Nat
  | 0 => addr
  | index + 1 =>
      ring.successor (met wraps addr index) (wraps (met wraps addr index))

theorem stride_dvd_met
    {addr : Nat}
    (aligned : ring.stride ∣ addr)
    (wraps : Nat → Bool)
    (index : Nat) :
    ring.stride ∣ ring.met wraps addr index := by
  cases index with
  | zero => exact aligned
  | succ index => exact ring.stride_dvd_successor _ _

/-- Different entries do not overlap. -/
theorem apart_of_ne
    {left right : Nat}
    (leftAligned : ring.stride ∣ left)
    (rightAligned : ring.stride ∣ right)
    (different : left ≠ right) :
    left + ring.stride ≤ right ∨ right + ring.stride ≤ left := by
  obtain below | above := Nat.lt_or_gt_of_ne different
  · left
    have gap : ring.stride ∣ right - left := Nat.dvd_sub rightAligned leftAligned
    have atLeast := Nat.le_of_dvd (by omega) gap
    omega
  · right
    have gap : ring.stride ∣ left - right := Nat.dvd_sub leftAligned rightAligned
    have atLeast := Nat.le_of_dvd (by omega) gap
    omega

/-! ## Fetching in order -/

/-- What one step of a device shows of its ring. -/
inductive Event
  /-- The table register now holds an address. -/
  | tableWritten (addr : Nat)
  /-- The table register was reset. -/
  | tableReset
  /-- An entry was fetched; if it was processed, whether it asks to wrap. -/
  | fetched (addr : Nat) (processed : Option Bool)
  /-- None of these. -/
  | quiet
  deriving DecidableEq

/-- Fetches in ring order.  The state is the entry due next, if one is. -/
def monitor : Machine.Monitor Event (Option Nat) where
  next due
    | .tableWritten addr => some addr
    | .tableReset => none
    | .fetched addr none => some addr
    | .fetched addr (some wraps) => some (ring.successor addr wraps)
    | .quiet => due
  ok due
    | .fetched addr _ => due = none ∨ due = some addr
    | _ => True

instance (due : Option Nat) (event : Event) :
    Decidable (ring.monitor.ok due event) :=
  match event with
  | .fetched addr _ =>
      inferInstanceAs (Decidable (due = none ∨ due = some addr))
  | .tableWritten _ => isTrue trivial
  | .tableReset => isTrue trivial
  | .quiet => isTrue trivial

/-- How the table register moves when it follows the ring. -/
def Follows (before after : Nat) : Event → Prop
  | .tableWritten addr => after = addr
  | .tableReset => True
  | .fetched _ none => after = before
  | .fetched _ (some wraps) => after = ring.successor before wraps
  | .quiet => after = before

variable {ring}

/-- A register that holds the entry due next, and is fetched through, holds the
entry due after a step that follows the ring. -/
theorem due_of_follows
    {before after : Nat}
    {due : Option Nat}
    {event : Event}
    (current : ∀ expected, due = some expected → before = expected)
    (fetches : ∀ addr processed,
      event = .fetched addr processed → addr = before)
    (follows : ring.Follows before after event) :
    ∀ expected, ring.monitor.next due event = some expected →
      after = expected := by
  intro expected isDue
  cases event with
  | tableWritten addr =>
      cases isDue
      exact follows
  | tableReset => cases isDue
  | fetched addr processed =>
      have same := fetches addr processed rfl
      subst same
      cases processed with
      | none =>
          cases isDue
          exact follows
      | some wraps =>
          cases isDue
          exact follows
  | quiet =>
      have unmoved : after = before := follows
      rw [unmoved]
      exact current expected isDue

variable {σ ι ε : Type*}

/-- **Ring rule.**  A device that fetches through its table register, and whose
table register follows the ring at every guarded step, fetches in order. -/
theorem accepts_of_follows
    {step : σ → ι → Except ε σ}
    {guard : σ → ι → Prop}
    {view : σ → ι → Event}
    {invariant : σ → Prop}
    (register : σ → Nat)
    (fetches : ∀ state input addr processed,
      view state input = .fetched addr processed → addr = register state)
    (follows : ∀ state input next, invariant state → guard state input →
      step state input = .ok next →
        ring.Follows (register state) (register next) (view state input))
    (preserved : ∀ state input next, invariant state →
      step state input = .ok next → invariant next)
    {state : σ}
    {inputs : List ι}
    (holds : invariant state)
    (guarded : Machine.Guarded step guard state inputs) :
    ring.monitor.Accepts none (Machine.observe step view state inputs) := by
  refine Machine.accepts_of_simulation
    (fun state due =>
      invariant state ∧ ∀ expected, due = some expected →
        register state = expected)
    ?_ ?_ ⟨holds, by simp⟩ guarded
  · intro state input due related _
    cases seen : view state input with
    | fetched addr processed =>
        rw [fetches state input addr processed seen]
        cases due with
        | none => exact Or.inl rfl
        | some expected =>
            exact Or.inr (congrArg some (related.2 expected rfl).symm)
    | _ => trivial
  · intro state input next due related guards moves
    have moved := follows state input next related.1 guards moves
    exact ⟨preserved state input next related.1 moves,
      due_of_follows related.2 (fetches state input) moved⟩

end DescriptorRing
