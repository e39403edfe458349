import Mathlib.Data.List.Basic
import Mathlib.Tactic.TypeStar

/-!
# Cell-addressed memories

A memory gives a value to every address.  Reading takes a list of consecutive
cells, writing replaces them, and a write leaves every other cell alone.
-/

/-- A total memory over natural-number addresses. -/
abbrev Memory (β : Type*) := Nat → β

namespace Memory

variable {β : Type*}

/-- The `count` cells from `addr` on. -/
def read (memory : Memory β) (addr count : Nat) : List β :=
  (List.range count).map fun offset => memory (addr + offset)

/-- Replace the cells from `addr` on by a list of values. -/
def write (memory : Memory β) (addr : Nat) (values : List β) : Memory β :=
  fun cell =>
    if addr ≤ cell then (values[cell - addr]?).getD (memory cell)
    else memory cell

@[simp] theorem length_read (memory : Memory β) (addr count : Nat) :
    (memory.read addr count).length = count := by
  simp [read]

theorem getElem?_read
    (memory : Memory β)
    (addr count offset : Nat) :
    (memory.read addr count)[offset]? =
      if offset < count then some (memory (addr + offset)) else none := by
  by_cases within : offset < count
  · simp [read, within]
  · simp [read, within]

/-- Two reads agree exactly when their cells do. -/
theorem read_congr
    {left right : Memory β}
    {addr addr' count : Nat}
    (agree : ∀ offset < count, left (addr + offset) = right (addr' + offset)) :
    left.read addr count = right.read addr' count := by
  apply List.map_congr_left
  intro offset member
  exact agree offset (List.mem_range.mp member)

/-- A written cell holds the value written there. -/
theorem write_apply_add
    (memory : Memory β)
    (addr : Nat)
    (values : List β)
    (offset : Nat)
    (within : offset < values.length) :
    memory.write addr values (addr + offset) = values[offset] := by
  simp [write, within]

/-- A write leaves the cells outside its range alone. -/
theorem write_apply_of_outside
    (memory : Memory β)
    (addr : Nat)
    (values : List β)
    (cell : Nat)
    (outside : cell < addr ∨ addr + values.length ≤ cell) :
    memory.write addr values cell = memory cell := by
  unfold write
  split
  · rw [List.getElem?_eq_none (by omega)]
    rfl
  · rfl

/-- A write of one cell. -/
theorem write_singleton_apply
    (memory : Memory β)
    (addr : Nat)
    (value : β)
    (cell : Nat) :
    memory.write addr [value] cell =
      if cell = addr then value else memory cell := by
  split
  · rename_i same
    rw [same]
    exact write_apply_add memory addr [value] 0 Nat.zero_lt_one
  · apply write_apply_of_outside
    rw [List.length_singleton]
    omega

/-- A cell that was written does not depend on the memory before. -/
theorem write_apply_congr
    {left right : Memory β}
    {addr : Nat}
    {values : List β}
    {cell : Nat}
    (agree : addr ≤ cell ∧ cell < addr + values.length ∨
      left cell = right cell) :
    left.write addr values cell = right.write addr values cell := by
  unfold write
  split
  · rename_i above
    obtain ⟨_, below⟩ | same := agree
    · rw [List.getElem?_eq_getElem (by omega), Option.getD_some,
        Option.getD_some]
    · rw [same]
  · rename_i below
    obtain ⟨above, _⟩ | same := agree
    · exact absurd above below
    · exact same

/-- Writes of ranges apart from each other commute. -/
theorem write_comm
    (memory : Memory β)
    (values values' : List β)
    {addr addr' : Nat}
    (apart : addr + values.length ≤ addr' ∨ addr' + values'.length ≤ addr) :
    (memory.write addr values).write addr' values' =
      (memory.write addr' values').write addr values := by
  funext cell
  by_cases inFirst : addr ≤ cell ∧ cell < addr + values.length
  · rw [write_apply_of_outside _ addr' values' _ (by omega)]
    exact write_apply_congr (Or.inl inFirst)
  · rw [write_apply_of_outside _ addr values _ (by omega)]
    apply write_apply_congr
    exact Or.inr (write_apply_of_outside _ addr values _ (by omega))

/-- Reading back what was just written. -/
theorem read_write_same
    (memory : Memory β)
    (addr : Nat)
    (values : List β) :
    (memory.write addr values).read addr values.length = values := by
  apply List.ext_getElem (by simp)
  intro offset readBound listBound
  simp only [read, List.getElem_map, List.getElem_range]
  exact write_apply_add memory addr values offset listBound

/-- Reading part of what was just written. -/
theorem read_write_within
    (memory : Memory β)
    {values : List β}
    {start count : Nat}
    (within : start + count ≤ values.length) :
    (memory.write 0 values).read start count =
      (values.drop start).take count := by
  apply List.ext_getElem
  · rw [length_read, List.length_take, List.length_drop]
    omega
  · intro offset readBound _
    rw [length_read] at readBound
    have written := write_apply_add memory 0 values (start + offset) (by omega)
    rw [Nat.zero_add] at written
    simp only [read, List.getElem_map, List.getElem_range, List.getElem_take,
      List.getElem_drop]
    exact written

/-- Reading a range that a write does not touch. -/
theorem read_write_of_disjoint
    (memory : Memory β)
    (addr : Nat)
    (values : List β)
    (addr' count : Nat)
    (disjoint : addr' + count ≤ addr ∨ addr + values.length ≤ addr') :
    (memory.write addr values).read addr' count = memory.read addr' count := by
  apply read_congr
  intro offset within
  exact write_apply_of_outside memory addr values _ (by omega)

/-! ## Frames -/

/-- Two memories agree on every cell outside a region. -/
def SameOutside (region : Nat → Prop) (before after : Memory β) : Prop :=
  ∀ cell, ¬region cell → after cell = before cell

theorem SameOutside.refl (region : Nat → Prop) (memory : Memory β) :
    SameOutside region memory memory := fun _ _ => rfl

/-- A memory agrees with itself outside any larger region as well. -/
theorem SameOutside.mono
    {small large : Nat → Prop}
    {before after : Memory β}
    (same : SameOutside small before after)
    (included : ∀ cell, small cell → large cell) :
    SameOutside large before after := by
  intro cell outside
  exact same cell fun inside => outside (included cell inside)

/-- Frames of consecutive changes compose. -/
theorem SameOutside.trans
    {region : Nat → Prop}
    {before middle after : Memory β}
    (first : SameOutside region before middle)
    (second : SameOutside region middle after) :
    SameOutside region before after := by
  intro cell outside
  rw [second cell outside, first cell outside]

/-- A write stays within its range. -/
theorem sameOutside_write
    (memory : Memory β)
    (addr : Nat)
    (values : List β) :
    SameOutside (fun cell => addr ≤ cell ∧ cell < addr + values.length) memory
      (memory.write addr values) := by
  intro cell outside
  exact write_apply_of_outside memory addr values cell (by omega)

/-! ## Partly known contents -/

/-- A memory holds all that is known of it. -/
def Completes (known : Nat → Option β) (memory : Memory β) : Prop :=
  ∀ cell, ∀ value ∈ known cell, memory cell = value

/-- What is known, with one value in every other cell. -/
def fill (known : Nat → Option β) (value : β) : Memory β :=
  fun cell => (known cell).getD value

theorem completes_fill (known : Nat → Option β) (value : β) :
    Completes known (fill known value) := by
  intro cell held isKnown
  rw [fill, Option.mem_def.mp isKnown, Option.getD_some]

theorem fill_of_eq_none
    {known : Nat → Option β}
    {cell : Nat}
    (unknown : known cell = none)
    (value : β) :
    fill known value cell = value := by
  rw [fill, unknown, Option.getD_none]

/-- Completions agree where something is known. -/
theorem Completes.eq_of_ne_none
    {known : Nat → Option β}
    {left right : Memory β}
    {cell : Nat}
    (completesLeft : Completes known left)
    (completesRight : Completes known right)
    (isKnown : known cell ≠ none) :
    left cell = right cell := by
  obtain ⟨value, holds⟩ := Option.ne_none_iff_exists'.mp isKnown
  rw [completesLeft cell value holds, completesRight cell value holds]

end Memory
