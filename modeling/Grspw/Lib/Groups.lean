import Grspw.Lib.Memory

/-!
# Consecutive groups of cells, each reversed

The first cells of a memory cut into groups of one size, the last group being
shorter where the number of cells asks for it.  Reversing every group in place
reads and writes exactly these cells and is its own inverse.
-/

namespace Memory

variable {β : Type*}

/-- The cell that a cell below `len` changes places with when every group of
`size` cells is reversed. -/
def mirror (size len cell : Nat) : Nat :=
  cell / size * size +
    (min size (len - cell / size * size) - 1 - cell % size)

/-- The mirror image within the group that starts at a cell. -/
theorem mirror_add
    {size start offset : Nat}
    (aligned : size ∣ start)
    (within : offset < size)
    (len : Nat) :
    mirror size len (start + offset) =
      start + (min size (len - start) - 1 - offset) := by
  obtain ⟨index, rfl⟩ := aligned
  have positive : 0 < size := Nat.zero_lt_of_lt within
  have group : (size * index + offset) / size = index := by
    rw [Nat.mul_add_div positive, Nat.div_eq_of_lt within, Nat.add_zero]
  have place : (size * index + offset) % size = offset := by
    rw [Nat.mul_add_mod, Nat.mod_eq_of_lt within]
  rw [mirror, group, place, Nat.mul_comm index size]

/-- Every cell has a place in the group it belongs to. -/
theorem exists_group
    {size : Nat}
    (positive : 0 < size)
    (cell : Nat) :
    ∃ start offset, size ∣ start ∧ offset < size ∧ cell = start + offset :=
  ⟨size * (cell / size), cell % size, Nat.dvd_mul_right _ _,
    Nat.mod_lt _ positive, (Nat.div_add_mod cell size).symm⟩

theorem mirror_lt
    {size len cell : Nat}
    (positive : 0 < size)
    (below : cell < len) :
    mirror size len cell < len := by
  obtain ⟨start, offset, aligned, within, rfl⟩ := exists_group positive cell
  rw [mirror_add aligned within]
  omega

/-- Mirroring twice is mirroring not at all. -/
theorem mirror_mirror
    {size len cell : Nat}
    (positive : 0 < size)
    (below : cell < len) :
    mirror size len (mirror size len cell) = cell := by
  obtain ⟨start, offset, aligned, within, rfl⟩ := exists_group positive cell
  rw [mirror_add aligned within, mirror_add aligned (by omega)]
  omega

/-- A group written in reverse over its own place. -/
theorem write_group_apply
    {size start count : Nat}
    (aligned : size ∣ start)
    (short : count ≤ size)
    (dest src : Memory β)
    (cell : Nat) :
    dest.write start
        ((List.range count).map fun index => src (start + (count - 1 - index)))
        cell =
      if start ≤ cell ∧ cell < start + count then
        src (mirror size (start + count) cell)
      else dest cell := by
  split
  · rename_i inside
    obtain ⟨offset, rfl⟩ := Nat.exists_eq_add_of_le inside.1
    have within : offset < count := by omega
    rw [write_apply_add _ _ _ _ (by simpa using within),
      mirror_add aligned (by omega), List.getElem_map, List.getElem_range]
    congr 2
    omega
  · rename_i outside
    apply write_apply_of_outside
    rw [List.length_map, List.length_range]
    omega

/-- The cells of `src` below `len` with every group reversed, over `dest`. -/
def reverseGroups
    (size len : Nat)
    (dest src : Memory β) : Memory β :=
  fun cell => if cell < len then src (mirror size len cell) else dest cell

theorem reverseGroups_of_lt
    {len cell : Nat}
    (below : cell < len)
    (size : Nat)
    (dest src : Memory β) :
    reverseGroups size len dest src cell = src (mirror size len cell) :=
  if_pos below

theorem reverseGroups_of_le
    {len cell : Nat}
    (beyond : len ≤ cell)
    (size : Nat)
    (dest src : Memory β) :
    reverseGroups size len dest src cell = dest cell :=
  if_neg (Nat.not_lt.mpr beyond)

/-- Only the cells below `len` are read. -/
theorem reverseGroups_congr
    {size len : Nat}
    (positive : 0 < size)
    (dest : Memory β)
    {src src' : Memory β}
    (agree : ∀ cell < len, src cell = src' cell) :
    reverseGroups size len dest src = reverseGroups size len dest src' := by
  funext cell
  unfold reverseGroups
  by_cases below : cell < len
  · rw [if_pos below, if_pos below]
    exact agree _ (mirror_lt positive below)
  · rw [if_neg below, if_neg below]

/-- Reversing every group twice gives the cells back. -/
theorem reverseGroups_reverseGroups
    {size len cell : Nat}
    (positive : 0 < size)
    (below : cell < len)
    (dest dest' src : Memory β) :
    reverseGroups size len dest' (reverseGroups size len dest src) cell =
      src cell := by
  rw [reverseGroups_of_lt below,
    reverseGroups_of_lt (mirror_lt positive below),
    mirror_mirror positive below]

end Memory
