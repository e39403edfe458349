import Grspw.Lib.Groups
import Grspw.Util

/-!
# The byte order law

`endianness_swap` reverses each group of four bytes and a last group of one or
three bytes.  A last group of two bytes is put two bytes apart instead of side
by side, so the law holds for every length but those.
-/

namespace Grspw

/-- What converting the byte order of `len` bytes does. -/
structure SwapLaw (len : Uint32) : Prop where
  /-- Only the first `len` bytes of the source are read. -/
  reads : ∀ dest src src' : Memory Uint8,
    (∀ cell < len.toNat, src cell = src' cell) →
      endiannessSwap dest src len = endiannessSwap dest src' len
  /-- Nothing is written beyond the first `len` bytes. -/
  writes : ∀ (dest src : Memory Uint8) (cell : Nat), len.toNat ≤ cell →
    endiannessSwap dest src len cell = dest cell
  /-- Each group appears reversed in place. -/
  reverses : ∀ (dest src : Memory Uint8), ∀ cell < len.toNat,
    endiannessSwap dest src len cell = src (Memory.mirror 4 len.toNat cell)
  involutive : ∀ (dest dest' src : Memory Uint8), ∀ cell < len.toNat,
    endiannessSwap dest' (endiannessSwap dest src len) len cell = src cell
  /-- What was copied to guest RAM is read back, whatever block `malloc`
  returned. -/
  roundTrip : ∀ (ram tmpbuff buff back : Memory Uint8) (addr : Uint32)
    (sawpEndian : Bool), ∀ cell < len.toNat,
    readLeon3Ram
        (ram.write addr.toNat (leon3Bytes tmpbuff buff len sawpEndian)) addr
        back len sawpEndian cell =
      buff cell

/-! ## The loop -/

/-- From an aligned index on, the loop reverses every group unless two bytes are
left at the end. -/
theorem endiannessSwapLoop_apply
    (src : Memory Uint8)
    {byte i : Nat}
    (dest : Memory Uint8)
    (aligned : 4 ∣ i)
    (noPair : byte % 4 ≠ 2)
    (cell : Nat) :
    endiannessSwapLoop src byte i dest cell =
      if i ≤ cell ∧ cell < i + byte then
        src (Memory.mirror 4 (i + byte) cell)
      else dest cell := by
  fun_induction endiannessSwapLoop src byte i dest with
  | case1 byte i dest inductionHypothesis =>
      have bytes : [src (3 + i), src (2 + i), src (1 + i), src i] =
          (List.range 4).map fun index => src (i + (4 - 1 - index)) := by
        simp only [Nat.add_comm _ i]
        rfl
      have next : 4 ∣ i + 4 := Nat.dvd_add aligned (Nat.dvd_refl 4)
      have total : i + 4 + byte = i + (byte + 4) := by omega
      rw [inductionHypothesis next (by omega), total, bytes,
        Memory.write_group_apply aligned (Nat.le_refl 4)]
      by_cases group : i ≤ cell ∧ cell < i + 4
      · -- the first group is full, whatever comes after it
        obtain ⟨offset, rfl⟩ := Nat.exists_eq_add_of_le group.1
        have within : offset < 4 := by omega
        rw [if_neg (by omega), if_pos group, if_pos (by omega),
          Memory.mirror_add aligned within, Memory.mirror_add aligned within]
        congr 1
        omega
      · rw [if_neg group]
        by_cases later : i + 4 ≤ cell ∧ cell < i + (byte + 4)
        · rw [if_pos later, if_pos (by omega)]
        · rw [if_neg later, if_neg (by omega)]
  | case2 i dest =>
      have bytes : [src (2 + i), src (1 + i), src i] =
          (List.range 3).map fun index => src (i + (3 - 1 - index)) := by
        simp only [Nat.add_comm _ i]
        rfl
      rw [bytes]
      exact Memory.write_group_apply aligned (by decide) dest src cell
  | case3 i dest => exact absurd rfl noPair
  | case4 i dest =>
      have short : 1 ≤ 4 := by decide
      exact Memory.write_group_apply aligned short dest src cell
  | case5 i dest => rw [if_neg (by omega)]

/-- With two bytes left at the end, the first of them is written past the end of
the destination. -/
theorem endiannessSwapLoop_pair
    (src : Memory Uint8)
    {byte i : Nat}
    (dest : Memory Uint8)
    (pair : byte % 4 = 2) :
    endiannessSwapLoop src byte i dest (i + byte) = src (i + byte - 2) := by
  fun_induction endiannessSwapLoop src byte i dest with
  | case1 byte i dest inductionHypothesis =>
      have total : i + 4 + byte = i + (byte + 4) := by omega
      rw [← total]
      exact inductionHypothesis (by omega)
  | case2 i dest => omega
  | case3 i dest =>
      exact Memory.write_apply_add _ (i + 2) [src i] 0 Nat.zero_lt_one
  | case4 i dest => omega
  | case5 i dest => omega

/-! ## The conversion -/

/-- A straight copy to guest RAM and back. -/
theorem readLeon3Ram_write_straight
    (ram tmpbuff buff back : Memory Uint8)
    (addr : Uint32)
    {len : Uint32}
    {cell : Nat}
    (below : cell < len.toNat) :
    readLeon3Ram (ram.write addr.toNat (leon3Bytes tmpbuff buff len false)) addr
      back len false cell = buff cell := by
  have copied := read_readLeon3Ram
    (ram.write addr.toNat (leon3Bytes tmpbuff buff len false)) back addr len
  have written := Memory.read_write_same ram addr.toNat (buff.read 0 len.toNat)
  rw [Memory.length_read] at written
  rw [leon3Bytes_copy, written] at copied
  have byte := congrArg (fun bytes => bytes[cell]?) copied
  simp only [Memory.getElem?_read, if_pos below, Nat.zero_add,
    Option.some.injEq] at byte
  rw [leon3Bytes_copy]
  exact byte

section Lengths

variable {len : Uint32} (small : len.toNat < 2 ^ 31)

include small

/-- Below 2^31 the signed count is the length. -/
theorem toNat_toInt_of_lt : len.toInt.toNat = len.toNat := by
  rw [BitVec.toInt_eq_toNat_of_lt (by omega), Int.toNat_natCast]

/-- The conversion reverses every group of four and the last one. -/
theorem endiannessSwap_eq
    (noPair : len.toNat % 4 ≠ 2)
    (dest src : Memory Uint8) :
    endiannessSwap dest src len =
      Memory.reverseGroups 4 len.toNat dest src := by
  funext cell
  have loop := endiannessSwapLoop_apply src dest (Nat.dvd_zero 4) noPair cell
  rw [endiannessSwap, toNat_toInt_of_lt small, loop, Memory.reverseGroups]
  simp only [Nat.zero_add, Nat.zero_le, true_and]

/-- A last group of two bytes reaches past the destination. -/
theorem endiannessSwap_pair
    (pair : len.toNat % 4 = 2)
    (dest src : Memory Uint8) :
    endiannessSwap dest src len len.toNat = src (len.toNat - 2) := by
  have loop := @endiannessSwapLoop_pair src len.toNat 0 dest pair
  rw [Nat.zero_add] at loop
  rw [endiannessSwap, toNat_toInt_of_lt small]
  exact loop

/-- A swapped copy to guest RAM and back. -/
theorem readLeon3Ram_write_swapped
    (noPair : len.toNat % 4 ≠ 2)
    (ram tmpbuff buff back : Memory Uint8)
    (addr : Uint32)
    {cell : Nat}
    (below : cell < len.toNat) :
    readLeon3Ram (ram.write addr.toNat (leon3Bytes tmpbuff buff len true)) addr
      back len true cell = buff cell := by
  let swapped := Memory.reverseGroups 4 len.toNat tmpbuff buff
  have bytes : leon3Bytes tmpbuff buff len true = swapped.read 0 len.toNat := by
    simp only [leon3Bytes, if_true, endiannessSwap_eq small noPair]
    rfl
  have stored : ∀ offset < len.toNat,
      ram.write addr.toNat (swapped.read 0 len.toNat) (addr.toNat + offset) =
        swapped offset := by
    intro offset within
    have written := Memory.write_apply_add ram addr.toNat
      (swapped.read 0 len.toNat) offset (by rwa [Memory.length_read])
    rw [written]
    simp [Memory.read]
  simp only [readLeon3Ram, if_true, bytes, endiannessSwap_eq small noPair]
  rw [Memory.reverseGroups_congr (by decide) back stored]
  exact Memory.reverseGroups_reverseGroups (by decide) below tmpbuff back buff

end Lengths

/-- **Byte order law.**  For every length below 2^31, the conversion reverses
each group in place, is its own inverse and is undone by the way back exactly
when no group of two bytes is left at the end. -/
theorem swapLaw_iff (len : Uint32) (small : len.toNat < 2 ^ 31) :
    SwapLaw len ↔ len.toNat % 4 ≠ 2 := by
  constructor
  · intro law pair
    have beyond := law.writes (fun _ => 0) (fun _ => 1) len.toNat (Nat.le_refl _)
    rw [endiannessSwap_pair small pair] at beyond
    exact absurd beyond (by decide)
  · intro noPair
    have swap := endiannessSwap_eq small noPair
    constructor
    · intro dest src src' agree
      rw [swap, swap]
      exact Memory.reverseGroups_congr (by decide) dest agree
    · intro dest src cell beyond
      rw [swap]
      exact Memory.reverseGroups_of_le beyond 4 dest src
    · intro dest src cell below
      rw [swap]
      exact Memory.reverseGroups_of_lt below 4 dest src
    · intro dest dest' src cell below
      rw [swap, swap]
      exact Memory.reverseGroups_reverseGroups (by decide) below dest dest' src
    · intro ram tmpbuff buff back addr sawpEndian cell below
      cases sawpEndian with
      | false =>
          exact readLeon3Ram_write_straight ram tmpbuff buff back addr below
      | true =>
          exact readLeon3Ram_write_swapped small noPair ram tmpbuff buff back
            addr below

/-- Seven bytes: a group of four and a group of three. -/
theorem swapLaw_seven : SwapLaw 7 :=
  (swapLaw_iff 7 (by decide)).mpr (by decide)

/-- Two bytes are put two bytes apart. -/
theorem not_swapLaw_two :
    ¬∀ len : Uint32, len.toNat < 2 ^ 31 → SwapLaw len := by
  intro all
  have beyond := (all 2 (by decide)).writes (fun _ => 0) (fun _ => 1) 2
    (by decide)
  exact absurd beyond (by decide)

end Grspw
