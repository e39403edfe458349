import Mathlib.Data.BitVec
import Mathlib.Tactic.TypeStar

/-!
# Words: byte images, bit masks and bit fields

Facts about 32-bit words that hold for any device: the little-endian image of a
word and back, what testing, setting and clearing under a mask do to each
other, and a contiguous field of a word as an arithmetic digit.
-/

namespace Word

/-! ## Byte images -/

/-- The word whose bytes, least significant first, are given. -/
def ofBytes (b₀ b₁ b₂ b₃ : BitVec 8) : BitVec 32 :=
  BitVec.ofNat 32
    (b₀.toNat + 256 * b₁.toNat + 65536 * b₂.toNat + 16777216 * b₃.toNat)

/-- Byte `index` of a word, counted from the least significant one. -/
def byte (word : BitVec 32) (index : Nat) : BitVec 8 :=
  BitVec.ofNat 8 (word.toNat / 256 ^ index)

/-- The four bytes of a word, least significant first. -/
def bytes (word : BitVec 32) : List (BitVec 8) :=
  [byte word 0, byte word 1, byte word 2, byte word 3]

/-- A word is rebuilt from its bytes. -/
@[simp] theorem ofBytes_byte (word : BitVec 32) :
    ofBytes (byte word 0) (byte word 1) (byte word 2) (byte word 3) = word := by
  apply BitVec.eq_of_toNat_eq
  have bound := word.isLt
  simp only [ofBytes, byte, BitVec.toNat_ofNat]
  omega

/-- A word weighs its bytes by powers of 256. -/
theorem toNat_ofBytes (b₀ b₁ b₂ b₃ : BitVec 8) :
    (ofBytes b₀ b₁ b₂ b₃).toNat =
      b₀.toNat + 256 * b₁.toNat + 65536 * b₂.toNat + 16777216 * b₃.toNat := by
  have first := b₀.isLt
  have second := b₁.isLt
  have third := b₂.isLt
  have fourth := b₃.isLt
  rw [ofBytes, BitVec.toNat_ofNat]
  omega

/-! ## Masks -/

/-- Setting bits outside a mask does not show under it. -/
theorem or_and_of_disjoint
    {word set mask : BitVec 32}
    (disjoint : mask &&& set = 0) :
    (word ||| set) &&& mask = word &&& mask := by
  rw [BitVec.and_or_distrib_right, BitVec.and_comm set, disjoint,
    BitVec.ofNat_eq_ofNat, BitVec.or_zero]

/-- Clearing bits outside a mask does not show under it. -/
theorem and_not_and_of_disjoint
    {word clear mask : BitVec 32}
    (disjoint : mask &&& clear = 0) :
    word &&& ~~~clear &&& mask = word &&& mask := by
  have kept : ~~~clear &&& mask = mask := by
    apply BitVec.eq_of_getLsbD_eq
    intro i bound
    have bit := congrArg (fun value => value.getLsbD i) disjoint
    simp only [BitVec.getLsbD_and, BitVec.ofNat_eq_ofNat,
      BitVec.getLsbD_zero] at bit
    simp only [BitVec.getLsbD_and, BitVec.getLsbD_not, bound, decide_true,
      Bool.true_and]
    revert bit
    cases mask.getLsbD i <;> cases clear.getLsbD i <;> simp
  rw [BitVec.and_assoc, kept]

/-- The part of a word under a mask and the part outside it share no bit. -/
theorem and_and_and_not (word other mask : BitVec 32) :
    (word &&& mask) &&& (other &&& ~~~mask) = 0 := by
  apply BitVec.eq_of_getLsbD_eq
  intro i bound
  simp only [BitVec.getLsbD_and, BitVec.getLsbD_not, bound, decide_true,
    Bool.true_and, BitVec.ofNat_eq_ofNat, BitVec.getLsbD_zero]
  cases word.getLsbD i <;> cases other.getLsbD i <;>
    cases mask.getLsbD i <;> rfl

/-- Setting the bits of a value yields that value under a mask exactly when no
other bit was set there. -/
theorem or_and_eq_and_iff {word value mask : BitVec 32} :
    (word ||| value) &&& mask = value &&& mask ↔
      word &&& mask &&& ~~~value = 0 := by
  constructor
  · intro same
    apply BitVec.eq_of_getLsbD_eq
    intro i bound
    have bit := congrArg (fun word => word.getLsbD i) same
    simp only [BitVec.getLsbD_and, BitVec.getLsbD_or] at bit
    simp only [BitVec.getLsbD_and, BitVec.getLsbD_not, bound, decide_true,
      Bool.true_and, BitVec.ofNat_eq_ofNat, BitVec.getLsbD_zero]
    revert bit
    cases word.getLsbD i <;> cases value.getLsbD i <;>
      cases mask.getLsbD i <;> simp
  · intro others
    apply BitVec.eq_of_getLsbD_eq
    intro i bound
    have bit := congrArg (fun word => word.getLsbD i) others
    simp only [BitVec.getLsbD_and, BitVec.getLsbD_not, bound, decide_true,
      Bool.true_and, BitVec.ofNat_eq_ofNat, BitVec.getLsbD_zero] at bit
    simp only [BitVec.getLsbD_and, BitVec.getLsbD_or]
    revert bit
    cases word.getLsbD i <;> cases value.getLsbD i <;>
      cases mask.getLsbD i <;> simp

/-- A word is its part under a mask plus its part outside. -/
theorem toNat_and_add_toNat_and_not (word mask : BitVec 32) :
    (word &&& mask).toNat + (word &&& ~~~mask).toNat = word.toNat := by
  rw [← BitVec.toNat_add_of_and_eq_zero (and_and_and_not word word mask),
    BitVec.add_eq_or_of_and_eq_zero _ _ (and_and_and_not word word mask)]
  congr 1
  apply BitVec.eq_of_getLsbD_eq
  intro i bound
  simp only [BitVec.getLsbD_or, BitVec.getLsbD_and, BitVec.getLsbD_not, bound,
    decide_true, Bool.true_and]
  cases word.getLsbD i <;> cases mask.getLsbD i <;> rfl

/-! ## Fields -/

/-- `len` ones at the bottom of a word. -/
def ones (len : Nat) : BitVec 32 := ~~~0#32 >>> (32 - len)

theorem getLsbD_ones (len i : Nat) (fits : len ≤ 32) :
    (ones len).getLsbD i = decide (i < len) := by
  simp only [ones, BitVec.getLsbD_ushiftRight, BitVec.getLsbD_not,
    BitVec.getLsbD_zero, Bool.not_false, Bool.and_true]
  congr 1
  simp only [eq_iff_iff]
  omega

/-- The value found under a field mask, as a digit in its place. -/
theorem toNat_and_field
    (word : BitVec 32)
    (low len : Nat)
    (fits : low + len ≤ 32) :
    (word &&& ones len <<< low).toNat =
      word.toNat / 2 ^ low % 2 ^ len * 2 ^ low := by
  apply Nat.eq_of_testBit_eq
  intro i
  rw [BitVec.testBit_toNat, BitVec.getLsbD_and, BitVec.getLsbD_shiftLeft,
    getLsbD_ones _ _ (by omega), Nat.testBit_mul_two_pow,
    Nat.testBit_mod_two_pow, Nat.testBit_div_two_pow, BitVec.testBit_toNat]
  by_cases above : low ≤ i
  · rw [Nat.sub_add_cancel above]
    by_cases within : i < 32
    · simp [above, within, Bool.and_comm, Nat.not_lt.mpr above]
    · simp [BitVec.getLsbD_of_ge word i (by omega)]
  · simp [above, Nat.lt_of_not_le above]

/-- Replacing a field by another word's, in digits. -/
theorem toNat_replace_field
    (word value : BitVec 32)
    (low len : Nat)
    (fits : low + len ≤ 32) :
    ((word &&& ~~~(ones len <<< low)) ||| (value &&& ones len <<< low)).toNat =
      word.toNat - word.toNat / 2 ^ low % 2 ^ len * 2 ^ low +
        value.toNat / 2 ^ low % 2 ^ len * 2 ^ low := by
  have disjoint := and_and_and_not value word (ones len <<< low)
  rw [BitVec.and_comm] at disjoint
  have split := toNat_and_add_toNat_and_not word (ones len <<< low)
  rw [← BitVec.add_eq_or_of_and_eq_zero _ _ disjoint,
    BitVec.toNat_add_of_and_eq_zero disjoint, toNat_and_field _ _ _ fits]
  rw [toNat_and_field _ _ _ fits] at split
  omega

end Word
