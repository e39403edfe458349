import Grspw.Lib.Memory
import Grspw.Lib.Word

/-!
# Register bits, byte order and guest RAM

The helpers every other file of the plugin calls: bit tests and updates under a
mask, the conversion between the guest's big-endian words and the host's
little-endian ones, and the two copies to and from guest RAM.
-/

namespace Grspw

/-- Unsigned 8-bit values. -/
abbrev Uint8 := BitVec 8

/-- Unsigned 32-bit values. -/
abbrev Uint32 := BitVec 32

/-! ## Register bits -/

/-- Are all bits of the mask set in the register? -/
def checkbit (reg mask : Uint32) : Bool := mask == reg &&& mask

/-- Set the bits of the mask. -/
def setbit (reg mask : Uint32) : Uint32 := reg ||| mask

/-- Clear the bits of the mask. -/
def clearbit (reg mask : Uint32) : Uint32 := reg &&& ~~~mask

/-- Replace the bits of the mask by those of a new value. -/
def deposit (reg mask value : Uint32) : Uint32 :=
  (reg &&& ~~~mask) ||| (value &&& mask)

theorem checkbit_congr
    {reg reg' mask : Uint32}
    (same : reg &&& mask = reg' &&& mask) :
    checkbit reg mask = checkbit reg' mask := by
  unfold checkbit
  rw [same]

@[simp] theorem checkbit_setbit_self (reg mask : Uint32) :
    checkbit (setbit reg mask) mask = true := by
  have absorbed : (reg ||| mask) &&& mask = mask := by
    apply BitVec.eq_of_getLsbD_eq
    intro i _
    simp only [BitVec.getLsbD_and, BitVec.getLsbD_or]
    cases reg.getLsbD i <;> cases mask.getLsbD i <;> rfl
  simp [checkbit, setbit, absorbed]

theorem checkbit_setbit_of_disjoint
    {reg set mask : Uint32}
    (disjoint : mask &&& set = 0) :
    checkbit (setbit reg set) mask = checkbit reg mask :=
  checkbit_congr (Word.or_and_of_disjoint disjoint)

theorem checkbit_clearbit_of_disjoint
    {reg clear mask : Uint32}
    (disjoint : mask &&& clear = 0) :
    checkbit (clearbit reg clear) mask = checkbit reg mask :=
  checkbit_congr (Word.and_not_and_of_disjoint disjoint)

theorem checkbit_clearbit_self
    {reg mask : Uint32}
    (nonzero : mask ≠ 0) :
    checkbit (clearbit reg mask) mask = false := by
  have cleared : reg &&& ~~~mask &&& mask = 0 := by
    rw [BitVec.and_comm]
    simpa using Word.and_and_and_not mask reg mask
  simpa [checkbit, clearbit, cleared] using nonzero

theorem checkbit_deposit_of_disjoint
    {reg value field mask : Uint32}
    (disjoint : mask &&& field = 0) :
    checkbit (deposit reg field value) mask = checkbit reg mask := by
  apply checkbit_congr
  have hidden : mask &&& (value &&& field) = 0 := by
    rw [BitVec.and_comm value, ← BitVec.and_assoc, disjoint]
    simp
  rw [deposit, Word.or_and_of_disjoint hidden,
    Word.and_not_and_of_disjoint disjoint]

theorem checkbit_deposit_of_subset
    {reg value field mask : Uint32}
    (subset : mask &&& field = mask) :
    checkbit (deposit reg field value) mask = checkbit value mask := by
  apply checkbit_congr
  have outside : mask &&& (reg &&& ~~~field) = 0 := by
    rw [← subset]
    exact Word.and_and_and_not mask reg field
  rw [deposit, BitVec.or_comm, Word.or_and_of_disjoint outside,
    BitVec.and_assoc, BitVec.and_comm field, subset]

/-- The field just replaced holds the new value. -/
theorem deposit_and_self (reg field value : Uint32) :
    deposit reg field value &&& field = value &&& field := by
  have outside : field &&& (reg &&& ~~~field) = 0 := by
    have apart := Word.and_and_and_not field reg field
    rwa [BitVec.and_self] at apart
  rw [deposit, BitVec.or_comm, Word.or_and_of_disjoint outside,
    BitVec.and_assoc, BitVec.and_self]

/-- A mask of one bit tests that bit. -/
theorem checkbit_bit
    (reg : Uint32)
    {bit : Nat}
    (within : bit < 32) :
    checkbit reg (1#32 <<< bit) = reg.getLsbD bit := by
  have alone : reg &&& 1#32 <<< bit =
      if reg.getLsbD bit then 1#32 <<< bit else 0#32 := by
    rw [← BitVec.twoPow_eq, BitVec.and_twoPow]
  have nonzero : 1#32 <<< bit ≠ 0#32 := by
    rw [← BitVec.twoPow_eq]
    intro zero
    have same := congrArg (fun word => word.getLsbD bit) zero
    simp [within] at same
  unfold checkbit
  rw [alone]
  cases reg.getLsbD bit with
  | true => simp
  | false => simpa using nonzero

/-- A bit below a shifted flag is not touched by it, whatever the flag is
multiplied by. -/
theorem bit_and_mul_bit_eq_zero
    (value : Uint32)
    {low high : Nat}
    (below : low < high) :
    (1#32 <<< low) &&& (value * (1#32 <<< high)) = 0 := by
  apply BitVec.eq_of_getLsbD_eq
  intro i bound
  rw [← BitVec.twoPow_eq 32 high, BitVec.mul_twoPow_eq_shiftLeft,
    ← BitVec.twoPow_eq 32 low, BitVec.getLsbD_and, BitVec.getLsbD_twoPow,
    BitVec.getLsbD_shiftLeft]
  by_cases equal : low = i
  · subst equal
    simp [below]
  · simp [equal]

/-! ## Byte order -/

/-- The loop of `endianness_swap`: `byte` bytes are left, from index `i` on. -/
def endiannessSwapLoop (src : Memory Uint8) :
    (byte i : Nat) → (dest : Memory Uint8) → Memory Uint8
  | byte + 4, i, dest =>
      endiannessSwapLoop src byte (i + 4)
        (dest.write i [src (3 + i), src (2 + i), src (1 + i), src i])
  | 3, i, dest => dest.write i [src (2 + i), src (1 + i), src i]
  -- the second byte of a pair goes to `i + 2`, as in the source
  | 2, i, dest => (dest.write i [src (1 + i)]).write (i + 2) [src i]
  | 1, i, dest => dest.write i [src i]
  | 0, _, dest => dest

/-- Reverse the bytes of each group of four.  The count is a signed `int32` in
the loop, so a length from 2^31 on copies nothing. -/
def endiannessSwap (dest src : Memory Uint8) (len : Uint32) : Memory Uint8 :=
  endiannessSwapLoop src len.toInt.toNat 0 dest

/-- The bytes `write_leon3_ram` hands to the address space.  `tmpbuff` is the
block `malloc` returned. -/
def leon3Bytes
    (tmpbuff buff : Memory Uint8)
    (len : Uint32)
    (sawpEndian : Bool) : List Uint8 :=
  let tmpbuff :=
    if sawpEndian then endiannessSwap tmpbuff buff len
    else tmpbuff.write 0 (buff.read 0 len.toNat)
  tmpbuff.read 0 len.toNat

/-- Copy guest RAM to a host buffer. -/
def readLeon3Ram
    (ram : Memory Uint8)
    (addr : Uint32)
    (buff : Memory Uint8)
    (len : Uint32)
    (sawpEndian : Bool) : Memory Uint8 :=
  let tmpbuff : Memory Uint8 := fun offset => ram (addr.toNat + offset)
  if sawpEndian then endiannessSwap buff tmpbuff len
  else buff.write 0 (tmpbuff.read 0 len.toNat)

/-- The host's view of the word at an index of a byte buffer. -/
def loadWord (buff : Memory Uint8) (index : Nat) : Uint32 :=
  Word.ofBytes (buff index) (buff (index + 1)) (buff (index + 2))
    (buff (index + 3))

/-- The big-endian word at an address of guest RAM. -/
def ramWord (ram : Memory Uint8) (addr : Nat) : Uint32 :=
  Word.ofBytes (ram (addr + 3)) (ram (addr + 2)) (ram (addr + 1)) (ram addr)

/-- A word depends on its four cells alone. -/
theorem ramWord_congr
    {left right : Memory Uint8}
    {addr : Nat}
    (agree : ∀ cell, addr ≤ cell → cell < addr + 4 → left cell = right cell) :
    ramWord left addr = ramWord right addr := by
  unfold ramWord
  rw [agree (addr + 3) (by omega) (by omega),
    agree (addr + 2) (by omega) (by omega),
    agree (addr + 1) (by omega) (by omega), agree addr (by omega) (by omega)]

/-- The bytes of a word in the guest's order, most significant first. -/
def ramBytes (word : Uint32) : List Uint8 := (Word.bytes word).reverse

@[simp] theorem length_ramBytes (word : Uint32) : (ramBytes word).length = 4 := rfl

/-- A word written to guest RAM is read back. -/
theorem ramWord_write_ramBytes (ram : Memory Uint8) (addr : Nat) (word : Uint32) :
    ramWord (ram.write addr (ramBytes word)) addr = word := by
  have cells : ∀ offset (within : offset < 4),
      ram.write addr (ramBytes word) (addr + offset) =
        (ramBytes word)[offset] :=
    fun offset within =>
      Memory.write_apply_add ram addr (ramBytes word) offset within
  have first := cells 0 (by decide)
  rw [Nat.add_zero] at first
  rw [ramWord, cells 3 (by decide), cells 2 (by decide), cells 1 (by decide),
    first]
  exact Word.ofBytes_byte word

/-- A word elsewhere in guest RAM survives a write. -/
theorem ramWord_write_of_disjoint
    (ram : Memory Uint8)
    (addr addr' : Nat)
    (values : List Uint8)
    (disjoint : addr' + 4 ≤ addr ∨ addr + values.length ≤ addr') :
    ramWord (ram.write addr values) addr' = ramWord ram addr' := by
  unfold ramWord
  rw [Memory.write_apply_of_outside _ _ _ _ (by omega),
    Memory.write_apply_of_outside _ _ _ _ (by omega),
    Memory.write_apply_of_outside _ _ _ _ (by omega),
    Memory.write_apply_of_outside _ _ _ _ (by omega)]

/-- The host's image of a word. -/
def wordImage (word : Uint32) : Memory Uint8 :=
  Memory.write (fun _ => 0) 0 (Word.bytes word)

/-- A swapped copy of one word is the word in the guest's order. -/
theorem leon3Bytes_word (tmpbuff : Memory Uint8) (word : Uint32) :
    leon3Bytes tmpbuff (wordImage word) 4 true = ramBytes word := by
  have swapped : endiannessSwap tmpbuff (wordImage word) 4 =
      tmpbuff.write 0 (ramBytes word) := rfl
  have copied := Memory.read_write_same tmpbuff 0 (ramBytes word)
  simp only [leon3Bytes, if_true, swapped]
  exact copied

/-- A descriptor image of four words holds the guest's words in host order. -/
theorem loadWord_readLeon3Ram_four
    (ram buff : Memory Uint8)
    (addr : Uint32) :
    loadWord (readLeon3Ram ram addr buff 16 true) 0 = ramWord ram addr.toNat ∧
    loadWord (readLeon3Ram ram addr buff 16 true) 4 =
      ramWord ram (addr.toNat + 4) ∧
    loadWord (readLeon3Ram ram addr buff 16 true) 8 =
      ramWord ram (addr.toNat + 8) ∧
    loadWord (readLeon3Ram ram addr buff 16 true) 12 =
      ramWord ram (addr.toNat + 12) := by
  refine ⟨rfl, rfl, rfl, rfl⟩

/-- A descriptor image of two words holds the guest's words in host order. -/
theorem loadWord_readLeon3Ram_two
    (ram buff : Memory Uint8)
    (addr : Uint32) :
    loadWord (readLeon3Ram ram addr buff 8 true) 0 = ramWord ram addr.toNat ∧
    loadWord (readLeon3Ram ram addr buff 8 true) 4 =
      ramWord ram (addr.toNat + 4) := by
  refine ⟨rfl, rfl⟩

/-- A straight copy hands over the guest's bytes. -/
theorem read_readLeon3Ram
    (ram buff : Memory Uint8)
    (addr len : Uint32) :
    (readLeon3Ram ram addr buff len false).read 0 len.toNat =
      ram.read addr.toNat len.toNat := by
  have copied := Memory.read_write_same buff 0
    (ram.read addr.toNat len.toNat)
  rw [Memory.length_read] at copied
  rw [← copied]
  congr 1
  simp only [readLeon3Ram, Bool.false_eq_true, if_false]
  congr 1
  apply Memory.read_congr
  intro offset _
  rw [Nat.zero_add]

/-- A straight copy writes the host's bytes. -/
theorem leon3Bytes_copy (tmpbuff buff : Memory Uint8) (len : Uint32) :
    leon3Bytes tmpbuff buff len false = buff.read 0 len.toNat := by
  have copied := Memory.read_write_same tmpbuff 0 (buff.read 0 len.toNat)
  rw [Memory.length_read] at copied
  simp only [leon3Bytes, Bool.false_eq_true, if_false]
  exact copied

end Grspw
