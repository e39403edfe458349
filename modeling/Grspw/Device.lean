import Mathlib.Logic.Function.Basic
import Grspw.Registers

/-!
# Devices and their DMA descriptors

The state of one SpaceWire device: its registers, the scratch copies of the
descriptors it fetches and its private ring positions.

The scratch array for transmit descriptors is declared with 8-byte entries and
holds 16-byte descriptors, so the entry at index 63 reaches into the two ring
positions that follow the array.  `Layout` tells that C layout apart from one in
which scratch copies overlap nothing.
-/

namespace Grspw

/-! ## Descriptors -/

/-- Number of RX descriptors in a table. -/
def nbRxDescriptor : Uint32 := 128

/-- Number of TX descriptors in a table. -/
def nbTxDescriptor : Uint32 := 64

theorem toNat_succ_umod_nbRxDescriptor (index : Uint32) :
    ((index + 1) % nbRxDescriptor).toNat = (index.toNat + 1) % 128 := by
  simp only [nbRxDescriptor, BitVec.ofNat_eq_ofNat, BitVec.toNat_umod,
    BitVec.toNat_add, BitVec.toNat_ofNat, Nat.reducePow, Nat.reduceMod]
  omega

theorem toNat_succ_umod_nbTxDescriptor (index : Uint32) :
    ((index + 1) % nbTxDescriptor).toNat = (index.toNat + 1) % 64 := by
  simp only [nbTxDescriptor, BitVec.ofNat_eq_ofNat, BitVec.toNat_umod,
    BitVec.toNat_add, BitVec.toNat_ofNat, Nat.reducePow, Nat.reduceMod]
  omega

/-- SpaceWire Receive Descriptor. -/
structure RxDesc where
  ctrl : Uint32
  addr : Uint32

/-- Truncated. -/
def spwtrw0TR : Uint32 := 1#32 <<< 31
/-- Data CRC. -/
def spwtrw0DC : Uint32 := 1#32 <<< 30
/-- Header CRC. -/
def spwtrw0HC : Uint32 := 1#32 <<< 29
/-- EEP Termination. -/
def spwtrw0EP : Uint32 := 1#32 <<< 28
/-- Interrupt Enable. -/
def spwtrw0IE : Uint32 := 1#32 <<< 27
/-- Wrap. -/
def spwtrw0WR : Uint32 := 1#32 <<< 26
/-- Enable Descriptor. -/
def spwtrw0EN : Uint32 := 1#32 <<< 25
/-- The number of bytes received by the buffer. -/
def spwtrw0PacketLength : Uint32 := fieldmask 25 <<< 0

/-- SpaceWire Transmitter Descriptor. -/
structure TxDescr where
  ctrl : Uint32
  addrHeader : Uint32
  len : Uint32
  data : Uint32

/-- Interrupt Enable. -/
def spwtdw0IE : Uint32 := 1#32 <<< 14
/-- Wrap. -/
def spwtdw0WR : Uint32 := 1#32 <<< 13
/-- Enable. -/
def spwtdw0EN : Uint32 := 1#32 <<< 12
/-- Header length in bytes. -/
def spwtdw0HeaderLength : Uint32 := fieldmask 8 <<< 0
/-- Data length in bytes. -/
def spwtdw2DataLength : Uint32 := fieldmask 24 <<< 0

/-- The transmit descriptor at an address of guest RAM. -/
def txDescrAt (ram : Memory Uint8) (addr : Nat) : TxDescr where
  ctrl := ramWord ram addr
  addrHeader := ramWord ram (addr + 4)
  len := ramWord ram (addr + 8)
  data := ramWord ram (addr + 12)

/-- The receive descriptor at an address of guest RAM. -/
def rxDescAt (ram : Memory Uint8) (addr : Nat) : RxDesc where
  ctrl := ramWord ram addr
  addr := ramWord ram (addr + 4)

theorem txDescrAt_congr
    {left right : Memory Uint8}
    {addr : Nat}
    (agree : ∀ cell, addr ≤ cell → cell < addr + 16 → left cell = right cell) :
    txDescrAt left addr = txDescrAt right addr := by
  have words : ∀ offset, offset + 4 ≤ 16 →
      ramWord left (addr + offset) = ramWord right (addr + offset) := by
    intro offset within
    apply ramWord_congr
    intro cell above below
    exact agree cell (by omega) (by omega)
  unfold txDescrAt
  rw [words 4 (by decide), words 8 (by decide), words 12 (by decide)]
  exact congrArg (fun ctrl => TxDescr.mk ctrl _ _ _) (words 0 (by decide))

theorem rxDescAt_congr
    {left right : Memory Uint8}
    {addr : Nat}
    (agree : ∀ cell, addr ≤ cell → cell < addr + 8 → left cell = right cell) :
    rxDescAt left addr = rxDescAt right addr := by
  have words : ∀ offset, offset + 4 ≤ 8 →
      ramWord left (addr + offset) = ramWord right (addr + offset) := by
    intro offset within
    apply ramWord_congr
    intro cell above below
    exact agree cell (by omega) (by omega)
  unfold rxDescAt
  rw [words 4 (by decide)]
  exact congrArg (fun ctrl => RxDesc.mk ctrl _) (words 0 (by decide))

/-- The header bytes a transmit descriptor points to. -/
def TxDescr.headerBytes (descr : TxDescr) (ram : Memory Uint8) : List Uint8 :=
  ram.read descr.addrHeader.toNat (descr.ctrl &&& spwtdw0HeaderLength).toNat

/-- The data bytes a transmit descriptor points to. -/
def TxDescr.dataBytes (descr : TxDescr) (ram : Memory Uint8) : List Uint8 :=
  ram.read descr.data.toNat (descr.len &&& spwtdw2DataLength).toNat

/-- Attributes of a received packet, C enumerations that are never checked. -/
structure RecvAtt where
  dc : Uint32
  hc : Uint32
  ep : Uint32

/-! ## Devices -/

/-- How the scratch copies lie in memory. -/
inductive Layout
  /-- As the C structure has it. -/
  | packed
  /-- Apart from every other field. -/
  | disjoint
  deriving DecidableEq

/-- One SpaceWire device. -/
structure Device where
  grspwId : GrspwId
  grspwReg : Regs
  rxdMap : Nat → RxDesc
  /-- The words from the start of the transmit scratch array on, two for each
  of its 64 entries. -/
  txdMap : Nat → Uint32
  txdCur : Uint32
  rxdCur : Uint32

namespace Device

/-- Read a word counted from the start of the transmit scratch array. -/
def loadTxd (layout : Layout) (device : Device) (word : Nat) : Uint32 :=
  match layout with
  | .disjoint => device.txdMap word
  | .packed =>
      if word < 128 then device.txdMap word
      else if word = 128 then device.txdCur
      else device.rxdCur

/-- Write a word counted from the start of the transmit scratch array. -/
def storeTxd
    (layout : Layout)
    (device : Device)
    (word : Nat)
    (value : Uint32) : Device :=
  match layout with
  | .disjoint =>
      { device with txdMap := Function.update device.txdMap word value }
  | .packed =>
      if word < 128 then
        { device with txdMap := Function.update device.txdMap word value }
      else if word = 128 then { device with txdCur := value }
      else { device with rxdCur := value }

end Device

/-- Whether an index may be used on a scratch array.  In the C layout an index
past the end has no defined effect. -/
def Layout.Admits (layout : Layout) (index count : Uint32) : Prop :=
  layout = .packed → index.toNat < count.toNat

instance (layout : Layout) (index count : Uint32) :
    Decidable (layout.Admits index count) :=
  inferInstanceAs (Decidable (layout = .packed → index.toNat < count.toNat))

theorem Layout.admits_disjoint (index count : Uint32) :
    Layout.disjoint.Admits index count := by
  intro equal
  cases equal

/-- A device together with what it shares with the rest of the plugin. -/
structure Core where
  device : Device
  host : Host

namespace Core

/-- The registers of the device. -/
abbrev regs (core : Core) : Regs := core.device.grspwReg

end Core

/-- The register block of a zeroed object. -/
def zeroRegs : Regs :=
  { ctr := 0, str := 0, ndr := 0, clk := 0, key := 0, tim := 0, tdr := 0
    chn := 0, rxl := 0, txd := 0, rxd := 0 }

/-- A device as the board's initialisation leaves it: a zeroed object whose
registers were then reset. -/
def initDevice (grspwId : GrspwId) : Device where
  grspwId := grspwId
  grspwReg := resetRegisters grspwId zeroRegs
  rxdMap := fun _ => ⟨0, 0⟩
  txdMap := fun _ => 0
  txdCur := 0
  rxdCur := 0

/-- A freshly initialised core over some guest RAM. -/
def apbgrspwInit (grspwId : GrspwId) (ram : Memory Uint8) : Core where
  device := initDevice grspwId
  host := { ram := ram, txbuffer := fun _ => 0, spwq := [], log := [] }

end Grspw
