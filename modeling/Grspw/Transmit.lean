import Grspw.Device

/-!
# The transmit step

One call of `grlib_comgrspw_txenable`: fetch the descriptor SPWTXD points to,
send its packet, advance the ring, wait for the acknowledge and release the
descriptor.  The wait cuts the call in two, `txenableSend` before it and
`txenableAcked` after it; `txenable` is the call whose wait returns at once.
-/

namespace Grspw

/-- The locals of a call that waits for its acknowledge. -/
structure TxFrame where
  txdCur : Nat
  txdAddr : Uint32
  deriving DecidableEq

/-- Copy the four words of a descriptor to the scratch array. -/
def storeTxDescr
    (layout : Layout)
    (device : Device)
    (index : Nat)
    (image : Memory Uint8) : Device :=
  let device := device.storeTxd layout (2 * index) (loadWord image 0)
  let device := device.storeTxd layout (2 * index + 1) (loadWord image 4)
  let device := device.storeTxd layout (2 * index + 2) (loadWord image 8)
  device.storeTxd layout (2 * index + 3) (loadWord image 12)

/-- Send the packet of the descriptor at an index of the scratch array and
advance the ring. -/
def txDescrSend
    (layout : Layout)
    (device : Device)
    (host : Host)
    (index : Nat) : Except Fault (Device × Host) :=
  let ctrl := device.loadTxd layout (2 * index)
  let addrHeader := device.loadTxd layout (2 * index + 1)
  let len := device.loadTxd layout (2 * index + 2)
  let data := device.loadTxd layout (2 * index + 3)
  let dataLen := len &&& spwtdw2DataLength
  let headerLen := ctrl &&& spwtdw0HeaderLength
  let txdata := readLeon3Ram host.ram data (fun _ => 0) dataLen false
  let txheader := readLeon3Ram host.ram addrHeader (fun _ => 0) headerLen false
  match sendSpwpacket host device.grspwId msgqData
      (txheader.read 0 headerLen.toNat) (txdata.read 0 dataLen.toNat) with
  | .error fault => .error fault
  | .ok host =>
      let regs := device.grspwReg
      let regs := { regs with chn := setbit regs.chn spwchnPS }
      let txdCur :=
        if checkbit ctrl spwtdw0WR then 0
        else (device.txdCur + 1) % nbTxDescriptor
      let regs :=
        { regs with
          txd := deposit regs.txd spwtxdTxDescSelect (txdCur <<< 4) }
      .ok ({ device with grspwReg := regs, txdCur := txdCur }, host)

/-- The call up to its wait.  Without a frame the call is over and returns
`e_true`. -/
def txenableSend
    (layout : Layout)
    (core : Core) : Except Fault (Option TxFrame × Core) :=
  let device := core.device
  let host := core.host
  if checkbit device.grspwReg.chn spwchnTE then
    let index := device.txdCur.toNat
    let txdAddr := device.grspwReg.txd
    if layout.Admits device.txdCur nbTxDescriptor then
      let image := readLeon3Ram host.ram txdAddr (fun _ => 0) 16 true
      let device := storeTxDescr layout device index image
      if checkbit (device.loadTxd layout (2 * index)) spwtdw0EN then
        match txDescrSend layout device host index with
        | .error fault => .error fault
        | .ok (device, host) => .ok (some ⟨index, txdAddr⟩, ⟨device, host⟩)
      else
        let regs := device.grspwReg
        let regs := { regs with chn := clearbit regs.chn spwchnTE }
        .ok (none, ⟨{ device with grspwReg := regs }, host⟩)
    else .error .outOfBounds
  else .ok (none, core)

/-- The call from its wait on: release the descriptor and raise the interrupt.
It then returns `e_false`. -/
def txenableAcked (layout : Layout) (frame : TxFrame) (core : Core) : Core :=
  let device := core.device
  let ctrl :=
    clearbit (device.loadTxd layout (2 * frame.txdCur)) spwtdw0EN
  let device := device.storeTxd layout (2 * frame.txdCur) ctrl
  let host := core.host.writeLeon3Ram frame.txdAddr (wordImage ctrl) 4 true
  let host :=
    if checkbit ctrl spwtdw0IE && checkbit device.grspwReg.chn spwchnTI then
      host.emit (.irqPulse device.grspwId)
    else host
  ⟨device, host⟩

/-- One transmit call whose packet is acknowledged: the value returned, `true`
when the transmission has to be stopped, and the state it leaves. -/
def txenable (layout : Layout) (core : Core) : Except Fault (Bool × Core) :=
  match txenableSend layout core with
  | .error fault => .error fault
  | .ok (none, core) => .ok (true, core)
  | .ok (some frame, core) => .ok (false, txenableAcked layout frame core)

/-! ## The scratch copy -/

namespace Device

@[simp] theorem storeTxd_grspwReg
    (layout : Layout) (device : Device) (word : Nat) (value : Uint32) :
    (device.storeTxd layout word value).grspwReg = device.grspwReg := by
  unfold storeTxd
  split
  · rfl
  · split_ifs <;> rfl

@[simp] theorem storeTxd_grspwId
    (layout : Layout) (device : Device) (word : Nat) (value : Uint32) :
    (device.storeTxd layout word value).grspwId = device.grspwId := by
  unfold storeTxd
  split
  · rfl
  · split_ifs <;> rfl

/-- Only word 128 of the C layout is the transmit ring position. -/
theorem storeTxd_txdCur
    (layout : Layout) (device : Device) (word : Nat) (value : Uint32) :
    (device.storeTxd layout word value).txdCur =
      if layout = .packed ∧ word = 128 then value else device.txdCur := by
  cases layout with
  | disjoint => simp [storeTxd]
  | packed =>
      obtain inArray | atPosition | after := Nat.lt_trichotomy word 128
      · simp [storeTxd, inArray, Nat.ne_of_lt inArray]
      · simp [storeTxd, atPosition]
      · simp [storeTxd, Nat.not_lt_of_gt after, Nat.ne_of_gt after]

/-- Only the words from 129 on in the C layout are the receive ring position. -/
theorem storeTxd_rxdCur
    (layout : Layout) (device : Device) (word : Nat) (value : Uint32) :
    (device.storeTxd layout word value).rxdCur =
      if layout = .packed ∧ 128 < word then value else device.rxdCur := by
  cases layout with
  | disjoint => simp [storeTxd]
  | packed =>
      obtain inArray | atPosition | after := Nat.lt_trichotomy word 128
      · simp [storeTxd, inArray, Nat.not_lt_of_gt inArray]
      · simp [storeTxd, atPosition]
      · simp [storeTxd, after, Nat.not_lt_of_gt after, Nat.ne_of_gt after]

@[simp] theorem loadTxd_storeTxd_same
    (layout : Layout) (device : Device) (word : Nat) (value : Uint32) :
    (device.storeTxd layout word value).loadTxd layout word = value := by
  cases layout with
  | disjoint => simp [loadTxd, storeTxd]
  | packed =>
      obtain inArray | atPosition | after := Nat.lt_trichotomy word 128
      · simp [loadTxd, storeTxd, inArray]
      · simp [loadTxd, storeTxd, atPosition]
      · simp [loadTxd, storeTxd, Nat.not_lt_of_gt after, Nat.ne_of_gt after]

theorem loadTxd_storeTxd_of_ne
    {layout : Layout}
    {device : Device}
    {word other : Nat}
    {value : Uint32}
    (different : other ≠ word)
    (within : layout = .packed → word < 130 ∧ other < 130) :
    (device.storeTxd layout word value).loadTxd layout other =
      device.loadTxd layout other := by
  cases layout with
  | disjoint => simp [loadTxd, storeTxd, Function.update_of_ne different]
  | packed =>
      have bounds := within rfl
      unfold loadTxd storeTxd
      split_ifs <;> first | rfl | omega | simp [Function.update_of_ne different]

end Device

section ScratchCopy

variable (layout : Layout) (device : Device) (index : Nat) (image : Memory Uint8)

@[simp] theorem storeTxDescr_grspwReg :
    (storeTxDescr layout device index image).grspwReg = device.grspwReg := by
  simp [storeTxDescr]

@[simp] theorem storeTxDescr_grspwId :
    (storeTxDescr layout device index image).grspwId = device.grspwId := by
  simp [storeTxDescr]

/-- In the C layout the entry at index 63 puts the descriptor's length word
over the transmit ring position. -/
theorem storeTxDescr_txdCur
    (within : layout = .packed → index < 64) :
    (storeTxDescr layout device index image).txdCur =
      if layout = .packed ∧ index = 63 then loadWord image 8
      else device.txdCur := by
  simp only [storeTxDescr, Device.storeTxd_txdCur]
  cases layout with
  | disjoint => simp
  | packed =>
      have bound := within rfl
      have even : 2 * index ≠ 128 := by omega
      have odd : 2 * index + 1 ≠ 128 := by omega
      have last : 2 * index + 3 ≠ 128 := by omega
      have atPosition : 2 * index + 2 = 128 ↔ index = 63 := by omega
      simp [even, odd, last, atPosition]

/-- In the C layout the entry at index 63 puts the descriptor's data address
over the receive ring position. -/
theorem storeTxDescr_rxdCur
    (within : layout = .packed → index < 64) :
    (storeTxDescr layout device index image).rxdCur =
      if layout = .packed ∧ index = 63 then loadWord image 12
      else device.rxdCur := by
  simp only [storeTxDescr, Device.storeTxd_rxdCur]
  cases layout with
  | disjoint => simp
  | packed =>
      have bound := within rfl
      have first : ¬128 < 2 * index := by omega
      have second : ¬128 < 2 * index + 1 := by omega
      have third : ¬128 < 2 * index + 2 := by omega
      have atPosition : 128 < 2 * index + 3 ↔ index = 63 := by omega
      simp [first, second, third, atPosition]

/-- Whatever it overlaps, the scratch copy holds the four words just stored. -/
theorem storeTxDescr_loadTxd
    (within : layout = .packed → index < 64) :
    (storeTxDescr layout device index image).loadTxd layout (2 * index) =
      loadWord image 0 ∧
    (storeTxDescr layout device index image).loadTxd layout (2 * index + 1) =
      loadWord image 4 ∧
    (storeTxDescr layout device index image).loadTxd layout (2 * index + 2) =
      loadWord image 8 ∧
    (storeTxDescr layout device index image).loadTxd layout (2 * index + 3) =
      loadWord image 12 := by
  have inside : ∀ word ≤ 2 * index + 3, ∀ other ≤ 2 * index + 3,
      layout = .packed → word < 130 ∧ other < 130 := by
    intro word wordBound other otherBound packed
    have bound := within packed
    omega
  unfold storeTxDescr
  refine ⟨?_, ?_, ?_, ?_⟩
  · rw [Device.loadTxd_storeTxd_of_ne (by omega)
        (inside _ (by omega) _ (by omega)),
      Device.loadTxd_storeTxd_of_ne (by omega)
        (inside _ (by omega) _ (by omega)),
      Device.loadTxd_storeTxd_of_ne (by omega)
        (inside _ (by omega) _ (by omega)),
      Device.loadTxd_storeTxd_same]
  · rw [Device.loadTxd_storeTxd_of_ne (by omega)
        (inside _ (by omega) _ (by omega)),
      Device.loadTxd_storeTxd_of_ne (by omega)
        (inside _ (by omega) _ (by omega)),
      Device.loadTxd_storeTxd_same]
  · rw [Device.loadTxd_storeTxd_of_ne (by omega)
        (inside _ (by omega) _ (by omega)),
      Device.loadTxd_storeTxd_same]
  · rw [Device.loadTxd_storeTxd_same]

end ScratchCopy

/-! ## What a call does -/

namespace Core

/-- The descriptor SPWTXD points to. -/
def txDescr (core : Core) : TxDescr :=
  txDescrAt core.host.ram core.regs.txd.toNat

/-- The header of the next packet. -/
def txHeader (core : Core) : List Uint8 := core.txDescr.headerBytes core.host.ram

/-- The data of the next packet. -/
def txData (core : Core) : List Uint8 := core.txDescr.dataBytes core.host.ram

/-- The device once the descriptor is copied. -/
def txFetched (layout : Layout) (core : Core) : Device :=
  storeTxDescr layout core.device core.device.txdCur.toNat
    (readLeon3Ram core.host.ram core.regs.txd (fun _ => 0) 16 true)

/-- The ring position after the next packet. -/
def txNext (layout : Layout) (core : Core) : Uint32 :=
  if checkbit core.txDescr.ctrl spwtdw0WR then 0
  else ((core.txFetched layout).txdCur + 1) % nbTxDescriptor

/-- The registers after the next packet. -/
def txRegs (layout : Layout) (core : Core) : Regs :=
  { core.regs with
    chn := setbit core.regs.chn spwchnPS
    txd := deposit core.regs.txd spwtxdTxDescSelect
      (core.txNext layout <<< 4) }

/-- The state in which a call waits for its acknowledge. -/
def txSent (layout : Layout) (core : Core) : Core where
  device :=
    { core.txFetched layout with
      grspwReg := core.txRegs layout
      txdCur := core.txNext layout }
  host := core.host.sent core.device.grspwId msgqData core.txHeader core.txData

/-- The locals kept over the wait. -/
def txFrame (core : Core) : TxFrame :=
  ⟨core.device.txdCur.toNat, core.regs.txd⟩

/-- The state after a call that found its descriptor disabled. -/
def txPolled (layout : Layout) (core : Core) : Core where
  device :=
    { core.txFetched layout with
      grspwReg :=
        { core.regs with chn := clearbit core.regs.chn spwchnTE } }
  host := core.host

variable (layout : Layout) (core : Core)

/-- The copy holds the descriptor SPWTXD points to. -/
theorem txFetched_loadTxd
    (admits : layout.Admits core.device.txdCur nbTxDescriptor) :
    (core.txFetched layout).loadTxd layout (2 * core.device.txdCur.toNat) =
      core.txDescr.ctrl ∧
    (core.txFetched layout).loadTxd layout (2 * core.device.txdCur.toNat + 1) =
      core.txDescr.addrHeader ∧
    (core.txFetched layout).loadTxd layout (2 * core.device.txdCur.toNat + 2) =
      core.txDescr.len ∧
    (core.txFetched layout).loadTxd layout (2 * core.device.txdCur.toNat + 3) =
      core.txDescr.data := by
  obtain ⟨image₀, image₁, image₂, image₃⟩ := loadWord_readLeon3Ram_four
    core.host.ram (fun _ => 0) core.regs.txd
  obtain ⟨load₀, load₁, load₂, load₃⟩ := storeTxDescr_loadTxd layout
    core.device core.device.txdCur.toNat
    (readLeon3Ram core.host.ram core.regs.txd (fun _ => 0) 16 true) admits
  exact ⟨load₀.trans image₀, load₁.trans image₁, load₂.trans image₂,
    load₃.trans image₃⟩

@[simp] theorem txFetched_grspwReg :
    (core.txFetched layout).grspwReg = core.regs := by
  simp [txFetched]

@[simp] theorem txFetched_grspwId :
    (core.txFetched layout).grspwId = core.device.grspwId := by
  simp [txFetched]

theorem txFetched_txdCur
    (admits : layout.Admits core.device.txdCur nbTxDescriptor) :
    (core.txFetched layout).txdCur =
      if layout = .packed ∧ core.device.txdCur.toNat = 63 then core.txDescr.len
      else core.device.txdCur :=
  storeTxDescr_txdCur layout core.device core.device.txdCur.toNat _ admits

theorem txFetched_rxdCur
    (admits : layout.Admits core.device.txdCur nbTxDescriptor) :
    (core.txFetched layout).rxdCur =
      if layout = .packed ∧ core.device.txdCur.toNat = 63 then core.txDescr.data
      else core.device.rxdCur :=
  storeTxDescr_rxdCur layout core.device core.device.txdCur.toNat _ admits

/-- A header has at most 255 bytes and a data block less than 16 MiB. -/
theorem txLength_lt :
    7 + core.txHeader.length + core.txData.length < 2 ^ 32 := by
  have header := Word.toNat_and_field core.txDescr.ctrl 0 8 (by decide)
  have data := Word.toNat_and_field core.txDescr.len 0 24 (by decide)
  simp only [txHeader, txData, TxDescr.headerBytes, TxDescr.dataBytes,
    Memory.length_read, spwtdw0HeaderLength, spwtdw2DataLength, fieldmask]
  omega

/-- Sending the packet of the copied descriptor. -/
theorem txDescrSend_txFetched
    (admits : layout.Admits core.device.txdCur nbTxDescriptor) :
    txDescrSend layout (core.txFetched layout) core.host
        core.device.txdCur.toNat =
      if Fits core.txHeader core.txData then
        .ok ((core.txSent layout).device, (core.txSent layout).host)
      else .error (.checkFatal "packet transmission failure") := by
  obtain ⟨ctrl, addrHeader, len, data⟩ := core.txFetched_loadTxd layout admits
  unfold txDescrSend
  rw [ctrl, addrHeader, len, data]
  simp only [read_readLeon3Ram, txFetched_grspwReg, txFetched_grspwId]
  have sends := sendSpwpacket_eq core.host core.device.grspwId msgqData
    core.txLength_lt
  by_cases fits : Fits core.txHeader core.txData
  · rw [if_pos fits] at sends ⊢
    simp only [txHeader, txData, TxDescr.headerBytes,
      TxDescr.dataBytes] at sends
    rw [sends]
    simp only [txSent, txRegs, txNext, txHeader, txData, TxDescr.headerBytes,
      TxDescr.dataBytes, txFetched_grspwId]
  · rw [if_neg fits] at sends ⊢
    simp only [txHeader, txData, TxDescr.headerBytes,
      TxDescr.dataBytes] at sends
    rw [sends]

end Core

section Calls

variable {layout : Layout} {core : Core}

/-- A call with Transmitter Enable clear does nothing. -/
theorem txenableSend_idle
    (disabled : checkbit core.regs.chn spwchnTE = false) :
    txenableSend layout core = .ok (none, core) := by
  simp [txenableSend, disabled]

/-- A call that finds its descriptor disabled clears Transmitter Enable. -/
theorem txenableSend_polled
    (enabled : checkbit core.regs.chn spwchnTE = true)
    (admits : layout.Admits core.device.txdCur nbTxDescriptor)
    (unarmed : checkbit core.txDescr.ctrl spwtdw0EN = false) :
    txenableSend layout core = .ok (none, core.txPolled layout) := by
  have ctrl := (core.txFetched_loadTxd layout admits).1
  simp only [Core.txFetched] at ctrl
  unfold txenableSend
  simp only [enabled, if_true, admits, ctrl, unarmed, Bool.false_eq_true,
    if_false, storeTxDescr_grspwReg]
  rfl

/-- A call that finds its descriptor enabled sends the packet if it fits, and
ends the process if not. -/
theorem txenableSend_armed
    (enabled : checkbit core.regs.chn spwchnTE = true)
    (admits : layout.Admits core.device.txdCur nbTxDescriptor)
    (armed : checkbit core.txDescr.ctrl spwtdw0EN = true) :
    txenableSend layout core =
      if Fits core.txHeader core.txData then
        .ok (some core.txFrame, core.txSent layout)
      else .error (.checkFatal "packet transmission failure") := by
  have ctrl := (core.txFetched_loadTxd layout admits).1
  have sends := core.txDescrSend_txFetched layout admits
  simp only [Core.txFetched] at ctrl sends
  unfold txenableSend
  simp only [enabled, if_true, admits, ctrl, armed, sends]
  by_cases fits : Fits core.txHeader core.txData
  · simp only [if_pos fits]
    rfl
  · simp only [if_neg fits]

end Calls

namespace Core

/-- The state after a call whose packet was sent and acknowledged. -/
def txReleased (layout : Layout) (core : Core) : Core :=
  txenableAcked layout core.txFrame (core.txSent layout)

/-- The control word the engine writes back. -/
def txWriteBack (core : Core) : Uint32 := clearbit core.txDescr.ctrl spwtdw0EN

/-- Whether sending the packet raises the interrupt. -/
def txInterrupts (core : Core) : Bool :=
  checkbit core.txDescr.ctrl spwtdw0IE && checkbit core.regs.chn spwchnTI

/-- The shared state after a packet. -/
def txHost (core : Core) : Host :=
  let host :=
    (core.host.sent core.device.grspwId msgqData core.txHeader
      core.txData).writeRam core.regs.txd (ramBytes core.txWriteBack)
  if core.txInterrupts then host.emit (.irqPulse core.device.grspwId) else host

@[simp] theorem txHost_ram (core : Core) :
    core.txHost.ram =
      core.host.ram.write core.regs.txd.toNat (ramBytes core.txWriteBack) := by
  unfold txHost
  split <;> rfl

@[simp] theorem txHost_txbuffer (core : Core) :
    core.txHost.txbuffer =
      fillTxbuffer core.host.txbuffer core.device.grspwId msgqData
        core.txHeader core.txData := by
  unfold txHost
  split <;> rfl

@[simp] theorem txHost_spwq (core : Core) :
    core.txHost.spwq =
      core.host.spwq ++
        [wireImage core.host.txbuffer core.device.grspwId msgqData
          core.txHeader core.txData] := by
  unfold txHost
  split <;> rfl

variable (layout : Layout) (core : Core)

@[simp] theorem txPolled_regs :
    (core.txPolled layout).regs =
      { core.regs with chn := clearbit core.regs.chn spwchnTE } := rfl

@[simp] theorem txPolled_host : (core.txPolled layout).host = core.host := rfl

@[simp] theorem txPolled_grspwId :
    (core.txPolled layout).device.grspwId = core.device.grspwId :=
  core.txFetched_grspwId layout

@[simp] theorem txPolled_txdCur :
    (core.txPolled layout).device.txdCur = (core.txFetched layout).txdCur := rfl

@[simp] theorem txPolled_rxdCur :
    (core.txPolled layout).device.rxdCur = (core.txFetched layout).rxdCur := rfl

@[simp] theorem txReleased_regs :
    (core.txReleased layout).regs = core.txRegs layout := by
  unfold txReleased txenableAcked Core.regs
  rw [Device.storeTxd_grspwReg]
  rfl

@[simp] theorem txReleased_grspwId :
    (core.txReleased layout).device.grspwId = core.device.grspwId := by
  simp [txReleased, txenableAcked, txSent]

/-- While the packet is on its way the scratch copy keeps its control word: it
lies below the two ring positions. -/
theorem txSent_loadTxd
    (admits : layout.Admits core.device.txdCur nbTxDescriptor) :
    (core.txSent layout).device.loadTxd layout (2 * core.device.txdCur.toNat) =
      core.txDescr.ctrl := by
  have ctrl := (core.txFetched_loadTxd layout admits).1
  cases layout with
  | disjoint => exact ctrl
  | packed =>
      have bound : core.device.txdCur.toNat < 64 := admits rfl
      have below : 2 * core.device.txdCur.toNat < 128 := by omega
      simp only [Device.loadTxd, if_pos below] at ctrl ⊢
      exact ctrl

@[simp] theorem txReleased_txdCur
    (admits : layout.Admits core.device.txdCur nbTxDescriptor) :
    (core.txReleased layout).device.txdCur = core.txNext layout := by
  simp only [txReleased, txenableAcked, txFrame, Device.storeTxd_txdCur, txSent]
  rw [if_neg]
  rintro ⟨packed, word⟩
  have bound : core.device.txdCur.toNat < 64 := admits packed
  omega

@[simp] theorem txReleased_rxdCur
    (admits : layout.Admits core.device.txdCur nbTxDescriptor) :
    (core.txReleased layout).device.rxdCur = (core.txFetched layout).rxdCur := by
  simp only [txReleased, txenableAcked, txFrame, Device.storeTxd_rxdCur, txSent]
  rw [if_neg]
  rintro ⟨packed, word⟩
  have bound : core.device.txdCur.toNat < 64 := admits packed
  omega

@[simp] theorem txReleased_host
    (admits : layout.Admits core.device.txdCur nbTxDescriptor) :
    (core.txReleased layout).host = core.txHost := by
  have interruptEnable :
      checkbit core.txWriteBack spwtdw0IE =
        checkbit core.txDescr.ctrl spwtdw0IE :=
    checkbit_clearbit_of_disjoint (by decide)
  have transmitInterrupt :
      checkbit (setbit core.regs.chn spwchnPS) spwchnTI =
        checkbit core.regs.chn spwchnTI :=
    checkbit_setbit_of_disjoint (by decide)
  simp only [txReleased, txenableAcked, txFrame, txSent_loadTxd layout core admits,
    Device.storeTxd_grspwReg, Device.storeTxd_grspwId]
  rw [← txWriteBack, interruptEnable, Host.writeLeon3Ram_word]
  simp only [txSent, txRegs, transmitInterrupt, txFetched_grspwId, txHost,
    txInterrupts]
  rfl

end Core

section Cases

variable {layout : Layout} {core : Core}

theorem txenable_idle
    (disabled : checkbit core.regs.chn spwchnTE = false) :
    txenable layout core = .ok (true, core) := by
  simp [txenable, txenableSend_idle disabled]

theorem txenable_polled
    (enabled : checkbit core.regs.chn spwchnTE = true)
    (admits : layout.Admits core.device.txdCur nbTxDescriptor)
    (unarmed : checkbit core.txDescr.ctrl spwtdw0EN = false) :
    txenable layout core = .ok (true, core.txPolled layout) := by
  simp [txenable, txenableSend_polled enabled admits unarmed]

theorem txenable_armed
    (enabled : checkbit core.regs.chn spwchnTE = true)
    (admits : layout.Admits core.device.txdCur nbTxDescriptor)
    (armed : checkbit core.txDescr.ctrl spwtdw0EN = true) :
    txenable layout core =
      if Fits core.txHeader core.txData then
        .ok (false, core.txReleased layout)
      else .error (.checkFatal "packet transmission failure") := by
  unfold txenable
  rw [txenableSend_armed enabled admits armed]
  by_cases fits : Fits core.txHeader core.txData
  · simp only [if_pos fits, Core.txReleased]
  · simp only [if_neg fits]

theorem txenable_outOfBounds
    (enabled : checkbit core.regs.chn spwchnTE = true)
    (outside : ¬layout.Admits core.device.txdCur nbTxDescriptor) :
    txenable layout core = .error .outOfBounds := by
  simp [txenable, txenableSend, enabled, outside]

/-- All the part of a call before its wait can have done. -/
theorem txenableSend_cases
    {frame : Option TxFrame}
    {after : Core}
    (returns : txenableSend layout core = .ok (frame, after)) :
    (frame = none ∧ after.host = core.host ∧
      after.device.grspwId = core.device.grspwId) ∨
    (frame = some core.txFrame ∧ after = core.txSent layout) := by
  cases enabled : checkbit core.regs.chn spwchnTE with
  | false =>
      rw [txenableSend_idle enabled] at returns
      cases returns
      exact Or.inl ⟨rfl, rfl, rfl⟩
  | true =>
      by_cases admits : layout.Admits core.device.txdCur nbTxDescriptor
      · cases armed : checkbit core.txDescr.ctrl spwtdw0EN with
        | false =>
            rw [txenableSend_polled enabled admits armed] at returns
            cases returns
            exact Or.inl ⟨rfl, rfl, core.txPolled_grspwId layout⟩
        | true =>
            rw [txenableSend_armed enabled admits armed] at returns
            by_cases fits : Fits core.txHeader core.txData
            · rw [if_pos fits] at returns
              cases returns
              exact Or.inr ⟨rfl, rfl⟩
            · rw [if_neg fits] at returns
              cases returns
      · simp [txenableSend, enabled, admits] at returns

@[simp] theorem txSent_grspwId :
    (core.txSent layout).device.grspwId = core.device.grspwId :=
  core.txFetched_grspwId layout

theorem txSent_spwq :
    (core.txSent layout).host.spwq =
      core.host.spwq ++
        [wireImage core.host.txbuffer core.device.grspwId msgqData
          core.txHeader core.txData] := rfl

@[simp] theorem txenableAcked_grspwId (frame : TxFrame) :
    (txenableAcked layout frame core).device.grspwId =
      core.device.grspwId := by
  simp [txenableAcked]

/-- Going on after the wait clears the Enable bit of the descriptor in guest
RAM. -/
theorem txenableAcked_released (frame : TxFrame) :
    checkbit
      (ramWord (txenableAcked layout frame core).host.ram frame.txdAddr.toNat)
      spwtdw0EN = false := by
  simp only [txenableAcked, Host.writeLeon3Ram_word]
  split
  · rw [Host.emit_ram, Host.writeRam_ram, ramWord_write_ramBytes]
    exact checkbit_clearbit_self (by decide)
  · rw [Host.writeRam_ram, ramWord_write_ramBytes]
    exact checkbit_clearbit_self (by decide)

@[simp] theorem txenableAcked_spwq (frame : TxFrame) :
    (txenableAcked layout frame core).host.spwq = core.host.spwq := by
  simp only [txenableAcked]
  split <;> rfl

/-- A transmit call that sends a packet. -/
structure TxSends (layout : Layout) (core : Core) : Prop where
  enabled : checkbit core.regs.chn spwchnTE = true
  admits : layout.Admits core.device.txdCur nbTxDescriptor
  armed : checkbit core.txDescr.ctrl spwtdw0EN = true
  fits : Fits core.txHeader core.txData

/-- A transmit call that finds its descriptor disabled. -/
structure TxPolls (layout : Layout) (core : Core) : Prop where
  enabled : checkbit core.regs.chn spwchnTE = true
  admits : layout.Admits core.device.txdCur nbTxDescriptor
  unarmed : checkbit core.txDescr.ctrl spwtdw0EN = false

theorem TxSends.txenable_eq (sends : TxSends layout core) :
    txenable layout core = .ok (false, core.txReleased layout) := by
  rw [txenable_armed sends.enabled sends.admits sends.armed,
    if_pos sends.fits]

/-- All a transmit call that returns can have done. -/
theorem txenable_cases
    {stop : Bool}
    {after : Core}
    (returns : txenable layout core = .ok (stop, after)) :
    (stop = true ∧ checkbit core.regs.chn spwchnTE = false ∧ after = core) ∨
    (stop = true ∧ TxPolls layout core ∧ after = core.txPolled layout) ∨
    (stop = false ∧ TxSends layout core ∧ after = core.txReleased layout) := by
  cases enabled : checkbit core.regs.chn spwchnTE with
  | false =>
      rw [txenable_idle enabled] at returns
      cases returns
      exact Or.inl ⟨rfl, rfl, rfl⟩
  | true =>
      right
      by_cases admits : layout.Admits core.device.txdCur nbTxDescriptor
      · cases armed : checkbit core.txDescr.ctrl spwtdw0EN with
        | false =>
            rw [txenable_polled enabled admits armed] at returns
            cases returns
            exact Or.inl ⟨rfl, ⟨enabled, admits, armed⟩, rfl⟩
        | true =>
            rw [txenable_armed enabled admits armed] at returns
            by_cases fits : Fits core.txHeader core.txData
            · rw [if_pos fits] at returns
              cases returns
              exact Or.inr ⟨rfl, ⟨enabled, admits, armed, fits⟩, rfl⟩
            · rw [if_neg fits] at returns
              cases returns
      · rw [txenable_outOfBounds enabled admits] at returns
        cases returns

end Cases

end Grspw
