import Grspw.Codec
import Grspw.Lib.Machine
import Grspw.Transmit

/-!
# Encoding an arbitrary packet

What the encoder writes to its shared transmit buffer and what it hands to
`mq_send`.  A descriptor can ask for more than one message of a queue holds, and
a header leaves the byte after it unwritten, so that this byte of the message is
the one of an earlier packet.
-/

namespace Grspw

/-! ## The cells written -/

section Cells

variable
  {txbuffer : Memory Uint8}
  {grspwId : GrspwId}
  {pword : Uint8}
  {header data : List Uint8}

/-- Nothing is written from the length of the message on. -/
theorem fillTxbuffer_of_length_le
    {cell : Nat}
    (beyond : 7 + header.length + data.length ≤ cell) :
    fillTxbuffer txbuffer grspwId pword header data cell = txbuffer cell := by
  have bytes : (Word.bytes (BitVec.ofNat 32 data.length)).length = 4 := rfl
  unfold fillTxbuffer
  simp only [spwIdIdx, pwordIdx, headerIdx, dataSize]
  rw [Memory.write_apply_of_outside _ _ _ _ (Or.inr (by omega)),
    Memory.write_apply_of_outside _ _ _ _ (Or.inr (by omega)),
    Memory.write_apply_of_outside _ _ _ _ (Or.inr (by omega)),
    Memory.write_singleton_apply, if_neg (by omega),
    Memory.write_singleton_apply, if_neg (by omega),
    Memory.write_singleton_apply, if_neg (by omega)]

/-- The byte after a header is not written. -/
theorem fillTxbuffer_gap (nonempty : header ≠ []) :
    fillTxbuffer txbuffer grspwId pword header data
      (headerIdx + header.length) = txbuffer (headerIdx + header.length) := by
  have positive : 0 < header.length := List.length_pos_of_ne_nil nonempty
  unfold fillTxbuffer
  simp only [spwIdIdx, pwordIdx, headerIdx, dataSize]
  rw [Memory.write_apply_of_outside _ _ _ _ (Or.inl (by omega)),
    Memory.write_apply_of_outside _ _ _ _ (Or.inl (by omega)),
    Memory.write_apply_of_outside _ _ _ _ (Or.inr (by omega)),
    Memory.write_singleton_apply, if_neg (by omega),
    Memory.write_singleton_apply, if_neg (by omega),
    Memory.write_singleton_apply, if_neg (by omega)]

/-- Without a header every byte of the message is written. -/
theorem wireImage_congr_of_headerless
    (txbuffer txbuffer' : Memory Uint8)
    (grspwId : GrspwId)
    (pword : Uint8)
    (data : List Uint8) :
    wireImage txbuffer grspwId pword [] data =
      wireImage txbuffer' grspwId pword [] data := by
  have bytes : (Word.bytes (BitVec.ofNat 32 data.length)).length = 4 := rfl
  apply Memory.read_congr
  intro cell within
  rw [List.length_nil] at within
  simp only [fillTxbuffer, spwIdIdx, pwordIdx, headerIdx, dataSize,
    List.length_nil]
  apply Memory.write_apply_congr
  by_cases inData : 7 ≤ cell
  · exact Or.inl (by omega)
  right
  apply Memory.write_apply_congr
  by_cases inLength : 3 ≤ cell
  · exact Or.inl (by omega)
  right
  apply Memory.write_apply_congr
  right
  -- the three bytes before the length, each written on its own
  simp only [Memory.write_singleton_apply]
  by_cases inHeaderLen : 0 + cell = 2
  · rw [if_pos inHeaderLen, if_pos inHeaderLen]
  rw [if_neg inHeaderLen, if_neg inHeaderLen]
  by_cases inPword : 0 + cell = 1
  · rw [if_pos inPword, if_pos inPword]
  · rw [if_neg inPword, if_neg inPword, if_pos (by omega), if_pos (by omega)]

end Cells

/-! ## Every armed descriptor -/

/-- Declared size of the transmit buffer. -/
def txbufferSize : Nat := maxDataLen + maxHeaderLen + 7

namespace Core

/-- The descriptor SPWTXD points to can be sent: header and data fit their
buffers, the message fits the transmit buffer and the queue, and the call does
not end the process. -/
structure CanBeSent (layout : Layout) (core : Core) : Prop where
  headerFits : core.txHeader.length ≤ maxHeaderLen
  dataFits : core.txData.length ≤ maxDataLen
  noWrap : (messageLength core.txHeader core.txData).toNat =
    7 + core.txHeader.length + core.txData.length
  writes : ∀ (txbuffer : Memory Uint8) (cell : Nat),
    fillTxbuffer txbuffer core.device.grspwId msgqData core.txHeader
        core.txData cell ≠ txbuffer cell →
      cell < (messageLength core.txHeader core.txData).toNat
  inBuffer : (messageLength core.txHeader core.txData).toNat ≤ txbufferSize
  inQueue : (messageLength core.txHeader core.txData).toNat ≤ maxqSize
  alive : ∀ msg, txenable layout core ≠ .error (.checkFatal msg)

variable {layout : Layout} (core : Core)

theorem length_txHeader :
    core.txHeader.length =
      (core.txDescr.ctrl &&& spwtdw0HeaderLength).toNat :=
  Memory.length_read _ _ _

theorem length_txData :
    core.txData.length = (core.txDescr.len &&& spwtdw2DataLength).toNat :=
  Memory.length_read _ _ _

/-- The length field of a header counts up to 255. -/
theorem length_txHeader_le : core.txHeader.length ≤ maxHeaderLen := by
  have field := Word.toNat_and_field core.txDescr.ctrl 0 8 (by decide)
  simp only [length_txHeader, spwtdw0HeaderLength, fieldmask, maxHeaderLen]
  omega

/-- The length field of the data counts less than 16 MiB. -/
theorem length_txData_lt : core.txData.length < maxDataLen := by
  have field := Word.toNat_and_field core.txDescr.len 0 24 (by decide)
  simp only [length_txData, spwtdw2DataLength, fieldmask, maxDataLen]
  omega

/-- An armed descriptor whose message fits the queue does not end the
process. -/
theorem txenable_alive_of_fits
    {core : Core}
    (enabled : checkbit core.regs.chn spwchnTE = true)
    (armed : checkbit core.txDescr.ctrl spwtdw0EN = true)
    (fits : Fits core.txHeader core.txData)
    (msg : String) :
    txenable layout core ≠ .error (.checkFatal msg) := by
  by_cases admits : layout.Admits core.device.txdCur nbTxDescriptor
  · rw [txenable_armed enabled admits armed, if_pos fits]
    intro same
    cases same
  · rw [txenable_outOfBounds enabled admits]
    intro same
    cases same

end Core

/-- **Armed descriptors.**  For every device with its transmitter on and every
enabled descriptor, the packet can be sent exactly when its header and its data
have at most 1017 bytes together. -/
theorem canBeSent_iff
    (layout : Layout)
    (core : Core)
    (enabled : checkbit core.regs.chn spwchnTE = true)
    (armed : checkbit core.txDescr.ctrl spwtdw0EN = true) :
    core.CanBeSent layout ↔
      (core.txDescr.ctrl &&& spwtdw0HeaderLength).toNat +
        (core.txDescr.len &&& spwtdw2DataLength).toNat ≤ 1017 := by
  have length := toNat_messageLength core.txLength_lt
  rw [← core.length_txHeader, ← core.length_txData]
  constructor
  · intro sent
    have short := sent.inQueue
    rw [length, maxqSize] at short
    omega
  · intro short
    have headerFits := core.length_txHeader_le
    have dataFits := core.length_txData_lt
    constructor
    · exact headerFits
    · exact Nat.le_of_lt dataFits
    · exact length
    · intro txbuffer cell changed
      rw [length]
      by_contra beyond
      exact changed (fillTxbuffer_of_length_le (Nat.le_of_not_lt beyond))
    · rw [length, txbufferSize]
      omega
    · rw [length, maxqSize]
      omega
    · have fits : Fits core.txHeader core.txData := by
        rw [Fits, maxqSize]
        omega
      exact Core.txenable_alive_of_fits enabled armed fits

/-- A transmitter before a descriptor of a given data length. -/
def transmittingCore (high low : Uint8) : Core where
  device :=
    { initDevice 0 with
      grspwReg := { (initDevice 0).grspwReg with chn := spwchnTE } }
  host :=
    { ram := fun addr =>
        if addr = 2 then 0x10
        else if addr = 10 then high else if addr = 11 then low else 0
      txbuffer := fun _ => 0
      spwq := []
      log := [] }

/-- A packet of 1017 bytes can be sent. -/
theorem canBeSent_longest : (transmittingCore 0x03 0xF9).CanBeSent .packed :=
  (canBeSent_iff .packed (transmittingCore 0x03 0xF9) (by decide)
    (by decide)).mpr (by decide)

/-- A packet of 1018 bytes ends the process. -/
theorem not_canBeSent_overlong :
    ¬∀ (layout : Layout) (core : Core),
      checkbit core.regs.chn spwchnTE = true →
      checkbit core.txDescr.ctrl spwtdw0EN = true →
        core.CanBeSent layout := by
  intro all
  have sent := all .packed (transmittingCore 0x03 0xFA) (by decide) (by decide)
  have tooLong : ¬(messageLength (transmittingCore 0x03 0xFA).txHeader
      (transmittingCore 0x03 0xFA).txData).toNat ≤ maxqSize := by
    rw [toNat_messageLength (Core.txLength_lt _), Core.length_txHeader,
      Core.length_txData]
    decide
  exact tooLong sent.inQueue

/-! ## Every history of calls -/

/-- The arguments of one call of `grlib_mqgrspw_send_packet`. -/
structure SendCall where
  grspwId : GrspwId
  pword : Uint8
  header : List Uint8
  data : List Uint8

namespace SendCall

/-- One call over the shared transmit buffer. -/
def send (txbuffer : Memory Uint8) (call : SendCall) :
    Except Fault (Memory Uint8 × Message) :=
  sendPacket txbuffer call.grspwId call.pword call.header call.data

/-- The transmit buffer after one more call. -/
def next (txbuffer : Memory Uint8) (call : SendCall) :
    Except Fault (Memory Uint8) :=
  (call.send txbuffer).map Prod.fst

/-- After every history of calls on the zeroed transmit buffer, the same bytes
are handed to `mq_send`. -/
def HistoryFree (call : SendCall) : Prop :=
  ∃ image : Message, ∀ (history : List SendCall) (txbuffer : Memory Uint8),
    Machine.run next (fun _ => 0) history = .ok txbuffer →
      (call.send txbuffer).map Prod.snd = .ok image

variable {call : SendCall}

/-- A call whose message fits the queue. -/
theorem send_eq
    (fits : Fits call.header call.data)
    (txbuffer : Memory Uint8) :
    call.send txbuffer =
      .ok (fillTxbuffer txbuffer call.grspwId call.pword call.header call.data,
        wireImage txbuffer call.grspwId call.pword call.header call.data) := by
  have short : 7 + call.header.length + call.data.length ≤ maxqSize := fits
  have bounded : 7 + call.header.length + call.data.length < 2 ^ 32 := by
    rw [maxqSize] at short
    omega
  rw [send, sendPacket_eq _ _ _ bounded, if_pos fits]

/-- The byte of the message after the header is the one found in the transmit
buffer. -/
theorem wireImage_gap
    (nonempty : call.header ≠ [])
    (txbuffer : Memory Uint8) :
    (wireImage txbuffer call.grspwId call.pword call.header
        call.data)[headerIdx + call.header.length]? =
      some (txbuffer (headerIdx + call.header.length)) := by
  rw [wireImage, Memory.getElem?_read, if_pos, Nat.zero_add,
    fillTxbuffer_gap nonempty]
  rw [headerIdx]
  omega

/-- A packet that leaves a one after every header of a given length. -/
def marking (headerLen : Nat) : SendCall :=
  if headerLen < maxHeaderLen then
    ⟨0, msgqData, List.replicate (headerLen + 1) 1, []⟩
  else ⟨0, msgqData, [], List.replicate (headerLen - 4) 1⟩

/-- Marking goes through. -/
theorem marking_next
    {headerLen : Nat}
    (bounded : headerLen ≤ maxHeaderLen) :
    ∃ txbuffer, next (fun _ => 0) (marking headerLen) = .ok txbuffer ∧
      txbuffer (headerIdx + headerLen) = 1 := by
  rw [maxHeaderLen] at bounded
  unfold marking
  split
  · have fits : Fits (List.replicate (headerLen + 1) (1 : Uint8)) [] := by
      rw [Fits, List.length_replicate, List.length_nil, maxqSize]
      omega
    have held := fillTxbuffer_header (fun _ => 0) 0 msgqData
      (List.replicate (headerLen + 1) 1) []
    have byte := congrArg (fun bytes => bytes[headerLen]?) held
    simp only [Memory.getElem?_read, List.length_replicate,
      Nat.lt_succ_self, if_true, List.getElem?_replicate,
      Option.some.injEq] at byte
    refine ⟨_, ?_, byte⟩
    rw [next, send_eq fits]
    rfl
  · rename_i longest
    have exactly : headerLen = 255 := by
      rw [maxHeaderLen] at longest
      omega
    have fits : Fits [] (List.replicate (headerLen - 4) (1 : Uint8)) := by
      rw [Fits, List.length_replicate, List.length_nil, maxqSize]
      omega
    have cell : headerIdx + ([] : List Uint8).length + dataSize + 1 +
        (headerLen - 5) = headerIdx + headerLen := by
      rw [List.length_nil, headerIdx, dataSize]
      omega
    have inside : headerLen - 5 < headerLen - 4 := by omega
    have held := fillTxbuffer_data (fun _ => 0) 0 msgqData []
      (List.replicate (headerLen - 4) 1)
    have byte := congrArg (fun bytes => bytes[headerLen - 5]?) held
    simp only [Memory.getElem?_read, List.length_replicate,
      List.getElem?_replicate, if_pos inside, cell, Option.some.injEq] at byte
    refine ⟨_, ?_, byte⟩
    rw [next, send_eq fits]
    rfl

/-- A message that depends on no history has an empty header: after marking,
the byte after the header would be another one. -/
theorem HistoryFree.headerless
    (free : call.HistoryFree)
    (bounded : call.header.length ≤ maxHeaderLen)
    (fits : Fits call.header call.data) :
    call.header = [] := by
  obtain ⟨image, same⟩ := free
  by_contra nonempty
  obtain ⟨marked, marks, one⟩ := marking_next bounded
  have fresh := same [] (fun _ => 0) rfl
  have later := same [marking call.header.length] marked (by
    rw [Machine.run_cons_of_ok marks, Machine.run_nil])
  rw [send_eq fits] at fresh later
  have equal := Except.ok.inj (fresh.trans later.symm)
  have bytes := congrArg
    (fun bytes => bytes[headerIdx + call.header.length]?) equal
  simp only [wireImage_gap nonempty, one] at bytes
  exact absurd (Option.some.inj bytes) (by decide)

end SendCall

/-- **Wire images.**  The bytes handed to `mq_send` are the same after every
history of calls exactly when the header is empty. -/
theorem historyFree_iff
    (call : SendCall)
    (bounded : call.header.length ≤ maxHeaderLen)
    (fits : Fits call.header call.data) :
    call.HistoryFree ↔ call.header = [] := by
  constructor
  · intro free
    exact free.headerless bounded fits
  · intro headerless
    refine ⟨wireImage (fun _ => 0) call.grspwId call.pword call.header call.data,
      ?_⟩
    intro history txbuffer _
    rw [SendCall.send_eq fits, headerless]
    exact congrArg Except.ok (wireImage_congr_of_headerless _ _ _ _ _)

/-- A time code after any history. -/
theorem historyFree_timecode : (⟨2, msgqTime, [], [5]⟩ : SendCall).HistoryFree :=
  (historyFree_iff ⟨2, msgqTime, [], [5]⟩ (by decide) (by decide)).mpr rfl

/-- A packet with a header of one byte carries a byte of the packet before. -/
theorem not_historyFree_header :
    ¬∀ call : SendCall, call.header.length ≤ maxHeaderLen →
      Fits call.header call.data → call.HistoryFree := by
  intro all
  have free := all ⟨0, msgqData, [9], [5]⟩ (by decide) (by decide)
  exact absurd (free.headerless (by decide) (by decide)) (by decide)

end Grspw
