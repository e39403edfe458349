import Grspw.MessageQueue

/-!
# Decoding what was encoded

The fields `grlib_mqgrspw_receive_packet` finds in a message written by
`grlib_mqgrspw_send_packet`.  The encoder puts the header where the decoder
looks for the header's length, so the two agree only on headers that are empty
or start with their own length.
-/

namespace Grspw

/-! ## The fields of a filled transmit buffer -/

section Fields

variable
  (txbuffer : Memory Uint8)
  (grspwId : GrspwId)
  (pword : Uint8)
  (header data : List Uint8)

/-- Header and data stay clear of the first two bytes. -/
theorem fillTxbuffer_of_lt_headerIdx
    (cell : Nat)
    (below : cell < headerIdx) :
    fillTxbuffer txbuffer grspwId pword header data cell =
      (txbuffer.write spwIdIdx [BitVec.ofNat 8 grspwId.val]).write pwordIdx
        [pword] cell := by
  unfold fillTxbuffer
  rw [Memory.write_apply_of_outside _ _ _ _ (Or.inl (by omega)),
    Memory.write_apply_of_outside _ _ _ _ (Or.inl (by omega)),
    Memory.write_apply_of_outside _ _ _ _ (Or.inl below),
    Memory.write_apply_of_outside _ _ _ _ (Or.inl below)]

theorem fillTxbuffer_spwIdIdx :
    fillTxbuffer txbuffer grspwId pword header data spwIdIdx =
      BitVec.ofNat 8 grspwId.val := by
  rw [fillTxbuffer_of_lt_headerIdx _ _ _ _ _ _ (by decide)]
  rfl

theorem fillTxbuffer_pwordIdx :
    fillTxbuffer txbuffer grspwId pword header data pwordIdx = pword := by
  rw [fillTxbuffer_of_lt_headerIdx _ _ _ _ _ _ (by decide)]
  rfl

/-- The length byte survives only under an empty header. -/
theorem fillTxbuffer_headerIdx :
    fillTxbuffer txbuffer grspwId pword header data headerIdx =
      header.headD 0 := by
  unfold fillTxbuffer
  rw [Memory.write_apply_of_outside _ _ _ _ (Or.inl (by omega)),
    Memory.write_apply_of_outside _ _ _ _ (Or.inl (by omega))]
  cases header with
  | nil => rfl
  | cons first rest => rfl

theorem fillTxbuffer_header :
    (fillTxbuffer txbuffer grspwId pword header data).read headerIdx
        header.length = header := by
  unfold fillTxbuffer
  rw [Memory.read_write_of_disjoint _ _ _ _ _ (Or.inl (by omega)),
    Memory.read_write_of_disjoint _ _ _ _ _ (Or.inl (by omega))]
  exact Memory.read_write_same _ headerIdx header

theorem fillTxbuffer_dataLen :
    loadWord (fillTxbuffer txbuffer grspwId pword header data)
        (headerIdx + header.length + 1) = BitVec.ofNat 32 data.length := by
  let start := headerIdx + header.length + 1
  let bytes := Word.bytes (BitVec.ofNat 32 data.length)
  have cells : ∀ offset (within : offset < 4),
      fillTxbuffer txbuffer grspwId pword header data (start + offset) =
        bytes[offset] := by
    intro offset within
    unfold fillTxbuffer
    rw [Memory.write_apply_of_outside _ _ _ _ (Or.inl (by
      simp only [start, dataSize]
      omega))]
    exact Memory.write_apply_add _ start bytes offset within
  have first := cells 0 (by decide)
  rw [Nat.add_zero] at first
  unfold loadWord
  rw [first, cells 1 (by decide), cells 2 (by decide), cells 3 (by decide)]
  exact Word.ofBytes_byte _

theorem fillTxbuffer_data :
    (fillTxbuffer txbuffer grspwId pword header data).read
        (headerIdx + header.length + dataSize + 1) data.length = data :=
  Memory.read_write_same _ _ data

end Fields

/-! ## Receiving a message -/

/-- The receive buffer starts with the message just taken. -/
theorem rxbuffer_wireImage
    (txbuffer rxbuffer : Memory Uint8)
    (grspwId : GrspwId)
    (pword : Uint8)
    (header data : List Uint8)
    (cell : Nat)
    (within : cell < 7 + header.length + data.length) :
    rxbuffer.write 0 (wireImage txbuffer grspwId pword header data) cell =
      fillTxbuffer txbuffer grspwId pword header data cell := by
  have bound :
      cell < (wireImage txbuffer grspwId pword header data).length := by
    simpa using within
  have written := Memory.write_apply_add rxbuffer 0
    (wireImage txbuffer grspwId pword header data) cell bound
  rw [Nat.zero_add] at written
  rw [written]
  simp [wireImage, Memory.read]

/-- A slice of the message just taken. -/
theorem read_wireImage
    (txbuffer rxbuffer : Memory Uint8)
    (grspwId : GrspwId)
    (pword : Uint8)
    (header data : List Uint8)
    (start count : Nat)
    (within : start + count ≤ 7 + header.length + data.length) :
    (rxbuffer.write 0 (wireImage txbuffer grspwId pword header data)).read start
        count =
      (fillTxbuffer txbuffer grspwId pword header data).read start count := by
  apply Memory.read_congr
  intro offset below
  exact rxbuffer_wireImage txbuffer rxbuffer grspwId pword header data _
    (by omega)

/-- A word of the message just taken. -/
theorem loadWord_wireImage
    (txbuffer rxbuffer : Memory Uint8)
    (grspwId : GrspwId)
    (pword : Uint8)
    (header data : List Uint8)
    (start : Nat)
    (within : start + 4 ≤ 7 + header.length + data.length) :
    loadWord (rxbuffer.write 0 (wireImage txbuffer grspwId pword header data))
        start =
      loadWord (fillTxbuffer txbuffer grspwId pword header data) start := by
  have cell := rxbuffer_wireImage txbuffer rxbuffer grspwId pword header data
  unfold loadWord
  rw [cell _ (by omega), cell _ (by omega), cell _ (by omega),
    cell _ (by omega)]

/-- What was decoded is what was encoded. -/
structure Received.Carries
    (received : Received)
    (grspwId : GrspwId)
    (pword : Uint8)
    (header data : List Uint8) : Prop where
  grspwId_eq : received.grspwId = grspwId
  pword_eq : received.pword = pword
  headerLen_eq : received.headerLen.toNat = header.length
  header_eq : received.header.read 0 header.length = header
  dataLen_eq : received.dataLen.toNat = data.length
  data_eq : received.data.read 0 data.length = data

/-- A packet sent over the given transmit buffer and received into the given
buffers arrives unchanged. -/
def RoundTrips
    (txbuffer rxbuffer rxHeader rxData : Memory Uint8)
    (grspwId : GrspwId)
    (pword : Uint8)
    (header data : List Uint8) : Prop :=
  ∃ txbuffer' message received,
    sendPacket txbuffer grspwId pword header data =
      .ok (txbuffer', message) ∧
    receivePacket rxbuffer rxHeader rxData message = .ok received ∧
    received.Carries grspwId pword header data

/-- A header whose first byte, if it has one, is its length. -/
def StartsWithLength (header : List Uint8) : Prop :=
  ∀ first ∈ header.head?, first.toNat = header.length

instance (header : List Uint8) : Decidable (StartsWithLength header) :=
  inferInstanceAs (Decidable (∀ first ∈ header.head?, _))

/-- The byte taken for the header length is the first byte of the header. -/
theorem toNat_headD_eq_length_iff (header : List Uint8) :
    (header.headD 0).toNat = header.length ↔ StartsWithLength header := by
  cases header with
  | nil => simp [StartsWithLength]
  | cons first rest => simp [StartsWithLength]

/-- The fields a receive buffer decodes to. -/
def decoded
    (rxbuffer rxHeader rxData : Memory Uint8)
    (grspwId : GrspwId) : Received where
  grspwId := grspwId
  pword := rxbuffer pwordIdx
  headerLen := rxbuffer headerIdx
  dataLen := loadWord rxbuffer (headerIdx + (rxbuffer headerIdx).toNat + 1)
  header := rxHeader.write 0
    (rxbuffer.read headerIdx (rxbuffer headerIdx).toNat)
  data := rxData.write 0
    (rxbuffer.read (headerIdx + (rxbuffer headerIdx).toNat + dataSize + 1)
      (loadWord rxbuffer
        (headerIdx + (rxbuffer headerIdx).toNat + 1)).toNat)
  rxbuffer := rxbuffer

theorem receivePacket_eq_decoded
    {rxbuffer : Memory Uint8}
    {message : Message}
    {grspwId : GrspwId}
    (rxHeader rxData : Memory Uint8)
    (valid : (rxbuffer.write 0 message spwIdIdx).toNat = grspwId.val)
    (small : (loadWord (rxbuffer.write 0 message)
      (headerIdx + (rxbuffer.write 0 message headerIdx).toNat + 1)).toNat ≤
        maxDataLen) :
    receivePacket rxbuffer rxHeader rxData message =
      .ok (decoded (rxbuffer.write 0 message) rxHeader rxData grspwId) := by
  have bound : (rxbuffer.write 0 message spwIdIdx).toNat < 4 := by
    rw [valid]
    exact grspwId.isLt
  unfold receivePacket
  simp only
  rw [if_pos small, dif_pos bound]
  simp only [decoded, valid, Fin.eta]

theorem receivePacket_headerLen
    {rxbuffer rxHeader rxData : Memory Uint8}
    {message : Message}
    {received : Received}
    (returns : receivePacket rxbuffer rxHeader rxData message = .ok received) :
    received.headerLen = rxbuffer.write 0 message headerIdx := by
  unfold receivePacket at returns
  simp only at returns
  split_ifs at returns
  cases returns
  rfl

/-- Decoding a message whose header starts with its own length. -/
theorem receivePacket_wireImage
    (txbuffer rxbuffer rxHeader rxData : Memory Uint8)
    (grspwId : GrspwId)
    (pword : Uint8)
    {header data : List Uint8}
    (fits : Fits header data)
    (starts : StartsWithLength header) :
    ∃ received,
      receivePacket rxbuffer rxHeader rxData
        (wireImage txbuffer grspwId pword header data) = .ok received ∧
      received.Carries grspwId pword header data := by
  have bound : 7 + header.length + data.length ≤ 1024 := fits
  let taken := rxbuffer.write 0 (wireImage txbuffer grspwId pword header data)
  have cell : ∀ index, index < 7 + header.length + data.length →
      taken index = fillTxbuffer txbuffer grspwId pword header data index :=
    rxbuffer_wireImage txbuffer rxbuffer grspwId pword header data
  have slice : ∀ start count, start + count ≤ 7 + header.length + data.length →
      taken.read start count =
        (fillTxbuffer txbuffer grspwId pword header data).read start count :=
    read_wireImage txbuffer rxbuffer grspwId pword header data
  have word : ∀ start, start + 4 ≤ 7 + header.length + data.length →
      loadWord taken start =
        loadWord (fillTxbuffer txbuffer grspwId pword header data) start :=
    loadWord_wireImage txbuffer rxbuffer grspwId pword header data
  have idByte : (taken spwIdIdx).toNat = grspwId.val := by
    have idBound := grspwId.isLt
    rw [cell _ (by simp only [spwIdIdx]; omega), fillTxbuffer_spwIdIdx,
      BitVec.toNat_ofNat]
    omega
  have pwordByte : taken pwordIdx = pword := by
    rw [cell _ (by simp only [pwordIdx]; omega), fillTxbuffer_pwordIdx]
  have lengthByte : (taken headerIdx).toNat = header.length := by
    rw [cell _ (by simp only [headerIdx]; omega), fillTxbuffer_headerIdx]
    exact (toNat_headD_eq_length_iff header).mpr starts
  have headerSlice : taken.read headerIdx header.length = header := by
    rw [slice _ _ (by simp only [headerIdx]; omega), fillTxbuffer_header]
  have dataLenWord :
      (loadWord taken (headerIdx + header.length + 1)).toNat = data.length := by
    rw [word _ (by simp only [headerIdx]; omega), fillTxbuffer_dataLen,
      BitVec.toNat_ofNat]
    omega
  have dataSlice :
      taken.read (headerIdx + header.length + dataSize + 1) data.length =
        data := by
    rw [slice _ _ (by simp only [headerIdx, dataSize]; omega),
      fillTxbuffer_data]
  have small :
      (loadWord taken (headerIdx + (taken headerIdx).toNat + 1)).toNat ≤
        maxDataLen := by
    rw [lengthByte, dataLenWord]
    simp only [maxDataLen]
    omega
  refine ⟨decoded taken rxHeader rxData grspwId,
    receivePacket_eq_decoded rxHeader rxData idByte small, ?_⟩
  constructor
  · rfl
  · exact pwordByte
  · exact lengthByte
  · simp only [decoded, lengthByte, headerSlice]
    exact Memory.read_write_same rxHeader 0 header
  · simp only [decoded, lengthByte, dataLenWord]
  · simp only [decoded, lengthByte, dataLenWord, dataSlice]
    exact Memory.read_write_same rxData 0 data

/-- A packet that fits its queue arrives unchanged exactly when its header is
empty or starts with its own length. -/
theorem roundTrips_iff
    (txbuffer rxbuffer rxHeader rxData : Memory Uint8)
    (grspwId : GrspwId)
    (pword : Uint8)
    (header data : List Uint8)
    (fits : Fits header data) :
    RoundTrips txbuffer rxbuffer rxHeader rxData grspwId pword header data ↔
      StartsWithLength header := by
  have bound : 7 + header.length + data.length ≤ 1024 := fits
  have bounded : 7 + header.length + data.length < 2 ^ 32 := by omega
  have sends := sendPacket_eq txbuffer grspwId pword bounded
  rw [if_pos fits] at sends
  constructor
  · rintro ⟨txbuffer', message, received, sent, returns, carries⟩
    rw [sends] at sent
    cases sent
    have lengthByte := receivePacket_headerLen returns
    rw [rxbuffer_wireImage _ _ _ _ _ _ _ (by simp only [headerIdx]; omega),
      fillTxbuffer_headerIdx] at lengthByte
    rw [← toNat_headD_eq_length_iff, ← lengthByte]
    exact carries.headerLen_eq
  · intro starts
    obtain ⟨received, returns, carries⟩ := receivePacket_wireImage txbuffer
      rxbuffer rxHeader rxData grspwId pword fits starts
    exact ⟨_, _, received, sends, returns, carries⟩

/-- A two-byte header that starts with 2. -/
theorem roundTrips_length_prefixed :
    RoundTrips (fun _ => 0) (fun _ => 0) (fun _ => 0) (fun _ => 0) 0 msgqData
      [2, 7] [5] :=
  (roundTrips_iff (fun _ => 0) (fun _ => 0) (fun _ => 0) (fun _ => 0) 0 msgqData
    [2, 7] [5] (by decide)).mpr (by decide)

/-- A header of the single byte 254 is decoded with a length of 254. -/
theorem not_roundTrips_node_address :
    ¬∀ (txbuffer rxbuffer rxHeader rxData : Memory Uint8)
      (grspwId : GrspwId) (pword : Uint8) (header data : List Uint8),
      header.length ≤ maxHeaderLen → Fits header data →
      RoundTrips txbuffer rxbuffer rxHeader rxData grspwId pword header
        data := by
  intro all
  obtain ⟨txbuffer', message, received, sent, returns, carries⟩ :=
    all (fun _ => 0) (fun _ => 0) (fun _ => 0) (fun _ => 0) 0 msgqData [254] []
      (by decide) (by decide)
  have sends := sendPacket_eq (fun _ => 0) 0 msgqData
    (show 7 + [(254 : Uint8)].length + ([] : List Uint8).length < 2 ^ 32 by
      decide)
  rw [if_pos (by decide)] at sends
  rw [sends] at sent
  cases sent
  have lengthByte := receivePacket_headerLen returns
  rw [rxbuffer_wireImage _ _ _ _ _ _ _ (by decide),
    fillTxbuffer_headerIdx] at lengthByte
  have wrong := carries.headerLen_eq
  rw [lengthByte] at wrong
  exact absurd wrong (by decide)

end Grspw
