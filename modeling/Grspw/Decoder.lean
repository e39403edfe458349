import Grspw.Codec

/-!
# Decoding an arbitrary message

The decoder takes two lengths from the message and never compares them with the
number of bytes `mq_receive` returned.  It stays within the message, or stops,
exactly when the fields it finds do.
-/

namespace Grspw

/-- Where the decoder reads its buffer: offset and number of bytes of each
access. -/
def decoderReads (headerLen dataLen : Nat) : List (Nat × Nat) :=
  [(spwIdIdx, 1), (pwordIdx, 1), (headerIdx, 1), (headerIdx, headerLen),
    (headerIdx + headerLen + 1, dataSize),
    (headerIdx + headerLen + dataSize + 1, dataLen)]

/-- What was decoded was read within the message, and header and data are
slices of it that fit the caller's buffers. -/
structure DecodedWithin (message : Message) (received : Received) : Prop where
  reads : ∀ access ∈
      decoderReads received.headerLen.toNat received.dataLen.toNat,
    access.1 + access.2 ≤ message.length
  header_eq : received.header.read 0 received.headerLen.toNat =
    (message.drop headerIdx).take received.headerLen.toNat
  headerFits : received.headerLen.toNat ≤ maxHeaderLen
  data_eq : received.data.read 0 received.dataLen.toNat =
    (message.drop
      (headerIdx + received.headerLen.toNat + dataSize + 1)).take
        received.dataLen.toNat
  dataFits : received.dataLen.toNat ≤ maxDataLen

/-- Receiving a message over the given buffers ends in `CHECK_FATAL` or decodes
a core's packet within the message. -/
def DecodesSafely
    (rxbuffer rxHeader rxData : Memory Uint8)
    (message : Message) : Prop :=
  match receivePacket rxbuffer rxHeader rxData message with
  | .ok received => received.grspwId.val < 4 ∧ DecodedWithin message received
  | .error (.checkFatal _) => True
  | .error .outOfBounds => False

/-! ## The fields in the receive buffer -/

/-- The core id byte a message leaves in the receive buffer. -/
def idField (rxbuffer : Memory Uint8) (message : Message) : Nat :=
  (rxbuffer.write 0 message spwIdIdx).toNat

/-- The header length byte a message leaves in the receive buffer. -/
def headerLenField (rxbuffer : Memory Uint8) (message : Message) : Nat :=
  (rxbuffer.write 0 message headerIdx).toNat

/-- The data length word a message leaves in the receive buffer. -/
def dataLenField (rxbuffer : Memory Uint8) (message : Message) : Nat :=
  (loadWord (rxbuffer.write 0 message)
    (headerIdx + headerLenField rxbuffer message + 1)).toNat

/-- The fields found end within the message, or they name no core and a length
that the data buffer can take. -/
def FieldsWithin (rxbuffer : Memory Uint8) (message : Message) : Prop :=
  headerIdx + headerLenField rxbuffer message + dataSize + 1 +
      dataLenField rxbuffer message ≤ message.length ∨
    (4 ≤ idField rxbuffer message ∧
      dataLenField rxbuffer message ≤ maxDataLen)

instance (rxbuffer : Memory Uint8) (message : Message) :
    Decidable (FieldsWithin rxbuffer message) :=
  inferInstanceAs (Decidable (_ ∨ _))

section Messages

variable
  {rxbuffer rxHeader rxData : Memory Uint8}
  {message : Message}

/-- A data length beyond the data buffer is copied all the same. -/
theorem receivePacket_overlong
    (overlong : ¬dataLenField rxbuffer message ≤ maxDataLen) :
    receivePacket rxbuffer rxHeader rxData message = .error .outOfBounds := by
  unfold receivePacket
  exact if_neg overlong

/-- A message that names no core stops the process. -/
theorem receivePacket_nameless
    (small : dataLenField rxbuffer message ≤ maxDataLen)
    (nameless : ¬idField rxbuffer message < 4) :
    receivePacket rxbuffer rxHeader rxData message =
      .error (.checkFatal "receive packet with a spacewire id invalid") := by
  unfold receivePacket
  exact (if_pos small).trans (dif_neg nameless)

/-- What is decoded was read within the message exactly when its fields end
there. -/
theorem decodedWithin_iff
    (short : message.length ≤ maxqSize)
    (grspwId : GrspwId) :
    DecodedWithin message
        (decoded (rxbuffer.write 0 message) rxHeader rxData grspwId) ↔
      headerIdx + headerLenField rxbuffer message + dataSize + 1 +
        dataLenField rxbuffer message ≤ message.length := by
  have lengthByte : headerLenField rxbuffer message < 256 :=
    (rxbuffer.write 0 message headerIdx).isLt
  constructor
  · intro within
    exact within.reads
      (headerIdx + headerLenField rxbuffer message + dataSize + 1,
        dataLenField rxbuffer message) (by
      simp only [decoderReads, List.mem_cons]
      exact Or.inr (Or.inr (Or.inr (Or.inr (Or.inr (Or.inl rfl))))))
  · intro within
    constructor
    · intro access member
      change access ∈ decoderReads (headerLenField rxbuffer message)
        (dataLenField rxbuffer message) at member
      simp only [decoderReads, List.mem_cons, List.not_mem_nil, or_false,
        spwIdIdx, pwordIdx, headerIdx, dataSize] at member within
      obtain rfl | rfl | rfl | rfl | rfl | rfl := member <;> simp only <;> omega
    · have slice := Memory.read_write_same rxHeader 0
        ((rxbuffer.write 0 message).read headerIdx
          (headerLenField rxbuffer message))
      rw [Memory.length_read] at slice
      refine slice.trans (Memory.read_write_within rxbuffer ?_)
      simp only [headerIdx, dataSize] at within ⊢
      omega
    · exact Nat.le_of_lt_succ lengthByte
    · have slice := Memory.read_write_same rxData 0
        ((rxbuffer.write 0 message).read
          (headerIdx + headerLenField rxbuffer message + dataSize + 1)
          (dataLenField rxbuffer message))
      rw [Memory.length_read] at slice
      exact slice.trans (Memory.read_write_within rxbuffer within)
    · change dataLenField rxbuffer message ≤ maxDataLen
      simp only [maxqSize, maxDataLen] at short ⊢
      omega

end Messages

/-- **Decoder safety.**  A message of at most `mq_msgsize` bytes, received over
any buffers, is decoded within its bytes or stops the process exactly when the
fields found end within it, or name no core and a length that the data buffer
can take. -/
theorem decodesSafely_iff
    (rxbuffer rxHeader rxData : Memory Uint8)
    (message : Message)
    (short : message.length ≤ maxqSize) :
    DecodesSafely rxbuffer rxHeader rxData message ↔
      FieldsWithin rxbuffer message := by
  unfold DecodesSafely FieldsWithin
  by_cases small : dataLenField rxbuffer message ≤ maxDataLen
  · by_cases named : idField rxbuffer message < 4
    · have decodes := @receivePacket_eq_decoded rxbuffer message
        ⟨idField rxbuffer message, named⟩ rxHeader rxData rfl small
      rw [decodes]
      simp only [decodedWithin_iff short]
      exact ⟨fun safe => Or.inl safe.2, fun fields => ⟨named, by omega⟩⟩
    · rw [receivePacket_nameless small named]
      exact iff_of_true trivial (Or.inr ⟨Nat.le_of_not_lt named, small⟩)
  · rw [receivePacket_overlong small]
    refine iff_of_false id ?_
    simp only [maxDataLen, maxqSize] at small short ⊢
    omega

/-- A message with an empty header and one byte of data. -/
theorem decodesSafely_one_byte :
    DecodesSafely (fun _ => 0) (fun _ => 0) (fun _ => 0)
      [0, 1, 0, 1, 0, 0, 0, 7] :=
  (decodesSafely_iff (fun _ => 0) (fun _ => 0) (fun _ => 0)
    [0, 1, 0, 1, 0, 0, 0, 7] (by decide)).mpr (by decide)

/-- Seven bytes that promise 255 more are decoded with bytes that are not in the
message. -/
theorem not_decodesSafely_truncated :
    ¬∀ (rxbuffer rxHeader rxData : Memory Uint8) (message : Message),
      message.length ≤ maxqSize →
        DecodesSafely rxbuffer rxHeader rxData message := by
  intro all
  have safe := all (fun _ => 0) (fun _ => 0) (fun _ => 0)
    [0, 1, 0, 255, 0, 0, 0] (by decide)
  have decodes := @receivePacket_eq_decoded (fun _ => 0)
    [0, 1, 0, 255, 0, 0, 0] 0 (fun _ => 0) (fun _ => 0) rfl (by decide)
  unfold DecodesSafely at safe
  rw [decodes] at safe
  exact absurd ((decodedWithin_iff (by decide) 0).mp safe.2) (by decide)

end Grspw
