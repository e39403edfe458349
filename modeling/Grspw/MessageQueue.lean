import Grspw.Util

/-!
# Messages between the plugin and the external device

The wire format shared by the two POSIX queues: `spwq` towards the external
device and `devq` back.  Both directions use one encoder with a global transmit
buffer and one decoder with a global receive buffer, none of them ever cleared.
-/

namespace Grspw

/-- Core ids, `e_grspw_core1` to `e_grspw_core4`. -/
abbrev GrspwId := Fin 4

/-- The library's instance under one name, shared by all numerals for a core
id. -/
instance instNeZeroCores : NeZero 4 := inferInstance

/-- Number of cores. -/
def grspwCorenb : Uint32 := 4

/-- Why a call does not return. -/
inductive Fault
  /-- `CHECK_FATAL` printed its message and ended the process. -/
  | checkFatal (msg : String)
  /-- An array was accessed outside its bounds. -/
  | outOfBounds
  deriving DecidableEq

/-! ## Constants -/

/-- Bytes of a message besides its header and its data. -/
def overhead : Uint32 := 7

/-- The maximum header length is 255 bytes. -/
def maxHeaderLen : Nat := 255

/-- The maximum data length is 16 MiB. -/
def maxDataLen : Nat := 16 * 1024 * 1024

/-- `mq_msgsize` of both queues. -/
def maxqSize : Nat := 1024

/-- Protocol word of an acknowledge. -/
def msgqAck : Uint8 := 0x00

/-- Protocol word of a data packet. -/
def msgqData : Uint8 := 0x01

/-- Protocol word of a time code. -/
def msgqTime : Uint8 := 0x02

/-- Position of the core id. -/
def spwIdIdx : Nat := 0

/-- Position of the protocol word. -/
def pwordIdx : Nat := 1

/-- Position of the header length. -/
def headerIdx : Nat := 2

/-- Width of the data length field. -/
def dataSize : Nat := 4

/-! ## Sending -/

/-- A message as it stands on a queue. -/
abbrev Message := List Uint8

/-- `mq_send` rejects a message longer than the queue's `mq_msgsize`. -/
def mqSend (message : Message) : Except Fault Message :=
  if message.length ≤ maxqSize then .ok message
  else .error (.checkFatal "packet transmission failure")

/-- What `grlib_mqgrspw_send_packet` writes to the transmit buffer. -/
def fillTxbuffer
    (txbuffer : Memory Uint8)
    (grspwId : GrspwId)
    (pword : Uint8)
    (header data : List Uint8) : Memory Uint8 :=
  let txbuffer := txbuffer.write spwIdIdx [BitVec.ofNat 8 grspwId.val]
  let txbuffer := txbuffer.write pwordIdx [pword]
  let txbuffer := txbuffer.write headerIdx [BitVec.ofNat 8 header.length]
  -- the header is copied over the length byte just written
  let txbuffer := txbuffer.write headerIdx header
  let txbuffer := txbuffer.write (headerIdx + header.length + 1)
    (Word.bytes (BitVec.ofNat 32 data.length))
  txbuffer.write (headerIdx + header.length + dataSize + 1) data

/-- The `length` computed for a message, a 32-bit sum. -/
def messageLength (header data : List Uint8) : Uint32 :=
  overhead + BitVec.ofNat 32 header.length + BitVec.ofNat 32 data.length

/-- Encode a packet and put it on a queue: the transmit buffer afterwards and
the message handed to `mq_send`. -/
def sendPacket
    (txbuffer : Memory Uint8)
    (grspwId : GrspwId)
    (pword : Uint8)
    (header data : List Uint8) : Except Fault (Memory Uint8 × Message) :=
  let txbuffer := fillTxbuffer txbuffer grspwId pword header data
  match mqSend (txbuffer.read 0 (messageLength header data).toNat) with
  | .ok message => .ok (txbuffer, message)
  | .error fault => .error fault

/-- The message of a header and a data block is short enough for the queue. -/
def Fits (header data : List Uint8) : Prop :=
  7 + header.length + data.length ≤ maxqSize

instance (header data : List Uint8) : Decidable (Fits header data) :=
  inferInstanceAs (Decidable (_ ≤ _))

/-- The bytes a packet leaves on its queue, over an earlier transmit buffer. -/
def wireImage
    (txbuffer : Memory Uint8)
    (grspwId : GrspwId)
    (pword : Uint8)
    (header data : List Uint8) : Message :=
  (fillTxbuffer txbuffer grspwId pword header data).read 0
    (7 + header.length + data.length)

@[simp] theorem length_wireImage
    (txbuffer : Memory Uint8)
    (grspwId : GrspwId)
    (pword : Uint8)
    (header data : List Uint8) :
    (wireImage txbuffer grspwId pword header data).length =
      7 + header.length + data.length := by
  simp [wireImage]

theorem toNat_messageLength
    {header data : List Uint8}
    (bounded : 7 + header.length + data.length < 2 ^ 32) :
    (messageLength header data).toNat = 7 + header.length + data.length := by
  simp only [messageLength, overhead, BitVec.ofNat_eq_ofNat, BitVec.toNat_add,
    BitVec.toNat_ofNat]
  omega

/-- Sending goes through exactly when the message fits. -/
theorem sendPacket_eq
    (txbuffer : Memory Uint8)
    (grspwId : GrspwId)
    (pword : Uint8)
    {header data : List Uint8}
    (bounded : 7 + header.length + data.length < 2 ^ 32) :
    sendPacket txbuffer grspwId pword header data =
      if Fits header data then
        .ok (fillTxbuffer txbuffer grspwId pword header data,
          wireImage txbuffer grspwId pword header data)
      else .error (.checkFatal "packet transmission failure") := by
  unfold sendPacket mqSend wireImage
  rw [toNat_messageLength bounded]
  simp only [Memory.length_read]
  by_cases fits : Fits header data
  · have short : 7 + header.length + data.length ≤ maxqSize := fits
    simp only [if_pos fits, if_pos short]
  · have long : ¬7 + header.length + data.length ≤ maxqSize := fits
    simp only [if_neg fits, if_neg long]

/-! ## Receiving -/

/-- What `grlib_mqgrspw_receive_packet` leaves to its caller, with the buffers
it filled. -/
structure Received where
  grspwId : GrspwId
  pword : Uint8
  headerLen : Uint8
  dataLen : Uint32
  header : Memory Uint8
  data : Memory Uint8
  rxbuffer : Memory Uint8

/-- Take a message into the receive buffer and decode it into the caller's
header and data buffers. -/
def receivePacket
    (rxbuffer header data : Memory Uint8)
    (message : Message) : Except Fault Received :=
  let rxbuffer := rxbuffer.write 0 message
  let grspwId := rxbuffer spwIdIdx
  let headerLen := rxbuffer headerIdx
  let header := header.write 0 (rxbuffer.read headerIdx headerLen.toNat)
  let dataLen := loadWord rxbuffer (headerIdx + headerLen.toNat + 1)
  -- `g_rxdata` holds 16 MiB, the length field counts up to 4 GiB
  if dataLen.toNat ≤ maxDataLen then
    let data := data.write 0
      (rxbuffer.read (headerIdx + headerLen.toNat + dataSize + 1)
        dataLen.toNat)
    if valid : grspwId.toNat < 4 then
      .ok
        { grspwId := ⟨grspwId.toNat, valid⟩
          pword := rxbuffer pwordIdx
          headerLen := headerLen
          dataLen := dataLen
          header := header
          data := data
          rxbuffer := rxbuffer }
    else .error (.checkFatal "receive packet with a spacewire id invalid")
  else .error .outOfBounds

/-! ## The emulator around the devices -/

/-- What a step of the plugin shows to its surroundings, messages on `spwq`
apart. -/
inductive Effect
  | ramWrite (addr : Uint32) (values : List Uint8)
  | irqPulse (grspwId : GrspwId)
  | warning (msg : String)
  | regRead (value : Uint32)
  deriving DecidableEq

/-- The state all cores share: guest RAM, the transmit buffer, the messages put
on `spwq` and the effects so far, the latest last. -/
structure Host where
  ram : Memory Uint8
  txbuffer : Memory Uint8
  spwq : List Message
  log : List Effect

namespace Host

/-- Log one more effect. -/
def emit (host : Host) (effect : Effect) : Host :=
  { host with log := host.log ++ [effect] }

@[simp] theorem emit_ram (host : Host) (effect : Effect) :
    (host.emit effect).ram = host.ram := rfl

@[simp] theorem emit_spwq (host : Host) (effect : Effect) :
    (host.emit effect).spwq = host.spwq := rfl

@[simp] theorem emit_log (host : Host) (effect : Effect) :
    (host.emit effect).log = host.log ++ [effect] := rfl

/-- Write bytes to guest RAM through `address_space_write`. -/
def writeRam (host : Host) (addr : Uint32) (values : List Uint8) : Host :=
  { host.emit (.ramWrite addr values) with
    ram := host.ram.write addr.toNat values }

@[simp] theorem writeRam_ram
    (host : Host) (addr : Uint32) (values : List Uint8) :
    (host.writeRam addr values).ram = host.ram.write addr.toNat values := rfl

@[simp] theorem writeRam_txbuffer
    (host : Host) (addr : Uint32) (values : List Uint8) :
    (host.writeRam addr values).txbuffer = host.txbuffer := rfl

@[simp] theorem writeRam_spwq
    (host : Host) (addr : Uint32) (values : List Uint8) :
    (host.writeRam addr values).spwq = host.spwq := rfl

@[simp] theorem writeRam_log
    (host : Host) (addr : Uint32) (values : List Uint8) :
    (host.writeRam addr values).log =
      host.log ++ [.ramWrite addr values] := rfl

/-- Copy host bytes to guest RAM, in groups of four reversed on demand.  Every
byte of the `malloc` block is overwritten for the lengths in use: four bytes
swapped, any number straight. -/
def writeLeon3Ram
    (host : Host)
    (addr : Uint32)
    (buff : Memory Uint8)
    (len : Uint32)
    (sawpEndian : Bool) : Host :=
  host.writeRam addr (leon3Bytes (fun _ => 0) buff len sawpEndian)

@[simp] theorem writeLeon3Ram_word
    (host : Host) (addr word : Uint32) :
    host.writeLeon3Ram addr (wordImage word) 4 true =
      host.writeRam addr (ramBytes word) := by
  rw [writeLeon3Ram, leon3Bytes_word]

@[simp] theorem writeLeon3Ram_copy
    (host : Host) (addr : Uint32) (buff : Memory Uint8) (len : Uint32) :
    host.writeLeon3Ram addr buff len false =
      host.writeRam addr (buff.read 0 len.toNat) := by
  rw [writeLeon3Ram, leon3Bytes_copy]

end Host

/-- Put a packet on `spwq`. -/
def sendSpwpacket
    (host : Host)
    (grspwId : GrspwId)
    (pword : Uint8)
    (header data : List Uint8) : Except Fault Host :=
  match sendPacket host.txbuffer grspwId pword header data with
  | .ok (txbuffer, message) =>
      .ok { host with txbuffer := txbuffer, spwq := host.spwq ++ [message] }
  | .error fault => .error fault

/-- What a packet that fits leaves behind. -/
def Host.sent
    (host : Host)
    (grspwId : GrspwId)
    (pword : Uint8)
    (header data : List Uint8) : Host :=
  { host with
    txbuffer := fillTxbuffer host.txbuffer grspwId pword header data
    spwq := host.spwq ++
      [wireImage host.txbuffer grspwId pword header data] }

theorem sendSpwpacket_eq
    (host : Host)
    (grspwId : GrspwId)
    (pword : Uint8)
    {header data : List Uint8}
    (bounded : 7 + header.length + data.length < 2 ^ 32) :
    sendSpwpacket host grspwId pword header data =
      if Fits header data then .ok (host.sent grspwId pword header data)
      else .error (.checkFatal "packet transmission failure") := by
  unfold sendSpwpacket
  rw [sendPacket_eq host.txbuffer grspwId pword bounded]
  by_cases fits : Fits header data
  · simp [fits, Host.sent]
  · simp [fits]

/-- Put a time code on `spwq`.  The argument is narrowed to a byte. -/
def sendSpwtimecode
    (host : Host)
    (grspwId : GrspwId)
    (timeCode : Uint32) : Except Fault Host :=
  sendSpwpacket host grspwId msgqTime [] [timeCode.setWidth 8]

/-- A time code always fits. -/
theorem sendSpwtimecode_eq
    (host : Host)
    (grspwId : GrspwId)
    (timeCode : Uint32) :
    sendSpwtimecode host grspwId timeCode =
      .ok (host.sent grspwId msgqTime [] [timeCode.setWidth 8]) := by
  unfold sendSpwtimecode
  rw [sendSpwpacket_eq host grspwId msgqTime (by simp), if_pos]
  simp [Fits, maxqSize]

end Grspw
