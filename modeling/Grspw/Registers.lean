import Grspw.MessageQueue

/-!
# The register block of a core

The eleven SpaceWire registers of one core, their access masks, and the reset,
write and read functions behind the APB bus.  A write of `SPWCTR` with the Tick
In bit also puts a time code on `spwq`.
-/

namespace Grspw

/-- `len` ones at the bottom of a register. -/
abbrev fieldmask (len : Nat) : Uint32 := Word.ones len

/-- The registers mapped into APB memory space. -/
structure Regs where
  /-- SPW Control Register (SPWCTR) 0x0 -/
  ctr : Uint32
  /-- SPW Status Register (SPWSTR) 0x4 -/
  str : Uint32
  /-- SPW Node Address Register (SPWNDR) 0x8 -/
  ndr : Uint32
  /-- SPW Clock Divisor Register (SPWCLK) 0xC -/
  clk : Uint32
  /-- SPW Destination Key Register (SPWKEY) 0x10 -/
  key : Uint32
  /-- SPW Time Register (SPWTIM) 0x14 -/
  tim : Uint32
  /-- SPW Timer and Disconnect Register (SPWTDR) 0x18 -/
  tdr : Uint32
  /-- SPW DMA Channel Control and Status Register (SPWCHN) 0x20 -/
  chn : Uint32
  /-- SPW DMA Channel Receiver Maximum Length Register (SPWRXL) 0x24 -/
  rxl : Uint32
  /-- SPW Transmitter Descriptor Table Address Register (SPWTXD) 0x28 -/
  txd : Uint32
  /-- SPW Receiver Descriptor Table Address Register (SPWRXD) 0x2C -/
  rxd : Uint32
  deriving DecidableEq

/-! ## Masks -/

def spwctrReservedMask : Uint32 := 0x1FFCF080
def spwctrReadonlyMask : Uint32 := 0xE0000000
def spwctrNotresetMask : Uint32 := 0x00000007
def spwctrSelfclearMask : Uint32 := 0x00000050
def spwctrClearsetMask : Uint32 := 0x00030F28

/-- Tick-Out IRQ. -/
def spwctrTQ : Uint32 := 1#32 <<< 8
/-- Reset. -/
def spwctrRS : Uint32 := 1#32 <<< 6
/-- Open Packet Mode. -/
def spwctrOPM : Uint32 := 1#32 <<< 5
/-- Tick In. -/
def spwctrTI : Uint32 := 1#32 <<< 4
/-- Autostart. -/
def spwctrAS : Uint32 := 1#32 <<< 2
/-- Link Start. -/
def spwctrLS : Uint32 := 1#32 <<< 1
/-- Link Disable. -/
def spwctrLD : Uint32 := 1#32 <<< 0

/-- Link State is Running. -/
def spwstrLSRUN : Uint32 := 5#32 <<< 21
/-- Link State. -/
def spwstrLS : Uint32 := fieldmask 3 <<< 21
/-- Early EOP/EEP. -/
def spwstrEE : Uint32 := 1#32 <<< 8
/-- Invalid Address. -/
def spwstrIA : Uint32 := 1#32 <<< 7
/-- Write Synchronization Error. -/
def spwstrWE : Uint32 := 1#32 <<< 6
/-- Parity Error. -/
def spwstrPE : Uint32 := 1#32 <<< 4
/-- Disconnect Error. -/
def spwstrDE : Uint32 := 1#32 <<< 3
/-- Escape Error. -/
def spwstrER : Uint32 := 1#32 <<< 2
/-- Credit Error. -/
def spwstrCE : Uint32 := 1#32 <<< 1
/-- Tick Out. -/
def spwstrTO : Uint32 := 1#32 <<< 0

def spwndrMask : Uint32 := fieldmask 8 <<< 0

def spwclkDivisorLink : Uint32 := fieldmask 8 <<< 8
def spwclkDivisorRun : Uint32 := fieldmask 8 <<< 0

def spwkeyKey : Uint32 := fieldmask 8 <<< 0

/-- Time Control Flags. -/
def spwtimTimeCtrl : Uint32 := fieldmask 2 <<< 6
/-- Time Counter. -/
def spwtimTimeCounter : Uint32 := fieldmask 6 <<< 0

def spwtdrDisconnect : Uint32 := fieldmask 10 <<< 12
def spwtdrTimer64 : Uint32 := fieldmask 12 <<< 0

def spwchnReservedMask : Uint32 := 0xFFFEE000
def spwchnNotresetMask : Uint32 := 0x0000001C
def spwchnSelfclearMask : Uint32 := 0x00000A01
def spwchnClearsetMask : Uint32 := 0x00011402

/-- No Spill. -/
def spwchnNS : Uint32 := 1#32 <<< 12
/-- RX Descriptors Available. -/
def spwchnRD : Uint32 := 1#32 <<< 11
/-- RX Active. -/
def spwchnRX : Uint32 := 1#32 <<< 10
/-- Abort TX. -/
def spwchnAT : Uint32 := 1#32 <<< 9
/-- Abort RX AHB Error. -/
def spwchnRA : Uint32 := 1#32 <<< 8
/-- Abort TX AHB Error. -/
def spwchnTA : Uint32 := 1#32 <<< 7
/-- Packet Received. -/
def spwchnPR : Uint32 := 1#32 <<< 6
/-- Packet Sent. -/
def spwchnPS : Uint32 := 1#32 <<< 5
/-- AHB Error Interrupt. -/
def spwchnAI : Uint32 := 1#32 <<< 4
/-- Receive Interrupt. -/
def spwchnRI : Uint32 := 1#32 <<< 3
/-- Transmit Interrupt. -/
def spwchnTI : Uint32 := 1#32 <<< 2
/-- Receiver Enable. -/
def spwchnRE : Uint32 := 1#32 <<< 1
/-- Transmitter Enable. -/
def spwchnTE : Uint32 := 1#32 <<< 0

def spwrxlRxMaxLength : Uint32 := fieldmask 23 <<< 2

def spwtxdTxBaseAddress : Uint32 := fieldmask 22 <<< 10
def spwtxdTxDescSelect : Uint32 := fieldmask 6 <<< 4

def spwrxdRxBaseAddress : Uint32 := fieldmask 22 <<< 10
def spwrxdRxDescSelect : Uint32 := fieldmask 7 <<< 3

/-! ## Offsets -/

/-- The register an offset selects; every other offset selects none. -/
inductive RegOffset
  | ctr | str | ndr | clk | key | tim | tdr | chn | rxl | txd | rxd
  | other (offset : Uint8)
  deriving DecidableEq

/-- The register selected by the low byte of a bus address. -/
def getRegoffset (addr : BitVec 64) : RegOffset :=
  match (addr &&& 0xFF).toNat with
  | 0x00 => .ctr
  | 0x04 => .str
  | 0x08 => .ndr
  | 0x0C => .clk
  | 0x10 => .key
  | 0x14 => .tim
  | 0x18 => .tdr
  | 0x20 => .chn
  | 0x24 => .rxl
  | 0x28 => .txd
  | 0x2C => .rxd
  | offset => .other (BitVec.ofNat 8 offset)

/-! ## Reset and writes -/

/-- Default values; the not-reset bits of SPWCTR and SPWCHN are kept. -/
def resetRegisters (grspwId : GrspwId) (regs : Regs) : Regs :=
  let ctr :=
    -- RMAP is unavailable on the first two cores
    if grspwId < 2 then regs.ctr &&& spwctrNotresetMask ||| 0x00010002
    else regs.ctr &&& spwctrNotresetMask ||| 0xA0010002
  { ctr := clearbit ctr spwctrRS
    str := 0
    ndr := 254
    clk := 0x404
    key := 0
    tim := 0
    tdr := 0x27140
    chn := regs.chn &&& spwchnNotresetMask ||| 0
    rxl := 0
    rxd := 0
    txd := 0 }

/-- Increment the time counter and send the new time value. -/
def tickIn (grspwId : GrspwId) (regs : Regs) (host : Host) :
    Except Fault (Regs × Host) :=
  let tim := deposit regs.tim spwtimTimeCounter (regs.tim + 1)
  match sendSpwtimecode host grspwId tim with
  | .ok host =>
      .ok ({ regs with tim := tim, ctr := clearbit regs.ctr spwctrTI }, host)
  | .error fault => .error fault

/-- Link Start: the link runs and Link Disable is cleared. -/
def linkStart (value : Uint32) (regs : Regs) : Regs :=
  if checkbit value spwctrLS then
    { regs with
      str := deposit regs.str spwstrLS spwstrLSRUN
      ctr := clearbit regs.ctr spwctrLD }
  else regs

/-- Link Disable: the link is reset and Link Start is cleared. -/
def linkDisable (value : Uint32) (regs : Regs) : Regs :=
  if checkbit value spwctrLD then
    { regs with
      str := deposit regs.str spwstrLS 0
      ctr := clearbit regs.ctr spwctrLS }
  else regs

/-- Write SPWCTR. -/
def writeCtr
    (grspwId : GrspwId)
    (regs : Regs)
    (host : Host)
    (value : Uint32) : Except Fault (Regs × Host) :=
  let reg := regs.ctr
  let clearset :=
    deposit reg (spwctrClearsetMask ||| spwctrNotresetMask) value
  let set := setbit reg (value &&& spwctrSelfclearMask)
  let regs := { regs with ctr := clearset ||| set }
  let regs :=
    if checkbit value spwctrRS then resetRegisters grspwId regs else regs
  let ticked :=
    if checkbit value spwctrTI then tickIn grspwId regs host
    else .ok (regs, host)
  match ticked with
  | .ok (regs, host) => .ok (linkDisable value (linkStart value regs), host)
  | .error fault => .error fault

/-- Clear a status bit when a one is written to it. -/
def clearOnOne (value mask reg : Uint32) : Uint32 :=
  if checkbit value mask then clearbit reg mask else reg

/-- Write SPWSTR. -/
def writeStr (regs : Regs) (value : Uint32) : Regs :=
  let str := clearOnOne value spwstrEE regs.str
  let str := clearOnOne value spwstrIA str
  let str := clearOnOne value spwstrWE str
  let str := clearOnOne value spwstrPE str
  let str := clearOnOne value spwstrDE str
  let str := clearOnOne value spwstrER str
  let str := clearOnOne value spwstrCE str
  let str := clearOnOne value spwstrTO str
  { regs with str := str }

/-- Write SPWCHN. -/
def writeChn (regs : Regs) (value : Uint32) : Regs :=
  let reg := regs.chn
  let clearset :=
    deposit reg (spwchnClearsetMask ||| spwchnNotresetMask) value
  let set := setbit clearset (value &&& spwchnSelfclearMask)
  let chn :=
    if checkbit value spwchnAT then
      clearbit (clearbit set spwchnTE) spwchnAT
    else set
  let chn := clearOnOne value spwchnRA chn
  let chn := clearOnOne value spwchnTA chn
  let chn := clearOnOne value spwchnPR chn
  let chn := clearOnOne value spwchnPS chn
  { regs with chn := chn }

/-- Write the selected register. -/
def writeRegisters
    (grspwId : GrspwId)
    (regs : Regs)
    (host : Host)
    (regOffset : RegOffset)
    (value : Uint32) : Except Fault (Regs × Host) :=
  match regOffset with
  | .ctr => writeCtr grspwId regs host value
  | .str => .ok (writeStr regs value, host)
  | .ndr => .ok ({ regs with ndr := value &&& spwndrMask }, host)
  | .clk =>
      .ok ({ regs with
        clk := value &&& (spwclkDivisorLink ||| spwclkDivisorRun) }, host)
  | .key => .ok ({ regs with key := value &&& spwkeyKey }, host)
  | .tim =>
      .ok ({ regs with
        tim := value &&& (spwtimTimeCtrl ||| spwtimTimeCounter) }, host)
  | .tdr =>
      .ok ({ regs with
        tdr := value &&& (spwtdrDisconnect ||| spwtdrTimer64) }, host)
  | .chn => .ok (writeChn regs value, host)
  | .rxl => .ok ({ regs with rxl := value &&& spwrxlRxMaxLength }, host)
  | .txd =>
      .ok ({ regs with
        txd := value &&& (spwtxdTxBaseAddress ||| spwtxdTxDescSelect) }, host)
  | .rxd =>
      .ok ({ regs with
        rxd := value &&& (spwrxdRxBaseAddress ||| spwrxdRxDescSelect) }, host)
  | .other _ => .ok (regs, host)

/-- Read the selected register. -/
def readRegisters (regs : Regs) (regOffset : RegOffset) : Uint32 :=
  match regOffset with
  | .ctr => regs.ctr
  | .str => regs.str
  | .ndr => regs.ndr
  | .clk => regs.clk
  | .key => regs.key
  | .tim => regs.tim
  | .tdr => regs.tdr
  | .chn => regs.chn
  | .rxl => regs.rxl
  | .txd => regs.txd
  | .rxd => regs.rxd
  | .other _ => 0

/-! ## What a write does -/

/-- A tick moves SPWTIM, clears Tick In and sends the time. -/
theorem tickIn_eq
    (grspwId : GrspwId)
    (regs : Regs)
    (host : Host) :
    tickIn grspwId regs host =
      .ok ({ regs with
          tim := deposit regs.tim spwtimTimeCounter (regs.tim + 1)
          ctr := clearbit regs.ctr spwctrTI },
        host.sent grspwId msgqTime []
          [(deposit regs.tim spwtimTimeCounter (regs.tim + 1)).setWidth 8]) := by
  simp only [tickIn, sendSpwtimecode_eq]

/-- SPWCTR before the actions a written value asks for. -/
def ctrStored (regs : Regs) (value : Uint32) : Uint32 :=
  deposit regs.ctr (spwctrClearsetMask ||| spwctrNotresetMask) value |||
    setbit regs.ctr (value &&& spwctrSelfclearMask)

/-- The registers after the reset a written value may ask for. -/
def ctrReset (grspwId : GrspwId) (regs : Regs) (value : Uint32) : Regs :=
  if checkbit value spwctrRS then
    resetRegisters grspwId { regs with ctr := ctrStored regs value }
  else { regs with ctr := ctrStored regs value }

/-- The registers after the tick a written value may ask for. -/
def ctrTicked (grspwId : GrspwId) (regs : Regs) (value : Uint32) : Regs :=
  let regs := ctrReset grspwId regs value
  if checkbit value spwctrTI then
    { regs with
      tim := deposit regs.tim spwtimTimeCounter (regs.tim + 1)
      ctr := clearbit regs.ctr spwctrTI }
  else regs

/-- The registers after a write of SPWCTR. -/
def ctrWritten (grspwId : GrspwId) (regs : Regs) (value : Uint32) : Regs :=
  linkDisable value (linkStart value (ctrTicked grspwId regs value))

/-- The shared state after a write of SPWCTR. -/
def ctrHost
    (grspwId : GrspwId)
    (regs : Regs)
    (host : Host)
    (value : Uint32) : Host :=
  if checkbit value spwctrTI then
    host.sent grspwId msgqTime []
      [(ctrTicked grspwId regs value).tim.setWidth 8]
  else host

/-- A write of SPWCTR always goes through. -/
theorem writeCtr_eq
    (grspwId : GrspwId)
    (regs : Regs)
    (host : Host)
    (value : Uint32) :
    writeCtr grspwId regs host value =
      .ok (ctrWritten grspwId regs value, ctrHost grspwId regs host value) := by
  unfold writeCtr
  cases ticks : checkbit value spwctrTI with
  | true => simp [tickIn_eq, ctrWritten, ctrTicked, ctrReset, ctrStored, ctrHost, ticks]
  | false => simp [ctrWritten, ctrTicked, ctrReset, ctrStored, ctrHost, ticks]

/-- The registers after a write. -/
def regsWritten
    (grspwId : GrspwId)
    (regs : Regs)
    (regOffset : RegOffset)
    (value : Uint32) : Regs :=
  match regOffset with
  | .ctr => ctrWritten grspwId regs value
  | .str => writeStr regs value
  | .ndr => { regs with ndr := value &&& spwndrMask }
  | .clk =>
      { regs with clk := value &&& (spwclkDivisorLink ||| spwclkDivisorRun) }
  | .key => { regs with key := value &&& spwkeyKey }
  | .tim =>
      { regs with tim := value &&& (spwtimTimeCtrl ||| spwtimTimeCounter) }
  | .tdr =>
      { regs with tdr := value &&& (spwtdrDisconnect ||| spwtdrTimer64) }
  | .chn => writeChn regs value
  | .rxl => { regs with rxl := value &&& spwrxlRxMaxLength }
  | .txd =>
      { regs with txd := value &&& (spwtxdTxBaseAddress ||| spwtxdTxDescSelect) }
  | .rxd =>
      { regs with rxd := value &&& (spwrxdRxBaseAddress ||| spwrxdRxDescSelect) }
  | .other _ => regs

section TableRegisters

variable (grspwId : GrspwId) (regs : Regs) (value : Uint32)

@[simp] theorem linkStart_txd : (linkStart value regs).txd = regs.txd := by
  unfold linkStart
  split <;> rfl

@[simp] theorem linkStart_rxd : (linkStart value regs).rxd = regs.rxd := by
  unfold linkStart
  split <;> rfl

@[simp] theorem linkDisable_txd : (linkDisable value regs).txd = regs.txd := by
  unfold linkDisable
  split <;> rfl

@[simp] theorem linkDisable_rxd : (linkDisable value regs).rxd = regs.rxd := by
  unfold linkDisable
  split <;> rfl

theorem ctrTicked_txd :
    (ctrTicked grspwId regs value).txd = (ctrReset grspwId regs value).txd := by
  unfold ctrTicked
  cases checkbit value spwctrTI <;> rfl

theorem ctrTicked_rxd :
    (ctrTicked grspwId regs value).rxd = (ctrReset grspwId regs value).rxd := by
  unfold ctrTicked
  cases checkbit value spwctrTI <;> rfl

/-- A write of SPWCTR leaves SPWTXD alone unless it resets. -/
theorem ctrWritten_txd :
    (ctrWritten grspwId regs value).txd =
      if checkbit value spwctrRS then 0 else regs.txd := by
  rw [ctrWritten, linkDisable_txd, linkStart_txd, ctrTicked_txd, ctrReset]
  split <;> rfl

/-- A write of SPWCTR leaves SPWRXD alone unless it resets. -/
theorem ctrWritten_rxd :
    (ctrWritten grspwId regs value).rxd =
      if checkbit value spwctrRS then 0 else regs.rxd := by
  rw [ctrWritten, linkDisable_rxd, linkStart_rxd, ctrTicked_rxd, ctrReset]
  split <;> rfl

/-- What a write makes of SPWTXD. -/
theorem regsWritten_txd (regOffset : RegOffset) :
    (regsWritten grspwId regs regOffset value).txd =
      match regOffset with
      | .ctr => if checkbit value spwctrRS then 0 else regs.txd
      | .txd => value &&& (spwtxdTxBaseAddress ||| spwtxdTxDescSelect)
      | _ => regs.txd := by
  cases regOffset with
  | ctr => exact ctrWritten_txd grspwId regs value
  | _ => rfl

/-- What a write makes of SPWRXD. -/
theorem regsWritten_rxd (regOffset : RegOffset) :
    (regsWritten grspwId regs regOffset value).rxd =
      match regOffset with
      | .ctr => if checkbit value spwctrRS then 0 else regs.rxd
      | .rxd => value &&& (spwrxdRxBaseAddress ||| spwrxdRxDescSelect)
      | _ => regs.rxd := by
  cases regOffset with
  | ctr => exact ctrWritten_rxd grspwId regs value
  | _ => rfl

end TableRegisters

theorem checkbit_clearOnOne_of_disjoint
    {value cleared reg mask : Uint32}
    (disjoint : mask &&& cleared = 0) :
    checkbit (clearOnOne value cleared reg) mask = checkbit reg mask := by
  unfold clearOnOne
  split
  · exact checkbit_clearbit_of_disjoint disjoint
  · rfl

/-- Writing Transmitter Enable without Abort TX enables the transmitter. -/
theorem checkbit_writeChn_TE
    {regs : Regs}
    {value : Uint32}
    (enables : checkbit value spwchnTE = true)
    (noAbort : checkbit value spwchnAT = false) :
    checkbit (writeChn regs value).chn spwchnTE = true := by
  have enableBit : (value &&& spwchnSelfclearMask) &&& spwchnTE = spwchnTE := by
    have selected : spwchnSelfclearMask &&& spwchnTE = spwchnTE := by decide
    rw [BitVec.and_assoc, selected]
    exact (beq_iff_eq.mp enables).symm
  have written : ∀ reg, checkbit
      (setbit reg (value &&& spwchnSelfclearMask)) spwchnTE = true := by
    intro reg
    unfold checkbit setbit
    rw [BitVec.and_or_distrib_right, enableBit]
    apply beq_iff_eq.mpr
    apply BitVec.eq_of_getLsbD_eq
    intro i _
    simp only [BitVec.getLsbD_or, BitVec.getLsbD_and]
    cases reg.getLsbD i <;> cases spwchnTE.getLsbD i <;> rfl
  simp only [writeChn, noAbort, Bool.false_eq_true, if_false]
  rw [checkbit_clearOnOne_of_disjoint (by decide),
    checkbit_clearOnOne_of_disjoint (by decide),
    checkbit_clearOnOne_of_disjoint (by decide),
    checkbit_clearOnOne_of_disjoint (by decide)]
  exact written _

/-- The shared state after a write. -/
def hostWritten
    (grspwId : GrspwId)
    (regs : Regs)
    (host : Host)
    (regOffset : RegOffset)
    (value : Uint32) : Host :=
  match regOffset with
  | .ctr => ctrHost grspwId regs host value
  | _ => host

/-- Every register write goes through. -/
theorem writeRegisters_eq
    (grspwId : GrspwId)
    (regs : Regs)
    (host : Host)
    (regOffset : RegOffset)
    (value : Uint32) :
    writeRegisters grspwId regs host regOffset value =
      .ok (regsWritten grspwId regs regOffset value,
        hostWritten grspwId regs host regOffset value) := by
  cases regOffset with
  | ctr => exact writeCtr_eq grspwId regs host value
  | _ => rfl

end Grspw
