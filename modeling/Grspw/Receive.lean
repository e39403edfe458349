import Grspw.Device

/-!
# The receive step

What the RX thread does with a message of the external device:
`grlib_comgrspw_rxenable` stores a data packet through the descriptor SPWRXD
points to, `grlib_comgrspw_rxtimecode` takes over a time code.
-/

namespace Grspw

/-- The warning for a packet cut at SPWRXL. -/
def msgTruncated : String := "Incoming packet has been truncated"

/-- The warning for a packet that finds its descriptor disabled. -/
def msgDisabled : String :=
  "One packet has been receive although the Rx descriptor was enable " ++
    "(SPWCHN : Bit RD is '1')                 but the current RX descriptor " ++
      "is disable (EN bit of the RX Descriptor Word 0 is set to '0' )"

/-- The warning for a discarded packet. -/
def msgDiscarded : String :=
  "Incoming packet has been discarded (SPWCHN : Bit NS is set to '0')"

/-- Warn that the packet is discarded unless No Spill is set. -/
def discard (device : Device) (host : Host) : Host :=
  if checkbit device.grspwReg.chn spwchnNS = false then
    host.emit (.warning msgDiscarded)
  else host

/-- The bytes kept of a packet: its length, or SPWRXL where that is less. -/
def rxLength (regs : Regs) (len : Uint32) : Uint32 :=
  if regs.rxl &&& spwrxlRxMaxLength < len then regs.rxl &&& spwrxlRxMaxLength
  else len

/-- The most bytes kept of a packet. -/
def Regs.rxMaxLength (regs : Regs) : Nat :=
  (regs.rxl &&& spwrxlRxMaxLength).toNat

/-- The bytes kept of a packet, going by the lengths as numbers. -/
theorem toNat_rxLength (regs : Regs) (len : Uint32) :
    (rxLength regs len).toNat = min len.toNat regs.rxMaxLength := by
  unfold rxLength Regs.rxMaxLength
  split
  · rename_i truncates
    rw [BitVec.lt_def] at truncates
    omega
  · rename_i fits
    rw [BitVec.lt_def] at fits
    omega

/-- The control word written back for a packet. -/
def rxCtrl
    (regs : Regs)
    (ctrl len : Uint32)
    (att : RecvAtt) : Uint32 :=
  let trucated : Uint32 :=
    if regs.rxl &&& spwrxlRxMaxLength < len then 1 else 0
  let ctrl := setbit ctrl (trucated * spwtrw0TR)
  let ctrl := setbit ctrl (att.dc * spwtrw0DC)
  let ctrl := setbit ctrl (att.hc * spwtrw0HC)
  let ctrl := setbit ctrl (att.ep * spwtrw0EP)
  let ctrl := deposit ctrl spwtrw0PacketLength (rxLength regs len)
  clearbit ctrl spwtrw0EN

/-- Store a packet through an enabled descriptor, the entry at an index of the
scratch array. -/
def rxStore
    (device : Device)
    (host : Host)
    (index : Nat)
    (data : Memory Uint8)
    (len : Uint32)
    (att : RecvAtt) : Device × Host :=
  let regs := device.grspwReg
  let rxdAddr := regs.rxd
  let descr := device.rxdMap index
  let host :=
    if regs.rxl &&& spwrxlRxMaxLength < len then
      host.emit (.warning msgTruncated)
    else host
  let str := if att.ep ≠ 0 then setbit regs.str spwstrEE else regs.str
  let host := host.writeLeon3Ram descr.addr data (rxLength regs len) false
  let chn := setbit regs.chn spwchnPR
  let ctrl := rxCtrl regs descr.ctrl len att
  let host := host.writeLeon3Ram rxdAddr (wordImage ctrl) 4 true
  let rxdCur :=
    if checkbit ctrl spwtrw0WR then 0
    else (device.rxdCur + 1) % nbRxDescriptor
  let rxd := deposit regs.rxd spwrxdRxDescSelect (rxdCur <<< 3)
  let host :=
    -- the transmit interrupt mask decides, as in the source
    if checkbit ctrl spwtrw0IE && checkbit chn spwchnTI then
      host.emit (.irqPulse device.grspwId)
    else host
  ({ device with
      grspwReg := { regs with str := str, chn := chn, rxd := rxd }
      rxdMap := Function.update device.rxdMap index { descr with ctrl := ctrl }
      rxdCur := rxdCur }, host)

/-- Fetch the descriptor and store the packet if it is enabled. -/
def rxDescr
    (layout : Layout)
    (device : Device)
    (host : Host)
    (data : Memory Uint8)
    (len : Uint32)
    (att : RecvAtt) : Except Fault (Device × Host) :=
  let index := device.rxdCur.toNat
  if layout.Admits device.rxdCur nbRxDescriptor then
    let image :=
      readLeon3Ram host.ram device.grspwReg.rxd (fun _ => 0) 8 true
    let descr : RxDesc := ⟨loadWord image 0, loadWord image 4⟩
    let device :=
      { device with rxdMap := Function.update device.rxdMap index descr }
    if checkbit descr.ctrl spwtrw0EN then
      .ok (rxStore device host index data len att)
    else
      let regs := device.grspwReg
      let device :=
        { device with
          grspwReg := { regs with chn := clearbit regs.chn spwchnRD } }
      .ok (device, discard device (host.emit (.warning msgDisabled)))
  else .error .outOfBounds

/-- Whether a packet passes the receiver-enable and address checks. -/
def rxAccepts (regs : Regs) (data : Memory Uint8) : Bool :=
  checkbit regs.chn spwchnRE &&
    (checkbit regs.ctr spwctrOPM || regs.ndr == (data 0).setWidth 32)

/-- Handle an incoming data packet. -/
def rxenable
    (layout : Layout)
    (core : Core)
    (data : Memory Uint8)
    (len : Uint32)
    (att : RecvAtt) : Except Fault Core :=
  let device := core.device
  let host := core.host
  if rxAccepts device.grspwReg data then
    let stored :=
      if checkbit device.grspwReg.chn spwchnRD then
        rxDescr layout device host data len att
      else .ok (device, host)
    match stored with
    | .error fault => .error fault
    -- the discard block follows the descriptor block unconditionally
    | .ok (device, host) => .ok ⟨device, discard device host⟩
  else .ok core

/-- Handle an incoming time code. -/
def rxtimecode (core : Core) (timecode : Uint8) : Core :=
  let device := core.device
  let regs := device.grspwReg
  if regs.tim < timecode.setWidth 32 then
    let regs :=
      { regs with
        tim := timecode.setWidth 32
        str := setbit regs.str spwstrTO }
    let host :=
      if checkbit regs.ctr spwctrTQ then
        core.host.emit (.irqPulse device.grspwId)
      else core.host
    ⟨{ device with grspwReg := regs }, host⟩
  else core

/-! ## What a call does -/

/-- The flags and the length written back leave a bit apart from them alone. -/
theorem checkbit_rxCtrl
    {regs : Regs}
    {ctrl len mask : Uint32}
    {att : RecvAtt}
    {low : Nat}
    (bit : mask = 1#32 <<< low)
    (belowFlags : low < 28)
    (aboveLength : mask &&& spwtrw0PacketLength = 0)
    (notEnable : mask &&& spwtrw0EN = 0) :
    checkbit (rxCtrl regs ctrl len att) mask = checkbit ctrl mask := by
  have flag : ∀ value high, 28 ≤ high →
      mask &&& (value * (1#32 <<< high)) = 0 := by
    intro value high above
    rw [bit]
    exact bit_and_mul_bit_eq_zero value (by omega)
  unfold rxCtrl
  rw [checkbit_clearbit_of_disjoint notEnable,
    checkbit_deposit_of_disjoint aboveLength,
    spwtrw0EP, checkbit_setbit_of_disjoint (flag _ 28 (by decide)),
    spwtrw0HC, checkbit_setbit_of_disjoint (flag _ 29 (by decide)),
    spwtrw0DC, checkbit_setbit_of_disjoint (flag _ 30 (by decide)),
    spwtrw0TR, checkbit_setbit_of_disjoint (flag _ 31 (by decide))]

/-- Only No Spill decides whether a packet is discarded. -/
theorem discard_congr
    {device device' : Device}
    (same : checkbit device.grspwReg.chn spwchnNS =
      checkbit device'.grspwReg.chn spwchnNS)
    (host : Host) :
    discard device host = discard device' host := by
  unfold discard
  rw [same]

@[simp] theorem checkbit_rxCtrl_WR
    (regs : Regs) (ctrl len : Uint32) (att : RecvAtt) :
    checkbit (rxCtrl regs ctrl len att) spwtrw0WR = checkbit ctrl spwtrw0WR :=
  checkbit_rxCtrl rfl (by decide) (by decide) (by decide)

@[simp] theorem checkbit_rxCtrl_IE
    (regs : Regs) (ctrl len : Uint32) (att : RecvAtt) :
    checkbit (rxCtrl regs ctrl len att) spwtrw0IE = checkbit ctrl spwtrw0IE :=
  checkbit_rxCtrl rfl (by decide) (by decide) (by decide)

namespace Core

/-- The descriptor SPWRXD points to. -/
def rxDesc (core : Core) : RxDesc :=
  rxDescAt core.host.ram core.regs.rxd.toNat

/-- The device once the descriptor is copied. -/
def rxFetched (core : Core) : Device :=
  { core.device with
    rxdMap :=
      Function.update core.device.rxdMap core.device.rxdCur.toNat core.rxDesc }

/-- The state after a packet that was stored. -/
def rxStored
    (core : Core)
    (data : Memory Uint8)
    (len : Uint32)
    (att : RecvAtt) : Core :=
  let stored :=
    rxStore core.rxFetched core.host core.device.rxdCur.toNat data len att
  ⟨stored.1, discard stored.1 stored.2⟩

/-- The registers after a packet that found its descriptor disabled. -/
def rxRefusedRegs (core : Core) : Regs :=
  { core.regs with chn := clearbit core.regs.chn spwchnRD }

/-- The state after a packet that found its descriptor disabled. -/
def rxRefused (core : Core) : Core :=
  let device := { core.rxFetched with grspwReg := core.rxRefusedRegs }
  ⟨device,
    discard device (discard device (core.host.emit (.warning msgDisabled)))⟩

/-- The state after a packet for which no descriptor is looked at. -/
def rxDropped (core : Core) : Core :=
  ⟨core.device, discard core.device core.host⟩

/-- The ring position after the next packet stored. -/
def rxNext (core : Core) : Uint32 :=
  if checkbit core.rxDesc.ctrl spwtrw0WR then 0
  else (core.device.rxdCur + 1) % nbRxDescriptor

/-- The registers after the next packet stored. -/
def rxRegs (core : Core) (att : RecvAtt) : Regs :=
  { core.regs with
    str := if att.ep ≠ 0 then setbit core.regs.str spwstrEE else core.regs.str
    chn := setbit core.regs.chn spwchnPR
    rxd := deposit core.regs.rxd spwrxdRxDescSelect (core.rxNext <<< 3) }

/-- Whether storing the packet raises the interrupt: the descriptor asks for it
and the mask bit consulted is the transmitter's. -/
def rxInterrupts (core : Core) : Bool :=
  checkbit core.rxDesc.ctrl spwtrw0IE && checkbit core.regs.chn spwchnTI

/-- The shared state after a packet, its discard warning apart. -/
def rxHost
    (core : Core)
    (data : Memory Uint8)
    (len : Uint32)
    (att : RecvAtt) : Host :=
  let host :=
    if core.regs.rxl &&& spwrxlRxMaxLength < len then
      core.host.emit (.warning msgTruncated)
    else core.host
  let host :=
    host.writeRam core.rxDesc.addr (data.read 0 (rxLength core.regs len).toNat)
  let host :=
    host.writeRam core.regs.rxd
      (ramBytes (rxCtrl core.regs core.rxDesc.ctrl len att))
  if core.rxInterrupts then host.emit (.irqPulse core.device.grspwId) else host

variable
  (core : Core)
  (data : Memory Uint8)
  (len : Uint32)
  (att : RecvAtt)

@[simp] theorem rxStored_grspwId :
    (core.rxStored data len att).device.grspwId = core.device.grspwId := rfl

@[simp] theorem rxStored_txdCur :
    (core.rxStored data len att).device.txdCur = core.device.txdCur := rfl

@[simp] theorem rxStored_rxdCur :
    (core.rxStored data len att).device.rxdCur = core.rxNext := by
  simp [rxStored, rxStore, rxFetched, rxNext]

@[simp] theorem rxStored_regs :
    (core.rxStored data len att).regs = core.rxRegs att := by
  simp [rxStored, rxStore, rxFetched, rxRegs, rxNext, Core.regs]

theorem rxStored_host :
    (core.rxStored data len att).host =
      discard core.device (core.rxHost data len att) := by
  have interruptMask :
      checkbit (setbit core.regs.chn spwchnPR) spwchnTI =
        checkbit core.regs.chn spwchnTI :=
    checkbit_setbit_of_disjoint (by decide)
  have noSpill :
      checkbit (core.rxStored data len att).regs.chn spwchnNS =
        checkbit core.regs.chn spwchnNS := by
    rw [rxStored_regs]
    exact checkbit_setbit_of_disjoint (by decide)
  rw [← discard_congr noSpill]
  simp only [rxStored, rxStore, rxFetched, rxHost, rxInterrupts,
    Function.update_self, Host.writeLeon3Ram_word, Host.writeLeon3Ram_copy,
    checkbit_rxCtrl_IE, interruptMask]
  rfl

@[simp] theorem rxRefused_regs : core.rxRefused.regs = core.rxRefusedRegs := rfl

theorem rxRefused_host :
    core.rxRefused.host =
      discard core.device
        (discard core.device (core.host.emit (.warning msgDisabled))) := by
  have noSpill :
      checkbit core.rxRefused.regs.chn spwchnNS =
        checkbit core.regs.chn spwchnNS := by
    rw [rxRefused_regs]
    exact checkbit_clearbit_of_disjoint (by decide)
  rw [← discard_congr noSpill, ← discard_congr noSpill]
  rfl

@[simp] theorem rxRefused_grspwId :
    core.rxRefused.device.grspwId = core.device.grspwId := rfl

/-- The state after a time code newer than SPWTIM. -/
def tickedOut (core : Core) (timecode : Uint8) : Core where
  device :=
    { core.device with
      grspwReg :=
        { core.regs with
          tim := timecode.setWidth 32
          str := setbit core.regs.str spwstrTO } }
  host :=
    if checkbit core.regs.ctr spwctrTQ then
      core.host.emit (.irqPulse core.device.grspwId)
    else core.host

end Core

section Cases

variable
  {layout : Layout}
  {core : Core}
  {data : Memory Uint8}
  {len : Uint32}
  {att : RecvAtt}

/-- A packet that passes the checks and finds descriptors available. -/
structure RxFetches (layout : Layout) (core : Core) (data : Memory Uint8) :
    Prop where
  accepts : rxAccepts core.regs data = true
  available : checkbit core.regs.chn spwchnRD = true
  admits : layout.Admits core.device.rxdCur nbRxDescriptor

theorem rxenable_refused
    (accepts : rxAccepts core.regs data = false) :
    rxenable layout core data len att = .ok core := by
  simp [rxenable, accepts]

theorem rxenable_unavailable
    (accepts : rxAccepts core.regs data = true)
    (unavailable : checkbit core.regs.chn spwchnRD = false) :
    rxenable layout core data len att = .ok core.rxDropped := by
  simp [rxenable, accepts, unavailable, Core.rxDropped]

theorem rxenable_outOfBounds
    (accepts : rxAccepts core.regs data = true)
    (available : checkbit core.regs.chn spwchnRD = true)
    (outside : ¬layout.Admits core.device.rxdCur nbRxDescriptor) :
    rxenable layout core data len att = .error .outOfBounds := by
  simp [rxenable, rxDescr, accepts, available, outside]

theorem rxenable_disabled
    (fetches : RxFetches layout core data)
    (unarmed : checkbit core.rxDesc.ctrl spwtrw0EN = false) :
    rxenable layout core data len att = .ok core.rxRefused := by
  obtain ⟨ctrl, addr⟩ := loadWord_readLeon3Ram_two core.host.ram
    (fun _ => 0) core.regs.rxd
  have unarmed' : checkbit (ramWord core.host.ram core.regs.rxd.toNat)
      spwtrw0EN = false := unarmed
  simp only [rxenable, rxDescr, fetches.accepts, fetches.available,
    fetches.admits, if_true, ctrl, addr, unarmed', Bool.false_eq_true, if_false]
  rfl

theorem rxenable_stored
    (fetches : RxFetches layout core data)
    (armed : checkbit core.rxDesc.ctrl spwtrw0EN = true) :
    rxenable layout core data len att = .ok (core.rxStored data len att) := by
  obtain ⟨ctrl, addr⟩ := loadWord_readLeon3Ram_two core.host.ram
    (fun _ => 0) core.regs.rxd
  have armed' : checkbit (ramWord core.host.ram core.regs.rxd.toNat)
      spwtrw0EN = true := armed
  simp only [rxenable, rxDescr, fetches.accepts, fetches.available,
    fetches.admits, if_true, ctrl, addr, armed']
  rfl

theorem rxtimecode_newer
    {timecode : Uint8}
    (newer : core.regs.tim < timecode.setWidth 32) :
    rxtimecode core timecode = core.tickedOut timecode := by
  unfold rxtimecode
  exact if_pos newer

theorem rxtimecode_stale
    {timecode : Uint8}
    (stale : ¬core.regs.tim < timecode.setWidth 32) :
    rxtimecode core timecode = core := by
  unfold rxtimecode
  exact if_neg stale

/-- Where the ring position is in range, no packet faults. -/
theorem exists_rxenable
    (admits : layout.Admits core.device.rxdCur nbRxDescriptor)
    (data : Memory Uint8)
    (len : Uint32)
    (att : RecvAtt) :
    ∃ after, rxenable layout core data len att = .ok after := by
  cases accepts : rxAccepts core.regs data with
  | false => exact ⟨_, rxenable_refused accepts⟩
  | true =>
      cases available : checkbit core.regs.chn spwchnRD with
      | false => exact ⟨_, rxenable_unavailable accepts available⟩
      | true =>
          have fetches : RxFetches layout core data :=
            ⟨accepts, available, admits⟩
          cases armed : checkbit core.rxDesc.ctrl spwtrw0EN with
          | false => exact ⟨_, rxenable_disabled fetches armed⟩
          | true => exact ⟨_, rxenable_stored fetches armed⟩


/-- All a receive call that returns can have done. -/
theorem rxenable_cases
    {after : Core}
    (returns : rxenable layout core data len att = .ok after) :
    (rxAccepts core.regs data = false ∧ after = core) ∨
    (rxAccepts core.regs data = true ∧
      checkbit core.regs.chn spwchnRD = false ∧ after = core.rxDropped) ∨
    (RxFetches layout core data ∧
      checkbit core.rxDesc.ctrl spwtrw0EN = false ∧ after = core.rxRefused) ∨
    (RxFetches layout core data ∧
      checkbit core.rxDesc.ctrl spwtrw0EN = true ∧
      after = core.rxStored data len att) := by
  cases accepts : rxAccepts core.regs data with
  | false =>
      rw [rxenable_refused accepts] at returns
      cases returns
      exact Or.inl ⟨rfl, rfl⟩
  | true =>
      right
      cases available : checkbit core.regs.chn spwchnRD with
      | false =>
          rw [rxenable_unavailable accepts available] at returns
          cases returns
          exact Or.inl ⟨rfl, rfl, rfl⟩
      | true =>
          right
          by_cases admits : layout.Admits core.device.rxdCur nbRxDescriptor
          · have fetches : RxFetches layout core data :=
              ⟨accepts, available, admits⟩
            cases armed : checkbit core.rxDesc.ctrl spwtrw0EN with
            | false =>
                rw [rxenable_disabled fetches armed] at returns
                cases returns
                exact Or.inl ⟨fetches, rfl, rfl⟩
            | true =>
                rw [rxenable_stored fetches armed] at returns
                cases returns
                exact Or.inr ⟨fetches, rfl, rfl⟩
          · rw [rxenable_outOfBounds accepts available admits] at returns
            cases returns

@[simp] theorem discard_spwq (device : Device) (host : Host) :
    (discard device host).spwq = host.spwq := by
  unfold discard
  split <;> rfl

@[simp] theorem rxHost_spwq (core : Core) :
    (core.rxHost data len att).spwq = core.host.spwq := by
  unfold Core.rxHost
  by_cases truncates : core.regs.rxl &&& spwrxlRxMaxLength < len
  · cases core.rxInterrupts <;> simp [truncates]
  · cases core.rxInterrupts <;> simp [truncates]

/-- A receive call puts nothing on `spwq` and keeps the core's id. -/
theorem rxenable_frame
    {after : Core}
    (returns : rxenable layout core data len att = .ok after) :
    after.host.spwq = core.host.spwq ∧
      after.device.grspwId = core.device.grspwId := by
  obtain ⟨_, rfl⟩ | ⟨_, _, rfl⟩ | ⟨_, _, rfl⟩ | ⟨_, _, rfl⟩ :=
    rxenable_cases returns
  · exact ⟨rfl, rfl⟩
  · exact ⟨discard_spwq _ _, rfl⟩
  · refine ⟨?_, rfl⟩
    rw [Core.rxRefused_host]
    simp
  · refine ⟨?_, rfl⟩
    rw [Core.rxStored_host]
    simp

/-- Taking over a time code puts nothing on `spwq` and keeps the core's id. -/
theorem rxtimecode_frame (core : Core) (timecode : Uint8) :
    (rxtimecode core timecode).host.spwq = core.host.spwq ∧
      (rxtimecode core timecode).device.grspwId = core.device.grspwId := by
  by_cases newer : core.regs.tim < timecode.setWidth 32
  · rw [rxtimecode_newer newer]
    refine ⟨?_, rfl⟩
    unfold Core.tickedOut
    cases checkbit core.regs.ctr spwctrTQ <;> rfl
  · rw [rxtimecode_stale newer]
    exact ⟨rfl, rfl⟩

end Cases

end Grspw
