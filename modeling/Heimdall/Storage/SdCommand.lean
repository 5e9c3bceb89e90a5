import Heimdall.Storage.SdSpi

/-!
# Commands to the card

`SharedSpiCard` and `DedicatedSpiCard` of `lib/SdFat/src/SdCard/SdSpiCard.cpp`,
as the volume uses them: `cardCommand`, the calls on sectors, and `begin`. Every
read, and every write in dedicated mode, is one multiple-sector transfer that the
driver leaves open where it can: the next call goes on in it if the driver is in
that transfer (`m_state`) and at the sector asked for (`m_curSector`), and
otherwise stops it and starts another.

`CardView` is the other side of the bus: what the events of the log have asked of
the card, which transfer it has open, and which blocks have moved at which
address. It is stated without the driver's own state, and the results of
`Storage.SdSession` compare the two.

A call that moves no block is `Quiet`. Each operation here has one lemma that says
so, and what state it leaves the card and the driver in (`transact_spec`,
`readStop_spec`, `writeStop_spec`, `syncDevice_spec`, `cardCommand_spec`).
-/

namespace Heimdall

/-- Commands of `SdCardInfo.h`. -/
def cmd0 : UInt8 := 0x00
def cmd8 : UInt8 := 0x08
def cmd12 : UInt8 := 0x0C
def cmd18 : UInt8 := 0x12
def cmd24 : UInt8 := 0x18
def cmd25 : UInt8 := 0x19
def acmd41 : UInt8 := 0x29
def cmd55 : UInt8 := 0x37
def cmd58 : UInt8 := 0x3A
def cmd59 : UInt8 := 0x3B

/-- `STOP_TRAN_TOKEN` -/
def stopTranToken : UInt8 := 0xFD

/-- The message `cardCommand` forms. -/
def commandFrame (cmd : UInt8) (arg : UInt32) : List UInt8 :=
  let buf := [0x40 ||| cmd, (arg >>> 24).toUInt8, (arg >>> 16).toUInt8, (arg >>> 8).toUInt8,
    arg.toUInt8]
  buf ++ [UInt8.ofBitVec (crc7 buf)]

namespace SdSpiCard

/-- `cardCommand` from the sending of the message on. -/
def issue (cmd : UInt8) (arg : UInt32) (c : SdSpiCard) : UInt8 × SdSpiCard :=
  let bus := c.bus.send (commandFrame cmd arg)
  -- the first fill byte is discarded, and at most ten bytes are read after it
  let (_, bus) := bus.receiveByte
  let (_, x, bus) := bus.pollWhile (· &&& 0x80 != 0) 9
  (x, { c with bus, status := x })

/-- `cardCommand` once no transfer is open. -/
def transact (cmd : UInt8) (arg : UInt32) (c : SdSpiCard) : UInt8 × SdSpiCard :=
  let c := c.spiStart
  let (ready, c) := if cmd != cmd0 && cmd != cmd12 then c.waitReady else (true, c)
  if !ready then (0xFF, c) else c.issue cmd arg

/-- `readStop`. It is idle when it sends its command, which has nothing to stop. -/
def readStop (c : SdSpiCard) : Bool × SdSpiCard :=
  let c := { c with state := .idle }
  let (r, c) := c.transact cmd12 0
  if r != 0 then (false, c.fail .cmd12) else (true, c.spiStop)

/-- `writeStop` -/
def writeStop (c : SdSpiCard) : Bool × SdSpiCard :=
  let (ready, c) := c.waitReady
  if !ready then (false, c.fail .stopTran)
  else
    let c := { c with bus := c.bus.send [stopTranToken] }
    (true, { c.spiStop with state := .idle })

/-- `syncDevice` -/
def syncDevice (c : SdSpiCard) : Bool × SdSpiCard :=
  match c.state with
  | .write => c.writeStop
  | .read => c.readStop
  | .idle => (true, c)

/-- `cardCommand` -/
def cardCommand (cmd : UInt8) (arg : UInt32) (c : SdSpiCard) : UInt8 × SdSpiCard :=
  let (ok, c) := c.syncDevice
  if !ok then (0xFF, c) else c.transact cmd arg

/-- A card that is not SDHC is addressed by the byte. -/
def address (c : SdSpiCard) (sector : UInt32) : UInt32 :=
  if c.type != .sdhc then sector <<< 9 else sector

/-- `readStart` and `writeStart`. -/
def startTransfer (cmd : UInt8) (code : SdCardError) (state : SdState) (sector : UInt32)
    (c : SdSpiCard) : Bool × SdSpiCard :=
  let (r, c) := c.cardCommand cmd (c.address sector)
  if r != 0 then (false, c.fail code) else (true, { c with state })

/-- `readStart` -/
def readStart : UInt32 → SdSpiCard → Bool × SdSpiCard := startTransfer cmd18 .cmd18 .read

/-- `writeStart` -/
def writeStart : UInt32 → SdSpiCard → Bool × SdSpiCard := startTransfer cmd25 .cmd25 .write

/-- The loop of `readSectors`, over what `dst` points to. -/
def readLoop : List Sector → SdSpiCard → Bool × List Sector × SdSpiCard
  | [], c => (true, [], c)
  | d :: ds, c =>
    let (ok, d, c) := c.readData d
    if !ok then (false, d :: ds, c)
    else
      let (ok, ds, c) := readLoop ds c
      (ok, d :: ds, c)

/-- The loop of `writeSectors`. -/
def writeLoop : List Sector → SdSpiCard → Bool × SdSpiCard
  | [], c => (true, c)
  | src :: srcs, c =>
    let (ok, c) := c.writeData src
    if !ok then (false, c) else writeLoop srcs c

/-- Going on in the transfer that is open, or starting one at the sector. -/
def resume (start : UInt32 → SdSpiCard → Bool × SdSpiCard) (state : SdState) (sector : UInt32)
    (c : SdSpiCard) : Bool × SdSpiCard :=
  if c.state != state || sector != c.curSector then
    let (ok, c) := start sector c
    if !ok then (false, c) else (true, { c with curSector := sector })
  else (true, c)

/-- `DedicatedSpiCard::readSectors` of as many sectors as `dst` holds. -/
def readSectors (sector : UInt32) (dst : List Sector) (c : SdSpiCard) :
    Bool × List Sector × SdSpiCard :=
  let (ok, c) := c.resume readStart .read sector
  if !ok then (false, dst, c)
  else
    let (ok, dst', c) := readLoop dst c
    if !ok then (false, dst', c)
    else
      let c := { c with curSector := c.curSector + dst.length.toUInt32 }
      if c.dedicatedSpi then (true, dst', c)
      else
        let (ok, c) := c.readStop
        (ok, dst', c)

/-- `DedicatedSpiCard::writeSectors` -/
def writeSectors (sector : UInt32) (src : List Sector) (c : SdSpiCard) : Bool × SdSpiCard :=
  let (ok, c) := c.resume writeStart .write sector
  if !ok then (false, c)
  else
    let (ok, c) := writeLoop src c
    if !ok then (false, c)
    else
      let c := { c with curSector := c.curSector + src.length.toUInt32 }
      if c.dedicatedSpi then (true, c) else c.writeStop

/-- `DedicatedSpiCard::readSector` -/
def readSector (sector : UInt32) (dst : Sector) (c : SdSpiCard) : Bool × List Sector × SdSpiCard :=
  c.readSectors sector [dst]

/-- `SharedSpiCard::writeSector`, not waiting for the flash to be programmed. -/
def writeSingle (sector : UInt32) (src : Sector) (c : SdSpiCard) : Bool × SdSpiCard :=
  let (r, c) := c.cardCommand cmd24 (c.address sector)
  if r != 0 then (false, c.fail .cmd24)
  else
    let (ok, c) := c.writeToken dataStartSector src
    (ok, c.spiStop)

/-- `DedicatedSpiCard::writeSector` -/
def writeSector (sector : UInt32) (src : Sector) (c : SdSpiCard) : Bool × SdSpiCard :=
  if c.dedicatedSpi then c.writeSectors sector [src] else c.writeSingle sector src

/-- `DedicatedSpiCard::setDedicatedSpi` -/
def setDedicatedSpi (value : Bool) (c : SdSpiCard) : Bool × SdSpiCard :=
  let (ok, c) := c.syncDevice
  if !ok then (false, c) else (true, { c with dedicatedSpi := value })

/-- `isBusy` -/
def isBusy (c : SdSpiCard) : Bool × SdSpiCard :=
  if c.state == .read then (false, c)
  else
    let active := c.spiActive
    let c := c.spiStart
    let (x, bus) := c.bus.receiveByte
    let c := { c with bus }
    (x != 0xFF, if active then c else c.spiStop)

/-- `readRegister` -/
def readRegister (cmd : UInt8) (dst : Vector UInt8 16) (c : SdSpiCard) :
    Bool × Vector UInt8 16 × SdSpiCard :=
  let (r, c) := c.cardCommand cmd 0
  if r != 0 then (false, dst, c.fail .readReg)
  else
    let (ok, dst, c) := c.readData dst
    (ok, dst, c.spiStop)

/-! ## Starting a card -/

/-- `initSharedSpiCard` -/
def initSharedSpiCard (c : SdSpiCard) : SdSpiCard :=
  { c with
    errorCode := .initNotCalled, spiActive := false, state := .idle, status := 0, type := .unknown }

/-- The loop that sends the card to idle, with the time left. -/
def resetLoop : ℕ → SdSpiCard → Bool × ℕ × SdSpiCard
  | polls, c =>
    let (r, c) := c.cardCommand cmd0 0
    if r == 0x01 then (true, polls, c)
    else
      match polls with
      | 0 => (false, 0, c)
      | polls + 1 => resetLoop polls c

/-- The loop that finds the card's version. -/
def versionLoop : ℕ → SdSpiCard → Bool × ℕ × SdSpiCard
  | polls, c =>
    let (r, c) := c.cardCommand cmd8 0x1AA
    if r &&& 0x04 != 0 then (true, polls, { c with type := .sd1 })
    else
      let bus := c.bus.discard 3
      let (x, bus) := bus.receiveByte
      let c := { c with bus, status := x }
      if x == 0xAA then (true, polls, { c with type := .sd2 })
      else
        match polls with
        | 0 => (false, 0, c)
        | polls + 1 => versionLoop polls c

/-- `cardAcmd` -/
def cardAcmd (cmd : UInt8) (arg : UInt32) (c : SdSpiCard) : UInt8 × SdSpiCard :=
  let (_, c) := c.cardCommand cmd55 0
  c.cardCommand cmd arg

/-- The loop that initialises the card. -/
def readyLoop (arg : UInt32) : ℕ → SdSpiCard → Bool × SdSpiCard
  | polls, c =>
    let (r, c) := c.cardAcmd acmd41 arg
    if r == 0x00 then (true, c)
    else
      match polls with
      | 0 => (false, c)
      | polls + 1 => readyLoop arg polls c

/-- The end of `SharedSpiCard::begin`: an SD2 card is asked whether it is SDHC. -/
def capacity (c : SdSpiCard) : Bool × SdSpiCard :=
  if c.type == .sd2 then
    let (r, c) := c.cardCommand cmd58 0
    if r != 0 then (false, c.fail .cmd58)
    else
      let (x, bus) := c.bus.receiveByte
      let c := { c with bus := bus.discard 3, type := if x &&& 0xC0 == 0xC0 then .sdhc else c.type }
      (true, c.spiStop)
  else (true, c.spiStop)

/-- The bus before the first command: at least 74 clocks with the card not
selected. -/
def powerUp (c : SdSpiCard) : SdSpiCard :=
  let c := { c.initSharedSpiCard with errorCode := .none, bus := c.bus.select false }
  let c := c.spiStart
  { c with bus := ((c.bus.select false).discard 10).select true }

/-- The commands of `SharedSpiCard::begin`, under one `Timeout`. -/
def negotiate (polls : ℕ) (c : SdSpiCard) : Bool × SdSpiCard :=
  let (ok, polls, c) := resetLoop polls c
  if !ok then (false, c.fail .cmd0)
  else
    let (r, c) := c.cardCommand cmd59 1
    if r != 0x01 then (false, c.fail .cmd59)
    else
      let (ok, polls, c) := versionLoop polls c
      if !ok then (false, c.fail .cmd8)
      else
        let (ok, c) := readyLoop (if c.type == .sd2 then 0x40000000 else 0) polls c
        if !ok then (false, c.fail .acmd41) else c.capacity

/-- `SharedSpiCard::begin` -/
def sharedBegin (c : SdSpiCard) : Bool × SdSpiCard :=
  let c := c.powerUp
  let (polls, bus) := c.bus.timeout
  negotiate polls { c with bus }

/-- `DedicatedSpiCard::begin` -/
def begin (dedicated : Bool) (c : SdSpiCard) : Bool × SdSpiCard :=
  let (ok, c) := c.sharedBegin
  if !ok then (false, c) else (true, { c with dedicatedSpi := dedicated })

end SdSpiCard

/-! ## The card's side -/

/-- Which way blocks go. -/
inductive Direction where
  | read
  | write
  deriving DecidableEq, Repr

/-- The state the driver is in during a transfer. -/
def Direction.state : Direction → SdState
  | .read => .read
  | .write => .write

/-- A block that has gone between the driver and the card. -/
structure Transfer where
  direction : Direction
  address : UInt32
  data : List UInt8
  deriving DecidableEq, Repr

/-- What the card is in the middle of. -/
inductive CardHead where
  | released
  | selected
  /-- a transfer, with the address it has got to -/
  | transfer (dir : Direction) (address : UInt32)
  deriving DecidableEq, Repr

/-- What the bus has asked of the card, and the blocks moved so far. Selecting or
releasing the card leaves no transfer open that the driver could rely on. -/
structure CardView where
  head : CardHead
  transfers : List Transfer
  deriving DecidableEq, Repr

/-- The transfer a command opens. -/
def commandHead : List UInt8 → CardHead
  | cmd :: a :: b :: c :: d :: _ =>
    let arg := UInt32.ofNat (((a.toNat * 256 + b.toNat) * 256 + c.toNat) * 256 + d.toNat)
    if cmd = 0x40 ||| cmd18 then .transfer .read arg
    else if cmd = 0x40 ||| cmd24 ∨ cmd = 0x40 ||| cmd25 then .transfer .write arg
    else .selected
  | _ => .selected

namespace CardView

/-- A block of an open transfer, which moves it on by `stride`. -/
def block (stride : UInt32) (dir : Direction) (bs : List UInt8) (v : CardView) : CardView :=
  match v.head with
  | .transfer d a =>
    if d = dir ∧ bs.length = 512 then
      { head := .transfer d (a + stride), transfers := v.transfers ++ [⟨d, a, bs⟩] }
    else v
  | _ => v

/-- One event: a send of six bytes to a selected card is a command. -/
def event (stride : UInt32) (v : CardView) : SpiEvent → CardView
  | .select => { v with head := .selected }
  | .unselect => { v with head := .released }
  | .receive bs => v.block stride .read bs
  | .send bs =>
    if bs.length = 6 ∧ v.head ≠ .released then { v with head := commandHead bs }
    else v.block stride .write bs

/-- The whole log. -/
def ofLog (stride : UInt32) (log : List SpiEvent) : CardView :=
  log.foldl (event stride) { head := .released, transfers := [] }

theorem ofLog_append (stride : UInt32) (log es : List SpiEvent) :
    ofLog stride (log ++ es) = es.foldl (event stride) (ofLog stride log) :=
  List.foldl_append

theorem block_of_short {stride : UInt32} {dir : Direction} {bs : List UInt8} (h : bs.length ≠ 512)
    (v : CardView) : v.block stride dir bs = v := by
  unfold block
  split
  · exact if_neg fun hb => h hb.2
  · rfl

theorem block_of_head {stride a : UInt32} {dir : Direction} {bs : List UInt8} {v : CardView}
    (h : v.head = .transfer dir a) (hlen : bs.length = 512) :
    v.block stride dir bs
      = { head := .transfer dir (a + stride), transfers := v.transfers ++ [⟨dir, a, bs⟩] } := by
  simp only [block, h, hlen, and_self, if_true]

theorem block_of_released {stride : UInt32} {dir : Direction} {bs : List UInt8} {v : CardView}
    (h : v.head = .released) : v.block stride dir bs = v := by
  simp only [block, h]

theorem event_short_receive {stride : UInt32} {bs : List UInt8} (h : bs.length ≠ 512)
    (v : CardView) : v.event stride (.receive bs) = v :=
  block_of_short h v

theorem commandHead_ne_released (frame : List UInt8) : commandHead frame ≠ .released := by
  unfold commandHead
  split
  · dsimp only
    split
    · exact CardHead.noConfusion
    · split
      · exact CardHead.noConfusion
      · exact CardHead.noConfusion
  · exact CardHead.noConfusion

theorem block_released_iff {stride : UInt32} {dir : Direction} {bs : List UInt8} {v : CardView} :
    (v.block stride dir bs).head = .released ↔ v.head = .released := by
  cases hv : v.head with
  | released => rw [block_of_released hv, hv]
  | selected =>
    have hblock : v.block stride dir bs = v := by simp only [block, hv]
    rw [hblock, hv]
  | transfer d a =>
    unfold block
    rw [hv]
    dsimp only
    split
    · exact iff_of_false CardHead.noConfusion CardHead.noConfusion
    · rw [hv]

/-- An event selects the card, lets it go, or leaves it as it is. -/
theorem event_released (stride : UInt32) (v : CardView) (e : SpiEvent) :
    (v.event stride e).head = .released
      ↔ match e with
        | .select => False
        | .unselect => True
        | _ => v.head = .released := by
  cases e with
  | select => exact iff_of_false CardHead.noConfusion id
  | unselect => exact iff_of_true rfl trivial
  | receive bs => exact block_released_iff
  | send bs =>
    unfold event
    dsimp only
    split
    · rename_i h
      exact iff_of_false (commandHead_ne_released bs) h.2
    · exact block_released_iff

end CardView

theorem commandFrame_length (cmd : UInt8) (arg : UInt32) : (commandFrame cmd arg).length = 6 := rfl

/-- The argument goes over in four bytes. -/
theorem commandHead_commandFrame (cmd : UInt8) (arg : UInt32) :
    commandHead (commandFrame cmd arg)
      = if 0x40 ||| cmd = 0x40 ||| cmd18 then .transfer .read arg
        else if 0x40 ||| cmd = 0x40 ||| cmd24 ∨ 0x40 ||| cmd = 0x40 ||| cmd25 then
          .transfer .write arg
        else .selected := by
  have harg : UInt32.ofNat ((((arg >>> 24).toUInt8.toNat * 256 + (arg >>> 16).toUInt8.toNat) * 256
      + (arg >>> 8).toUInt8.toNat) * 256 + arg.toUInt8.toNat) = arg := by
    apply UInt32.toNat_inj.mp
    have hlt := arg.toNat_lt
    simp [UInt32.toNat_shiftRight, Nat.shiftRight_eq_div_pow]
    omega
  show (if _ then CardHead.transfer .read _ else _) = _
  rw [harg]

namespace SdSpiCard

/-- One sector on, as the card counts. -/
def stride (c : SdSpiCard) : UInt32 := if c.type != .sdhc then 512 else 1

/-- The card's side of the session. -/
def view (c : SdSpiCard) : CardView := .ofLog c.stride c.bus.log

/-! ## What calls leave alone -/

/-- `m_spiActive` is the level of the pin, and what the card has seen of it. -/
structure Sound (c : SdSpiCard) : Prop where
  selected : c.bus.selected = c.spiActive
  released : c.view.head = .released ↔ c.spiActive = false

/-- These blocks have moved, and the driver's settings are what they were. -/
structure Moved (ts : List Transfer) (c c' : SdSpiCard) : Prop where
  type : c'.type = c.type
  curSector : c'.curSector = c.curSector
  dedicatedSpi : c'.dedicatedSpi = c.dedicatedSpi
  sound : c.Sound → c'.Sound
  transfers : c'.view.transfers = c.view.transfers ++ ts

/-- No block has. -/
def Quiet (c c' : SdSpiCard) : Prop := Moved [] c c'

/-- Nor has the open transfer been touched. -/
structure Still (c c' : SdSpiCard) : Prop where
  quiet : Quiet c c'
  head : c'.view.head = c.view.head
  spiActive : c'.spiActive = c.spiActive
  state : c'.state = c.state

variable {c c' c'' : SdSpiCard}

theorem Quiet.of_eq (htype : c'.type = c.type) (hcur : c'.curSector = c.curSector)
    (hded : c'.dedicatedSpi = c.dedicatedSpi)
    (hsound : c.Sound → c'.Sound) (hview : c'.view.transfers = c.view.transfers) : Quiet c c' :=
  ⟨htype, hcur, hded, hsound, hview.trans (List.append_nil _).symm⟩

theorem Quiet.refl (c : SdSpiCard) : Quiet c c := .of_eq rfl rfl rfl id rfl

theorem Moved.trans {ts us : List Transfer} (h : Moved ts c c') (h' : Moved us c' c'') :
    Moved (ts ++ us) c c'' :=
  ⟨h'.type.trans h.type, h'.curSector.trans h.curSector, h'.dedicatedSpi.trans h.dedicatedSpi,
    fun hc => h'.sound (h.sound hc),
    by rw [h'.transfers, h.transfers, List.append_assoc]⟩

theorem Quiet.trans (h : Quiet c c') (h' : Quiet c' c'') : Quiet c c'' := Moved.trans h h'

theorem Quiet.withState (h : Quiet c c') (state : SdState) : Quiet c { c' with state } :=
  ⟨h.type, h.curSector, h.dedicatedSpi, fun hc => ⟨(h.sound hc).selected, (h.sound hc).released⟩,
    h.transfers⟩

theorem Moved.then_quiet {ts : List Transfer} (h : Moved ts c c') (h' : Quiet c' c'') :
    Moved ts c c'' :=
  List.append_nil ts ▸ Moved.trans h h'

theorem Quiet.then_moved {ts : List Transfer} (h : Quiet c c') (h' : Moved ts c' c'') :
    Moved ts c c'' :=
  Moved.trans h h'

theorem Moved.stride {ts : List Transfer} (h : Moved ts c c') : c'.stride = c.stride := by
  unfold SdSpiCard.stride
  rw [h.type]

theorem Moved.address {ts : List Transfer} (h : Moved ts c c') : c'.address = c.address := by
  funext sector
  unfold SdSpiCard.address
  rw [h.type]

theorem Still.of_view (htype : c'.type = c.type) (hcur : c'.curSector = c.curSector)
    (hded : c'.dedicatedSpi = c.dedicatedSpi) (hsel : c'.bus.selected = c.bus.selected)
    (hactive : c'.spiActive = c.spiActive) (hstate : c'.state = c.state)
    (hview : c'.view = c.view) : Still c c' := by
  refine ⟨.of_eq htype hcur hded (fun h => ⟨?_, ?_⟩) (congrArg _ hview), congrArg _ hview, hactive,
    hstate⟩
  · rw [hsel, hactive, h.selected]
  · rw [hview, hactive, h.released]

theorem Still.refl (c : SdSpiCard) : Still c c := ⟨.refl c, rfl, rfl, rfl⟩

theorem Still.trans (h : Still c c') (h' : Still c' c'') : Still c c'' :=
  ⟨h.quiet.trans h'.quiet, h'.head.trans h.head, h'.spiActive.trans h.spiActive,
    h'.state.trans h.state⟩

/-- Single bytes received are no block. -/
theorem view_skip (stride : UInt32) (n : ℕ) (b : SpiBus) :
    CardView.ofLog stride (b.skip n).log = CardView.ofLog stride b.log := by
  have hbytes (v : CardView) :
      ((List.range n).map fun i => SpiEvent.receive [b.driven i]).foldl (CardView.event stride) v
        = v := by
    induction List.range n generalizing v with
    | nil => rfl
    | cons i is ih =>
      rw [List.map_cons, List.foldl_cons, CardView.event_short_receive (Nat.ne_of_lt (by simp)), ih]
  rw [SpiBus.skip, CardView.ofLog_append, hbytes]

theorem still_skip (c : SdSpiCard) (n : ℕ) (polls : ℕ → ℕ) (x : UInt8) :
    Still c { c with bus := SpiBus.skip n { c.bus with polls }, status := x } := by
  have hview : ({ c with bus := SpiBus.skip n { c.bus with polls }, status := x } : SdSpiCard).view
      = c.view :=
    view_skip c.stride n { c.bus with polls }
  exact .of_view rfl rfl rfl rfl rfl rfl hview

theorem waitReady_still (c : SdSpiCard) : Still c c.waitReady.2 := by
  obtain ⟨n, hn⟩ := SpiBus.pollWhile_skip (· != 0xFF) c.bus.timeout.1 c.bus.timeout.2
  have hbus : c.waitReady.2 = { c with bus := c.bus.timeout.2.skip n } := by
    rw [← hn]
    rfl
  rw [hbus]
  exact still_skip c n _ c.status

theorem error_still (code : SdCardError) (c : SdSpiCard) : Still c (c.error code) :=
  .of_view rfl rfl rfl rfl rfl rfl rfl

/-- Selecting or releasing the card, with the byte sent after it. -/
theorem view_select (stride : UInt32) (on : Bool) (b : SpiBus) :
    CardView.ofLog stride ((b.select on).send [0xFF]).log
      = { CardView.ofLog stride b.log with head := if on then .selected else .released } := by
  show CardView.ofLog stride (b.log ++ [if on then .select else .unselect] ++ [.send [0xFF]]) = _
  rw [CardView.ofLog_append, CardView.ofLog_append]
  cases on <;> rfl

theorem spiStart_quiet (c : SdSpiCard) : Quiet c c.spiStart := by
  unfold spiStart
  cases h : c.spiActive with
  | true => exact .refl c
  | false =>
    have hview := view_select c.stride true c.bus
    have hhead := congrArg CardView.head hview
    have htransfers := congrArg CardView.transfers hview
    have hselected : CardHead.selected ≠ .released := CardHead.noConfusion
    exact .of_eq rfl rfl rfl (fun _ => ⟨rfl,
      iff_of_false (fun h' => hselected (hhead.symm.trans h'))
      fun h' => Bool.false_ne_true h'.symm⟩) htransfers

@[simp] theorem spiStart_spiActive (c : SdSpiCard) : c.spiStart.spiActive = true := by
  unfold spiStart
  split
  · assumption
  · rfl

@[simp] theorem spiStart_state (c : SdSpiCard) : c.spiStart.state = c.state := by
  unfold spiStart
  split <;> rfl

theorem spiStop_quiet (c : SdSpiCard) : Quiet c c.spiStop := by
  unfold spiStop
  cases h : c.spiActive with
  | true =>
    have hview := view_select c.stride false c.bus
    have hhead := congrArg CardView.head hview
    have htransfers := congrArg CardView.transfers hview
    exact .of_eq rfl rfl rfl (fun _ => ⟨rfl, iff_of_true hhead rfl⟩) htransfers
  | false => exact .refl c

@[simp] theorem spiStop_spiActive (c : SdSpiCard) : c.spiStop.spiActive = false := by
  unfold spiStop
  split
  · rfl
  · exact Bool.eq_false_iff.mpr ‹_›

@[simp] theorem spiStop_state (c : SdSpiCard) : c.spiStop.state = c.state := by
  unfold spiStop
  split <;> rfl

theorem fail_quiet (code : SdCardError) (c : SdSpiCard) : Quiet c (c.fail code) :=
  (error_still code c).quiet.trans (spiStop_quiet _)

@[simp] theorem fail_spiActive (code : SdCardError) (c : SdSpiCard) :
    (c.fail code).spiActive = false :=
  spiStop_spiActive _

@[simp] theorem fail_state (code : SdCardError) (c : SdSpiCard) :
    (c.fail code).state = c.state :=
  spiStop_state _

/-! ## Commands -/

/-- The card has the command, and nothing else has changed. -/
theorem issue_spec (cmd : UInt8) (arg : UInt32) (hc : c.Sound) (hactive : c.spiActive = true) :
    Quiet c (c.issue cmd arg).2 ∧ (c.issue cmd arg).2.state = c.state ∧
      (c.issue cmd arg).2.spiActive = true ∧
      (c.issue cmd arg).2.view.head = commandHead (commandFrame cmd arg) := by
  let sent : SdSpiCard := { c with bus := c.bus.send (commandFrame cmd arg) }
  have hselected : c.view.head ≠ .released := fun h =>
    Bool.false_ne_true ((hc.released.mp h).symm.trans hactive)
  have hsent : sent.view = { c.view with head := commandHead (commandFrame cmd arg) } := by
    show CardView.ofLog c.stride (c.bus.log ++ [.send (commandFrame cmd arg)]) = _
    rw [CardView.ofLog_append, List.foldl_cons, CardView.event,
      if_pos ⟨commandFrame_length cmd arg, hselected⟩]
    rfl
  have hhead : sent.view.head = commandHead (commandFrame cmd arg) := congrArg _ hsent
  have htransfers : sent.view.transfers = c.view.transfers := by rw [hsent]
  have hopen := CardView.commandHead_ne_released (commandFrame cmd arg)
  have hquiet : Quiet c sent := by
    refine .of_eq rfl rfl rfl (fun h => ⟨h.selected, ?_⟩) htransfers
    rw [hhead]
    exact iff_of_false hopen fun h => Bool.false_ne_true (h.symm.trans hactive)
  obtain ⟨n, hn⟩ := SpiBus.pollWhile_skip (· &&& 0x80 != 0) 9 (sent.bus.skip 1)
  have hissue : (c.issue cmd arg).2
      = { sent with bus := sent.bus.skip (1 + n), status := (c.issue cmd arg).1 } := by
    rw [← SpiBus.skip_skip, ← hn]
    rfl
  have hstill := still_skip sent (1 + n) sent.bus.polls (c.issue cmd arg).1
  rw [hissue]
  exact ⟨hquiet.trans hstill.quiet, rfl, hactive, hstill.head.trans hhead⟩

/-- A command is answered on a selected card, or not sent at all. -/
theorem transact_spec (cmd : UInt8) (arg : UInt32) (hc : c.Sound) :
    Quiet c (c.transact cmd arg).2 ∧ (c.transact cmd arg).2.state = c.state ∧
      (c.transact cmd arg).2.spiActive = true ∧
      ((c.transact cmd arg).1 = 0 →
        (c.transact cmd arg).2.view.head = commandHead (commandFrame cmd arg)) := by
  have hready : Still c.spiStart
      (if cmd != cmd0 && cmd != cmd12 then c.spiStart.waitReady else (true, c.spiStart)).2 := by
    split
    · exact waitReady_still _
    · exact .refl _
  dsimp only [transact]
  generalize (if cmd != cmd0 && cmd != cmd12 then c.spiStart.waitReady else (true, c.spiStart))
    = waited at hready ⊢
  have hquiet := (spiStart_quiet c).trans hready.quiet
  have hstate := hready.state.trans (spiStart_state c)
  have hactive := hready.spiActive.trans (spiStart_spiActive c)
  cases hw : waited.1 with
  | false => exact ⟨hquiet, hstate, hactive, fun h => absurd h (show (255 : UInt8) ≠ 0 by decide)⟩
  | true =>
    obtain ⟨hq, hs, ha, hh⟩ := issue_spec cmd arg (hquiet.sound hc) hactive
    exact ⟨hquiet.trans hq, hs.trans hstate, ha, fun _ => hh⟩

/-- The driver is in no transfer, or has let the card go. -/
def Settled (c : SdSpiCard) : Prop := c.state = .idle ∨ c.spiActive = false

theorem readStop_spec (hc : c.Sound) :
    Quiet c c.readStop.2 ∧ c.readStop.2.state = .idle ∧ c.readStop.2.spiActive = false := by
  have hidle := (Quiet.refl c).withState .idle
  obtain ⟨hq, hs, -, -⟩ := transact_spec cmd12 0 (hidle.sound hc)
  have hquiet := hidle.trans hq
  dsimp only [readStop]
  generalize transact cmd12 0 { c with state := .idle } = r at hs hquiet ⊢
  by_cases hr : (r.1 != 0) = true
  · rw [if_pos hr]
    exact ⟨hquiet.trans (fail_quiet _ _), (fail_state _ _).trans hs, fail_spiActive _ _⟩
  · rw [if_neg hr]
    exact ⟨hquiet.trans (spiStop_quiet _), (spiStop_state _).trans hs, spiStop_spiActive _⟩

/-- A byte sent that is neither a command nor a block. -/
theorem still_send (c : SdSpiCard) (x : UInt8) : Still c { c with bus := c.bus.send [x] } := by
  have hview : ({ c with bus := c.bus.send [x] } : SdSpiCard).view = c.view := by
    show CardView.ofLog c.stride (c.bus.log ++ [.send [x]]) = _
    rw [CardView.ofLog_append]
    rw [List.foldl_cons, CardView.event, if_neg (by simp), CardView.block_of_short (by simp)]
    rfl
  exact .of_view rfl rfl rfl rfl rfl rfl hview

theorem writeStop_spec (c : SdSpiCard) :
    Quiet c c.writeStop.2 ∧ c.writeStop.2.spiActive = false ∧
      (c.writeStop.1 = true → c.writeStop.2.state = .idle) := by
  have hwait := waitReady_still c
  dsimp only [writeStop]
  generalize c.waitReady = w at hwait ⊢
  cases hw : w.1 with
  | false =>
    exact ⟨hwait.quiet.trans (fail_quiet _ _), fail_spiActive _ _,
      fun h => absurd h Bool.false_ne_true⟩
  | true =>
    have hstop := spiStop_quiet { w.2 with bus := w.2.bus.send [stopTranToken] }
    have hquiet := (hwait.trans (still_send w.2 stopTranToken)).quiet.trans hstop
    exact ⟨hquiet.withState .idle, spiStop_spiActive _, fun _ => rfl⟩

theorem syncDevice_spec (hc : c.Sound) :
    Quiet c c.syncDevice.2 ∧ c.syncDevice.2.Settled ∧
      (c.syncDevice.1 = true → c.syncDevice.2.state = .idle) := by
  unfold syncDevice
  cases hstate : c.state with
  | idle => exact ⟨.refl c, .inl hstate, fun _ => hstate⟩
  | read =>
    obtain ⟨hq, hs, ha⟩ := readStop_spec hc
    exact ⟨hq, .inl hs, fun _ => hs⟩
  | write =>
    obtain ⟨hq, ha, hs⟩ := writeStop_spec c
    exact ⟨hq, .inr ha, hs⟩

theorem cardCommand_spec (cmd : UInt8) (arg : UInt32) (hc : c.Sound) :
    Quiet c (c.cardCommand cmd arg).2 ∧ (c.cardCommand cmd arg).2.Settled ∧
      ((c.cardCommand cmd arg).1 = 0 →
        (c.cardCommand cmd arg).2.state = .idle ∧ (c.cardCommand cmd arg).2.spiActive = true ∧
          (c.cardCommand cmd arg).2.view.head = commandHead (commandFrame cmd arg)) := by
  obtain ⟨hsync, hsettled, hidle⟩ := syncDevice_spec hc
  dsimp only [cardCommand]
  generalize c.syncDevice = s at hsync hsettled hidle ⊢
  cases hs : s.1 with
  | false => exact ⟨hsync, hsettled, fun h => absurd h (show (255 : UInt8) ≠ 0 by decide)⟩
  | true =>
    obtain ⟨hq, hstate, hactive, hhead⟩ := transact_spec cmd arg (hsync.sound hc)
    have hs' := hstate.trans (hidle hs)
    exact ⟨hsync.trans hq, .inl hs', fun h => ⟨hs', hactive, hhead h⟩⟩

end SdSpiCard

end Heimdall
