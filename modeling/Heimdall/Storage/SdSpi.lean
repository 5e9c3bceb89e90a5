import Heimdall.Lib.Crc
import Mathlib.Data.Nat.Find

/-!
# Data blocks on the SPI bus

`lib/SdFat/src/SdCard/SdSpiCard.cpp`, as the firmware builds it (`USE_SD_CRC` is
1): the two checks, and the block of data that `writeData` sends and `readData`
receives.

`CRC_CCITT` takes a byte in at a time and `CRC7` keeps its seven bits in a
register of eight; both are the bit-serial checks of `Lib.Crc`
(`checks_bit_serial`).

The card is whatever drives the bus: `SpiBus` is the bytes still to come from
it, with no assumption on them, and how many times each `Timeout` to come is
asked before it has run out. While the card is not selected nobody drives the
line, and the pull-up reads as 0xFF.

`readData_iff` says when `readData` accepts: exactly when what the card drives
is some fill bytes, the start token, the data and its check. `readData_burst` is
the use of the check: a block damaged within sixteen successive bits is refused.
-/

namespace Heimdall

open Crc

/-! ## The checks -/

/-- The body of the loop of `CRC_CCITT`. -/
def crcCcittByte (crc : BitVec 16) (d : UInt8) : BitVec 16 :=
  let crc := (crc >>> 8) ||| (crc <<< 8)
  let crc := crc ^^^ d.toBitVec.setWidth 16
  let crc := crc ^^^ ((crc &&& 0xff#16) >>> 4)
  let crc := crc ^^^ (crc <<< 12)
  crc ^^^ ((crc &&& 0xff#16) <<< 5)

/-- `CRC_CCITT` -/
def crcCcitt (data : List UInt8) : BitVec 16 := data.foldl crcCcittByte 0#16

/-- The inner loop of `CRC7`, with `n` bits to go. -/
def crc7Bits : ℕ → BitVec 8 → BitVec 8 → BitVec 8
  | 0, crc, _ => crc
  | n + 1, crc, d =>
    let crc := crc <<< 1
    let crc := if d.msb ^^ crc.msb then crc ^^^ 0x09#8 else crc
    crc7Bits n crc (d <<< 1)

/-- `CRC7` -/
def crc7 (data : List UInt8) : BitVec 8 :=
  let crc := data.foldl (fun crc d => crc7Bits 8 crc d.toBitVec) 0#8
  (crc <<< 1) ||| 1#8

/-- Bytes in the order their bits are sent. -/
def bitsOf (bs : List UInt8) : List Bool := bs.flatMap fun b => toBits b.toBitVec

theorem bitsOf_append (as bs : List UInt8) : bitsOf (as ++ bs) = bitsOf as ++ bitsOf bs :=
  List.flatMap_append

theorem bitsOf_cons (b : UInt8) (bs : List UInt8) :
    bitsOf (b :: bs) = toBits b.toBitVec ++ bitsOf bs :=
  List.flatMap_cons

theorem length_bitsOf (bs : List UInt8) : (bitsOf bs).length = 8 * bs.length := by
  induction bs with
  | nil => rfl
  | cons b bs ih =>
    rw [bitsOf_cons, List.length_append, length_toBits, ih, List.length_cons]
    omega

/-- The bytes change places, one is added, and the three shifts mix them. -/
theorem crcCcittByte_eq_feed (crc : BitVec 16) (d : UInt8) :
    crcCcittByte crc d = feed 0x1021#16 crc (toBits d.toBitVec) := by
  let mix (x : BitVec 16) : BitVec 16 :=
    let x := x ^^^ ((x &&& 0xff#16) >>> 4)
    let x := x ^^^ (x <<< 12)
    x ^^^ ((x &&& 0xff#16) <<< 5)
  have hmix : Linear mix := by
    have hnibble := Linear.add Linear.id ((Linear.ushiftRight 4).comp (Linear.and 0xff#16))
    have htop := Linear.add Linear.id (Linear.shiftLeft 12 (n := 16))
    have hmiddle := Linear.add Linear.id ((Linear.shiftLeft 5).comp (Linear.and 0xff#16))
    exact hmiddle.comp (htop.comp hnibble)
  -- the halves do not overlap, so that the `or` adds them
  have hswap (x : BitVec 16) : (x >>> 8) ||| (x <<< 8) = (x >>> 8) ^^^ (x <<< 8) := by
    apply BitVec.eq_of_getLsbD_eq
    intro i hi
    rw [BitVec.getLsbD_or, BitVec.getLsbD_xor, BitVec.getLsbD_ushiftRight, BitVec.getLsbD_shiftLeft]
    by_cases h : i < 8
    · simp [h]
    · rw [BitVec.getLsbD_of_ge x (8 + i) (by omega), Bool.false_or, Bool.false_xor]
  have hsplit : crcCcittByte crc d
      = mix ((crc >>> 8) ^^^ (crc <<< 8)) ^^^ mix (d.toBitVec.setWidth 16) := by
    rw [← hmix, ← hswap]
    rfl
  rw [hsplit]
  refine step_eq_feed (hmix.comp (Linear.add (Linear.ushiftRight 8) (Linear.shiftLeft 8)))
    (hmix.comp Linear.setWidth) ?_ ?_ crc d.toBitVec
  · decide
  · decide

theorem crcCcitt_eq_feed (data : List UInt8) :
    crcCcitt data = feed 0x1021#16 0#16 (bitsOf data) := by
  unfold crcCcitt
  generalize 0#16 = crc
  induction data generalizing crc with
  | nil => rfl
  | cons d data ih => rw [List.foldl_cons, ih, crcCcittByte_eq_feed, bitsOf_cons, feed_append]

/-- One bit: the register's eighth bit is what left it the time before. -/
theorem crc7Bits_setWidth (n : ℕ) (hn : n ≤ 8) (crc d : BitVec 8) :
    (crc7Bits n crc d).setWidth 7 = feed 0x09#7 (crc.setWidth 7) ((toBits d).take n) := by
  induction n generalizing crc d with
  | zero => rfl
  | succ n ih =>
    have hwidth : (crc <<< 1).setWidth 7 = crc.setWidth 7 <<< 1 := by
      ext i hi
      simp
    have hmsb : (crc <<< 1).msb = (crc.setWidth 7).msb := by
      simp [BitVec.msb_eq_getLsbD_last]
    rw [take_succ_toBits d hn, feed_cons, crc7Bits, ih (Nat.le_of_succ_le hn), shiftIn, hmsb,
      Bool.xor_comm d.msb]
    cases (crc.setWidth 7).msb ^^ d.msb
    · rw [if_neg Bool.false_ne_true, if_neg Bool.false_ne_true, hwidth]
    · rw [if_pos rfl, if_pos rfl, BitVec.setWidth_xor, hwidth]
      rfl

/-- The seven bits of the check, and the stop bit. -/
theorem crc7_eq_feed (data : List UInt8) :
    crc7 data = feed 0x09#7 0#7 (bitsOf data) ++ 1#1 := by
  have hfold (crc : BitVec 8) :
      (data.foldl (fun crc d => crc7Bits 8 crc d.toBitVec) crc).setWidth 7
        = feed 0x09#7 (crc.setWidth 7) (bitsOf data) := by
    induction data generalizing crc with
    | nil => rfl
    | cons d data ih =>
      rw [List.foldl_cons, ih, crc7Bits_setWidth 8 (Nat.le_refl 8), bitsOf_cons, feed_append,
        List.take_of_length_le (Nat.le_of_eq (length_toBits _))]
  have hstop (crc : BitVec 8) : (crc <<< 1) ||| 1#8 = crc.setWidth 7 ++ 1#1 := by
    apply BitVec.eq_of_getLsbD_eq
    intro i hi
    rw [BitVec.getLsbD_or, BitVec.getLsbD_shiftLeft, BitVec.getLsbD_append]
    cases i with
    | zero => simp
    | succ i =>
      have hlt : i < 7 := Nat.lt_of_succ_lt_succ hi
      simp [hi, hlt]
  rw [crc7, hstop, hfold]
  rfl

/-- **The checks are those of the SD protocol.** The byte-wise and the eight-bit
loops compute, for any data, the remainders of the polynomials 0x1021 and 0x09. -/
theorem checks_bit_serial (data : List UInt8) :
    crcCcitt data = feed 0x1021#16 0#16 (bitsOf data) ∧
      crc7 data = feed 0x09#7 0#7 (bitsOf data) ++ 1#1 :=
  ⟨crcCcitt_eq_feed data, crc7_eq_feed data⟩

/-! ## The bus -/

/-- What the driver does on the bus. -/
inductive SpiEvent where
  | select
  | unselect
  | send (bs : List UInt8)
  | receive (bs : List UInt8)
  deriving DecidableEq, Repr

/-- The bytes an event puts on the bus. -/
def SpiEvent.sent : SpiEvent → List UInt8
  | .send bs => bs
  | _ => []

/-- The bus from the driver's side. -/
structure SpiBus where
  /-- the bytes the card drives while it is selected, one for each byte received -/
  miso : ℕ → UInt8
  /-- how often `timedOut` answers false, for each `Timeout` to come -/
  polls : ℕ → ℕ
  selected : Bool
  log : List SpiEvent

namespace SpiBus

/-- The bytes on the line, next first. -/
def driven (b : SpiBus) (i : ℕ) : UInt8 := if b.selected then b.miso i else 0xFF

/-- The card is clocked only while it is selected. -/
def advance (n : ℕ) (b : SpiBus) : ℕ → UInt8 := fun i => b.miso (if b.selected then n + i else i)

/-- `spiReceive(buf, n)` -/
def receive (n : ℕ) (b : SpiBus) : Vector UInt8 n × SpiBus :=
  let bytes := Vector.ofFn fun i : Fin n => b.driven i
  (bytes, { b with miso := b.advance n, log := b.log ++ [.receive bytes.toList] })

/-- `spiReceive()` -/
def receiveByte (b : SpiBus) : UInt8 × SpiBus :=
  (b.driven 0, { b with miso := b.advance 1, log := b.log ++ [.receive [b.driven 0]] })

/-- The same `n` times, without looking at the byte. -/
def discard : ℕ → SpiBus → SpiBus
  | 0, b => b
  | n + 1, b => discard n b.receiveByte.2

/-- `spiSelect` and `spiUnselect` -/
def select (on : Bool) (b : SpiBus) : SpiBus :=
  { b with selected := on, log := b.log ++ [if on then .select else .unselect] }

/-- `spiSend` -/
def send (bs : List UInt8) (b : SpiBus) : SpiBus := { b with log := b.log ++ [.send bs] }

/-- A new `Timeout`: how long it lasts. -/
def timeout (b : SpiBus) : ℕ × SpiBus := (b.polls 0, { b with polls := fun i => b.polls (1 + i) })

/-- `while (p(spiReceive())) { if (timeout.timedOut()) { fail } }`: whether the
loop ended by itself, and the last byte. -/
def pollWhile (p : UInt8 → Bool) : ℕ → SpiBus → Bool × UInt8 × SpiBus
  | polls, b =>
    let (x, b) := b.receiveByte
    if p x then
      match polls with
      | 0 => (false, x, b)
      | polls + 1 => pollWhile p polls b
    else (true, x, b)

/-- The bus when `n` single bytes have been received. -/
def skip (n : ℕ) (b : SpiBus) : SpiBus :=
  { b with
    miso := b.advance n
    log := b.log ++ (List.range n).map fun i => .receive [b.driven i] }

@[simp] theorem skip_driven (n : ℕ) (b : SpiBus) (i : ℕ) :
    (b.skip n).driven i = b.driven (n + i) := by
  unfold driven
  cases h : b.selected <;> simp [skip, advance, h]

theorem skip_zero (b : SpiBus) : b.skip 0 = b := by
  have hmiso : b.advance 0 = b.miso := by
    funext i
    simp [advance]
  show SpiBus.mk _ _ _ (b.log ++ []) = b
  rw [hmiso, List.append_nil]

theorem receiveByte_eq (b : SpiBus) : b.receiveByte = (b.driven 0, b.skip 1) := rfl

theorem skip_skip (m n : ℕ) (b : SpiBus) : (b.skip m).skip n = b.skip (m + n) := by
  have hmiso : (b.skip m).advance n = b.advance (m + n) := by
    funext i
    cases h : b.selected <;> simp [skip, advance, h, Nat.add_assoc]
  have hlog : (List.range n).map (fun i => SpiEvent.receive [(b.skip m).driven i])
      = (List.range n).map fun i => SpiEvent.receive [b.driven (m + i)] :=
    List.map_congr_left fun i _ => by rw [skip_driven]
  have hrange : (List.range (m + n)).map (fun i => SpiEvent.receive [b.driven i])
      = (List.range m).map (fun i => SpiEvent.receive [b.driven i])
        ++ (List.range n).map fun i => SpiEvent.receive [b.driven (m + i)] := by
    rw [List.range_add, List.map_append, List.map_map]
    rfl
  show SpiBus.mk _ _ _ _ = SpiBus.mk _ _ _ _
  rw [hmiso, hlog, hrange]
  simp [skip]

theorem discard_eq_skip (n : ℕ) (b : SpiBus) : b.discard n = b.skip n := by
  induction n generalizing b with
  | zero => rw [discard, skip_zero]
  | succ n ih => rw [discard, ih, receiveByte_eq, skip_skip, Nat.add_comm]

/-- The loop ends at the first byte it is not waiting for. -/
theorem pollWhile_ends {p : UInt8 → Bool} {polls k : ℕ} {b : SpiBus} (hk : k ≤ polls)
    (hwait : ∀ i < k, p (b.driven i) = true) (hend : p (b.driven k) = false) :
    b.pollWhile p polls = (true, b.driven k, b.skip (k + 1)) := by
  induction k generalizing polls b with
  | zero =>
    unfold pollWhile
    rw [receiveByte_eq]
    simp [hend]
  | succ k ih =>
    obtain ⟨polls,
        rfl⟩ := Nat.exists_eq_succ_of_ne_zero (Nat.ne_of_gt (Nat.lt_of_lt_of_le k.succ_pos hk))
    have hrest := ih (b := b.skip 1) (Nat.le_of_succ_le_succ hk)
      (fun i hi => by
        rw [skip_driven, Nat.add_comm]
        exact hwait (i + 1) (Nat.succ_lt_succ hi))
      (by rw [skip_driven, Nat.add_comm]; exact hend)
    rw [skip_driven, skip_skip, Nat.add_comm 1 k, Nat.add_comm 1 (k + 1)] at hrest
    rw [pollWhile, receiveByte_eq]
    simpa [hwait 0 k.succ_pos] using hrest

/-- It gives up when the time is over and every byte was one it waits for. -/
theorem pollWhile_times_out {p : UInt8 → Bool} {polls : ℕ} {b : SpiBus}
    (hwait : ∀ i ≤ polls, p (b.driven i) = true) :
    b.pollWhile p polls = (false, b.driven polls, b.skip (polls + 1)) := by
  induction polls generalizing b with
  | zero =>
    rw [pollWhile, receiveByte_eq]
    simp [hwait 0 (Nat.le_refl 0)]
  | succ polls ih =>
    have hrest := ih (b := b.skip 1) (fun i hi => by
      rw [skip_driven, Nat.add_comm]
      exact hwait (i + 1) (Nat.succ_le_succ hi))
    rw [skip_driven, skip_skip, Nat.add_comm 1 polls, Nat.add_comm 1 (polls + 1)] at hrest
    rw [pollWhile, receiveByte_eq]
    simpa [hwait 0 (Nat.zero_le _)] using hrest

/-- One of the two. -/
theorem pollWhile_cases (p : UInt8 → Bool) (polls : ℕ) (b : SpiBus) :
    (∃ k ≤ polls, (∀ i < k, p (b.driven i) = true) ∧ p (b.driven k) = false ∧
        b.pollWhile p polls = (true, b.driven k, b.skip (k + 1))) ∨
      b.pollWhile p polls = (false, b.driven polls, b.skip (polls + 1)) := by
  by_cases hwait : ∀ i ≤ polls, p (b.driven i) = true
  · exact .inr (pollWhile_times_out hwait)
  · have hex : ∃ i, i ≤ polls ∧ p (b.driven i) = false := by
      obtain ⟨i, hi⟩ := not_forall.mp hwait
      obtain ⟨hle, hne⟩ := Classical.not_imp.mp hi
      exact ⟨i, hle, Bool.eq_false_iff.mpr hne⟩
    obtain ⟨hle, hend⟩ := Nat.find_spec hex
    have hfirst : ∀ i < Nat.find hex, p (b.driven i) = true := by
      intro i hi
      have hmin := Nat.find_min hex hi
      have hi' : i ≤ polls := Nat.le_trans (Nat.le_of_lt hi) hle
      cases h : p (b.driven i) with
      | true => rfl
      | false => exact absurd ⟨hi', h⟩ hmin
    exact .inl ⟨Nat.find hex, hle, hfirst, hend, pollWhile_ends hle hfirst hend⟩

theorem pollWhile_skip (p : UInt8 → Bool) (polls : ℕ) (b : SpiBus) :
    ∃ n, (b.pollWhile p polls).2.2 = b.skip n := by
  rcases pollWhile_cases p polls b with ⟨k, -, -, -, hpoll⟩ | hpoll
  · exact ⟨k + 1, by rw [hpoll]⟩
  · exact ⟨polls + 1, by rw [hpoll]⟩

/-- What is on the line starts with these bytes. -/
def Drives (b : SpiBus) (bs : List UInt8) : Prop := ∀ i, (h : i < bs.length) → b.driven i = bs[i]

theorem drives_cons {b : SpiBus} {x : UInt8} {bs : List UInt8} :
    b.Drives (x :: bs) ↔ b.driven 0 = x ∧ (b.skip 1).Drives bs := by
  constructor
  · intro h
    refine ⟨h 0 (Nat.succ_pos _), fun i hi => ?_⟩
    rw [skip_driven, Nat.add_comm]
    exact h (i + 1) (Nat.succ_lt_succ hi)
  · intro h i hi
    obtain ⟨hx, hbs⟩ := h
    cases i with
    | zero => exact hx
    | succ i =>
      have hi' := hbs i (Nat.lt_of_succ_lt_succ hi)
      rwa [skip_driven, Nat.add_comm] at hi'

theorem drives_append {b : SpiBus} {as bs : List UInt8} :
    b.Drives (as ++ bs) ↔ b.Drives as ∧ (b.skip as.length).Drives bs := by
  induction as generalizing b with
  | nil =>
    rw [List.nil_append, List.length_nil, skip_zero]
    exact ⟨fun h => ⟨fun i hi => absurd hi (Nat.not_lt_zero i), h⟩, And.right⟩
  | cons a as ih =>
    rw [List.cons_append, drives_cons, ih, drives_cons, skip_skip, List.length_cons,
      Nat.add_comm 1, and_assoc]

theorem drives_replicate {b : SpiBus} {n : ℕ} {x : UInt8} :
    b.Drives (List.replicate n x) ↔ ∀ i < n, b.driven i = x := by
  constructor
  · intro h i hi
    rw [h i (by rwa [List.length_replicate]), List.getElem_replicate]
  · intro h i hi
    rw [List.length_replicate] at hi
    rw [h i hi, List.getElem_replicate]

theorem receive_log (n : ℕ) (b : SpiBus) :
    (b.receive n).2.log = b.log ++ [.receive (b.receive n).1.toList] := rfl

@[simp] theorem receive_driven (n : ℕ) (b : SpiBus) (i : ℕ) :
    (b.receive n).2.driven i = b.driven (n + i) := by
  unfold driven
  cases h : b.selected <;> simp [receive, advance, h]

theorem getElem_receive (b : SpiBus) {n i : ℕ} (hi : i < n) :
    (b.receive n).1[i] = b.driven i :=
  Vector.getElem_ofFn hi

theorem receive_of_drives {b : SpiBus} {n : ℕ} {bytes : Vector UInt8 n} :
    (b.receive n).1 = bytes ↔ b.Drives bytes.toList := by
  constructor
  · intro h i hi
    rw [Vector.length_toList] at hi
    rw [← getElem_receive b hi, Vector.getElem_toList]
    simp [h]
  · intro h
    apply Vector.ext
    intro i hi
    rw [getElem_receive b hi, h i (by rwa [Vector.length_toList]), Vector.getElem_toList]

end SpiBus

/-! ## Data blocks -/

/-- The error codes of `SdCardInfo.h` that the driver sets. -/
inductive SdCardError where
  | none | cmd0 | cmd8 | cmd12 | cmd18 | cmd24 | cmd25 | cmd58 | cmd59 | acmd41 | readToken | readCrc
  | readReg | readTimeout | stopTran | writeData | writeTimeout | initNotCalled
  deriving DecidableEq, Repr

/-- `m_state` -/
inductive SdState where
  | idle
  | read
  | write
  deriving DecidableEq, Repr

/-- `m_type`, before `begin` has found it and after. -/
inductive SdCardType where
  | unknown
  | sd1
  | sd2
  | sdhc
  deriving DecidableEq, Repr

/-- `SharedSpiCard`, and the two fields of `DedicatedSpiCard`. -/
structure SdSpiCard where
  bus : SpiBus
  spiActive : Bool
  state : SdState
  status : UInt8
  type : SdCardType
  errorCode : SdCardError
  dedicatedSpi : Bool
  curSector : UInt32

/-- `DATA_START_SECTOR` -/
def dataStartSector : UInt8 := 0xFE

/-- `WRITE_MULTIPLE_TOKEN` -/
def writeMultipleToken : UInt8 := 0xFC

/-- `DATA_RES_MASK` -/
def dataResMask : UInt8 := 0x1F

/-- `DATA_RES_ACCEPTED` -/
def dataResAccepted : UInt8 := 0x05

/-- A 512 byte sector. -/
abbrev Sector := Vector UInt8 512

namespace SdSpiCard

/-- `error` -/
def error (code : SdCardError) (c : SdSpiCard) : SdSpiCard := { c with errorCode := code }

/-- `spiStart`: select the card, and a byte to let it drive the line. -/
def spiStart (c : SdSpiCard) : SdSpiCard :=
  if c.spiActive then c
  else { c with spiActive := true, bus := (c.bus.select true).send [0xFF] }

/-- `spiStop` -/
def spiStop (c : SdSpiCard) : SdSpiCard :=
  if c.spiActive then { c with spiActive := false, bus := (c.bus.select false).send [0xFF] }
  else c

/-- A `goto fail` with its error. -/
def fail (code : SdCardError) (c : SdSpiCard) : SdSpiCard := (c.error code).spiStop

/-- `waitReady` -/
def waitReady (c : SdSpiCard) : Bool × SdSpiCard :=
  let (polls, bus) := c.bus.timeout
  let (ok, _, bus) := bus.pollWhile (· != 0xFF) polls
  (ok, { c with bus })

/-- `readData` from the transfer of the data on: the result, and what `dst`
holds. -/
def readBlock (count : ℕ) (c : SdSpiCard) : Bool × Vector UInt8 count × SdSpiCard :=
  let (dst, bus) := c.bus.receive count
  let (high, bus) := bus.receiveByte
  let (low, bus) := bus.receiveByte
  -- the driver's `receive` of an array always answers 0
  let c := { c with bus, status := 0 }
  let crc := high.toBitVec ++ low.toBitVec
  if crc != crcCcitt dst.toList then (false, dst, c.fail .readCrc) else (true, dst, c)

/-- `readData(dst, count)` -/
def readData {count : ℕ} (dst : Vector UInt8 count) (c : SdSpiCard) :
    Bool × Vector UInt8 count × SdSpiCard :=
  let (polls, bus) := c.bus.timeout
  let (started, x, bus) := bus.pollWhile (· == 0xFF) polls
  let c := { c with bus, status := x }
  if !started then (false, dst, c.fail .readTimeout)
  else if x != dataStartSector then (false, dst, c.fail .readToken)
  else c.readBlock count

/-- A check's two bytes, high byte first. -/
def crcBytes (crc : BitVec 16) : List UInt8 :=
  [UInt8.ofBitVec ((crc >>> 8).setWidth 8), UInt8.ofBitVec ((crc &&& 0xFF#16).setWidth 8)]

/-- The four sends of `writeData(token, src)`. -/
def sendBlock (token : UInt8) (src : Sector) (b : SpiBus) : SpiBus :=
  let crc := crcCcitt src.toList
  let b := b.send [token]
  let b := b.send src.toList
  let b := b.send ((crcBytes crc).take 1)
  b.send ((crcBytes crc).drop 1)

/-- `writeData(token, src)` -/
def writeToken (token : UInt8) (src : Sector) (c : SdSpiCard) : Bool × SdSpiCard :=
  let (x, bus) := (sendBlock token src c.bus).receiveByte
  let c := { c with bus, status := x }
  if x &&& dataResMask != dataResAccepted then (false, c.fail .writeData) else (true, c)

/-- `writeData(src)` -/
def writeData (src : Sector) (c : SdSpiCard) : Bool × SdSpiCard :=
  let (ready, c) := c.waitReady
  if !ready then (false, c.fail .writeTimeout)
  else
    let (ok, c) := c.writeToken writeMultipleToken src
    -- the first `fail` has already stopped the bus
    if !ok then (false, c.spiStop) else (true, c)

/-- The two bytes are the check's. -/
theorem append_eq_iff (high low : UInt8) (crc : BitVec 16) :
    high.toBitVec ++ low.toBitVec = crc ↔ [high, low] = crcBytes crc := by
  have hmask : (crc &&& 0xFF#16).setWidth 8 = crc.setWidth 8 := by
    apply BitVec.eq_of_toNat_eq
    rw [BitVec.toNat_setWidth, BitVec.toNat_and, BitVec.toNat_setWidth]
    show (crc.toNat &&& (2 ^ 8 - 1)) % 2 ^ 8 = _
    rw [Nat.and_two_pow_sub_one_eq_mod, Nat.mod_mod]
  rw [crcBytes, hmask]
  constructor
  · rintro rfl
    have hhigh : ((high.toBitVec ++ low.toBitVec) >>> 8).setWidth 8 = high.toBitVec := by
      apply BitVec.eq_of_getLsbD_eq
      intro i hi
      rw [BitVec.getLsbD_setWidth, BitVec.getLsbD_ushiftRight, BitVec.getLsbD_append]
      simp [hi]
    have hlow : (high.toBitVec ++ low.toBitVec).setWidth 8 = low.toBitVec := by
      apply BitVec.eq_of_getLsbD_eq
      intro i hi
      rw [BitVec.getLsbD_setWidth, BitVec.getLsbD_append]
      simp [hi]
    rw [hhigh, hlow, UInt8.ofBitVec_toBitVec, UInt8.ofBitVec_toBitVec]
  · intro h
    obtain ⟨rfl, hlow⟩ := List.cons.inj h
    obtain ⟨rfl, -⟩ := List.cons.inj hlow
    apply BitVec.eq_of_getLsbD_eq
    intro i hi
    rw [BitVec.getLsbD_append, UInt8.toBitVec_ofBitVec, UInt8.toBitVec_ofBitVec]
    by_cases h : i < 8
    · simp [h]
    · have hlt : i - 8 < 8 := by omega
      have hback : 8 + (i - 8) = i := by omega
      simp [h, hlt, hback]

/-- A check that fits its data leaves the register empty. -/
theorem residue_iff (data : List UInt8) (high low : UInt8) :
    feed 0x1021#16 0#16 (bitsOf (data ++ [high, low])) = 0#16
      ↔ high.toBitVec ++ low.toBitVec = crcCcitt data := by
  have hbits : bitsOf [high, low] = toBits (high.toBitVec ++ low.toBitVec) := by
    rw [toBits_append, bitsOf_cons, bitsOf_cons]
    exact congrArg _ (List.append_nil _)
  rw [bitsOf_append, feed_append, ← crcCcitt_eq_feed, hbits, feed_toBits_eq_zero (by decide)]
  exact eq_comm

/-- The block that follows a start token: the data and its check. -/
def checked (data : List UInt8) : List UInt8 := data ++ crcBytes (crcCcitt data)

theorem residue_checked (data : List UInt8) : feed 0x1021#16 0#16 (bitsOf (checked data)) = 0#16 :=
  (residue_iff data _ _).mpr ((append_eq_iff _ _ _).mpr rfl)

section

variable {count : ℕ} {c : SdSpiCard}

/-- The transfer with its three reads written out. -/
theorem readBlock_eq (count : ℕ) (c : SdSpiCard) :
    c.readBlock count =
      let data := (c.bus.receive count).1
      let c' := { c with bus := (c.bus.receive count).2.skip 2, status := 0 }
      if (c.bus.driven count).toBitVec ++ (c.bus.driven (count + 1)).toBitVec
          = crcCcitt data.toList then (true, data, c') else (false, data, c'.fail .readCrc) := by
  have hhigh : (c.bus.receive count).2.driven 0 = c.bus.driven count :=
    SpiBus.receive_driven count c.bus 0
  have hlow : ((c.bus.receive count).2.skip 1).driven 0 = c.bus.driven (count + 1) := by
    rw [SpiBus.skip_driven, SpiBus.receive_driven]
  unfold readBlock
  simp only [SpiBus.receiveByte_eq, hhigh, hlow, SpiBus.skip_skip, bne_iff_ne, ne_eq, ite_not]

/-- Whether it is accepted or not, the data and its check have been received. -/
theorem readBlock_cases (count : ℕ) (c : SdSpiCard) :
    c.readBlock count = (true, (c.bus.receive count).1,
        { c with bus := (c.bus.receive count).2.skip 2, status := 0 }) ∨
      c.readBlock count = (false, (c.bus.receive count).1,
        SdSpiCard.fail .readCrc { c with bus := (c.bus.receive count).2.skip 2, status := 0 }) := by
  rw [readBlock_eq]
  dsimp only
  split
  · exact .inl rfl
  · exact .inr rfl

/-- What is received is accepted exactly if the two bytes after it check it. -/
theorem readBlock_accepts (data : Vector UInt8 count) :
    (c.readBlock count).1 = true ∧ (c.readBlock count).2.1 = data
      ↔ c.bus.Drives (checked data.toList) := by
  have hcheck : (c.bus.skip count).Drives (crcBytes (crcCcitt data.toList))
      ↔ (c.bus.driven count).toBitVec ++ (c.bus.driven (count + 1)).toBitVec
        = crcCcitt data.toList := by
    rw [append_eq_iff, crcBytes, SpiBus.drives_cons, SpiBus.drives_cons, SpiBus.skip_driven,
      SpiBus.skip_skip, SpiBus.skip_driven, List.cons.injEq, List.cons.injEq]
    exact and_congr Iff.rfl (and_congr Iff.rfl (iff_of_true (fun i hi => absurd hi (by simp)) rfl))
  rw [checked, SpiBus.drives_append, Vector.length_toList, hcheck, ← SpiBus.receive_of_drives,
    readBlock_eq]
  generalize (c.bus.receive count).1 = received
  generalize (c.bus.driven count).toBitVec ++ (c.bus.driven (count + 1)).toBitVec = crc
  by_cases hcrc : crc = crcCcitt received.toList
  · rw [if_pos hcrc]
    constructor
    · rintro ⟨-, rfl⟩
      exact ⟨rfl, hcrc⟩
    · rintro ⟨rfl, -⟩
      exact ⟨rfl, rfl⟩
  · rw [if_neg hcrc]
    constructor
    · intro h
      exact absurd h.1 Bool.false_ne_true
    · rintro ⟨rfl, h⟩
      exact absurd h hcrc

theorem fail_errorCode (code : SdCardError) (c : SdSpiCard) : (c.fail code).errorCode = code := by
  unfold fail error spiStop
  split <;> rfl

/-- Data whose check leaves something in the register is refused. -/
theorem readBlock_refuses {received : List UInt8} (hlen : received.length = count + 2)
    (hdrives : c.bus.Drives received) (hresidue : feed 0x1021#16 0#16 (bitsOf received) ≠ 0#16) :
    (c.readBlock count).1 = false ∧ (c.readBlock count).2.2.errorCode = .readCrc := by
  have hreceived : received
      = (c.bus.receive count).1.toList ++ [c.bus.driven count, c.bus.driven (count + 1)] := by
    apply List.ext_getElem
    · simp [hlen]
    · intro i h₁ h₂
      rw [← hdrives i h₁, List.getElem_append]
      split
      · rw [Vector.getElem_toList, SpiBus.getElem_receive]
      · have hi : i = count ∨ i = count + 1 := by
          rw [Vector.length_toList] at *
          omega
        rcases hi with rfl | rfl <;> simp
  rw [hreceived, Ne, residue_iff] at hresidue
  rw [readBlock_eq]
  simp only [if_neg hresidue, fail_errorCode, and_self]

/-- The fill bytes, then the token. -/
theorem readData_started (dst : Vector UInt8 count) {k : ℕ} (hk : k ≤ c.bus.polls 0)
    (hfill : ∀ i < k, c.bus.driven i = 0xFF) (htoken : c.bus.driven k = dataStartSector) :
    c.readData dst
      = SdSpiCard.readBlock count
        { c with bus := c.bus.timeout.2.skip (k + 1), status := dataStartSector } := by
  have hpoll : c.bus.timeout.2.pollWhile (· == 0xFF) c.bus.timeout.1
      = (true, dataStartSector, c.bus.timeout.2.skip (k + 1)) := by
    rw [← htoken]
    refine SpiBus.pollWhile_ends hk (fun i hi => ?_) ?_
    · exact beq_iff_eq.mpr (hfill i hi)
    · show (c.bus.driven k == 0xFF) = false
      rw [htoken]
      rfl
  unfold readData
  simp only [hpoll]
  rfl

/-- The card's answer is a token in time, or the call fails without touching
`dst`. -/
theorem readData_cases (dst : Vector UInt8 count) :
    (∃ k ≤ c.bus.polls 0, (∀ i < k, c.bus.driven i = 0xFF) ∧ c.bus.driven k = dataStartSector ∧
        c.readData dst = SdSpiCard.readBlock count
          { c with bus := c.bus.timeout.2.skip (k + 1), status := dataStartSector }) ∨
      ∃ n x code, c.readData dst
        = (false, dst, SdSpiCard.fail code
          { c with bus := c.bus.timeout.2.skip n, status := x }) := by
  rcases SpiBus.pollWhile_cases (· == 0xFF) c.bus.timeout.1 c.bus.timeout.2 with
    ⟨k, hk, hfill, hend, hpoll⟩ | hpoll
  · have hfill' (i : ℕ) (hi : i < k) : c.bus.driven i = 0xFF := beq_iff_eq.mp (hfill i hi)
    by_cases htoken : c.bus.driven k = dataStartSector
    · exact .inl ⟨k, hk, hfill', htoken, readData_started dst hk hfill' htoken⟩
    · refine .inr ⟨k + 1, c.bus.driven k, .readToken, ?_⟩
      have hne : (c.bus.timeout.2.driven k != dataStartSector) = true := bne_iff_ne.mpr htoken
      unfold readData
      simp only [hpoll, hne, Bool.not_true, Bool.false_eq_true, if_false, if_true]
      rfl
  · refine .inr ⟨c.bus.timeout.1 + 1, c.bus.timeout.2.driven c.bus.timeout.1, .readTimeout, ?_⟩
    unfold readData
    simp only [hpoll, Bool.not_false, if_true]

theorem drives_frame {b : SpiBus} {k : ℕ} {bytes : List UInt8} :
    b.Drives (List.replicate k 0xFF ++ dataStartSector :: bytes)
      ↔ (∀ i < k, b.driven i = 0xFF) ∧ b.driven k = dataStartSector
        ∧ (b.skip (k + 1)).Drives bytes := by
  rw [SpiBus.drives_append, SpiBus.drives_cons, SpiBus.drives_replicate, List.length_replicate,
    SpiBus.skip_driven, SpiBus.skip_skip]
  rfl

/-- **What is accepted.** Of what the card drives, `readData` accepts exactly
fill bytes for as long as the time lasts, the start token, and the data with its
check. -/
theorem readData_iff (dst data : Vector UInt8 count) :
    (c.readData dst).1 = true ∧ (c.readData dst).2.1 = data
      ↔ ∃ k ≤ c.bus.polls 0,
          c.bus.Drives (List.replicate k 0xFF ++ dataStartSector :: checked data.toList) := by
  constructor
  · intro h
    rcases readData_cases (c := c) dst with ⟨k, hk, hfill, htoken, heq⟩ | ⟨n, x, code, heq⟩
    · rw [heq, readBlock_accepts] at h
      exact ⟨k, hk, drives_frame.mpr ⟨hfill, htoken, h⟩⟩
    · rw [heq] at h
      exact absurd h.1 Bool.false_ne_true
  · intro h
    obtain ⟨k, hk, hdrives⟩ := h
    obtain ⟨hfill, htoken, hblock⟩ := drives_frame.mp hdrives
    rw [readData_started dst hk hfill htoken, readBlock_accepts]
    exact hblock

/-- **Bursts are refused.** A block that reaches the driver with some of sixteen
successive bits changed, of the data or of the check, is refused. -/
theorem readData_burst (dst data : Vector UInt8 count) (received : List UInt8) {k : ℕ}
    (hk : k ≤ c.bus.polls 0)
    (hdrives : c.bus.Drives (List.replicate k 0xFF ++ dataStartSector :: received))
    (before sent damaged after : List Bool)
    (hsent : bitsOf (checked data.toList) = before ++ sent ++ after)
    (hreceived : bitsOf received = before ++ damaged ++ after)
    (hlen : sent.length = damaged.length) (hburst : sent.length ≤ 16) (hne : sent ≠ damaged) :
    (c.readData dst).1 = false ∧ (c.readData dst).2.2.errorCode = .readCrc := by
  obtain ⟨hfill, htoken, hblock⟩ := drives_frame.mp hdrives
  have hbytes : received.length = count + 2 := by
    have hbits : (bitsOf received).length = (bitsOf (checked data.toList)).length := by
      rw [hsent, hreceived, List.length_append, List.length_append, List.length_append,
        List.length_append, hlen]
    rw [length_bitsOf, length_bitsOf, checked, List.length_append, Vector.length_toList] at hbits
    have htwo : (crcBytes (crcCcitt data.toList)).length = 2 := rfl
    omega
  have hpoly : (0x1021#16).getLsbD 0 = true := by decide
  have hresidue : feed 0x1021#16 0#16 (bitsOf received) ≠ 0#16 := by
    intro hzero
    refine feed_burst_ne hpoly 0#16 before after hlen hburst hne ?_
    rw [← hsent, ← hreceived, hzero, residue_checked]
  rw [readData_started dst hk hfill htoken]
  exact readBlock_refuses hbytes hblock hresidue

/-- The last bit of `0x12` and the first of `0x34` go wrong. -/
theorem readData_burst_across :
    ∃ c : SdSpiCard, (c.readData #v[0, 0]).1 = false ∧
      (c.readData #v[0, 0]).2.2.errorCode = .readCrc := by
  let bus : SpiBus :=
    { miso := fun i => [dataStartSector, 0x13, 0xB4, 0x13, 0xC6].getD i 0xFF
      polls := fun _ => 0
      selected := true
      log := [] }
  refine ⟨{ bus, spiActive := true, state := .read, status := 0, type := .sdhc, errorCode := .none,
            dedicatedSpi := false, curSector := 0 },
    readData_burst #v[0, 0] #v[0x12, 0x34] [0x13, 0xB4, 0x13, 0xC6] (Nat.le_refl 0) ?_
      ((bitsOf [0x12]).take 7) [false, false] [true, true] ((bitsOf [0x34, 0x13, 0xC6]).drop 1)
      ?_ ?_ rfl (by decide) (by decide)⟩
  · unfold SpiBus.Drives
    decide
  · decide
  · decide

end

/-! ## What the driver sends -/

theorem spiStop_log (c : SdSpiCard) : ∃ es, c.spiStop.bus.log = c.bus.log ++ es := by
  unfold spiStop
  cases c.spiActive with
  | true => exact ⟨[.unselect, .send [0xFF]], List.append_assoc ..⟩
  | false => exact ⟨[], (List.append_nil _).symm⟩

theorem sendBlock_log (token : UInt8) (src : Sector) (b : SpiBus) :
    (sendBlock token src b).log = b.log ++ [.send [token], .send src.toList,
      .send ((crcBytes (crcCcitt src.toList)).take 1),
      .send ((crcBytes (crcCcitt src.toList)).drop 1)] := by
  simp [sendBlock, SpiBus.send]

/-- The card's answer decides. -/
theorem writeToken_eq (token : UInt8) (src : Sector) (c : SdSpiCard) :
    c.writeToken token src =
      let c' := { c with bus := (sendBlock token src c.bus).skip 1, status := c.bus.driven 0 }
      if c.bus.driven 0 &&& dataResMask = dataResAccepted then (true, c')
      else (false, c'.fail .writeData) := by
  have hx : (sendBlock token src c.bus).driven 0 = c.bus.driven 0 := rfl
  unfold writeToken
  simp only [SpiBus.receiveByte_eq, hx, bne_iff_ne, ne_eq, ite_not]

/-- The block with its token and its check, then the end of the exchange. -/
theorem writeToken_log (token : UInt8) (src : Sector) (c : SdSpiCard) :
    ∃ es, (c.writeToken token src).2.bus.log = (sendBlock token src c.bus).log ++ es := by
  rw [writeToken_eq]
  split
  · exact ⟨[.receive [(sendBlock token src c.bus).driven 0]], rfl⟩
  · obtain ⟨es, hes⟩ := spiStop_log (SdSpiCard.error .writeData
      { c with bus := (sendBlock token src c.bus).skip 1, status := c.bus.driven 0 })
    refine ⟨.receive [(sendBlock token src c.bus).driven 0] :: es, ?_⟩
    show _ = _ ++ ([SpiEvent.receive [(sendBlock token src c.bus).driven 0]] ++ es)
    rw [← List.append_assoc]
    exact hes

/-- **Round trip.** The bytes `writeData` sends for a block are the bytes
`readData` takes it from, whatever the two cards have been doing and however long
the second one waits. -/
theorem written_reads_back (writer reader : SdSpiCard) (src dst : Sector) {k : ℕ}
    (hk : k ≤ reader.bus.polls 0)
    (hdrives : reader.bus.Drives (List.replicate k 0xFF
      ++ ((writer.writeToken dataStartSector src).2.bus.log.drop writer.bus.log.length).flatMap
        SpiEvent.sent)) :
    (reader.readData dst).1 = true ∧ (reader.readData dst).2.1 = src := by
  obtain ⟨es, hlog⟩ := writeToken_log dataStartSector src writer
  have hsent : ((writer.writeToken dataStartSector src).2.bus.log.drop
        writer.bus.log.length).flatMap SpiEvent.sent
      = (dataStartSector :: checked src.toList) ++ es.flatMap SpiEvent.sent := by
    rw [hlog, sendBlock_log, List.append_assoc, List.drop_left]
    simp [SpiEvent.sent, checked, crcBytes]
  rw [hsent, ← List.append_assoc, SpiBus.drives_append] at hdrives
  obtain ⟨hfill, htoken, hblock⟩ := drives_frame.mp hdrives.1
  rw [readData_started dst hk hfill htoken, readBlock_accepts]
  exact hblock

/-- A card that answers with what it was sent. -/
theorem written_reads_back_echo :
    ∃ reader : SdSpiCard, (reader.readData (Vector.replicate 512 0)).1 = true ∧
      (reader.readData (Vector.replicate 512 0)).2.1 = Vector.replicate 512 0x55 := by
  let writer : SdSpiCard :=
    { bus := { miso := fun _ => 0, polls := fun _ => 0, selected := true, log := [] }
      spiActive := true, state := .idle, status := 0, type := .sdhc, errorCode := .none
      dedicatedSpi := false, curSector := 0 }
  let sent := (writer.writeToken dataStartSector (Vector.replicate 512 0x55)).2.bus.log.flatMap
    SpiEvent.sent
  refine ⟨{ writer with bus := { writer.bus with miso := fun i => sent[i]?.getD 0 } },
    written_reads_back writer _ _ _ (Nat.le_refl 0) fun i hi => ?_⟩
  have hget : sent[i]? = some sent[i] := List.getElem?_eq_getElem hi
  show sent[i]?.getD 0 = sent[i]
  rw [hget]
  rfl

end SdSpiCard

end Heimdall
