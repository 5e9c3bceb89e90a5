import Heimdall.Lib.EventRun
import Heimdall.Storage.SdTransfer
import Mathlib.Data.List.Induction

/-!
# Sectors over a whole session

`sectors_in_place`: from `begin` on, over any calls and whatever the card answers,
a call moves blocks between its own buffer and the sectors it names, and nothing
else. A card that is not SDHC is addressed by the byte, and from sector `2 ^ 23` on
such an address wraps; below, it is the sector's first byte (`firstByte_address`).
The invariant is `Streaming`: while the card is selected, the transfer the driver
believes it is in is the one the card has open, at the sector in `m_curSector`. A
transfer that fails half way breaks the second half of that, and is kept harmless by
the first, since every failure lets the card go.

`retry_never_succeeds` is the price. `m_state` stays at the read after a failure,
so that the driver takes a second attempt at the same sector for a continuation
and reads from a card that is no longer selected.
-/

namespace Heimdall

namespace SdSpiCard

variable {c c' : SdSpiCard}

/-! ## Whole calls -/

/-- While the card is selected, the transfer the driver believes in is the one the
card has open, at the sector the driver expects. -/
structure Streaming (c : SdSpiCard) : Prop where
  sound : c.Sound
  continues : ∀ dir : Direction, c.state = dir.state → c.spiActive = true →
    c.view.head = .transfer dir (c.address c.curSector)

theorem Settled.streaming (h : c.Settled) (hc : c.Sound) : c.Streaming := by
  refine ⟨hc, fun dir hstate hactive => ?_⟩
  rcases h with hidle | hreleased
  · cases dir <;> exact absurd (hstate.symm.trans hidle) SdState.noConfusion
  · exact absurd (hreleased.symm.trans hactive) Bool.false_ne_true

theorem startTransfer_spec (hc : c.Sound) {cmd : UInt8} (code : SdCardError) {dir : Direction}
    (hcmd : ∀ arg, commandHead (commandFrame cmd arg) = .transfer dir arg) (sector : UInt32) :
    Quiet c (startTransfer cmd code dir.state sector c).2 ∧
      ((startTransfer cmd code dir.state sector c).1 = true →
        (startTransfer cmd code dir.state sector c).2.state = dir.state ∧
          OpenAt dir sector (startTransfer cmd code dir.state sector c).2) ∧
      ((startTransfer cmd code dir.state sector c).1 = false →
        (startTransfer cmd code dir.state sector c).2.spiActive = false) := by
  obtain ⟨hquiet, -, hanswer⟩ := cardCommand_spec cmd (c.address sector) hc
  dsimp only [startTransfer]
  generalize c.cardCommand cmd (c.address sector) = r at hquiet hanswer ⊢
  by_cases hr : r.1 = 0
  · obtain ⟨-, hactive, hhead⟩ := hanswer hr
    have hopen := hquiet.withState dir.state
    rw [if_neg (by simp [hr])]
    refine ⟨hopen, fun _ => ⟨rfl, ?_, hactive, hopen.sound hc⟩,
      fun h => absurd h.symm Bool.false_ne_true⟩
    rw [hopen.address]
    exact hhead.trans (hcmd _)
  · rw [if_pos (bne_iff_ne.mpr hr)]
    exact ⟨hquiet.trans (fail_quiet _ _), fun h => absurd h Bool.false_ne_true,
      fun _ => fail_spiActive _ _⟩

theorem commandHead_cmd18 (arg : UInt32) :
    commandHead (commandFrame cmd18 arg) = .transfer .read arg := by
  rw [commandHead_commandFrame, if_pos rfl]

theorem commandHead_cmd24 (arg : UInt32) :
    commandHead (commandFrame cmd24 arg) = .transfer .write arg := by
  rw [commandHead_commandFrame, if_neg (by decide), if_pos (.inl rfl)]

theorem commandHead_cmd25 (arg : UInt32) :
    commandHead (commandFrame cmd25 arg) = .transfer .write arg := by
  rw [commandHead_commandFrame, if_neg (by decide), if_pos (.inr rfl)]

/-- What a call has done: these blocks have moved, and the driver is ready for the
next one. -/
structure Served (ts : List Transfer) (c c' : SdSpiCard) : Prop where
  type : c'.type = c.type
  transfers : c'.view.transfers = c.view.transfers ++ ts
  streaming : c'.Streaming

theorem Moved.served {ts : List Transfer} (h : Moved ts c c') (hc : c.Sound) (hs : c'.Settled) :
    Served ts c c' :=
  ⟨h.type, h.transfers, hs.streaming (h.sound hc)⟩

/-- In the transfer and at the sector asked for, if the card is still selected. -/
structure Resumed (dir : Direction) (sector : UInt32) (c c' : SdSpiCard) : Prop where
  type : c'.type = c.type
  transfers : c'.view.transfers = c.view.transfers
  sound : c'.Sound
  state : c'.state = dir.state
  curSector : c'.curSector = sector
  openAt : c'.spiActive = true → OpenAt dir sector c'

theorem resume_spec (hc : c.Streaming) {cmd : UInt8} (code : SdCardError) {dir : Direction}
    (hcmd : ∀ arg, commandHead (commandFrame cmd arg) = .transfer dir arg) (sector : UInt32) :
    ((c.resume (startTransfer cmd code dir.state) dir.state sector).1 = true →
        Resumed dir sector c (c.resume (startTransfer cmd code dir.state) dir.state sector).2) ∧
      ((c.resume (startTransfer cmd code dir.state) dir.state sector).1 = false →
        Served [] c (c.resume (startTransfer cmd code dir.state) dir.state sector).2) := by
  unfold resume
  by_cases hgo : (c.state != dir.state || sector != c.curSector) = true
  · obtain ⟨hquiet, hopen, hclosed⟩ := startTransfer_spec hc.sound code hcmd sector
    rw [if_pos hgo]
    dsimp only
    generalize startTransfer cmd code dir.state sector c = r at hquiet hopen hclosed ⊢
    cases hr : r.1 with
    | false =>
      exact ⟨fun h => absurd h Bool.false_ne_true,
        fun _ => hquiet.served hc.sound (.inr (hclosed hr))⟩
    | true =>
      obtain ⟨hstate, hat⟩ := hopen hr
      have hsound := hquiet.sound hc.sound
      have hcur : ({ r.2 with curSector := sector } : SdSpiCard).Sound :=
        ⟨hsound.selected, hsound.released⟩
      refine ⟨fun _ => ⟨hquiet.type, ?_, hcur, hstate, rfl, fun _ => ⟨hat.head, hat.spiActive,
        hcur⟩⟩,
        fun h => absurd h.symm Bool.false_ne_true⟩
      exact hquiet.transfers.trans (List.append_nil _)
  · rw [if_neg hgo]
    rw [Bool.or_eq_true, not_or, bne_iff_ne, bne_iff_ne, not_not, not_not] at hgo
    refine ⟨fun _ => ⟨rfl, rfl, hc.sound, hgo.1, hgo.2.symm, fun hactive => ⟨?_, hactive,
      hc.sound⟩⟩,
      fun h => absurd h.symm Bool.false_ne_true⟩
    rw [hgo.2]
    exact hc.continues dir hgo.1 hactive

/-- What the loop of a transfer leaves behind, if it ends well: the sectors it has
moved, and the transfer open behind the last of them unless the card was let go. -/
structure Advanced (dir : Direction) (ts : List Transfer) (n : ℕ) (c c' : SdSpiCard) : Prop where
  moved : Moved ts c c'
  state : c'.state = dir.state
  openAt : c'.spiActive = true → OpenAt dir (c'.curSector + n.toUInt32) c'

variable {dir : Direction} {sector : UInt32} {ts : List Transfer} {n : ℕ}

/-- The end of a call: the sectors are counted, and the transfer is stopped
unless the bus is dedicated. -/
theorem Advanced.served {d : SdSpiCard} (h : Advanced dir ts n d c') (hd : Resumed dir sector c d) :
    Served ts c { c' with curSector := c'.curSector + n.toUInt32 } := by
  have hsound := h.moved.sound hd.sound
  refine ⟨h.moved.type.trans hd.type, ?_, ⟨hsound.selected, hsound.released⟩, ?_⟩
  · rw [← hd.transfers]
    exact h.moved.transfers
  · intro dir' hstate hactive
    have hdir : dir' = dir := by
      have hsame : dir'.state = dir.state := hstate.symm.trans h.state
      cases dir' <;> cases dir <;> first | rfl | exact absurd hsame SdState.noConfusion
    subst hdir
    exact (h.openAt hactive).head

theorem Served.then_quiet {d : SdSpiCard} (h : Served ts c c') (hq : Quiet c' d) (hs : d.Settled) :
    Served ts c d :=
  ⟨hq.type.trans h.type,
    hq.transfers.trans ((List.append_nil _).trans h.transfers),
    hs.streaming (hq.sound h.streaming.sound)⟩

/-- A loop that does not end well lets the card go. -/
theorem Resumed.served {d : SdSpiCard} (hd : Resumed dir sector c d) (h : Moved ts d c')
    (hreleased : c'.spiActive = false) : Served ts c c' := by
  refine ⟨h.type.trans hd.type, ?_, Settled.streaming (.inr hreleased) (h.sound hd.sound)⟩
  rw [← hd.transfers]
  exact h.transfers

theorem Resumed.address {d : SdSpiCard} (hd : Resumed dir sector c d) : d.address = c.address := by
  funext s
  unfold SdSpiCard.address
  rw [hd.type]

/-- The loop of a read, on a card that is selected or has been let go. -/
theorem Resumed.readLoop {d : SdSpiCard} (hd : Resumed .read sector c d) (dst : List Sector) :
    ∃ ds, ds.length ≤ dst.length ∧
      ((SdSpiCard.readLoop dst d).1 = true →
        Advanced .read (blocks .read c.address sector ds) dst.length d
            (SdSpiCard.readLoop dst d).2.2 ∧
          ds = (SdSpiCard.readLoop dst d).2.1.map Vector.toList ∧ ds.length = dst.length) ∧
      ((SdSpiCard.readLoop dst d).1 = false →
        Served (blocks .read c.address sector ds) c (SdSpiCard.readLoop dst d).2.2) := by
  rw [← hd.address]
  cases hactive : d.spiActive with
  | true =>
    obtain ⟨ds, hlen, hmoved, hstate, hopen, hclosed⟩ := readLoop_spec (hd.openAt hactive) dst
    refine ⟨ds, hlen, fun h => ⟨⟨hmoved, hstate.trans hd.state, fun _ => ?_⟩, (hopen h).2⟩,
      fun h => hd.served hmoved (hclosed h)⟩
    rw [hmoved.curSector, hd.curSector]
    exact (hopen h).1
  | false =>
    obtain ⟨hquiet, hstate, hreleased, hnil⟩ := readLoop_released hd.sound hactive dst
    refine ⟨[], Nat.zero_le _, fun h => ⟨⟨hquiet, hstate.trans hd.state, fun h' => ?_⟩, ?_⟩,
      fun _ => hd.served hquiet hreleased⟩
    · exact absurd (hreleased.symm.trans h') Bool.false_ne_true
    · obtain rfl := hnil h
      exact ⟨rfl, rfl⟩

/-- The loop of a write. -/
theorem Resumed.writeLoop {d : SdSpiCard} (hd : Resumed .write sector c d) (src : List Sector) :
    ∃ ds, ds <+: src ∧
      ((SdSpiCard.writeLoop src d).1 = true →
        Advanced .write (blocks .write c.address sector (ds.map Vector.toList)) src.length d
            (SdSpiCard.writeLoop src d).2 ∧ ds = src) ∧
      ((SdSpiCard.writeLoop src d).1 = false →
        Served (blocks .write c.address sector (ds.map Vector.toList)) c
          (SdSpiCard.writeLoop src d).2) := by
  rw [← hd.address]
  cases hactive : d.spiActive with
  | true =>
    obtain ⟨ds, hprefix, hmoved, hstate, hopen, hclosed⟩ := writeLoop_spec (hd.openAt hactive) src
    refine ⟨ds, hprefix, fun h => ⟨⟨hmoved, hstate.trans hd.state, fun _ => ?_⟩, (hopen h).2⟩,
      fun h => hd.served hmoved (hclosed h)⟩
    rw [hmoved.curSector, hd.curSector]
    exact (hopen h).1
  | false =>
    obtain ⟨hquiet, hstate, hreleased, hnil⟩ := writeLoop_released hd.sound hactive src
    refine ⟨[], List.nil_prefix, fun h => ⟨⟨hquiet, hstate.trans hd.state, fun h' => ?_⟩, ?_⟩,
      fun _ => hd.served hquiet hreleased⟩
    · exact absurd (hreleased.symm.trans h') Bool.false_ne_true
    · exact (hnil h).symm

/-- The sectors of a read come from where they were asked for. -/
theorem readSectors_spec (hc : c.Streaming) (sector : UInt32) (dst : List Sector) :
    ∃ ds, ds.length ≤ dst.length ∧
      Served (blocks .read c.address sector ds) c (c.readSectors sector dst).2.2 ∧
      ((c.readSectors sector dst).1 = true →
        ds = (c.readSectors sector dst).2.1.map Vector.toList ∧ ds.length = dst.length) := by
  obtain ⟨hresumed, hrefused⟩ := resume_spec hc .cmd18 commandHead_cmd18 sector
  have hstart : c.resume readStart .read sector
      = c.resume (startTransfer cmd18 .cmd18 Direction.read.state) Direction.read.state sector :=
        rfl
  dsimp only [readSectors]
  rw [hstart]
  generalize c.resume (startTransfer cmd18 .cmd18 Direction.read.state) Direction.read.state sector
    = r at hresumed hrefused ⊢
  cases hr : r.1 with
  | false => exact ⟨[], Nat.zero_le _, hrefused hr, fun h => absurd h Bool.false_ne_true⟩
  | true =>
    have hd := hresumed hr
    obtain ⟨ds, hlen, hgood, hbad⟩ := hd.readLoop dst
    refine ⟨ds, hlen, ?_⟩
    generalize SdSpiCard.readLoop dst r.2 = l at hgood hbad ⊢
    cases hl : l.1 with
    | false => exact ⟨hbad hl, fun h => absurd h Bool.false_ne_true⟩
    | true =>
      obtain ⟨hadvanced, hds⟩ := hgood hl
      have hserved := hadvanced.served hd
      simp only [Bool.not_true, Bool.false_eq_true, if_false]
      split
      · exact ⟨hserved, fun _ => hds⟩
      · obtain ⟨hquiet, hidle, -⟩ := readStop_spec hserved.streaming.sound
        exact ⟨hserved.then_quiet hquiet (.inl hidle), fun _ => hds⟩

/-- The sectors of a write go where they were meant to. -/
theorem writeSectors_spec (hc : c.Streaming) (sector : UInt32) (src : List Sector) :
    ∃ ds, ds <+: src ∧
      Served (blocks .write c.address sector (ds.map Vector.toList)) c
        (c.writeSectors sector src).2 ∧
      ((c.writeSectors sector src).1 = true → ds = src) := by
  obtain ⟨hresumed, hrefused⟩ := resume_spec hc .cmd25 commandHead_cmd25 sector
  have hstart : c.resume writeStart .write sector = c.resume
      (startTransfer cmd25 .cmd25 Direction.write.state) Direction.write.state sector := rfl
  dsimp only [writeSectors]
  rw [hstart]
  generalize c.resume (startTransfer cmd25 .cmd25 Direction.write.state)
    Direction.write.state sector
    = r at hresumed hrefused ⊢
  cases hr : r.1 with
  | false => exact ⟨[], List.nil_prefix, hrefused hr, fun h => absurd h Bool.false_ne_true⟩
  | true =>
    have hd := hresumed hr
    obtain ⟨ds, hprefix, hgood, hbad⟩ := hd.writeLoop src
    refine ⟨ds, hprefix, ?_⟩
    generalize SdSpiCard.writeLoop src r.2 = l at hgood hbad ⊢
    cases hl : l.1 with
    | false => exact ⟨hbad hl, fun h => absurd h Bool.false_ne_true⟩
    | true =>
      obtain ⟨hadvanced, hds⟩ := hgood hl
      have hserved := hadvanced.served hd
      simp only [Bool.not_true, Bool.false_eq_true, if_false]
      split
      · exact ⟨hserved, fun _ => hds⟩
      · obtain ⟨hquiet, hreleased, -⟩ := writeStop_spec { l.2 with curSector := _ }
        exact ⟨hserved.then_quiet hquiet (.inr hreleased), fun _ => hds⟩

theorem writeSingle_spec (hc : c.Streaming) (sector : UInt32) (src : Sector) :
    ∃ ds, ds <+: [src] ∧
      Served (blocks .write c.address sector (ds.map Vector.toList)) c
        (c.writeSingle sector src).2 ∧
      ((c.writeSingle sector src).1 = true → ds = [src]) := by
  obtain ⟨hquiet, hsettled, hanswer⟩ := cardCommand_spec cmd24 (c.address sector) hc.sound
  dsimp only [writeSingle]
  generalize c.cardCommand cmd24 (c.address sector) = r at hquiet hsettled hanswer ⊢
  by_cases hr : r.1 = 0
  · obtain ⟨-, hactive, hhead⟩ := hanswer hr
    have hopen : OpenAt .write sector r.2 := by
      refine ⟨?_, hactive, hquiet.sound hc.sound⟩
      rw [hhead, commandHead_cmd24, hquiet.address]
    obtain ⟨hmoved, -, -, -⟩ := writeToken_spec hopen dataStartSector src
    rw [hquiet.address] at hmoved
    rw [if_neg (by simp [hr])]
    exact ⟨[src], List.prefix_refl _,
      (hquiet.then_moved (hmoved.then_quiet (spiStop_quiet _))).served
      hc.sound (.inr (spiStop_spiActive _)), fun _ => rfl⟩
  · rw [if_pos (bne_iff_ne.mpr hr)]
    exact ⟨[], List.nil_prefix, (hquiet.trans (fail_quiet _ _)).served hc.sound
      (.inr (fail_spiActive _ _)), fun h => absurd h Bool.false_ne_true⟩

theorem writeSector_spec (hc : c.Streaming) (sector : UInt32) (src : Sector) :
    ∃ ds, ds <+: [src] ∧
      Served (blocks .write c.address sector (ds.map Vector.toList)) c
        (c.writeSector sector src).2 ∧
      ((c.writeSector sector src).1 = true → ds = [src]) := by
  unfold writeSector
  split
  · exact writeSectors_spec hc sector [src]
  · exact writeSingle_spec hc sector src

/-! ## Calls that move no sector -/

theorem syncDevice_served (hc : c.Streaming) : Served [] c c.syncDevice.2 := by
  obtain ⟨hquiet, hsettled, -⟩ := syncDevice_spec hc.sound
  exact hquiet.served hc.sound hsettled

theorem setDedicatedSpi_served (hc : c.Streaming) (value : Bool) :
    Served [] c (c.setDedicatedSpi value).2 := by
  have hsync := syncDevice_served hc
  dsimp only [setDedicatedSpi]
  generalize c.syncDevice = r at hsync ⊢
  split
  · exact hsync
  · exact ⟨hsync.type, hsync.transfers,
      ⟨⟨hsync.streaming.sound.selected, hsync.streaming.sound.released⟩, hsync.streaming.continues⟩⟩

theorem isBusy_served (hc : c.Streaming) : Served [] c c.isBusy.2 := by
  unfold isBusy
  split
  · exact ⟨rfl, (List.append_nil _).symm, hc⟩
  · have hstill := still_skip c.spiStart 1 c.spiStart.bus.polls c.spiStart.status
    have hquiet := (spiStart_quiet c).trans hstill.quiet
    dsimp only
    cases hactive : c.spiActive with
    | true =>
      have hsame : c.spiStart = c := if_pos hactive
      rw [hsame] at hstill
      rw [if_pos rfl, hsame]
      refine ⟨rfl, hstill.quiet.transfers, hstill.quiet.sound hc.sound, fun dir hs ha => ?_⟩
      have hhead := hc.continues dir hs ha
      rw [← hstill.head] at hhead
      exact hhead
    | false =>
      rw [if_neg Bool.false_ne_true]
      exact (hquiet.trans (spiStop_quiet _)).served hc.sound (.inr (spiStop_spiActive _))

/-- A register is no sector. -/
theorem readData_short {count : ℕ} (hcount : count ≠ 512) (dst : Vector UInt8 count)
    (c : SdSpiCard) : Quiet c (c.readData dst).2.2 := by
  have hblock (d : SdSpiCard) : Quiet d (d.readBlock count).2.2 := by
    let received : SdSpiCard := { d with bus := (d.bus.receive count).2 }
    have hlen : (d.bus.receive count).1.toList.length ≠ 512 := by rwa [Vector.length_toList]
    have hview : received.view = d.view := by
      show CardView.ofLog d.stride (d.bus.log ++ [.receive (d.bus.receive count).1.toList]) = _
      rw [CardView.ofLog_append, List.foldl_cons, CardView.event_short_receive hlen]
      rfl
    have hreceived : Still d received := .of_view rfl rfl rfl rfl rfl rfl hview
    have hstill := hreceived.trans (still_skip received 2 d.bus.polls 0)
    rw [readBlock_eq]
    dsimp only
    split
    · exact hstill.quiet
    · exact hstill.quiet.trans (fail_quiet _ _)
  rcases readData_cases (c := c) dst with ⟨k, -, -, -, heq⟩ | ⟨n, x, code, heq⟩
  · rw [heq]
    have hstill : Still c
        { c with bus := c.bus.timeout.2.skip (k + 1), status := dataStartSector } :=
      still_skip c (k + 1) _ _
    exact hstill.quiet.trans (hblock _)
  · rw [heq]
    exact (still_skip c n _ x).quiet.trans (fail_quiet _ _)

theorem readRegister_served (hc : c.Streaming) (cmd : UInt8) (dst : Vector UInt8 16) :
    Served [] c (c.readRegister cmd dst).2.2 := by
  obtain ⟨hquiet, -, -⟩ := cardCommand_spec cmd 0 hc.sound
  dsimp only [readRegister]
  generalize c.cardCommand cmd 0 = r at hquiet ⊢
  split
  · exact (hquiet.trans (fail_quiet _ _)).served hc.sound (.inr (fail_spiActive _ _))
  · have hread := readData_short (by decide) dst r.2
    exact ((hquiet.trans hread).trans (spiStop_quiet _)).served hc.sound
      (.inr (spiStop_spiActive _))

/-! ## Runs -/

end SdSpiCard

/-- A call of the volume on its card. -/
inductive SectorCall where
  | readSector (sector : UInt32) (dst : Sector)
  | readSectors (sector : UInt32) (dst : List Sector)
  | writeSector (sector : UInt32) (src : Sector)
  | writeSectors (sector : UInt32) (src : List Sector)
  | syncDevice
  | isBusy
  | setDedicatedSpi (value : Bool)
  | readRegister (cmd : UInt8) (dst : Vector UInt8 16)

namespace SdSpiCard

variable {c : SdSpiCard}

/-- The call's result, and what it left in `dst`. -/
def perform (c : SdSpiCard) : SectorCall → Bool × List Sector × SdSpiCard
  | .readSector sector dst => c.readSector sector dst
  | .readSectors sector dst => c.readSectors sector dst
  | .writeSector sector src => ((c.writeSector sector src).1, [], (c.writeSector sector src).2)
  | .writeSectors sector src => ((c.writeSectors sector src).1, [], (c.writeSectors sector src).2)
  | .syncDevice => (c.syncDevice.1, [], c.syncDevice.2)
  | .isBusy => (c.isBusy.1, [], c.isBusy.2)
  | .setDedicatedSpi value => ((c.setDedicatedSpi value).1, [], (c.setDedicatedSpi value).2)
  | .readRegister cmd dst => ((c.readRegister cmd dst).1, [], (c.readRegister cmd dst).2.2)

/-- The card after a call. -/
def after (c : SdSpiCard) (call : SectorCall) : SdSpiCard := (c.perform call).2.2

/-- The blocks that have gone over the bus. -/
def transfers (c : SdSpiCard) : List Transfer := c.view.transfers

/-- The byte of the card an address names. Only an SDHC card counts in sectors. -/
def firstByte (c : SdSpiCard) (address : UInt32) : ℕ :=
  if c.type != .sdhc then address.toNat else 512 * address.toNat

/-- The card has addresses for `n` sectors from `sector` on: 4 GiB of them, or as many
sectors. -/
def Addressable (c : SdSpiCard) (sector : UInt32) (n : ℕ) : Prop :=
  sector.toNat + n ≤ if c.type != .sdhc then 0x800000 else 0x100000000

/-- Where on the card a block has gone. -/
def place (c : SdSpiCard) (t : Transfer) : Direction × ℕ × List UInt8 :=
  (t.direction, c.firstByte t.address, t.data)

/-- These blocks, in the card's sectors from this one on. -/
def inSectors (dir : Direction) : ℕ → List (List UInt8) → List (Direction × ℕ × List UInt8)
  | _, [] => []
  | sector, d :: ds => (dir, 512 * sector, d) :: inSectors dir (sector + 1) ds

/-- A sector's address does not wrap. -/
theorem firstByte_address {sector : UInt32} (h : c.Addressable sector 1) :
    c.firstByte (c.address sector) = 512 * sector.toNat := by
  unfold Addressable at h
  unfold firstByte address
  split
  · rename_i hbyte
    rw [if_pos hbyte] at h
    rw [UInt32.toNat_shiftLeft, Nat.shiftLeft_eq]
    show sector.toNat * 2 ^ 9 % 2 ^ 32 = _
    omega
  · rfl

theorem place_blocks (dir : Direction) {sector : UInt32} {ds : List (List UInt8)}
    (h : c.Addressable sector ds.length) :
    (blocks dir c.address sector ds).map c.place = inSectors dir sector.toNat ds := by
  induction ds generalizing sector with
  | nil => rfl
  | cons d ds ih =>
    have hfits : sector.toNat + 1 + ds.length ≤ 0x100000000 := by
      unfold Addressable at h
      rw [List.length_cons] at h
      split at h <;> omega
    rw [blocks, inSectors, List.map_cons, place,
      firstByte_address (Nat.le_trans (by simp) h)]
    cases ds with
    | nil => rfl
    | cons d' ds =>
      have hsucc : (sector + 1).toNat = sector.toNat + 1 := by
        rw [List.length_cons] at hfits
        rw [UInt32.toNat_add]
        exact Nat.mod_eq_of_lt (by show sector.toNat + 1 < 0x100000000; omega)
      have hrest : c.Addressable (sector + 1) (d' :: ds).length := by
        unfold Addressable at h ⊢
        rw [hsucc]
        simp only [List.length_cons] at h ⊢
        omega
      rw [ih hrest, hsucc]

/-- The blocks a read moved come from the sectors asked for, in order; a read that
succeeds has moved them all and returns them. -/
def ReadsRight (c : SdSpiCard) (sector : UInt32) (n : ℕ) (r : Bool × List Sector × SdSpiCard) :
    Prop :=
  ∃ (ds : List (List UInt8)) (ts : List Transfer), ds.length ≤ n ∧
    r.2.2.transfers = c.transfers ++ ts ∧ ts.map c.place = inSectors .read sector.toNat ds ∧
    (r.1 = true → ds = r.2.1.map Vector.toList ∧ ds.length = n)

/-- The blocks a write moved are the first of those it was given, and go to the
sectors it was given; a write that succeeds has moved them all. -/
def WritesRight (c : SdSpiCard) (sector : UInt32) (src : List Sector) (r : Bool × SdSpiCard) :
    Prop :=
  ∃ (ds : List Sector) (ts : List Transfer), ds <+: src ∧
    r.2.transfers = c.transfers ++ ts ∧
    ts.map c.place = inSectors .write sector.toNat (ds.map Vector.toList) ∧
    (r.1 = true → ds = src)

/-- Which blocks a call may move, if the card has addresses for its sectors. -/
def MovesRight (c : SdSpiCard) (call : SectorCall) : Prop :=
  match call with
  | .readSector sector dst =>
    c.Addressable sector 1 → c.ReadsRight sector 1 (c.readSector sector dst)
  | .readSectors sector dst =>
    c.Addressable sector dst.length → c.ReadsRight sector dst.length (c.readSectors sector dst)
  | .writeSector sector src =>
    c.Addressable sector 1 → c.WritesRight sector [src] (c.writeSector sector src)
  | .writeSectors sector src =>
    c.Addressable sector src.length → c.WritesRight sector src (c.writeSectors sector src)
  | _ => (c.after call).transfers = c.transfers

theorem Addressable.of_le {sector : UInt32} {m n : ℕ} (h : c.Addressable sector n) (hle : m ≤ n) :
    c.Addressable sector m := Nat.le_trans (Nat.add_le_add_left hle _) h

theorem readSectors_right (hc : c.Streaming) (sector : UInt32) (dst : List Sector) :
    (c.Addressable sector dst.length →
      c.ReadsRight sector dst.length (c.readSectors sector dst)) ∧
      (c.readSectors sector dst).2.2.Streaming := by
  obtain ⟨ds, hlen, hserved, hgood⟩ := readSectors_spec hc sector dst
  exact ⟨fun haddr => ⟨ds, _, hlen, hserved.transfers, place_blocks .read (haddr.of_le hlen), hgood⟩,
    hserved.streaming⟩

/-- A write moves the first of its blocks. -/
theorem writesRight_of_served {sector : UInt32} {src ds : List Sector} {r : Bool × SdSpiCard}
    (hfront : ds <+: src)
    (hserved : Served (blocks .write c.address sector (ds.map Vector.toList)) c r.2)
    (hgood : r.1 = true → ds = src) (haddr : c.Addressable sector src.length) :
    c.WritesRight sector src r := by
  refine ⟨ds, _, hfront, hserved.transfers, place_blocks .write (haddr.of_le ?_), hgood⟩
  rw [List.length_map]
  exact hfront.length_le

theorem writeSectors_right (hc : c.Streaming) (sector : UInt32) (src : List Sector) :
    (c.Addressable sector src.length → c.WritesRight sector src (c.writeSectors sector src)) ∧
      (c.writeSectors sector src).2.Streaming := by
  obtain ⟨ds, hprefix, hserved, hgood⟩ := writeSectors_spec hc sector src
  exact ⟨writesRight_of_served hprefix hserved hgood, hserved.streaming⟩

/-- One call, from any state the driver can be in. -/
theorem perform_right (hc : c.Streaming) (call : SectorCall) :
    c.MovesRight call ∧ (c.after call).Streaming := by
  have hnone {c' : SdSpiCard} (h : Served [] c c') :
      c'.transfers = c.transfers ∧ c'.Streaming :=
    ⟨h.transfers.trans (List.append_nil _), h.streaming⟩
  cases call with
  | readSector sector dst => exact readSectors_right hc sector [dst]
  | readSectors sector dst => exact readSectors_right hc sector dst
  | writeSector sector src =>
    obtain ⟨ds, hprefix, hserved, hgood⟩ := writeSector_spec hc sector src
    exact ⟨writesRight_of_served hprefix hserved hgood, hserved.streaming⟩
  | writeSectors sector src => exact writeSectors_right hc sector src
  | syncDevice => exact hnone (syncDevice_served hc)
  | isBusy => exact hnone (isBusy_served hc)
  | setDedicatedSpi value => exact hnone (setDedicatedSpi_served hc value)
  | readRegister cmd dst => exact hnone (readRegister_served hc cmd dst)

/-! ## A card that has been started -/

/-- Whether the card is selected does not depend on how it is addressed. -/
theorem released_iff (stride stride' : UInt32) (log : List SpiEvent) :
    (CardView.ofLog stride log).head = .released ↔ (CardView.ofLog stride' log).head
      = .released := by
  induction log using List.reverseRecOn with
  | nil => exact Iff.rfl
  | append_singleton log e ih =>
    rw [CardView.ofLog_append, CardView.ofLog_append, List.foldl_cons, List.foldl_cons,
      List.foldl_nil, List.foldl_nil, CardView.event_released, CardView.event_released, ih]

/-- In no transfer. -/
structure Ready (c : SdSpiCard) : Prop where
  sound : c.Sound
  state : c.state = .idle

theorem Ready.cardCommand (h : c.Ready) (cmd : UInt8) (arg : UInt32) :
    (c.cardCommand cmd arg).2.Ready := by
  have hsync : c.syncDevice = (true, c) := by
    unfold syncDevice
    rw [h.state]
  obtain ⟨hquiet, hstate, -, -⟩ := transact_spec cmd arg h.sound
  unfold SdSpiCard.cardCommand
  rw [hsync]
  exact ⟨hquiet.sound h.sound, hstate.trans h.state⟩

theorem Ready.of_still (h : c.Ready) (h' : Still c c') : c'.Ready :=
  ⟨h'.quiet.sound h.sound, h'.state.trans h.state⟩

theorem Ready.fail (h : c.Ready) (code : SdCardError) : (c.fail code).Ready :=
  ⟨(fail_quiet code c).sound h.sound, (fail_state code c).trans h.state⟩

theorem Ready.spiStop (h : c.Ready) : c.spiStop.Ready :=
  ⟨(spiStop_quiet c).sound h.sound, (spiStop_state c).trans h.state⟩

theorem Ready.withType (h : c.Ready) (type : SdCardType) : ({ c with type } : SdSpiCard).Ready :=
  ⟨⟨h.sound.selected, (released_iff _ _ _).trans h.sound.released⟩, h.state⟩

theorem Ready.resetLoop (h : c.Ready) (polls : ℕ) : (SdSpiCard.resetLoop polls c).2.2.Ready := by
  induction polls generalizing c with
  | zero =>
    unfold SdSpiCard.resetLoop
    dsimp only
    split <;> exact h.cardCommand cmd0 0
  | succ polls ih =>
    unfold SdSpiCard.resetLoop
    dsimp only
    split
    · exact h.cardCommand cmd0 0
    · exact ih (h.cardCommand cmd0 0)

/-- The four bytes after the answer to CMD8. -/
theorem Ready.receive (h : c.Ready) (n : ℕ) (x : UInt8) :
    ({ c with bus := (c.bus.discard n).receiveByte.2, status := x } : SdSpiCard).Ready := by
  have hbus : (c.bus.discard n).receiveByte.2 = c.bus.skip (n + 1) := by
    rw [SpiBus.discard_eq_skip, SpiBus.receiveByte_eq, SpiBus.skip_skip]
  rw [hbus]
  exact h.of_still (still_skip c (n + 1) c.bus.polls x)

theorem Ready.versionLoop (h : c.Ready) (polls : ℕ) :
    (SdSpiCard.versionLoop polls c).2.2.Ready := by
  induction polls generalizing c with
  | zero =>
    have hcmd := h.cardCommand cmd8 0x1AA
    unfold SdSpiCard.versionLoop
    dsimp only
    split
    · exact hcmd.withType .sd1
    · split
      · exact (hcmd.receive 3 _).withType .sd2
      · exact hcmd.receive 3 _
  | succ polls ih =>
    have hcmd := h.cardCommand cmd8 0x1AA
    unfold SdSpiCard.versionLoop
    dsimp only
    split
    · exact hcmd.withType .sd1
    · split
      · exact (hcmd.receive 3 _).withType .sd2
      · exact ih (hcmd.receive 3 _)

theorem Ready.readyLoop (h : c.Ready) (arg : UInt32) (polls : ℕ) :
    (SdSpiCard.readyLoop arg polls c).2.Ready := by
  have hacmd (d : SdSpiCard) (hd : d.Ready) : (d.cardAcmd acmd41 arg).2.Ready :=
    (hd.cardCommand cmd55 0).cardCommand acmd41 arg
  induction polls generalizing c with
  | zero =>
    unfold SdSpiCard.readyLoop
    dsimp only
    split <;> exact hacmd c h
  | succ polls ih =>
    unfold SdSpiCard.readyLoop
    dsimp only
    split
    · exact hacmd c h
    · exact ih (hacmd c h)

theorem Ready.capacity (h : c.Ready) : c.capacity.2.Ready := by
  unfold SdSpiCard.capacity
  dsimp only
  split
  · have hcmd := h.cardCommand cmd58 0
    split
    · exact hcmd.fail .cmd58
    · have hbus : ((c.cardCommand cmd58 0).2.bus.receiveByte.2.discard 3)
          = (c.cardCommand cmd58 0).2.bus.skip 4 := by
        rw [SpiBus.receiveByte_eq, SpiBus.discard_eq_skip, SpiBus.skip_skip]
      rw [hbus]
      have hocr := hcmd.of_still (still_skip _ 4 (c.cardCommand cmd58 0).2.bus.polls
        (c.cardCommand cmd58 0).2.status)
      exact (hocr.withType _).spiStop
  · exact h.spiStop

theorem Ready.timeout (h : c.Ready) : ({ c with bus := c.bus.timeout.2 } : SdSpiCard).Ready :=
  ⟨⟨h.sound.selected, h.sound.released⟩, h.state⟩

theorem powerUp_ready (c : SdSpiCard) : c.powerUp.Ready := by
  let started : SdSpiCard :=
    { c.initSharedSpiCard with errorCode := .none, bus := c.bus.select false }
  have hstate : started.spiStart.state = .idle := spiStart_state started
  have hactive : started.spiStart.spiActive = true := spiStart_spiActive started
  unfold powerUp
  dsimp only
  change SdSpiCard.Ready { started.spiStart with bus := _ }
  generalize started.spiStart = d at hstate hactive
  refine ⟨⟨?_, ?_⟩, hstate⟩
  · exact hactive.symm
  · -- the last thing on the bus is the card being selected
    refine iff_of_false ?_ fun h => Bool.false_ne_true (h.symm.trans hactive)
    show (CardView.ofLog _ (((d.bus.select false).discard 10).log ++ [.select])).head ≠ _
    rw [CardView.ofLog_append]
    exact CardHead.noConfusion

theorem Ready.negotiate (h : c.Ready) (polls : ℕ) : (SdSpiCard.negotiate polls c).2.Ready := by
  have hreset := h.resetLoop polls
  unfold SdSpiCard.negotiate
  dsimp only
  generalize SdSpiCard.resetLoop polls c = r at hreset ⊢
  split
  · exact hreset.fail .cmd0
  · have hcrc := hreset.cardCommand cmd59 1
    generalize r.2.2.cardCommand cmd59 1 = q at hcrc ⊢
    split
    · exact hcrc.fail .cmd59
    · have hversion := hcrc.versionLoop r.2.1
      generalize SdSpiCard.versionLoop r.2.1 q.2 = v at hversion ⊢
      generalize (if v.2.2.type == .sd2 then (0x40000000 : UInt32) else 0) = arg
      split
      · exact hversion.fail .cmd8
      · have hready := hversion.readyLoop arg v.2.1
        split
        · exact hready.fail .acmd41
        · exact hready.capacity

/-- The driver is in no transfer when `begin` ends, however it ends. -/
theorem begin_streaming (dedicated : Bool) (c : SdSpiCard) : (c.begin dedicated).2.Streaming := by
  have hshared : c.sharedBegin.2.Ready := c.powerUp_ready.timeout.negotiate _
  have hready : (c.begin dedicated).2.Ready := by
    unfold begin
    dsimp only
    split
    · exact hshared
    · exact ⟨⟨hshared.sound.selected, hshared.sound.released⟩, hshared.state⟩
  exact Settled.streaming (.inl hready.state) hready.sound

theorem syncDevice_state (hc : c.Sound) : c.syncDevice.2.state ≠ .read := by
  unfold syncDevice
  cases hstate : c.state with
  | idle =>
    rw [hstate]
    exact SdState.noConfusion
  | read =>
    obtain ⟨-, hidle, -⟩ := readStop_spec hc
    rw [hidle]
    exact SdState.noConfusion
  | write =>
    have hwait := (waitReady_still c).state.trans hstate
    dsimp only [writeStop]
    split
    · rw [fail_state, hwait]
      exact SdState.noConfusion
    · exact SdState.noConfusion

/-- A transfer that could not be started is not the one the driver is in. -/
theorem startTransfer_refused (hc : c.Sound) (cmd : UInt8) (code : SdCardError) (state : SdState)
    (sector : UInt32) (h : (startTransfer cmd code state sector c).1 = false) :
    (startTransfer cmd code state sector c).2.state ≠ .read := by
  have hcommand : (c.cardCommand cmd (c.address sector)).2.state ≠ .read := by
    have hsync := syncDevice_state hc
    obtain ⟨hquiet, -, -⟩ := syncDevice_spec hc
    dsimp only [cardCommand]
    split
    · exact hsync
    · obtain ⟨-, hstate, -, -⟩ := transact_spec cmd (c.address sector) (hquiet.sound hc)
      rw [hstate]
      exact hsync
  dsimp only [startTransfer] at h ⊢
  generalize c.cardCommand cmd (c.address sector) = r at h hcommand ⊢
  by_cases hr : (r.1 != 0) = true
  · rw [if_pos hr, fail_state]
    exact hcommand
  · rw [if_neg hr] at h
    exact absurd h.symm Bool.false_ne_true

/-- Let go in the middle of a read at this sector. -/
structure Stuck (sector : UInt32) (c : SdSpiCard) : Prop where
  sound : c.Sound
  state : c.state = .read
  curSector : c.curSector = sector
  released : c.spiActive = false

/-- The driver takes the transfer for one it can go on in, and reads from a card
that is not listening. -/
theorem Stuck.retry (h : Stuck sector c) (d : Sector) (ds : List Sector) :
    (c.readSectors sector (d :: ds)).1 = false ∧
      (c.readSectors sector (d :: ds)).2.2.errorCode = .readTimeout ∧
      (c.readSectors sector (d :: ds)).2.2.transfers = c.transfers ∧
      Stuck sector (c.readSectors sector (d :: ds)).2.2 := by
  obtain ⟨hfail, -, hquiet, hstate, hreleased, herror⟩ := readData_released h.sound h.released d
  have hresume : c.resume readStart .read sector = (true, c) := by
    unfold resume
    rw [h.state, h.curSector, if_neg (by simp)]
  have hloop : SdSpiCard.readLoop (d :: ds) c = (false, (c.readData d).2.1 :: ds,
      (c.readData d).2.2) := by
    dsimp only [SdSpiCard.readLoop]
    rw [hfail]
    rfl
  have hcall : c.readSectors sector (d :: ds)
      = (false, (c.readData d).2.1 :: ds, (c.readData d).2.2) := by
    dsimp only [readSectors]
    rw [hresume, hloop]
    rfl
  rw [hcall]
  exact ⟨rfl, herror, hquiet.transfers.trans (List.append_nil _), hquiet.sound h.sound,
    hstate.trans h.state, hquiet.curSector.trans h.curSector, hreleased⟩

/-- What a loop that fails leaves behind. -/
theorem Resumed.stuck {d : SdSpiCard} (hd : Resumed .read sector c d) (dst : List Sector) :
    (SdSpiCard.readLoop dst d).2.2.Sound ∧
      ((SdSpiCard.readLoop dst d).1 = false → Stuck sector (SdSpiCard.readLoop dst d).2.2) := by
  cases hactive : d.spiActive with
  | true =>
    obtain ⟨ds, -, hmoved, hstate, -, hclosed⟩ := readLoop_spec (hd.openAt hactive) dst
    have hsound := hmoved.sound hd.sound
    exact ⟨hsound, fun h => ⟨hsound, hstate.trans hd.state, hmoved.curSector.trans hd.curSector,
      hclosed h⟩⟩
  | false =>
    obtain ⟨hquiet, hstate, hreleased, -⟩ := readLoop_released hd.sound hactive dst
    have hsound := hquiet.sound hd.sound
    exact ⟨hsound, fun _ => ⟨hsound, hstate.trans hd.state, hquiet.curSector.trans hd.curSector,
      hreleased⟩⟩

/-- A read that fails in its transfer leaves the driver so. -/
theorem readSectors_stuck (hc : c.Streaming) (sector : UInt32) (dst : List Sector)
    (hfail : (c.readSectors sector dst).1 = false)
    (hread : (c.readSectors sector dst).2.2.state = .read) :
    Stuck sector (c.readSectors sector dst).2.2 := by
  have hresumed : (c.resume readStart .read sector).1 = true →
      Resumed .read sector c (c.resume readStart .read sector).2 :=
    (resume_spec hc .cmd18 commandHead_cmd18 sector).1
  have hrefused : (c.resume readStart .read sector).1 = false →
      (c.resume readStart .read sector).2.state ≠ .read := by
    have hstart := startTransfer_refused hc.sound cmd18 .cmd18 .read sector
    dsimp only [resume]
    split
    · split
      · rename_i hnot
        exact fun _ => hstart ((Bool.not_eq_true' _).mp hnot)
      · exact fun h => absurd h.symm Bool.false_ne_true
    · exact fun h => absurd h.symm Bool.false_ne_true
  dsimp only [readSectors] at hfail hread ⊢
  generalize c.resume readStart .read sector = r at hresumed hrefused hfail hread ⊢
  cases hr : r.1 with
  | false =>
    simp only [hr, Bool.not_false, if_true] at hread
    exact absurd hread (hrefused hr)
  | true =>
    obtain ⟨hsound, hstuck⟩ := (hresumed hr).stuck dst
    simp only [hr, Bool.not_true, Bool.false_eq_true, if_false] at hfail hread ⊢
    generalize SdSpiCard.readLoop dst r.2 = l at hsound hstuck hfail hread ⊢
    cases hl : l.1 with
    | false =>
      simp only [Bool.not_false, if_true]
      exact hstuck hl
    | true =>
      -- the loop ends well, so that only stopping the transfer can have failed
      simp only [hl, Bool.not_true, Bool.false_eq_true, if_false] at hfail hread
      split at hfail
      · exact absurd hfail.symm Bool.false_ne_true
      · rename_i hshared
        rw [if_neg hshared] at hread
        obtain ⟨-, hidle, -⟩ := readStop_spec
          (c := { l.2.2 with curSector := l.2.2.curSector + dst.length.toUInt32 })
          ⟨hsound.selected, hsound.released⟩
        exact absurd (hidle.symm.trans hread) SdState.noConfusion

/-- **A read that failed cannot be repeated.** When a read fails in its transfer,
every further read of that sector fails with a timeout without the card being
asked, whatever the card would answer, for as long as nothing else is asked of
the driver. -/
theorem retry_never_succeeds (dedicated : Bool) (c : SdSpiCard) (calls : List SectorCall)
    (sector : UInt32) (dst : List Sector)
    (hfail : ((EventRun.run after (c.begin dedicated).2 calls).readSectors sector dst).1 = false)
    (hread : ((EventRun.run after (c.begin dedicated).2 calls).readSectors sector dst).2.2.state
      = .read) (retries : List (Sector × List Sector)) :
    EventRun.EachStep (fun d e => (d.readSectors sector (e.1 :: e.2)).2.2)
      (fun d e => (d.readSectors sector (e.1 :: e.2)).1 = false ∧
        (d.readSectors sector (e.1 :: e.2)).2.2.errorCode = .readTimeout ∧
        (d.readSectors sector (e.1 :: e.2)).2.2.transfers = d.transfers)
      ((EventRun.run after (c.begin dedicated).2 calls).readSectors sector dst).2.2 retries := by
  have hstreaming : (EventRun.run after (c.begin dedicated).2 calls).Streaming :=
    EventRun.run_keeps (P := Streaming) (fun d call hd => (perform_right hd call).2)
      (begin_streaming dedicated c) calls
  refine EventRun.EachStep.of_invariant (J := Stuck sector) (fun d e hd => ?_)
    (readSectors_stuck hstreaming sector dst hfail hread) retries
  obtain ⟨hagain, herror, hmoved, hstuck⟩ := hd.retry e.1 e.2
  exact ⟨⟨hagain, herror, hmoved⟩, hstuck⟩

/-- A card that accepts CMD18 and then sends nothing. -/
theorem retry_never_succeeds_silent :
    ∃ c : SdSpiCard, EventRun.EachStep (fun d e => (d.readSectors 7 (e.1 :: e.2)).2.2)
      (fun d e => (d.readSectors 7 (e.1 :: e.2)).1 = false ∧
        (d.readSectors 7 (e.1 :: e.2)).2.2.errorCode = .readTimeout ∧
        (d.readSectors 7 (e.1 :: e.2)).2.2.transfers = d.transfers)
      c [(Vector.replicate 512 0, []), (Vector.replicate 512 0, [Vector.replicate 512 0])] := by
  let silent : SdSpiCard :=
    { bus := { miso := fun i => if i = 13 then 0x00 else 0xFF
               polls := fun _ => 0
               selected := false
               log := [] }
      spiActive := false, state := .idle, status := 0, type := .unknown, errorCode := .none
      dedicatedSpi := false, curSector := 0 }
  exact ⟨_, retry_never_succeeds false silent [] 7 [Vector.replicate 512 0]
    (by decide +kernel) (by decide +kernel) _⟩

end SdSpiCard

end Heimdall
