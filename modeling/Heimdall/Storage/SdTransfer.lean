import Heimdall.Storage.SdCommand

/-!
# Sectors of one transfer

The loops of `readSectors` and `writeSectors`. In a transfer that is open at a
sector (`OpenAt`), the `i`-th block that moves is the `i`-th after it
(`readLoop_spec`, `writeLoop_spec`), and a loop that does not reach its end lets
the card go.

A card that has been let go does not drive the line, and the loops fail on it at
their first sector (`readLoop_released`, `writeLoop_released`). That is what keeps
a driver that has lost its place from moving blocks to and from the wrong sectors.
-/

namespace Heimdall

namespace SdSpiCard

variable {c c' : SdSpiCard}

/-! ## Blocks in a transfer -/

/-- These blocks, from this sector on. -/
def blocks (dir : Direction) (addr : UInt32 → UInt32) : UInt32 → List (List UInt8) → List Transfer
  | _, [] => []
  | sector, d :: ds => ⟨dir, addr sector, d⟩ :: blocks dir addr (sector + 1) ds

/-- A transfer is open for the driver, and has got to this sector. -/
structure OpenAt (dir : Direction) (sector : UInt32) (c : SdSpiCard) : Prop where
  head : c.view.head = .transfer dir (c.address sector)
  spiActive : c.spiActive = true
  sound : c.Sound

theorem address_succ (c : SdSpiCard) (sector : UInt32) :
    c.address (sector + 1) = c.address sector + c.stride := by
  unfold address stride
  split
  · apply UInt32.toBitVec_inj.mp
    apply BitVec.eq_of_toNat_eq
    simp [BitVec.toNat_shiftLeft, Nat.shiftLeft_eq]
  · rfl

theorem Still.openAt {dir : Direction} {sector : UInt32} (h : Still c c')
    (hc : OpenAt dir sector c) : OpenAt dir sector c' := by
  refine ⟨?_, h.spiActive.trans hc.spiActive, h.quiet.sound hc.sound⟩
  rw [h.head, hc.head, h.quiet.address]

/-- A block in an open transfer: one event of the right length. -/
theorem view_block {dir : Direction} {sector : UInt32} (hc : OpenAt dir sector c) {bs : List UInt8}
    (hlen : bs.length = 512) {e : SpiEvent}
    (he : ∀ v : CardView, v.event c.stride e = v.block c.stride dir bs) :
    CardView.ofLog c.stride (c.bus.log ++ [e])
      = { head := .transfer dir (c.address (sector + 1))
          transfers := c.view.transfers ++ [⟨dir, c.address sector, bs⟩] } := by
  rw [CardView.ofLog_append, List.foldl_cons, List.foldl_nil, he]
  show CardView.block c.stride dir bs c.view = _
  rw [CardView.block_of_head hc.head hlen, address_succ]

/-- A state that differs by such a block. -/
theorem OpenAt.block {dir : Direction} {sector : UInt32} (hc : OpenAt dir sector c)
    {bs : List UInt8} {c' : SdSpiCard}
    (hview : c'.view = { head := .transfer dir (c.address (sector + 1))
                         transfers := c.view.transfers ++ [⟨dir, c.address sector, bs⟩] })
    (htype : c'.type = c.type) (hcur : c'.curSector = c.curSector)
    (hded : c'.dedicatedSpi = c.dedicatedSpi) (hsel : c'.bus.selected = c.bus.selected)
    (hactive : c'.spiActive = c.spiActive) :
    Moved (blocks dir c.address sector [bs]) c c' ∧ OpenAt dir (sector + 1) c' := by
  have hsound : c'.Sound := by
    refine ⟨by rw [hsel, hactive, hc.sound.selected], ?_⟩
    rw [hview, hactive, hc.spiActive]
    exact iff_of_false CardHead.noConfusion fun h' => Bool.false_ne_true h'.symm
  have hmoved : Moved (blocks dir c.address sector [bs]) c c' :=
    ⟨htype, hcur, hded, fun _ => hsound, congrArg CardView.transfers hview⟩
  refine ⟨hmoved, ?_, hactive.trans hc.spiActive, hsound⟩
  rw [hmoved.address, hview]

theorem succ_add_length (sector : UInt32) {α : Type*} (x : α) (xs : List α) :
    sector + 1 + xs.length.toUInt32 = sector + (x :: xs).length.toUInt32 := by
  rw [List.length_cons, UInt32.add_assoc, UInt32.add_comm 1]
  exact congrArg _ (UInt32.ofNat_add xs.length 1).symm

/-- The data part of a block that is read. -/
theorem readBlock_spec {sector : UInt32} (hc : OpenAt .read sector c) :
    Moved (blocks .read c.address sector [(c.readBlock 512).2.1.toList]) c (c.readBlock 512).2.2 ∧
      (c.readBlock 512).2.2.state = c.state ∧
      ((c.readBlock 512).1 = true → OpenAt .read (sector + 1) (c.readBlock 512).2.2) ∧
      ((c.readBlock 512).1 = false → (c.readBlock 512).2.2.spiActive = false) := by
  have hlog := SpiBus.receive_log 512 c.bus
  have hsel : (c.bus.receive 512).2.selected = c.bus.selected := rfl
  have hcases := readBlock_cases 512 c
  generalize c.bus.receive 512 = r at hlog hsel hcases
  let received : SdSpiCard := { c with bus := r.2 }
  have hview := view_block (e := .receive r.1.toList) hc Vector.length_toList fun _ => rfl
  rw [← hlog] at hview
  have hreceived : received.view = _ := hview
  obtain ⟨hmoved, hopen⟩ := hc.block hreceived rfl rfl rfl hsel rfl
  have hstill := still_skip received 2 r.2.polls 0
  rcases hcases with heq | heq <;> rw [heq]
  · exact ⟨hmoved.then_quiet hstill.quiet, rfl, fun _ => hstill.openAt hopen,
      fun h => absurd h.symm Bool.false_ne_true⟩
  · exact ⟨hmoved.then_quiet (hstill.quiet.trans (fail_quiet _ _)), fail_state _ _,
      fun h => absurd h Bool.false_ne_true, fun _ => fail_spiActive _ _⟩

/-- One sector of a read: nothing moves unless the card answers with a block. -/
theorem readData_spec {sector : UInt32} (hc : OpenAt .read sector c) (dst : Sector) :
    ∃ ds, ds.length ≤ 1 ∧ Moved (blocks .read c.address sector ds) c (c.readData dst).2.2 ∧
      (c.readData dst).2.2.state = c.state ∧
      ((c.readData dst).1 = true →
        OpenAt .read (sector + 1) (c.readData dst).2.2 ∧ ds = [(c.readData dst).2.1.toList]) ∧
      ((c.readData dst).1 = false → (c.readData dst).2.2.spiActive = false) := by
  rcases readData_cases (c := c) dst with ⟨k, -, -, -, heq⟩ | ⟨n, x, code, heq⟩
  · have hstill : Still c
        { c with bus := c.bus.timeout.2.skip (k + 1), status := dataStartSector } :=
      still_skip c (k + 1) _ _
    rw [heq]
    generalize ({ c with bus := c.bus.timeout.2.skip (k + 1), status := dataStartSector }
      : SdSpiCard) = c' at hstill ⊢
    obtain ⟨hmoved, hstate, hopen, hclosed⟩ := readBlock_spec (hstill.openAt hc)
    rw [hstill.quiet.address] at hmoved
    exact ⟨_, Nat.le_of_eq List.length_singleton, hstill.quiet.then_moved hmoved,
      hstate.trans hstill.state, fun h => ⟨hopen h, rfl⟩, hclosed⟩
  · have hstill := still_skip c n c.bus.timeout.2.polls x
    rw [heq]
    exact ⟨[], Nat.zero_le 1, hstill.quiet.trans (fail_quiet _ _), fail_state _ _,
      fun h => absurd h Bool.false_ne_true, fun _ => fail_spiActive _ _⟩

/-- The loop of a read, over any number of sectors. -/
theorem readLoop_spec {sector : UInt32} (hc : OpenAt .read sector c) (dst : List Sector) :
    ∃ ds, ds.length ≤ dst.length ∧
      Moved (blocks .read c.address sector ds) c (readLoop dst c).2.2 ∧
      (readLoop dst c).2.2.state = c.state ∧
      ((readLoop dst c).1
        = true → OpenAt .read (sector + dst.length.toUInt32) (readLoop dst c).2.2 ∧
        ds = (readLoop dst c).2.1.map Vector.toList ∧ ds.length = dst.length) ∧
      ((readLoop dst c).1 = false → (readLoop dst c).2.2.spiActive = false) := by
  induction dst generalizing sector c with
  | nil =>
    have hend : OpenAt .read (sector + ([] : List Sector).length.toUInt32) c := by
      rwa [List.length_nil, show (0 : ℕ).toUInt32 = 0 from rfl, UInt32.add_zero]
    exact ⟨[], Nat.le_refl 0, Quiet.refl c, rfl, fun _ => ⟨hend, rfl, rfl⟩,
      fun h => absurd h.symm Bool.false_ne_true⟩
  | cons d dst ih =>
    obtain ⟨first, hlen, hmoved, hstate, hopen, hclosed⟩ := readData_spec hc d
    unfold readLoop
    generalize c.readData d = r at hmoved hstate hopen hclosed ⊢
    obtain ⟨ok, d', c'⟩ := r
    cases ok with
    | false =>
      exact ⟨first, Nat.le_trans hlen (Nat.succ_le_succ (Nat.zero_le _)), hmoved, hstate,
        fun h => absurd h Bool.false_ne_true, fun _ => hclosed rfl⟩
    | true =>
      obtain ⟨hnext, rfl⟩ := hopen rfl
      obtain ⟨rest, hrlen, hrmoved, hrstate, hropen, hrclosed⟩ := ih hnext
      rw [hmoved.address] at hrmoved
      refine ⟨_ :: rest, Nat.succ_le_succ hrlen, hmoved.trans hrmoved, hrstate.trans hstate,
        fun h => ?_, hrclosed⟩
      obtain ⟨hro, hds, hdslen⟩ := hropen h
      exact ⟨succ_add_length sector d dst ▸ hro, congrArg _ hds, congrArg _ hdslen⟩

/-- A block that is sent: two more bytes for its check, and one for the answer. -/
theorem writeToken_spec {sector : UInt32} (hc : OpenAt .write sector c) (token : UInt8)
    (src : Sector) :
    Moved (blocks .write c.address sector [src.toList]) c (c.writeToken token src).2 ∧
      (c.writeToken token src).2.state = c.state ∧
      ((c.writeToken token src).1 = true → OpenAt .write (sector + 1) (c.writeToken token src).2) ∧
      ((c.writeToken token src).1 = false → (c.writeToken token src).2.spiActive = false) := by
  let begun : SdSpiCard := { c with bus := c.bus.send [token] }
  have hbegun : Still c begun := still_send c token
  let sent : SdSpiCard := { c with bus := begun.bus.send src.toList }
  have hlen : src.toList.length = 512 := Vector.length_toList
  have hview : sent.view = _ := view_block (hbegun.openAt hc) hlen fun v => by
    rw [CardView.event, if_neg (fun h => absurd (hlen.symm.trans h.1) (by decide))]
  obtain ⟨hmoved, hopen⟩ := (hbegun.openAt hc).block hview rfl rfl rfl rfl rfl
  have hmoved' := hbegun.quiet.then_moved hmoved
  obtain ⟨high, low, hcrc⟩ : ∃ high low, crcBytes (crcCcitt src.toList) = [high, low] := ⟨_, _, rfl⟩
  let checked : SdSpiCard := { c with bus := sendBlock token src c.bus }
  have hchecked : Still sent checked := by
    have hhigh := still_send sent high
    have hlow := still_send { sent with bus := sent.bus.send [high] } low
    have hbus : sendBlock token src c.bus = (sent.bus.send [high]).send [low] := by
      simp only [sendBlock, hcrc]
      rfl
    show Still sent { c with bus := sendBlock token src c.bus }
    rw [hbus]
    exact hhigh.trans hlow
  have hstill := hchecked.trans (still_skip checked 1 c.bus.polls (c.bus.driven 0))
  rw [writeToken_eq]
  dsimp only
  split
  · exact ⟨hmoved'.then_quiet hstill.quiet, rfl, fun _ => hstill.openAt hopen,
      fun h => absurd h.symm Bool.false_ne_true⟩
  · exact ⟨hmoved'.then_quiet (hstill.quiet.trans (fail_quiet _ _)), fail_state _ _,
      fun h => absurd h Bool.false_ne_true, fun _ => fail_spiActive _ _⟩

/-- One sector of a write: nothing is sent to a card that stays busy. -/
theorem writeData_spec {sector : UInt32} (hc : OpenAt .write sector c) (src : Sector) :
    ∃ ds, ds <+: [src] ∧
      Moved (blocks .write c.address sector (ds.map Vector.toList)) c (c.writeData src).2 ∧
      (c.writeData src).2.state = c.state ∧
      ((c.writeData src).1 = true → OpenAt .write (sector + 1) (c.writeData src).2 ∧ ds = [src]) ∧
      ((c.writeData src).1 = false → (c.writeData src).2.spiActive = false) := by
  have hready := waitReady_still c
  dsimp only [writeData]
  generalize c.waitReady = w at hready ⊢
  cases hw : w.1 with
  | false =>
    exact ⟨[], List.nil_prefix, hready.quiet.trans (fail_quiet _ _),
      (fail_state _ _).trans hready.state, fun h => absurd h Bool.false_ne_true,
        fun _ => fail_spiActive _ _⟩
  | true =>
    obtain ⟨hmoved, hstate, hopen, hclosed⟩ :=
      writeToken_spec (hready.openAt hc) writeMultipleToken src
    rw [hready.quiet.address] at hmoved
    generalize w.2.writeToken writeMultipleToken src = r at hmoved hstate hopen hclosed ⊢
    refine ⟨[src], List.prefix_refl _, ?_⟩
    cases hr : r.1 with
    | false =>
      exact ⟨hready.quiet.then_moved (hmoved.then_quiet (spiStop_quiet _)),
        (spiStop_state _).trans (hstate.trans hready.state), fun h => absurd h Bool.false_ne_true,
        fun _ => spiStop_spiActive _⟩
    | true =>
      exact ⟨hready.quiet.then_moved hmoved, hstate.trans hready.state, fun _ => ⟨hopen hr, rfl⟩,
        fun h => absurd h.symm Bool.false_ne_true⟩

/-- The loop of a write: some of the sectors, in order, and all of them if it ends
well. -/
theorem writeLoop_spec {sector : UInt32} (hc : OpenAt .write sector c) (src : List Sector) :
    ∃ ds, ds <+: src ∧
      Moved (blocks .write c.address sector (ds.map Vector.toList)) c (writeLoop src c).2 ∧
      (writeLoop src c).2.state = c.state ∧
      ((writeLoop src c).1 = true →
        OpenAt .write (sector + src.length.toUInt32) (writeLoop src c).2 ∧ ds = src) ∧
      ((writeLoop src c).1 = false → (writeLoop src c).2.spiActive = false) := by
  induction src generalizing sector c with
  | nil =>
    have hend : OpenAt .write (sector + ([] : List Sector).length.toUInt32) c := by
      rwa [List.length_nil, show (0 : ℕ).toUInt32 = 0 from rfl, UInt32.add_zero]
    exact ⟨[], List.prefix_refl _, Quiet.refl c, rfl, fun _ => ⟨hend, rfl⟩,
      fun h => absurd h.symm Bool.false_ne_true⟩
  | cons d src ih =>
    obtain ⟨first, hfirst, hmoved, hstate, hopen, hclosed⟩ := writeData_spec hc d
    unfold writeLoop
    generalize c.writeData d = r at hmoved hstate hopen hclosed ⊢
    obtain ⟨ok, c'⟩ := r
    cases ok with
    | false =>
      exact ⟨first, hfirst.trans (List.prefix_append [d] src), hmoved, hstate,
        fun h => absurd h Bool.false_ne_true, fun _ => hclosed rfl⟩
    | true =>
      obtain ⟨hnext, rfl⟩ := hopen rfl
      obtain ⟨rest, hrest, hrmoved, hrstate, hropen, hrclosed⟩ := ih hnext
      rw [hmoved.address] at hrmoved
      refine ⟨d :: rest, (List.prefix_cons_inj d).mpr hrest, hmoved.trans hrmoved,
        hrstate.trans hstate, fun h => ?_, hrclosed⟩
      obtain ⟨hro, hds⟩ := hropen h
      exact ⟨succ_add_length sector d src ▸ hro, congrArg _ hds⟩

/-! ## A card that has been let go -/

section

variable (hc : c.Sound) (hreleased : c.spiActive = false)
include hc hreleased

/-- The line is pulled up. -/
theorem Sound.driven (i : ℕ) : c.bus.driven i = 0xFF :=
  if_neg fun h => Bool.false_ne_true (hreleased.symm.trans (hc.selected.symm.trans h))

theorem readData_released (dst : Sector) :
    (c.readData dst).1 = false ∧ (c.readData dst).2.1 = dst ∧ Quiet c (c.readData dst).2.2 ∧
      (c.readData dst).2.2.state = c.state ∧ (c.readData dst).2.2.spiActive = false ∧
      (c.readData dst).2.2.errorCode = .readTimeout := by
  have hpull (i : ℕ) (_ : i ≤ c.bus.timeout.1) : (c.bus.timeout.2.driven i == 0xFF) = true :=
    beq_iff_eq.mpr (hc.driven hreleased i)
  have hpoll := SpiBus.pollWhile_times_out (p := (· == 0xFF)) hpull
  have hstill := still_skip c (c.bus.timeout.1 + 1) c.bus.timeout.2.polls
    (c.bus.driven c.bus.timeout.1)
  have heq : c.readData dst = (false, dst, SdSpiCard.fail .readTimeout
      { c with
        bus := c.bus.timeout.2.skip (c.bus.timeout.1 + 1)
        status := c.bus.driven c.bus.timeout.1 }) := by
    unfold readData
    simp only [hpoll, Bool.not_false, if_true]
    rfl
  rw [heq]
  exact ⟨rfl, rfl, hstill.quiet.trans (fail_quiet _ _), fail_state _ _, fail_spiActive _ _,
    fail_errorCode _ _⟩

theorem readLoop_released (dst : List Sector) :
    Quiet c (readLoop dst c).2.2 ∧ (readLoop dst c).2.2.state = c.state ∧
      (readLoop dst c).2.2.spiActive = false ∧ ((readLoop dst c).1 = true → dst = []) := by
  cases dst with
  | nil => exact ⟨.refl c, rfl, hreleased, fun _ => rfl⟩
  | cons d dst =>
    obtain ⟨hfail, -, hquiet, hstate, hactive, -⟩ := readData_released hc hreleased d
    unfold readLoop
    generalize c.readData d = r at hfail hquiet hstate hactive ⊢
    obtain ⟨ok, d', c'⟩ := r
    obtain rfl : ok = false := hfail
    exact ⟨hquiet, hstate, hactive, fun h => absurd h Bool.false_ne_true⟩

theorem still_send_released (bs : List UInt8) : Still c { c with bus := c.bus.send bs } := by
  have hhead := hc.released.mpr hreleased
  have hview : ({ c with bus := c.bus.send bs } : SdSpiCard).view = c.view := by
    show CardView.ofLog c.stride (c.bus.log ++ [.send bs]) = _
    rw [CardView.ofLog_append, List.foldl_cons, CardView.event, if_neg fun h => h.2 hhead]
    exact CardView.block_of_released hhead
  exact .of_view rfl rfl rfl rfl rfl rfl hview

theorem writeToken_released (token : UInt8) (src : Sector) :
    (c.writeToken token src).1 = false ∧ Quiet c (c.writeToken token src).2 ∧
      (c.writeToken token src).2.state = c.state ∧
      (c.writeToken token src).2.spiActive = false := by
  let crc := crcCcitt src.toList
  have hsend (d : SdSpiCard) (hd : Still c d) (bs : List UInt8) :
      Still c { d with bus := d.bus.send bs } :=
    hd.trans (still_send_released (hd.quiet.sound hc) (hd.spiActive.trans hreleased) bs)
  have hsent : Still c { c with bus := sendBlock token src c.bus } :=
    hsend _ (hsend _ (hsend _ (hsend c (.refl c) [token]) src.toList) ((crcBytes crc).take 1))
      ((crcBytes crc).drop 1)
  have hstill := hsent.trans (still_skip _ 1 c.bus.polls (c.bus.driven 0))
  rw [writeToken_eq, hc.driven hreleased, if_neg (by decide)]
  rw [hc.driven hreleased] at hstill
  exact ⟨rfl, hstill.quiet.trans (fail_quiet _ _), fail_state _ _, fail_spiActive _ _⟩

theorem writeData_released (src : Sector) :
    (c.writeData src).1 = false ∧ Quiet c (c.writeData src).2 ∧
      (c.writeData src).2.state = c.state ∧ (c.writeData src).2.spiActive = false := by
  have hready := waitReady_still c
  obtain ⟨hfail, hquiet, hstate, hactive⟩ := writeToken_released (hready.quiet.sound hc)
    (hready.spiActive.trans hreleased) writeMultipleToken src
  dsimp only [writeData]
  generalize c.waitReady = w at hready hfail hquiet hstate hactive ⊢
  cases hw : w.1 with
  | false =>
    exact ⟨rfl, hready.quiet.trans (fail_quiet _ _), (fail_state _ _).trans hready.state,
      fail_spiActive _ _⟩
  | true =>
    rw [hfail]
    exact ⟨rfl, (hready.quiet.trans hquiet).trans (spiStop_quiet _),
      (spiStop_state _).trans (hstate.trans hready.state), spiStop_spiActive _⟩

theorem writeLoop_released (src : List Sector) :
    Quiet c (writeLoop src c).2 ∧ (writeLoop src c).2.state = c.state ∧
      (writeLoop src c).2.spiActive = false ∧ ((writeLoop src c).1 = true → src = []) := by
  cases src with
  | nil => exact ⟨.refl c, rfl, hreleased, fun _ => rfl⟩
  | cons d src =>
    obtain ⟨hfail, hquiet, hstate, hactive⟩ := writeData_released hc hreleased d
    dsimp only [writeLoop]
    rw [hfail]
    exact ⟨hquiet, hstate, hactive, fun h => absurd h Bool.false_ne_true⟩

end

end SdSpiCard

end Heimdall
