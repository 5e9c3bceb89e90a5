import Heimdall.Greg.Power
import Heimdall.Lib.WrapClock

/-!
# The soft start

For its first half second `CONTROLLED` opens the valve to at most
`m_regMaxOpenFirstStart`. It knows how long it has been running from the entry
time in its state object, which is set by the event that enters it
(`step_enters`) and by nothing during the stay (`step_stays`), so each entry
starts a half second of its own. The time since is a difference of two counter
readings, so a stay may straddle the wrap.

`soft_start` is the whole story of a stay: whatever came before the entry, and
whatever events fall within the stay.
-/

namespace Heimdall

open EventRun

variable {σ : Type} [SystemStatus σ]

/-! ## The entry time -/

theorem changeState_controlled (stateEntry : UInt32) (g : Greg σ) :
    (g.changeState (.controlled stateEntry)).machine = .controlled g.millis :=
  congrArg StateObj.controlled (g.machine.exitState_frame g).millis

/-- The event that enters `CONTROLLED` is the one whose time it remembers. -/
theorem step_enters {g : Greg σ} (h : FlagsAgree g) {e : Event} (hout : g.mode ≠ .controlled)
    (hin : (step g e).mode = .controlled) : (step g e).machine = .controlled e.millis := by
  cases e with
  | update t p n =>
    -- an update enters no active state
    have hsame := step_active_update h (t := t) (p := p) (n := n) (by rw [hin]; rfl)
    exact absurd (hsame.symm.trans hin) hout
  | arm t | disarm t => exact absurd hin hout
  | execute t arg =>
    have hstep := step_execute h t arg
    generalize step g (.execute t arg) = g' at hstep hin ⊢
    cases hstep with
    | entered new hm hact =>
      have hmode : new.mode = .controlled := (Greg.changeState_mode new _).symm.trans hin
      cases new with
      | controlled stateEntry => exact changeState_controlled stateEntry (g.begin t)
      | _ => exact absurd hmode (by simp [StateObj.mode])
    | shutdown =>
      exact absurd ((Greg.changeState_mode .shutdown _).symm.trans hin) (by simp [StateObj.mode])
    | ignored => exact absurd hin hout
  | extended t commandID arg =>
    have hmachine := (extended_spec (g.begin t) commandID arg).machine
    exact absurd ((congrArg StateObj.mode hmachine).symm.trans hin) hout

/-- No event of the stay changes it. -/
theorem step_stays {g : Greg σ} (h : FlagsAgree g) {e : Event} {s : UInt32}
    (hm : g.machine = .controlled s) (hin : (step g e).mode = .controlled) :
    (step g e).machine = .controlled s := by
  cases e with
  | update t p n =>
    have hact : ((g.begin t).sense p n).update.machine.mode.isActive = true := by
      rw [show ((g.begin t).sense p n).update.machine.mode = .controlled from hin]
      rfl
    exact (update_machine (h.sense t p n) hact).trans hm
  | arm t | disarm t => exact hm
  | execute t arg =>
    have hstep := step_execute h t arg
    generalize step g (.execute t arg) = g' at hstep hin ⊢
    cases hstep with
    | entered new hdef hact =>
      have hmode : g.machine.mode = .default := hdef
      rw [hm] at hmode
      exact absurd hmode (by simp [StateObj.mode])
    | shutdown =>
      exact absurd ((Greg.changeState_mode .shutdown _).symm.trans hin) (by simp [StateObj.mode])
    | ignored => exact hm
  | extended t commandID arg => exact (extended_spec (g.begin t) commandID arg).machine.trans hm

/-- `e` enters `CONTROLLED` from `g`, each of the events `mid` after it leaves
the machine there, and it is armed at the end. -/
structure Stay (g : Greg σ) (e : Event) (mid : List Event) : Prop where
  out : g.mode ≠ .controlled
  entered : (step g e).mode = .controlled
  stays : EachStep step (fun g e => (step g e).mode = .controlled) (step g e) mid
  armed : (run step (step g e) mid).disarmed = false

theorem run_stays {g : Greg σ} (h : Consistent g) {s : UInt32} (hm : g.machine = .controlled s)
    {mid : List Event} (hstay : EachStep step (fun g e => (step g e).mode = .controlled) g mid) :
    Consistent (run step g mid) ∧ (run step g mid).machine = .controlled s := by
  induction mid generalizing g with
  | nil => exact ⟨h, hm⟩
  | cons e mid ih =>
    obtain ⟨hin, hrest⟩ := hstay
    exact ih (step_consistent h e) (step_stays h.flags hm hin) hrest

theorem Stay.machine {g : Greg σ} (h : Consistent g) {e : Event} {mid : List Event}
    (hstay : Stay g e mid) :
    Consistent (run step (step g e) mid) ∧
      (run step (step g e) mid).machine = .controlled e.millis :=
  run_stays (step_consistent h e) (step_enters h.flags hstay.out hstay.entered) hstay.stays

/-! ## The angles of a stay -/

/-- The angle sent `elapsed` milliseconds after the entry, where the law asks
for `angle`. -/
structure SoftStarted (elapsed angle : UInt32) (sent : Int) : Prop where
  first : elapsed < 500 → sent = angleOf (min angle regMaxOpenFirstStart) ∧ 410 ≤ sent ∧ sent ≤ 500
  later : ¬elapsed < 500 → sent = angleOf angle ∧ 410 ≤ sent ∧ sent ≤ 580

/-- The first half second caps the law at 500, which is above its minimum. -/
theorem softStarted_controlAngle {σ : Type} (g : Greg σ) (stateEntry : UInt32) :
    SoftStarted (g.millis - stateEntry) g.nextAngle.1 (angleOf (g.controlAngle stateEntry)) := by
  obtain ⟨hlo, hhi⟩ := g.controlAngle_mem stateEntry
  have hmin : (410 : Int) ≤ angleOf (g.controlAngle stateEntry) := angleOf_le.mpr hlo
  constructor
  · intro hfirst
    have hangle : g.controlAngle stateEntry = min g.nextAngle.1 regMaxOpenFirstStart :=
      if_pos hfirst
    refine ⟨congrArg angleOf hangle, hmin, ?_⟩
    rw [hangle]
    show angleOf (if g.nextAngle.1 ≤ regMaxOpenFirstStart then _ else _) ≤ _
    split
    next hle => exact angleOf_le.mpr hle
    next => exact le_refl (angleOf regMaxOpenFirstStart)
  · intro hlater
    exact ⟨congrArg angleOf (if_neg hlater), hmin, angleOf_le.mpr hhi⟩

/-- What the own move of an armed `CONTROLLED` sends is the only command of the
update stamped with its state. -/
theorem controlled_sends_iff {g : Greg σ} (h : FlagsAgree g) {s : UInt32}
    (hm : g.machine = .controlled s) (hd : g.disarmed = false) (t : UInt32) (p n : ℚ)
    (angle : Int) :
    (∃ c ∈ (step g (.update t p n)).sent, c.2.mode = .controlled ∧ c.1 = angle) ↔
      angle = angleOf (((g.begin t).sense p n).controlAngle s) := by
  have hown : ((g.begin t).sense p n).ownAngle =
      some (angleOf (((g.begin t).sense p n).controlAngle s)) := by
    have hm' : ((g.begin t).sense p n).machine = .controlled s := hm
    rw [Greg.ownAngle, hm']
  have hstamp : ((g.begin t).sense p n).managed.moment.mode = .controlled := by
    show ((g.begin t).sense p n).managed.machine.mode = .controlled
    rw [((g.begin t).sense p n).managed_powerOnly.machine]
    exact congrArg StateObj.mode hm
  constructor
  · intro hsent
    obtain ⟨c, hc, hmode, rfl⟩ := hsent
    cases step_sends h hc with
    | drive hdrive =>
      -- a drive is stamped with a passive state
      have hrest := hdrive.angle
      rw [← hdrive.mode, hmode] at hrest
      exact absurd hrest (by simp [Mode.restAngle])
    | own hd' hangle => exact Option.some.inj (hangle.symm.trans hown)
  · rintro rfl
    exact ⟨_, own_mem_sent h hd hown, hstamp, rfl⟩

/-- Every entry into `CONTROLLED`, every stay after it and every armed update of
the stay: one angle is sent from `CONTROLLED`, the law's, held to 500 while the
counter is less than 500 past the entry. In a stay shorter than the counter's
period that is the first half second. -/
theorem soft_start {g : Greg σ} (h : Reachable g) {e : Event} {mid : List Event}
    (hstay : Stay g e mid) (t : UInt32) (p n : ℚ) :
    (∃! angle : Int, ∃ c ∈ (step (run step (step g e) mid) (.update t p n)).sent,
        c.2.mode = .controlled ∧ c.1 = angle) ∧
      (∀ c ∈ (step (run step (step g e) mid) (.update t p n)).sent, c.2.mode = .controlled →
        SoftStarted (t - e.millis) ((run step (step g e) mid).sense p n).nextAngle.1 c.1) ∧
      ∀ S T : ℕ, S ≤ T → T < S + 2 ^ 32 → e.millis = UInt32.ofNat S → t = UInt32.ofNat T →
        (t - e.millis < 500 ↔ T - S < 500) := by
  obtain ⟨hthere, hmachine⟩ := hstay.machine (reachable_consistent h)
  have hsends := controlled_sends_iff hthere.flags hmachine hstay.armed t p n
  refine ⟨⟨_, (hsends _).mpr rfl, fun angle hangle => (hsends angle).mp hangle⟩, ?_, ?_⟩
  · intro c hc hmode
    have hsoft := softStarted_controlAngle (((run step (step g e) mid).begin t).sense p n) e.millis
    rw [← (hsends c.1).mp ⟨c, hc, hmode, rfl⟩] at hsoft
    -- the law reads the two sensors only
    have hlaw : (((run step (step g e) mid).begin t).sense p n).nextAngle.1 =
        ((run step (step g e) mid).sense p n).nextAngle.1 := Greg.nextAngle_congr rfl rfl
    rw [hlaw] at hsoft
    exact hsoft
  · rintro S T hle hlt hS hT
    rw [hS, hT, UInt32.lt_iff_toNat_lt, WrapClock.toNat_sub_ofNat hle hlt]
    rfl

/-- An entry 296 ms before the counter wraps, and an update 100 ms after: the
valve is held to 500. -/
theorem soft_start_wrapping :
    ∃ c ∈ (step (step (Greg.setup false 0 : Greg StatusWord) (.execute 4294967000 1))
      (.update 100 10 100)).sent, c.2.mode = .controlled ∧ c.1 ≤ 500 := by
  have hstay : Stay (Greg.setup false 0 : Greg StatusWord) (.execute 4294967000 1) [] :=
    ⟨by decide +kernel, by decide +kernel, trivial, by decide +kernel⟩
  have hstory := soft_start (reachable_run (σ := StatusWord) false 0 []) hstay 100 10 100
  obtain ⟨angle, ⟨c, hc, hmode, rfl⟩, -⟩ := hstory.1
  exact ⟨c, hc, hmode, ((hstory.2.1 c hc hmode).first (by decide)).2.2⟩

end Heimdall
