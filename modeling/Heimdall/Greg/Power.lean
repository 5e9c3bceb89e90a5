import Heimdall.Greg.Servo

/-!
# Whether the servo has power

`buckManager` is the only place the buck is switched off, once the off-deadline
has passed, and the states ask for power by moving that deadline: an active
state to "never", a passive one to two seconds ahead. The periodic refresh
moves it too, to one second ahead, whatever state the machine is in.

So power is lost in the active states one second after a refresh
(`powered_iff`), and a drive loses its two seconds when a refresh falls inside
them, or has no power to begin with, since no passive state turns the buck on
(`held_iff`).
-/

namespace Heimdall

open EventRun

variable {σ : Type} [SystemStatus σ]

/-! ## The active states -/

/-- An update that ends in an active state leaves the buck on. -/
def Powered (g : Greg σ) (e : Event) : Prop :=
  e.isUpdate = true → (step g e).mode.isActive = true → (step g e).buckEN = true

/-- An update that ends in an active state finds the off-deadline passed, and
no refresh due. -/
def CutsActive (g : Greg σ) : Event → Prop
  | .update t p n =>
    (g.mode.next (g.cue (.update t p n))).isActive = true ∧
      ¬(g.begin t).refreshDue ∧ (g.begin t).deadlinePassed
  | _ => False

/-- With the buck on, an update keeps it on unless it takes that branch. -/
theorem powerAt_eq {σ : Type} {g : Greg σ} (hon : g.buckEN = true) (t : UInt32) (p n : ℚ) :
    g.powerAt (.update t p n) = true ↔ ¬(¬(g.begin t).refreshDue ∧ (g.begin t).deadlinePassed) := by
  show (if (g.begin t).refreshDue then true
    else if (g.begin t).deadlinePassed then false else g.buckEN) = true ↔ _
  rw [hon]
  by_cases hr : (g.begin t).refreshDue
  · rw [if_pos hr]
    exact iff_of_true rfl fun hcut => hcut.1 hr
  · rw [if_neg hr]
    by_cases hp : (g.begin t).deadlinePassed
    · rw [if_pos hp]
      exact iff_of_false (by decide) fun hnot => hnot ⟨hr, hp⟩
    · rw [if_neg hp]
      exact iff_of_true rfl fun hcut => hp hcut.2

/-- An update ends in an active state only if it began in it. -/
theorem step_active_update {g : Greg σ} (h : FlagsAgree g) {t : UInt32} {p n : ℚ}
    (hact : (step g (.update t p n)).mode.isActive = true) :
    (step g (.update t p n)).mode = g.mode := by
  rw [step_mode h] at hact ⊢
  exact Mode.onUpdate_active hact

theorem powered_iff_step {g : Greg σ} (h : FlagsAgree g)
    (hon : g.mode.isActive = true → g.buckEN = true) (e : Event) :
    Powered g e ↔ ¬CutsActive g e := by
  cases e with
  | update t p n =>
    have hcuts : CutsActive g (.update t p n) ↔ (step g (.update t p n)).mode.isActive = true ∧
        ¬(g.begin t).refreshDue ∧ (g.begin t).deadlinePassed := by
      rw [step_mode h]
      exact Iff.rfl
    unfold Powered
    rw [step_buckEN_update h, hcuts]
    have hbuck (hact : (step g (.update t p n)).mode.isActive = true) : g.buckEN = true := by
      rw [step_active_update h hact] at hact
      exact hon hact
    constructor
    · intro hpow hcut
      exact (powerAt_eq (hbuck hcut.1) t p n).mp (hpow rfl hcut.1) hcut.2
    · intro hnot _ hact
      exact (powerAt_eq (hbuck hact) t p n).mpr fun hcut => hnot ⟨hact, hcut⟩
  | _ => exact iff_of_true (fun he => absurd he (by simp [Event.isUpdate])) id

/-- The buck is on in every active state of a run that never takes the branch. -/
theorem active_buckEN_step {g : Greg σ} (h : FlagsAgree g)
    (hon : g.mode.isActive = true → g.buckEN = true) {e : Event} (hpow : Powered g e) :
    (step g e).mode.isActive = true → (step g e).buckEN = true := by
  intro hact
  cases he : e.isUpdate with
  | true => exact hpow he hact
  | false =>
    rw [(step_command h he).buckEN]
    -- a command leaves the state alone or enters an active one
    by_cases hstay : (step g e).mode = g.mode
    · rw [hstay] at hact
      exact Or.inl (hon hact)
    · exact Or.inr ⟨hstay, hact⟩

/-- A run has power in its active states exactly when no update in one finds
the off-deadline of a refresh passed. -/
theorem powered_iff (disarmed : Bool) (now : UInt32) (es : List Event) :
    EachStep step Powered (Greg.setup disarmed now : Greg σ) es ↔
      EachStep step (fun g e => ¬CutsActive g e) (Greg.setup disarmed now : Greg σ) es := by
  refine eachStep_congr
    (J := fun g => Consistent g ∧ (g.mode.isActive = true → g.buckEN = true))
    (fun g e hg _ => powered_iff_step hg.1.flags hg.2 e) ?_
    ⟨setup_consistent disarmed now, fun _ => rfl⟩ (eachStep_true _ es)
  intro g e hg _ hnot
  have hpow : Powered g e := (powered_iff_step hg.1.flags hg.2 e).mpr hnot
  exact ⟨step_consistent hg.1 e, active_buckEN_step hg.1.flags hg.2 hpow⟩

/-- A controlled burn of eleven seconds: the refresh at 10.2 s has the power
cut at the next update. -/
theorem powered_fails :
    ¬EachStep step Powered (Greg.setup false 0 : Greg StatusWord)
      [.execute 100 1, .update 10200 10 100, .update 11300 10 100] := by
  intro hclaim
  have hlast := eachStep_iff_split.mp hclaim [.execute 100 1, .update 10200 10 100]
    (.update 11300 10 100) [] rfl
  exact absurd (hlast rfl (by decide +kernel)) (by decide +kernel)

/-! ## The closing and holding moves -/

/-- The moments a passive state was entered at, among the commands of an
event. -/
def driveMoments {σ : Type} (g : Greg σ) : List (Moment σ) :=
  (g.sent.map Prod.snd).filter fun m => !m.mode.isActive

theorem mem_driveMoments {σ : Type} {g : Greg σ} {m : Moment σ} :
    m ∈ driveMoments g ↔ (∃ angle, (angle, m) ∈ g.sent) ∧ m.mode.isActive = false := by
  simp [driveMoments]

/-- The controller, with the drives of the run so far. -/
abbrev stepDrives : Greg σ × List (Moment σ) → Event → Greg σ × List (Moment σ) :=
  withLog step fun g e => driveMoments (step g e)

/-- The drives an event makes have power, and no update takes it from a drive
that is at most two seconds old. -/
def Held (s : Greg σ × List (Moment σ)) (e : Event) : Prop :=
  (∀ m ∈ driveMoments (step s.1 e), m.buckEN = true) ∧
    (e.isUpdate = true → ∀ m ∈ (stepDrives s e).2, e.millis.toNat ≤ m.millis.toNat + 2000 →
      (step s.1 e).buckEN = true)

/-- The event drives the valve, and `buckManager` leaves it no power to. -/
def DrivesUnpowered (g : Greg σ) (e : Event) : Prop := g.drives e ∧ g.powerAt e = false

/-- An update at most two seconds after a drive finds the off-deadline passed,
and no refresh due. -/
def CutsHold {σ : Type} (s : Greg σ × List (Moment σ)) : Event → Prop
  | .update t _ _ =>
    (∃ m ∈ s.2, t.toNat ≤ m.millis.toNat + 2000) ∧
      ¬(s.1.begin t).refreshDue ∧ (s.1.begin t).deadlinePassed
  | _ => False

/-- A drive's stamp has the power its event found, and every drive is one. -/
theorem driveMoments_step {g : Greg σ} (h : FlagsAgree g) {e : Event} {m : Moment σ}
    (hm : m ∈ driveMoments (step g e)) : ∃ c, Drive g e c ∧ c.2 = m := by
  obtain ⟨⟨angle, hsent⟩, hpassive⟩ := mem_driveMoments.mp hm
  cases step_sends h hsent with
  | drive hdrive => exact ⟨_, hdrive, rfl⟩
  | @own t p n angle hd hangle =>
    -- the own moves are those of active states
    have hmode : ((g.begin t).sense p n).managed.mode = ((g.begin t).sense p n).mode :=
      congrArg StateObj.mode ((g.begin t).sense p n).managed_powerOnly.machine
    have hpassive' : ((g.begin t).sense p n).managed.mode.isActive = false := hpassive
    rw [hmode] at hpassive'
    rcases Greg.ownAngle_some hangle with hctrl | hpress
    · rw [hctrl] at hpassive'
      exact absurd hpassive' (by decide)
    · rw [hpress] at hpassive'
      exact absurd hpassive' (by decide)
  | @direct t arg hdbg =>
    have hpassive' : g.mode.isActive = false := hpassive
    rw [hdbg] at hpassive'
    exact absurd hpassive' (by decide)

theorem drive_mem_driveMoments {g : Greg σ} (h : FlagsAgree g) {e : Event} (he : g.drives e) :
    ∃ c, Drive g e c ∧ c.2 ∈ driveMoments (step g e) := by
  obtain ⟨c, hc, hdrive⟩ := drive_mem_sent h he
  refine ⟨c, hdrive, mem_driveMoments.mpr ⟨⟨c.1, hc⟩, ?_⟩⟩
  have hrest := hdrive.angle
  rw [hdrive.mode]
  cases hmode : (step g e).mode with
  | default | shutdown | halfabort => rfl
  | pressurise | controlled | debug =>
    rw [hmode] at hrest
    exact absurd hrest (by simp [Mode.restAngle])

/-- The drives of an event have power exactly when its `buckManager` leaves it. -/
theorem drives_powered_iff {g : Greg σ} (h : FlagsAgree g) (e : Event) :
    (∀ m ∈ driveMoments (step g e), m.buckEN = true) ↔ ¬DrivesUnpowered g e := by
  constructor
  · intro hall hun
    obtain ⟨c, hdrive, hmem⟩ := drive_mem_driveMoments h hun.1
    have hon := hall _ hmem
    rw [hdrive.buckEN, hun.2] at hon
    exact absurd hon (by decide)
  · intro hnot m hm
    obtain ⟨c, hdrive, rfl⟩ := driveMoments_step h hm
    rw [hdrive.buckEN]
    by_contra hoff
    exact hnot ⟨hdrive.drives, Bool.eq_false_iff.mpr hoff⟩

/-- The invariant: power lasts for two seconds after each drive. -/
structure HoldsPower (s : Greg σ × List (Moment σ)) : Prop where
  consistent : Consistent s.1
  held : ∀ m ∈ s.2, s.1.millis.toNat ≤ m.millis.toNat + 2000 → s.1.buckEN = true

theorem held_iff_step {s : Greg σ × List (Moment σ)} (h : HoldsPower s) {e : Event}
    (hclock : s.1.millis ≤ e.millis) :
    Held s e ↔ ¬DrivesUnpowered s.1 e ∧ ¬CutsHold s e := by
  have hagree : FlagsAgree s.1 := h.consistent.flags
  unfold Held
  rw [drives_powered_iff hagree]
  refine and_congr_right ?_
  intro hdrives
  cases e with
  | update t p n =>
    rw [UInt32.le_iff_toNat_le] at hclock
    have hbuck {m : Moment σ} (hm : m ∈ s.2) (hle : t.toNat ≤ m.millis.toNat + 2000) :
        s.1.buckEN = true := h.held m hm (le_trans hclock hle)
    rw [step_buckEN_update hagree]
    constructor
    · -- an earlier drive the branch takes the power from
      intro hheld hcut
      obtain ⟨⟨m, hm, hle⟩, hbranch⟩ := hcut
      have hon := hheld rfl m (List.mem_append_right _ hm) hle
      exact (powerAt_eq (hbuck hm hle) t p n).mp hon hbranch
    · intro hnot _ m hm hle
      rcases List.mem_append.mp hm with hnew | hold
      · -- this update's own drive found the power it needs
        have hpow := (drives_powered_iff hagree _).mpr hdrives m hnew
        obtain ⟨c, hdrive, rfl⟩ := driveMoments_step hagree hnew
        rw [hdrive.buckEN] at hpow
        exact hpow
      · exact (powerAt_eq (hbuck hold hle) t p n).mpr fun hbranch => hnot ⟨⟨m, hold, hle⟩, hbranch⟩
  | _ => exact iff_of_true (fun he => absurd he (by simp [Event.isUpdate])) id

theorem holdsPower_step {s : Greg σ × List (Moment σ)} (h : HoldsPower s) {e : Event}
    (hclock : s.1.millis ≤ e.millis) (hheld : Held s e) : HoldsPower (stepDrives s e) where
  consistent := step_consistent h.consistent e
  held := by
    have hagree : FlagsAgree s.1 := h.consistent.flags
    intro m hm hle
    have hle' : e.millis.toNat ≤ m.millis.toNat + 2000 := by
      rw [← step_millis hagree e]
      exact hle
    cases he : e.isUpdate with
    | true => exact hheld.2 he m hm hle'
    | false =>
      -- a command keeps what power there was: its own drive had it, or an
      -- earlier drive is still owed it
      refine (step_command hagree he).buckEN.mpr (Or.inl ?_)
      rcases List.mem_append.mp hm with hnew | hold
      · have hpow := hheld.1 m hnew
        obtain ⟨c, hdrive, rfl⟩ := driveMoments_step hagree hnew
        rw [hdrive.buckEN] at hpow
        cases e with
        | update t p n => exact absurd he (by simp [Event.isUpdate])
        | _ => exact hpow
      · rw [UInt32.le_iff_toNat_le] at hclock
        exact h.held m hold (le_trans hclock hle')

/-- The clock of a run never goes back, so it does not wrap either. -/
def NonDecreasing (now : UInt32) (es : List Event) : Prop :=
  (now :: es.map Event.millis).Pairwise fun t t' => t.toNat ≤ t'.toNat

instance (now : UInt32) (es : List Event) : Decidable (NonDecreasing now es) :=
  inferInstanceAs (Decidable (List.Pairwise _ _))

/-- What a step may assume of the clock. -/
theorem nonDecreasing_eachStep {g : Greg σ} (h : Consistent g) {es : List Event}
    (hclock : NonDecreasing g.millis es) : EachStep step (fun g e => g.millis ≤ e.millis) g es := by
  induction es generalizing g with
  | nil => trivial
  | cons e es ih =>
    obtain ⟨hhead, htail⟩ := List.pairwise_cons.mp hclock
    refine ⟨hhead _ (List.mem_cons_self), ih (step_consistent h e) ?_⟩
    rw [step_millis h.flags]
    exact htail

/-- Over a run whose clock never goes back, every closing or holding move has
power for two seconds exactly when it starts with power and no update within
the two seconds finds the off-deadline of a refresh passed. -/
theorem held_iff (disarmed : Bool) (now : UInt32) (es : List Event)
    (hclock : NonDecreasing now es) :
    ((∀ m ∈ driveMoments (Greg.setup disarmed now : Greg σ), m.buckEN = true) ∧
      EachStep stepDrives Held
        ((Greg.setup disarmed now : Greg σ), driveMoments (Greg.setup disarmed now)) es) ↔
    EachStep stepDrives (fun s e => ¬DrivesUnpowered s.1 e ∧ ¬CutsHold s e)
      ((Greg.setup disarmed now : Greg σ), driveMoments (Greg.setup disarmed now)) es := by
  have hsetup : ∀ m ∈ driveMoments (Greg.setup disarmed now : Greg σ), m.buckEN = true := by
    obtain ⟨m, hsent, -, -, -, hon⟩ := setup_sent (σ := σ) disarmed now
    intro m' hm'
    obtain ⟨⟨angle, hmem⟩, -⟩ := mem_driveMoments.mp hm'
    rw [hsent, List.mem_singleton] at hmem
    obtain rfl : m' = m := congrArg Prod.snd hmem
    exact hon
  have hsteps : EachStep stepDrives (fun s e => s.1.millis ≤ e.millis)
      ((Greg.setup disarmed now : Greg σ), driveMoments (Greg.setup disarmed now)) es :=
    (eachStep_fst (P := fun (g : Greg σ) (e : Event) => g.millis ≤ e.millis) fun _ _ => rfl).mpr
      (nonDecreasing_eachStep (setup_consistent disarmed now) hclock)
  rw [and_iff_right hsetup]
  exact eachStep_congr (J := HoldsPower) (fun s e hs hc => held_iff_step hs hc)
    (fun s e hs hc hcond => holdsPower_step hs hc ((held_iff_step hs hc).mpr hcond))
    ⟨setup_consistent disarmed now, fun _ _ _ => rfl⟩ hsteps

/-- A shutdown from a `CONTROLLED` that has power holds it, and the updates of the
next two seconds leave it on. -/
theorem held_controlled :
    EachStep stepDrives Held
      ((Greg.setup false 0 : Greg StatusWord), driveMoments (Greg.setup false 0))
      [.execute 10 1, .execute 20 2, .update 500 10 100, .update 1999 10 100] := by
  refine ((held_iff false 0 [.execute 10 1, .execute 20 2, .update 500 10 100, .update 1999 10 100]
    (by decide)).mpr ⟨?_, ?_, ?_, ?_, trivial⟩).2
  · exact ⟨fun hun => absurd hun.1.2 (by decide), id⟩
  · exact ⟨fun hun => absurd hun.2 (by decide +kernel), id⟩
  · exact ⟨fun hun => absurd hun.2 (by decide +kernel),
      fun hcut => absurd hcut.2.2 (by decide +kernel)⟩
  · exact ⟨fun hun => absurd hun.2 (by decide +kernel),
      fun hcut => absurd hcut.2.2 (by decide +kernel)⟩

/-- The power of `setup` times out, and a shutdown then drives the servo
without any. -/
theorem held_fails :
    ¬((∀ m ∈ driveMoments (Greg.setup false 0 : Greg StatusWord), m.buckEN = true) ∧
      EachStep stepDrives Held
        ((Greg.setup false 0 : Greg StatusWord), driveMoments (Greg.setup false 0))
        [.update 5000 10 100, .execute 6000 2]) := by
  intro hclaim
  have hlast := eachStep_iff_split.mp hclaim.2 [.update 5000 10 100] (.execute 6000 2) [] rfl
  have hstate := (run_consistent (σ := StatusWord) false 0 [.update 5000 10 100]).flags
  exact (drives_powered_iff hstate (.execute 6000 2)).mp hlast.1
    ⟨⟨by decide +kernel, rfl⟩, by decide +kernel⟩

end Heimdall
