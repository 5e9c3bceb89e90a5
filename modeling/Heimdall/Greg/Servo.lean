import Heimdall.Greg.Events

/-!
# Where the servo is sent

Every servo command comes from one of three sources (`Sends`): the drive of a
passive state, the own move of `CONTROLLED` or `PRESSURISE`, and an operator's
command in `DEBUG`. Three promises are about these angles, and each holds but
for one source that its guard forgets:

* within the hardware limits (`limits_iff`), except that the operator's
  pressurise angle is bounded by its own last value only, so it can be walked
  past the limit;
* closed once the critical flag is latched (`lockout_iff`), except that the
  flag is looked at after the state has moved the servo;
* closed while disarmed (`disarmed_iff`), except that `DEBUG` lasts until the
  next update and its command does not ask.

A promise and its condition are both laws about one event, shown equivalent
under the invariant, and `eachStep_congr` carries that over runs.
-/

namespace Heimdall

open EventRun

/-! ## The angles of the own moves -/

theorem angleOf_le {a b : UInt32} : angleOf a ≤ angleOf b ↔ a ≤ b := by
  rw [angleOf, angleOf, UInt32.le_iff_toNat_le, Int.ofNat_le]

/-- An angle the valve may be sent to. -/
def WithinLimits (angle : Int) : Prop := closedAngle ≤ angle ∧ angle ≤ angleOf regMaxOpenAngle

instance (angle : Int) : Decidable (WithinLimits angle) := inferInstanceAs (Decidable (_ ∧ _))

theorem withinLimits_angleOf {a : UInt32} : WithinLimits (angleOf a) ↔ a ≤ regMaxOpenAngle := by
  unfold WithinLimits closedAngle
  rw [angleOf_le, angleOf_le]
  exact and_iff_right (UInt32.zero_le)

namespace Greg

variable {σ : Type}

/-- The soft start only lowers the law's angle, and not below its minimum. -/
theorem controlAngle_mem (g : Greg σ) (stateEntry : UInt32) :
    regMinOpenAngle ≤ g.controlAngle stateEntry ∧ g.controlAngle stateEntry ≤ regMaxOpenAngle := by
  obtain ⟨hlo, hhi⟩ := g.nextAngle_mem
  unfold controlAngle
  split
  · -- the core's `min` on `UInt32` is this `if`
    show _ ≤ (if g.nextAngle.1 ≤ regMaxOpenFirstStart then _ else _) ∧
      (if g.nextAngle.1 ≤ regMaxOpenFirstStart then _ else _) ≤ _
    split
    · exact ⟨hlo, hhi⟩
    · exact ⟨by decide, by decide⟩
  · exact ⟨hlo, hhi⟩

theorem ownAngle_controlled {g : Greg σ} (h : g.mode = .controlled) :
    ∃ a, g.ownAngle = some (angleOf a) ∧ regMinOpenAngle ≤ a ∧ a ≤ regMaxOpenAngle := by
  cases hm : g.machine with
  | controlled stateEntry =>
    obtain ⟨hlo, hhi⟩ := g.controlAngle_mem stateEntry
    exact ⟨_, by rw [ownAngle, hm], hlo, hhi⟩
  | _ =>
    rw [mode, hm] at h
    exact absurd h (by simp [StateObj.mode])

theorem ownAngle_pressurise {g : Greg σ} (h : g.mode = .pressurise) :
    g.ownAngle = some (angleOf g.regPressuriseAngle) := by
  cases hm : g.machine with
  | pressurise => rw [ownAngle, hm]
  | _ =>
    rw [mode, hm] at h
    exact absurd h (by simp [StateObj.mode])

/-- Only these two states have one. -/
theorem ownAngle_some {g : Greg σ} {angle : Int} (h : g.ownAngle = some angle) :
    g.mode = .controlled ∨ g.mode = .pressurise := by
  unfold ownAngle at h
  cases hm : g.machine with
  | controlled stateEntry => exact Or.inl (by rw [mode, hm]; rfl)
  | pressurise => exact Or.inr (by rw [mode, hm]; rfl)
  | _ =>
    rw [hm] at h
    exact absurd h (by simp)

end Greg

variable {σ : Type} [SystemStatus σ]

theorem Mode.restAngle_mem {m : Mode} {angle : Int} (h : m.restAngle = some angle) :
    WithinLimits angle := by
  cases m with
  | default | shutdown =>
    obtain rfl := Option.some.inj h
    decide
  | halfabort =>
    obtain rfl := Option.some.inj h
    decide +kernel
  | pressurise | controlled | debug => exact absurd h (by simp [Mode.restAngle])

/-- `setup` only closes the valve. -/
theorem setup_closed (disarmed : Bool) (now : UInt32) :
    ∀ c ∈ (Greg.setup disarmed now : Greg σ).sent, c.1 = closedAngle := by
  obtain ⟨m, hsent, -⟩ := setup_sent (σ := σ) disarmed now
  intro c hc
  rw [hsent, List.mem_singleton] at hc
  rw [hc]

/-! ## Within the hardware limits -/

/-- What an event sends outside `DEBUG` is within the limits, and so is the
angle it leaves for `PRESSURISE` to send. -/
def Limited (g : Greg σ) (e : Event) : Prop :=
  (∀ c ∈ (step g e).sent, c.2.mode ≠ .debug → WithinLimits c.1) ∧
    (step g e).regPressuriseAngle ≤ regMaxOpenAngle

/-- A pressurise angle beyond the limit is accepted, being close to the last. -/
def Creeps {σ : Type} (g : Greg σ) : Event → Prop
  | .extended _ commandID arg =>
    commandID = 7 ∧ regMaxOpenAngle < arg.toUInt32 ∧ arg.toUInt32 ≤ g.regPressuriseAngle + 50
  | _ => False

theorem limited_angle_iff {g : Greg σ} (h : FlagsAgree g)
    (hreg : g.regPressuriseAngle ≤ regMaxOpenAngle) (e : Event) :
    (step g e).regPressuriseAngle ≤ regMaxOpenAngle ↔ ¬Creeps g e := by
  by_cases h7 : ∃ t arg, e = .extended t 7 arg
  · obtain ⟨t, arg, rfl⟩ := h7
    rw [step_setAngle]
    unfold Creeps
    split
    next hbig =>
      refine iff_of_true hreg ?_
      intro hcreep
      exact absurd hcreep.2.2 (UInt32.not_le.mpr hbig)
    next hsmall =>
      constructor
      · intro hle hcreep
        exact absurd hle (UInt32.not_le.mpr hcreep.2.1)
      · intro hcreep
        by_contra hgt
        exact hcreep ⟨rfl, UInt32.not_le.mp hgt, UInt32.not_lt.mp hsmall⟩
  · have hne : ∀ t arg, e ≠ .extended t 7 arg := fun t arg he => h7 ⟨t, arg, he⟩
    rw [step_regPressuriseAngle h hne]
    refine iff_of_true hreg ?_
    intro hcreep
    cases e with
    | extended t commandID arg => exact hne t arg (by rw [hcreep.1])
    | _ => exact hcreep

theorem limited_iff_step {g : Greg σ} (h : FlagsAgree g)
    (hreg : g.regPressuriseAngle ≤ regMaxOpenAngle) (e : Event) : Limited g e ↔ ¬Creeps g e := by
  rw [← limited_angle_iff h hreg]
  refine and_iff_right ?_
  intro c hc hdbg
  cases step_sends h hc with
  | drive hdrive => exact Mode.restAngle_mem hdrive.angle
  | own hd hangle =>
    rcases Greg.ownAngle_some hangle with hm | hm
    · obtain ⟨a, ha, -, hhi⟩ := Greg.ownAngle_controlled hm
      obtain rfl := Option.some.inj (ha.symm.trans hangle)
      exact withinLimits_angleOf.mpr hhi
    · obtain rfl := Option.some.inj ((Greg.ownAngle_pressurise hm).symm.trans hangle)
      exact withinLimits_angleOf.mpr hreg
  | direct hm => exact absurd hm hdbg

/-- A run keeps to the limits exactly when no pressurise angle beyond them is
ever accepted. -/
theorem limits_iff (disarmed : Bool) (now : UInt32) (es : List Event) :
    ((∀ c ∈ (Greg.setup disarmed now : Greg σ).sent, WithinLimits c.1) ∧
      EachStep step Limited (Greg.setup disarmed now : Greg σ) es) ↔
    EachStep step (fun g e => ¬Creeps g e) (Greg.setup disarmed now : Greg σ) es := by
  have hsetup : ∀ c ∈ (Greg.setup disarmed now : Greg σ).sent, WithinLimits c.1 := by
    intro c hc
    rw [setup_closed disarmed now c hc]
    decide
  rw [and_iff_right hsetup]
  refine eachStep_congr (J := fun g => Consistent g ∧ g.regPressuriseAngle ≤ regMaxOpenAngle)
    (fun g e hg _ => limited_iff_step hg.1.flags hg.2 e) ?_ ⟨setup_consistent disarmed now, ?_⟩
    (eachStep_true _ es)
  · intro g e hg _ hnot
    exact ⟨step_consistent hg.1 e, (limited_angle_iff hg.1.flags hg.2 e).mpr hnot⟩
  · show (380 : UInt32) ≤ regMaxOpenAngle
    decide

/-- Five commands of 50 more each are all accepted, and `PRESSURISE` sends the
last of them. -/
theorem limits_fail :
    ¬((∀ c ∈ (Greg.setup false 0 : Greg StatusWord).sent, WithinLimits c.1) ∧
      EachStep step Limited (Greg.setup false 0 : Greg StatusWord)
        [.extended 10 7 430, .extended 20 7 480, .extended 30 7 530, .extended 40 7 580,
          .extended 50 7 630, .execute 60 4, .update 70 10 100]) := by
  intro hclaim
  have hlast := eachStep_iff_split.mp hclaim.2
    [.extended 10 7 430, .extended 20 7 480, .extended 30 7 530, .extended 40 7 580,
      .extended 50 7 630, .execute 60 4] (.update 70 10 100) [] rfl
  have hstate := (run_consistent (σ := StatusWord) false 0 [.extended 10 7 430, .extended 20 7 480,
    .extended 30 7 530, .extended 40 7 580, .extended 50 7 630, .execute 60 4]).flags
  have hmove := own_mem_sent hstate (t := 70) (p := 10) (n := 100) (by decide +kernel)
    (Greg.ownAngle_pressurise (by decide +kernel))
  exact absurd (hlast.1 _ hmove (by decide +kernel)) (by decide +kernel)

/-! ## Closed once tripped -/

/-- While the critical flag is set the servo is sent to the closed angle only,
or where an operator sends it in `DEBUG`. -/
def LockedOut (g : Greg σ) (e : Event) : Prop :=
  ∀ c ∈ (step g e).sent, FlagStore.flagSet c.2.status GregFlags.errorCriticalOVP = true →
    c.1 = closedAngle ∨ ∃ t arg, e = .extended t 6 arg ∧ g.mode = .debug

/-- An armed update finds the critical flag set in a state that opens the
valve. -/
def OpensTripped (g : Greg σ) : Event → Prop
  | .update .. =>
    g.disarmed = false ∧ g.flagSet .errorCriticalOVP = true ∧
      (g.mode = .controlled ∨ g.mode = .pressurise ∧ g.regPressuriseAngle ≠ regClosedAngle)
  | _ => False

theorem lockedOut_iff_step {g : Greg σ} (h : FlagsAgree g) (e : Event) :
    LockedOut g e ↔ ¬OpensTripped g e := by
  constructor
  · intro hlocked hopens
    cases e with
    | update t p n =>
      obtain ⟨hd, hcrit, hm⟩ := hopens
      -- the own move is stamped with the flags the update began with
      have hstamp : FlagStore.flagSet ((g.begin t).sense p n).managed.moment.status
          GregFlags.errorCriticalOVP = true :=
        (managed_flagSet ((g.begin t).sense p n) _).trans hcrit
      have hclosed {angle : Int} (hangle : ((g.begin t).sense p n).ownAngle = some angle) :
          angle = closedAngle := by
        have hor := hlocked _ (own_mem_sent h hd hangle) hstamp
        exact hor.resolve_right fun hop => absurd hop.choose_spec.choose_spec.1 (by simp)
      rcases hm with hctrl | ⟨hpress, hne⟩
      · obtain ⟨a, ha, hlo, -⟩ := Greg.ownAngle_controlled (g := (g.begin t).sense p n) hctrl
        have hzero : a = 0 := angleOf_eq_closed.mp (hclosed ha)
        rw [hzero] at hlo
        exact absurd hlo (by decide)
      · have ha := Greg.ownAngle_pressurise (g := (g.begin t).sense p n) hpress
        exact hne (angleOf_eq_closed.mp (hclosed ha))
    | _ => exact hopens
  · intro hnot c hc hcrit
    cases step_sends h hc with
    | drive hdrive =>
      -- an opening drive is a half abort, which the latch rules out
      rcases hdrive.guarded with hclosed | ⟨-, hclear⟩
      · exact Or.inl hclosed
      · exact absurd (hcrit.symm.trans hclear) (by decide)
    | @own t p n angle hd hangle =>
      refine Or.inl ?_
      have hset : g.flagSet .errorCriticalOVP = true :=
        (managed_flagSet ((g.begin t).sense p n) _).symm.trans hcrit
      rcases Greg.ownAngle_some hangle with hm | hm
      · exact absurd ⟨hd, hset, Or.inl hm⟩ hnot
      · obtain rfl := Option.some.inj ((Greg.ownAngle_pressurise hm).symm.trans hangle)
        by_contra hne
        exact hnot ⟨hd, hset, Or.inr ⟨hm, fun hreg => hne (angleOf_eq_closed.mpr hreg)⟩⟩
    | @direct t arg hm => exact Or.inr ⟨t, arg, rfl, hm⟩

/-- A run is locked out exactly when no armed update finds the flag set in a
state that opens the valve. -/
theorem lockout_iff (disarmed : Bool) (now : UInt32) (es : List Event) :
    ((∀ c ∈ (Greg.setup disarmed now : Greg σ).sent, c.1 = closedAngle) ∧
      EachStep step LockedOut (Greg.setup disarmed now : Greg σ) es) ↔
    EachStep step (fun g e => ¬OpensTripped g e) (Greg.setup disarmed now : Greg σ) es := by
  rw [and_iff_right (setup_closed disarmed now)]
  exact eachStep_congr (J := Consistent) (fun g e hg _ => lockedOut_iff_step hg.flags e)
    (fun g e hg _ _ => step_consistent hg e) (setup_consistent disarmed now) (eachStep_true _ es)

/-- After a trip, a disarm and an update, `CONTROLLED` can be entered again,
and its first update opens the valve. -/
theorem lockout_fails :
    ¬((∀ c ∈ (Greg.setup false 0 : Greg StatusWord).sent, c.1 = closedAngle) ∧
      EachStep step LockedOut (Greg.setup false 0 : Greg StatusWord)
        [.execute 10 1, .update 20 64 100, .disarm 30, .update 40 10 100, .arm 50, .execute 60 1,
          .update 70 10 100]) := by
  intro hclaim
  have hlast := eachStep_iff_split.mp hclaim.2 [.execute 10 1, .update 20 64 100, .disarm 30,
    .update 40 10 100, .arm 50, .execute 60 1] (.update 70 10 100) [] rfl
  exact (lockedOut_iff_step (run_consistent false 0 _).flags _).mp hlast
    ⟨by decide +kernel, by decide +kernel, Or.inl (by decide +kernel)⟩

/-! ## Closed while disarmed -/

/-- While the component is disarmed the servo is sent to the closed angle
only. -/
def ClosedDisarmed (g : Greg σ) (e : Event) : Prop :=
  ∀ c ∈ (step g e).sent, c.2.disarmed = true → c.1 = closedAngle

/-- The command of `DEBUG` arrives between a disarm and the next update. -/
def MovesDisarmed {σ : Type} (g : Greg σ) : Event → Prop
  | .extended _ commandID arg =>
    commandID = 6 ∧ g.disarmed = true ∧ g.mode = .debug ∧ arg.toInt ≠ closedAngle
  | _ => False

theorem closedDisarmed_iff_step {g : Greg σ} (h : FlagsAgree g) (e : Event) :
    ClosedDisarmed g e ↔ ¬MovesDisarmed g e := by
  constructor
  · intro hclosed hmoves
    cases e with
    | extended t commandID arg =>
      obtain ⟨rfl, hd, hm, hne⟩ := hmoves
      exact hne (hclosed _ (direct_mem_sent h arg hm) hd)
    | _ => exact hmoves
  · intro hnot c hc hdis
    cases step_sends h hc with
    | drive hdrive =>
      rcases hdrive.guarded with hclosed | ⟨hd, -⟩
      · exact hclosed
      · rw [hdrive.disarmed, hd] at hdis
        exact absurd hdis (by decide)
    | @own t p n angle hd hangle =>
      have hman : ((g.begin t).sense p n).managed.disarmed = g.disarmed :=
        ((g.begin t).sense p n).managed_powerOnly.frame.disarmed
      have hdis' : ((g.begin t).sense p n).managed.disarmed = true := hdis
      rw [hman, hd] at hdis'
      exact absurd hdis' (by decide)
    | direct hm =>
      by_contra hne
      exact hnot ⟨rfl, hdis, hm, hne⟩

/-- A run keeps the valve closed while disarmed exactly when no command 6 for
another angle reaches a disarmed `DEBUG`. -/
theorem disarmed_iff (disarmed : Bool) (now : UInt32) (es : List Event) :
    ((∀ c ∈ (Greg.setup disarmed now : Greg σ).sent, c.1 = closedAngle) ∧
      EachStep step ClosedDisarmed (Greg.setup disarmed now : Greg σ) es) ↔
    EachStep step (fun g e => ¬MovesDisarmed g e) (Greg.setup disarmed now : Greg σ) es := by
  rw [and_iff_right (setup_closed disarmed now)]
  exact eachStep_congr (J := Consistent) (fun g e hg _ => closedDisarmed_iff_step hg.flags e)
    (fun g e hg _ _ => step_consistent hg e) (setup_consistent disarmed now) (eachStep_true _ es)

/-- Disarmed in `DEBUG`, and opened before the next update. -/
theorem disarmed_fails :
    ¬((∀ c ∈ (Greg.setup false 0 : Greg StatusWord).sent, c.1 = closedAngle) ∧
      EachStep step ClosedDisarmed (Greg.setup false 0 : Greg StatusWord)
        [.execute 10 3, .disarm 20, .extended 30 6 300]) := by
  intro hclaim
  have hlast := eachStep_iff_split.mp hclaim.2 [.execute 10 3, .disarm 20] (.extended 30 6 300) []
    rfl
  exact (closedDisarmed_iff_step (run_consistent false 0 _).flags _).mp hlast
    ⟨rfl, by decide +kernel, by decide +kernel, by decide⟩

end Heimdall
