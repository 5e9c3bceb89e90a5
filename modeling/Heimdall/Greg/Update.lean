import Heimdall.Greg.Guards
import Heimdall.Greg.SixStates

/-!
# What an update does

`UpdateStep` lists the five ways an `update` can go, with what had to be true
for each and the controller it leaves behind; `update_step` says there is no
sixth. Everything later arguments say about an update is read off it: the
state it ends in (`update_mode`), the power it leaves (`update_buckEN`), the
flags (`update_checked`), the angles it sends (`update_sent`), and that it keeps
the state and actuator invariant (`Consistent.update`).
-/

namespace Heimdall

open EventRun

variable {σ : Type} [SystemStatus σ]

/-! ## Five ways an update goes -/

/-- The critical flag is latched, or this reading latches it. -/
def Greg.Critical (g : Greg σ) : Prop :=
  g.flagSet .errorCriticalOVP = true ∨ pHalfAbort < g.feedbackP

instance (g : Greg σ) : Decidable g.Critical := inferInstanceAs (Decidable (_ ∨ _))

inductive UpdateStep (g : Greg σ) : Greg σ → Prop
  /-- Disarmed outside `default`: back there. -/
  | disarmed (hd : g.disarmed = true) (hm : g.machine.mode ≠ .default) :
      UpdateStep g (g.managed.changeState .default).checkFlags
  /-- A pressurisation that has reached its target. -/
  | filled (hd : g.disarmed = false) (hm : g.machine.mode = .pressurise) (hf : g.Filled) :
      UpdateStep g (g.managed.ownMove.changeState .default).checkFlags
  /-- The trip, after the state's own move. -/
  | tripped (hd : g.disarmed = false)
      (hm : g.machine.mode ≠ .shutdown ∧ g.machine.mode ≠ .default)
      (hf : ¬(g.machine.mode = .pressurise ∧ g.Filled)) (hc : g.Critical) :
      UpdateStep g (g.managed.ownMove.checkFlags.changeState .shutdown)
  /-- The half abort, after the state's own move. -/
  | halved (hd : g.disarmed = false) (hm : g.machine.mode = .controlled) (hc : ¬g.Critical)
      (hh : g.flagSet .errorHalfabort = true) :
      UpdateStep g (g.managed.ownMove.checkFlags.changeState (.halfabort halfAbortAngle))
  /-- No transition. -/
  | stayed (hd : ¬(g.disarmed = true ∧ g.machine.mode ≠ .default))
      (hf : ¬(g.machine.mode = .pressurise ∧ g.Filled))
      (hc : ¬(g.Critical ∧ g.machine.mode ≠ .shutdown ∧ g.machine.mode ≠ .default))
      (hh : ¬(g.flagSet .errorHalfabort = true ∧ g.machine.mode = .controlled)) :
      UpdateStep g g.managed.ownMove.checkFlags

/-- A controller in `default` makes no transition after its checks. -/
theorem Greg.actByMode_default {g : Greg σ} (h : g.machine.mode = .default) :
    g.actByMode = g := by
  unfold Greg.actByMode
  rw [if_neg (fun hc => hc.2.2 h), if_neg (fun hh => absurd (h ▸ hh.2) (by decide))]

theorem managed_flagSet (g : Greg σ) (f : GregFlags) : g.managed.flagSet f = g.flagSet f := by
  rw [Greg.flagSet, g.managed_powerOnly.status]
  rfl

theorem ownMove_flagSet (g : Greg σ) (f : GregFlags) : g.ownMove.flagSet f = g.flagSet f := by
  rw [Greg.flagSet, g.ownMove_spec.status]
  rfl

/-- The critical flag after the checks of an update that made no transition
before them. -/
theorem checkFlags_ownMove_critical (g : Greg σ) :
    g.managed.ownMove.checkFlags.flagSet .errorCriticalOVP = true ↔ g.Critical := by
  rw [Greg.checkFlags_critical, ownMove_flagSet, managed_flagSet,
    g.managed.ownMove_spec.frame.feedbackP, g.managed_powerOnly.frame.feedbackP,
    Bool.or_eq_true, decide_eq_true_iff]
  rfl

theorem checkFlags_ownMove_machine (g : Greg σ) :
    g.managed.ownMove.checkFlags.machine = g.machine := by
  rw [(Greg.checkFlags_flagsOnly _).machine, g.managed.ownMove_spec.machine,
    g.managed_powerOnly.machine]

/-- There is no sixth. -/
theorem update_step {g : Greg σ} (h : FlagsAgree g) : UpdateStep g g.update := by
  have hdis : g.managed.disarmed = g.disarmed := g.managed_powerOnly.frame.disarmed
  have hmach : g.managed.machine = g.machine := g.managed_powerOnly.machine
  have hfill : g.managed.Filled ↔ g.Filled := by
    unfold Greg.Filled
    rw [g.managed_powerOnly.frame.feedbackP]
  rw [Greg.update_eq h]
  unfold Greg.updateByMode Greg.returnByMode
  by_cases hd : g.disarmed = true ∧ g.machine.mode ≠ .default
  · -- in `default` neither the state nor the checks make another transition
    rw [if_pos (by rw [hdis, hmach]; exact hd)]
    have hdef : (g.managed.changeState .default).machine.mode = .default :=
      Greg.changeState_mode _ _
    have hnone : (g.managed.changeState .default).ownAngle = none := rfl
    rw [Greg.machineUpdate_eq, if_neg (fun hp => absurd (hdef ▸ hp.1) (by decide)),
      Greg.ownMove_idle hnone, Greg.actByMode_default]
    · exact .disarmed hd.1 hd.2
    · rw [(Greg.checkFlags_flagsOnly _).machine]
      exact hdef
  · have harmed (hne : g.machine.mode ≠ .default) : g.disarmed = false := by
      rw [← Bool.not_eq_true]
      exact fun ht => hd ⟨ht, hne⟩
    rw [if_neg (by rw [hdis, hmach]; exact hd), Greg.machineUpdate_eq, hmach]
    by_cases hf : g.machine.mode = .pressurise ∧ g.Filled
    · -- the state's own transition, after which the trip finds `default`
      rw [if_pos ⟨hf.1, hfill.mpr hf.2⟩, Greg.actByMode_default]
      · exact .filled (harmed (by rw [hf.1]; decide)) hf.1 hf.2
      · rw [(Greg.checkFlags_flagsOnly _).machine]
        exact Greg.changeState_mode _ _
    · rw [if_neg fun hf' => hf ⟨hf'.1, hfill.mp hf'.2⟩]
      -- no transition yet: the guards of the checks see the state as it was
      have hcrit := checkFlags_ownMove_critical g
      have hmach' := checkFlags_ownMove_machine g
      have hhalf : g.managed.ownMove.checkFlags.flagSet .errorHalfabort =
          g.flagSet .errorHalfabort := by
        rw [Greg.checkFlags_flag_ne (by decide), ownMove_flagSet, managed_flagSet]
      unfold Greg.actByMode
      simp only [hcrit, hmach', hhalf]
      by_cases hc : g.Critical ∧ g.machine.mode ≠ .shutdown ∧ g.machine.mode ≠ .default
      · rw [if_pos hc]
        exact .tripped (harmed hc.2.2) hc.2 hf hc.1
      · rw [if_neg hc]
        by_cases hh : g.flagSet .errorHalfabort = true ∧ g.machine.mode = .controlled
        · have hnd : g.machine.mode ≠ .default := by rw [hh.2]; decide
          have hncrit : ¬g.Critical := fun hcr =>
            hc ⟨hcr, by rw [hh.2]; decide, hnd⟩
          rw [if_pos hh, if_neg hnd]
          exact .halved (harmed hnd) hh.2 hncrit hh.1
        · rw [if_neg hh]
          exact .stayed hd hf hc hh

/-! ## The state an update ends in -/

/-- An update makes the six-state machine's move. -/
theorem update_mode {g : Greg σ} (h : FlagsAgree g) :
    g.update.machine.mode =
      g.machine.mode.onUpdate g.disarmed (decide g.Filled) (decide g.Critical)
        (g.flagSet .errorHalfabort) := by
  have hstep := update_step h
  generalize g.update = g' at hstep ⊢
  cases hstep with
  | disarmed hd hm =>
    rw [(Greg.checkFlags_flagsOnly _).machine, Greg.changeState_mode, hd, Mode.onUpdate_disarmed]
    rfl
  | filled hd hm hf =>
    rw [(Greg.checkFlags_flagsOnly _).machine, Greg.changeState_mode, hd, hm]
    simp [Mode.onUpdate, hf, StateObj.mode]
  | tripped hd hm hf hc =>
    rw [Greg.changeState_mode, hd]
    cases hmode : g.machine.mode <;>
      simp_all [Mode.onUpdate, StateObj.mode]
  | halved hd hm hc hh =>
    rw [Greg.changeState_mode, hd, hm, hh]
    simp [Mode.onUpdate, hc, StateObj.mode]
  | stayed hd hf hc hh =>
    rw [checkFlags_ownMove_machine]
    cases hmode : g.machine.mode <;> cases hdis : g.disarmed <;>
      simp_all [Mode.onUpdate]

/-- The transitions of an update all lead to passive states, so one that ends
in an active state has kept its state object. -/
theorem update_machine {g : Greg σ} (h : FlagsAgree g)
    (hact : g.update.machine.mode.isActive = true) : g.update.machine = g.machine := by
  have hstep := update_step h
  generalize g.update = g' at hstep hact ⊢
  cases hstep with
  | disarmed hd hm =>
    rw [(Greg.checkFlags_flagsOnly _).machine, Greg.changeState_mode] at hact
    exact absurd hact (by decide)
  | filled hd hm hf =>
    rw [(Greg.checkFlags_flagsOnly _).machine, Greg.changeState_mode] at hact
    exact absurd hact (by decide)
  | tripped hd hm hf hc =>
    rw [Greg.changeState_mode] at hact
    exact absurd hact (by decide)
  | halved hd hm hc hh =>
    rw [Greg.changeState_mode] at hact
    exact absurd hact (by decide)
  | stayed hd hf hc hh => exact checkFlags_ownMove_machine g

/-! ## What an update leaves alone, and the power it leaves -/

theorem update_frame {g : Greg σ} (h : FlagsAgree g) : Frame g g.update := by
  have hman := g.managed_powerOnly.frame
  have hown := hman.trans g.managed.ownMove_spec.frame
  have hstep := update_step h
  generalize g.update = g' at hstep ⊢
  cases hstep with
  | disarmed hd hm =>
    exact (hman.trans (Greg.changeState_frame _ _)).trans (Greg.checkFlags_flagsOnly _).frame
  | filled hd hm hf =>
    exact (hown.trans (Greg.changeState_frame _ _)).trans (Greg.checkFlags_flagsOnly _).frame
  | tripped hd hm hf hc =>
    exact (hown.trans (Greg.checkFlags_flagsOnly _).frame).trans (Greg.changeState_frame _ _)
  | halved hd hm hc hh =>
    exact (hown.trans (Greg.checkFlags_flagsOnly _).frame).trans (Greg.changeState_frame _ _)
  | stayed hd hf hc hh => exact hown.trans (Greg.checkFlags_flagsOnly _).frame

/-- Nothing after `buckManager` switches the power: an update only enters
passive states. -/
theorem update_buckEN {g : Greg σ} (h : FlagsAgree g) : g.update.buckEN = g.power := by
  have hman := g.managed_buckEN
  have hown : g.managed.ownMove.buckEN = g.power := g.managed.ownMove_spec.buckEN.trans hman
  have hchecked : g.managed.ownMove.checkFlags.buckEN = g.power :=
    (Greg.checkFlags_flagsOnly _).buckEN.trans hown
  have hstep := update_step h
  generalize g.update = g' at hstep ⊢
  cases hstep with
  | disarmed hd hm =>
    rw [(Greg.checkFlags_flagsOnly _).buckEN, Greg.changeState_buckEN, hman]
    rfl
  | filled hd hm hf =>
    rw [(Greg.checkFlags_flagsOnly _).buckEN, Greg.changeState_buckEN, hown]
    rfl
  | tripped hd hm hf hc =>
    rw [Greg.changeState_buckEN, hchecked]
    rfl
  | halved hd hm hc hh =>
    rw [Greg.changeState_buckEN, hchecked]
    rfl
  | stayed hd hf hc hh => exact hchecked

/-! ## The flags an update leaves -/

/-- `pre` is what the checks of an update from `g` find, and `g'` keeps the
error flags and the disconnect counter they leave. -/
structure Checked (g pre g' : Greg σ) : Prop where
  frame : Frame g pre
  found : ∀ f : GregFlags, f.isError → pre.flagSet f = g.flagSet f
  foundCount : pre.dcCount = g.dcCount
  left : ∀ f : GregFlags, f.isError → g'.flagSet f = pre.checkFlags.flagSet f
  leftCount : g'.dcCount = pre.checkFlags.dcCount

/-- Neither before its checks nor after them does an update touch an error
flag or the counter. -/
theorem update_checked {g : Greg σ} (h : FlagsAgree g) : ∃ pre, Checked g pre g.update := by
  have hman := g.managed_powerOnly.frame
  have hown := hman.trans g.managed.ownMove_spec.frame
  have hownf (f : GregFlags) : g.managed.ownMove.flagSet f = g.flagSet f := by
    rw [ownMove_flagSet, managed_flagSet]
  have hownc : g.managed.ownMove.dcCount = g.dcCount := by
    rw [Greg.ownMove_dcCount, Greg.managed_dcCount]
  have hstep := update_step h
  generalize g.update = g' at hstep ⊢
  cases hstep with
  | disarmed hd hm =>
    refine ⟨_, hman.trans (Greg.changeState_frame .default _), ?_, ?_, fun _ _ => rfl, rfl⟩
    · intro f hf
      rw [Greg.changeState_isError _ _ hf, managed_flagSet]
    · rw [Greg.changeState_dcCount, Greg.managed_dcCount]
  | filled hd hm hf =>
    refine ⟨_, hown.trans (Greg.changeState_frame .default _), ?_, ?_, fun _ _ => rfl, rfl⟩
    · intro f hf
      rw [Greg.changeState_isError _ _ hf, hownf]
    · rw [Greg.changeState_dcCount, hownc]
  | tripped hd hm hf hc =>
    exact ⟨_, hown, fun f _ => hownf f, hownc, fun f hf => Greg.changeState_isError _ _ hf,
      Greg.changeState_dcCount _ _⟩
  | halved hd hm hc hh =>
    exact ⟨_, hown, fun f _ => hownf f, hownc, fun f hf => Greg.changeState_isError _ _ hf,
      Greg.changeState_dcCount _ _⟩
  | stayed hd hf hc hh =>
    exact ⟨_, hown, fun f _ => hownf f, hownc, fun _ _ => rfl, rfl⟩

/-- An update latches the critical flag above the half-abort limit. -/
theorem update_critical {g : Greg σ} (h : FlagsAgree g) :
    g.update.flagSet .errorCriticalOVP = true ↔ g.Critical := by
  obtain ⟨pre, hchk⟩ := update_checked h
  rw [hchk.left _ (by decide), Greg.checkFlags_critical, hchk.found _ (by decide),
    hchk.frame.feedbackP, Bool.or_eq_true, decide_eq_true_iff]
  rfl

theorem update_covp {g : Greg σ} (h : FlagsAgree g) :
    g.update.flagSet .errorFbpCOVP = decide (pHalfAbort < g.feedbackP) := by
  obtain ⟨pre, hchk⟩ := update_checked h
  rw [hchk.left _ (by decide), Greg.checkFlags_covp, hchk.frame.feedbackP]

/-- An update leaves alone the error flags no check writes. -/
theorem update_flag_ne {g : Greg σ} (h : FlagsAgree g) {f : GregFlags} (hf : f.isError)
    (hne : f ∉ .errorCriticalOVP :: Greg.sensorFlags) : g.update.flagSet f = g.flagSet f := by
  obtain ⟨pre, hchk⟩ := update_checked h
  rw [hchk.left f hf, Greg.checkFlags_flag_ne hne, hchk.found f hf]

/-! ## What an update sends -/

/-- What the state's own move sends in an update: nothing when the component
is disarmed, as the machine is then back in `default` before it could. -/
def Greg.ownSends {σ : Type} (g : Greg σ) : List (Int × Moment σ) :=
  if g.disarmed then [] else (g.ownAngle.map fun angle => (angle, g.managed.moment)).toList

/-- The command `c` is the drive of the passive state an update from `g` to
`g'` changes to. -/
structure UpdateDrive {σ : Type} [SystemStatus σ] (g g' : Greg σ) (c : Int × Moment σ) : Prop where
  moved : g'.machine.mode ≠ g.machine.mode
  angle : g'.machine.mode.restAngle = some c.1
  mode : c.2.mode = g'.machine.mode
  millis : c.2.millis = g.millis
  disarmed : c.2.disarmed = g.disarmed
  buckEN : c.2.buckEN = g.power
  /-- Only the half abort opens the valve, and only an armed one that is not
  tripped. -/
  guarded : c.1 = closedAngle ∨
    g.disarmed = false ∧ FlagStore.flagSet c.2.status GregFlags.errorCriticalOVP = false

/-- A state that has a resting angle makes no move of its own. -/
theorem ownAngle_of_rest {σ : Type} {g : Greg σ} {angle : Int}
    (h : g.machine.mode.restAngle = some angle) : g.ownAngle = none := by
  unfold Greg.ownAngle
  cases hm : g.machine with
  | pressurise =>
    rw [hm] at h
    exact absurd h (by simp [StateObj.mode, Mode.restAngle])
  | controlled stateEntry =>
    rw [hm] at h
    exact absurd h (by simp [StateObj.mode, Mode.restAngle])
  | _ => rfl

theorem managed_ownAngle {σ : Type} (g : Greg σ) : g.managed.ownAngle = g.ownAngle :=
  Greg.ownAngle_congr g.managed_powerOnly.frame g.managed_powerOnly.machine

/-- A transition made in an update sends the drive of its state, stamped with
the power `buckManager` left. -/
theorem updateDrive_of_changeState (new : StateObj) {g g₁ : Greg σ} {angle : Int}
    (hframe : Frame g g₁) (hbuck : g₁.buckEN = g.power) (hmoved : new.mode ≠ g.machine.mode)
    (hangle : new.mode.restAngle = some angle)
    (hguard : angle = closedAngle ∨
      g.disarmed = false ∧ (g₁.changeState new).flagSet .errorCriticalOVP = false)
    {g' : Greg σ} (hmode : g'.machine.mode = new.mode) :
    UpdateDrive g g' (angle, g₁.entryMoment new) where
  moved := by rw [hmode]; exact hmoved
  angle := by rw [hmode]; exact hangle
  mode := hmode.symm
  millis := hframe.millis
  disarmed := hframe.disarmed
  buckEN := hbuck
  guarded := by
    refine hguard.imp_right fun h => ⟨h.1, ?_⟩
    rw [Greg.flagSet, Greg.changeState_status] at h
    exact h.2

/-- The angles an update sends, newest first: the drive of the state it
changes to, if it changes state, after the own move of the state it found. -/
theorem update_sent {g : Greg σ} (h : FlagsAgree g) :
    (g.update.machine.mode = g.machine.mode ∧ g.update.sent = g.ownSends ++ g.sent) ∨
      ∃ c, UpdateDrive g g.update c ∧ g.update.sent = c :: (g.ownSends ++ g.sent) := by
  have hman := g.managed_powerOnly
  have hspec := g.managed.ownMove_spec
  have hframe : Frame g g.managed.ownMove := hman.frame.trans hspec.frame
  have hbuck : g.managed.ownMove.buckEN = g.power := hspec.buckEN.trans g.managed_buckEN
  have hchk := Greg.checkFlags_flagsOnly g.managed.ownMove
  -- what the own move of an armed update leaves
  have hown (hd : g.disarmed = false) : g.managed.ownMove.sent = g.ownSends ++ g.sent := by
    rw [hspec.sent, managed_ownAngle, hman.sent, Greg.ownSends, hd]
    rfl
  have hstep := update_step h
  generalize g.update = g' at hstep ⊢
  cases hstep with
  | disarmed hd hm =>
    refine Or.inr ⟨_, updateDrive_of_changeState .default hman.frame g.managed_buckEN
      (fun he => hm he.symm) rfl (Or.inl rfl) ?_, ?_⟩
    · rw [(Greg.checkFlags_flagsOnly _).machine]
      exact Greg.changeState_mode _ _
    · rw [(Greg.checkFlags_flagsOnly _).sent, Greg.changeState_sent, hman.sent, Greg.ownSends, hd]
      rfl
  | filled hd hm hf =>
    refine Or.inr ⟨_, updateDrive_of_changeState .default hframe hbuck
      (by rw [hm]; decide) rfl (Or.inl rfl) ?_, ?_⟩
    · rw [(Greg.checkFlags_flagsOnly _).machine]
      exact Greg.changeState_mode _ _
    · rw [(Greg.checkFlags_flagsOnly _).sent, Greg.changeState_sent, hown hd]
      rfl
  | tripped hd hm hf hc =>
    refine Or.inr ⟨_, updateDrive_of_changeState .shutdown (hframe.trans hchk.frame)
      (hchk.buckEN.trans hbuck) (fun he => hm.1 he.symm) rfl (Or.inl rfl) ?_, ?_⟩
    · exact Greg.changeState_mode _ _
    · rw [Greg.changeState_sent, hchk.sent, hown hd]
      rfl
  | halved hd hm hc hh =>
    have hcrit : g.managed.ownMove.checkFlags.flagSet .errorCriticalOVP = false := by
      rw [← Bool.not_eq_true, checkFlags_ownMove_critical]
      exact hc
    refine Or.inr ⟨_, updateDrive_of_changeState (.halfabort halfAbortAngle)
      (hframe.trans hchk.frame) (hchk.buckEN.trans hbuck) (by rw [hm]; decide) rfl (Or.inr ⟨hd, ?_⟩) ?_, ?_⟩
    · rw [Greg.changeState_isError _ _ (by decide)]
      exact hcrit
    · exact Greg.changeState_mode _ _
    · rw [Greg.changeState_sent, hchk.sent, hown hd]
      rfl
  | stayed hd hf hc hh =>
    refine Or.inl ⟨congrArg _ (checkFlags_ownMove_machine g), ?_⟩
    rw [hchk.sent]
    cases hdis : g.disarmed with
    | false => exact hown hdis
    | true =>
      -- a disarmed controller that made no transition was already in `default`
      have hdef : g.machine.mode = .default := by
        by_contra hne
        exact hd ⟨hdis, hne⟩
      have hnone : g.ownAngle = none := ownAngle_of_rest (by rw [hdef]; rfl)
      rw [hspec.sent, managed_ownAngle, hnone, hman.sent, Greg.ownSends, hdis]
      rfl

/-! ## The invariant -/

/-- A step that keeps the status word, the state and the adapter keeps the
invariant. -/
theorem Consistent.of_eq {g g' : Greg σ} (h : Consistent g) (hstatus : g'.status = g.status)
    (hmachine : g'.machine = g.machine) (hadapter : g'.adapter = g.adapter) : Consistent g' where
  flags := h.flags.of_eq hstatus hmachine
  armed := by rw [hadapter, hmachine]; exact h.armed
  rest := by rw [hadapter, hmachine]; exact h.rest

theorem Consistent.ownMove {g : Greg σ} (h : Consistent g) : Consistent g.ownMove where
  flags := h.flags.ownMove
  armed := by rw [g.ownMove_spec.adapter, g.ownMove_spec.machine]; exact h.armed
  rest := by
    intro angle hangle
    rw [g.ownMove_spec.machine] at hangle
    rw [Greg.ownMove_idle (ownAngle_of_rest hangle)]
    exact h.rest angle hangle

theorem Consistent.checkFlags {g : Greg σ} (h : Consistent g) : Consistent g.checkFlags where
  flags := h.flags.checkFlags
  armed := by
    rw [(Greg.checkFlags_flagsOnly g).adapter, (Greg.checkFlags_flagsOnly g).machine]
    exact h.armed
  rest := by
    rw [(Greg.checkFlags_flagsOnly g).adapter, (Greg.checkFlags_flagsOnly g).machine]
    exact h.rest

theorem Consistent.update {g : Greg σ} (h : Consistent g) : Consistent g.update := by
  have hman : Consistent g.managed :=
    h.of_eq g.managed_powerOnly.status g.managed_powerOnly.machine g.managed_powerOnly.adapter
  have hstep := update_step h.flags
  generalize g.update = g' at hstep ⊢
  cases hstep with
  | disarmed hd hm => exact (hman.flags.changeState_consistent rfl).checkFlags
  | filled hd hm hf => exact (hman.ownMove.flags.changeState_consistent rfl).checkFlags
  | tripped hd hm hf hc => exact hman.ownMove.checkFlags.flags.changeState_consistent rfl
  | halved hd hm hc hh => exact hman.ownMove.checkFlags.flags.changeState_consistent rfl
  | stayed hd hf hc hh => exact hman.ownMove.checkFlags

end Heimdall
