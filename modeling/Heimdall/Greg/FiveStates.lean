import Heimdall.Greg.Overpressure

/-!
# What an operator sees of the controller

The six-state machine is told by the controller's flags when to trip. Closing
the loop gives a machine that stands on its own (`Regulator`): a state, the
component's arming, and one latch. It has no flags, no servo, no power and no
nitrogen reading, and its inputs are the controller's own events.

`run_regulator` says that it is the controller, in every run: the state an
event sequence leads to can be computed with nothing else. Two of the six
states' worth of code is not in it: no run enters HALFABORT, raises
`ERROR_HALFABORT` or raises `ERROR_FBP_HOVP` (`no_half_abort`), since the
half-abort limit feeds the same latch as the full one.
-/

namespace Heimdall

open EventRun

/-- The controller, as its commands and one pressure move it. -/
structure Regulator where
  mode : Mode
  disarmed : Bool
  tripped : Bool
  deriving DecidableEq, Repr

namespace Regulator

/-- An update trips on any pressure above the half-abort limit. Disarming wins
over a finished pressurisation, and both over a trip. -/
def onUpdate (p : ℚ) (r : Regulator) : Regulator :=
  let tripped := r.tripped || decide (pHalfAbort < p)
  { r with
    tripped := tripped
    mode :=
      if r.disarmed then .default
      else if r.mode = .pressurise ∧ pSetpoint + pPressExtra ≤ p then .default
      else if tripped ∧ r.mode.isActive then .shutdown
      else r.mode }

def step (r : Regulator) : Event → Regulator
  | .update _ p _ => r.onUpdate p
  | .arm _ => { r with disarmed := false }
  | .disarm _ => { r with disarmed := true }
  | .execute _ arg => if r.disarmed then r else { r with mode := r.mode.onExecute arg }
  | .extended .. => r

/-- The five states are closed under every event. -/
theorem step_halfabort {r : Regulator} (h : r.mode ≠ .halfabort) (e : Event) :
    (r.step e).mode ≠ .halfabort := by
  cases e with
  | update t p n =>
    show (if r.disarmed then Mode.default else _) ≠ _
    split_ifs <;> first | exact h | exact Mode.noConfusion
  | arm t => exact h
  | disarm t => exact h
  | execute t arg =>
    show (if r.disarmed then r else { r with mode := r.mode.onExecute arg }).mode ≠ _
    split
    · exact h
    · show Mode.onExecute arg r.mode ≠ _
      unfold Mode.onExecute
      split_ifs <;> first | exact h | exact Mode.noConfusion
  | extended t commandID arg => exact h

end Regulator

/-- Without a half abort the six-state machine trips its active states. -/
theorem Mode.onUpdate_five {m : Mode} (h : m ≠ .halfabort) (disarmed filled critical : Bool) :
    m.onUpdate disarmed filled critical false =
      if disarmed then .default
      else if m = .pressurise ∧ filled then .default
      else if critical ∧ m.isActive then .shutdown
      else m := by
  unfold onUpdate
  have hactive : (m = controlled ∨ m = pressurise ∨ m = debug ∨ m = halfabort) ↔
      m.isActive = true := by
    cases m <;> first | exact absurd rfl h | simp [isActive]
  simp only [hactive, Bool.false_eq_true, false_and, if_false]

variable {σ : Type} [SystemStatus σ]

/-- What the regulator keeps of a controller. -/
def Greg.regulator (g : Greg σ) : Regulator :=
  { mode := g.mode, disarmed := g.disarmed, tripped := g.flagSet .errorCriticalOVP }

/-- What the simulation is under: the flags agree with the state, and nothing
asks for a half abort. -/
structure NoHalfAbort (g : Greg σ) : Prop where
  consistent : Consistent g
  mode : g.mode ≠ .halfabort
  flag : g.flagSet .errorHalfabort = false

/-! ## The simulation -/

theorem regulator_mode {g : Greg σ} (h : NoHalfAbort g) (e : Event) :
    (step g e).mode = (g.regulator.step e).mode := by
  rw [step_mode h.consistent.flags]
  cases e with
  | update t p n =>
    show Mode.onUpdate _ _ _ (g.flagSet .errorHalfabort) g.mode = _
    rw [h.flag, Mode.onUpdate_five h.mode]
    simp only [decide_eq_true_iff, Regulator.step, Regulator.onUpdate, Greg.regulator,
      Bool.or_eq_true]
  | execute t arg =>
    show g.mode.next (if g.disarmed then .other else .execute arg) =
      (if g.disarmed then g.regulator
        else { g.regulator with mode := g.mode.onExecute arg }).mode
    split <;> rfl
  | _ => rfl

theorem regulator_disarmed {g : Greg σ} (h : FlagsAgree g) (e : Event) :
    (step g e).disarmed = (g.regulator.step e).disarmed := by
  cases e with
  | update t p n => exact (update_frame (h.sense t p n)).disarmed
  | arm t => rfl
  | disarm t => rfl
  | execute t arg =>
    show (if g.disarmed then g.begin t else (g.begin t).executeImpl arg).disarmed =
      (if g.disarmed then g.regulator
        else { g.regulator with mode := g.mode.onExecute arg }).disarmed
    split
    · rfl
    · exact (executeImpl_frame (h.begin t) arg).disarmed
  | extended t commandID arg => exact (extended_spec (g.begin t) commandID arg).disarmed

theorem regulator_tripped {g : Greg σ} (h : FlagsAgree g) (e : Event) :
    (step g e).flagSet .errorCriticalOVP = (g.regulator.step e).tripped := by
  rw [Bool.eq_iff_iff, step_critical h]
  cases e with
  | update t p n =>
    show _ ↔ (g.flagSet .errorCriticalOVP || decide (pHalfAbort < p)) = true
    rw [Bool.or_eq_true, decide_eq_true_iff]
    exact or_congr_right (by simp [Event.reading])
  | execute t arg =>
    show _ ∨ (∃ p ∈ none, _) ↔ (if g.disarmed then g.regulator
      else { g.regulator with mode := g.mode.onExecute arg }).tripped = true
    split <;> exact or_iff_left (by simp)
  | _ => exact or_iff_left (by simp [Event.reading])

/-- The regulator's moves are the controller's. -/
theorem regulator_step {g : Greg σ} (h : NoHalfAbort g) (e : Event) :
    (step g e).regulator = g.regulator.step e := by
  have hflags := h.consistent.flags
  show Regulator.mk (step g e).mode (step g e).disarmed ((step g e).flagSet .errorCriticalOVP) = _
  rw [regulator_mode h, regulator_disarmed hflags, regulator_tripped hflags]

theorem noHalfAbort_step {g : Greg σ} (h : NoHalfAbort g) (e : Event) :
    NoHalfAbort (step g e) where
  consistent := step_consistent h.consistent e
  mode := by
    rw [regulator_mode h]
    exact Regulator.step_halfabort h.mode e
  flag := by
    rw [step_flag_ne h.consistent.flags e (by decide) (by decide)]
    exact h.flag

theorem noHalfAbort_setup (disarmed : Bool) (now : UInt32) :
    NoHalfAbort (Greg.setup disarmed now : Greg σ) where
  consistent := setup_consistent disarmed now
  mode := Mode.noConfusion
  flag := setup_flagSet disarmed now (by decide)

/-- In every run of the controller its state, its arming and its latch are the
regulator's, which has never heard of the flags, the servo, the power, the
clock or the nitrogen pressure. -/
theorem run_regulator (disarmed : Bool) (now : UInt32) (es : List Event) :
    (run step (Greg.setup disarmed now : Greg σ) es).regulator =
      run Regulator.step { mode := .default, disarmed := disarmed, tripped := false } es := by
  have hstart : (Greg.setup disarmed now : Greg σ).regulator =
      { mode := .default, disarmed := disarmed, tripped := false } := by
    have hclear := setup_flagSet (σ := σ) disarmed now (f := .errorCriticalOVP) (by decide)
    show Regulator.mk _ _ (Greg.flagSet _ _) = _
    rw [hclear]
    rfl
  have hsim := run_simulates (f := id) (J := NoHalfAbort) (fun _ e hg => regulator_step hg e)
    (fun _ e hg => noHalfAbort_step hg e) (noHalfAbort_setup (σ := σ) disarmed now) es
  rw [hsim, hstart, List.map_id]

/-- HALFABORT is never entered and the two half-abort flags are never set. -/
theorem no_half_abort (disarmed : Bool) (now : UInt32) (es : List Event) :
    let g : Greg σ := run step (Greg.setup disarmed now) es
    g.mode ≠ .halfabort ∧ g.flagSet .errorHalfabort = false ∧ g.flagSet .errorFbpHOVP = false := by
  have hnone := run_keeps (P := NoHalfAbort) (fun _ e hg => noHalfAbort_step hg e)
    (noHalfAbort_setup (σ := σ) disarmed now) es
  exact ⟨hnone.mode, hnone.flag, run_never_set disarmed now es (by decide) (by decide)⟩

end Heimdall
