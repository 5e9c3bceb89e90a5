import Heimdall.Greg.Checks

/-!
# The guards, read as tests of the state

The controller's guards test bits of the status word. This module writes every
guarded function a second time with the guard on the machine's state instead
(`returnByMode`, `actByMode`, `executeByMode`, `extendedByMode`) and proves the
two equal wherever `FlagsAgree` holds. `FlagsAgree` has to hold in the middle
of `update`, where the guards are evaluated, so each phase of the cycle is
shown to keep it; `stepByMode_eq` is the outcome for a whole event.
-/

namespace Heimdall

variable {σ : Type} [SystemStatus σ]

/-! ## The phases that change no state -/

/-- `g'` is `g` after work on the buck and its timers only. -/
structure PowerOnly {σ : Type} (g g' : Greg σ) : Prop where
  frame : Frame g g'
  machine : g'.machine = g.machine
  status : g'.status = g.status
  adapter : g'.adapter = g.adapter
  sent : g'.sent = g.sent

namespace Greg

/-- The power the servo has after `buckManager`. -/
def power {σ : Type} (g : Greg σ) : Bool :=
  if g.refreshDue then true else if g.deadlinePassed then false else g.buckEN

/-- The controller after the first two lines of `update`. -/
def managed {σ : Type} (g : Greg σ) : Greg σ := { g with value := g.status }.buckManager

theorem managed_powerOnly {σ : Type} (g : Greg σ) : PowerOnly g g.managed := by
  unfold managed buckManager
  split
  · exact ⟨⟨rfl, rfl, rfl, rfl, rfl⟩, rfl, rfl, rfl, rfl⟩
  · split <;> exact ⟨⟨rfl, rfl, rfl, rfl, rfl⟩, rfl, rfl, rfl, rfl⟩

theorem managed_buckEN {σ : Type} (g : Greg σ) : g.managed.buckEN = g.power := by
  have hdue : refreshDue { g with value := g.status } ↔ g.refreshDue := Iff.rfl
  have hpast : deadlinePassed { g with value := g.status } ↔ g.deadlinePassed := Iff.rfl
  unfold managed buckManager power
  by_cases hr : g.refreshDue
  · rw [if_pos (hdue.mpr hr), if_pos hr]
    rfl
  · rw [if_neg (fun h => hr (hdue.mp h)), if_neg hr]
    by_cases hp : g.deadlinePassed
    · rw [if_pos (hpast.mpr hp), if_pos hp]
      rfl
    · rw [if_neg (fun h => hp (hpast.mp h)), if_neg hp]

theorem managed_dcCount {σ : Type} (g : Greg σ) : g.managed.dcCount = g.dcCount := by
  unfold managed buckManager
  split
  · rfl
  · split <;> rfl

/-! ## The state's own move -/

/-- What the current state's `update` does, its wish to change apart. -/
def ownMove {σ : Type} (g : Greg σ) : Greg σ := (g.machine.update g).2

/-- The angle `Controlled::update` sends, having been entered at `stateEntry`. -/
def controlAngle {σ : Type} (g : Greg σ) (stateEntry : UInt32) : UInt32 :=
  if g.millis - stateEntry < 500 then min g.nextAngle.1 regMaxOpenFirstStart else g.nextAngle.1

/-- The pressurisation has reached its target. -/
def Filled {σ : Type} (g : Greg σ) : Prop := pSetpoint + pPressExtra ≤ g.feedbackP

instance {σ : Type} (g : Greg σ) : Decidable g.Filled := inferInstanceAs (Decidable (_ ≤ _))

/-- The angle the current state's `update` sends, if it sends one. -/
def ownAngle {σ : Type} (g : Greg σ) : Option Int :=
  match g.machine with
  | .pressurise => some (angleOf g.regPressuriseAngle)
  | .controlled stateEntry => some (angleOf (g.controlAngle stateEntry))
  | _ => none

theorem ownAngle_congr {σ : Type} {g g' : Greg σ} (hframe : Frame g g')
    (hmachine : g'.machine = g.machine) : g'.ownAngle = g.ownAngle := by
  unfold ownAngle controlAngle
  rw [hmachine, hframe.regPressuriseAngle, hframe.millis,
    nextAngle_congr hframe.feedbackP hframe.n2P]

/-- `Controlled::update` computes an angle and sends it. -/
theorem ownMove_controlled {σ : Type} {g : Greg σ} {stateEntry : UInt32}
    (h : g.machine = .controlled stateEntry) :
    g.ownMove = g.nextAngle.2.execute (angleOf (g.controlAngle stateEntry)) := by
  unfold ownMove StateObj.update controlAngle
  rw [h]
  dsimp only
  split <;> rfl

theorem ownMove_pressurise {σ : Type} {g : Greg σ} (h : g.machine = .pressurise) :
    g.ownMove = g.execute (angleOf g.regPressuriseAngle) := by
  unfold ownMove StateObj.update
  rw [h]
  dsimp only
  split <;> rfl

/-- The other four states do nothing of their own. -/
theorem ownMove_idle {σ : Type} {g : Greg σ} (h : g.ownAngle = none) : g.ownMove = g := by
  unfold ownAngle at h
  unfold ownMove StateObj.update
  cases hm : g.machine <;> rw [hm] at h <;> first | rfl | exact absurd h (by simp)

/-- A state's own move is at most a servo command, with the terms of the
control law it was computed from. -/
inductive OwnMoveStep {σ : Type} (g : Greg σ) : Greg σ → Prop
  | idle (hangle : g.ownAngle = none) : OwnMoveStep g g
  | sends (angle : Int) (hangle : g.ownAngle = some angle) (ff kp pAngle : ℚ) :
      OwnMoveStep g
        (({ g with savedFF := ff, savedKp := kp, pAngle := pAngle } : Greg σ).execute angle)

theorem ownMove_step {σ : Type} (g : Greg σ) : OwnMoveStep g g.ownMove := by
  cases hm : g.machine with
  | controlled stateEntry =>
    obtain ⟨ff, kp, pAngle, hnext⟩ := g.nextAngle_snd
    rw [ownMove_controlled hm, hnext]
    exact .sends _ (by simp only [ownAngle, hm]) ff kp pAngle
  | pressurise =>
    rw [ownMove_pressurise hm]
    exact .sends _ (by simp only [ownAngle, hm]) g.savedFF g.savedKp g.pAngle
  | _ =>
    have hangle : g.ownAngle = none := by simp only [ownAngle, hm]
    rw [ownMove_idle hangle]
    exact .idle hangle

/-- The adapter is told the angle, and nothing else the arguments read is
touched. -/
structure OwnMove {σ : Type} (g g' : Greg σ) : Prop where
  frame : Frame g g'
  machine : g'.machine = g.machine
  status : g'.status = g.status
  buckEN : g'.buckEN = g.buckEN
  adapter : g'.adapter = { g.adapter with angle := g.ownAngle <|> g.adapter.angle }
  sent : g'.sent = (g.ownAngle.map fun angle => (angle, g.moment)).toList ++ g.sent

theorem ownMove_spec {σ : Type} (g : Greg σ) : OwnMove g g.ownMove := by
  have hstep := g.ownMove_step
  generalize g.ownMove = g' at hstep ⊢
  cases hstep with
  | idle hangle => exact ⟨Frame.refl g, rfl, rfl, rfl, by rw [hangle]; rfl, by rw [hangle]; rfl⟩
  | sends angle hangle ff kp pAngle =>
    exact ⟨⟨rfl, rfl, rfl, rfl, rfl⟩, rfl, rfl, rfl, by rw [hangle]; rfl, by rw [hangle]; rfl⟩

theorem ownMove_dcCount {σ : Type} (g : Greg σ) : g.ownMove.dcCount = g.dcCount := by
  have hstep := g.ownMove_step
  generalize g.ownMove = g' at hstep ⊢
  cases hstep with
  | idle hangle => rfl
  | sends angle hangle ff kp pAngle => rfl

/-- Only a finished pressurisation asks to leave its state. -/
theorem update_asks {σ : Type} (g : Greg σ) :
    (g.machine.update g).1 =
      if g.machine.mode = .pressurise ∧ g.Filled then some .default else none := by
  cases hm : g.machine with
  | pressurise =>
    unfold StateObj.update
    dsimp only
    by_cases hf : g.feedbackP ≥ pSetpoint + pPressExtra
    · rw [if_pos hf]
      exact (if_pos ⟨rfl, hf⟩).symm
    · rw [if_neg hf]
      exact (if_neg fun h => hf h.2).symm
  | controlled stateEntry =>
    rw [if_neg (fun h => absurd h.1 (by simp [StateObj.mode]))]
    unfold StateObj.update
    dsimp only
    split <;> rfl
  | _ => rw [if_neg (fun h => absurd h.1 (by simp [StateObj.mode])), StateObj.update]

theorem machineUpdate_eq (g : Greg σ) :
    g.machineUpdate =
      if g.machine.mode = .pressurise ∧ g.Filled then g.ownMove.changeState .default
      else g.ownMove := by
  have hasks := g.update_asks
  unfold machineUpdate ownMove
  cases hupd : g.machine.update g with
  | mk asks g' =>
    rw [hupd] at hasks
    by_cases hfin : g.machine.mode = .pressurise ∧ g.Filled
    · rw [if_pos hfin] at hasks ⊢
      subst hasks
      rfl
    · rw [if_neg hfin] at hasks ⊢
      subst hasks
      rfl

end Greg

/-! ## The flags agree wherever a guard is evaluated -/

/-- A step that keeps the status word and the state keeps the agreement. -/
theorem FlagsAgree.of_eq {g g' : Greg σ} (h : FlagsAgree g) (hstatus : g'.status = g.status)
    (hmachine : g'.machine = g.machine) : FlagsAgree g' := by
  intro m
  rw [Greg.flagSet, hstatus, hmachine]
  exact h m

/-- The clock and the readings do not matter to it. -/
theorem FlagsAgree.begin {g : Greg σ} (h : FlagsAgree g) (t : UInt32) : FlagsAgree (g.begin t) :=
  h.of_eq rfl rfl

theorem FlagsAgree.sense {g : Greg σ} (h : FlagsAgree g) (t : UInt32) (p n : ℚ) :
    FlagsAgree ((g.begin t).sense p n) :=
  h.of_eq rfl rfl

theorem FlagsAgree.managed {g : Greg σ} (h : FlagsAgree g) : FlagsAgree g.managed :=
  h.of_eq g.managed_powerOnly.status g.managed_powerOnly.machine

theorem FlagsAgree.ownMove {g : Greg σ} (h : FlagsAgree g) : FlagsAgree g.ownMove :=
  h.of_eq g.ownMove_spec.status g.ownMove_spec.machine

theorem FlagsAgree.machineUpdate {g : Greg σ} (h : FlagsAgree g) :
    FlagsAgree g.machineUpdate := by
  rw [Greg.machineUpdate_eq]
  split
  · exact h.ownMove.changeState .default
  · exact h.ownMove

theorem FlagsAgree.returnToDefault {g : Greg σ} (h : FlagsAgree g) :
    FlagsAgree g.returnToDefault := by
  unfold Greg.returnToDefault
  split
  · exact h.changeState .default
  · exact h

/-! ## Guards on the state -/

namespace Greg

/-- `returnToDefault`, asking the machine. -/
def returnByMode (g : Greg σ) : Greg σ :=
  if g.disarmed ∧ g.machine.mode ≠ .default then g.changeState .default else g

/-- `actOnFlags`, asking the machine. -/
def actByMode (g : Greg σ) : Greg σ :=
  if g.flagSet .errorCriticalOVP ∧ g.machine.mode ≠ .shutdown ∧ g.machine.mode ≠ .default then
    g.shutdown
  else if g.flagSet .errorHalfabort ∧ g.machine.mode = .controlled then
    if g.machine.mode = .default then g else g.halfabort
  else g

/-- `update`, asking the machine. -/
def updateByMode (g : Greg σ) : Greg σ :=
  g.managed.returnByMode.machineUpdate.checkFlags.actByMode

/-- `execute_impl`, asking the machine. -/
def executeByMode (arg : Int32) (g : Greg σ) : Greg σ :=
  if arg = 1 then
    if g.machine.mode ≠ .default then g else g.changeState (.controlled 0)
  else if arg = 2 then g.changeState .shutdown
  else if arg = 3 then
    if g.machine.mode ≠ .default then g else g.changeState .debug
  else if arg = 4 then
    if g.machine.mode ≠ .default then g else g.changeState .pressurise
  else g

/-- `extendedCommandHandler_impl`, asking the machine. -/
def extendedByMode (commandID : UInt8) (arg : Int32) (g : Greg σ) : Greg σ :=
  if commandID = 6 then
    if g.machine.mode = .debug then g.execute arg.toInt else g
  else if commandID = 7 then
    if arg.toUInt32 > g.regPressuriseAngle + 50 then g
    else { g with regPressuriseAngle := arg.toUInt32 }
  else g

theorem returnToDefault_eq {g : Greg σ} (h : FlagsAgree g) :
    g.returnToDefault = g.returnByMode := by
  have hdef : g.flagSet .stateDefault = true ↔ g.machine.mode = .default := h .default
  unfold returnToDefault returnByMode
  simp only [Bool.not_eq_true', ← Bool.not_eq_true, hdef, ne_eq]

theorem actOnFlags_eq {g : Greg σ} (h : FlagsAgree g) : g.actOnFlags = g.actByMode := by
  have hdef : g.flagSet .stateDefault = true ↔ g.machine.mode = .default := h .default
  have hshut : g.flagSet .stateShutdown = true ↔ g.machine.mode = .shutdown := h .shutdown
  have hctrl : g.flagSet .stateControlled = true ↔ g.machine.mode = .controlled := h .controlled
  unfold actOnFlags actByMode
  simp only [Bool.not_eq_true', ← Bool.not_eq_true, hdef, hshut, hctrl, ne_eq]

theorem update_eq {g : Greg σ} (h : FlagsAgree g) : g.update = g.updateByMode := by
  have hret : g.managed.returnToDefault = g.managed.returnByMode := returnToDefault_eq h.managed
  have hact := actOnFlags_eq h.managed.returnToDefault.machineUpdate.checkFlags
  show g.managed.returnToDefault.machineUpdate.checkFlags.actOnFlags = _
  rw [hact, hret]
  rfl

theorem executeImpl_eq {g : Greg σ} (h : FlagsAgree g) (arg : Int32) :
    g.executeImpl arg = g.executeByMode arg := by
  have hdef : g.flagSet .stateDefault = true ↔ g.machine.mode = .default := h .default
  unfold executeImpl executeByMode
  simp only [Bool.not_eq_true', ← Bool.not_eq_true, hdef, ne_eq]

theorem extendedCommandHandlerImpl_eq {g : Greg σ} (h : FlagsAgree g) (commandID : UInt8)
    (arg : Int32) :
    g.extendedCommandHandlerImpl commandID arg = g.extendedByMode commandID arg := by
  have hdbg : g.flagSet .stateDebug = true ↔ g.machine.mode = .debug := h .debug
  unfold extendedCommandHandlerImpl extendedByMode
  simp only [hdbg]

end Greg

/-- One event, every guard asking the machine for its state. -/
def stepByMode (g : Greg σ) : Event → Greg σ
  | .update t p n => (g.begin t).sense p n |>.updateByMode
  | .arm t => (g.begin t).setDisarmed false
  | .disarm t => (g.begin t).setDisarmed true
  | .execute t arg => if g.disarmed then g.begin t else (g.begin t).executeByMode arg
  | .extended t commandID arg => (g.begin t).extendedByMode commandID arg

/-- Where the flags agree with the machine, the guards decide as if they asked
the machine. -/
theorem stepByMode_eq {g : Greg σ} (h : FlagsAgree g) (e : Event) : step g e = stepByMode g e := by
  cases e with
  | update t p n => exact Greg.update_eq (h.sense t p n)
  | arm t => rfl
  | disarm t => rfl
  | execute t arg =>
    show (if g.disarmed then g.begin t else (g.begin t).executeImpl arg) = _
    rw [Greg.executeImpl_eq (h.begin t)]
    rfl
  | extended t commandID arg => exact Greg.extendedCommandHandlerImpl_eq (h.begin t) commandID arg

end Heimdall
