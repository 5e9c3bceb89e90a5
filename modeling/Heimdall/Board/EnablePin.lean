import Heimdall.Board.Loop
import Heimdall.Greg.Guards

/-!
# The enable pin

The controller and the board have the buck converter in common. The
controller's own record, `buckEN`, is what everything said about its power
speaks of; the board's converter has the pin. The two agree in every state the
loop reaches (`isOn_run`): the calls of an event end with the level the
controller records, if they write one at all (`Echoes`), and the board passes
the calls on.
-/

namespace Heimdall

open EventRun

/-- The level a call writes to the enable pin. -/
def Call.enLevel : Call → Option Bool
  | setEN level => some level
  | _ => none

namespace Greg

variable {σ : Type}

/-- The last level an event wrote. -/
def lastEN (g : Greg σ) : Option Bool := g.calls.findSome? fun c => c.1.enLevel

theorem getLast?_enLevels (g : Greg σ) : g.enLevels.getLast? = g.lastEN := by
  have hlevels : g.enLevels = (g.calls.filterMap fun c => c.1.enLevel).reverse := by
    rw [← List.filterMap_reverse]
    rfl
  rw [hlevels, List.getLast?_reverse, List.head?_filterMap]
  rfl

@[simp] theorem lastEN_arm (g : Greg σ) : g.arm.lastEN = g.lastEN := rfl
@[simp] theorem lastEN_disarm (g : Greg σ) : g.disarm.lastEN = g.lastEN := rfl
@[simp] theorem lastEN_execute (angle : Int) (g : Greg σ) :
    (g.execute angle).lastEN = g.lastEN := rfl
@[simp] theorem lastEN_setMachine (new : StateObj) (g : Greg σ) :
    (g.setMachine new).lastEN = g.lastEN := rfl
@[simp] theorem lastEN_buckOff (d : UInt32) (g : Greg σ) : (g.buckOff d).lastEN = g.lastEN := rfl
@[simp] theorem lastEN_buckOn (g : Greg σ) : g.buckOn.lastEN = some true := rfl

/-- What the controller records is the last level written, or `before` when
none was. -/
def Echoes (before : Bool) (g : Greg σ) : Prop := g.lastEN.getD before = g.buckEN

variable {before : Bool} {g : Greg σ}

/-! ## Through an update -/

theorem Echoes.buckManager (h : Echoes before g) : Echoes before g.buckManager := by
  unfold Greg.buckManager
  split
  · rfl
  · split
    · rfl
    · exact h

theorem Echoes.ownMove (h : Echoes before g) : Echoes before g.ownMove := by
  have hstep := g.ownMove_step
  generalize g.ownMove = g' at hstep ⊢
  cases hstep with
  | idle _ => exact h
  | sends _ _ _ _ _ => exact h

variable [SystemStatus σ]

@[simp] theorem lastEN_initializeState (f : GregFlags) (g : Greg σ) :
    (g.initializeState f).lastEN = g.lastEN := rfl
@[simp] theorem lastEN_exitState (f : GregFlags) (g : Greg σ) :
    (g.exitState f).lastEN = g.lastEN := rfl

/-- No state writes the pin on its way out, -/
theorem lastEN_leave (s : StateObj) (g : Greg σ) : (s.exitState g).lastEN = g.lastEN := by
  cases s <;> simp [StateObj.exitState]

/-- and one that asks for power writes it on its way in. -/
theorem lastEN_enter (s : StateObj) (g : Greg σ) :
    (s.initializeState g).lastEN = if s.mode.isActive then some true else g.lastEN := by
  cases s <;> simp [StateObj.initializeState, StateObj.mode, Mode.isActive]

theorem Echoes.changeState (h : Echoes before g) (new : StateObj) :
    Echoes before (g.changeState new) := by
  unfold Echoes
  rw [changeState_buckEN, Greg.changeState, initalize, lastEN_enter, lastEN_setMachine,
    lastEN_leave]
  cases new.mode.isActive with
  | true => rfl
  | false => exact h

theorem Echoes.writes {f : GregFlags} {g' : Greg σ} (h : Echoes before g)
    (hwrites : WritesFlag f g g') : Echoes before g' := by
  cases hwrites with
  | leaves => exact h
  | raises _ _ => exact h
  | lowers _ _ => exact h

theorem Echoes.checkPressures (h : Echoes before g) : Echoes before g.checkPressures := by
  have hsensors : Echoes before g.checkSensors :=
    ((((((h.writes (checkDisconnect_writes _ _ _ _)).writes
      (checkDisconnect_writes _ _ _ _)).writes
      (checkOverPressure_writes _ _ _ _ _ _ _)).writes
      (checkOverPressure_writes _ _ _ _ _ _ _)).writes
      (checkGenericPTFlag_writes _ _ _ _)).writes
      (checkGenericPTFlag_writes _ _ _ _))
  have hcritical : Echoes before g.checkSensors.raiseCritical :=
    hsensors.writes (raiseCritical_writes _)
  unfold Greg.checkPressures actOnFlags
  split_ifs
  · exact hcritical.changeState _
  · exact hcritical
  · exact hcritical.changeState _
  · exact hcritical

theorem Echoes.update (h : Echoes before g) : Echoes before g.update := by
  have hpower : Echoes before (Greg.buckManager { g with value := g.status }) :=
    Echoes.buckManager h
  unfold Greg.update
  refine Echoes.checkPressures ?_
  rw [machineUpdate_eq]
  have hreturn : Echoes before (Greg.buckManager { g with value := g.status }).returnToDefault := by
    unfold returnToDefault
    split
    · exact hpower.changeState _
    · exact hpower
  split
  · exact hreturn.ownMove.changeState _
  · exact hreturn.ownMove

/-- An update starts with no call, so its calls end with the level recorded. -/
theorem echoes_step (g : Greg σ) (t : UInt32) (p n : ℚ) :
    Echoes g.buckEN (step g (.update t p n)) := by
  have hstart : Echoes g.buckEN ((g.begin t).sense p n) := rfl
  exact hstart.update

end Greg

/-! ## The board -/

variable {σ τ : Type}

/-- Writing a list of levels leaves the last of them. -/
theorem SiC43x.isOn_foldl_setEN (levels : List Bool) (c : SiC43x τ) :
    (levels.foldl (fun c level => c.setEN level) c).isOn = levels.getLast?.getD c.isOn := by
  induction levels generalizing c with
  | nil => rfl
  | cons level levels ih =>
    rw [List.foldl_cons, ih, isOn_setEN, List.getLast?_cons]
    rfl

variable [SystemFlags τ] [SystemStatus σ]

namespace Board

theorem isOn_followEN {σ τ : Type} {b : Board σ τ} (h : b.heimdall.Echoes b.buck.isOn) :
    b.followEN.buck.isOn = b.followEN.heimdall.buckEN := by
  show (b.heimdall.enLevels.foldl (fun c level => c.setEN level) b.buck).isOn = b.heimdall.buckEN
  rw [SiC43x.isOn_foldl_setEN, Greg.getLast?_enLevels]
  exact h

/-- Logging touches neither the converter's pin nor the controller. -/
theorem isOn_logReadings {σ : Type} (now : UInt64) (sdError : UInt8) (b : Board σ τ) :
    (b.logReadings now sdError).buck.isOn = b.buck.isOn ∧
      (b.logReadings now sdError).heimdall = b.heimdall := by
  unfold logReadings reportSD logTelemetry
  split <;> split <;> exact ⟨rfl, rfl⟩

theorem isOn_systemUpdate (libs : BoardLibs τ) {b : Board σ τ}
    (h : b.buck.isOn = b.heimdall.buckEN) (i : CycleInputs) :
    (b.systemUpdate libs i).buck.isOn = (b.systemUpdate libs i).heimdall.buckEN := by
  obtain ⟨hpin, hgreg⟩ :=
    ((b.deviceUpdate i).remoteSensorUpdate libs).isOn_logReadings i.micros i.sdError
  unfold systemUpdate heimdallUpdate
  refine isOn_followEN ?_
  show Greg.Echoes (Board.buck _).isOn (step (Board.heimdall _) _)
  rw [hpin, hgreg]
  show Greg.Echoes b.buck.isOn (step b.heimdall _)
  rw [h]
  exact b.heimdall.echoes_step _ _ _

/-- In every state the loop reaches, the converter is on exactly when the
controller has it on. -/
theorem isOn_run (libs : BoardLibs τ) (begins : Bool) (now : UInt32) (is : List CycleInputs) :
    (run (systemUpdate libs) (setup libs begins now : Board σ τ) is).buck.isOn =
      (run (systemUpdate libs) (setup libs begins now : Board σ τ) is).heimdall.buckEN := by
  refine run_keeps (P := fun b : Board σ τ => b.buck.isOn = b.heimdall.buckEN)
    (fun _ i hb => isOn_systemUpdate libs hb i) ?_ is
  exact isOn_followEN rfl

end Board

end Heimdall
