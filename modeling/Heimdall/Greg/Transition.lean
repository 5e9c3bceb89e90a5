import Heimdall.Greg.Controller

/-!
# What a transition does

`changeState` runs two methods out of twelve, but says little: the status word
swaps one state flag for another, the adapter ends armed exactly in the states
that move the servo, a passive state sends its resting angle, and an active
one turns the buck on. Each fact is a pair of lemmas, about leaving and about
entering, and one about the transition.

The controller keeps its state twice, in the state object and as a bit of the
status word, and guards test the bit. `FlagsAgree` says the two agree and
`Consistent` adds what the adapter was last told; every transition establishes
both from the flags alone, so no argument about which state can follow which
is needed.
-/

namespace Heimdall

/-! ## Frames -/

/-- What neither a transition nor a check touches: the inputs of the event,
and the angle an operator set. -/
structure Frame {σ : Type} (g g' : Greg σ) : Prop where
  millis : g'.millis = g.millis
  feedbackP : g'.feedbackP = g.feedbackP
  n2P : g'.n2P = g.n2P
  disarmed : g'.disarmed = g.disarmed
  regPressuriseAngle : g'.regPressuriseAngle = g.regPressuriseAngle

theorem Frame.refl {σ : Type} (g : Greg σ) : Frame g g := ⟨rfl, rfl, rfl, rfl, rfl⟩

theorem Frame.trans {σ : Type} {g₁ g₂ g₃ : Greg σ} (h : Frame g₁ g₂) (h' : Frame g₂ g₃) :
    Frame g₁ g₃ :=
  ⟨h'.millis.trans h.millis, h'.feedbackP.trans h.feedbackP, h'.n2P.trans h.n2P,
    h'.disarmed.trans h.disarmed, h'.regPressuriseAngle.trans h.regPressuriseAngle⟩

/-! ## Angles sent -/

namespace Greg

variable {σ : Type}

@[simp] theorem sent_arm (g : Greg σ) : g.arm.sent = g.sent := rfl
@[simp] theorem sent_disarm (g : Greg σ) : g.disarm.sent = g.sent := rfl
@[simp] theorem sent_setMachine (new : StateObj) (g : Greg σ) :
    (g.setMachine new).sent = g.sent := rfl
@[simp] theorem sent_setEN (level : Bool) (g : Greg σ) : (g.setEN level).sent = g.sent := rfl
@[simp] theorem sent_buckOn (g : Greg σ) : g.buckOn.sent = g.sent := rfl
@[simp] theorem sent_buckOff (d : UInt32) (g : Greg σ) : (g.buckOff d).sent = g.sent := rfl
@[simp] theorem sent_execute (angle : Int) (g : Greg σ) :
    (g.execute angle).sent = (angle, g.moment) :: g.sent := rfl

variable [SystemStatus σ]

@[simp] theorem sent_initializeState (f : GregFlags) (g : Greg σ) :
    (g.initializeState f).sent = g.sent := rfl
@[simp] theorem sent_exitState (f : GregFlags) (g : Greg σ) :
    (g.exitState f).sent = g.sent := rfl

end Greg

/-- The angle a passive state drives the valve to when it is entered. -/
def StateObj.restAngle : StateObj → Option Int
  | .default | .shutdown => some closedAngle
  | .halfabort regHalfAbortAngle => some (angleOf regHalfAbortAngle)
  | .pressurise | .controlled _ | .debug => none

/-! ## Leaving and entering -/

namespace StateObj

variable {σ : Type} [SystemStatus σ]

theorem exitState_frame (s : StateObj) (g : Greg σ) : Frame g (s.exitState g) := by
  cases s <;> constructor <;> simp [exitState]

theorem exitState_status (s : StateObj) (g : Greg σ) :
    (s.exitState g).status = FlagStore.deleteFlag g.status s.mode.flag := by
  cases s <;> simp [exitState, mode, Mode.flag]

theorem exitState_buckEN (s : StateObj) (g : Greg σ) : (s.exitState g).buckEN = g.buckEN := by
  cases s <;> simp [exitState]

theorem exitState_angle (s : StateObj) (g : Greg σ) :
    (s.exitState g).adapter.angle = g.adapter.angle := by
  cases s <;> simp [exitState]

theorem exitState_sent (s : StateObj) (g : Greg σ) : (s.exitState g).sent = g.sent := by
  cases s <;> simp [exitState]

theorem exitState_dcCount (s : StateObj) (g : Greg σ) : (s.exitState g).dcCount = g.dcCount := by
  cases s <;> simp [exitState]

theorem initializeState_frame (s : StateObj) (g : Greg σ) : Frame g (s.initializeState g) := by
  cases s <;> constructor <;> simp [initializeState]

theorem initializeState_mode (s : StateObj) (g : Greg σ) (h : g.machine = s) :
    (s.initializeState g).machine.mode = s.mode := by
  cases s <;> simp [initializeState, h, mode]

theorem initializeState_status (s : StateObj) (g : Greg σ) :
    (s.initializeState g).status = FlagStore.newFlag g.status s.mode.flag := by
  cases s <;> simp [initializeState, mode, Mode.flag]

theorem initializeState_buckEN (s : StateObj) (g : Greg σ) :
    (s.initializeState g).buckEN = (s.mode.isActive || g.buckEN) := by
  cases s <;> simp [initializeState, mode, Mode.isActive]

theorem initializeState_armed (s : StateObj) (g : Greg σ) :
    (s.initializeState g).adapter.armed = s.mode.isActive := by
  cases s <;> simp [initializeState, mode, Mode.isActive]

theorem initializeState_angle (s : StateObj) (g : Greg σ) :
    (s.initializeState g).adapter.angle = (s.restAngle <|> g.adapter.angle) := by
  cases s <;> simp [initializeState, restAngle]

theorem initializeState_dcCount (s : StateObj) (g : Greg σ) :
    (s.initializeState g).dcCount = g.dcCount := by
  cases s <;> simp [initializeState]

/-- Entering a passive state sends its resting angle, at a moment that already
carries the new state and its flag; entering an active one sends nothing. -/
theorem initializeState_sent (s : StateObj) (g : Greg σ) (h : g.machine = s) :
    (s.initializeState g).sent =
      match s.restAngle with
      | some angle =>
        (angle,
          { g.moment with status := FlagStore.newFlag g.status s.mode.flag }) :: g.sent
      | none => g.sent := by
  cases s <;>
    simp [initializeState, restAngle, Greg.moment, Greg.mode, h, mode, Mode.flag]

end StateObj

/-! ## The transition -/

namespace Greg

variable {σ : Type} [SystemStatus σ]

theorem changeState_frame (new : StateObj) (g : Greg σ) : Frame g (g.changeState new) := by
  have hleave := g.machine.exitState_frame g
  have hset : Frame (g.machine.exitState g) ((g.machine.exitState g).setMachine new) :=
    ⟨rfl, rfl, rfl, rfl, rfl⟩
  exact (hleave.trans hset).trans (new.initializeState_frame _)

@[simp] theorem changeState_mode (new : StateObj) (g : Greg σ) :
    (g.changeState new).machine.mode = new.mode :=
  new.initializeState_mode _ rfl

theorem changeState_status (new : StateObj) (g : Greg σ) :
    (g.changeState new).status =
      FlagStore.newFlag (FlagStore.deleteFlag g.status g.machine.mode.flag) new.mode.flag := by
  rw [changeState, initalize, StateObj.initializeState_status, setMachine_status,
    StateObj.exitState_status]

theorem changeState_buckEN (new : StateObj) (g : Greg σ) :
    (g.changeState new).buckEN = (new.mode.isActive || g.buckEN) := by
  rw [changeState, initalize, StateObj.initializeState_buckEN, setMachine_buckEN,
    StateObj.exitState_buckEN]

theorem changeState_armed (new : StateObj) (g : Greg σ) :
    (g.changeState new).adapter.armed = new.mode.isActive :=
  new.initializeState_armed _

theorem changeState_angle (new : StateObj) (g : Greg σ) :
    (g.changeState new).adapter.angle = (new.restAngle <|> g.adapter.angle) := by
  rw [changeState, initalize, StateObj.initializeState_angle, setMachine_adapter,
    StateObj.exitState_angle]

theorem changeState_dcCount (new : StateObj) (g : Greg σ) :
    (g.changeState new).dcCount = g.dcCount := by
  rw [changeState, initalize, StateObj.initializeState_dcCount, setMachine_dcCount,
    StateObj.exitState_dcCount]

/-- The moment a transition from `g` to `new` drives the valve at. -/
def entryMoment (new : StateObj) (g : Greg σ) : Moment σ :=
  { g.moment with
    mode := new.mode
    status := FlagStore.newFlag (FlagStore.deleteFlag g.status g.machine.mode.flag) new.mode.flag }

theorem changeState_sent (new : StateObj) (g : Greg σ) :
    (g.changeState new).sent =
      match new.restAngle with
      | some angle => (angle, g.entryMoment new) :: g.sent
      | none => g.sent := by
  have hframe := g.machine.exitState_frame g
  have hstatus := g.machine.exitState_status g
  have hbuck := g.machine.exitState_buckEN g
  have hsent := g.machine.exitState_sent g
  rw [changeState, initalize, StateObj.initializeState_sent _ _ (setMachine_machine _ _)]
  simp only [moment, mode, entryMoment, setMachine_millis, setMachine_machine, setMachine_status,
    setMachine_disarmed, setMachine_buckEN, sent_setMachine, hframe.millis, hframe.disarmed,
    hstatus, hbuck, hsent]

/-! ## Flags -/

theorem changeState_flagSet_self (new : StateObj) (g : Greg σ) :
    (g.changeState new).flagSet new.mode.flag = true := by
  rw [flagSet, changeState_status, FlagStore.flagSet_newFlag_self]

/-- A transition leaves every flag alone but those of its two states. -/
theorem changeState_flagSet_ne (new : StateObj) (g : Greg σ) {f : GregFlags}
    (hnew : f ≠ new.mode.flag) (hold : f ≠ g.machine.mode.flag) :
    (g.changeState new).flagSet f = g.flagSet f := by
  rw [flagSet, changeState_status, FlagStore.flagSet_newFlag_ne _ hnew,
    FlagStore.flagSet_deleteFlag_ne _ hold]
  rfl

end Greg

/-- The flags no state is constructed with. -/
def GregFlags.isError (f : GregFlags) : Prop := ∀ m : Mode, f ≠ m.flag

instance : DecidablePred GregFlags.isError := fun f =>
  decidable_of_iff
    (f ≠ Mode.default.flag ∧ f ≠ Mode.pressurise.flag ∧ f ≠ Mode.controlled.flag ∧
      f ≠ Mode.shutdown.flag ∧ f ≠ Mode.halfabort.flag ∧ f ≠ Mode.debug.flag)
    ⟨fun h m => by
      obtain ⟨h₁, h₂, h₃, h₄, h₅, h₆⟩ := h
      cases m <;> assumption,
     fun h => ⟨h _, h _, h _, h _, h _, h _⟩⟩

variable {σ : Type} [SystemStatus σ]

theorem Greg.changeState_isError (new : StateObj) (g : Greg σ) {f : GregFlags} (h : f.isError) :
    (g.changeState new).flagSet f = g.flagSet f :=
  g.changeState_flagSet_ne new (h _) (h _)

/-! ## The two copies of the state -/

/-- A state flag is set exactly when the machine is in its state. -/
def FlagsAgree (g : Greg σ) : Prop := ∀ m : Mode, g.flagSet m.flag = true ↔ g.machine.mode = m

theorem FlagsAgree.changeState {g : Greg σ} (h : FlagsAgree g) (new : StateObj) :
    FlagsAgree (g.changeState new) := by
  intro m
  rw [Greg.changeState_mode]
  by_cases hnew : m = new.mode
  · subst hnew
    exact iff_of_true (g.changeState_flagSet_self new) rfl
  · -- any other state's flag: the old one's has just been cleared
    refine iff_of_false ?_ (fun he => hnew he.symm)
    rw [Greg.flagSet, Greg.changeState_status,
      FlagStore.flagSet_newFlag_ne _ (fun he => hnew (Mode.flag_inj.mp he)),
      FlagStore.flagSet_deleteFlag]
    intro hset
    exact hset.1 (congrArg Mode.flag ((h m).mp hset.2).symm)

/-- The angle the adapter was last sent in each of the passive states. -/
def Mode.restAngle : Mode → Option Int
  | .default | .shutdown => some closedAngle
  | .halfabort => some (angleOf halfAbortAngle)
  | .pressurise | .controlled | .debug => none

/-- The state object, its flag and the adapter tell the same story. -/
structure Consistent (g : Greg σ) : Prop where
  flags : FlagsAgree g
  armed : g.adapter.armed = g.machine.mode.isActive
  rest : ∀ angle, g.machine.mode.restAngle = some angle → g.adapter.angle = some angle

/-- A transition establishes the whole invariant from the flags alone, as long
as the new object's angle is the one its state stands for. -/
theorem FlagsAgree.changeState_consistent {g : Greg σ} (h : FlagsAgree g) {new : StateObj}
    (hnew : new.restAngle = new.mode.restAngle) : Consistent (g.changeState new) where
  flags := h.changeState new
  armed := by rw [Greg.changeState_armed, Greg.changeState_mode]
  rest := by
    intro angle hangle
    rw [Greg.changeState_mode] at hangle
    rw [Greg.changeState_angle, hnew, hangle]
    rfl

end Heimdall
