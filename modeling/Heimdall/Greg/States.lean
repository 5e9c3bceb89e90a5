import Heimdall.Greg.Control
import Mathlib.Tactic.Simps.Basic

/-!
# The buck timers and the six states

Bottom up: one function for each call on a collaborator, `buckOn`, `buckOff`
and `buckManager` of `ncrgreg.cpp`, the `initialize`, `update` and `exit` of
the six state classes, and the state machine that runs them.

`m_buckOffTime` is an absolute deadline, computed by an addition that may wrap,
with the largest counter value standing for "never"; the refresh in
`buckManager` is an elapsed-time difference. All of it is `uint32_t`, so
`UInt32` here.
-/

namespace Heimdall

namespace Greg

variable {σ : Type} [SystemStatus σ]

/-! ## Calls on the collaborators -/

/-- `m_regAdapter.arm(0)` -/
@[simps] def arm (g : Greg σ) : Greg σ :=
  { g with
    adapter := { g.adapter with armed := true }
    calls := (.arm, g.moment) :: g.calls }

/-- `m_regAdapter.execute(angle)` -/
@[simps] def execute (angle : Int) (g : Greg σ) : Greg σ :=
  { g with
    adapter := { g.adapter with angle := some angle }
    calls := (.execute angle, g.moment) :: g.calls }

/-- `m_regAdapter.disarm()` -/
@[simps] def disarm (g : Greg σ) : Greg σ :=
  { g with
    adapter := { g.adapter with armed := false }
    calls := (.disarm, g.moment) :: g.calls }

/-- `m_Buck.setEN(level)` -/
@[simps] def setEN (level : Bool) (g : Greg σ) : Greg σ :=
  { g with
    buckEN := level
    calls := (.setEN level, g.moment) :: g.calls }

/-- `m_GregStatus.flagSet(flag)` -/
def flagSet (g : Greg σ) (flag : GregFlags) : Bool := FlagStore.flagSet g.status flag

/-- `m_GregStatus.flagSetOr(flags...)` -/
def flagSetOr (g : Greg σ) (flags : List GregFlags) : Bool := FlagStore.flagSetOr g.status flags

/-- `m_GregStatus.newFlag(flag, info)` -/
@[simps] def newFlag (flag : GregFlags) (info : String) (g : Greg σ) : Greg σ :=
  { g with
    status := FlagStore.newFlag g.status flag
    calls := (.newFlag flag info, g.moment) :: g.calls }

/-- `m_GregStatus.deleteFlag(flag, info)` -/
@[simps] def deleteFlag (flag : GregFlags) (info : String) (g : Greg σ) : Greg σ :=
  { g with
    status := FlagStore.deleteFlag g.status flag
    calls := (.deleteFlag flag info, g.moment) :: g.calls }

/-- The parent class's `State::initialize`. -/
@[simps] def initializeState (flag : GregFlags) (g : Greg σ) : Greg σ :=
  { g with
    status := FlagStore.newFlag g.status flag
    calls := (.initializeState flag, g.moment) :: g.calls }

/-- The parent class's `State::exit`. -/
@[simps] def exitState (flag : GregFlags) (g : Greg σ) : Greg σ :=
  { g with
    status := FlagStore.deleteFlag g.status flag
    calls := (.exitState flag, g.moment) :: g.calls }

/-- The state machine's pointer to the current state object. -/
@[simps] def setMachine (new : StateObj) (g : Greg σ) : Greg σ := { g with machine := new }

/-! ## The buck timers -/

/-- `m_buckOffTime`'s "never". -/
def buckNever : UInt32 := UInt32.ofNat (UInt32.size - 1)

/-- `NRCGreg::buckOn` -/
@[simps] def buckOn (g : Greg σ) : Greg σ :=
  { g.setEN true with buckOffTime := buckNever, prevBuckTime := g.millis }

/-- `NRCGreg::buckOff` -/
@[simps] def buckOff (deadline : UInt32) (g : Greg σ) : Greg σ :=
  { g with buckOffTime := g.millis + deadline }

/-- The periodic refresh is due. -/
def refreshDue (g : Greg σ) : Prop := g.millis - g.prevBuckTime > 10000

/-- The off-deadline has passed. -/
def deadlinePassed (g : Greg σ) : Prop := g.millis > g.buckOffTime

instance (g : Greg σ) : Decidable g.refreshDue := inferInstanceAs (Decidable (_ < _))
instance (g : Greg σ) : Decidable g.deadlinePassed := inferInstanceAs (Decidable (_ < _))

/-- `NRCGreg::buckManager` -/
def buckManager (g : Greg σ) : Greg σ :=
  -- the refresh replaces whatever deadline a state has asked for
  if g.refreshDue then g.buckOn.buckOff 1000
  else if g.deadlinePassed then g.setEN false
  else g

end Greg

/-! ## The states -/

namespace StateObj

variable {σ : Type} [SystemStatus σ]

open Greg

/-- `Default::initialize` and `Shutdown::initialize` drive the valve closed and
`Halfabort::initialize` drives it to its own angle; only the first two ask for
the power to be held. -/
def initializeState (s : StateObj) (g : Greg σ) : Greg σ :=
  match s with
  | default =>
    g.initializeState .stateDefault |>.arm |>.execute closedAngle |>.disarm |>.buckOff 2000
  | pressurise => g.initializeState .statePressurise |>.arm |>.buckOn
  | controlled _ =>
    g.initializeState .stateControlled |>.arm |>.setMachine (.controlled g.millis) |>.buckOn
  | shutdown =>
    g.initializeState .stateShutdown |>.arm |>.execute closedAngle |>.disarm |>.buckOff 2000
  | halfabort regHalfAbortAngle =>
    g.initializeState .stateHalfabort |>.arm |>.execute (angleOf regHalfAbortAngle) |>.disarm
  | debug => g.initializeState .stateDebug |>.arm |>.buckOn

/-- `exit` of the six classes: `Pressurise` leaves the adapter armed, and
`Debug` leaves the off-deadline alone. -/
def exitState (s : StateObj) (g : Greg σ) : Greg σ :=
  match s with
  | default => g.exitState .stateDefault
  -- no `disarm` here: the state that follows arms and disarms anyway
  | pressurise => g.exitState .statePressurise |>.buckOff 1000
  | controlled _ => g.disarm |>.exitState .stateControlled |>.buckOff 2000
  | shutdown => g.exitState .stateShutdown
  | halfabort _ => g.exitState .stateHalfabort
  | debug => g.disarm |>.exitState .stateDebug

/-- `update` of the six classes: the state to change to, if any. -/
def update (s : StateObj) (g : Greg σ) : Option StateObj × Greg σ :=
  match s with
  | pressurise =>
    -- the servo is commanded even in the cycle that leaves
    let g' := g.execute (angleOf g.regPressuriseAngle)
    if g.feedbackP ≥ pSetpoint + pPressExtra then (some .default, g') else (none, g')
  | controlled stateEntry =>
    let (angle, g') := g.nextAngle
    if g.millis - stateEntry < 500 then
      (none, g'.execute (angleOf (min angle regMaxOpenFirstStart)))
    else (none, g'.execute (angleOf angle))
  | default | shutdown | halfabort _ | debug => (none, g)

end StateObj

/-! ## The state machine -/

namespace Greg

variable {σ : Type} [SystemStatus σ]

/-- `StateMachine::initalize`: the first state is entered. -/
def initalize (new : StateObj) (g : Greg σ) : Greg σ :=
  new.initializeState (g.setMachine new)

/-- `StateMachine::changeState`: `exit` of the old state, then `initialize` of
the new one. -/
def changeState (new : StateObj) (g : Greg σ) : Greg σ :=
  (g.machine.exitState g).initalize new

/-- `StateMachine::update` -/
def machineUpdate (g : Greg σ) : Greg σ :=
  match g.machine.update g with
  | (some new, g) => g.changeState new
  | (none, g) => g

end Greg

end Heimdall
