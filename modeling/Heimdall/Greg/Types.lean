import Heimdall.Lib.FlagStore
import Mathlib.Data.Rat.Defs

/-!
# The regulator controller's data

`src/nrcgreg/gregtypes.h` and the members of `nrcgreg.h`: the flags of
`m_GregStatus`, the six state objects, what the controller can call on its
collaborators, and the controller object itself.

The collaborators from libriccore, librrc and the Arduino core enter as the
controller uses them:

* `m_GregStatus` is any store that behaves as a set of the `GregFlags`
  (`SystemStatus`); `StatusWord` is the one-bit-each implementation the enum's
  values describe.
* `millis()` and the two pressure taps are read-only fields that an event sets
  before the code runs. One event sees one clock value and one pair of
  readings: sensors are refreshed in `remoteSensorUpdate`, before `update`.
* The servo adapter and the buck's enable pin keep what they were last told,
  and `calls` records every call made while the current event is handled,
  newest first, each stamped with what was the case when it was made.

Readings are rationals: every finite float is one, and the thresholds they are
compared with are exact in both.
-/

namespace Heimdall

/-! ## Flags -/

/-- `GREG_FLAGS`. -/
inductive GregFlags
  | stateDefault | statePressurise | stateControlled
  | stateShutdown | stateHalfabort | stateDebug
  | errorCriticalOVP | errorHalfabort
  | errorFeedbackP | errorFbpDC | errorFbpCOVP | errorFbpHOVP
  | errorN2P | errorN2pDC
  deriving DecidableEq, Repr

/-- The shift of each flag's `1 << n`. -/
def GregFlags.bit : GregFlags → Fin 32
  | stateDefault => 0
  | statePressurise => 1
  | stateControlled => 2
  | stateShutdown => 3
  | stateHalfabort => 4
  | stateDebug => 5
  | errorCriticalOVP => 6
  | errorHalfabort => 7
  | errorFeedbackP => 8
  | errorFbpDC => 9
  | errorFbpCOVP => 10
  | errorFbpHOVP => 11
  | errorN2P => 22
  | errorN2pDC => 23

/-- No two flags share a bit, so the enum's masks are a status word. -/
instance : BitCode GregFlags 32 where
  bit := GregFlags.bit
  bit_inj := by
    intro f g h
    cases f <;> cases g <;> first | rfl | exact absurd h (by decide)

/-- `SystemStatus_t`: a store that behaves as a set of the flags. -/
abbrev SystemStatus (σ : Type) := FlagStore GregFlags σ

/-- The status word of the enum's own bits. -/
abbrev StatusWord := FlagWord GregFlags 32

/-! ## States -/

/-- Which of the six states the machine is in. -/
inductive Mode
  | default | pressurise | controlled | shutdown | halfabort | debug
  deriving DecidableEq, Repr

namespace Mode

/-- The flag a state is constructed with. -/
def flag : Mode → GregFlags
  | default => .stateDefault
  | pressurise => .statePressurise
  | controlled => .stateControlled
  | shutdown => .stateShutdown
  | halfabort => .stateHalfabort
  | debug => .stateDebug

theorem flag_inj {m n : Mode} : m.flag = n.flag ↔ m = n := by
  constructor
  · intro h
    cases m <;> cases n <;> first | rfl | exact absurd h (by decide)
  · exact congrArg flag

/-- The states that move the servo and hold its power on. -/
def isActive : Mode → Bool
  | controlled | pressurise | debug => true
  | default | shutdown | halfabort => false

end Mode

/-- A state object. `Controlled` remembers when it was entered, `Halfabort`
the angle it was constructed with. -/
inductive StateObj
  | default
  | pressurise
  | controlled (stateEntry : UInt32)
  | shutdown
  | halfabort (regHalfAbortAngle : UInt32)
  | debug
  deriving DecidableEq, Repr

def StateObj.mode : StateObj → Mode
  | default => .default
  | pressurise => .pressurise
  | controlled _ => .controlled
  | shutdown => .shutdown
  | halfabort _ => .halfabort
  | debug => .debug

/-! ## Calls -/

/-- What the controller and its states call on `m_regAdapter`, `m_Buck` and
`m_GregStatus`. `initializeState` and `exitState` are the parent class's
`State::initialize` and `State::exit`, which set and clear the state's own flag. An angle is the value of the argument
expression; its conversion to the adapter's parameter type is librrc's. -/
inductive Call
  | arm
  | execute (angle : Int)
  | disarm
  | setEN (level : Bool)
  | newFlag (flag : GregFlags) (info : String)
  | deleteFlag (flag : GregFlags) (info : String)
  | initializeState (flag : GregFlags)
  | exitState (flag : GregFlags)
  deriving DecidableEq, Repr

/-- What was the case when a call was made. -/
structure Moment (σ : Type) where
  millis : UInt32
  mode : Mode
  status : σ
  disarmed : Bool
  buckEN : Bool

/-- The servo adapter: whether it is armed, and the last angle sent. -/
structure ServoAdapter where
  armed : Bool
  angle : Option Int
  deriving DecidableEq, Repr

/-! ## The controller -/

/-- `NRCGreg`, with the clock, the readings and the component flag it reads. -/
structure Greg (σ : Type) where
  /-- `millis()` -/
  millis : UInt32
  /-- `m_FeedbackPT.getPressure()` -/
  feedbackP : ℚ
  /-- `m_N2PT.getPressure()` -/
  n2P : ℚ
  /-- `_state.flagSet(DISARMED)` -/
  disarmed : Bool
  /-- `_value` -/
  value : σ
  /-- `m_GregStatus` -/
  status : σ
  /-- the state object `m_GregMachine` holds -/
  machine : StateObj
  regPressuriseAngle : UInt32
  prevBuckTime : UInt32
  buckOffTime : UInt32
  savedFF : ℚ
  savedKp : ℚ
  pAngle : ℚ
  dcCount : UInt8
  /-- `m_regAdapter` -/
  adapter : ServoAdapter
  /-- the level of the last `m_Buck.setEN` -/
  buckEN : Bool
  /-- the calls of the event being handled, newest first -/
  calls : List (Call × Moment σ)

namespace Greg

variable {σ : Type}

/-- The state the machine is in. -/
def mode (g : Greg σ) : Mode := g.machine.mode

/-- The stamp of a call made now. -/
def moment (g : Greg σ) : Moment σ :=
  { millis := g.millis, mode := g.mode, status := g.status, disarmed := g.disarmed,
    buckEN := g.buckEN }

/-- The angles sent through the adapter in this event, newest first. -/
def sent (g : Greg σ) : List (Int × Moment σ) :=
  g.calls.filterMap fun c =>
    match c.1 with
    | .execute angle => some (angle, c.2)
    | _ => none

end Greg

end Heimdall
