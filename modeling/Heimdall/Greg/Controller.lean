import Heimdall.Greg.States
import Heimdall.Lib.EventRun

/-!
# The controller

`NRCGreg` itself: the pressure checks, `update`, the two command handlers and
`setup` of `ncrgreg.cpp`, and the events that drive them.

The base class in librrc dispatches packets to the handlers. What it promises
is part of `step`: an arm or disarm packet clears or sets `DISARMED` at once,
`execute_impl` is reached only while armed, and the extended handler whether
armed or not.
-/

namespace Heimdall

open EventRun

namespace Greg

variable {σ : Type} [SystemStatus σ]

/-! ## Pressure checks -/

/-- `NRCGreg::checkDisconnect` -/
def checkDisconnect (value : ℚ) (errFlag : GregFlags) (errName : String) (g : Greg σ) : Greg σ :=
  if value < pDisconnect then
    if !g.flagSet errFlag then
      let g := g.newFlag errFlag (errName ++ " disconnected!")
      { g with dcCount := g.dcCount + 1 }
    else g
  else if value > pDisconnect ∧ g.flagSet errFlag then
    let g := g.deleteFlag errFlag (errName ++ " reading back in expected range!")
    { g with dcCount := g.dcCount - 1 }
  else g

/-- The body `checkCOverPressure` and `checkHOverPressure` share: the flag is
raised above the limit and lowered below it. -/
def checkOverPressure (limit : ℚ) (above below : String) (value : ℚ) (errFlag : GregFlags)
    (errName : String) (g : Greg σ) : Greg σ :=
  if value > limit then
    if !g.flagSet errFlag then g.newFlag errFlag (errName ++ above) else g
  else if value < limit ∧ g.flagSet errFlag then g.deleteFlag errFlag (errName ++ below)
  else g

/-- `NRCGreg::checkCOverPressure` -/
def checkCOverPressure (value : ℚ) (errFlag : GregFlags) (errName : String) (g : Greg σ) :
    Greg σ :=
  checkOverPressure pFullAbort " exceeded critical pressure!"
    " reading back below critical pressure!" value errFlag errName g

/-- `NRCGreg::checkHOverPressure` -/
def checkHOverPressure (value : ℚ) (errFlag : GregFlags) (errName : String) (g : Greg σ) :
    Greg σ :=
  checkOverPressure pHalfAbort " exceeded half abort pressure!"
    " reading back below half abort pressure!" value errFlag errName g

/-- `NRCGreg::checkGenericPTFlag` -/
def checkGenericPTFlag (genericFlag : GregFlags) (errName : String) (errFlags : List GregFlags)
    (g : Greg σ) : Greg σ :=
  if g.flagSetOr errFlags ∧ !g.flagSet genericFlag then
    g.newFlag genericFlag ("One or more errors found with " ++ errName ++ "!")
  else if !g.flagSetOr errFlags ∧ g.flagSet genericFlag then
    g.deleteFlag genericFlag ("Component " ++ errName ++ " is no longer in error state!")
  else g

/-- `NRCGreg::shutdown` -/
def shutdown (g : Greg σ) : Greg σ := g.changeState .shutdown

/-- `NRCGreg::halfabort` -/
def halfabort (g : Greg σ) : Greg σ := g.changeState (.halfabort halfAbortAngle)

/-- The per-sensor checks of `NRCGreg::checkPressures`. The half-abort check is
handed `ERROR_FBP_COVP`, as the source does. -/
def checkSensors (g : Greg σ) : Greg σ :=
  let g := g.checkDisconnect g.feedbackP .errorFbpDC "Feedback PT"
  let g := g.checkDisconnect g.n2P .errorN2pDC "Local nitrogen PT"
  let g := g.checkCOverPressure g.feedbackP .errorFbpCOVP "Feedback PT"
  -- the flag of the check before, not `ERROR_FBP_HOVP`
  let g := g.checkHOverPressure g.feedbackP .errorFbpCOVP "Feedback PT"
  let g := g.checkGenericPTFlag .errorFeedbackP "feedback pressure local"
    [.errorFbpCOVP, .errorFbpDC, .errorFbpHOVP]
  g.checkGenericPTFlag .errorN2P "n2 tank" [.errorN2pDC]

/-- The latch of `NRCGreg::checkPressures`: nothing in the source clears it. -/
def raiseCritical (g : Greg σ) : Greg σ :=
  if g.flagSetOr [.errorFbpCOVP] ∧ !g.flagSet .errorCriticalOVP then
    g.newFlag .errorCriticalOVP "One or more pressures above the critical threshold!"
  else g

/-- The end of `NRCGreg::checkPressures`: the two guarded transitions. -/
def actOnFlags (g : Greg σ) : Greg σ :=
  if g.flagSet .errorCriticalOVP ∧ !g.flagSet .stateShutdown ∧ !g.flagSet .stateDefault then
    g.shutdown
  else if g.flagSet .errorHalfabort ∧ g.flagSet .stateControlled then
    -- unreachable with both flags agreeing, but the source tests it
    if g.flagSet .stateDefault then g else g.halfabort
  else g

/-- `NRCGreg::checkPressures` -/
def checkPressures (g : Greg σ) : Greg σ := g.checkSensors.raiseCritical.actOnFlags

/-! ## The cycle and the commands -/

/-- The first transition of `update`: back to default when disarmed. -/
def returnToDefault (g : Greg σ) : Greg σ :=
  if g.disarmed ∧ !g.flagSet .stateDefault then g.changeState .default else g

/-- `NRCGreg::update` -/
def update (g : Greg σ) : Greg σ :=
  { g with value := g.status }
    |>.buckManager |>.returnToDefault |>.machineUpdate |>.checkPressures

/-- `NRCGreg::execute_impl` -/
def executeImpl (arg : Int32) (g : Greg σ) : Greg σ :=
  -- controlled: only from default; `initialize` sets the entry time
  if arg = 1 then
    if !g.flagSet .stateDefault then g else g.changeState (.controlled 0)
  -- shutdown: from any state, itself included
  else if arg = 2 then g.changeState .shutdown
  -- debug and pressurise: only from default
  else if arg = 3 then
    if !g.flagSet .stateDefault then g else g.changeState .debug
  else if arg = 4 then
    if !g.flagSet .stateDefault then g else g.changeState .pressurise
  else g

/-- `NRCGreg::extendedCommandHandler_impl`. The comparison of command 7 is
unsigned: the packet's signed argument is converted. Every other command goes
to the base class, whose arm, disarm and execute are events of their own. -/
def extendedCommandHandlerImpl (commandID : UInt8) (arg : Int32) (g : Greg σ) : Greg σ :=
  -- 6 moves the servo, armed or not
  if commandID = 6 then
    if g.flagSet .stateDebug then g.execute arg.toInt else g
  -- 7 sets the pressurise angle, against its own last value
  else if commandID = 7 then
    if arg.toUInt32 > g.regPressuriseAngle + 50 then g
    else { g with regPressuriseAngle := arg.toUInt32 }
  else g

/-- The members before `setup`: the initialisers of `nrcgreg.h`, and zero for
the members of a static object that have none. The machine holds no state yet;
`setup` enters the first without reading this field. Whether the component
starts disarmed is librrc's choice. -/
def constructed (disarmed : Bool) (now : UInt32) : Greg σ :=
  { millis := now
    feedbackP := 0
    n2P := 0
    disarmed := disarmed
    value := FlagStore.empty GregFlags
    status := FlagStore.empty GregFlags
    machine := .default
    regPressuriseAngle := 380
    prevBuckTime := 0
    buckOffTime := 0
    savedFF := 0
    savedKp := 0
    pAngle := 0
    dcCount := 0
    adapter := { armed := false, angle := none }
    buckEN := false
    calls := [] }

/-- `NRCGreg::setup` -/
def setup (disarmed : Bool) (now : UInt32) : Greg σ :=
  (constructed disarmed now).buckOn |>.buckOff 1000 |>.initalize .default

end Greg

/-! ## Events -/

/-- What happens to the controller, with the clock it happens at. -/
inductive Event
  | update (millis : UInt32) (feedbackP n2P : ℚ)
  | arm (millis : UInt32)
  | disarm (millis : UInt32)
  | execute (millis : UInt32) (arg : Int32)
  | extended (millis : UInt32) (commandID : UInt8) (arg : Int32)
  deriving DecidableEq

namespace Event

def millis : Event → UInt32
  | update t _ _ | arm t | disarm t | execute t _ | extended t _ _ => t

def isUpdate : Event → Bool
  | update .. => true
  | _ => false

end Event

variable {σ : Type}

namespace Greg

/-- The clock is set and the record of calls empty when an event starts. -/
@[simps] def begin (t : UInt32) (g : Greg σ) : Greg σ := { g with millis := t, calls := [] }

/-- The readings `remoteSensorUpdate` leaves before an update. -/
@[simps] def sense (p n : ℚ) (g : Greg σ) : Greg σ := { g with feedbackP := p, n2P := n }

/-- The base class's arm and disarm. -/
@[simps] def setDisarmed (b : Bool) (g : Greg σ) : Greg σ := { g with disarmed := b }

end Greg

variable [SystemStatus σ]

/-- One event. -/
def step (g : Greg σ) : Event → Greg σ
  | .update t p n => (g.begin t).sense p n |>.update
  | .arm t => (g.begin t).setDisarmed false
  | .disarm t => (g.begin t).setDisarmed true
  | .execute t arg => if g.disarmed then g.begin t else (g.begin t).executeImpl arg
  | .extended t commandID arg => (g.begin t).extendedCommandHandlerImpl commandID arg

/-- The controllers some run reaches: `setup()` once, then any events. -/
def Reachable (g : Greg σ) : Prop :=
  EventRun.Reachable (fun g => ∃ disarmed now, g = Greg.setup disarmed now) step g

end Heimdall
