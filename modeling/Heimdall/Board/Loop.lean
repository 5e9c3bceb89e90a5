import Heimdall.Buck.SiC43x
import Heimdall.Greg.Controller
import Heimdall.Telemetry.Logger

/-!
# The board's loop

`src/system.cpp`: the board's parts, `systemSetup`, and the cycle of four calls
that is `systemUpdate`. The status the buck converter reports to is the board's
own, so the board has it through its converter.

What the cycle reads is given to it (`CycleInputs`), one clock value of either
clock and one reading of each device. What libriccore and librrc do inside is
given to the board (`BoardLibs`). The buck's enable pin is written by the
controller, whose calls the board passes on (`followEN`).
-/

namespace Heimdall

/-- What the board calls that is not its own: the CAN bus, which reports with
its own flag only, the pressure taps' conversions, and whether a component of
librrc starts disarmed. -/
structure BoardLibs (τ : Type) [SystemFlags τ] where
  canbusSetup : CoreStatus τ → CoreStatus τ
  canbusSetup_own : ∀ s flag, flag ≠ .errorCAN → (canbusSetup s).flagSet flag = s.flagSet flag
  fbPressure : Int32 → ℚ
  n2Pressure : Int32 → ℚ
  disarmed : Bool

/-- What one cycle of the loop reads. -/
structure CycleInputs where
  /-- `millis()` -/
  millis : UInt32
  /-- `esp_timer_get_time()` -/
  micros : UInt64
  /-- `ADC0.getOutput`, once `ADC0` is updated -/
  adc0 : UInt8 → Int32
  tc0 : ℚ
  tc1 : ℚ
  /-- `primarysd.getError()` -/
  sdError : UInt8
  /-- the level of the buck's PGOOD input -/
  pGood : Bool

/-- `System` -/
structure Board (σ τ : Type) where
  /-- `Buck`, with `systemstatus` -/
  buck : SiC43x τ
  heimdall : Greg σ
  /-- `ADC0.getOutput` -/
  adc0 : UInt8 → Int32
  tc0 : ℚ
  tc1 : ℚ
  /-- `FB_PT.getPressure()` -/
  fbPT : ℚ
  /-- `N2_PT.getPressure()` -/
  n2PT : ℚ
  prevTelemetryLogTime : UInt32
  /-- the frames handed to the telemetry logger, newest first -/
  frames : List TelemetryLogframe

/-- `fb_pt_adc_ch` -/
def fbPTAdcCh : UInt8 := 0

/-- `n2_pt_adc_ch` -/
def n2PTAdcCh : UInt8 := 2

/-- `telemetry_log_delta` -/
def telemetryLogDelta : UInt32 := 1000

/-- The levels the controller wrote to the enable pin in its last event, in
order. -/
def Greg.enLevels {σ : Type} (g : Greg σ) : List Bool :=
  g.calls.reverse.filterMap fun c =>
    match c.1 with
    | .setEN level => some level
    | _ => none

namespace Board

variable {σ τ : Type}

def systemstatus (b : Board σ τ) : CoreStatus τ := b.buck.systemstatus

def mapStatus (f : CoreStatus τ → CoreStatus τ) (b : Board σ τ) : Board σ τ :=
  { b with buck := { b.buck with systemstatus := f b.buck.systemstatus } }

/-- The controller's `m_Buck.setEN` calls, on the board's converter. -/
def followEN (b : Board σ τ) : Board σ τ :=
  { b with buck := b.heimdall.enLevels.foldl (fun c level => c.setEN level) b.buck }

/-! ## The cycle -/

/-- `System::deviceUpdate` -/
def deviceUpdate (i : CycleInputs) (b : Board σ τ) : Board σ τ :=
  { b with adc0 := i.adc0, tc0 := i.tc0, tc1 := i.tc1 }

/-- The frame `logReadings` logs. -/
def logframe (now : UInt64) (b : Board σ τ) : TelemetryLogframe :=
  { ch0sens := b.fbPT, ch2sens := b.n2PT, temp0 := b.tc0, temp1 := b.tc1, timestamp := now }

/-- The comparison of `logReadings`, in 64 bits: the clock's value and the 32
bits kept of an earlier one. -/
def LogDue (now : UInt64) (b : Board σ τ) : Prop :=
  (telemetryLogDelta.toNat : Int) < now.toNat - b.prevTelemetryLogTime.toNat

instance (now : UInt64) (b : Board σ τ) : Decidable (b.LogDue now) :=
  inferInstanceAs (Decidable (_ < _))

/-- The first part of `logReadings`. -/
def logTelemetry (now : UInt64) (b : Board σ τ) : Board σ τ :=
  if b.LogDue now then
    { b with prevTelemetryLogTime := now.toUInt32, frames := b.logframe now :: b.frames }
  else b

variable [SystemFlags τ]

/-- The second part of `logReadings`. -/
def reportSD (sdError : UInt8) (b : Board σ τ) : Board σ τ :=
  if 0 < sdError ∧ !b.systemstatus.flagSet .errorSD then
    b.mapStatus (·.newFlag .errorSD ("SD Card Failed with error: " ++ toString sdError.toNat))
  else b

/-- `System::logReadings` -/
def logReadings (now : UInt64) (sdError : UInt8) (b : Board σ τ) : Board σ τ :=
  (b.logTelemetry now).reportSD sdError

/-- `System::remoteSensorUpdate` -/
def remoteSensorUpdate (libs : BoardLibs τ) (b : Board σ τ) : Board σ τ :=
  { b with
    fbPT := libs.fbPressure (b.adc0 fbPTAdcCh)
    n2PT := libs.n2Pressure (b.adc0 n2PTAdcCh) }

variable [SystemStatus σ]

/-- `Heimdall.update()`, and what it does to the converter. -/
def heimdallUpdate (now : UInt32) (b : Board σ τ) : Board σ τ :=
  { b with heimdall := step b.heimdall (.update now b.fbPT b.n2PT) }.followEN

/-- `System::systemUpdate`. The PGOOD level is not read. -/
def systemUpdate (libs : BoardLibs τ) (b : Board σ τ) (i : CycleInputs) : Board σ τ :=
  b.deviceUpdate i |>.remoteSensorUpdate libs |>.logReadings i.micros i.sdError
    |>.heimdallUpdate i.millis

/-! ## The setup -/

/-- The constructor: the converter on PGOOD pin 48 and enable pin 21, and zero
for the members of a static object that have no initialiser. -/
def constructed (libs : BoardLibs τ) (now : UInt32) : Board σ τ :=
  { buck := .new .cleared 48 21 true false (-1) 0 1 .zero
    heimdall := .constructed libs.disarmed now
    adc0 := fun _ => 0
    tc0 := 0
    tc1 := 0
    fbPT := 0
    n2PT := 0
    prevTelemetryLogTime := 0
    frames := [] }

/-- `SdFat_Store::setup`; `begins` is whether the card's file system starts. -/
def primarysdSetup (begins : Bool) (b : Board σ τ) : Board σ τ :=
  if begins then b else b.mapStatus (·.newFlag .errorSD "")

/-- `Heimdall.setup()` -/
def heimdallSetup (libs : BoardLibs τ) (now : UInt32) (b : Board σ τ) : Board σ τ :=
  { b with heimdall := .setup libs.disarmed now }.followEN

/-- `System::systemSetup`, of the status and the controller. -/
def systemSetup (libs : BoardLibs τ) (begins : Bool) (now : UInt32) (b : Board σ τ) : Board σ τ :=
  b.mapStatus (·.initializeState .stateIdle) |>.mapStatus libs.canbusSetup
    |>.primarysdSetup begins |>.heimdallSetup libs now

/-- The board when its loop starts. -/
def setup (libs : BoardLibs τ) (begins : Bool) (now : UInt32) : Board σ τ :=
  (constructed libs now).systemSetup libs begins now

end Board

/-- Libraries that do nothing of their own. -/
def plainLibs : BoardLibs SystemWord where
  canbusSetup := id
  canbusSetup_own _ _ _ := rfl
  fbPressure _ := 10
  n2Pressure _ := 100
  disarmed := true

end Heimdall
