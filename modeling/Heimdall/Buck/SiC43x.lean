import Heimdall.Lib.Binary32
import Heimdall.Lib.FlagStore

/-!
# The buck converter

`SiC43x.h`, the rail monitor `adc_vrailmonitor.cpp` it samples its output
voltage with, and the board's `systemstatus` it reports to. As with the
regulator's status, `systemstatus` is any store that behaves as a set of the
`SYSTEM_FLAG`s.

A call sees one clock value, one PGOOD level and one ADC reading
(`BuckInputs`). The enable pin keeps the level last written to it. Members the
source leaves uninitialised are what the object's memory held (`BuckMemory`).
Voltages and the divider are 32-bit floats, with their rounding.
The two supervisions of `update` are one shape, `CoreStatus.supervise`: a flag
raised and cleared on the edges of a condition (`flagSet_supervise`).
-/

namespace Heimdall

/-! ## The board's status -/

/-- `SYSTEM_FLAG`. -/
inductive SystemFlag
  | stateIdle | errorSerial | errorCAN | errorSD | errorPGood | errorVBounds
  deriving DecidableEq, Repr

/-- The shift of each flag's `1 << n`. -/
def SystemFlag.shift : SystemFlag → Nat
  | stateIdle => 0
  | errorSerial => 10
  | errorCAN => 11
  | errorSD => 19
  | errorPGood => 20
  | errorVBounds => 21

instance : BitCode SystemFlag 32 where
  bit f := ⟨f.shift, by cases f <;> decide⟩
  bit_inj := by
    intro f g h
    have hshift : f.shift = g.shift := congrArg Fin.val h
    cases f <;> cases g <;> first | rfl | exact absurd hshift (by decide)

/-- A store that behaves as a set of the board's flags. -/
abbrev SystemFlags (τ : Type) := FlagStore SystemFlag τ

/-- The status word of the enum's own bits. -/
abbrev SystemWord := FlagWord SystemFlag 32

/-- A call on the status. `initializeState` is a state's `State::initialize`,
which sets the state's own flag. -/
inductive StatusCall
  | newFlag (flag : SystemFlag) (info : String)
  | deleteFlag (flag : SystemFlag) (info : String)
  | initializeState (flag : SystemFlag)
  deriving DecidableEq, Repr

/-- `Types::CoreTypes::SystemStatus_t`: the flags, and the calls that changed
them, newest first. -/
structure CoreStatus (τ : Type) where
  flags : τ
  calls : List StatusCall

namespace CoreStatus

variable {τ : Type} [SystemFlags τ]

def flagSet (s : CoreStatus τ) (flag : SystemFlag) : Bool := FlagStore.flagSet s.flags flag

def newFlag (s : CoreStatus τ) (flag : SystemFlag) (info : String) : CoreStatus τ :=
  { flags := FlagStore.newFlag s.flags flag, calls := .newFlag flag info :: s.calls }

def deleteFlag (s : CoreStatus τ) (flag : SystemFlag) (info : String) : CoreStatus τ :=
  { flags := FlagStore.deleteFlag s.flags flag, calls := .deleteFlag flag info :: s.calls }

def initializeState (s : CoreStatus τ) (flag : SystemFlag) : CoreStatus τ :=
  { flags := FlagStore.newFlag s.flags flag, calls := .initializeState flag :: s.calls }

/-- No flag set, nothing called. -/
def cleared : CoreStatus τ := { flags := FlagStore.empty SystemFlag, calls := [] }

@[simp] theorem flagSet_newFlag_self (s : CoreStatus τ) (flag : SystemFlag) (info : String) :
    (s.newFlag flag info).flagSet flag = true :=
  FlagStore.flagSet_newFlag_self s.flags flag

theorem flagSet_newFlag_ne (s : CoreStatus τ) {flag other : SystemFlag} (h : other ≠ flag)
    (info : String) : (s.newFlag flag info).flagSet other = s.flagSet other :=
  FlagStore.flagSet_newFlag_ne s.flags h

theorem flagSet_initializeState_ne (s : CoreStatus τ) {flag other : SystemFlag} (h : other ≠ flag) :
    (s.initializeState flag).flagSet other = s.flagSet other :=
  FlagStore.flagSet_newFlag_ne s.flags h

@[simp] theorem flagSet_deleteFlag_self (s : CoreStatus τ) (flag : SystemFlag) (info : String) :
    (s.deleteFlag flag info).flagSet flag = false :=
  FlagStore.flagSet_deleteFlag_self s.flags flag

theorem flagSet_deleteFlag_ne (s : CoreStatus τ) {flag other : SystemFlag} (h : other ≠ flag)
    (info : String) : (s.deleteFlag flag info).flagSet other = s.flagSet other :=
  FlagStore.flagSet_deleteFlag_ne s.flags h

@[simp] theorem flagSet_cleared (flag : SystemFlag) :
    (cleared : CoreStatus τ).flagSet flag = false :=
  FlagStore.flagSet_empty flag

/-- The supervision `SiC43x::update` makes twice: the flag is raised when the
quantity is off nominal and cleared when it is nominal, each once. -/
def supervise (flag : SystemFlag) (off nominal : Bool) (raised returned : String)
    (s : CoreStatus τ) : CoreStatus τ :=
  if off ∧ !s.flagSet flag then s.newFlag flag raised
  else if nominal ∧ s.flagSet flag then s.deleteFlag flag returned
  else s

/-- The flag follows the quantity, and stays where it was when that is neither
off nominal nor nominal. -/
theorem flagSet_supervise (flag : SystemFlag) {off nominal : Bool} (raised returned : String)
    (s : CoreStatus τ) (hexcl : nominal = true → off = false) :
    (s.supervise flag off nominal raised returned).flagSet flag =
      if off then true else if nominal then false else s.flagSet flag := by
  unfold supervise
  cases hset : s.flagSet flag with
  | false => cases off <;> cases nominal <;> simp [hset]
  | true =>
    cases off with
    | false => cases nominal <;> simp [hset]
    | true =>
      cases nominal with
      | false => simp [hset]
      | true => exact absurd (hexcl rfl) (by decide)

theorem flagSet_supervise_ne {flag other : SystemFlag} (h : other ≠ flag) (off nominal : Bool)
    (raised returned : String) (s : CoreStatus τ) :
    (s.supervise flag off nominal raised returned).flagSet other = s.flagSet other := by
  unfold supervise
  split
  · exact s.flagSet_newFlag_ne h raised
  · split
    · exact s.flagSet_deleteFlag_ne h returned
    · rfl

end CoreStatus

/-! ## The rail monitor -/

/-- `ADC_VRailMonitor`, with the messages it logged, newest first. -/
structure ADCVRailMonitor where
  name : String
  adcInitialized : Bool
  factor : Float32
  maxVoltage : Int32
  lowVoltage : Int32
  minVoltage : Int32
  lowVoltageTriggered : Bool
  sampleDelta : UInt16
  prevSampleTime : UInt32
  logs : List String

namespace ADCVRailMonitor

open Binary32

/-- The constructor, on memory that held `triggered`. -/
def new (name : String) (r1 r2 : Float32) (triggered : Bool) : ADCVRailMonitor :=
  { name := name
    adcInitialized := false
    factor := (r1 + r2) / r2
    maxVoltage := 0
    lowVoltage := 0
    minVoltage := 0
    lowVoltageTriggered := triggered
    sampleDelta := 20
    prevSampleTime := 0
    logs := [] }

/-- `setup`; `error` is whether the ADC refused the configuration. -/
def setup (maxVoltage lowVoltage minVoltage : Int32) (error : Bool) (m : ADCVRailMonitor) :
    ADCVRailMonitor :=
  let m := { m with maxVoltage := maxVoltage, lowVoltage := lowVoltage, minVoltage := minVoltage }
  if error then { m with logs := "Vrail Monitor Failed to initialize!" :: m.logs }
  else { m with adcInitialized := true }

/-- Whether `update` takes a sample. -/
def samples (m : ADCVRailMonitor) (now : UInt32) : Bool :=
  m.adcInitialized && decide (m.sampleDelta.toUInt32 ≤ now - m.prevSampleTime)

/-- The voltage of a sample: the calibrated reading times the divider's factor,
cut to an integer (`overflow` where that is no `int`) and stored as a float. -/
def voltage (m : ADCVRailMonitor) (reading : UInt32) (overflow : Int32) : Float32 :=
  ofInt (toInt overflow (m.factor * reading.toFloat32))

/-- `std::to_string` of a voltage, which has no fraction. -/
def voltageText (v : Float32) : String := toString v.toModel.toInt64.toInt ++ ".000000"

/-- `update`: the monitor, and what the output parameter is left at. The sample
time is never written back. -/
def update (now reading : UInt32) (overflow : Int32) (outputV : Float32) (m : ADCVRailMonitor) :
    ADCVRailMonitor × Float32 :=
  if m.samples now then
    let v := m.voltage reading overflow
    if v < ofInt m.lowVoltage ∧ !m.lowVoltageTriggered then
      ({ m with
          lowVoltageTriggered := true
          logs := (m.name ++ ": low voltage, at " ++ voltageText v ++ "mV") :: m.logs }, v)
    else if v > ofInt m.lowVoltage ∧ m.lowVoltageTriggered then
      ({ m with lowVoltageTriggered := false }, v)
    else (m, v)
  else (m, outputV)

/-- What `update` stores is the sample, when it takes one. -/
theorem update_snd (now reading : UInt32) (overflow : Int32) (outputV : Float32)
    (m : ADCVRailMonitor) :
    (m.update now reading overflow outputV).2 =
      if m.samples now then m.voltage reading overflow else outputV := by
  unfold update
  by_cases h : m.samples now
  · rw [if_pos h, if_pos h]
    dsimp only
    split_ifs <;> rfl
  · rw [if_neg h, if_neg h]

/-- A sample is a number, whatever the divider. -/
theorem isFinite_voltage (m : ADCVRailMonitor) (reading : UInt32) (overflow : Int32) :
    (m.voltage reading overflow).isFinite = true := isFinite_ofInt _

-- 4000 mV in exact arithmetic: the factor is rounded, and the product, before the cut
example : (new "Servo Voltage" 22000 3000 false).voltage 480 0 = 3999 := by decide +kernel

end ADCVRailMonitor

/-! ## The converter -/

/-- `SiC43x`. -/
structure SiC43x (τ : Type) where
  systemstatus : CoreStatus τ
  pGoodPin : Int8
  enPin : Int8
  defaultEN : Bool
  invertEN : Bool
  vReadPin : Int8
  outputV : Float32
  pGood : Bool
  restartFlag : Bool
  prevtime : UInt32
  offTime : UInt32
  servoVoltage : ADCVRailMonitor
  /-- the level last written to the enable pin -/
  enLevel : Option Bool

/-- What the members without an initialiser start as. -/
structure BuckMemory where
  outputV : Float32
  pGood : Bool
  prevtime : UInt32
  offTime : UInt32
  lowVoltageTriggered : Bool

/-- The memory of a static object. -/
def BuckMemory.zero : BuckMemory := ⟨0, false, 0, 0, false⟩

/-- What one call of `update` reads. -/
structure BuckInputs where
  /-- `millis()` -/
  millis : UInt32
  /-- `digitalRead(m_PGoodPin)` -/
  pGood : Bool
  /-- the calibrated reading of the voltage pin, in millivolts -/
  reading : UInt32
  /-- the voltage sampled where the product is no `int` -/
  overflow : Int32
  deriving DecidableEq

namespace SiC43x

variable {τ : Type}

/-- The constructor. -/
def new (systemstatus : CoreStatus τ) (pGoodPin enPin : Int8) (defaultEN invertEN : Bool)
    (vReadPin : Int8) (highResistor lowResistor : Float32) (memory : BuckMemory) : SiC43x τ :=
  { systemstatus := systemstatus
    pGoodPin := pGoodPin
    enPin := enPin
    defaultEN := defaultEN
    invertEN := invertEN
    vReadPin := vReadPin
    outputV := memory.outputV
    pGood := memory.pGood
    restartFlag := false
    prevtime := memory.prevtime
    offTime := memory.offTime
    servoVoltage := .new "Servo Voltage" highResistor lowResistor memory.lowVoltageTriggered
    enLevel := none }

/-- `setEN` -/
@[simps] def setEN (level : Bool) (c : SiC43x τ) : SiC43x τ :=
  { c with enLevel := some (c.invertEN ^^ level) }

/-- The converter is on: the enable pin was last told so. -/
def isOn (c : SiC43x τ) : Bool := c.enLevel == some (c.invertEN ^^ true)

@[simp] theorem isOn_setEN (level : Bool) (c : SiC43x τ) : (c.setEN level).isOn = level := by
  unfold isOn setEN
  cases c.invertEN <;> cases level <;> rfl

/-- `setup` -/
def setup (adcError : Bool) (c : SiC43x τ) : SiC43x τ :=
  let c := if 0 ≤ c.enPin then c.setEN c.defaultEN else c
  if 0 ≤ c.vReadPin then { c with servoVoltage := c.servoVoltage.setup 12 5 4 adcError } else c

/-- `restart` -/
def restart (now offTime : UInt32) (c : SiC43x τ) : SiC43x τ :=
  let c := if !c.restartFlag then { c with prevtime := now, offTime := offTime } else c
  let c := { c with restartFlag := true }.setEN false
  -- the argument, not `m_offTime`
  if now - c.prevtime > offTime then { c.setEN true with restartFlag := false } else c

variable [SystemFlags τ]

/-- The first part of `update`: the output voltage. The monitor stores
millivolts. -/
def checkVoltage (i : BuckInputs) (c : SiC43x τ) : SiC43x τ :=
  if 0 ≤ c.vReadPin then
    let sample := c.servoVoltage.update i.millis i.reading i.overflow c.outputV
    { c with
      servoVoltage := sample.1
      outputV := sample.2
      systemstatus := c.systemstatus.supervise .errorVBounds
        (decide (sample.2 > 12 ∨ sample.2 < 4)) (decide (sample.2 < 12 ∧ sample.2 > 4))
        "Buck output voltage off-nominal! (ADC reading out of range)"
        "Buck output voltage returned to nominal! (ADC reading back in configured range)" }
  else c

/-- The second part of `update`: the PGOOD pin. -/
def checkPGood (level : Bool) (c : SiC43x τ) : SiC43x τ :=
  if 0 ≤ c.pGoodPin then
    { c with
      pGood := level
      systemstatus := c.systemstatus.supervise .errorPGood (!level) level
        "Buck output voltage off-nominal! (PGOOD deasserted)"
        "Buck output voltage returned to nominal! (PGOOD reasserted)" }
  else c

/-- `update` -/
def update (i : BuckInputs) (c : SiC43x τ) : SiC43x τ :=
  let c := (c.checkVoltage i).checkPGood i.pGood
  if c.restartFlag then c.restart i.millis c.offTime else c

/-! ## What each part leaves alone -/

/-- Two converters that differ in what the supervisions write at most. -/
structure SameDrive {τ : Type} (c c' : SiC43x τ) : Prop where
  enLevel : c'.enLevel = c.enLevel
  invertEN : c'.invertEN = c.invertEN
  restartFlag : c'.restartFlag = c.restartFlag
  prevtime : c'.prevtime = c.prevtime
  offTime : c'.offTime = c.offTime

/-- The supervisions do not touch the enable pin or the restart. -/
theorem sameDrive_checks (i : BuckInputs) (c : SiC43x τ) :
    SameDrive c ((c.checkVoltage i).checkPGood i.pGood) := by
  unfold checkPGood checkVoltage
  by_cases hV : 0 ≤ c.vReadPin
  · rw [if_pos hV]
    split <;> exact ⟨rfl, rfl, rfl, rfl, rfl⟩
  · rw [if_neg hV]
    split <;> exact ⟨rfl, rfl, rfl, rfl, rfl⟩

/-- Two converters that differ in what a restart writes at most. -/
structure SameSense {τ : Type} (c c' : SiC43x τ) : Prop where
  systemstatus : c'.systemstatus = c.systemstatus
  vReadPin : c'.vReadPin = c.vReadPin
  outputV : c'.outputV = c.outputV
  pGood : c'.pGood = c.pGood
  servoVoltage : c'.servoVoltage = c.servoVoltage

/-- A restart does not touch what the supervisions read and write. -/
theorem sameSense_restart {τ : Type} (now offTime : UInt32) (c : SiC43x τ) :
    SameSense c (c.restart now offTime) := by
  unfold restart
  dsimp only
  split <;> split <;> exact ⟨rfl, rfl, rfl, rfl, rfl⟩

/-- An update of a converter in no restart is its two supervisions, -/
theorem update_idle {c : SiC43x τ} (h : c.restartFlag = false) (i : BuckInputs) :
    c.update i = (c.checkVoltage i).checkPGood i.pGood := by
  have hsame := c.sameDrive_checks i
  unfold update
  dsimp only
  rw [hsame.restartFlag, h]
  rfl

/-- and in a restart enters `restart` again, with the off-time noted. -/
theorem update_restarting {c : SiC43x τ} (h : c.restartFlag = true) (i : BuckInputs) :
    c.update i =
      ((c.checkVoltage i).checkPGood i.pGood).restart i.millis c.offTime := by
  have hsame := c.sameDrive_checks i
  unfold update
  dsimp only
  rw [hsame.restartFlag, hsame.offTime, if_pos h]

/-- What an update leaves to be read is what its supervisions leave. -/
theorem sameSense_update (i : BuckInputs) (c : SiC43x τ) :
    SameSense ((c.checkVoltage i).checkPGood i.pGood) (c.update i) := by
  cases h : c.restartFlag with
  | false =>
    rw [update_idle h]
    exact ⟨rfl, rfl, rfl, rfl, rfl⟩
  | true =>
    rw [update_restarting h]
    exact sameSense_restart _ _ _

/-- The power-good supervision reports with its own flag only. -/
theorem flagSet_checkPGood_ne {flag : SystemFlag} (h : flag ≠ .errorPGood) (level : Bool)
    (c : SiC43x τ) :
    (c.checkPGood level).systemstatus.flagSet flag = c.systemstatus.flagSet flag := by
  unfold checkPGood
  split
  · exact CoreStatus.flagSet_supervise_ne h _ _ _ _ _
  · rfl

end SiC43x

end Heimdall
