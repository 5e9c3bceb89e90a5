import Heimdall.Lib.EventRun
import Heimdall.Storage.SdFat
import Mathlib.Data.Rat.Defs

/-!
# The telemetry logger

`TelemetryLogger` of `src/Loggers`. It owns the file it writes to, a flag that
says it may, and a callback for its own errors. The file's `append` is
libriccore's: it may throw anything, and the file closes itself when it does.
What is thrown, by `append` or by the callback, is part of the call.

`log` catches what `append` throws and then calls the callback, which may be
missing and may throw itself. `initialize` catches nothing: not what the
header's `append` throws, after the flag is set, and not what the replaced
file's destructor throws, which is the end of the program. Those are all the
ways out (`escapes_iff`), and a run that takes none of them never appends to a
file that has closed itself (`disciplined_iff`).
-/

namespace Heimdall

open EventRun

/-! ## The file and the frame -/

/-- `TelemetryLogframe` -/
structure TelemetryLogframe where
  ch0sens : ℚ
  ch2sens : ℚ
  temp0 : ℚ
  temp1 : ℚ
  timestamp : UInt64
  deriving DecidableEq

/-- The file a logger owns, with the data its `append` was called with, newest
first, and whether one of these calls threw. -/
structure LogFile where
  wrapped : SdFatWrappedFile
  appends : List (List UInt8)
  failed : Bool
  deriving DecidableEq

namespace LogFile

def new (w : SdFatWrappedFile) : LogFile := { wrapped := w, appends := [], failed := false }

/-- `append`, and what it throws: the file has closed itself then. -/
def append (bytes : List UInt8) (throws : Option String) (f : LogFile) : Option String × LogFile :=
  let f := { f with appends := bytes :: f.appends }
  match throws with
  | none => (none, f)
  | some what => (some what, { f with wrapped := { f.wrapped with file := .closed }, failed := true })

/-- The destructor's `_close` throws. -/
def destroyThrows (f : LogFile) (closes : Bool) : Bool := !(f.wrapped.close closes).1.isOk

theorem destroyThrows_iff (f : LogFile) (closes : Bool) :
    f.destroyThrows closes = true ↔ f.wrapped.file.isOpen = true ∧ closes = false := by
  have hsignals : f.destroyThrows closes = true ↔ (f.wrapped.file.close closes).1 = false :=
    f.wrapped.close_signals closes
  rw [hsignals, FsFile.close, Bool.or_eq_false_iff, Bool.not_eq_false']

end LogFile

/-! ## The logger -/

/-- `TelemetryLogger`, with the messages handed to the callback, newest first.
`enabled` is libriccore's. -/
structure TelemetryLogger where
  initialized : Bool
  enabled : Bool
  file : Option LogFile
  /-- whether `internalLogCB` holds a function -/
  internalLogCB : Bool
  reported : List String
  deriving DecidableEq

/-- How a call ends. -/
inductive CallResult (α : Type)
  | returned (value : α)
  | threw (what : String)
  | terminated
  deriving DecidableEq

/-- An exception leaves the call, or ends the program. -/
def CallResult.escapes {α : Type} : CallResult α → Bool
  | returned _ => false
  | threw _ => true
  | terminated => true

namespace TelemetryLogger

/-- The constructor. -/
def new (enabled : Bool) : TelemetryLogger :=
  { initialized := false, enabled := enabled, file := none, internalLogCB := false, reported := [] }

def bytes (s : String) : List UInt8 := s.toUTF8.data.toList

/-- The callback is replaced only by one that holds a function. -/
def takeCB (logcb : Bool) (l : TelemetryLogger) : TelemetryLogger :=
  if logcb then { l with internalLogCB := true } else l

/-- `initialize`. `closes` is whether the replaced file can be closed, `throws`
what the header's `append` throws. -/
def initializeLogger (file : Option SdFatWrappedFile) (fileHeader : String) (logcb closes : Bool)
    (throws : Option String) (l : TelemetryLogger) : CallResult Bool × TelemetryLogger :=
  let l := l.takeCB logcb
  match file with
  | none => (.returned false, l)
  | some w =>
    -- the assignment destroys the file it replaces, and a destructor must not throw
    if l.file.any (·.destroyThrows closes) then (.terminated, l)
    else
      let (thrown, f) := (LogFile.new w).append (bytes (fileHeader ++ "\n")) throws
      let l := { l with file := some f, initialized := true }
      match thrown with
      | none => (.returned true, l)
      | some what => (.threw what, l)

/-- `internalLogCB(e.what())`; `cbThrows` is what the function throws. -/
def callInternalLogCB (what : String) (cbThrows : Option String) (l : TelemetryLogger) :
    CallResult Unit × TelemetryLogger :=
  if !l.internalLogCB then (.threw "bad_function_call", l)
  else
    let l := { l with reported := what :: l.reported }
    match cbThrows with
    | none => (.returned (), l)
    | some e => (.threw e, l)

/-- `log`. `stringify` is librnp's serializer's. -/
def log (stringify : TelemetryLogframe → String) (logframe : TelemetryLogframe)
    (throws cbThrows : Option String) (l : TelemetryLogger) : CallResult Unit × TelemetryLogger :=
  if !l.initialized then (.returned (), l)
  else if !l.enabled then (.returned (), l)
  else
    match l.file with
    -- a null pointer
    | none => (.terminated, l)
    | some f =>
      let (thrown, f) := f.append (bytes (stringify logframe ++ "\n")) throws
      let l := { l with file := some f }
      match thrown with
      | none => (.returned (), l)
      | some what => callInternalLogCB what cbThrows { l with initialized := false }

end TelemetryLogger

/-- The calls, each with what goes wrong in it. -/
inductive LoggerCall
  | initializeLogger (file : Option SdFatWrappedFile) (fileHeader : String) (logcb closes : Bool)
      (throws : Option String)
  | log (logframe : TelemetryLogframe) (throws cbThrows : Option String)
  | setEnabled (enabled : Bool)

variable (stringify : TelemetryLogframe → String)

namespace TelemetryLogger

/-- A call: whether an exception escapes, and the logger it leaves. -/
def handle (l : TelemetryLogger) : LoggerCall → Bool × TelemetryLogger
  | .initializeLogger file fileHeader logcb closes throws =>
    let r := l.initializeLogger file fileHeader logcb closes throws
    (r.1.escapes, r.2)
  | .log logframe throws cbThrows =>
    let r := l.log stringify logframe throws cbThrows
    (r.1.escapes, r.2)
  | .setEnabled enabled => (false, { l with enabled := enabled })

def step (l : TelemetryLogger) (c : LoggerCall) : TelemetryLogger := (l.handle stringify c).2

end TelemetryLogger

/-- Nothing escapes the call, the logger does not go on with a file that closed
itself, and a frame is not handed to one. -/
structure Disciplined (l : TelemetryLogger) (c : LoggerCall) : Prop where
  returns : (l.handle stringify c).1 = false
  notInitialized : ∀ f, (l.step stringify c).file = some f → f.failed = true →
    (l.step stringify c).initialized = false
  untouched : ∀ logframe throws cbThrows, c = .log logframe throws cbThrows →
    ∀ f, l.file = some f → f.failed = true → (l.step stringify c).file = some f

/-- The replaced file is open and cannot be closed, or the header cannot be
appended; a frame cannot be appended, and the callback is missing or throws. -/
def Mishandles (l : TelemetryLogger) : LoggerCall → Prop
  | .initializeLogger file _ _ closes throws =>
    file.isSome = true ∧
      ((∃ f, l.file = some f ∧ f.wrapped.file.isOpen = true ∧ closes = false) ∨
        throws.isSome = true)
  | .log _ throws cbThrows =>
    l.initialized = true ∧ l.enabled = true ∧ throws.isSome = true ∧
      (l.internalLogCB = false ∨ cbThrows.isSome = true)
  | .setEnabled _ => False

/-- An initialized logger has a file, and that file has not closed itself. -/
def Sound (l : TelemetryLogger) : Prop :=
  l.initialized = true → ∃ f, l.file = some f ∧ f.failed = false

namespace TelemetryLogger

/-! ## One call -/

@[simp] theorem takeCB_file (logcb : Bool) (l : TelemetryLogger) :
    (l.takeCB logcb).file = l.file := by
  cases logcb <;> rfl

@[simp] theorem takeCB_initialized (logcb : Bool) (l : TelemetryLogger) :
    (l.takeCB logcb).initialized = l.initialized := by
  cases logcb <;> rfl

theorem callInternalLogCB_escapes (what : String) (cbThrows : Option String) (l : TelemetryLogger) :
    (l.callInternalLogCB what cbThrows).1.escapes = true ↔
      l.internalLogCB = false ∨ cbThrows.isSome = true := by
  unfold callInternalLogCB
  cases l.internalLogCB <;> cases cbThrows <;> simp [CallResult.escapes]

@[simp] theorem callInternalLogCB_initialized (what : String) (cbThrows : Option String)
    (l : TelemetryLogger) : (l.callInternalLogCB what cbThrows).2.initialized = l.initialized := by
  unfold callInternalLogCB
  cases l.internalLogCB <;> cases cbThrows <;> rfl

/-- A logger that is not initialized, or not enabled, does nothing. -/
theorem log_idle {l : TelemetryLogger} (h : ¬(l.initialized = true ∧ l.enabled = true))
    (logframe : TelemetryLogframe) (throws cbThrows : Option String) :
    l.log stringify logframe throws cbThrows = (.returned (), l) := by
  unfold log
  cases hinit : l.initialized with
  | false => rfl
  | true =>
    cases hen : l.enabled with
    | false => rfl
    | true => exact absurd ⟨hinit, hen⟩ h

/-- One that is both hands the frame to its file. -/
theorem log_active {l : TelemetryLogger} (hinit : l.initialized = true) (hen : l.enabled = true)
    {f : LogFile} (hfile : l.file = some f) (logframe : TelemetryLogframe)
    (throws cbThrows : Option String) :
    l.log stringify logframe throws cbThrows =
      match throws with
      | none => (.returned (),
          { l with file := some (f.append (bytes (stringify logframe ++ "\n")) none).2 })
      | some what => callInternalLogCB what cbThrows
          { l with
            file := some (f.append (bytes (stringify logframe ++ "\n")) (some what)).2
            initialized := false } := by
  unfold log
  rw [hinit, hen, hfile]
  cases throws <;> rfl

end TelemetryLogger

/-- What stands between `initialize` with a file and its result. -/
theorem mishandles_initializeLogger {l : TelemetryLogger} {w : SdFatWrappedFile}
    {fileHeader : String} {logcb closes : Bool} {throws : Option String} :
    Mishandles l (.initializeLogger (some w) fileHeader logcb closes throws) ↔
      l.file.any (·.destroyThrows closes) = true ∨ throws.isSome = true := by
  have hdestroy : l.file.any (·.destroyThrows closes) = true ↔
      ∃ f, l.file = some f ∧ f.wrapped.file.isOpen = true ∧ closes = false := by
    rw [Option.any_eq_true]
    exact exists_congr fun f => and_congr_right fun _ => f.destroyThrows_iff closes
  rw [hdestroy]
  exact and_iff_right rfl

theorem initializeLogger_escapes (l : TelemetryLogger) (w : SdFatWrappedFile)
    (fileHeader : String) (logcb closes : Bool) (throws : Option String) :
    (l.initializeLogger (some w) fileHeader logcb closes throws).1.escapes = true ↔
      Mishandles l (.initializeLogger (some w) fileHeader logcb closes throws) := by
  rw [mishandles_initializeLogger]
  unfold TelemetryLogger.initializeLogger
  dsimp only
  rw [TelemetryLogger.takeCB_file]
  cases l.file.any (·.destroyThrows closes) <;> cases throws <;>
    simp [CallResult.escapes, LogFile.append]

/-- Nothing in the way, the logger starts over with the new file. -/
theorem initializeLogger_returns {l : TelemetryLogger} {w : SdFatWrappedFile} {fileHeader : String}
    {logcb closes : Bool} {throws : Option String}
    (h : ¬Mishandles l (.initializeLogger (some w) fileHeader logcb closes throws)) :
    (l.initializeLogger (some w) fileHeader logcb closes throws).2 =
      { l.takeCB logcb with
        file := some ((LogFile.new w).append (TelemetryLogger.bytes (fileHeader ++ "\n")) none).2
        initialized := true } := by
  obtain ⟨hdestroy, hthrows⟩ := not_or.mp (mt mishandles_initializeLogger.mpr h)
  obtain rfl : throws = none := Option.not_isSome_iff_eq_none.mp hthrows
  unfold TelemetryLogger.initializeLogger
  dsimp only
  rw [TelemetryLogger.takeCB_file, if_neg hdestroy]
  rfl

/-- The ways an exception leaves a call. -/
theorem escapes_iff {l : TelemetryLogger} (h : Sound l) (c : LoggerCall) :
    (l.handle stringify c).1 = true ↔ Mishandles l c := by
  cases c with
  | initializeLogger file fileHeader logcb closes throws =>
    cases file with
    | none => exact iff_of_false Bool.false_ne_true fun hmis => absurd hmis.1 (by decide)
    | some w => exact initializeLogger_escapes l w fileHeader logcb closes throws
  | log logframe throws cbThrows =>
    show (l.log stringify logframe throws cbThrows).1.escapes = true ↔ _
    by_cases hactive : l.initialized = true ∧ l.enabled = true
    · obtain ⟨f, hfile, -⟩ := h hactive.1
      rw [l.log_active stringify hactive.1 hactive.2 hfile]
      cases throws with
      | none => exact iff_of_false Bool.false_ne_true fun hmis => absurd hmis.2.2.1 (by decide)
      | some what =>
        dsimp only
        rw [TelemetryLogger.callInternalLogCB_escapes]
        exact ⟨fun hcb => ⟨hactive.1, hactive.2, rfl, hcb⟩, fun hmis => hmis.2.2.2⟩
    · rw [l.log_idle stringify hactive]
      exact iff_of_false Bool.false_ne_true fun hmis => hactive ⟨hmis.1, hmis.2.1⟩
  | setEnabled enabled => exact iff_of_false Bool.false_ne_true id

/-- A logger that keeps its flag and its file stays sound. -/
theorem Sound.congr {l l' : TelemetryLogger} (h : Sound l) (hinit : l'.initialized = l.initialized)
    (hfile : l'.file = l.file) : Sound l' := by
  unfold Sound
  rw [hinit, hfile]
  exact h

/-- A call that mishandles nothing leaves a sound logger. -/
theorem sound_step {l : TelemetryLogger} (h : Sound l) {c : LoggerCall} (hmis : ¬Mishandles l c) :
    Sound (l.step stringify c) := by
  cases c with
  | initializeLogger file fileHeader logcb closes throws =>
    cases file with
    | none => exact h.congr (l.takeCB_initialized logcb) (l.takeCB_file logcb)
    | some w =>
      show Sound (l.initializeLogger (some w) fileHeader logcb closes throws).2
      rw [initializeLogger_returns hmis]
      exact fun _ => ⟨_, rfl, rfl⟩
  | log logframe throws cbThrows =>
    show Sound (l.log stringify logframe throws cbThrows).2
    by_cases hactive : l.initialized = true ∧ l.enabled = true
    · obtain ⟨f, hfile, hfailed⟩ := h hactive.1
      rw [l.log_active stringify hactive.1 hactive.2 hfile]
      cases throws with
      | none => exact fun _ => ⟨_, rfl, hfailed⟩
      | some what =>
        -- the flag goes down before the callback is called
        intro hinit
        rw [TelemetryLogger.callInternalLogCB_initialized] at hinit
        exact absurd hinit Bool.false_ne_true
    · rw [l.log_idle stringify hactive]
      exact h
  | setEnabled enabled => exact h.congr rfl rfl

/-- A sound logger whose file has closed itself is not initialized. -/
theorem Sound.not_initialized {l : TelemetryLogger} (h : Sound l) {f : LogFile}
    (hfile : l.file = some f) (hfailed : f.failed = true) : l.initialized = false := by
  rw [Bool.eq_false_iff]
  intro hinit
  obtain ⟨f', hfile', hfailed'⟩ := h hinit
  obtain rfl : f = f' := Option.some.inj (hfile.symm.trans hfile')
  exact absurd (hfailed.symm.trans hfailed') (by decide)

theorem disciplined_iff_step {l : TelemetryLogger} (h : Sound l) (c : LoggerCall) :
    Disciplined stringify l c ↔ ¬Mishandles l c := by
  constructor
  · intro hdisciplined hmis
    have hescapes := (escapes_iff stringify h c).mpr hmis
    exact absurd (hescapes.symm.trans hdisciplined.returns) (by decide)
  · intro hmis
    refine ⟨?_, fun f hfile hfailed => (sound_step stringify h hmis).not_initialized hfile hfailed, ?_⟩
    · rw [Bool.eq_false_iff]
      exact fun hescapes => hmis ((escapes_iff stringify h c).mp hescapes)
    · intro logframe throws cbThrows hcall f hfile hfailed
      subst hcall
      have hidle : ¬(l.initialized = true ∧ l.enabled = true) := by
        rw [h.not_initialized hfile hfailed]
        exact fun hactive => absurd hactive.1 Bool.false_ne_true
      show (l.log stringify logframe throws cbThrows).2.file = some f
      rw [l.log_idle stringify hidle]
      exact hfile

/-- Over every run of calls, whatever fails in them, the discipline is kept
exactly when no call mishandles a failure. -/
theorem disciplined_iff (enabled : Bool) (cs : List LoggerCall) :
    EachStep (TelemetryLogger.step stringify) (Disciplined stringify) (.new enabled) cs ↔
      EachStep (TelemetryLogger.step stringify) (fun l c => ¬Mishandles l c) (.new enabled) cs :=
  eachStep_congr (fun _ c hl _ => disciplined_iff_step stringify hl c)
    (fun _ _ hl _ hmis => sound_step stringify hl hmis)
    (J := Sound) (fun hinit => absurd hinit Bool.false_ne_true) (eachStep_true _ cs)

/-- The header of the board's own log cannot be appended: the exception leaves
`initialize`. -/
theorem disciplined_fails :
    ¬EachStep (TelemetryLogger.step fun _ => "") (Disciplined fun _ => "") (.new true)
      [.initializeLogger (some oneByte) "fb_pt(bar),n2_pt(bar),tc0(C),tc1(C),time(us)" true true
        (some "Write error!")] := by
  intro hclaim
  have hescapes := (initializeLogger_escapes (.new true) oneByte
    "fb_pt(bar),n2_pt(bar),tc0(C),tc1(C),time(us)" true true (some "Write error!")).mpr
    (mishandles_initializeLogger.mpr (Or.inr rfl))
  exact absurd (hescapes.symm.trans hclaim.1.returns) (by decide)

end Heimdall
