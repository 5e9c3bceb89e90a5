import Heimdall.Board.LogRate
import Heimdall.Board.Packets
import Heimdall.Telemetry.Logger

/-!
# The telemetry log of a run

`System::initializeLoggers` gives the telemetry logger its file, once, and
`logReadings` hands it a frame whenever one is due. Whatever goes wrong with
the card in between, the logger's callback standing in for its own failures,
two things hold of a whole run:

* the control does not notice: the board goes through the states it would have
  gone through with a perfect card, or none at all (`control_ignores_log`). Only
  the header is not so guarded: a card that refuses it ends the setup
  (`setup_halted_iff`);
* the file is an exact prefix of the run: the header, then one line for each
  frame that came due, in order, of the readings the controller acted on in
  that cycle, up to and including the first one that could not be appended
  (`log_is_prefix`). Nothing re-initialises the logger, so a single failed
  append ends the log for good.

What is due is told by the run's inputs alone (`dueFrames`).
-/

namespace Heimdall

open EventRun

/-- What the log's calls throw in a cycle: the file's `append`, and the callback
the logger reports that with. -/
structure LogFaults where
  throws : Option String
  cbThrows : Option String

/-- What the board runs through, with what goes wrong with its log. -/
inductive LoggedEvent
  | cycle (i : CycleInputs) (faults : LogFaults)
  | packet (e : Packet)

namespace LoggedEvent

/-- The event, without its faults. -/
def event : LoggedEvent → BoardEvent
  | cycle i _ => .cycle i
  | packet e => .packet e

/-- The callback, if it is called, returns. -/
def Reports : LoggedEvent → Prop
  | cycle _ faults => faults.cbThrows = none
  | packet _ => True

end LoggedEvent

/-- The board and its telemetry logger. An exception that leaves the loop ends
it. -/
structure LoggedBoard (σ τ : Type) where
  board : Board σ τ
  logger : TelemetryLogger
  halted : Bool

/-- The first line of the log. -/
def fileHeader : String := "fb_pt(bar),n2_pt(bar),tc0(C),tc1(C),time(us)"

/-- `O_WRITE | O_CREAT | O_AT_END`, newlib's. -/
def logMode : Int := 0x1 + 0x200 + 0x4000

/-- `System::initializeLoggers`, of the telemetry logger: with no card it is
left as it was. `filesys` is the card, and `path` the new directory on it. -/
def initializeLoggers (nominal : Bool) (filesys : String → Int → FsFile) (path : String)
    (fileDesc : Int) (throws : Option String) (l : TelemetryLogger) :
    CallResult Bool × TelemetryLogger :=
  if !nominal then (.returned false, l)
  else
    let telemetrylogfile :=
      SdFatStore.openFile filesys (path ++ "/telemetrylog.csv") fileDesc logMode 100
    l.initializeLogger telemetrylogfile fileHeader true true throws

namespace LoggedBoard

variable {σ τ : Type} [SystemStatus σ] [SystemFlags τ]
variable (libs : BoardLibs τ) (stringify : TelemetryLogframe → String)

/-- A cycle. The frame is logged between reading the sensors and updating the
controller. -/
def systemUpdate (s : LoggedBoard σ τ) (i : CycleInputs) (faults : LogFaults) :
    LoggedBoard σ τ :=
  let b := (s.board.deviceUpdate i).remoteSensorUpdate libs
  if b.LogDue i.micros then
    let (result, logger) :=
      s.logger.log stringify (b.logframe i.micros) faults.throws faults.cbThrows
    if result.escapes then
      { board := b.logTelemetry i.micros, logger := logger, halted := true }
    else { s with board := s.board.systemUpdate libs i, logger := logger }
  else { s with board := s.board.systemUpdate libs i }

/-- One event of the loop, while it runs. -/
def handle (s : LoggedBoard σ τ) : LoggedEvent → LoggedBoard σ τ
  | .cycle i faults => if s.halted then s else s.systemUpdate libs stringify i faults
  | .packet e => if s.halted then s else { s with board := s.board.receive e }

/-- `System::systemSetup`: the loggers are initialized before the controller is
set up. -/
def setup (begins : Bool) (now : UInt32) (filesys : String → Int → FsFile) (path : String)
    (fileDesc : Int) (throws : Option String) (enabled : Bool) : LoggedBoard σ τ :=
  let b : Board σ τ := (Board.constructed libs now).mapStatus (·.initializeState .stateIdle)
    |>.mapStatus libs.canbusSetup |>.primarysdSetup begins
  let (result, logger) := initializeLoggers begins filesys path fileDesc throws (.new enabled)
  if result.escapes then { board := b, logger := logger, halted := true }
  else { board := b.heimdallSetup libs now, logger := logger, halted := false }

end LoggedBoard

/-! ## What is due -/

/-- The frame of a cycle: what the controller sees in it. -/
def frameOf {τ : Type} [SystemFlags τ] (libs : BoardLibs τ) (i : CycleInputs) :
    TelemetryLogframe :=
  { ch0sens := BoardEvent.feedback libs i
    ch2sens := BoardEvent.nitrogen libs i
    temp0 := i.tc0
    temp1 := i.tc1
    timestamp := i.micros }

/-- The frames that come due in a run that last logged at `prev`, with what
their logging throws. -/
def dueFrames {τ : Type} [SystemFlags τ] (libs : BoardLibs τ) :
    UInt32 → List LoggedEvent → List (TelemetryLogframe × LogFaults)
  | _, [] => []
  | prev, .packet _ :: evs => dueFrames libs prev evs
  | prev, .cycle i faults :: evs =>
    if (telemetryLogDelta.toNat : Int) < i.micros.toNat - prev.toNat then
      (frameOf libs i, faults) :: dueFrames libs i.micros.toUInt32 evs
    else dueFrames libs prev evs

/-- The frames up to the first that cannot be appended, itself included. -/
def untilFailure : List (TelemetryLogframe × LogFaults) → List TelemetryLogframe
  | [] => []
  | (frame, faults) :: due =>
    if faults.throws.isSome then [frame] else frame :: untilFailure due

/-- The line of a frame. -/
def logLine (stringify : TelemetryLogframe → String) (frame : TelemetryLogframe) : List UInt8 :=
  TelemetryLogger.bytes (stringify frame ++ "\n")

/-! ## One frame -/

variable (stringify : TelemetryLogframe → String)

namespace TelemetryLogger

/-- A logger that would append has a file, and a callback for when it fails. -/
def Reporting (l : TelemetryLogger) : Prop :=
  l.initialized = true → l.internalLogCB = true ∧ ∃ f, l.file = some f

/-- What a frame does to a logger that is writing: the line is appended, and a
failure stops it. -/
theorem log_writing {l : TelemetryLogger} (hinit : l.initialized = true) (hen : l.enabled = true)
    (hcb : l.internalLogCB = true) {f : LogFile} (hfile : l.file = some f)
    (frame : TelemetryLogframe) (throws : Option String) :
    let r := l.log stringify frame throws none
    r.1.escapes = false ∧ r.2.initialized = throws.isNone ∧ r.2.enabled = true ∧
      r.2.internalLogCB = true ∧
      ∃ f', r.2.file = some f' ∧ f'.appends = logLine stringify frame :: f.appends := by
  intro r
  have hr : r = _ := l.log_active stringify hinit hen hfile frame throws none
  cases throws with
  | none =>
    rw [hr]
    exact ⟨rfl, hinit, hen, hcb, _, rfl, rfl⟩
  | some what =>
    rw [hr]
    unfold callInternalLogCB
    dsimp only
    rw [hcb]
    exact ⟨rfl, rfl, hen, rfl, _, rfl, rfl⟩

/-- No exception leaves a call whose callback returns. -/
theorem log_reporting {l : TelemetryLogger} (h : Reporting l) (frame : TelemetryLogframe)
    (throws : Option String) :
    (l.log stringify frame throws none).1.escapes = false ∧
      Reporting (l.log stringify frame throws none).2 := by
  by_cases hactive : l.initialized = true ∧ l.enabled = true
  · obtain ⟨hcb, f, hfile⟩ := h hactive.1
    obtain ⟨hret, -, -, hcb', f', hfile', -⟩ :=
      log_writing stringify hactive.1 hactive.2 hcb hfile frame throws
    exact ⟨hret, fun _ => ⟨hcb', f', hfile'⟩⟩
  · rw [l.log_idle stringify hactive]
    exact ⟨rfl, h⟩

end TelemetryLogger

open TelemetryLogger (Reporting)

namespace LoggedBoard

variable {σ τ : Type} [SystemStatus σ] [SystemFlags τ] (libs : BoardLibs τ)

/-- The logger after a cycle. -/
def logged (s : LoggedBoard σ τ) (i : CycleInputs) (faults : LogFaults) : TelemetryLogger :=
  if s.board.LogDue i.micros then
    (s.logger.log stringify (frameOf libs i) faults.throws faults.cbThrows).2
  else s.logger

/-- A cycle whose callback returns is the board's cycle and, next to it, the
logger's. -/
theorem handle_cycle {s : LoggedBoard σ τ} (hrun : s.halted = false) (h : Reporting s.logger)
    (i : CycleInputs) {faults : LogFaults} (hcb : faults.cbThrows = none) :
    s.handle libs stringify (.cycle i faults) =
        { board := s.board.systemUpdate libs i, logger := s.logged stringify libs i faults,
          halted := false } ∧
      Reporting (s.logged stringify libs i faults) := by
  obtain ⟨throws, cbThrows⟩ := faults
  subst hcb
  obtain ⟨hret, hrep⟩ := TelemetryLogger.log_reporting stringify h (frameOf libs i) throws
  have hstep : s.handle libs stringify (.cycle i ⟨throws, none⟩) =
      s.systemUpdate libs stringify i ⟨throws, none⟩ := by
    rw [handle, hrun]
    rfl
  rw [hstep]
  by_cases hdue : s.board.LogDue i.micros
  · have hlogged : s.logged stringify libs i ⟨throws, none⟩ =
        (s.logger.log stringify (frameOf libs i) throws none).2 := if_pos hdue
    rw [hlogged]
    refine ⟨?_, hrep⟩
    have hdue' : ((s.board.deviceUpdate i).remoteSensorUpdate libs).LogDue i.micros := hdue
    unfold systemUpdate
    dsimp only
    rw [if_pos hdue']
    show (if (s.logger.log stringify (frameOf libs i) throws none).1.escapes then _ else _) = _
    rw [hret, if_neg Bool.false_ne_true, ← hrun]
    rfl
  · have hlogged : s.logged stringify libs i ⟨throws, none⟩ = s.logger := if_neg hdue
    rw [hlogged]
    refine ⟨?_, h⟩
    have hdue' : ¬((s.board.deviceUpdate i).remoteSensorUpdate libs).LogDue i.micros := hdue
    unfold systemUpdate
    dsimp only
    rw [if_neg hdue', ← hrun]

/-- A packet does not reach the logger. -/
theorem handle_packet {s : LoggedBoard σ τ} (hrun : s.halted = false) (e : Packet) :
    s.handle libs stringify (.packet e) = { s with board := s.board.receive e } := by
  rw [handle, hrun]
  rfl

/-! ## Runs -/

theorem run_control {s : LoggedBoard σ τ} (hrun : s.halted = false) (h : Reporting s.logger)
    {evs : List LoggedEvent} (hcb : ∀ ev ∈ evs, ev.Reports) :
    (run (handle libs stringify) s evs).halted = false ∧
      (run (handle libs stringify) s evs).board =
        run (Board.handle libs) s.board (evs.map LoggedEvent.event) := by
  induction evs generalizing s with
  | nil => exact ⟨hrun, rfl⟩
  | cons ev evs ih =>
    obtain ⟨hev, hevs⟩ := List.forall_mem_cons.mp hcb
    rw [run_cons, List.map_cons, run_cons]
    cases ev with
    | cycle i faults =>
      obtain ⟨hstep, hrep⟩ := handle_cycle stringify libs hrun h i hev
      rw [hstep]
      exact ih rfl hrep hevs
    | packet e =>
      rw [handle_packet stringify libs hrun]
      exact ih hrun h hevs

/-- A logger that has stopped leaves its file alone for the rest of the run. -/
theorem run_stopped {s : LoggedBoard σ τ} (hrun : s.halted = false)
    (hstop : s.logger.initialized = false) {evs : List LoggedEvent}
    (hcb : ∀ ev ∈ evs, ev.Reports) :
    (run (handle libs stringify) s evs).logger = s.logger := by
  induction evs generalizing s with
  | nil => rfl
  | cons ev evs ih =>
    obtain ⟨hev, hevs⟩ := List.forall_mem_cons.mp hcb
    have hidle : ¬(s.logger.initialized = true ∧ s.logger.enabled = true) := by
      rw [hstop]
      exact fun h => absurd h.1 Bool.false_ne_true
    have hrep : Reporting s.logger := fun hinit => absurd (hstop.symm.trans hinit) Bool.false_ne_true
    rw [run_cons]
    cases ev with
    | cycle i faults =>
      have hlogged : s.logged stringify libs i faults = s.logger := by
        unfold logged
        rw [s.logger.log_idle stringify hidle, ite_self]
      rw [(handle_cycle stringify libs hrun hrep i hev).1, hlogged]
      exact ih rfl hstop hevs
    | packet e =>
      rw [handle_packet stringify libs hrun]
      exact ih hrun hstop hevs

/-- The logger is writing to `f`. -/
structure Writing (l : TelemetryLogger) (f : LogFile) : Prop where
  initialized : l.initialized = true
  enabled : l.enabled = true
  internalLogCB : l.internalLogCB = true
  file : l.file = some f

/-- One that is writing appends a line for each frame that comes due, until one
cannot be appended. -/
theorem run_writing {s : LoggedBoard σ τ} (hrun : s.halted = false) {f : LogFile}
    (h : Writing s.logger f) {evs : List LoggedEvent} (hcb : ∀ ev ∈ evs, ev.Reports) :
    ∃ f', (run (handle libs stringify) s evs).logger.file = some f' ∧
      f'.appends = ((untilFailure (dueFrames libs s.board.prevTelemetryLogTime evs)).map
        (logLine stringify)).reverse ++ f.appends := by
  induction evs generalizing s f with
  | nil => exact ⟨f, h.file, rfl⟩
  | cons ev evs ih =>
    obtain ⟨hev, hevs⟩ := List.forall_mem_cons.mp hcb
    have hrep : Reporting s.logger := fun _ => ⟨h.internalLogCB, f, h.file⟩
    rw [run_cons]
    cases ev with
    | packet e =>
      rw [handle_packet stringify libs hrun]
      exact ih (s := { s with board := s.board.receive e }) hrun h hevs
    | cycle i faults =>
      rw [(handle_cycle stringify libs hrun hrep i hev).1]
      obtain ⟨throws, cbThrows⟩ := faults
      obtain rfl : cbThrows = none := hev
      by_cases hdue : s.board.LogDue i.micros
      · obtain ⟨-, hinit, hen, hlcb, f', hfile, happ⟩ := TelemetryLogger.log_writing stringify
          h.initialized h.enabled h.internalLogCB h.file (frameOf libs i) throws
        have hlogged : s.logged stringify libs i ⟨throws, none⟩ =
            (s.logger.log stringify (frameOf libs i) throws none).2 := if_pos hdue
        have hprev := (Board.systemUpdate_due libs hdue).2
        have hframes : dueFrames libs s.board.prevTelemetryLogTime
            (.cycle i ⟨throws, none⟩ :: evs) =
              (frameOf libs i, ⟨throws, none⟩) :: dueFrames libs i.micros.toUInt32 evs :=
          if_pos hdue
        rw [hframes, hlogged, untilFailure]
        cases throws with
        | none =>
          obtain ⟨f'', hfile'', happ''⟩ := ih (s := ⟨s.board.systemUpdate libs i, _, false⟩)
            rfl ⟨hinit, hen, hlcb, hfile⟩ hevs
          refine ⟨f'', hfile'', ?_⟩
          rw [happ'', hprev, happ]
          simp
        | some what =>
          rw [run_stopped stringify libs rfl hinit hevs]
          exact ⟨f', hfile, by rw [happ]; rfl⟩
      · have hlogged : s.logged stringify libs i ⟨throws, none⟩ = s.logger := if_neg hdue
        have hprev := (Board.systemUpdate_not_due libs hdue).2
        have hframes : dueFrames libs s.board.prevTelemetryLogTime
            (.cycle i ⟨throws, none⟩ :: evs) =
              dueFrames libs s.board.prevTelemetryLogTime evs := if_neg hdue
        rw [hframes, hlogged, ← hprev]
        exact ih (s := ⟨s.board.systemUpdate libs i, s.logger, false⟩) rfl h hevs

/-! ## From the setup -/

variable (filesys : String → Int → FsFile) (path : String) (fileDesc : Int)

/-- The setup is left by an exception only when a mounted card refuses the
header: nothing catches that one. -/
theorem setup_halted_iff (begins : Bool) (now : UInt32) (throws : Option String) (enabled : Bool) :
    (setup libs begins now filesys path fileDesc throws enabled : LoggedBoard σ τ).halted = true ↔
      begins = true ∧ throws.isSome = true := by
  cases begins with
  | false => exact iff_of_false Bool.false_ne_true fun h => Bool.false_ne_true h.1
  | true =>
    cases throws with
    | none => exact iff_of_false Bool.false_ne_true fun h => Bool.false_ne_true h.2
    | some what => exact iff_of_true rfl ⟨rfl, rfl⟩

/-- A setup that ends leaves the board set up. With the card mounted the logger
is writing; with no card it never starts. -/
theorem setup_spec (begins : Bool) (now : UInt32) (throws : Option String) (enabled : Bool)
    (h : (setup libs begins now filesys path fileDesc throws enabled :
      LoggedBoard σ τ).halted = false) :
    let s : LoggedBoard σ τ := setup libs begins now filesys path fileDesc throws enabled
    s.board = Board.setup libs begins now ∧ Reporting s.logger := by
  cases begins with
  | false => exact ⟨rfl, fun hinit => absurd hinit Bool.false_ne_true⟩
  | true =>
    cases throws with
    | none => exact ⟨rfl, fun _ => ⟨rfl, _, rfl⟩⟩
    | some what => cases h

/-- Whatever the card does to the log once the header is written, the board does
what it does. -/
theorem control_ignores_log (begins : Bool) (now : UInt32) (throws : Option String)
    (enabled : Bool) (hheader : ¬(begins = true ∧ throws.isSome = true))
    (evs : List LoggedEvent) (hcb : ∀ ev ∈ evs, ev.Reports) :
    let s : LoggedBoard σ τ := run (handle libs stringify)
      (setup libs begins now filesys path fileDesc throws enabled) evs
    s.halted = false ∧
      s.board = run (Board.handle libs) (Board.setup libs begins now)
        (evs.map LoggedEvent.event) := by
  have hrun : (setup libs begins now filesys path fileDesc throws enabled :
      LoggedBoard σ τ).halted = false :=
    eq_false_of_ne_true fun h => hheader ((setup_halted_iff ..).mp h)
  obtain ⟨hboard, hrep⟩ := setup_spec libs filesys path fileDesc begins now throws enabled hrun
  have hcontrol := run_control stringify libs hrun hrep hcb
  rw [hboard] at hcontrol
  exact hcontrol

/-- With the card mounted and the header written, the file has been given the
header and a line for each frame that came due, in order, up to the first one
that could not be appended, itself included. -/
theorem log_is_prefix (now : UInt32) (evs : List LoggedEvent) (hcb : ∀ ev ∈ evs, ev.Reports) :
    let s : LoggedBoard σ τ := run (handle libs stringify)
      (setup libs true now filesys path fileDesc none true) evs
    ∃ f, s.logger.file = some f ∧
      f.appends.reverse = TelemetryLogger.bytes (fileHeader ++ "\n") ::
        (untilFailure (dueFrames libs 0 evs)).map (logLine stringify) := by
  obtain ⟨f, hfile, happ⟩ := run_writing stringify libs (σ := σ)
    (s := setup libs true now filesys path fileDesc none true) rfl ⟨rfl, rfl, rfl, rfl⟩ hcb
  refine ⟨f, hfile, ?_⟩
  rw [happ, List.reverse_append, List.reverse_reverse]
  rfl

end LoggedBoard

open LoggedBoard

/-- Three frames are due, and the second cannot be appended. -/
def cardFails : List LoggedEvent :=
  [.cycle (cycleAt 2000) ⟨none, none⟩, .cycle (cycleAt 4000) ⟨some "Write error!", none⟩,
    .cycle (cycleAt 6000) ⟨none, none⟩]

theorem cardFails_reports : ∀ ev ∈ cardFails, ev.Reports := by
  intro ev hev
  simp only [cardFails, List.mem_cons, List.not_mem_nil, or_false] at hev
  rcases hev with rfl | rfl | rfl <;> rfl

theorem control_ignores_log_fails :
    (run (handle plainLibs fun _ => "")
      (setup plainLibs true 0 (fun _ _ => FsFile.closed) "/Logs/1" 3 none true :
        LoggedBoard StatusWord SystemWord) cardFails).halted = false :=
  (control_ignores_log (fun _ => "") plainLibs (fun _ _ => FsFile.closed) "/Logs/1" 3 true 0 none
    true (by decide) cardFails cardFails_reports).1

/-- The file has the header and two of them. -/
theorem log_is_prefix_fails :
    ∃ f, (run (handle plainLibs fun _ => "")
      (setup plainLibs true 0 (fun _ _ => FsFile.closed) "/Logs/1" 3 none true :
        LoggedBoard StatusWord SystemWord) cardFails).logger.file = some f ∧
      f.appends.length = 3 := by
  obtain ⟨f, hfile, happ⟩ := log_is_prefix (σ := StatusWord) (fun _ => "") plainLibs
    (fun _ _ => FsFile.closed) "/Logs/1" 3 0 cardFails cardFails_reports
  refine ⟨f, hfile, ?_⟩
  have hdue : (untilFailure (dueFrames plainLibs 0 cardFails)).length = 2 := by decide +kernel
  rw [← List.length_reverse, happ, List.length_cons, List.length_map, hdue]

end Heimdall
