import Heimdall.Greg.Update

/-!
# What an event does

One spec lemma for each thing an argument about runs asks of an event: the
state it leads to (`step_mode`), the flags (`step_critical`, `step_flag_ne`),
the angle an operator set (`step_regPressuriseAngle`), the power
(`step_buckEN_update`, `CommandStep`) and the commands sent (`step_sends`). An update's answers are
those of `Update.lean`; `execute_impl` has a list of its own, `ExecuteStep`.

Every event keeps the state and actuator invariant, so every reachable
controller has it (`reachable_consistent`), and with it `FlagsAgree`, which is
what all of these lemmas ask for.
-/

namespace Heimdall

open EventRun

variable {σ : Type} [SystemStatus σ]

/-! ## Commands -/

/-- The ways `execute_impl` can go. -/
inductive ExecuteStep (g : Greg σ) (arg : Int32) : Greg σ → Prop
  | entered (new : StateObj) (hm : g.machine.mode = .default)
      (hact : new.mode.isActive = true) : ExecuteStep g arg (g.changeState new)
  | shutdown (harg : arg = 2) : ExecuteStep g arg (g.changeState .shutdown)
  | ignored (harg : arg ≠ 2) : ExecuteStep g arg g

theorem executeImpl_step {g : Greg σ} (h : FlagsAgree g) (arg : Int32) :
    ExecuteStep g arg (g.executeImpl arg) := by
  -- what a command guarded by `STATE_DEFAULT` does
  have hguard (new : StateObj) (harg : arg ≠ 2) (hact : new.mode.isActive = true) :
      ExecuteStep g arg (if g.machine.mode ≠ .default then g else g.changeState new) := by
    by_cases hm : g.machine.mode = .default
    · rw [if_neg (not_not.mpr hm)]
      exact .entered new hm hact
    · rw [if_pos hm]
      exact .ignored harg
  rw [Greg.executeImpl_eq h]
  unfold Greg.executeByMode
  by_cases h1 : arg = 1
  · rw [if_pos h1]
    exact hguard (.controlled 0) (by rw [h1]; decide) rfl
  rw [if_neg h1]
  by_cases h2 : arg = 2
  · rw [if_pos h2]
    exact .shutdown h2
  rw [if_neg h2]
  by_cases h3 : arg = 3
  · rw [if_pos h3]
    exact hguard .debug h2 rfl
  rw [if_neg h3]
  by_cases h4 : arg = 4
  · rw [if_pos h4]
    exact hguard .pressurise h2 rfl
  · rw [if_neg h4]
    exact .ignored h2

/-- `execute_impl` makes the six-state machine's move. -/
theorem executeImpl_mode {g : Greg σ} (h : FlagsAgree g) (arg : Int32) :
    (g.executeImpl arg).machine.mode = g.machine.mode.onExecute arg := by
  rw [Greg.executeImpl_eq h]
  unfold Greg.executeByMode Mode.onExecute
  by_cases hm : g.machine.mode = .default
  · simp only [hm, ne_eq, not_true, if_false, and_true]
    split
    · exact Greg.changeState_mode _ _
    · split
      · exact Greg.changeState_mode _ _
      · split
        · exact Greg.changeState_mode _ _
        · split
          · exact Greg.changeState_mode _ _
          · exact hm
  · simp only [hm, ne_eq, not_false_iff, if_true, and_false, if_false]
    split
    next h1 => rw [if_neg (by rw [h1]; decide)]
    next h1 =>
      split
      · exact Greg.changeState_mode _ _
      · split
        · rfl
        · split <;> rfl

/-- An active state has no resting angle, and sends none when it is entered. -/
theorem StateObj.restAngle_active {s : StateObj} (h : s.mode.isActive = true) :
    s.restAngle = none ∧ s.mode.restAngle = none := by
  cases s with
  | pressurise | controlled _ | debug => exact ⟨rfl, rfl⟩
  | default | shutdown | halfabort _ => exact absurd h (by simp [mode, Mode.isActive])

theorem executeImpl_frame {g : Greg σ} (h : FlagsAgree g) (arg : Int32) :
    Frame g (g.executeImpl arg) := by
  have hstep := executeImpl_step h arg
  generalize g.executeImpl arg = g' at hstep ⊢
  cases hstep with
  | entered new hm hact => exact Greg.changeState_frame new g
  | shutdown harg => exact Greg.changeState_frame .shutdown g
  | ignored harg => exact Frame.refl g

theorem executeImpl_isError {g : Greg σ} (h : FlagsAgree g) (arg : Int32) {f : GregFlags}
    (hf : f.isError) : (g.executeImpl arg).flagSet f = g.flagSet f := by
  have hstep := executeImpl_step h arg
  generalize g.executeImpl arg = g' at hstep ⊢
  cases hstep with
  | entered new hm hact => exact Greg.changeState_isError new g hf
  | shutdown harg => exact Greg.changeState_isError .shutdown g hf
  | ignored harg => rfl

/-- A command never switches the power off, and turns it on to enter an
active state. -/
theorem executeImpl_buckEN {g : Greg σ} (h : FlagsAgree g) (arg : Int32) :
    (g.executeImpl arg).buckEN = true ↔
      g.buckEN = true ∨ (g.executeImpl arg).machine.mode ≠ g.machine.mode ∧
        (g.executeImpl arg).machine.mode.isActive = true := by
  have hstep := executeImpl_step h arg
  generalize g.executeImpl arg = g' at hstep ⊢
  cases hstep with
  | entered new hm hact =>
    rw [Greg.changeState_buckEN, Greg.changeState_mode, hact, hm]
    refine iff_of_true rfl (Or.inr ⟨?_, rfl⟩)
    intro hdef
    rw [hdef] at hact
    exact absurd hact (by decide)
  | shutdown harg =>
    rw [Greg.changeState_buckEN, Greg.changeState_mode]
    exact ⟨fun hon => Or.inl hon, fun hon => hon.resolve_right fun hact => absurd hact.2 (by decide)⟩
  | ignored harg => exact ⟨Or.inl, fun hon => hon.resolve_right fun hne => hne.1 rfl⟩

theorem Consistent.executeImpl {g : Greg σ} (h : Consistent g) (arg : Int32) :
    Consistent (g.executeImpl arg) := by
  have hstep := executeImpl_step h.flags arg
  generalize g.executeImpl arg = g' at hstep ⊢
  cases hstep with
  | entered new hm hact =>
    obtain ⟨hobj, hmode⟩ := StateObj.restAngle_active hact
    exact h.flags.changeState_consistent (hobj.trans hmode.symm)
  | shutdown harg => exact h.flags.changeState_consistent rfl
  | ignored harg => exact h

/-- The only command that moves the servo is the shutdown. -/
theorem executeImpl_sent {g : Greg σ} (h : FlagsAgree g) (arg : Int32) :
    (g.executeImpl arg).sent =
      if arg = 2 then (closedAngle, g.entryMoment .shutdown) :: g.sent else g.sent := by
  have hstep := executeImpl_step h arg
  by_cases harg : arg = 2
  · rw [if_pos harg, Greg.executeImpl, if_neg (by rw [harg]; decide), if_pos harg]
    exact Greg.changeState_sent .shutdown g
  · rw [if_neg harg]
    -- the other commands enter active states, which send nothing on entry
    generalize g.executeImpl arg = g' at hstep ⊢
    cases hstep with
    | entered new hm hact => rw [Greg.changeState_sent, (StateObj.restAngle_active hact).1]
    | shutdown h2 => exact absurd h2 harg
    | ignored _ => rfl

/-! ## Extended commands -/

/-- The ways the extended handler can go. -/
inductive ExtendedStep (g : Greg σ) (commandID : UInt8) (arg : Int32) : Greg σ → Prop
  | moves (h6 : commandID = 6) (hdbg : g.flagSet .stateDebug = true) :
      ExtendedStep g commandID arg (g.execute arg.toInt)
  | setsAngle (h7 : commandID = 7) :
      ExtendedStep g commandID arg { g with regPressuriseAngle := arg.toUInt32 }
  | ignored : ExtendedStep g commandID arg g

theorem extended_step (g : Greg σ) (commandID : UInt8) (arg : Int32) :
    ExtendedStep g commandID arg (g.extendedCommandHandlerImpl commandID arg) := by
  unfold Greg.extendedCommandHandlerImpl
  split
  next h6 =>
    split
    next hdbg => exact .moves h6 hdbg
    next => exact .ignored
  next =>
    split
    next h7 =>
      split
      · exact .ignored
      · exact .setsAngle h7
    next => exact .ignored

/-- What an extended command can change: the last angle of the adapter, in
`DEBUG`, and the pressurise angle. -/
structure Extended {σ : Type} (g g' : Greg σ) : Prop where
  millis : g'.millis = g.millis
  disarmed : g'.disarmed = g.disarmed
  machine : g'.machine = g.machine
  status : g'.status = g.status
  armed : g'.adapter.armed = g.adapter.armed
  buckEN : g'.buckEN = g.buckEN

theorem Extended.refl {σ : Type} (g : Greg σ) : Extended g g :=
  ⟨rfl, rfl, rfl, rfl, rfl, rfl⟩

theorem extended_spec (g : Greg σ) (commandID : UInt8) (arg : Int32) :
    Extended g (g.extendedCommandHandlerImpl commandID arg) := by
  have hstep := extended_step g commandID arg
  generalize g.extendedCommandHandlerImpl commandID arg = g' at hstep ⊢
  cases hstep with
  | moves h6 hdbg => exact ⟨rfl, rfl, rfl, rfl, rfl, rfl⟩
  | setsAngle h7 => exact ⟨rfl, rfl, rfl, rfl, rfl, rfl⟩
  | ignored => exact Extended.refl g

theorem Consistent.extended {g : Greg σ} (h : Consistent g) (commandID : UInt8) (arg : Int32) :
    Consistent (g.extendedCommandHandlerImpl commandID arg) := by
  have hstep := extended_step g commandID arg
  generalize g.extendedCommandHandlerImpl commandID arg = g' at hstep ⊢
  cases hstep with
  | moves h6 hdbg =>
    refine ⟨h.flags.of_eq rfl rfl, h.armed, ?_⟩
    intro angle hangle
    -- `DEBUG` has no resting angle
    have hm : g.machine.mode = .debug := (h.flags .debug).mp hdbg
    have hangle' : g.machine.mode.restAngle = some angle := hangle
    rw [hm] at hangle'
    exact absurd hangle' (by simp [Mode.restAngle])
  | setsAngle h7 => exact h.of_eq rfl rfl rfl
  | ignored => exact h

theorem extended_sent {g : Greg σ} (h : FlagsAgree g) (commandID : UInt8) (arg : Int32) :
    (g.extendedCommandHandlerImpl commandID arg).sent =
      if commandID = 6 ∧ g.machine.mode = .debug then (arg.toInt, g.moment) :: g.sent
      else g.sent := by
  rw [Greg.extendedCommandHandlerImpl_eq h]
  unfold Greg.extendedByMode
  by_cases h6 : commandID = 6
  · by_cases hm : g.machine.mode = .debug
    · rw [if_pos h6, if_pos hm, if_pos ⟨h6, hm⟩]
      exact Greg.sent_execute arg.toInt g
    · rw [if_pos h6, if_neg hm, if_neg fun hc => hm hc.2]
  · have hno : ¬(commandID = 6 ∧ g.machine.mode = .debug) := fun hc => h6 hc.1
    rw [if_neg h6, if_neg hno]
    split
    · split <;> rfl
    · rfl

/-! ## The state an event leads to -/

theorem step_execute_disarmed {g : Greg σ} (hd : g.disarmed = true) (t : UInt32) (arg : Int32) :
    step g (.execute t arg) = g.begin t :=
  if_pos hd

theorem step_execute_armed {g : Greg σ} (hd : g.disarmed = false) (t : UInt32) (arg : Int32) :
    step g (.execute t arg) = (g.begin t).executeImpl arg :=
  if_neg (Bool.eq_false_iff.mp hd)

/-- The ways an execute packet can go, armed or not. -/
inductive ExecuteEvent (g : Greg σ) (t : UInt32) : Greg σ → Prop
  | entered (new : StateObj) (hm : g.mode = .default) (hact : new.mode.isActive = true) :
      ExecuteEvent g t ((g.begin t).changeState new)
  | shutdown : ExecuteEvent g t ((g.begin t).changeState .shutdown)
  | ignored : ExecuteEvent g t (g.begin t)

theorem step_execute {g : Greg σ} (h : FlagsAgree g) (t : UInt32) (arg : Int32) :
    ExecuteEvent g t (step g (.execute t arg)) := by
  cases hd : g.disarmed with
  | true =>
    rw [step_execute_disarmed hd]
    exact .ignored
  | false =>
    rw [step_execute_armed hd]
    have hstep := executeImpl_step (h.begin t) arg
    generalize (g.begin t).executeImpl arg = g' at hstep ⊢
    cases hstep with
    | entered new hm hact => exact .entered new hm hact
    | shutdown harg => exact .shutdown
    | ignored harg => exact .ignored

/-- What the six-state machine sees of an event. -/
def Greg.cue (g : Greg σ) : Event → Cue
  | .update _ p _ =>
    .update g.disarmed (decide (pSetpoint + pPressExtra ≤ p))
      (decide (g.flagSet .errorCriticalOVP = true ∨ pHalfAbort < p)) (g.flagSet .errorHalfabort)
  | .execute _ arg => if g.disarmed then .other else .execute arg
  | .arm _ | .disarm _ | .extended .. => .other

theorem step_mode {g : Greg σ} (h : FlagsAgree g) (e : Event) :
    (step g e).mode = g.mode.next (g.cue e) := by
  cases e with
  | update t p n => exact update_mode (h.sense t p n)
  | arm t => rfl
  | disarm t => rfl
  | execute t arg =>
    cases hd : g.disarmed with
    | true =>
      rw [step_execute_disarmed hd, Greg.cue, if_pos hd]
      rfl
    | false =>
      rw [step_execute_armed hd, Greg.cue, if_neg (Bool.eq_false_iff.mp hd)]
      exact executeImpl_mode (h.begin t) arg
  | extended t commandID arg =>
    exact congrArg StateObj.mode (extended_spec (g.begin t) commandID arg).machine

/-! ## The invariant -/

theorem setup_consistent (disarmed : Bool) (now : UInt32) :
    Consistent (Greg.setup disarmed now : Greg σ) where
  flags := by
    intro m
    have hstatus : (Greg.setup disarmed now : Greg σ).status =
        FlagStore.newFlag (FlagStore.empty GregFlags) GregFlags.stateDefault :=
      StateObj.initializeState_status .default _
    have hmode : (Greg.setup disarmed now : Greg σ).machine.mode = .default := rfl
    rw [Greg.flagSet, hstatus, hmode, FlagStore.flagSet_newFlag, FlagStore.flagSet_empty]
    constructor
    · intro hset
      have hflag := hset.resolve_right (by decide)
      exact (Mode.flag_inj.mp (hflag : m.flag = Mode.default.flag)).symm
    · intro hm
      exact Or.inl (congrArg Mode.flag hm.symm)
  armed := rfl
  rest := fun _ h => h

theorem step_consistent {g : Greg σ} (h : Consistent g) (e : Event) : Consistent (step g e) := by
  have hbegin (t : UInt32) : Consistent (g.begin t) := h.of_eq rfl rfl rfl
  cases e with
  | update t p n => exact ((hbegin t).of_eq rfl rfl rfl : Consistent ((g.begin t).sense p n)).update
  | arm t => exact (hbegin t).of_eq rfl rfl rfl
  | disarm t => exact (hbegin t).of_eq rfl rfl rfl
  | execute t arg =>
    cases hd : g.disarmed with
    | true =>
      rw [step_execute_disarmed hd]
      exact hbegin t
    | false =>
      rw [step_execute_armed hd]
      exact (hbegin t).executeImpl arg
  | extended t commandID arg => exact (hbegin t).extended commandID arg

theorem reachable_consistent {g : Greg σ} (h : Reachable g) : Consistent g := by
  refine EventRun.Reachable.induction (J := Consistent) ?_ (fun _ e hg => step_consistent hg e) h
  intro g hg
  obtain ⟨disarmed, now, rfl⟩ := hg
  exact setup_consistent disarmed now

theorem reachable_run (disarmed : Bool) (now : UInt32) (es : List Event) :
    Reachable (run step (Greg.setup disarmed now : Greg σ) es) :=
  (EventRun.Reachable.init ⟨disarmed, now, rfl⟩).run es

theorem run_consistent (disarmed : Bool) (now : UInt32) (es : List Event) :
    Consistent (run step (Greg.setup disarmed now : Greg σ) es) :=
  reachable_consistent (reachable_run disarmed now es)

/-! ## The inputs an event sets -/

/-- What an event other than an update leaves behind. -/
structure CommandStep (g : Greg σ) (e : Event) (g' : Greg σ) : Prop where
  millis : g'.millis = e.millis
  errors : ∀ f : GregFlags, f.isError → g'.flagSet f = g.flagSet f
  /-- The power is never switched off, and turned on to enter an active state. -/
  buckEN : g'.buckEN = true ↔
    g.buckEN = true ∨ g'.mode ≠ g.mode ∧ g'.mode.isActive = true

/-- An event that leaves the state, the flags and the power alone. -/
theorem CommandStep.of_eq {g g' : Greg σ} {e : Event} (hmillis : g'.millis = e.millis)
    (hmachine : g'.machine = g.machine) (hstatus : g'.status = g.status)
    (hbuck : g'.buckEN = g.buckEN) : CommandStep g e g' where
  millis := hmillis
  errors := by
    intro f _
    rw [Greg.flagSet, hstatus]
    rfl
  buckEN := by
    rw [hbuck]
    exact ⟨Or.inl, fun hon => hon.resolve_right fun hne => hne.1 (congrArg StateObj.mode hmachine)⟩

theorem step_command {g : Greg σ} (h : FlagsAgree g) {e : Event} (he : e.isUpdate = false) :
    CommandStep g e (step g e) := by
  cases e with
  | update t p n => exact absurd he (by simp [Event.isUpdate])
  | arm t => exact .of_eq rfl rfl rfl rfl
  | disarm t => exact .of_eq rfl rfl rfl rfl
  | execute t arg =>
    cases hd : g.disarmed with
    | true =>
      rw [step_execute_disarmed hd]
      exact .of_eq rfl rfl rfl rfl
    | false =>
      rw [step_execute_armed hd]
      exact ⟨(executeImpl_frame (h.begin t) arg).millis,
        fun f hf => executeImpl_isError (h.begin t) arg hf, executeImpl_buckEN (h.begin t) arg⟩
  | extended t commandID arg =>
    have hspec := extended_spec (g.begin t) commandID arg
    exact .of_eq hspec.millis hspec.machine hspec.status hspec.buckEN

theorem step_millis {g : Greg σ} (h : FlagsAgree g) (e : Event) :
    (step g e).millis = e.millis := by
  cases he : e.isUpdate with
  | false => exact (step_command h he).millis
  | true =>
    cases e with
    | update t p n => exact (update_frame (h.sense t p n)).millis
    | _ => exact absurd he (by simp [Event.isUpdate])

/-- Command 7 sets the pressurise angle, unless the new one is over 50 above
the old. -/
theorem step_setAngle (g : Greg σ) (t : UInt32) (arg : Int32) :
    (step g (.extended t 7 arg)).regPressuriseAngle =
      if arg.toUInt32 > g.regPressuriseAngle + 50 then g.regPressuriseAngle else arg.toUInt32 := by
  show ((g.begin t).extendedCommandHandlerImpl 7 arg).regPressuriseAngle = _
  unfold Greg.extendedCommandHandlerImpl
  rw [if_neg (by decide), if_pos rfl]
  by_cases hbig : arg.toUInt32 > g.regPressuriseAngle + 50
  · have hbig' : arg.toUInt32 > (g.begin t).regPressuriseAngle + 50 := hbig
    rw [if_pos hbig, if_pos hbig']
    rfl
  · have hbig' : ¬arg.toUInt32 > (g.begin t).regPressuriseAngle + 50 := hbig
    rw [if_neg hbig, if_neg hbig']

/-- Nothing else does. -/
theorem step_regPressuriseAngle {g : Greg σ} (h : FlagsAgree g) {e : Event}
    (hne : ∀ t arg, e ≠ .extended t 7 arg) :
    (step g e).regPressuriseAngle = g.regPressuriseAngle := by
  cases e with
  | update t p n =>
    exact (update_frame (h.sense t p n)).regPressuriseAngle
  | arm t => rfl
  | disarm t => rfl
  | execute t arg =>
    cases hd : g.disarmed with
    | true =>
      rw [step_execute_disarmed hd]
      rfl
    | false =>
      rw [step_execute_armed hd]
      exact (executeImpl_frame (h.begin t) arg).regPressuriseAngle
  | extended t commandID arg =>
    have hstep := extended_step (g.begin t) commandID arg
    show ((g.begin t).extendedCommandHandlerImpl commandID arg).regPressuriseAngle = _
    generalize (g.begin t).extendedCommandHandlerImpl commandID arg = g' at hstep ⊢
    cases hstep with
    | moves h6 hdbg => rfl
    | setsAngle h7 => exact absurd (by rw [h7]) (hne t arg)
    | ignored => rfl

/-! ## The flags an event leaves -/

/-- The feedback reading an event brings. -/
def Event.reading : Event → Option ℚ
  | .update _ p _ => some p
  | _ => none

/-- The feedback readings of a run. -/
def readings (es : List Event) : List ℚ := es.filterMap Event.reading

/-- Only an update touches the error flags. -/
theorem step_isError {g : Greg σ} (h : FlagsAgree g) {e : Event} (he : e.reading = none)
    {f : GregFlags} (hf : f.isError) : (step g e).flagSet f = g.flagSet f := by
  refine (step_command h ?_).errors f hf
  cases e with
  | update t p n => exact absurd he (by simp [Event.reading])
  | _ => rfl

/-- The latch of the critical flag: set by a reading above the half-abort
limit, cleared by nothing. -/
theorem step_critical {g : Greg σ} (h : FlagsAgree g) (e : Event) :
    (step g e).flagSet .errorCriticalOVP = true ↔
      g.flagSet .errorCriticalOVP = true ∨ ∃ p ∈ e.reading, pHalfAbort < p := by
  cases hr : e.reading with
  | none =>
    rw [step_isError h hr (by decide)]
    simp
  | some p =>
    cases e with
    | update t p' n =>
      have hcrit := update_critical (h.sense t p' n)
      obtain rfl : p' = p := Option.some.inj hr
      refine hcrit.trans (or_congr Iff.rfl ⟨fun hp => ⟨p', rfl, hp⟩, ?_⟩)
      rintro ⟨q, hq, hp⟩
      rwa [Option.mem_some.mp hq]
    | _ => exact absurd hr (by simp [Event.reading])

/-- `ERROR_FBP_COVP` compares the reading with the half-abort limit. -/
theorem step_covp {g : Greg σ} (h : FlagsAgree g) (t : UInt32) (p n : ℚ) :
    (step g (.update t p n)).flagSet .errorFbpCOVP = decide (pHalfAbort < p) :=
  update_covp (h.sense t p n)

/-- Flags that no check writes keep their value. -/
theorem step_flag_ne {g : Greg σ} (h : FlagsAgree g) (e : Event) {f : GregFlags}
    (hf : f.isError) (hne : f ∉ .errorCriticalOVP :: Greg.sensorFlags) :
    (step g e).flagSet f = g.flagSet f := by
  cases hr : e.reading with
  | none => exact step_isError h hr hf
  | some p =>
    cases e with
    | update t p' n => exact update_flag_ne (h.sense t p' n) hf hne
    | _ => exact absurd hr (by simp [Event.reading])

/-! ## The power -/

/-- The power once the periodic refresh and the off-deadline have been seen
to, in an update; the power there was, in any other event. -/
def Greg.powerAt {σ : Type} (g : Greg σ) : Event → Bool
  | .update t _ _ => (g.begin t).power
  | _ => g.buckEN

theorem step_buckEN_update {g : Greg σ} (h : FlagsAgree g) (t : UInt32) (p n : ℚ) :
    (step g (.update t p n)).buckEN = g.powerAt (.update t p n) :=
  update_buckEN (h.sense t p n)

/-! ## The commands an event sends -/

/-- The event makes the machine enter a passive state, which drives the valve. -/
def Greg.drives (g : Greg σ) : Event → Prop
  | .update t p n => g.mode.next (g.cue (.update t p n)) ≠ g.mode
  | .execute _ arg => g.disarmed = false ∧ arg = 2
  | .arm _ | .disarm _ | .extended .. => False

/-- The command `c` is that drive. -/
structure Drive (g : Greg σ) (e : Event) (c : Int × Moment σ) : Prop where
  drives : g.drives e
  angle : (step g e).mode.restAngle = some c.1
  mode : c.2.mode = (step g e).mode
  millis : c.2.millis = e.millis
  disarmed : c.2.disarmed = g.disarmed
  buckEN : c.2.buckEN = g.powerAt e
  guarded : c.1 = closedAngle ∨
    g.disarmed = false ∧ FlagStore.flagSet c.2.status GregFlags.errorCriticalOVP = false

/-- The sources of a servo command. -/
inductive Sends (g : Greg σ) : Event → Int × Moment σ → Prop
  | drive {e : Event} {c : Int × Moment σ} (h : Drive g e c) : Sends g e c
  | own {t : UInt32} {p n : ℚ} {angle : Int} (hd : g.disarmed = false)
      (hangle : ((g.begin t).sense p n).ownAngle = some angle) :
      Sends g (.update t p n) (angle, ((g.begin t).sense p n).managed.moment)
  | direct {t : UInt32} {arg : Int32} (hm : g.mode = .debug) :
      Sends g (.extended t 6 arg) (arg.toInt, (g.begin t).moment)

theorem drive_of_update {g : Greg σ} (h : FlagsAgree g) {t : UInt32} {p n : ℚ}
    {c : Int × Moment σ}
    (hc : UpdateDrive ((g.begin t).sense p n) ((g.begin t).sense p n).update c) :
    Drive g (.update t p n) c where
  drives := by
    show g.mode.next _ ≠ g.mode
    rw [← step_mode h]
    exact hc.moved
  angle := hc.angle
  mode := hc.mode
  millis := hc.millis
  disarmed := hc.disarmed
  buckEN := hc.buckEN
  guarded := hc.guarded

theorem drive_of_execute {g : Greg σ} (h : FlagsAgree g) {t : UInt32} {arg : Int32}
    (hd : g.disarmed = false) (harg : arg = 2) :
    Drive g (.execute t arg) (closedAngle, (g.begin t).entryMoment .shutdown) := by
  have hmode : (step g (.execute t arg)).mode = .shutdown := by
    rw [step_mode h, Greg.cue, if_neg (by simp [hd]), harg]
    rfl
  exact ⟨⟨hd, harg⟩, by rw [hmode]; rfl, hmode.symm, rfl, rfl, rfl, Or.inl rfl⟩

/-- Every command an event sends comes from one of the three sources. -/
theorem step_sends {g : Greg σ} (h : FlagsAgree g) {e : Event} {c : Int × Moment σ}
    (hc : c ∈ (step g e).sent) : Sends g e c := by
  cases e with
  | update t p n =>
    have hagree : FlagsAgree ((g.begin t).sense p n) := h.sense t p n
    have hown (hc : c ∈ ((g.begin t).sense p n).ownSends ++ ((g.begin t).sense p n).sent) :
        Sends g (.update t p n) c := by
      rw [show ((g.begin t).sense p n).sent = [] from rfl, List.append_nil, Greg.ownSends] at hc
      split at hc
      · exact absurd hc List.not_mem_nil
      next hd =>
        rw [Option.mem_toList, Option.map_eq_some_iff] at hc
        obtain ⟨angle, hangle, rfl⟩ := hc
        exact .own (Bool.eq_false_iff.mpr hd) hangle
    rcases update_sent hagree with ⟨-, hsent⟩ | ⟨c', hdrive, hsent⟩
    · exact hown (hsent ▸ hc)
    · rcases List.mem_cons.mp (hsent ▸ hc : c ∈ c' :: _) with rfl | hc'
      · refine .drive ⟨?_, hdrive.angle, hdrive.mode, hdrive.millis, hdrive.disarmed,
          hdrive.buckEN, hdrive.guarded⟩
        show g.mode.next _ ≠ g.mode
        rw [← step_mode h]
        exact hdrive.moved
      · exact hown hc'
  | arm t => exact absurd hc List.not_mem_nil
  | disarm t => exact absurd hc List.not_mem_nil
  | execute t arg =>
    cases hd : g.disarmed with
    | true =>
      rw [step_execute_disarmed hd] at hc
      exact absurd hc List.not_mem_nil
    | false =>
      rw [step_execute_armed hd, executeImpl_sent (h.begin t)] at hc
      split at hc
      next harg =>
        rw [List.mem_singleton.mp hc]
        exact .drive (drive_of_execute h hd harg)
      next => exact absurd hc List.not_mem_nil
  | extended t commandID arg =>
    have hsent := extended_sent (h.begin t) commandID arg
    have hc' : c ∈ ((g.begin t).extendedCommandHandlerImpl commandID arg).sent := hc
    rw [hsent] at hc'
    split at hc'
    next hif =>
      obtain ⟨rfl, hm⟩ := hif
      rw [List.mem_singleton.mp hc']
      exact .direct hm
    next => exact absurd hc' List.not_mem_nil

/-- An armed update makes the state's own move. -/
theorem own_mem_sent {g : Greg σ} (h : FlagsAgree g) {t : UInt32} {p n : ℚ} {angle : Int}
    (hd : g.disarmed = false) (hangle : ((g.begin t).sense p n).ownAngle = some angle) :
    (angle, ((g.begin t).sense p n).managed.moment) ∈ (step g (.update t p n)).sent := by
  have hagree : FlagsAgree ((g.begin t).sense p n) := h.sense t p n
  have hown : (angle, ((g.begin t).sense p n).managed.moment) ∈
      ((g.begin t).sense p n).ownSends ++ ((g.begin t).sense p n).sent := by
    refine List.mem_append_left _ ?_
    rw [Greg.ownSends, if_neg (by simp [hd]), hangle]
    exact List.mem_singleton_self _
  show _ ∈ ((g.begin t).sense p n).update.sent
  rcases update_sent hagree with ⟨-, hsent⟩ | ⟨c, -, hsent⟩
  · rw [hsent]
    exact hown
  · rw [hsent]
    exact List.mem_cons_of_mem _ hown

/-- An event that enters a passive state drives the valve. -/
theorem drive_mem_sent {g : Greg σ} (h : FlagsAgree g) {e : Event} (he : g.drives e) :
    ∃ c ∈ (step g e).sent, Drive g e c := by
  cases e with
  | update t p n =>
    have hagree : FlagsAgree ((g.begin t).sense p n) := h.sense t p n
    rcases update_sent hagree with ⟨hmode, -⟩ | ⟨c, hdrive, hsent⟩
    · refine absurd ?_ he
      rw [← step_mode h]
      exact hmode
    · refine ⟨c, ?_, drive_of_update h hdrive⟩
      show c ∈ ((g.begin t).sense p n).update.sent
      rw [hsent]
      exact List.mem_cons_self
  | execute t arg =>
    obtain ⟨hd, harg⟩ := he
    refine ⟨_, ?_, drive_of_execute h hd harg⟩
    rw [step_execute_armed hd, executeImpl_sent (h.begin t), if_pos harg]
    exact List.mem_cons_self
  | arm t => exact absurd he id
  | disarm t => exact absurd he id
  | extended t commandID arg => exact absurd he id

/-- A command sent in `DEBUG` reaches the adapter as it is. -/
theorem direct_mem_sent {g : Greg σ} (h : FlagsAgree g) {t : UInt32} (arg : Int32)
    (hm : g.mode = .debug) :
    (arg.toInt, (g.begin t).moment) ∈ (step g (.extended t 6 arg)).sent := by
  have hsent := extended_sent (h.begin t) 6 arg
  show _ ∈ ((g.begin t).extendedCommandHandlerImpl 6 arg).sent
  rw [hsent, if_pos ⟨rfl, hm⟩]
  exact List.mem_cons_self

/-! ## Setup -/

theorem setup_sent (disarmed : Bool) (now : UInt32) :
    ∃ m : Moment σ, (Greg.setup disarmed now : Greg σ).sent = [(closedAngle, m)] ∧
      m.millis = now ∧ m.mode = .default ∧ m.disarmed = disarmed ∧ m.buckEN = true :=
  ⟨_, rfl, rfl, rfl, rfl, rfl⟩

theorem setup_flagSet (disarmed : Bool) (now : UInt32) {f : GregFlags} (hf : f.isError) :
    (Greg.setup disarmed now : Greg σ).flagSet f = false := by
  have hstatus : (Greg.setup disarmed now : Greg σ).status =
      FlagStore.newFlag (FlagStore.empty GregFlags) GregFlags.stateDefault :=
    StateObj.initializeState_status .default _
  rw [Greg.flagSet, hstatus, FlagStore.flagSet_newFlag_ne _ (show f ≠ GregFlags.stateDefault from hf .default),
    FlagStore.flagSet_empty]

end Heimdall
