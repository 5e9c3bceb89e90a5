import Heimdall.Greg.Events
import Heimdall.Lib.Toggle

/-!
# Every flag call changes a flag

Each `newFlag` and `deleteFlag` call is an event the status logs and sends on.
None of the controller's is idle: a check asks the flag before it writes it,
and a transition clears the one state flag that is set before it sets another.
So the calls for one flag, over a whole run and from the first state's own, are
a raise and a clear in turn (`flag_calls_alternate`), however the two pressure
checks that share `ERROR_FBP_COVP` follow each other.
-/

namespace Heimdall

open EventRun

/-- What a call does to the flag `f`. -/
def Call.turns (f : GregFlags) : Call → Option Bool
  | newFlag k _ | initializeState k => if k = f then some true else none
  | deleteFlag k _ | exitState k => if k = f then some false else none
  | arm | execute _ | disarm | setEN _ => none

namespace Greg

variable {σ : Type}

/-- What the calls of an event do to `f`, newest first. -/
def turns (f : GregFlags) (g : Greg σ) : List Bool := g.calls.filterMap fun c => c.1.turns f

@[simp] theorem turns_arm (f : GregFlags) (g : Greg σ) : g.arm.turns f = g.turns f := rfl
@[simp] theorem turns_disarm (f : GregFlags) (g : Greg σ) : g.disarm.turns f = g.turns f := rfl
@[simp] theorem turns_execute (f : GregFlags) (angle : Int) (g : Greg σ) :
    (g.execute angle).turns f = g.turns f := rfl
@[simp] theorem turns_setMachine (f : GregFlags) (new : StateObj) (g : Greg σ) :
    (g.setMachine new).turns f = g.turns f := rfl
@[simp] theorem turns_buckOn (f : GregFlags) (g : Greg σ) : g.buckOn.turns f = g.turns f := rfl
@[simp] theorem turns_buckOff (f : GregFlags) (d : UInt32) (g : Greg σ) :
    (g.buckOff d).turns f = g.turns f := rfl

variable [SystemStatus σ]

@[simp] theorem turns_initializeState (f k : GregFlags) (g : Greg σ) :
    (g.initializeState k).turns f = (if k = f then [true] else []) ++ g.turns f := by
  unfold turns
  rw [initializeState_calls, List.filterMap_cons, Call.turns]
  split_ifs <;> rfl

@[simp] theorem turns_exitState (f k : GregFlags) (g : Greg σ) :
    (g.exitState k).turns f = (if k = f then [false] else []) ++ g.turns f := by
  unfold turns
  rw [exitState_calls, List.filterMap_cons, Call.turns]
  split_ifs <;> rfl

/-- The calls of the event so far have each turned `f` over, which started the
event at `before`. -/
def Turned (f : GregFlags) (before : Bool) (g : Greg σ) : Prop :=
  Toggles before (g.flagSet f) (g.turns f)

variable {f k : GregFlags} {before : Bool} {g : Greg σ}

/-- A step with no flag call. -/
theorem Turned.of_eq {g' : Greg σ} (h : Turned f before g) (hstatus : g'.status = g.status)
    (hturns : g'.turns f = g.turns f) : Turned f before g' := by
  unfold Turned flagSet
  rw [hstatus, hturns]
  exact h

/-- A call that turns `k` to `b`, which it was not. -/
theorem Turned.turn {g' : Greg σ} (h : Turned f before g) {c : Call} {m : Moment σ} {b : Bool}
    (hcalls : g'.calls = (c, m) :: g.calls) (hc : c.turns f = if k = f then some b else none)
    (hk : g.flagSet k = !b) (hself : g'.flagSet k = b)
    (hne : ∀ f, f ≠ k → g'.flagSet f = g.flagSet f) : Turned f before g' := by
  unfold Turned turns
  rw [hcalls, List.filterMap_cons, hc]
  by_cases hkf : k = f
  · subst hkf
    have hturn := Toggles.turn h
    rw [hk, Bool.not_not] at hturn
    rw [if_pos rfl, hself]
    exact hturn
  · rw [if_neg hkf, hne f (Ne.symm hkf)]
    exact h

theorem Turned.newFlag (h : Turned f before g) (hk : g.flagSet k = false) (info : String) :
    Turned f before (g.newFlag k info) :=
  h.turn rfl rfl hk (flagSet_newFlag k info g) fun _ hne => flagSet_newFlag_ne hne info g

theorem Turned.deleteFlag (h : Turned f before g) (hk : g.flagSet k = true) (info : String) :
    Turned f before (g.deleteFlag k info) :=
  h.turn rfl rfl hk (flagSet_deleteFlag k info g) fun _ hne => flagSet_deleteFlag_ne hne info g

theorem Turned.initializeState (h : Turned f before g) (hk : g.flagSet k = false) :
    Turned f before (g.initializeState k) :=
  h.turn rfl rfl hk (flagSet_newFlag k "" g) fun _ hne => flagSet_newFlag_ne hne "" g

theorem Turned.exitState (h : Turned f before g) (hk : g.flagSet k = true) :
    Turned f before (g.exitState k) :=
  h.turn rfl rfl hk (flagSet_deleteFlag k "" g) fun _ hne => flagSet_deleteFlag_ne hne "" g

/-! ## Transitions -/

theorem Turned.leave (h : Turned f before g) (s : StateObj)
    (hset : g.flagSet s.mode.flag = true) : Turned f before (s.exitState g) := by
  have hexit : Turned f before (g.exitState s.mode.flag) := h.exitState hset
  refine hexit.of_eq (s.exitState_status g) ?_
  cases s <;> simp [StateObj.exitState, StateObj.mode, Mode.flag]

theorem Turned.enter (h : Turned f before g) (s : StateObj)
    (hclear : g.flagSet s.mode.flag = false) : Turned f before (s.initializeState g) := by
  have hinit : Turned f before (g.initializeState s.mode.flag) := h.initializeState hclear
  refine hinit.of_eq (s.initializeState_status g) ?_
  cases s <;> simp [StateObj.initializeState, StateObj.mode, Mode.flag]

/-- The flag a transition clears is the one that is set. -/
theorem Turned.changeState (h : Turned f before g) (hagree : FlagsAgree g) (new : StateObj) :
    Turned f before (g.changeState new) := by
  have hleft : Turned f before (g.machine.exitState g) :=
    h.leave g.machine ((hagree g.machine.mode).mpr rfl)
  have hset : Turned f before ((g.machine.exitState g).setMachine new) := hleft.of_eq rfl rfl
  refine hset.enter new ?_
  show FlagStore.flagSet (g.machine.exitState g).status new.mode.flag = false
  rw [g.machine.exitState_status]
  by_cases hsame : new.mode = g.machine.mode
  · rw [hsame]
    exact FlagStore.flagSet_deleteFlag_self _ _
  · rw [FlagStore.flagSet_deleteFlag_ne _ (fun he => hsame (Mode.flag_inj.mp he))]
    exact Bool.eq_false_iff.mpr fun hset => hsame ((hagree new.mode).mp hset).symm

/-! ## Checks -/

theorem Turned.checkDisconnect (h : Turned f before g) (v : ℚ) (name : String) :
    Turned f before (g.checkDisconnect v k name) := by
  unfold Greg.checkDisconnect
  split
  · split
    next hk => exact (h.newFlag ((Bool.not_eq_true' _).mp hk) _).of_eq rfl rfl
    next => exact h
  · split
    next hk => exact (h.deleteFlag hk.2 _).of_eq rfl rfl
    next => exact h

theorem Turned.checkOverPressure (h : Turned f before g) (lim : ℚ) (above below : String) (v : ℚ)
    (name : String) : Turned f before (g.checkOverPressure lim above below v k name) := by
  unfold Greg.checkOverPressure
  split
  · split
    next hk => exact h.newFlag ((Bool.not_eq_true' _).mp hk) _
    next => exact h
  · split
    next hk => exact h.deleteFlag hk.2 _
    next => exact h

theorem Turned.checkGenericPTFlag (h : Turned f before g) (name : String) (ks : List GregFlags) :
    Turned f before (g.checkGenericPTFlag k name ks) := by
  unfold Greg.checkGenericPTFlag
  split
  next hk => exact h.newFlag ((Bool.not_eq_true' _).mp hk.2) _
  next =>
    split
    next hk => exact h.deleteFlag hk.2 _
    next => exact h

theorem Turned.checkFlags (h : Turned f before g) : Turned f before g.checkFlags := by
  have hsensors : Turned f before g.checkSensors :=
    (((((h.checkDisconnect _ _).checkDisconnect _ _).checkOverPressure _ _ _ _ _).checkOverPressure
      _ _ _ _ _).checkGenericPTFlag _ _).checkGenericPTFlag _ _
  unfold Greg.checkFlags raiseCritical
  split
  next hk => exact hsensors.newFlag ((Bool.not_eq_true' _).mp hk.2) _
  next => exact hsensors

/-! ## One event -/

theorem Turned.ownMove (h : Turned f before g) : Turned f before g.ownMove := by
  have hstep := g.ownMove_step
  generalize g.ownMove = g' at hstep ⊢
  cases hstep with
  | idle _ => exact h
  | sends _ _ _ _ _ => exact h.of_eq rfl rfl

theorem Turned.managed (h : Turned f before g) : Turned f before g.managed := by
  have hstart : Turned f before { g with value := g.status } := h.of_eq rfl rfl
  unfold Greg.managed buckManager
  split
  · exact hstart.of_eq rfl rfl
  · split
    · exact hstart.of_eq rfl rfl
    · exact hstart

theorem Turned.update (h : Turned f before g) (hagree : FlagsAgree g) :
    Turned f before g.update := by
  have hreturn : Turned f before g.managed.returnToDefault := by
    unfold returnToDefault
    split
    · exact h.managed.changeState hagree.managed _
    · exact h.managed
  have hmoved : Turned f before g.managed.returnToDefault.machineUpdate := by
    rw [machineUpdate_eq]
    split
    · exact hreturn.ownMove.changeState hagree.managed.returnToDefault.ownMove _
    · exact hreturn.ownMove
  have hchecked : FlagsAgree g.managed.returnToDefault.machineUpdate.checkFlags :=
    hagree.managed.returnToDefault.machineUpdate.checkFlags
  show Turned f before g.managed.returnToDefault.machineUpdate.checkFlags.actOnFlags
  unfold actOnFlags
  split_ifs
  · exact hmoved.checkFlags.changeState hchecked _
  · exact hmoved.checkFlags
  · exact hmoved.checkFlags.changeState hchecked _
  · exact hmoved.checkFlags

theorem Turned.executeImpl (h : Turned f before g) (hagree : FlagsAgree g) (arg : Int32) :
    Turned f before (g.executeImpl arg) := by
  unfold Greg.executeImpl
  split_ifs <;> first | exact h | exact h.changeState hagree _

end Greg

open Greg

variable {σ : Type} [SystemStatus σ]

/-- The calls of one event turn each flag over, each in turn. -/
theorem step_turned {g : Greg σ} (h : FlagsAgree g) (f : GregFlags) (e : Event) :
    (step g e).Turned f (g.flagSet f) := by
  have hbegin (t : UInt32) : (g.begin t).Turned f (g.flagSet f) := Toggles.refl
  cases e with
  | update t p n =>
    have hsense : ((g.begin t).sense p n).Turned f (g.flagSet f) := Toggles.refl
    exact hsense.update (h.sense t p n)
  | arm t => exact Toggles.refl
  | disarm t => exact Toggles.refl
  | execute t arg =>
    show Greg.Turned f _ (if g.disarmed then g.begin t else (g.begin t).executeImpl arg)
    split
    · exact hbegin t
    · exact (hbegin t).executeImpl (h.begin t) arg
  | extended t commandID arg =>
    have hstep := extended_step (g.begin t) commandID arg
    show Greg.Turned f _ ((g.begin t).extendedCommandHandlerImpl commandID arg)
    generalize (g.begin t).extendedCommandHandlerImpl commandID arg = g' at hstep ⊢
    cases hstep with
    | moves _ _ => exact (hbegin t).of_eq rfl rfl
    | setsAngle _ => exact (hbegin t).of_eq rfl rfl
    | ignored => exact hbegin t

/-- The first state's own flag is the only one set before the run starts. -/
theorem setup_turned (disarmed : Bool) (now : UInt32) (f : GregFlags) :
    (Greg.setup disarmed now : Greg σ).Turned f false := by
  have hempty (k : GregFlags) : (constructed disarmed now : Greg σ).flagSet k = false :=
    FlagStore.flagSet_empty k
  have hstart : (constructed disarmed now : Greg σ).Turned f false := by
    unfold Greg.Turned
    rw [hempty f]
    exact .refl
  have hon : ((constructed disarmed now : Greg σ).buckOn.buckOff 1000).Turned f false :=
    hstart.of_eq rfl rfl
  exact Greg.Turned.enter (hon.of_eq rfl rfl) .default (hempty _)

/-! ## Runs -/

/-- The controller with what has been done to `f` since it was constructed,
newest first. -/
def stepTurns (f : GregFlags) : Greg σ × List Bool → Event → Greg σ × List Bool :=
  withLog step fun g e => (step g e).turns f

/-- `f` has only been turned over, from clear to where it is. -/
structure OnlyTurned (f : GregFlags) (s : Greg σ × List Bool) : Prop where
  consistent : Consistent s.1
  turned : Toggles false (s.1.flagSet f) s.2

theorem onlyTurned_step (f : GregFlags) (s : Greg σ × List Bool) (e : Event)
    (h : OnlyTurned f s) : OnlyTurned f (stepTurns f s e) where
  consistent := step_consistent h.consistent e
  turned := h.turned.append (step_turned h.consistent.flags f e)

/-- Over any run, the calls that raise and clear a flag alternate, starting
with a raise, and the flag is what the last one made it. -/
theorem flag_calls_alternate (disarmed : Bool) (now : UInt32) (es : List Event) (f : GregFlags) :
    let s : Greg σ × List Bool :=
      run (stepTurns f) (Greg.setup disarmed now, (Greg.setup disarmed now : Greg σ).turns f) es
    s.1 = run step (Greg.setup disarmed now) es ∧
      List.IsChain (· ≠ ·) (s.2 ++ [false]) ∧ s.1.flagSet f = s.2.headD false := by
  intro s
  have hstart : OnlyTurned f
      ((Greg.setup disarmed now : Greg σ), (Greg.setup disarmed now : Greg σ).turns f) :=
    ⟨setup_consistent disarmed now, setup_turned disarmed now f⟩
  have hturned : OnlyTurned f s := run_keeps (onlyTurned_step f) hstart es
  exact ⟨run_withLog_fst _ _ es, Toggles.toggles_iff.mp hturned.turned⟩

end Heimdall
