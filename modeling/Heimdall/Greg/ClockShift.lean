import Heimdall.Greg.Power
import Heimdall.Lib.WrapClock

/-!
# Running later on the counter

`millis()` counts to 2^32 and starts again, so nothing should depend on where
it happens to be: a run replayed with every reading moved by `k` should look
the same. The replay is followed by a relation, `Shifted`: equal data, and
every stored time moved by `k`, the sentinel for "never" apart. Each call and
each branch of the controller keeps it, one lemma each, since they compare
elapsed times.

All but one: the off-deadline is compared as it is, and `add_lt_add_iff` says
when moving both sides changes the answer. The replay looks the same exactly
as long as no update meets that case with the power at stake (`shift_iff`).
-/

namespace Heimdall

open EventRun WrapClock

/-! ## The same, `k` later -/

/-- The state object of a state entered `k` later. -/
def StateObj.shift (k : UInt32) : StateObj → StateObj
  | controlled stateEntry => controlled (stateEntry + k)
  | s => s

theorem StateObj.shift_mode (k : UInt32) (s : StateObj) : (s.shift k).mode = s.mode := by
  cases s <;> rfl

/-- The event at a counter that is `k` further. -/
def Event.shift (k : UInt32) : Event → Event
  | .update t p n => .update (t + k) p n
  | .arm t => .arm (t + k)
  | .disarm t => .disarm (t + k)
  | .execute t arg => .execute (t + k) arg
  | .extended t commandID arg => .extended (t + k) commandID arg

/-- `g'` is `g` with every time moved by `k`, the state object apart. What
nothing here reads or shows is left out. -/
structure ShiftedData {σ : Type} (k : UInt32) (g g' : Greg σ) : Prop where
  millis : g'.millis = g.millis + k
  feedbackP : g'.feedbackP = g.feedbackP
  n2P : g'.n2P = g.n2P
  disarmed : g'.disarmed = g.disarmed
  status : g'.status = g.status
  regPressuriseAngle : g'.regPressuriseAngle = g.regPressuriseAngle
  prevBuckTime : g'.prevBuckTime = g.prevBuckTime + k
  buckOffTime : g'.buckOffTime = g.buckOffTime + k ∨
    g.buckOffTime = Greg.buckNever ∧ g'.buckOffTime = Greg.buckNever
  buckEN : g'.buckEN = g.buckEN
  sent : g'.sent.map Prod.fst = g.sent.map Prod.fst

/-- The same with the state object. -/
structure Shifted {σ : Type} (k : UInt32) (g g' : Greg σ) : Prop extends ShiftedData k g g' where
  machine : g'.machine = g.machine.shift k

theorem Shifted.mode {σ : Type} {k : UInt32} {g g' : Greg σ} (h : Shifted k g g') :
    g'.machine.mode = g.machine.mode := by
  rw [h.machine, StateObj.shift_mode]

/-! ## Calls -/

namespace ShiftedData

variable {σ : Type} {k : UInt32} {g g' : Greg σ}

theorem arm (h : ShiftedData k g g') : ShiftedData k g.arm g'.arm := { h with }

theorem execute (h : ShiftedData k g g') (angle : Int) :
    ShiftedData k (g.execute angle) (g'.execute angle) :=
  { h with sent := congrArg (List.cons angle) h.sent }

theorem disarm (h : ShiftedData k g g') : ShiftedData k g.disarm g'.disarm := { h with }

theorem setEN (h : ShiftedData k g g') (level : Bool) :
    ShiftedData k (g.setEN level) (g'.setEN level) :=
  { h with buckEN := rfl }

theorem setMachine (h : ShiftedData k g g') (new new' : StateObj) :
    ShiftedData k (g.setMachine new) (g'.setMachine new') :=
  { h with }

theorem buckOn (h : ShiftedData k g g') : ShiftedData k g.buckOn g'.buckOn :=
  { h with
    buckEN := rfl
    prevBuckTime := h.millis
    buckOffTime := Or.inr ⟨rfl, rfl⟩ }

theorem buckOff (h : ShiftedData k g g') (deadline : UInt32) :
    ShiftedData k (g.buckOff deadline) (g'.buckOff deadline) :=
  { h with
    buckOffTime := by
      left
      show g'.millis + deadline = g.millis + deadline + k
      rw [h.millis]
      grind }

variable [SystemStatus σ]

theorem newFlag (h : ShiftedData k g g') (f : GregFlags) (info : String) :
    ShiftedData k (g.newFlag f info) (g'.newFlag f info) :=
  { h with status := congrArg (FlagStore.newFlag · f) h.status }

theorem deleteFlag (h : ShiftedData k g g') (f : GregFlags) (info : String) :
    ShiftedData k (g.deleteFlag f info) (g'.deleteFlag f info) :=
  { h with status := congrArg (FlagStore.deleteFlag · f) h.status }

theorem initializeState (h : ShiftedData k g g') (f : GregFlags) :
    ShiftedData k (g.initializeState f) (g'.initializeState f) :=
  { h with status := congrArg (FlagStore.newFlag · f) h.status }

theorem exitState (h : ShiftedData k g g') (f : GregFlags) :
    ShiftedData k (g.exitState f) (g'.exitState f) :=
  { h with status := congrArg (FlagStore.deleteFlag · f) h.status }

theorem flagSet (h : ShiftedData k g g') (f : GregFlags) : g'.flagSet f = g.flagSet f := by
  rw [Greg.flagSet, h.status]
  rfl

theorem flagSetOr (h : ShiftedData k g g') (fs : List GregFlags) :
    g'.flagSetOr fs = g.flagSetOr fs := by
  rw [Greg.flagSetOr, h.status]
  rfl

end ShiftedData

variable {σ : Type} [SystemStatus σ] {k : UInt32} {g g' : Greg σ}

/-! ## Transitions -/

theorem ShiftedData.leave (h : ShiftedData k g g') (s : StateObj) :
    ShiftedData k (s.exitState g) ((s.shift k).exitState g') := by
  cases s with
  | default => exact h.exitState _
  | pressurise => exact (h.exitState _).buckOff 1000
  | controlled stateEntry => exact (h.disarm.exitState _).buckOff 2000
  | shutdown => exact h.exitState _
  | halfabort angle => exact h.exitState _
  | debug => exact h.disarm.exitState _

/-- An entry: `Controlled::initialize` reads the clock, the others do not. -/
theorem ShiftedData.initalize (h : ShiftedData k g g') (new : StateObj) :
    Shifted k (g.initalize new) (g'.initalize new) := by
  have hnew : ShiftedData k (g.setMachine new) (g'.setMachine new) := h.setMachine new new
  cases new with
  | default => exact ⟨(((hnew.initializeState _).arm.execute _).disarm).buckOff 2000, rfl⟩
  | pressurise => exact ⟨(hnew.initializeState _).arm.buckOn, rfl⟩
  | controlled stateEntry =>
    exact ⟨((hnew.initializeState _).arm.setMachine _ _).buckOn, congrArg StateObj.controlled h.millis⟩
  | shutdown => exact ⟨(((hnew.initializeState _).arm.execute _).disarm).buckOff 2000, rfl⟩
  | halfabort angle => exact ⟨((hnew.initializeState _).arm.execute _).disarm, rfl⟩
  | debug => exact ⟨(hnew.initializeState _).arm.buckOn, rfl⟩

theorem Shifted.changeState (h : Shifted k g g') (new : StateObj) :
    Shifted k (g.changeState new) (g'.changeState new) := by
  have hleft : ShiftedData k (g.machine.exitState g) (g'.machine.exitState g') := by
    rw [h.machine]
    exact h.toShiftedData.leave g.machine
  exact hleft.initalize new

/-! ## The state's own move -/

theorem ShiftedData.nextAngle {σ : Type} {k : UInt32} {g g' : Greg σ} (h : ShiftedData k g g') :
    ShiftedData k g.nextAngle.2 g'.nextAngle.2 := by
  obtain ⟨ff, kp, pAngle, hnext⟩ := g.nextAngle_snd
  obtain ⟨ff', kp', pAngle', hnext'⟩ := g'.nextAngle_snd
  rw [hnext, hnext']
  exact { h with }

/-- The time since the entry is a difference. -/
theorem ShiftedData.controlAngle {σ : Type} {k : UInt32} {g g' : Greg σ}
    (h : ShiftedData k g g') (stateEntry : UInt32) :
    g'.controlAngle (stateEntry + k) = g.controlAngle stateEntry := by
  unfold Greg.controlAngle
  rw [h.millis, add_sub_add, Greg.nextAngle_congr h.feedbackP h.n2P]

theorem Shifted.ownMove {σ : Type} {k : UInt32} {g g' : Greg σ} (h : Shifted k g g') :
    Shifted k g.ownMove g'.ownMove := by
  have hdata := h.toShiftedData
  refine ⟨?_, by rw [g'.ownMove_spec.machine, g.ownMove_spec.machine]; exact h.machine⟩
  have hmachine := h.machine
  cases hm : g.machine with
  | controlled stateEntry =>
    rw [hm] at hmachine
    rw [Greg.ownMove_controlled hm, Greg.ownMove_controlled hmachine, hdata.controlAngle]
    exact hdata.nextAngle.execute _
  | pressurise =>
    rw [hm] at hmachine
    rw [Greg.ownMove_pressurise hm, Greg.ownMove_pressurise hmachine, hdata.regPressuriseAngle]
    exact hdata.execute _
  | _ =>
    rw [hm] at hmachine
    have hidle : g.ownAngle = none := by simp only [Greg.ownAngle, hm]
    have hidle' : g'.ownAngle = none := by simp only [Greg.ownAngle, hmachine, StateObj.shift]
    rw [Greg.ownMove_idle hidle, Greg.ownMove_idle hidle']
    exact hdata

theorem Shifted.machineUpdate (h : Shifted k g g') :
    Shifted k g.machineUpdate g'.machineUpdate := by
  have hfill : g'.Filled ↔ g.Filled := by
    unfold Greg.Filled
    rw [h.feedbackP]
  rw [Greg.machineUpdate_eq, Greg.machineUpdate_eq, h.mode]
  simp only [hfill]
  split
  · exact h.ownMove.changeState .default
  · exact h.ownMove

/-! ## The checks -/

theorem ShiftedData.checkDisconnect (h : ShiftedData k g g') {v v' : ℚ} (hv : v' = v)
    (f : GregFlags) (name : String) :
    ShiftedData k (g.checkDisconnect v f name) (g'.checkDisconnect v' f name) := by
  unfold Greg.checkDisconnect
  rw [h.flagSet f, hv]
  split
  · split
    · exact { h.newFlag f (name ++ " disconnected!") with }
    · exact h
  · split
    · exact { h.deleteFlag f (name ++ " reading back in expected range!") with }
    · exact h

theorem ShiftedData.checkOverPressure (h : ShiftedData k g g') (lim : ℚ) (above below : String)
    {v v' : ℚ} (hv : v' = v) (f : GregFlags) (name : String) :
    ShiftedData k (g.checkOverPressure lim above below v f name)
      (g'.checkOverPressure lim above below v' f name) := by
  unfold Greg.checkOverPressure
  rw [h.flagSet f, hv]
  split
  · split
    · exact h.newFlag f _
    · exact h
  · split
    · exact h.deleteFlag f _
    · exact h

theorem ShiftedData.checkGenericPTFlag (h : ShiftedData k g g') (f : GregFlags) (name : String)
    (fs : List GregFlags) :
    ShiftedData k (g.checkGenericPTFlag f name fs) (g'.checkGenericPTFlag f name fs) := by
  unfold Greg.checkGenericPTFlag
  rw [h.flagSet f, h.flagSetOr fs]
  split
  · exact h.newFlag f _
  · split
    · exact h.deleteFlag f _
    · exact h

theorem ShiftedData.checkFlags (h : ShiftedData k g g') :
    ShiftedData k g.checkFlags g'.checkFlags := by
  have hsensors : ShiftedData k g.checkSensors g'.checkSensors := by
    have hfbp := h.checkDisconnect h.feedbackP .errorFbpDC "Feedback PT"
    have hn2 := hfbp.checkDisconnect hfbp.n2P .errorN2pDC "Local nitrogen PT"
    have hfull := hn2.checkOverPressure pFullAbort " exceeded critical pressure!"
      " reading back below critical pressure!" hn2.feedbackP .errorFbpCOVP "Feedback PT"
    have hhalf := hfull.checkOverPressure pHalfAbort " exceeded half abort pressure!"
      " reading back below half abort pressure!" hfull.feedbackP .errorFbpCOVP "Feedback PT"
    exact (hhalf.checkGenericPTFlag _ _ _).checkGenericPTFlag _ _ _
  unfold Greg.checkFlags Greg.raiseCritical
  rw [hsensors.flagSetOr, hsensors.flagSet]
  split
  · exact hsensors.newFlag _ _
  · exact hsensors

theorem Shifted.checkPressures (h : Shifted k g g') :
    Shifted k g.checkPressures g'.checkPressures := by
  have hflags : Shifted k g.checkFlags g'.checkFlags := by
    refine ⟨h.toShiftedData.checkFlags, ?_⟩
    rw [(Greg.checkFlags_flagsOnly g').machine, (Greg.checkFlags_flagsOnly g).machine]
    exact h.machine
  show Shifted k g.checkFlags.actOnFlags g'.checkFlags.actOnFlags
  unfold Greg.actOnFlags Greg.shutdown Greg.halfabort
  simp only [hflags.flagSet]
  split
  · exact hflags.changeState .shutdown
  · split
    · split
      · exact hflags
      · exact hflags.changeState _
    · exact hflags

/-! ## The buck -/

/-- No refresh is due either way, and the two deadlines `k` apart are on
different sides of their clocks, while the buck is on. -/
def Greg.Splits {σ : Type} (k : UInt32) (g g' : Greg σ) : Prop :=
  g.buckEN = true ∧ ¬g.refreshDue ∧ g'.buckOffTime = g.buckOffTime + k ∧
    g.buckOffTime ≠ g.millis ∧ ¬(Wraps g.buckOffTime k ↔ Wraps g.millis k)

/-- The refresh is due by a difference. -/
theorem ShiftedData.refreshDue {σ : Type} {k : UInt32} {g g' : Greg σ} (h : ShiftedData k g g') :
    g'.refreshDue ↔ g.refreshDue := by
  unfold Greg.refreshDue
  rw [h.millis, h.prevBuckTime, add_sub_add]

theorem not_buckNever_lt (t : UInt32) : ¬Greg.buckNever < t := by
  rw [UInt32.lt_iff_toNat_lt]
  have ht := t.toNat_lt
  have hnever : Greg.buckNever.toNat = 2 ^ 32 - 1 := rfl
  omega

/-- The deadline passes in both or in neither, unless they split. -/
theorem ShiftedData.deadlinePassed {σ : Type} {k : UInt32} {g g' : Greg σ}
    (h : ShiftedData k g g') :
    (g'.deadlinePassed ↔ g.deadlinePassed) ↔
      ¬(g'.buckOffTime = g.buckOffTime + k ∧ g.buckOffTime ≠ g.millis ∧
        ¬(Wraps g.buckOffTime k ↔ Wraps g.millis k)) := by
  unfold Greg.deadlinePassed
  rw [h.millis]
  rcases h.buckOffTime with hoff | ⟨hnever, hnever'⟩
  · rw [hoff, eq_self, true_and]
    exact add_lt_add_iff
  · -- "never" is not moved, unless the move is by nothing
    rw [hnever, hnever']
    refine iff_of_true (iff_of_false (not_buckNever_lt _) (not_buckNever_lt _)) ?_
    rintro ⟨heq, -, hwraps⟩
    have hzero : k = 0 := by grind
    rw [hzero] at hwraps
    refine hwraps (iff_of_false ?_ ?_)
    · exact Nat.not_le.mpr Greg.buckNever.toNat_lt
    · exact Nat.not_le.mpr g.millis.toNat_lt

theorem ShiftedData.buckManager {σ : Type} {k : UInt32} {g g' : Greg σ} (h : ShiftedData k g g')
    (hsplit : ¬Greg.Splits k g g') : ShiftedData k g.buckManager g'.buckManager := by
  unfold Greg.buckManager
  by_cases hr : g.refreshDue
  · rw [if_pos hr, if_pos (h.refreshDue.mpr hr)]
    exact h.buckOn.buckOff 1000
  rw [if_neg hr, if_neg fun hr' => hr (h.refreshDue.mp hr')]
  by_cases hon : g.buckEN = true
  · -- with the power at stake the deadlines agree
    have hsame := h.deadlinePassed.mpr fun hs => hsplit ⟨hon, hr, hs⟩
    by_cases hp : g.deadlinePassed
    · rw [if_pos hp, if_pos (hsame.mpr hp)]
      exact h.setEN false
    · rw [if_neg hp, if_neg fun hp' => hp (hsame.mp hp')]
      exact h
  · -- switching it off again shows nothing
    have hoff : g.buckEN = false := Bool.eq_false_iff.mpr hon
    have hoff' : g'.buckEN = false := h.buckEN.trans hoff
    split
    · split
      · exact h.setEN false
      · exact { h with buckEN := hoff'.symm ▸ rfl }
    · split
      · exact { h with buckEN := hoff.symm ▸ rfl }
      · exact h

theorem ShiftedData.managed {σ : Type} {k : UInt32} {g g' : Greg σ} (h : ShiftedData k g g')
    (hsplit : ¬Greg.Splits k g g') : ShiftedData k g.managed g'.managed := by
  have hvalue : ShiftedData k { g with value := g.status } { g' with value := g'.status } :=
    { h with }
  exact hvalue.buckManager hsplit

/-! ## Events -/

theorem Shifted.update (h : Shifted k g g') (hsplit : ¬Greg.Splits k g g') :
    Shifted k g.update g'.update := by
  have hman : Shifted k g.managed g'.managed := by
    refine ⟨h.toShiftedData.managed hsplit, ?_⟩
    rw [g'.managed_powerOnly.machine, g.managed_powerOnly.machine]
    exact h.machine
  have hret : Shifted k g.managed.returnToDefault g'.managed.returnToDefault := by
    unfold Greg.returnToDefault
    rw [hman.disarmed, hman.flagSet]
    split
    · exact hman.changeState .default
    · exact hman
  exact hret.machineUpdate.checkPressures

theorem Shifted.executeImpl (h : Shifted k g g') (arg : Int32) :
    Shifted k (g.executeImpl arg) (g'.executeImpl arg) := by
  have hguard (new : StateObj) :
      Shifted k (if !g.flagSet .stateDefault then g else g.changeState new)
        (if !g'.flagSet .stateDefault then g' else g'.changeState new) := by
    rw [h.flagSet]
    split
    · exact h
    · exact h.changeState new
  unfold Greg.executeImpl
  by_cases h1 : arg = 1
  · rw [if_pos h1, if_pos h1]
    exact hguard _
  rw [if_neg h1, if_neg h1]
  by_cases h2 : arg = 2
  · rw [if_pos h2, if_pos h2]
    exact h.changeState .shutdown
  rw [if_neg h2, if_neg h2]
  by_cases h3 : arg = 3
  · rw [if_pos h3, if_pos h3]
    exact hguard _
  rw [if_neg h3, if_neg h3]
  by_cases h4 : arg = 4
  · rw [if_pos h4, if_pos h4]
    exact hguard _
  · rw [if_neg h4, if_neg h4]
    exact h

theorem Shifted.extended (h : Shifted k g g') (commandID : UInt8) (arg : Int32) :
    Shifted k (g.extendedCommandHandlerImpl commandID arg)
      (g'.extendedCommandHandlerImpl commandID arg) := by
  unfold Greg.extendedCommandHandlerImpl
  rw [h.flagSet, h.regPressuriseAngle]
  split
  · split
    · exact ⟨h.toShiftedData.execute _, h.machine⟩
    · exact h
  · split
    · split
      · exact h
      · exact { h with regPressuriseAngle := rfl }
    · exact h

theorem Shifted.begin {σ : Type} {k : UInt32} {g g' : Greg σ} (h : Shifted k g g') (t : UInt32) :
    Shifted k (g.begin t) (g'.begin (t + k)) :=
  { h with
    millis := rfl
    sent := rfl }

/-- The event is an update that splits the run from its replay. -/
def SplitByWrap (k : UInt32) (s : Greg σ × Greg σ) : Event → Prop
  | .update t _ _ => Greg.Splits k (s.1.begin t) (s.2.begin (t + k))
  | _ => False

theorem step_shifted (h : Shifted k g g') {e : Event} (hsplit : ¬SplitByWrap k (g, g') e) :
    Shifted k (step g e) (step g' (e.shift k)) := by
  cases e with
  | update t p n =>
    have hsensed : Shifted k ((g.begin t).sense p n) ((g'.begin (t + k)).sense p n) :=
      { h.begin t with
        feedbackP := rfl
        n2P := rfl }
    exact hsensed.update hsplit
  | arm t => exact { h.begin t with disarmed := rfl }
  | disarm t => exact { h.begin t with disarmed := rfl }
  | execute t arg =>
    show Shifted k (if g.disarmed then g.begin t else (g.begin t).executeImpl arg)
      (if g'.disarmed then g'.begin (t + k) else (g'.begin (t + k)).executeImpl arg)
    rw [h.disarmed]
    split
    · exact h.begin t
    · exact (h.begin t).executeImpl arg
  | extended t commandID arg => exact (h.begin t).extended commandID arg

/-! ## Runs -/

theorem setup_shifted (disarmed : Bool) (now k : UInt32) :
    Shifted k (Greg.setup disarmed now : Greg σ) (Greg.setup disarmed (now + k)) := by
  -- `buckOn` is the first to set either time
  have hon : ShiftedData k (Greg.constructed disarmed now : Greg σ).buckOn
      (Greg.constructed disarmed (now + k)).buckOn :=
    ⟨rfl, rfl, rfl, rfl, rfl, rfl, rfl, Or.inr ⟨rfl, rfl⟩, rfl, rfl⟩
  exact (hon.buckOff 1000).initalize .default

/-- What shows of a controller after an event: the level of the buck's enable
pin, the state, and the angles the servo was sent. -/
structure Seen where
  buckEN : Bool
  mode : Mode
  angles : List Int
  deriving DecidableEq, Repr

def observe {σ : Type} (g : Greg σ) : Seen := ⟨g.buckEN, g.mode, g.sent.map Prod.fst⟩

theorem Shifted.observe {σ : Type} {k : UInt32} {g g' : Greg σ} (h : Shifted k g g') :
    observe g = observe g' := by
  unfold Heimdall.observe
  rw [h.buckEN, h.sent, Greg.mode, Greg.mode, h.mode]

/-- An update that splits them shows it: one loses its power, the other does
not. -/
theorem observe_iff (h : Shifted k g g') (hg : FlagsAgree g) (hg' : FlagsAgree g') (e : Event) :
    observe (step g e) = observe (step g' (e.shift k)) ↔ ¬SplitByWrap k (g, g') e := by
  constructor
  · intro hsame hsplit
    cases e with
    | update t p n =>
      obtain ⟨hon, hr, hs⟩ := hsplit
      have hdata : ShiftedData k (g.begin t) (g'.begin (t + k)) := (h.begin t).toShiftedData
      have hpower : (g.begin t).power = (g'.begin (t + k)).power := by
        rw [← show _ = (g.begin t).power from step_buckEN_update hg t p n,
          ← show _ = (g'.begin (t + k)).power from step_buckEN_update hg' (t + k) p n]
        exact congrArg Seen.buckEN hsame
      have hon' : (g'.begin (t + k)).buckEN = true := hdata.buckEN.trans hon
      unfold Greg.power at hpower
      rw [if_neg hr, if_neg (fun hr' => hr (hdata.refreshDue.mp hr')), hon, hon'] at hpower
      refine absurd hs (hdata.deadlinePassed.mp ?_)
      split at hpower <;> split at hpower
      next hp hp' => exact iff_of_true hp' hp
      next => exact absurd hpower (by decide)
      next => exact absurd hpower (by decide)
      next hp hp' => exact iff_of_false hp' hp
    | _ => exact hsplit
  · intro hsplit
    exact (step_shifted h hsplit).observe

/-- A run and its replay at a counter `k` further look the same exactly when no
update splits them: none that finds the buck on, no refresh due and an
off-deadline that is moved with the clock, of which and of its own time exactly
one wraps then. -/
theorem shift_iff (disarmed : Bool) (now k : UInt32) (es : List Event) :
    (observe (Greg.setup disarmed now : Greg σ) = observe (Greg.setup disarmed (now + k) : Greg σ) ∧
      trace step observe (Greg.setup disarmed now : Greg σ) es =
        trace step observe (Greg.setup disarmed (now + k) : Greg σ) (es.map (Event.shift k))) ↔
    EachStep (stepPair step (Event.shift k)) (fun s e => ¬SplitByWrap k s e)
      ((Greg.setup disarmed now : Greg σ), Greg.setup disarmed (now + k)) es := by
  have hstart := setup_shifted (σ := σ) disarmed now k
  have hcons : Consistent (Greg.setup disarmed now : Greg σ) := setup_consistent disarmed now
  have hcons' : Consistent (Greg.setup disarmed (now + k) : Greg σ) :=
    setup_consistent disarmed (now + k)
  generalize (Greg.setup disarmed now : Greg σ) = g at hstart hcons ⊢
  generalize (Greg.setup disarmed (now + k) : Greg σ) = g' at hstart hcons' ⊢
  have htrace := trace_eq_iff step observe (Event.shift k) (g, g') es
  rw [and_iff_right hstart.observe]
  refine htrace.trans (eachStep_congr
    (J := fun s => Shifted k s.1 s.2 ∧ Consistent s.1 ∧ Consistent s.2) ?_ ?_
    ⟨hstart, hcons, hcons'⟩ (eachStep_true _ es))
  · intro s e hs _
    exact observe_iff hs.1 hs.2.1.flags hs.2.2.flags e
  · intro s e hs _ hsplit
    exact ⟨step_shifted hs.1 hsplit, step_consistent hs.2.1 e, step_consistent hs.2.2 (e.shift k)⟩

/-- The deadline `setup` sets lies past the end of the counter in the replay,
and the update half a second later, which does not, switches the buck off. -/
theorem shift_fails :
    ¬(observe (Greg.setup true 0 : Greg StatusWord) =
        observe (Greg.setup true (0 + 4294965796) : Greg StatusWord) ∧
      trace step observe (Greg.setup true 0 : Greg StatusWord) [.update 500 10 100] =
        trace step observe (Greg.setup true (0 + 4294965796) : Greg StatusWord)
          ([.update 500 10 100].map (Event.shift 4294965796))) := by
  intro hclaim
  exact absurd hclaim.2 (by decide +kernel)

end Heimdall
