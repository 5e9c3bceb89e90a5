import Mathlib.Tactic.TypeStar

/-!
# Runs of an event-driven component

A component that answers one event at a time is a step function
`S → E → S`. A run is the fold of that function over the events received,
and everything said about "every moment of every run" is one of two shapes:

* `Reachable`, a property of the states a run can end in, proved once for the
  initial states and once for a step (`Reachable.induction`);
* `EachStep`, a property of every (state, event) pair a run goes through,
  which is where a law about *what an event did* lives (`eachStep_iff_split`
  says what the recursion means: every way of cutting the run at an event).

`eachStep_congr` is the rule the exact conditions rest on: two laws that agree
wherever an invariant holds, and one of which restores the invariant, hold of
the same runs. `run_simulates` carries a simulation from a step to a run.
`trace_eq_iff` turns a law about two runs, a run and a replay of
it, into one about every step of the pair. Nothing here knows what the states
and the events are.
-/

namespace EventRun

universe u v

variable {S : Type u} {E : Type v} {step : S → E → S}

/-- The state after a sequence of events. -/
def run (step : S → E → S) (s : S) (es : List E) : S := es.foldl step s

@[simp] theorem run_nil (s : S) : run step s [] = s := rfl

@[simp] theorem run_cons (s : S) (e : E) (es : List E) :
    run step s (e :: es) = run step (step s e) es := rfl

theorem run_append (s : S) (es fs : List E) :
    run step s (es ++ fs) = run step (run step s es) fs :=
  List.foldl_append

theorem run_concat (s : S) (es : List E) (e : E) :
    run step s (es ++ [e]) = step (run step s es) e := by
  rw [run_append]
  rfl

/-! ## Reachable states -/

/-- The states some run from an initial state ends in. -/
inductive Reachable (init : S → Prop) (step : S → E → S) : S → Prop
  | init {s : S} (h : init s) : Reachable init step s
  | step {s : S} (e : E) (h : Reachable init step s) : Reachable init step (step s e)

variable {init : S → Prop}

/-- The invariant rule: true at the start and kept by every step. -/
theorem Reachable.induction {J : S → Prop} (hinit : ∀ s, init s → J s)
    (hstep : ∀ s e, J s → J (step s e)) {s : S} (h : Reachable init step s) : J s := by
  induction h with
  | init h => exact hinit _ h
  | step e _ ih => exact hstep _ e ih

theorem Reachable.run {s : S} (h : Reachable init step s) (es : List E) :
    Reachable init step (run step s es) := by
  induction es generalizing s with
  | nil => exact h
  | cons e es ih => exact ih (h.step e)

/-- A property a step never takes away lasts for the rest of the run. -/
theorem run_keeps {P : S → Prop} (hstep : ∀ s e, P s → P (step s e)) {s : S} (h : P s)
    (es : List E) : P (run step s es) := by
  induction es generalizing s with
  | nil => exact h
  | cons e es ih => exact ih (hstep s e h)

/-! ## Laws about every step -/

/-- `P` holds of every state the run is in and the event it receives there. -/
def EachStep (step : S → E → S) (P : S → E → Prop) : S → List E → Prop
  | _, [] => True
  | s, e :: es => P s e ∧ EachStep step P (step s e) es

/-- What the recursion means: wherever the run is cut at an event, the law
holds of the state reached so far and that event. -/
theorem eachStep_iff_split {P : S → E → Prop} {s : S} {es : List E} :
    EachStep step P s es ↔ ∀ pre e post, es = pre ++ e :: post → P (run step s pre) e := by
  induction es generalizing s with
  | nil => simp [EachStep]
  | cons e es ih =>
    constructor
    · rintro ⟨he, hes⟩ pre e' post heq
      cases pre with
      | nil =>
        obtain ⟨rfl, rfl⟩ := List.cons.inj heq
        exact he
      | cons a pre =>
        obtain ⟨rfl, heq'⟩ := List.cons.inj heq
        exact ih.mp hes pre e' post heq'
    · intro h
      refine ⟨h [] e es rfl, ih.mpr fun pre e' post heq => ?_⟩
      exact h (e :: pre) e' post (by rw [heq, List.cons_append])

/-- A law that holds of every step from a state with an invariant, if the step
keeps the invariant. -/
theorem EachStep.of_invariant {P : S → E → Prop} {J : S → Prop}
    (hstep : ∀ s e, J s → P s e ∧ J (step s e)) {s : S} (hs : J s) (es : List E) :
    EachStep step P s es := by
  induction es generalizing s with
  | nil => trivial
  | cons e es ih =>
    obtain ⟨hP, hnext⟩ := hstep s e hs
    exact ⟨hP, ih hnext⟩

/-- Two laws that agree under an invariant hold of the same runs, provided the
second law carries the invariant over a step. `H` is what the run is promised
about its own events (a clock that does not go back, say). -/
theorem eachStep_congr {H P Q : S → E → Prop} {J : S → Prop}
    (hiff : ∀ s e, J s → H s e → (P s e ↔ Q s e))
    (hkeep : ∀ s e, J s → H s e → Q s e → J (step s e)) {s : S} {es : List E} (hs : J s)
    (hrun : EachStep step H s es) : EachStep step P s es ↔ EachStep step Q s es := by
  induction es generalizing s with
  | nil => exact Iff.rfl
  | cons e es ih =>
    obtain ⟨he, hes⟩ := hrun
    constructor
    · rintro ⟨hP, hrest⟩
      have hQ : Q s e := (hiff s e hs he).mp hP
      exact ⟨hQ, (ih (hkeep s e hs he hQ) hes).mp hrest⟩
    · rintro ⟨hQ, hrest⟩
      exact ⟨(hiff s e hs he).mpr hQ, (ih (hkeep s e hs he hQ) hes).mpr hrest⟩

/-- A law about the events alone. -/
theorem eachStep_event {P : E → Prop} {s : S} {es : List E} :
    EachStep step (fun _ e => P e) s es ↔ ∀ e ∈ es, P e := by
  induction es generalizing s with
  | nil => simp [EachStep]
  | cons e es ih => rw [EachStep, ih, List.forall_mem_cons]

/-- The law that asks nothing holds of every run. -/
theorem eachStep_true (s : S) (es : List E) : EachStep step (fun _ _ => True) s es := by
  induction es generalizing s with
  | nil => trivial
  | cons e es ih => exact ⟨trivial, ih _⟩

/-! ## Remembering what happened -/

/-- The component together with a record of what its events did, newest first:
for laws about an event and something that happened earlier in the run. -/
def withLog {L : Type*} (step : S → E → S) (note : S → E → List L) (s : S × List L) (e : E) :
    S × List L :=
  (step s.1 e, note s.1 e ++ s.2)

/-- The record does not change what the component does. -/
theorem run_withLog_fst {L : Type*} (note : S → E → List L) (s : S × List L) (es : List E) :
    (run (withLog step note) s es).1 = run step s.1 es := by
  induction es generalizing s with
  | nil => rfl
  | cons e es ih => exact ih _

/-- A law about the component is the same law of the component with a record. -/
theorem eachStep_fst {T : Type*} {step' : S × T → E → S × T}
    (hfst : ∀ s e, (step' s e).1 = step s.1 e) {P : S → E → Prop} {s : S × T} {es : List E} :
    EachStep step' (fun s e => P s.1 e) s es ↔ EachStep step P s.1 es := by
  induction es generalizing s with
  | nil => exact Iff.rfl
  | cons e es ih => rw [EachStep, EachStep, ih, hfst]

/-! ## Simulation -/

/-- A component seen through `obs`, and its events through `f`, is another one:
step by step wherever an invariant holds, hence in every run. -/
theorem run_simulates {T F : Type*} {step' : T → F → T} {obs : S → T} {f : E → F} {J : S → Prop}
    (hsim : ∀ s e, J s → obs (step s e) = step' (obs s) (f e))
    (hkeep : ∀ s e, J s → J (step s e)) {s : S} (hs : J s) (es : List E) :
    obs (run step s es) = run step' (obs s) (es.map f) := by
  induction es generalizing s with
  | nil => rfl
  | cons e es ih =>
    rw [run_cons, List.map_cons, run_cons, ← hsim s e hs]
    exact ih (hkeep s e hs)

/-! ## Two runs side by side -/

/-- What an observer sees of a run: one observation after each event. -/
def trace {O : Type*} (step : S → E → S) (obs : S → O) : S → List E → List O
  | _, [] => []
  | s, e :: es => obs (step s e) :: trace step obs (step s e) es

/-- A run and its replay, which is given every event through `f`. -/
def stepPair (step : S → E → S) (f : E → E) (s : S × S) (e : E) : S × S :=
  (step s.1 e, step s.2 (f e))

/-- The two look the same exactly when they do after every event. -/
theorem trace_eq_iff {O : Type*} (step : S → E → S) (obs : S → O) (f : E → E) (s : S × S)
    (es : List E) :
    trace step obs s.1 es = trace step obs s.2 (es.map f) ↔
      EachStep (stepPair step f) (fun s e => obs (step s.1 e) = obs (step s.2 (f e))) s es := by
  induction es generalizing s with
  | nil => exact iff_of_true rfl trivial
  | cons e es ih =>
    have hrest := ih (stepPair step f s e)
    rw [List.map_cons, trace, trace, EachStep, List.cons.injEq]
    exact and_congr_right fun _ => hrest

end EventRun
