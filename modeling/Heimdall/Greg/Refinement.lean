import Heimdall.Greg.Events

/-!
# The controller refines the six-state machine

The abstraction of a controller is the state its machine is in; of an event,
the `cue` it gives. `controller_refines` is the simulation: wherever an event
tests a state flag (`guardPoints`) the flag says what the machine says, the
event does what it would do if it asked the machine, and the state it leads to
is the six-state machine's. `run_mode` is the same for a whole run.

`state_actuator_consistent` is the other half of the story, what the adapter
was last told in each of the states.
-/

namespace Heimdall

open EventRun

variable {σ : Type} [SystemStatus σ]

/-! ## Guards -/

/-- The controllers an event tests state flags on. -/
def Greg.guardPoints (g : Greg σ) : Event → List (Greg σ)
  | .update t p n =>
    let g := ((g.begin t).sense p n).managed
    [g, g.returnToDefault.machineUpdate.checkFlags]
  | .execute t _ | .extended t _ _ => [g.begin t]
  | .arm _ | .disarm _ => []

theorem guardPoints_agree {g : Greg σ} (h : FlagsAgree g) {e : Event} {g' : Greg σ}
    (hg' : g' ∈ g.guardPoints e) : FlagsAgree g' := by
  cases e with
  | update t p n =>
    have hman : FlagsAgree ((g.begin t).sense p n).managed := (h.sense t p n).managed
    rcases List.mem_cons.mp hg' with rfl | hg'
    · exact hman
    · rw [List.mem_singleton.mp hg']
      exact hman.returnToDefault.machineUpdate.checkFlags
  | execute t arg =>
    rw [List.mem_singleton.mp hg']
    exact h.begin t
  | extended t commandID arg =>
    rw [List.mem_singleton.mp hg']
    exact h.begin t
  | arm t => exact absurd hg' List.not_mem_nil
  | disarm t => exact absurd hg' List.not_mem_nil

/-- A cue that sees a disarmed update comes from one. -/
theorem cue_disarmed {g : Greg σ} {e : Event} {filled critical half : Bool}
    (h : g.cue e = .update true filled critical half) :
    g.disarmed = true ∧ e.isUpdate = true := by
  cases e with
  | update t p n =>
    rw [Greg.cue] at h
    exact ⟨(Cue.update.inj h).1, rfl⟩
  | execute t arg =>
    rw [Greg.cue] at h
    split at h <;> exact absurd h (by simp)
  | arm t => exact absurd h (by simp [Greg.cue])
  | disarm t => exact absurd h (by simp [Greg.cue])
  | extended t commandID arg => exact absurd h (by simp [Greg.cue])

/-! ## The simulation -/

/-- Every event of every reachable controller: the guards decide as if they
tested the machine's state, the machine makes the abstract machine's move, and
the two abort states are left only as `shutdown.h` says. -/
theorem controller_refines {g : Greg σ} (h : Reachable g) (e : Event) :
    (∀ g' ∈ g.guardPoints e, ∀ m : Mode, g'.flagSet m.flag = decide (g'.mode = m)) ∧
      step g e = stepByMode g e ∧
      (step g e).mode = g.mode.next (g.cue e) ∧
      ((step g e).flagSet .errorCriticalOVP = true ↔
        g.flagSet .errorCriticalOVP = true ∨ ∃ p ∈ e.reading, pHalfAbort < p) ∧
      (g.mode = .shutdown → (step g e).mode ≠ .shutdown →
        g.disarmed = true ∧ e.isUpdate = true) ∧
      (g.mode = .halfabort → (step g e).mode ≠ .halfabort →
        (step g e).mode = .shutdown ∨ g.disarmed = true ∧ e.isUpdate = true) := by
  have hagree : FlagsAgree g := (reachable_consistent h).flags
  have hmode := step_mode hagree e
  refine ⟨?_, stepByMode_eq hagree e, hmode, step_critical hagree e, ?_, ?_⟩
  · intro g' hg' m
    rw [Bool.eq_iff_iff, decide_eq_true_iff]
    exact guardPoints_agree hagree hg' m
  · intro hshut hleft
    rw [hmode, hshut] at hleft
    obtain ⟨filled, critical, half, hcue⟩ := Mode.next_shutdown hleft
    exact cue_disarmed hcue
  · intro hhalf hleft
    rw [hmode, hhalf] at hleft ⊢
    rcases Mode.next_halfabort hleft with hshut | ⟨filled, critical, half, hcue⟩
    · exact Or.inl hshut
    · exact Or.inr (cue_disarmed hcue)

/-- An armed controller that reads above the half-abort limit shuts down. -/
theorem controller_refines_trip :
    (step (run step (Greg.setup false 0 : Greg StatusWord) [.execute 10 1])
      (.update 20 58 100)).mode = .shutdown := by
  have hstep := controller_refines (reachable_run (σ := StatusWord) false 0 [.execute 10 1])
    (.update 20 58 100)
  rw [hstep.2.2.1]
  decide +kernel

/-- What the six-state machine sees of a run. -/
def cues : Greg σ → List Event → List Cue
  | _, [] => []
  | g, e :: es => g.cue e :: cues (step g e) es

/-- The simulation, over a run. -/
theorem run_mode {g : Greg σ} (h : Consistent g) (es : List Event) :
    (run step g es).mode = run Mode.next g.mode (cues g es) := by
  induction es generalizing g with
  | nil => rfl
  | cons e es ih =>
    rw [run_cons, cues, run_cons, ← step_mode h.flags e]
    exact ih (step_consistent h e)

/-! ## State and actuator -/

theorem angleOf_halfAbortAngle : angleOf halfAbortAngle = ⌊ffMin * 10⌋ := by decide +kernel

/-- The state object, the state flags and what the adapter was last told agree
in every reachable controller. -/
theorem state_actuator_consistent {g : Greg σ} (h : Reachable g) :
    (∃! m : Mode, g.flagSet m.flag = true) ∧ g.flagSet g.mode.flag = true ∧
      (g.adapter.armed = true ↔
        g.mode = .controlled ∨ g.mode = .pressurise ∨ g.mode = .debug) ∧
      (g.mode = .default ∨ g.mode = .shutdown → g.adapter.angle = some closedAngle) ∧
      (g.mode = .halfabort → g.adapter.angle = some ⌊ffMin * 10⌋) := by
  have hcons := reachable_consistent h
  have hself : g.flagSet g.mode.flag = true := (hcons.flags g.mode).mpr rfl
  refine ⟨⟨g.mode, hself, fun m hm => ((hcons.flags m).mp hm).symm⟩, hself, ?_, ?_, ?_⟩
  · rw [hcons.armed]
    show g.mode.isActive = true ↔ _
    cases g.mode <;> simp [Mode.isActive]
  · intro hclosed
    refine hcons.rest closedAngle ?_
    rcases hclosed with hdef | hshut
    · rw [show g.machine.mode = .default from hdef]
      rfl
    · rw [show g.machine.mode = .shutdown from hshut]
      rfl
  · intro hhalf
    rw [← angleOf_halfAbortAngle]
    refine hcons.rest _ ?_
    rw [show g.machine.mode = .halfabort from hhalf]
    rfl

/-- A pressurisation that was shut down leaves the valve closed. -/
theorem state_actuator_consistent_shutdown :
    (run step (Greg.setup false 0 : Greg StatusWord)
      [.execute 10 4, .update 20 10 100, .execute 30 2]).adapter.angle = some closedAngle := by
  refine (state_actuator_consistent (reachable_run (σ := StatusWord) false 0
    [.execute 10 4, .update 20 10 100, .execute 30 2])).2.2.2.1 (Or.inr ?_)
  decide +kernel

end Heimdall
