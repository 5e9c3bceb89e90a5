import Heimdall.Greg.Types

/-!
# The six-state machine

What the controller is for, with the flags, the servo and the power left out:
six states and the only moves between them. An armed command leaves `default`
for an active state or shuts the machine down from anywhere; an update falls
back to `default` when disarmed or when a pressurisation is finished, and
otherwise trips to `shutdown` or to `halfabort`. `Guards.lean` and
`Refinement.lean` tie the controller to it.
-/

namespace Heimdall

/-- What the machine sees of an event. -/
inductive Cue
  | update (disarmed filled critical half : Bool)
  | execute (arg : Int32)
  | other
  deriving DecidableEq

namespace Mode

/-- The moves of an update. At most one is made, and the order decides which. -/
def onUpdate (disarmed filled critical half : Bool) (m : Mode) : Mode :=
  if disarmed then default
  else if m = pressurise ∧ filled then default
  else if critical ∧ (m = controlled ∨ m = pressurise ∨ m = debug ∨ m = halfabort) then shutdown
  else if half ∧ m = controlled then halfabort
  else m

/-- The moves of a command to an armed component. -/
def onExecute (arg : Int32) (m : Mode) : Mode :=
  if arg = 1 ∧ m = default then controlled
  else if arg = 2 then shutdown
  else if arg = 3 ∧ m = default then debug
  else if arg = 4 ∧ m = default then pressurise
  else m

def next (m : Mode) : Cue → Mode
  | .update disarmed filled critical half => m.onUpdate disarmed filled critical half
  | .execute arg => m.onExecute arg
  | .other => m

/-! ## What the moves leave out -/

theorem onUpdate_disarmed (filled critical half : Bool) (m : Mode) :
    m.onUpdate true filled critical half = default := rfl

/-- An update never enters an active state. -/
theorem onUpdate_active {disarmed filled critical half : Bool} {m : Mode}
    (h : (m.onUpdate disarmed filled critical half).isActive = true) :
    m.onUpdate disarmed filled critical half = m := by
  revert h
  unfold onUpdate
  split
  · exact fun h => absurd h (by decide)
  · split
    · exact fun h => absurd h (by decide)
    · split
      · exact fun h => absurd h (by decide)
      · split
        · exact fun h => absurd h (by decide)
        · exact fun _ => rfl

/-- A tripped machine ends an update closed. -/
theorem onUpdate_critical (disarmed filled half : Bool) (m : Mode) :
    m.onUpdate disarmed filled true half = default ∨
      m.onUpdate disarmed filled true half = shutdown := by
  cases m <;> cases disarmed <;> cases filled <;> cases half <;>
    first | exact Or.inl rfl | exact Or.inr rfl

/-- An armed `controlled` machine answers the trip first. -/
theorem onUpdate_controlled (filled critical half : Bool) :
    controlled.onUpdate false filled critical half =
      if critical then shutdown else if half then halfabort else controlled := by
  cases critical <;> cases half <;> rfl

/-- Where nothing asks for the half abort, an update ends in `controlled` by
staying there, armed and not tripped. -/
theorem onUpdate_eq_controlled {disarmed filled critical : Bool} {m : Mode} :
    m.onUpdate disarmed filled critical false = controlled ↔
      m = controlled ∧ disarmed = false ∧ critical = false := by
  cases m <;> cases disarmed <;> cases filled <;> cases critical <;> simp [onUpdate]

/-- An update ends in `shutdown` by staying there, or by a trip while armed. -/
theorem onUpdate_shutdown {disarmed filled critical half : Bool} {m : Mode} :
    m.onUpdate disarmed filled critical half = shutdown ↔
      disarmed = false ∧ (m = shutdown ∨ critical = true ∧
        (m = controlled ∨ m = debug ∨ m = halfabort ∨ m = pressurise ∧ filled = false)) := by
  cases m <;> cases disarmed <;> cases filled <;> cases critical <;> cases half <;>
    simp [onUpdate]

/-- `shutdown` is left only by an update that sees the component disarmed. -/
theorem next_shutdown {c : Cue} (h : shutdown.next c ≠ shutdown) :
    ∃ filled critical half, c = .update true filled critical half := by
  cases c with
  | update disarmed filled critical half =>
    cases disarmed with
    | true => exact ⟨filled, critical, half, rfl⟩
    | false => exact absurd (by simp [next, onUpdate]) h
  | execute arg => exact absurd (by simp [next, onExecute]) h
  | other => exact absurd rfl h

/-- So is `halfabort`, except for going on to `shutdown`. -/
theorem next_halfabort {c : Cue} (h : halfabort.next c ≠ halfabort) :
    halfabort.next c = shutdown ∨ ∃ filled critical half, c = .update true filled critical half := by
  cases c with
  | update disarmed filled critical half =>
    cases disarmed with
    | true => exact Or.inr ⟨filled, critical, half, rfl⟩
    | false =>
      cases critical with
      | true => exact Or.inl (by simp [next, onUpdate])
      | false => exact absurd (by simp [next, onUpdate]) h
  | execute arg =>
    by_cases harg : arg = 2
    · exact Or.inl (by simp [next, onExecute, harg])
    · exact absurd (by simp [next, onExecute, harg]) h
  | other => exact absurd rfl h

end Mode

end Heimdall
