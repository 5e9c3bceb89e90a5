import Mathlib.Data.List.Chain
import Mathlib.Tactic.TypeStar

/-!
# A switch and the record of its calls

A switch that is only ever turned the other way leaves a record in which every
call differs from the one before. `Toggles start now bs` says so of a record
`bs`, newest first, that took a switch from `start` to `now`; what it means for
the list alone is `toggles_iff`. Records are put together by `Toggles.append`,
so a law about one call of a program becomes one about its runs.
-/

/-- The calls `bs`, newest first, each turned a switch over, which went from
`start` to `now`. -/
inductive Toggles (start : Bool) : Bool → List Bool → Prop
  | refl : Toggles start start []
  | turn {now : Bool} {bs : List Bool} (h : Toggles start now bs) :
      Toggles start (!now) ((!now) :: bs)

namespace Toggles

variable {start mid now : Bool} {bs cs : List Bool}

theorem append (hb : Toggles start mid bs) (hc : Toggles mid now cs) :
    Toggles start now (cs ++ bs) := by
  induction hc with
  | refl => exact hb
  | turn _ ih => exact ih.turn

/-- The switch is where the last call turned it. -/
theorem now_eq (h : Toggles start now bs) : now = bs.headD start := by
  cases h with
  | refl => rfl
  | turn _ => rfl

/-- Successive calls differ, the first of them from where the switch was, and
the switch is where the last one turned it. -/
theorem toggles_iff :
    Toggles start now bs ↔ List.IsChain (· ≠ ·) (bs ++ [start]) ∧ now = bs.headD start := by
  constructor
  · intro h
    refine ⟨?_, h.now_eq⟩
    induction h with
    | refl => exact List.isChain_singleton start
    | @turn now bs h ih =>
      have hnow := h.now_eq
      subst hnow
      cases bs with
      | nil => exact List.isChain_pair.mpr (Bool.eq_not.mp rfl)
      | cons b bs => exact List.isChain_cons_cons.mpr ⟨Bool.eq_not.mp rfl, ih⟩
  · intro h
    obtain ⟨hchain, hnow⟩ := h
    subst hnow
    induction bs with
    | nil => exact .refl
    | cons b bs ih =>
      have hb : b = !bs.headD start := by
        cases bs with
        | nil => exact Bool.eq_not.mpr (List.isChain_pair.mp hchain)
        | cons c cs => exact Bool.eq_not.mpr (List.isChain_cons_cons.mp hchain).1
      have hrest : Toggles start (bs.headD start) bs := ih hchain.tail
      rw [List.headD_cons, hb]
      exact hrest.turn

end Toggles
