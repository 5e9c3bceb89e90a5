import Mathlib.Algebra.Order.Field.Basic
import Mathlib.Order.Monotone.Basic

/-!
# Gain schedules

A schedule maps a measured quantity to a gain: a constant below a guard, and
above it a hyperbola `base + slope / x` held between two limits. The guard is
there because the hyperbola has no value at zero, so what has to be checked is
the seam: the constant must be at least the upper limit, or the gain jumps the
wrong way where the branches meet.

`Schedule` carries those side conditions as fields. `eval_antitone` is the
whole-line fact, seam included, and `eval_mem_iff` says where the gain is
between its limits: everywhere above the guard, and below it only if the
constant happens to be.
-/

/-- A guarded, limited hyperbola. -/
structure Schedule (K : Type*) [Field K] [LinearOrder K] where
  guard : K
  top : K
  base : K
  slope : K
  lo : K
  hi : K
  guard_pos : 0 < guard
  slope_nonneg : 0 ≤ slope
  lo_le_hi : lo ≤ hi
  hi_le_top : hi ≤ top

namespace Schedule

variable {K : Type*} [Field K] [LinearOrder K] (s : Schedule K)

/-- The gain at `x`. -/
def eval (x : K) : K :=
  if x ≤ s.guard then s.top else max (min (s.base + s.slope / x) s.hi) s.lo

theorem eval_of_le {x : K} (h : x ≤ s.guard) : s.eval x = s.top := if_pos h

theorem eval_of_lt {x : K} (h : s.guard < x) :
    s.eval x = max (min (s.base + s.slope / x) s.hi) s.lo :=
  if_neg h.not_ge

/-- Above the guard the gain keeps to its limits. -/
theorem eval_mem {x : K} (h : s.guard < x) : s.lo ≤ s.eval x ∧ s.eval x ≤ s.hi := by
  rw [s.eval_of_lt h]
  exact ⟨le_max_right _ _, max_le (min_le_right _ _) s.lo_le_hi⟩

theorem eval_le_top (x : K) : s.eval x ≤ s.top := by
  rcases le_or_gt x s.guard with h | h
  · rw [s.eval_of_le h]
  · exact (s.eval_mem h).2.trans s.hi_le_top

theorem lo_le_eval (x : K) : s.lo ≤ s.eval x := by
  rcases le_or_gt x s.guard with h | h
  · rw [s.eval_of_le h]
    exact s.lo_le_hi.trans s.hi_le_top
  · exact (s.eval_mem h).1

/-- A constant above the upper limit leaves the limits exactly below the
guard. -/
theorem eval_mem_iff (htop : s.hi < s.top) {x : K} :
    (s.lo ≤ s.eval x ∧ s.eval x ≤ s.hi) ↔ s.guard < x := by
  constructor
  · intro hmem
    by_contra hle
    rw [not_lt] at hle
    rw [s.eval_of_le hle] at hmem
    exact absurd hmem.2 htop.not_ge
  · exact s.eval_mem

variable [IsStrictOrderedRing K]

/-- The gain never rises, across the guard and both limits. -/
theorem eval_antitone : Antitone s.eval := by
  intro x y hxy
  rcases le_or_gt x s.guard with hx | hx
  · rw [s.eval_of_le hx]
    exact s.eval_le_top y
  · have hpos : 0 < x := s.guard_pos.trans hx
    have hcurve : s.base + s.slope / y ≤ s.base + s.slope / x := by
      have hdiv : s.slope / y ≤ s.slope / x :=
        div_le_div_of_nonneg_left s.slope_nonneg hpos hxy
      gcongr
    rw [s.eval_of_lt hx, s.eval_of_lt (hx.trans_le hxy)]
    exact max_le_max (min_le_min hcurve le_rfl) le_rfl

end Schedule
