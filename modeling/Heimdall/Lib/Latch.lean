import Mathlib.Data.List.Induction
import Mathlib.Order.Lattice
import Mathlib.Tactic.TypeStar

/-!
# Threshold latches

A flag that is set by a reading above a limit, cleared by a reading below it
and left alone by a reading exactly on it. Over any linear order such a latch
remembers one thing only: on which side of the limit the last reading off the
limit was (`foldl_latch`). A latch that is set below its limit (`latchBelow`) is
the same latch in the order dual.

`latch_latch` is the fact to know before two latches share one flag: if the
second has the lower limit, the pair is a memoryless comparison with that
lower limit, and the upper one might as well not be there.

A flag that is set outside a band and cleared inside it (`bandLatch`) remembers
where the last reading off the two limits was (`foldl_bandLatch`).
-/

namespace Latch

variable {α : Type*} [LinearOrder α]

/-- The flag after a reading `x`, for the limit `lim`. -/
def latch (lim : α) (flag : Bool) (x : α) : Bool :=
  if lim < x then true else if x < lim then false else flag

theorem latch_of_lt {lim x : α} (h : lim < x) (flag : Bool) : latch lim flag x = true :=
  if_pos h

theorem latch_of_gt {lim x : α} (h : x < lim) (flag : Bool) : latch lim flag x = false := by
  rw [latch, if_neg h.not_gt, if_pos h]

@[simp] theorem latch_self (lim : α) (flag : Bool) : latch lim flag lim = flag := by
  rw [latch, if_neg (lt_irrefl lim), if_neg (lt_irrefl lim)]

theorem latch_of_ne {lim x : α} (h : x ≠ lim) (flag : Bool) :
    latch lim flag x = decide (lim < x) := by
  rcases lt_or_gt_of_ne h with hlt | hgt
  · rw [latch_of_gt hlt, decide_eq_false hlt.not_gt]
  · rw [latch_of_lt hgt, decide_eq_true hgt]

/-- The last reading that is not exactly the limit. -/
def lastOff (lim : α) (xs : List α) : Option α := xs.reverse.find? (· ≠ lim)

theorem lastOff_concat (lim : α) (xs : List α) (x : α) :
    lastOff lim (xs ++ [x]) = if x = lim then lastOff lim xs else some x := by
  rw [lastOff, List.reverse_append, List.reverse_singleton, List.singleton_append,
    List.find?_cons]
  by_cases h : x = lim <;> simp [h, lastOff]

theorem lastOff_mem {lim x : α} {xs : List α} (h : lastOff lim xs = some x) : x ∈ xs :=
  List.mem_reverse.mp (List.mem_of_find?_eq_some h)

/-- The flag a whole history of readings leaves behind, `init` being the flag
before the first of them. -/
theorem foldl_latch (lim : α) (init : Bool) (xs : List α) :
    xs.foldl (latch lim) init = ((lastOff lim xs).map fun x => decide (lim < x)).getD init := by
  induction xs using List.reverseRecOn with
  | nil => rfl
  | append_singleton xs x ih =>
    rw [List.foldl_append, List.foldl_cons, List.foldl_nil, lastOff_concat]
    by_cases h : x = lim
    · rw [h, latch_self, if_pos rfl]
      exact ih
    · rw [latch_of_ne h, if_neg h]
      rfl

/-- Two latches on one flag, the second with the lower limit: what is left is
a comparison with the lower limit, whatever the flag was. -/
theorem latch_latch {lo hi : α} (h : lo < hi) (flag : Bool) (x : α) :
    latch lo (latch hi flag x) x = decide (lo < x) := by
  by_cases hx : x = lo
  · rw [hx, latch_self, latch_of_gt h, decide_eq_false (lt_irrefl lo)]
  · exact latch_of_ne hx _

/-! ## Set below the limit -/

/-- The flag after a reading `x`, for a latch that is set below its limit. -/
def latchBelow (lim : α) (flag : Bool) (x : α) : Bool :=
  if x < lim then true else if lim < x then false else flag

/-- It is a latch in the order turned around. -/
theorem latchBelow_eq (lim : α) (flag : Bool) (x : α) :
    latchBelow lim flag x = latch (OrderDual.toDual lim) flag (OrderDual.toDual x) := rfl

@[simp] theorem latchBelow_self (lim : α) (flag : Bool) : latchBelow lim flag lim = flag := by
  rw [latchBelow_eq, latch_self]

theorem latchBelow_of_ne {lim x : α} (h : x ≠ lim) (flag : Bool) :
    latchBelow lim flag x = decide (x < lim) := by
  rw [latchBelow_eq]
  exact latch_of_ne (α := αᵒᵈ) h flag

theorem foldl_latchBelow (lim : α) (init : Bool) (xs : List α) :
    xs.foldl (latchBelow lim) init = ((lastOff lim xs).map fun x => decide (x < lim)).getD init :=
  foldl_latch (α := αᵒᵈ) lim init xs

/-- A reading that comes again changes nothing. -/
theorem latchBelow_latchBelow (lim : α) (flag : Bool) (x : α) :
    latchBelow lim (latchBelow lim flag x) x = latchBelow lim flag x := by
  by_cases h : x = lim
  · rw [h, latchBelow_self]
  · rw [latchBelow_of_ne h, latchBelow_of_ne h]

/-! ## Set outside a band -/

/-- The flag after a reading `x`, for a latch that is set outside `[lo, hi]` and
cleared inside `(lo, hi)`. -/
def bandLatch (lo hi : α) (flag : Bool) (x : α) : Bool :=
  if hi < x ∨ x < lo then true else if x < hi ∧ lo < x then false else flag

theorem bandLatch_of_out {lo hi x : α} (h : hi < x ∨ x < lo) (flag : Bool) :
    bandLatch lo hi flag x = true := if_pos h

theorem bandLatch_of_in {lo hi x : α} (h : lo < x ∧ x < hi) (flag : Bool) :
    bandLatch lo hi flag x = false := by
  rw [bandLatch, if_neg (not_or.mpr ⟨h.2.not_gt, h.1.not_gt⟩), if_pos h.symm]

theorem bandLatch_of_limit {lo hi x : α} (hband : lo ≤ hi) (h : x = lo ∨ x = hi) (flag : Bool) :
    bandLatch lo hi flag x = flag := by
  rcases h with rfl | rfl
  · rw [bandLatch, if_neg (not_or.mpr ⟨hband.not_gt, lt_irrefl x⟩),
      if_neg fun h => lt_irrefl x h.2]
  · rw [bandLatch, if_neg (not_or.mpr ⟨lt_irrefl x, hband.not_gt⟩),
      if_neg fun h => lt_irrefl x h.1]

/-- Where a reading can be: outside, inside or on a limit, -/
theorem out_or_in_or_limit (lo hi x : α) :
    (hi < x ∨ x < lo) ∨ (lo < x ∧ x < hi) ∨ (x = lo ∨ x = hi) := by
  rcases lt_trichotomy x lo with h | h | h
  · exact Or.inl (Or.inr h)
  · exact Or.inr (Or.inr (Or.inl h))
  · rcases lt_trichotomy x hi with h' | h' | h'
    · exact Or.inr (Or.inl ⟨h, h'⟩)
    · exact Or.inr (Or.inr (Or.inr h'))
    · exact Or.inl (Or.inl h')

/-- and only one of these. -/
theorem not_in_of_out {lo hi x : α} (h : hi < x ∨ x < lo) : ¬(lo < x ∧ x < hi) :=
  fun hin => h.elim hin.2.not_gt hin.1.not_gt

theorem not_limit_of_out {lo hi x : α} (hband : lo ≤ hi) (h : hi < x ∨ x < lo) :
    ¬(x = lo ∨ x = hi) := by
  rintro (rfl | rfl)
  · exact h.elim hband.not_gt (lt_irrefl x)
  · exact h.elim (lt_irrefl x) hband.not_gt

theorem not_in_of_limit {lo hi x : α} (h : x = lo ∨ x = hi) : ¬(lo < x ∧ x < hi) :=
  fun hin => h.elim hin.1.ne' hin.2.ne

theorem bandLatch_of_ne {lo hi x : α} (hlo : x ≠ lo) (hhi : x ≠ hi) (flag : Bool) :
    bandLatch lo hi flag x = decide (hi < x ∨ x < lo) := by
  rcases out_or_in_or_limit lo hi x with hout | hin | hlim
  · rw [bandLatch_of_out hout, decide_eq_true hout]
  · rw [bandLatch_of_in hin, decide_eq_false fun hout => not_in_of_out hout hin]
  · exact absurd hlim (not_or.mpr ⟨hlo, hhi⟩)

/-- Two latches with one band above the other differ inside either band, and on
the limits while the flag is not set. -/
theorem bandLatch_eq_iff {lo hi lo' hi' : α} (hband : lo ≤ hi) (hbetween : hi < lo')
    (hband' : lo' ≤ hi') (flag : Bool) (x : α) :
    bandLatch lo hi flag x = bandLatch lo' hi' flag x ↔
      ¬((lo < x ∧ x < hi) ∨ (lo' < x ∧ x < hi') ∨
        ((x = lo ∨ x = hi) ∨ (x = lo' ∨ x = hi')) ∧ flag = false) := by
  have hbelow (h : x ≤ hi) : x < lo' := lt_of_le_of_lt h hbetween
  rcases out_or_in_or_limit lo hi x with hout | hin | hlim
  · -- outside the lower band the lower latch is set: what is the upper one?
    have hnin := not_in_of_out hout
    have hnlim := not_limit_of_out hband hout
    rw [bandLatch_of_out hout]
    rcases out_or_in_or_limit lo' hi' x with hout' | hin' | hlim'
    · rw [bandLatch_of_out hout']
      simp only [hnin, not_in_of_out hout', hnlim, not_limit_of_out hband' hout', or_self,
        false_and, not_false_eq_true]
    · rw [bandLatch_of_in hin']
      simp only [hin', Bool.true_eq_false, and_self, true_or, or_true, not_true_eq_false]
    · rw [bandLatch_of_limit hband' hlim', eq_comm]
      simp only [hnin, not_in_of_limit hlim', hlim', or_true, true_and, false_or,
        Bool.not_eq_false]
  · rw [bandLatch_of_in hin, bandLatch_of_out (Or.inr (hbelow hin.2.le))]
    simp only [hin, Bool.false_eq_true, and_self, true_or, not_true_eq_false]
  · have hle : x ≤ hi := hlim.elim (fun h => h.le.trans hband) (fun h => h.le)
    rw [bandLatch_of_limit hband hlim, bandLatch_of_out (Or.inr (hbelow hle))]
    simp only [not_in_of_limit hlim, not_in_of_out (Or.inr (hbelow hle)), hlim, true_or, true_and,
      false_or, Bool.not_eq_false]

/-- The last reading that is not exactly a limit. -/
def lastOffBand (lo hi : α) (xs : List α) : Option α :=
  xs.reverse.find? fun x => x ≠ lo ∧ x ≠ hi

theorem lastOffBand_concat (lo hi : α) (xs : List α) (x : α) :
    lastOffBand lo hi (xs ++ [x]) =
      if x = lo ∨ x = hi then lastOffBand lo hi xs else some x := by
  rw [lastOffBand, List.reverse_append, List.reverse_singleton, List.singleton_append,
    List.find?_cons]
  by_cases h : x = lo ∨ x = hi
  · rw [if_pos h, decide_eq_false fun hne => h.elim hne.1 hne.2]
    rfl
  · rw [if_neg h, decide_eq_true (not_or.mp h)]

/-- The flag a whole history of readings leaves behind. -/
theorem foldl_bandLatch {lo hi : α} (hband : lo ≤ hi) (init : Bool) (xs : List α) :
    xs.foldl (bandLatch lo hi) init =
      ((lastOffBand lo hi xs).map fun x => decide (hi < x ∨ x < lo)).getD init := by
  induction xs using List.reverseRecOn with
  | nil => rfl
  | append_singleton xs x ih =>
    rw [List.foldl_append, List.foldl_cons, List.foldl_nil, lastOffBand_concat]
    by_cases h : x = lo ∨ x = hi
    · rw [bandLatch_of_limit hband h, if_pos h]
      exact ih
    · rw [bandLatch_of_ne (not_or.mp h).1 (not_or.mp h).2, if_neg h]
      rfl

end Latch
