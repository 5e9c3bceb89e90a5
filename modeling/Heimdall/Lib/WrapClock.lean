import Mathlib.Algebra.Ring.Nat

/-!
# Timers on a counter that wraps

A free-running counter is read at two times and the readings are compared. An
elapsed time, the difference of two readings, does not see the wrap: it is the
real one as long as that fits the counter (`toNat_sub_ofNat`), and it does not
depend on where the counter happened to be (`add_sub_add`).

A deadline, a reading plus a delay that is later compared with the counter,
does see it. `add_lt_add_iff` says exactly when moving the counter changes the
answer: when the move takes one of the two past the end and not the other.
-/

namespace WrapClock

/-- Moving the reading `t` by `k` takes it past the end. -/
def Wraps (t k : UInt32) : Prop := 2 ^ 32 ≤ t.toNat + k.toNat

instance (t k : UInt32) : Decidable (Wraps t k) := inferInstanceAs (Decidable (_ ≤ _))

theorem toNat_add_of_wraps {t k : UInt32} (h : Wraps t k) :
    (t + k).toNat + 2 ^ 32 = t.toNat + k.toNat := by
  have ht := t.toNat_lt
  have hk := k.toNat_lt
  unfold Wraps at h
  rw [UInt32.toNat_add]
  omega

theorem toNat_add_of_not_wraps {t k : UInt32} (h : ¬Wraps t k) :
    (t + k).toNat = t.toNat + k.toNat := by
  unfold Wraps at h
  rw [UInt32.toNat_add]
  omega

/-- The difference of two readings is the time between them. -/
theorem toNat_sub_ofNat {s t : Nat} (h : s ≤ t) (hlt : t < s + 2 ^ 32) :
    (UInt32.ofNat t - UInt32.ofNat s).toNat = t - s := by
  rw [UInt32.toNat_sub, UInt32.toNat_ofNat', UInt32.toNat_ofNat']
  omega

/-- It is the same wherever the counter is. -/
theorem add_sub_add (t s k : UInt32) : t + k - (s + k) = t - s := by grind

/-- A comparison of two readings is not: it changes when the move takes
exactly one of them past the end. -/
theorem add_lt_add_iff {s t k : UInt32} :
    (s + k < t + k ↔ s < t) ↔ ¬(s ≠ t ∧ ¬(Wraps s k ↔ Wraps t k)) := by
  rw [UInt32.lt_iff_toNat_lt, UInt32.lt_iff_toNat_lt, ne_eq, ← UInt32.toNat_inj]
  have hs := s.toNat_lt
  have ht := t.toNat_lt
  by_cases hsk : Wraps s k <;> by_cases htk : Wraps t k
  · -- both past the end, and the same distance apart
    have hs' := toNat_add_of_wraps hsk
    have ht' := toNat_add_of_wraps htk
    simp only [hsk, htk, iff_self, not_true_eq_false, and_false, not_false_eq_true, iff_true]
    omega
  · have hs' := toNat_add_of_wraps hsk
    have ht' := toNat_add_of_not_wraps htk
    have hlt : t.toNat < s.toNat := by
      unfold Wraps at hsk htk
      omega
    refine iff_of_false ?_ ?_
    · intro hiff
      exact absurd (hiff.mp (by omega)) (by omega)
    · intro hnot
      exact hnot ⟨by omega, fun hiff => htk (hiff.mp hsk)⟩
  · have hs' := toNat_add_of_not_wraps hsk
    have ht' := toNat_add_of_wraps htk
    have hlt : s.toNat < t.toNat := by
      unfold Wraps at hsk htk
      omega
    refine iff_of_false ?_ ?_
    · intro hiff
      exact absurd (hiff.mpr hlt) (by omega)
    · intro hnot
      exact hnot ⟨by omega, fun hiff => hsk (hiff.mpr htk)⟩
  · have hs' := toNat_add_of_not_wraps hsk
    have ht' := toNat_add_of_not_wraps htk
    simp only [hsk, htk, iff_self, not_true_eq_false, and_false, not_false_eq_true, iff_true]
    omega

end WrapClock
