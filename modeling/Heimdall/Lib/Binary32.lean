import Mathlib.Algebra.Order.Field.Rat
import Mathlib.Algebra.Order.Field.Basic
import Mathlib.Tactic.Ring

/-!
# The numbers of 32-bit floats

`Float32` computes as IEEE 754 binary32 does, on bit patterns it unpacks into a
sign, a mantissa and an exponent. The numbers of the format are the whole
multiples of `2 ^ -149`, its smallest one, so a finite float is read as an
integer of these (`units`) and as the rational it stands for (`value`).

> `lt_iff_value_lt`: two finite floats compare as their numbers do.

What carries it is that a mantissa is full unless the exponent is the least one
(`Canonical`): of two such floats the one with the larger exponent is the larger
number, which is how the format compares them. With an infinity or a NaN a
comparison is still false one way at least (`not_lt_of_lt`).

`ofInt` and `toInt` are C's conversions between `int` and `float`. The first
always gives a finite float (`isFinite_ofInt`); the second is left open by C
where the cut number is no `int`.
-/

namespace Binary32

open Float.Model UnpackedFloat

/-! ## Unpacked floats -/

/-- The number of an unpacked float in multiples of `2 ^ -149`; 0 for one that is
not finite. -/
def units : UnpackedFloat → ℤ
  | .finite s m e _ => s.apply (m * 2 ^ (e + 149).toNat : ℕ)
  | _ => 0

/-- The mantissa has its 24 bits, or the exponent is the least. -/
def Canonical : UnpackedFloat → Prop
  | .finite _ m e _ => m < 2 ^ 24 ∧ -149 ≤ e ∧ (2 ^ 23 ≤ m ∨ e = -149)
  | _ => True

/-- Every bit pattern unpacks so. -/
theorem canonical_unpack (b : BitVec Format.binary32.numBits) :
    Canonical (UnpackedFloat.unpack Format.binary32 b) := by
  have hmant : (@unpackMantissa Format.binary32 b).toNat < 2 ^ 23 :=
    (@unpackMantissa Format.binary32 b).isLt
  unfold UnpackedFloat.unpack
  dsimp only
  by_cases hones : @unpackExponent Format.binary32 b = -1#_
  · rw [if_pos hones]
    by_cases hinf : @unpackMantissa Format.binary32 b = 0#_
    · rw [if_pos hinf]
      trivial
    · rw [if_neg hinf]
      trivial
  · rw [if_neg hones]
    by_cases hsub : @unpackExponent Format.binary32 b = 0#_
    · rw [if_pos hsub]
      by_cases hzero : @unpackMantissa Format.binary32 b = 0#_
      · rw [dif_pos hzero]
        trivial
      · rw [dif_neg hzero, hsub]
        exact ⟨by omega, by decide, Or.inr (by decide)⟩
    · rw [if_neg hsub]
      have hexp : (@unpackExponent Format.binary32 b).toNat ≠ 0 :=
        fun h => hsub (BitVec.eq_of_toNat_eq h)
      have himplicit : (1#1 ++ @unpackMantissa Format.binary32 b).toNat =
          2 ^ 23 + (@unpackMantissa Format.binary32 b).toNat := by
        rw [BitVec.toNat_append, ← Nat.shiftLeft_add_eq_or_of_lt hmant]
        rfl
      refine ⟨himplicit ▸ by omega, ?_, Or.inl (himplicit ▸ by omega)⟩
      show (-149 : ℤ) ≤ (@unpackExponent Format.binary32 b).toNat - 150
      omega

/-- With a larger exponent a canonical float is the larger number, -/
theorem scaled_lt_of_exponent_lt {m₁ m₂ : ℕ} {e₁ e₂ : ℤ} (h₁ : m₁ < 2 ^ 24) (he₁ : -149 ≤ e₁)
    (h₂ : 2 ^ 23 ≤ m₂ ∨ e₂ = -149) (h : e₁ < e₂) :
    m₁ * 2 ^ (e₁ + 149).toNat < m₂ * 2 ^ (e₂ + 149).toNat := by
  have hfull : 2 ^ 23 ≤ m₂ := h₂.resolve_right (by omega)
  calc m₁ * 2 ^ (e₁ + 149).toNat
      < 2 ^ 24 * 2 ^ (e₁ + 149).toNat := Nat.mul_lt_mul_of_pos_right h₁ (Nat.two_pow_pos _)
    _ = 2 ^ 23 * 2 ^ ((e₁ + 149).toNat + 1) := by ring
    _ ≤ 2 ^ 23 * 2 ^ (e₂ + 149).toNat :=
        Nat.mul_le_mul_left _ (Nat.pow_le_pow_right (by decide) (by omega))
    _ ≤ m₂ * 2 ^ (e₂ + 149).toNat := Nat.mul_le_mul_right _ hfull

/-- and with the same exponent the mantissas decide. -/
theorem scaled_lt_iff {m₁ m₂ : ℕ} {e₁ e₂ : ℤ}
    (h₁ : m₁ < 2 ^ 24 ∧ -149 ≤ e₁ ∧ (2 ^ 23 ≤ m₁ ∨ e₁ = -149))
    (h₂ : m₂ < 2 ^ 24 ∧ -149 ≤ e₂ ∧ (2 ^ 23 ≤ m₂ ∨ e₂ = -149)) :
    m₁ * 2 ^ (e₁ + 149).toNat < m₂ * 2 ^ (e₂ + 149).toNat ↔
      e₁ < e₂ ∨ e₁ = e₂ ∧ m₁ < m₂ := by
  rcases lt_trichotomy e₁ e₂ with h | h | h
  · exact iff_of_true (scaled_lt_of_exponent_lt h₁.1 h₁.2.1 h₂.2.2 h) (Or.inl h)
  · subst h
    rw [Nat.mul_lt_mul_right (Nat.two_pow_pos _)]
    simp
  · refine iff_of_false (scaled_lt_of_exponent_lt h₂.1 h₂.2.1 h₁.2.2 h).not_gt ?_
    rintro (hlt | ⟨heq, -⟩)
    · exact h.not_gt hlt
    · exact h.ne heq.symm

/-- Two finite canonical floats compare as their numbers do. -/
theorem lt_iff_units_lt {a b : UnpackedFloat} (ha : Canonical a) (hb : Canonical b)
    (hfa : a.isFinite = true) (hfb : b.isFinite = true) :
    a.lt b = true ↔ units a < units b := by
  have hpos {m : ℕ} (hm : 0 < m) (k : ℕ) : 0 < ((m * 2 ^ k : ℕ) : ℤ) :=
    Int.natCast_pos.mpr (Nat.mul_pos hm (Nat.two_pow_pos k))
  rcases a with _ | _ | _ | ⟨_ | _, m₁, e₁, hm₁⟩
  · cases hfa
  · cases hfa
  · rcases b with _ | _ | _ | ⟨_ | _, m₂, e₂, hm₂⟩
    · cases hfb
    · cases hfb
    · exact iff_of_false Bool.false_ne_true (lt_irrefl _)
    · exact iff_of_false Bool.false_ne_true (neg_lt_zero.mpr (hpos hm₂ _)).not_gt
    · exact iff_of_true rfl (hpos hm₂ _)
  · rcases b with _ | _ | _ | ⟨_ | _, m₂, e₂, hm₂⟩
    · cases hfb
    · cases hfb
    · exact iff_of_true rfl (neg_lt_zero.mpr (hpos hm₁ _))
    · -- of two negative numbers the smaller mantissa is the larger number
      show (some ((compare e₁ e₂).then (compare m₁ m₂)).swap == some Ordering.lt) = true ↔
        -((m₁ * 2 ^ (e₁ + 149).toNat : ℕ) : ℤ) < -((m₂ * 2 ^ (e₂ + 149).toNat : ℕ) : ℤ)
      rw [Int.neg_lt_neg_iff, Int.ofNat_lt, scaled_lt_iff hb ha, Option.some_beq_some,
        beq_iff_eq, Ordering.swap_eq_lt, Ordering.then_eq_gt, Int.compare_eq_gt,
        Int.compare_eq_eq, Nat.compare_eq_gt, eq_comm (a := e₁)]
    · exact iff_of_true rfl ((neg_lt_zero.mpr (hpos hm₁ _)).trans (hpos hm₂ _))
  · rcases b with _ | _ | _ | ⟨_ | _, m₂, e₂, hm₂⟩
    · cases hfb
    · cases hfb
    · exact iff_of_false Bool.false_ne_true (hpos hm₁ _).not_gt
    · exact iff_of_false Bool.false_ne_true
        ((neg_lt_zero.mpr (hpos hm₂ _)).trans (hpos hm₁ _)).not_gt
    · show (some ((compare e₁ e₂).then (compare m₁ m₂)) == some Ordering.lt) = true ↔
        ((m₁ * 2 ^ (e₁ + 149).toNat : ℕ) : ℤ) < ((m₂ * 2 ^ (e₂ + 149).toNat : ℕ) : ℤ)
      rw [Int.ofNat_lt, scaled_lt_iff ha hb, Option.some_beq_some, beq_iff_eq,
        Ordering.then_eq_lt, Int.compare_eq_lt, Int.compare_eq_eq, Nat.compare_eq_lt]

/-- Turned around, a comparison says the opposite. -/
theorem compare_swap (a b : UnpackedFloat) :
    b.compare a = (a.compare b).map Ordering.swap := by
  rcases a with (_ | _) | _ | _ | ⟨_ | _, m₁, e₁, hm₁⟩ <;>
    rcases b with (_ | _) | _ | _ | ⟨_ | _, m₂, e₂, hm₂⟩ <;>
    try rfl
  · show some ((compare e₂ e₁).then (compare m₂ m₁)).swap =
      some ((compare e₁ e₂).then (compare m₁ m₂)).swap.swap
    rw [Ordering.swap_then (compare e₁ e₂), Int.compare_swap, Nat.compare_swap]
  · show some ((compare e₂ e₁).then (compare m₂ m₁)) =
      some ((compare e₁ e₂).then (compare m₁ m₂)).swap
    rw [Ordering.swap_then, Int.compare_swap, Nat.compare_swap]

/-- No two floats are each less than the other, finite or not. -/
theorem not_lt_of_lt {a b : UnpackedFloat} (h : a.lt b = true) : ¬b.lt a = true := by
  have hab : a.compare b = some .lt := eq_of_beq h
  intro hba
  have hcmp : b.compare a = some .lt := eq_of_beq hba
  rw [compare_swap a b, hab] at hcmp
  cases hcmp

/-! ## Rounding keeps small numbers finite -/

/-- Shifting a mantissa right does not make it larger. -/
theorem mantissa_shiftRight_le (m : ExtendedMantissa) (k : ℕ) :
    (m >>> k).mantissa ≤ m.mantissa := by
  show (k.repeat ExtendedMantissa.shiftRightOne m).mantissa ≤ m.mantissa
  induction k with
  | zero => exact le_rfl
  | succ k ih => exact (Nat.div_le_self _ 2).trans ih

theorem roundedMantissa_le (m : ExtendedMantissa) : m.roundedMantissa ≤ m.mantissa + 1 := by
  unfold ExtendedMantissa.roundedMantissa
  rcases m.accuracy with _ | (_ | _ | _)
  · exact Nat.le_succ _
  · exact Nat.le_succ _
  · exact Nat.add_le_add_left (Nat.le_of_lt_succ (Nat.mod_lt _ (by decide))) _
  · exact le_rfl

/-- The exponent a number of the format gets. -/
theorem targetExponent_binary32 (e : ℤ) :
    Format.binary32.targetExponent e = max (e - 24) (-149) := rfl

/-- Where a shift to the target exponent ends. -/
theorem shiftToTargetExponent_le {m k : ℕ} (hk : 0 < k) (hm : m < 2 ^ k) (e : ℤ) (a : Accuracy) :
    (shiftToTargetExponent Format.binary32 m e a).2 ≤ max e (max (k + e - 24) (-149)) := by
  have hlog : m.log2 + 1 ≤ k := by
    by_cases h0 : m = 0
    · rw [h0]
      exact hk
    · exact (Nat.log2_lt h0).mpr hm
  show e + ((Format.binary32.targetExponent (totalExponent m e) - e).toNat : ℤ) ≤ _
  rw [targetExponent_binary32, totalExponent]
  omega

/-- Rounding leaves the exponent below a bound the size of the mantissa gives. -/
theorem exponent_roundWithAccuracy_le {m k : ℕ} (hk : 24 ≤ k) (hm : m < 2 ^ k) {e : ℤ} (he : e ≤ 0)
    (a : Accuracy) (s : Sign) {s' : Sign} {m' : ℕ} {e' : ℤ} {hm' : 0 < m'}
    (h : roundWithAccuracy Format.binary32 s m e a = .finite s' m' e' hm') : e' ≤ 2 * k - 47 := by
  have hfirst := shiftToTargetExponent_le (Nat.lt_of_lt_of_le (by decide) hk) hm e a
  have hshifted : (shiftToTargetExponent Format.binary32 m e a).1.mantissa ≤ m := by
    refine (mantissa_shiftRight_le _ _).trans ?_
    rcases a with _ | (_ | _ | _) <;> exact le_rfl
  have hrounded :
      (shiftToTargetExponent Format.binary32 m e a).1.roundedMantissa < 2 ^ (k + 1) := by
    have hle := roundedMantissa_le (shiftToTargetExponent Format.binary32 m e a).1
    rw [pow_succ]
    omega
  have hsecond := shiftToTargetExponent_le (Nat.succ_pos k) hrounded
    (shiftToTargetExponent Format.binary32 m e a).2 .exact
  unfold roundWithAccuracy at h
  dsimp only at h
  generalize (shiftToTargetExponent Format.binary32
    (shiftToTargetExponent Format.binary32 m e a).1.roundedMantissa
    (shiftToTargetExponent Format.binary32 m e a).2 .exact) = last at hsecond h
  by_cases hzero : last.1.mantissa = 0
  · rw [dif_pos hzero] at h
    cases h
  · rw [dif_neg hzero] at h
    injection h with _ _ hexp
    omega

/-- An integer below `2 ^ 32` is rounded to an exponent far from the largest. -/
theorem exponent_round_le {m : ℕ} (hm : m < 2 ^ 32) (s : Sign) {s' : Sign} {m' : ℕ} {e' : ℤ}
    {hm' : 0 < m'} (h : UnpackedFloat.round Format.binary32 s m 0 = .finite s' m' e' hm') :
    e' ≤ 63 := by
  unfold UnpackedFloat.round decreaseExponent at h
  dsimp only at h
  refine exponent_roundWithAccuracy_le (by decide : 24 ≤ 55) ?_ (by omega) _ _ h
  have hshift : (0 - Format.binary32.targetExponent (totalExponent m 0)).toNat ≤ 23 := by
    rw [targetExponent_binary32, totalExponent]
    omega
  calc m <<< (0 - Format.binary32.targetExponent (totalExponent m 0)).toNat
      = m * 2 ^ (0 - Format.binary32.targetExponent (totalExponent m 0)).toNat :=
        Nat.shiftLeft_eq _ _
    _ ≤ m * 2 ^ 23 := Nat.mul_le_mul_left _ (Nat.pow_le_pow_right (by decide) hshift)
    _ < 2 ^ 32 * 2 ^ 23 := Nat.mul_lt_mul_of_pos_right hm (Nat.two_pow_pos 23)

/-- What is unpacked is finite unless the exponent is all ones. -/
theorem isFinite_unpack {b : BitVec Format.binary32.numBits} (h : unpackExponent b ≠ -1#_) :
    (UnpackedFloat.unpack Format.binary32 b).isFinite = true := by
  unfold UnpackedFloat.unpack
  dsimp only
  rw [if_neg h]
  by_cases hsub : unpackExponent b = 0#_
  · rw [if_pos hsub]
    by_cases hzero : unpackMantissa b = 0#_
    · rw [dif_pos hzero]
      rfl
    · rw [dif_neg hzero]
      rfl
  · rw [if_neg hsub]
    rfl

theorem isFinite_pack_zero (s : Sign) : (Float32.Model.pack (.zero s)).isFinite = true := by
  refine isFinite_unpack ?_
  show unpackExponent (packedZero Format.binary32 s) ≠ -1#_
  unfold packedZero
  rw [unpackExponent_packComponents]
  decide

/-- A float whose exponent fits the format packs into a finite one. -/
theorem isFinite_pack {s : Sign} {m : ℕ} {e : ℤ} {hm : 0 < m} (he : e ≤ 104) :
    (Float32.Model.pack (.finite s m e hm)).isFinite = true := by
  refine isFinite_unpack ?_
  show unpackExponent (UnpackedFloat.pack Format.binary32 (.finite s m e hm)) ≠ -1#_
  have hexp : (e + Format.binary32.exponentBias +
      Format.binary32.mantissaBitsWithoutImplicit).toNat < 255 := by
    simp only [Format.exponentBias]
    omega
  unfold UnpackedFloat.pack
  dsimp only
  rw [if_neg (Nat.not_le.mpr (Nat.succ_lt_succ hexp))]
  split
  · rw [unpackExponent_packComponents]
    intro hones
    have hval := congrArg BitVec.toNat hones
    rw [BitVec.toNat_ofNat, Nat.mod_eq_of_lt (hexp.trans (by decide))] at hval
    exact hexp.ne hval
  · rw [unpackExponent_packComponents]
    decide

/-- Rounding gives no infinity and no NaN. -/
theorem isFinite_roundWithAccuracy (s : Sign) (m : ℕ) (e : ℤ) (a : Accuracy) :
    (roundWithAccuracy Format.binary32 s m e a).isFinite = true := by
  unfold roundWithAccuracy
  dsimp only
  generalize shiftToTargetExponent Format.binary32 _ _ .exact = last
  by_cases hzero : last.1.mantissa = 0
  · rw [dif_pos hzero]
    rfl
  · rw [dif_neg hzero]
    rfl

theorem isFinite_pack_round {m : ℕ} (hm : m < 2 ^ 32) (s : Sign) :
    (Float32.Model.pack (UnpackedFloat.round Format.binary32 s m 0)).isFinite = true := by
  have hfinite : (UnpackedFloat.round Format.binary32 s m 0).isFinite = true :=
    isFinite_roundWithAccuracy _ _ _ _
  cases hround : UnpackedFloat.round Format.binary32 s m 0 with
  | infinity s' =>
    rw [hround] at hfinite
    cases hfinite
  | notANumber =>
    rw [hround] at hfinite
    cases hfinite
  | zero s' => exact isFinite_pack_zero s'
  | finite s' m' e' hm' => exact isFinite_pack (by have := exponent_round_le hm s hround; omega)

/-! ## Floats -/

/-- The number a finite float stands for. -/
def value (x : Float32) : ℚ := units x.toModel.unpack / 2 ^ 149

/-- Finite floats compare as their numbers do. -/
theorem lt_iff_value_lt {x y : Float32} (hx : x.isFinite = true) (hy : y.isFinite = true) :
    x < y ↔ value x < value y := by
  have hlt : x < y ↔ x.toModel.unpack.lt y.toModel.unpack = true := decide_eq_true_iff
  have hunits : x < y ↔ units x.toModel.unpack < units y.toModel.unpack :=
    hlt.trans (lt_iff_units_lt (canonical_unpack _) (canonical_unpack _) hx hy)
  rw [hunits, value, value, div_lt_div_iff_of_pos_right (by positivity), Int.cast_lt]

theorem lt_asymm {x y : Float32} (h : x < y) : ¬y < x := by
  intro hyx
  exact not_lt_of_lt (decide_eq_true_iff.mp h) (decide_eq_true_iff.mp hyx)

/-- C's conversion of an `int`, to the nearest float. -/
def ofInt (n : Int32) : Float32 := .ofModel (.ofInt32 n)

theorem isFinite_ofInt (n : Int32) : (ofInt n).isFinite = true := by
  show (Float32.Model.pack
    (UnpackedFloat.normalize Format.binary32 n.toInt 0 .positive)).isFinite = true
  have hlo := n.le_toInt
  have hhi := n.toInt_lt
  unfold UnpackedFloat.normalize
  split
  · exact isFinite_pack_round (by omega) _
  · exact isFinite_pack_zero _
  · exact isFinite_pack_round (by omega) _

/-- C's conversion to an `int`: the fraction is cut off. Where that is no `int` the
result is `unspecified`. -/
def toInt (unspecified : Int32) (x : Float32) : Int32 :=
  if -2147483648 ≤ x ∧ x < 2147483648 then x.toModel.toInt32 else unspecified

end Binary32
