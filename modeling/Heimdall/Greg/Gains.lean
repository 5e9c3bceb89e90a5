import Heimdall.Greg.Controller
import Heimdall.Lib.Schedule
import Mathlib.Algebra.Order.Ring.Rat
import Mathlib.Algebra.Order.Field.Rat

/-!
# The gain schedules and the control law

`feedforward` and `Kp` are two schedules in the nitrogen pressure
(`Lib/Schedule.lean`) with the same guard and, by a slip, the same constant
below it: `Kp` answers a low pressure with the feedforward's maximum. The
schedules stay monotone, since that constant is above both upper limits, so
the control law still pushes the right way (`nextAngle_direction`); what is
lost is the gain's own range (`gains_iff`).

Neither low-pressure branch saves what it returns, so the telemetry's copies
are the ones a call used only above the guard (`reported_iff`).
-/

namespace Heimdall

open EventRun

/-! ## The two schedules -/

def ffSchedule : Schedule ℚ where
  guard := 1
  top := ffMax
  base := ff0
  slope := ffAlpha
  lo := ffMin
  hi := ffMax
  guard_pos := by norm_num
  slope_nonneg := by norm_num [ffAlpha]
  lo_le_hi := by norm_num [ffMin, ffMax]
  hi_le_top := le_rfl

/-- The constant is the feedforward's. -/
def kpSchedule : Schedule ℚ where
  guard := 1
  top := ffMax
  base := kp0
  slope := kpBeta
  lo := kpMin
  hi := kpMax
  guard_pos := by norm_num
  slope_nonneg := by norm_num [kpBeta]
  lo_le_hi := by norm_num [kpMin, kpMax]
  hi_le_top := by norm_num [kpMax, ffMax]

namespace Greg

variable {σ : Type}

theorem feedforward_eq (g : Greg σ) : g.feedforward.1 = ffSchedule.eval g.n2P := by
  unfold feedforward
  by_cases h : g.n2P ≤ 1
  · rw [if_pos h]
    exact (ffSchedule.eval_of_le h).symm
  · rw [if_neg h]
    exact (ffSchedule.eval_of_lt (not_le.mp h)).symm

theorem kp_eq (g : Greg σ) : g.kp.1 = kpSchedule.eval g.n2P := by
  unfold kp
  by_cases h : g.n2P ≤ 1
  · rw [if_pos h]
    exact (kpSchedule.eval_of_le h).symm
  · rw [if_neg h]
    exact (kpSchedule.eval_of_lt (not_le.mp h)).symm

/-! ## Divisions -/

/-- A division that fails on zero. -/
def checkedDiv (a b : ℚ) : Option ℚ := if b = 0 then none else some (a / b)

/-- `feedforward`, its division checked. -/
def feedforwardChecked (g : Greg σ) : Option ℚ :=
  if g.n2P ≤ 1 then some ffMax
  else (checkedDiv ffAlpha g.n2P).map fun q => max (min (ff0 + q) ffMax) ffMin

/-- `Kp`, its division checked. -/
def kpChecked (g : Greg σ) : Option ℚ :=
  if g.n2P ≤ 1 then some ffMax
  else (checkedDiv kpBeta g.n2P).map fun q => max (min (kp0 + q) kpMax) kpMin

theorem checkedDiv_of_gt {a b : ℚ} (h : ¬b ≤ 1) : checkedDiv a b = some (a / b) := by
  have hne : b ≠ 0 := by
    intro hzero
    exact h (hzero ▸ zero_le_one)
  exact if_neg hne

/-- The guard keeps zero away from both divisions. -/
theorem divides_safely (g : Greg σ) :
    g.feedforwardChecked = some g.feedforward.1 ∧ g.kpChecked = some g.kp.1 := by
  unfold feedforwardChecked kpChecked feedforward kp
  by_cases h : g.n2P ≤ 1
  · simp only [if_pos h, and_self]
  · simp only [if_neg h, checkedDiv_of_gt h, Option.map_some, and_self]

/-! ## Bounds and direction of the gains -/

/-- Both gains never rise with the nitrogen pressure. -/
theorem gains_antitone {g g' : Greg σ} (h : g.n2P ≤ g'.n2P) :
    g'.kp.1 ≤ g.kp.1 ∧ g'.feedforward.1 ≤ g.feedforward.1 := by
  rw [kp_eq, kp_eq, feedforward_eq, feedforward_eq]
  exact ⟨kpSchedule.eval_antitone h, ffSchedule.eval_antitone h⟩

theorem feedforward_mem (g : Greg σ) : ffMin ≤ g.feedforward.1 ∧ g.feedforward.1 ≤ ffMax := by
  rw [feedforward_eq]
  exact ⟨ffSchedule.lo_le_eval _, ffSchedule.eval_le_top _⟩

theorem kp_mem_iff (g : Greg σ) : (kpMin ≤ g.kp.1 ∧ g.kp.1 ≤ kpMax) ↔ 1 < g.n2P := by
  rw [kp_eq]
  exact kpSchedule.eval_mem_iff (show kpMax < ffMax by norm_num [kpMax, ffMax])

/-- The proportional gain opens the valve when the pressure is low. -/
theorem kp_nonneg (g : Greg σ) : 0 ≤ g.kp.1 := by
  rw [kp_eq]
  exact (show (0 : ℚ) ≤ kpMin by norm_num [kpMin]).trans (kpSchedule.lo_le_eval _)

end Greg

/-- What is promised of the gains at a pressure: their ranges, that a higher
pressure gives no higher gain, and that no division is by zero. -/
structure GainsSound {σ : Type} (g : Greg σ) : Prop where
  kp_mem : kpMin ≤ g.kp.1 ∧ g.kp.1 ≤ kpMax
  feedforward_mem : ffMin ≤ g.feedforward.1 ∧ g.feedforward.1 ≤ ffMax
  antitone : ∀ g' : Greg σ, g.n2P ≤ g'.n2P →
    g'.kp.1 ≤ g.kp.1 ∧ g'.feedforward.1 ≤ g.feedforward.1
  divides : g.feedforwardChecked = some g.feedforward.1 ∧ g.kpChecked = some g.kp.1

/-- The gains are sound exactly above the guard; below it only the range of
`Kp` is lost. -/
theorem gains_iff {σ : Type} (g : Greg σ) :
    (GainsSound g ↔ 1 < g.n2P) ∧
      (ffMin ≤ g.feedforward.1 ∧ g.feedforward.1 ≤ ffMax) ∧
      (∀ g' : Greg σ, g.n2P ≤ g'.n2P →
        g'.kp.1 ≤ g.kp.1 ∧ g'.feedforward.1 ≤ g.feedforward.1) ∧
      g.feedforwardChecked = some g.feedforward.1 ∧ g.kpChecked = some g.kp.1 := by
  refine ⟨?_, g.feedforward_mem, fun g' h => Greg.gains_antitone h, g.divides_safely⟩
  constructor
  · intro hsound
    exact g.kp_mem_iff.mp hsound.kp_mem
  · intro hgt
    exact ⟨g.kp_mem_iff.mpr hgt, g.feedforward_mem, fun g' h => Greg.gains_antitone h,
      g.divides_safely⟩

/-- An empty nitrogen tank has the feedforward's maximum for a gain. -/
theorem gains_fail :
    ¬GainsSound ((Greg.constructed true 0 : Greg StatusWord).sense 10 0) := by
  intro hsound
  exact absurd hsound.kp_mem.2 (by decide +kernel)

/-! ## The direction of the control law -/

namespace Greg

variable {σ : Type}

/-- `target_angle_scaled` of `nextAngle`. -/
def targetAngleScaled (g : Greg σ) : ℚ :=
  (g.kp.1 * (pSetpoint - g.feedbackP) + g.feedforward.1) * 10

/-- Clamping and truncating the target. -/
def clampedAngle (target : ℚ) : UInt32 :=
  UInt32.ofNat ⌊clamp target regMinOpenAngle.toNat regMaxOpenAngle.toNat⌋.toNat

theorem nextAngle_eq (g : Greg σ) : g.nextAngle.1 = clampedAngle g.targetAngleScaled := by
  unfold nextAngle targetAngleScaled feedforward kp
  by_cases h : g.n2P ≤ 1
  · simp only [if_pos h]
    rfl
  · simp only [if_neg h]
    rfl

theorem clamp_mono {v w lo hi : ℚ} (hlim : lo ≤ hi) (h : v ≤ w) : clamp v lo hi ≤ clamp w lo hi := by
  unfold clamp
  by_cases hv : v < lo
  · rw [if_pos hv]
    exact (clamp_mem w hlim).1
  · rw [if_neg hv, if_neg (fun hw => hv (h.trans_lt hw))]
    by_cases hw : hi < w
    · rw [if_pos hw]
      split
      · exact le_rfl
      next hle => exact not_lt.mp hle
    · rw [if_neg hw, if_neg (fun hv' => hw (hv'.trans_le h))]
      exact h

/-- Truncation keeps the order, and the word is wide enough for the limits. -/
theorem clampedAngle_mono {v w : ℚ} (h : v ≤ w) : clampedAngle v ≤ clampedAngle w := by
  have hlim : ((regMinOpenAngle.toNat : ℕ) : ℚ) ≤ (regMaxOpenAngle.toNat : ℕ) := by decide +kernel
  have hfloor := Int.floor_le_floor (clamp_mono hlim h)
  have hmax : ∀ v : ℚ, ⌊clamp v regMinOpenAngle.toNat regMaxOpenAngle.toNat⌋ ≤ 580 := by
    intro v
    have hhi := (clamp_mem v hlim).2
    exact Int.cast_le.mp ((Int.floor_le _).trans (hhi.trans (by decide +kernel)))
  have hv := hmax v
  have hw := hmax w
  unfold clampedAngle
  rw [UInt32.le_iff_toNat_le, UInt32.toNat_ofNat', UInt32.toNat_ofNat',
    Nat.mod_eq_of_lt (by omega), Nat.mod_eq_of_lt (by omega)]
  omega

end Greg

/-- The control law pushes the right way: a higher feedback pressure never
opens the valve, a lower nitrogen pressure never closes it while the feedback
is at or below its setpoint, and the angle is between its limits. -/
theorem nextAngle_direction {σ : Type} :
    (∀ g g' : Greg σ, g'.n2P = g.n2P → g.feedbackP ≤ g'.feedbackP →
      g'.nextAngle.1 ≤ g.nextAngle.1) ∧
    (∀ g g' : Greg σ, g'.feedbackP = g.feedbackP → g.feedbackP ≤ pSetpoint → g.n2P ≤ g'.n2P →
      g'.nextAngle.1 ≤ g.nextAngle.1) ∧
    ∀ g : Greg σ, regMinOpenAngle ≤ g.nextAngle.1 ∧ g.nextAngle.1 ≤ regMaxOpenAngle := by
  refine ⟨?_, ?_, Greg.nextAngle_mem⟩
  · intro g g' hn hp
    rw [Greg.nextAngle_eq, Greg.nextAngle_eq]
    refine Greg.clampedAngle_mono ?_
    have hkp : g'.kp.1 = g.kp.1 := by rw [Greg.kp_eq, Greg.kp_eq, hn]
    have hff : g'.feedforward.1 = g.feedforward.1 := by
      rw [Greg.feedforward_eq, Greg.feedforward_eq, hn]
    have hpos := g.kp_nonneg
    unfold Greg.targetAngleScaled
    rw [hkp, hff]
    gcongr
  · intro g g' hp hset hn
    rw [Greg.nextAngle_eq, Greg.nextAngle_eq]
    refine Greg.clampedAngle_mono ?_
    obtain ⟨hkp, hff⟩ := Greg.gains_antitone hn
    -- the error is not negative, so a lower gain gives a lower term
    have herror : 0 ≤ pSetpoint - g.feedbackP := sub_nonneg.mpr hset
    unfold Greg.targetAngleScaled
    rw [hp]
    gcongr

/-! ## What is reported -/

namespace Greg

variable {σ : Type}

/-- `NRCGreg::getFF` -/
def getFF (g : Greg σ) : ℚ := g.savedFF

/-- `NRCGreg::getKp` -/
def getKp (g : Greg σ) : ℚ := g.savedKp

/-- `NRCGreg::getPAngle` -/
def getPAngle (g : Greg σ) : ℚ := g.pAngle

/-- A call saves its two gains above the guard, and neither below it; its
proportional term it saves always. -/
theorem nextAngle_saved (g : Greg σ) :
    g.nextAngle.2.getPAngle = g.kp.1 * (pSetpoint - g.feedbackP) ∧
      if 1 < g.n2P then
        g.nextAngle.2.getFF = g.feedforward.1 ∧ g.nextAngle.2.getKp = g.kp.1
      else g.nextAngle.2.getFF = g.getFF ∧ g.nextAngle.2.getKp = g.getKp := by
  unfold nextAngle getPAngle getFF getKp feedforward kp
  by_cases h : g.n2P ≤ 1
  · simp only [if_pos h, if_neg (not_lt.mpr h), and_self]
  · simp only [if_neg h, if_pos (not_le.mp h), and_self]

end Greg

/-- One call of `nextAngle`, at a pair of readings. -/
def stepAngle {σ : Type} (g : Greg σ) (r : ℚ × ℚ) : Greg σ := (g.sense r.1 r.2).nextAngle.2

/-- What a call leaves to be reported is what it used, and gives its angle. -/
structure Reported {σ : Type} (g : Greg σ) (r : ℚ × ℚ) : Prop where
  ff : (stepAngle g r).getFF = (g.sense r.1 r.2).feedforward.1
  kp : (stepAngle g r).getKp = (g.sense r.1 r.2).kp.1
  pAngle : (stepAngle g r).getPAngle = (g.sense r.1 r.2).kp.1 * (pSetpoint - r.1)
  angle : (g.sense r.1 r.2).nextAngle.1 = Greg.clampedAngle
    (10 * ((stepAngle g r).getKp * (pSetpoint - r.1) + (stepAngle g r).getFF))

/-- No call saves the constant the low-pressure branch of `Kp` returns. -/
theorem stepAngle_getKp {σ : Type} {g : Greg σ} (h : g.getKp ≠ ffMax) (r : ℚ × ℚ) :
    (stepAngle g r).getKp ≠ ffMax := by
  have hsaved := (g.sense r.1 r.2).nextAngle_saved.2
  split at hsaved
  next hgt =>
    have hhi := ((g.sense r.1 r.2).kp_mem_iff.mpr hgt).2
    rw [stepAngle, hsaved.2]
    exact (hhi.trans_lt (by norm_num [kpMax, ffMax])).ne
  next =>
    rw [stepAngle, hsaved.2]
    exact h

theorem reported_iff_step {σ : Type} {g : Greg σ} (h : g.getKp ≠ ffMax) (r : ℚ × ℚ) :
    Reported g r ↔ 1 < r.2 := by
  have hsaved := (g.sense r.1 r.2).nextAngle_saved
  constructor
  · intro hrep
    by_contra hle
    -- a stale gain is reported, where the branch returned the constant
    have hstale := hsaved.2
    rw [if_neg (show ¬1 < (g.sense r.1 r.2).n2P from hle)] at hstale
    have hused : (g.sense r.1 r.2).kp.1 = ffMax := by
      rw [Greg.kp_eq]
      exact kpSchedule.eval_of_le (not_lt.mp hle)
    have hkp := hrep.kp
    rw [stepAngle, hstale.2, hused] at hkp
    exact h hkp
  · intro hgt
    have hfresh := hsaved.2
    rw [if_pos (show 1 < (g.sense r.1 r.2).n2P from hgt)] at hfresh
    obtain ⟨hff, hkp⟩ := hfresh
    refine ⟨hff, hkp, hsaved.1, ?_⟩
    rw [Greg.nextAngle_eq, Greg.targetAngleScaled, stepAngle, hff, hkp, mul_comm]
    rfl

/-- After every call of a sequence the reported terms are the ones the call
used exactly when every call finds the nitrogen pressure above the guard. -/
theorem reported_iff {σ : Type} [SystemStatus σ] (disarmed : Bool) (now : UInt32)
    (rs : List (ℚ × ℚ)) :
    EachStep stepAngle Reported (Greg.constructed disarmed now : Greg σ) rs ↔
      ∀ r ∈ rs, 1 < r.2 := by
  have hsteps : EachStep stepAngle Reported (Greg.constructed disarmed now : Greg σ) rs ↔
      EachStep stepAngle (fun _ r => 1 < r.2) (Greg.constructed disarmed now : Greg σ) rs :=
    eachStep_congr (J := fun g => g.getKp ≠ ffMax) (fun g r hg _ => reported_iff_step hg r)
      (fun g r hg _ _ => stepAngle_getKp hg r)
      (show (0 : ℚ) ≠ ffMax by norm_num [ffMax]) (eachStep_true _ rs)
  rw [hsteps, eachStep_event]

/-- The gain of the first call is reported after the second, which used the
constant. -/
theorem reported_fails :
    ¬EachStep stepAngle Reported (Greg.constructed true 0 : Greg StatusWord)
      [(10, 100), (10, 0)] := by
  intro hclaim
  have hlast := eachStep_iff_split.mp hclaim [(10, 100)] (10, 0) [] rfl
  exact absurd hlast.kp (by decide +kernel)

end Heimdall
