import Heimdall.Greg.Types
import Mathlib.Data.Rat.Floor
import Mathlib.Tactic.Linarith

/-!
# The control law

`NRCGreg::feedforward`, `Kp` and `nextAngle` of `ncrgreg.cpp`, with the
parameters of `nrcgreg.h`, in exact rational arithmetic. The two gains save
what they compute on the way (`m_savedFF`, `m_savedKp`), except on their
low-pressure branch, and `nextAngle` saves its proportional term, so all three
return the controller they leave behind.

`nextAngle_mem` is what the safety arguments use of it: whatever the readings,
the angle is between the two hardware limits it is clamped to.
-/

namespace Heimdall

/-! ## Parameters -/

def ffMin : ℚ := 41
def ffMax : ℚ := 57
def ff0 : ℚ := 34
def ffAlpha : ℚ := 8608

def kpMin : ℚ := 2
def kpMax : ℚ := 3
def kp0 : ℚ := 1143 / 1000
def kpBeta : ℚ := 2229 / 10

def pSetpoint : ℚ := 50
def pPressExtra : ℚ := 3 / 2

def pDisconnect : ℚ := -10
def pHalfAbort : ℚ := 115 / 2
def pFullAbort : ℚ := 63

/-! Hardware limits, in tenths of a degree. -/

def regClosedAngle : UInt32 := 0
def regMaxOpenAngle : UInt32 := 580
def regMaxOpenFirstStart : UInt32 := 500
def regMinOpenAngle : UInt32 := 410

/-- `m_FF_min * 10`, as `halfabort()` passes it to the state's `uint32_t`. -/
def halfAbortAngle : UInt32 := UInt32.ofNat ⌊ffMin * 10⌋.toNat

/-- A `uint32_t` angle as the value of an argument expression. -/
def angleOf (a : UInt32) : Int := a.toNat

/-- The angle the valve is closed at. -/
def closedAngle : Int := angleOf regClosedAngle

@[simp] theorem angleOf_eq_closed {a : UInt32} : angleOf a = closedAngle ↔ a = 0 := by
  rw [closedAngle, angleOf, angleOf, Int.ofNat_inj, UInt32.toNat_inj]
  rfl

/-! ## The law -/

namespace Greg

variable {σ : Type}

/-- `NRCGreg::feedforward` -/
def feedforward (g : Greg σ) : ℚ × Greg σ :=
  if g.n2P ≤ 1 then (ffMax, g)
  else
    let ff := max (min (ff0 + ffAlpha / g.n2P) ffMax) ffMin
    (ff, { g with savedFF := ff })

/-- `NRCGreg::Kp`; its low-pressure branch returns the feedforward's limit. -/
def kp (g : Greg σ) : ℚ × Greg σ :=
  if g.n2P ≤ 1 then (ffMax, g)
  else
    let kp := max (min (kp0 + kpBeta / g.n2P) kpMax) kpMin
    (kp, { g with savedKp := kp })

/-- `std::clamp` -/
def clamp (v lo hi : ℚ) : ℚ := if v < lo then lo else if hi < v then hi else v

/-- `NRCGreg::nextAngle`. The cast of the clamped angle drops its fraction. -/
def nextAngle (g : Greg σ) : UInt32 × Greg σ :=
  let error := pSetpoint - g.feedbackP
  let (k, g) := g.kp
  let g := { g with pAngle := k * error }
  let (ff, g) := g.feedforward
  let targetAngleScaled := (g.pAngle + ff) * 10
  let clampedAngle := clamp targetAngleScaled regMinOpenAngle.toNat regMaxOpenAngle.toNat
  (UInt32.ofNat ⌊clampedAngle⌋.toNat, g)

/-! ## What the law keeps -/

/-- Computing an angle only changes what the controller saves for telemetry. -/
theorem nextAngle_snd (g : Greg σ) :
    ∃ ff kp pAngle, g.nextAngle.2 = { g with savedFF := ff, savedKp := kp, pAngle := pAngle } := by
  unfold nextAngle feedforward kp
  by_cases h : g.n2P ≤ 1
  · simp only [if_pos h]
    exact ⟨_, _, _, rfl⟩
  · simp only [if_neg h]
    exact ⟨_, _, _, rfl⟩

/-- The angle depends on the two readings only. -/
theorem nextAngle_congr {g g' : Greg σ} (hp : g'.feedbackP = g.feedbackP) (hn : g'.n2P = g.n2P) :
    g'.nextAngle.1 = g.nextAngle.1 := by
  unfold nextAngle feedforward kp
  by_cases h : g.n2P ≤ 1
  · simp only [hn, hp, if_pos h]
  · simp only [hn, hp, if_neg h]

theorem clamp_mem (v : ℚ) {lo hi : ℚ} (h : lo ≤ hi) : lo ≤ clamp v lo hi ∧ clamp v lo hi ≤ hi := by
  unfold clamp
  split
  · exact ⟨le_refl lo, h⟩
  next hlo =>
    split
    · exact ⟨h, le_refl hi⟩
    next hhi => exact ⟨not_lt.mp hlo, not_lt.mp hhi⟩

/-- The angle the law asks for is between the hardware limits, whatever the
sensors read. -/
theorem nextAngle_mem (g : Greg σ) :
    regMinOpenAngle ≤ g.nextAngle.1 ∧ g.nextAngle.1 ≤ regMaxOpenAngle := by
  have key : ∀ v : ℚ, 410 ≤ ⌊clamp v 410 580⌋ ∧ ⌊clamp v 410 580⌋ ≤ 580 := by
    intro v
    obtain ⟨hlo, hhi⟩ := clamp_mem v (show (410 : ℚ) ≤ 580 by norm_num)
    refine ⟨Int.le_floor.mpr (by exact_mod_cast hlo), ?_⟩
    exact Int.cast_le.mp ((Int.floor_le _).trans (by exact_mod_cast hhi))
  have hclamp : ∃ v : ℚ, g.nextAngle.1 = UInt32.ofNat ⌊clamp v 410 580⌋.toNat := ⟨_, rfl⟩
  obtain ⟨v, hv⟩ := hclamp
  obtain ⟨hlo, hhi⟩ := key v
  have hnat : (UInt32.ofNat ⌊clamp v 410 580⌋.toNat).toNat = ⌊clamp v 410 580⌋.toNat := by
    rw [UInt32.toNat_ofNat']
    exact Nat.mod_eq_of_lt (by omega)
  rw [hv, UInt32.le_iff_toNat_le, UInt32.le_iff_toNat_le, hnat]
  show 410 ≤ _ ∧ _ ≤ 580
  omega

end Greg

end Heimdall
