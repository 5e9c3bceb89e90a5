import Heimdall.Buck.SiC43x
import Heimdall.Lib.EventRun
import Heimdall.Lib.Latch

/-!
# The rail-voltage fault

`ERROR_VBOUNDS` is judged anew at every voltage `update` looks at
(`flagSet_update`). On a voltage that is a number the judgement is the latch of a
band (`judge_eq_bandLatch`). The monitor stores millivolts and the latch has the
limits 4 and 12, so it is the latch of a band a thousand times too low: the two
agree on voltages outside both bands and on nothing inside either. Before the
monitor has stored anything, `update` looks at a member without an initialiser,
which need not be a number. `vBoundsTracks_iff` collects the calls that go wrong.
-/

namespace Heimdall

open Binary32 EventRun Latch

variable {τ : Type}

/-- The rail voltage an update stores, if the monitor takes a sample. -/
def SiC43x.stored (c : SiC43x τ) (i : BuckInputs) : Option ℚ :=
  if c.servoVoltage.samples i.millis then
    some (value (c.servoVoltage.voltage i.reading i.overflow))
  else none

/-- The most recent rail voltage off the limits is outside the band from 4 V to
12 V, in the monitor's millivolts. -/
def railFlag (rails : List ℚ) : Bool :=
  ((lastOffBand 4000 12000 rails).map fun v => decide (12000 < v ∨ v < 4000)).getD false

/-- It is the latch of that band. -/
theorem railFlag_eq_foldl (rails : List ℚ) :
    railFlag rails = rails.foldl (bandLatch 4000 12000) false :=
  (foldl_bandLatch (by decide +kernel) false rails).symm

theorem railFlag_concat (rails : List ℚ) (v : ℚ) :
    railFlag (rails ++ [v]) = bandLatch 4000 12000 (railFlag rails) v := by
  rw [railFlag_eq_foldl, railFlag_eq_foldl, List.foldl_append]
  rfl

/-- The flag after a look at the output voltage. -/
def judge (flag : Bool) (v : Float32) : Bool :=
  if v > 12 ∨ v < 4 then true else if v < 12 ∧ v > 4 then false else flag

/-- A second look at the same voltage does not move it. -/
theorem judge_judge (flag : Bool) (v : Float32) : judge (judge flag v) v = judge flag v := by
  unfold judge
  split_ifs <;> rfl

/-- On a number the judgement is the latch of the band from 4 to 12. -/
theorem judge_eq_bandLatch {v : Float32} (hv : v.isFinite = true) (flag : Bool) :
    judge flag v = bandLatch 4 12 flag (value v) := by
  have hlo : value 4 = 4 := by decide +kernel
  have hhi : value 12 = 12 := by decide +kernel
  have hfour : Float32.isFinite 4 = true := by decide +kernel
  have htwelve : Float32.isFinite 12 = true := by decide +kernel
  simp only [judge, bandLatch, gt_iff_lt, lt_iff_value_lt, hv, hfour, htwelve, hlo, hhi]

variable [SystemFlags τ]

namespace SiC43x

/-! ## What an update does -/

/-- The power-good supervision touches neither the voltage nor its pin. -/
theorem checkPGood_voltage (level : Bool) (c : SiC43x τ) :
    (c.checkPGood level).vReadPin = c.vReadPin ∧ (c.checkPGood level).outputV = c.outputV := by
  unfold checkPGood
  split <;> exact ⟨rfl, rfl⟩

theorem vReadPin_update (i : BuckInputs) (c : SiC43x τ) : (c.update i).vReadPin = c.vReadPin := by
  rw [(c.sameSense_update i).vReadPin, (checkPGood_voltage _ _).1]
  unfold checkVoltage
  split <;> rfl

theorem outputV_update {c : SiC43x τ} (hpin : 0 ≤ c.vReadPin) (i : BuckInputs) :
    (c.update i).outputV =
      (c.servoVoltage.update i.millis i.reading i.overflow c.outputV).2 := by
  rw [(c.sameSense_update i).outputV, (checkPGood_voltage _ _).2, checkVoltage, if_pos hpin]

/-- An update that stores a voltage leaves it to be looked at, -/
theorem outputV_of_stored {c : SiC43x τ} (hpin : 0 ≤ c.vReadPin) {i : BuckInputs} {v : ℚ}
    (h : c.stored i = some v) :
    (c.update i).outputV.isFinite = true ∧ value (c.update i).outputV = v := by
  unfold stored at h
  split at h
  · rename_i hsamples
    rw [outputV_update hpin, ADCVRailMonitor.update_snd, if_pos hsamples]
    exact ⟨c.servoVoltage.isFinite_voltage _ _, Option.some.inj h⟩
  · cases h

/-- and one that stores none leaves the last. -/
theorem outputV_of_not_stored {c : SiC43x τ} (hpin : 0 ≤ c.vReadPin) {i : BuckInputs}
    (h : c.stored i = none) : (c.update i).outputV = c.outputV := by
  unfold stored at h
  split at h
  · cases h
  · rename_i hskips
    rw [outputV_update hpin, ADCVRailMonitor.update_snd, if_neg hskips]

/-- The flag judges the voltage the update leaves. -/
theorem flagSet_update {c : SiC43x τ} (hpin : 0 ≤ c.vReadPin) (i : BuckInputs) :
    (c.update i).systemstatus.flagSet .errorVBounds =
      judge (c.systemstatus.flagSet .errorVBounds) (c.update i).outputV := by
  rw [(c.sameSense_update i).systemstatus, flagSet_checkPGood_ne (by decide), outputV_update hpin,
    checkVoltage, if_pos hpin]
  dsimp only
  rw [CoreStatus.flagSet_supervise]
  · simp only [decide_eq_true_iff, judge]
  · simp only [decide_eq_true_iff, decide_eq_false_iff_not]
    intro hin hout
    exact hout.elim (lt_asymm hin.1) (lt_asymm hin.2)

end SiC43x

/-! ## Whole runs -/

/-- The converter, with the rail voltages stored so far, oldest first. -/
def stepRail (s : SiC43x τ × List ℚ) (i : BuckInputs) : SiC43x τ × List ℚ :=
  (s.1.update i, s.2 ++ (s.1.stored i).toList)

/-- After the update the flag says where the last rail voltage off the limits was. -/
def VBoundsTracks (s : SiC43x τ × List ℚ) (i : BuckInputs) : Prop :=
  (s.1.update i).systemstatus.flagSet .errorVBounds = railFlag (stepRail s i).2

/-- The update stores a voltage inside one of the bands from 4 to 12 and from
4000 to 12000, or on a limit of one while the flag is not set; or nothing is
stored yet and the uninitialised voltage is outside the lower band. -/
def Misjudges (s : SiC43x τ × List ℚ) (i : BuckInputs) : Prop :=
  match s.1.stored i with
  | some v =>
    (4 < v ∧ v < 12) ∨ (4000 < v ∧ v < 12000) ∨
      ((v = 4 ∨ v = 12) ∨ (v = 4000 ∨ v = 12000)) ∧
        s.1.systemstatus.flagSet .errorVBounds = false
  | none => s.2 = [] ∧ (s.1.outputV > 12 ∨ s.1.outputV < 4)

/-- The flag has been right so far, and looking at the voltage stored last once
more would not move it. -/
structure Judged (s : SiC43x τ × List ℚ) : Prop where
  pin : 0 ≤ s.1.vReadPin
  flag : s.1.systemstatus.flagSet .errorVBounds = railFlag s.2
  again : s.2 ≠ [] → judge (s.1.systemstatus.flagSet .errorVBounds) s.1.outputV =
    s.1.systemstatus.flagSet .errorVBounds

theorem vBoundsTracks_iff_step {s : SiC43x τ × List ℚ} (h : Judged s) (i : BuckInputs) :
    VBoundsTracks s i ↔ ¬Misjudges s i := by
  unfold VBoundsTracks Misjudges stepRail
  rw [SiC43x.flagSet_update h.pin]
  cases hstored : s.1.stored i with
  | some v =>
    obtain ⟨hfinite, hvalue⟩ := SiC43x.outputV_of_stored h.pin hstored
    dsimp only [Option.toList]
    rw [judge_eq_bandLatch hfinite, hvalue, railFlag_concat, ← h.flag]
    exact bandLatch_eq_iff (by decide +kernel) (by decide +kernel) (by decide +kernel) _ v
  | none =>
    dsimp only [Option.toList]
    rw [SiC43x.outputV_of_not_stored h.pin hstored, List.append_nil, ← h.flag]
    by_cases hnew : s.2 = []
    · -- the member still holds what the memory did
      have hclear : s.1.systemstatus.flagSet .errorVBounds = false := by
        rw [h.flag, hnew]
        rfl
      rw [hclear]
      by_cases hout : s.1.outputV > 12 ∨ s.1.outputV < 4
      · rw [judge, if_pos hout]
        exact iff_of_false (by decide) fun hnot => hnot ⟨hnew, hout⟩
      · rw [judge, if_neg hout, ite_self]
        exact iff_of_true rfl fun hmis => hout hmis.2
    · exact iff_of_true (h.again hnew) fun hmis => hnew hmis.1

theorem judged_step {s : SiC43x τ × List ℚ} (h : Judged s) {i : BuckInputs}
    (htracks : VBoundsTracks s i) : Judged (stepRail s i) where
  pin := (SiC43x.vReadPin_update i s.1).symm ▸ h.pin
  flag := htracks
  again := by
    intro _
    show judge ((s.1.update i).systemstatus.flagSet .errorVBounds) (s.1.update i).outputV =
      (s.1.update i).systemstatus.flagSet .errorVBounds
    rw [SiC43x.flagSet_update h.pin, judge_judge]

/-- Over every run of updates from a converter with a voltage pin and no fault
reported, the flag is right after each update exactly when none misjudges. -/
theorem vBoundsTracks_iff (c : SiC43x τ) (hpin : 0 ≤ c.vReadPin)
    (hclear : c.systemstatus.flagSet .errorVBounds = false) (is : List BuckInputs) :
    EachStep stepRail VBoundsTracks (c, []) is ↔
      EachStep stepRail (fun s i => ¬Misjudges s i) (c, []) is :=
  eachStep_congr (fun _ i hs _ => vBoundsTracks_iff_step hs i)
    (fun _ i hs _ hnot => judged_step hs ((vBoundsTracks_iff_step hs i).mpr hnot))
    (J := Judged) ⟨hpin, hclear, fun hne => absurd rfl hne⟩ (eachStep_true _ is)

/-- A converter set up with its voltage on pin 1, one to one. -/
def railBuck : SiC43x SystemWord :=
  (SiC43x.new .cleared (-1) (-1) false false 1 0 1 .zero).setup false

/-- 13 V and then 15 V is a fault, in either unit. -/
theorem vBoundsTracks_high :
    EachStep stepRail VBoundsTracks (railBuck, []) [⟨20, true, 13000, 0⟩, ⟨25, true, 15000, 0⟩] := by
  have hfirst : railBuck.stored ⟨20, true, 13000, 0⟩ = some 13000 := by decide +kernel
  have hsecond : (railBuck.update ⟨20, true, 13000, 0⟩).stored ⟨25, true, 15000, 0⟩ = some 15000 := by
    decide +kernel
  refine (vBoundsTracks_iff railBuck (by decide) (by decide) _).mpr ⟨?_, ?_, trivial⟩
  · show ¬Misjudges (railBuck, []) _
    rw [Misjudges, hfirst]
    decide +kernel
  · show ¬Misjudges (stepRail (railBuck, []) _) _
    rw [Misjudges, stepRail, hsecond]
    decide +kernel

/-- 5 V is inside the band, and is reported. -/
theorem vBoundsTracks_fails :
    ¬EachStep stepRail VBoundsTracks (railBuck, []) [⟨20, true, 5000, 0⟩] := by
  intro hclaim
  have htracks := hclaim.1
  unfold VBoundsTracks at htracks
  exact absurd htracks (by decide +kernel)

end Heimdall
