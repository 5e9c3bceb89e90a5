import Heimdall.Board.Loop

/-!
# Power-good supervision

The supervision in `SiC43x::update` does what it is for: with a PGOOD pin, the
flag after an update is the pin's level turned round (`flagSet_update_pGood`).
The board constructs its converter with that pin, and then calls neither `setup`
nor `update` on it. Everything its loop does leaves `ERROR_PGOOD` alone
(`flagSet_systemUpdate`), so the flag is right in the cycles whose level is
high and wrong in all others (`pGoodTracked_iff`).
-/

namespace Heimdall

open EventRun

variable {σ τ : Type} [SystemFlags τ]

/-- An update of a converter with a PGOOD pin, whatever else it finds. -/
theorem SiC43x.flagSet_update_pGood {c : SiC43x τ} (hpin : 0 ≤ c.pGoodPin) (i : BuckInputs) :
    (c.update i).systemstatus.flagSet .errorPGood = !i.pGood := by
  have hpin' : 0 ≤ (c.checkVoltage i).pGoodPin := by
    unfold checkVoltage
    split <;> exact hpin
  rw [(c.sameSense_update i).systemstatus, checkPGood, if_pos hpin']
  dsimp only
  rw [CoreStatus.flagSet_supervise]
  · cases i.pGood <;> rfl
  · exact fun hhigh => (congrArg (!·) hhigh).trans rfl

namespace Board

/-! ## What the loop does to the status -/

theorem systemstatus_foldl_setEN {τ : Type} (levels : List Bool) (c : SiC43x τ) :
    (levels.foldl (fun c level => c.setEN level) c).systemstatus = c.systemstatus := by
  induction levels generalizing c with
  | nil => rfl
  | cons level levels ih => exact ih (c.setEN level)

@[simp] theorem systemstatus_followEN {τ : Type} (b : Board σ τ) :
    b.followEN.systemstatus = b.systemstatus :=
  systemstatus_foldl_setEN _ _

theorem systemstatus_logTelemetry {τ : Type} (now : UInt64) (b : Board σ τ) :
    (b.logTelemetry now).systemstatus = b.systemstatus := by
  unfold logTelemetry
  split <;> rfl

/-- Logging reports with the flag of the card only. -/
theorem flagSet_logReadings {flag : SystemFlag} (h : flag ≠ .errorSD) (now : UInt64)
    (sdError : UInt8) (b : Board σ τ) :
    (b.logReadings now sdError).systemstatus.flagSet flag = b.systemstatus.flagSet flag := by
  rw [← b.systemstatus_logTelemetry now]
  unfold logReadings reportSD
  split
  · exact CoreStatus.flagSet_newFlag_ne _ h _
  · rfl

variable [SystemStatus σ]

/-- So does a whole cycle. -/
theorem flagSet_systemUpdate {flag : SystemFlag} (h : flag ≠ .errorSD) (libs : BoardLibs τ)
    (b : Board σ τ) (i : CycleInputs) :
    (b.systemUpdate libs i).systemstatus.flagSet flag = b.systemstatus.flagSet flag := by
  unfold systemUpdate heimdallUpdate
  rw [systemstatus_followEN]
  exact flagSet_logReadings h i.micros i.sdError _

/-- The setup reports the idle state, the bus and the card. -/
theorem flagSet_setup {flag : SystemFlag} (hidle : flag ≠ .stateIdle) (hcan : flag ≠ .errorCAN)
    (hsd : flag ≠ .errorSD) (libs : BoardLibs τ) (begins : Bool) (now : UInt32) :
    (setup libs begins now : Board σ τ).systemstatus.flagSet flag = false := by
  have hbus : (libs.canbusSetup (CoreStatus.cleared.initializeState .stateIdle)).flagSet flag =
      false := by
    rw [libs.canbusSetup_own _ _ hcan, CoreStatus.flagSet_initializeState_ne _ hidle,
      CoreStatus.flagSet_cleared]
  unfold setup systemSetup heimdallSetup
  rw [systemstatus_followEN]
  unfold primarysdSetup
  cases begins with
  | true => exact hbus
  | false => exact (CoreStatus.flagSet_newFlag_ne _ hsd _).trans hbus

end Board

/-! ## Whole runs -/

variable [SystemStatus σ]

/-- After the cycle the flag says whether the level was low in it. -/
def PGoodTracked (libs : BoardLibs τ) (b : Board σ τ) (i : CycleInputs) : Prop :=
  (b.systemUpdate libs i).systemstatus.flagSet .errorPGood = !i.pGood

theorem pGoodTracked_iff_step (libs : BoardLibs τ) {b : Board σ τ}
    (hclear : b.systemstatus.flagSet .errorPGood = false) (i : CycleInputs) :
    PGoodTracked libs b i ↔ i.pGood = true := by
  unfold PGoodTracked
  rw [Board.flagSet_systemUpdate (by decide), hclear]
  cases i.pGood <;> decide

/-- Over every run of the board's loop the flag follows the level exactly when
the level is high in every cycle. -/
theorem pGoodTracked_iff (libs : BoardLibs τ) (begins : Bool) (now : UInt32)
    (is : List CycleInputs) :
    EachStep (Board.systemUpdate libs) (PGoodTracked libs)
        (Board.setup libs begins now : Board σ τ) is ↔
      ∀ i ∈ is, i.pGood = true := by
  have hevents : EachStep (Board.systemUpdate libs) (fun _ i => i.pGood = true)
      (Board.setup libs begins now : Board σ τ) is ↔ ∀ i ∈ is, i.pGood = true := eachStep_event
  rw [← hevents]
  refine eachStep_congr (J := fun b => b.systemstatus.flagSet .errorPGood = false)
    (fun _ i hb _ => pGoodTracked_iff_step libs hb i) (fun b i hb _ _ => ?_)
    (Board.flagSet_setup (by decide) (by decide) (by decide) libs begins now) (eachStep_true _ is)
  rw [Board.flagSet_systemUpdate (by decide)]
  exact hb

/-- One cycle of a board whose PGOOD is low. -/
theorem pGoodTracked_fails :
    ¬EachStep (Board.systemUpdate plainLibs) (PGoodTracked plainLibs)
      (Board.setup plainLibs true 0 : Board StatusWord SystemWord)
      [⟨10, 10000, fun _ => 0, 20, 20, 0, false⟩] := by
  intro hclaim
  have hclear : (Board.setup plainLibs true 0 : Board StatusWord SystemWord).systemstatus.flagSet
      .errorPGood = false :=
    Board.flagSet_setup (by decide) (by decide) (by decide) plainLibs true 0
  exact absurd ((pGoodTracked_iff_step plainLibs hclear _).mp hclaim.1) (by decide)

end Heimdall
