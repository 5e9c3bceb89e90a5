import Heimdall.Greg.Transition
import Heimdall.Lib.Latch

/-!
# What the pressure checks do

Each check writes one flag and reads at most a few others (`WritesFlag`), so a
check is known by what it leaves in its flag. The two overpressure checks are
latches (`Lib/Latch.lean`), and one with a flag of its own would report the
side of its limit the readings were last on (`checkOverPressure_history`).

`checkHOverPressure` is handed the critical flag, so two latches share it, and
`latch_latch` collapses them: after the checks `ERROR_FBP_COVP` says whether
the pressure is above the *half-abort* limit (`checkSensors_covp`), and
`ERROR_CRITICALOVP` latches that (`checkFlags_critical`). `ERROR_FBP_HOVP` and
`ERROR_HALFABORT` are written by nothing.
-/

namespace Heimdall

open Latch

/-! ## Frame of the checks -/

/-- `g'` is `g` after calls on the status word only. -/
structure FlagsOnly {σ : Type} (g g' : Greg σ) : Prop where
  frame : Frame g g'
  machine : g'.machine = g.machine
  adapter : g'.adapter = g.adapter
  buckEN : g'.buckEN = g.buckEN
  prevBuckTime : g'.prevBuckTime = g.prevBuckTime
  buckOffTime : g'.buckOffTime = g.buckOffTime
  sent : g'.sent = g.sent

theorem FlagsOnly.refl {σ : Type} (g : Greg σ) : FlagsOnly g g :=
  ⟨Frame.refl g, rfl, rfl, rfl, rfl, rfl, rfl⟩

theorem FlagsOnly.trans {σ : Type} {g₁ g₂ g₃ : Greg σ} (h : FlagsOnly g₁ g₂)
    (h' : FlagsOnly g₂ g₃) : FlagsOnly g₁ g₃ :=
  ⟨h.frame.trans h'.frame, h'.machine.trans h.machine, h'.adapter.trans h.adapter,
    h'.buckEN.trans h.buckEN, h'.prevBuckTime.trans h.prevBuckTime,
    h'.buckOffTime.trans h.buckOffTime, h'.sent.trans h.sent⟩

/-- The limit that trips is below the one it stands in for. -/
theorem pHalfAbort_lt : pHalfAbort < pFullAbort := by norm_num [pHalfAbort, pFullAbort]

namespace Greg

variable {σ : Type}

theorem dcCount_flagsOnly (n : UInt8) (g : Greg σ) : FlagsOnly g { g with dcCount := n } :=
  ⟨⟨rfl, rfl, rfl, rfl, rfl⟩, rfl, rfl, rfl, rfl, rfl, rfl⟩

variable [SystemStatus σ]

theorem newFlag_flagsOnly (f : GregFlags) (info : String) (g : Greg σ) :
    FlagsOnly g (g.newFlag f info) :=
  ⟨⟨rfl, rfl, rfl, rfl, rfl⟩, rfl, rfl, rfl, rfl, rfl, rfl⟩

theorem deleteFlag_flagsOnly (f : GregFlags) (info : String) (g : Greg σ) :
    FlagsOnly g (g.deleteFlag f info) :=
  ⟨⟨rfl, rfl, rfl, rfl, rfl⟩, rfl, rfl, rfl, rfl, rfl, rfl⟩

/-- `g'` is `g` after a check of the flag `f`: nothing called, or `f` raised or
lowered, with whatever that does to the disconnect counter. -/
inductive WritesFlag (f : GregFlags) (g : Greg σ) : Greg σ → Prop
  | leaves : WritesFlag f g g
  | raises (info : String) (n : UInt8) : WritesFlag f g { g.newFlag f info with dcCount := n }
  | lowers (info : String) (n : UInt8) : WritesFlag f g { g.deleteFlag f info with dcCount := n }

theorem checkDisconnect_writes (v : ℚ) (f : GregFlags) (name : String) (g : Greg σ) :
    WritesFlag f g (g.checkDisconnect v f name) := by
  unfold checkDisconnect
  split
  · split
    · exact .raises _ _
    · exact .leaves
  · split
    · exact .lowers _ _
    · exact .leaves

theorem checkOverPressure_writes (lim : ℚ) (above below : String) (v : ℚ) (f : GregFlags)
    (name : String) (g : Greg σ) :
    WritesFlag f g (g.checkOverPressure lim above below v f name) := by
  unfold checkOverPressure
  split
  · split
    · exact .raises _ g.dcCount
    · exact .leaves
  · split
    · exact .lowers _ g.dcCount
    · exact .leaves

theorem checkGenericPTFlag_writes (f : GregFlags) (name : String) (fs : List GregFlags)
    (g : Greg σ) : WritesFlag f g (g.checkGenericPTFlag f name fs) := by
  unfold checkGenericPTFlag
  split
  · exact .raises _ g.dcCount
  · split
    · exact .lowers _ g.dcCount
    · exact .leaves

theorem raiseCritical_writes (g : Greg σ) : WritesFlag .errorCriticalOVP g g.raiseCritical := by
  unfold raiseCritical
  split
  · exact .raises _ g.dcCount
  · exact .leaves

theorem WritesFlag.flagsOnly {f : GregFlags} {g g' : Greg σ} (h : WritesFlag f g g') :
    FlagsOnly g g' := by
  cases h with
  | leaves => exact FlagsOnly.refl g
  | raises info n => exact (newFlag_flagsOnly f info g).trans (dcCount_flagsOnly n _)
  | lowers info n => exact (deleteFlag_flagsOnly f info g).trans (dcCount_flagsOnly n _)

theorem checkSensors_flagsOnly (g : Greg σ) : FlagsOnly g g.checkSensors :=
  (checkDisconnect_writes _ _ _ g).flagsOnly.trans <|
    (checkDisconnect_writes _ _ _ _).flagsOnly.trans <|
    (checkOverPressure_writes _ _ _ _ _ _ _).flagsOnly.trans <|
    (checkOverPressure_writes _ _ _ _ _ _ _).flagsOnly.trans <|
    (checkGenericPTFlag_writes _ _ _ _).flagsOnly.trans
      (checkGenericPTFlag_writes _ _ _ _).flagsOnly

/-! ## The flag a check writes, and the flags it leaves alone -/

theorem flagSet_newFlag (f : GregFlags) (info : String) (g : Greg σ) :
    (g.newFlag f info).flagSet f = true :=
  FlagStore.flagSet_newFlag_self g.status f

theorem flagSet_newFlag_ne {f k : GregFlags} (h : k ≠ f) (info : String) (g : Greg σ) :
    (g.newFlag f info).flagSet k = g.flagSet k :=
  FlagStore.flagSet_newFlag_ne g.status h

theorem flagSet_deleteFlag (f : GregFlags) (info : String) (g : Greg σ) :
    (g.deleteFlag f info).flagSet f = false :=
  FlagStore.flagSet_deleteFlag_self g.status f

theorem flagSet_deleteFlag_ne {f k : GregFlags} (h : k ≠ f) (info : String) (g : Greg σ) :
    (g.deleteFlag f info).flagSet k = g.flagSet k :=
  FlagStore.flagSet_deleteFlag_ne g.status h

theorem WritesFlag.flag_ne {f k : GregFlags} {g g' : Greg σ} (h : WritesFlag f g g')
    (hk : k ≠ f) : g'.flagSet k = g.flagSet k := by
  cases h with
  | leaves => rfl
  | raises info n => exact flagSet_newFlag_ne hk info g
  | lowers info n => exact flagSet_deleteFlag_ne hk info g

theorem checkOverPressure_flag (lim : ℚ) (above below : String) (v : ℚ) (f : GregFlags)
    (name : String) (g : Greg σ) :
    (g.checkOverPressure lim above below v f name).flagSet f = latch lim (g.flagSet f) v := by
  unfold checkOverPressure latch
  by_cases hgt : v > lim
  · rw [if_pos hgt, if_pos hgt]
    cases hf : g.flagSet f
    · exact flagSet_newFlag f _ g
    · exact hf
  · rw [if_neg hgt, if_neg hgt]
    -- below the limit, or exactly on it
    by_cases hlt : v < lim
    · rw [if_pos hlt]
      cases hf : g.flagSet f
      · rw [if_neg (by simp)]
        exact hf
      · rw [if_pos ⟨hlt, rfl⟩]
        exact flagSet_deleteFlag f _ g
    · rw [if_neg (fun h => hlt h.1), if_neg hlt]

/-- A check with a flag of its own remembers the side of the limit the last
reading off it was on, whatever the history of readings. -/
theorem checkOverPressure_history (lim : ℚ) (above below : String) (f : GregFlags) (name : String)
    (rs : List ℚ) (g : Greg σ) :
    (rs.foldl (fun g v => g.checkOverPressure lim above below v f name) g).flagSet f =
      ((lastOff lim rs).map fun v => decide (lim < v)).getD (g.flagSet f) := by
  have hfold : (rs.foldl (fun g v => g.checkOverPressure lim above below v f name) g).flagSet f =
      rs.foldl (latch lim) (g.flagSet f) := by
    induction rs generalizing g with
    | nil => rfl
    | cons v rs ih => rw [List.foldl_cons, List.foldl_cons, ih, checkOverPressure_flag]
  rw [hfold, foldl_latch]

theorem checkOverPressure_flag_ne (lim : ℚ) (above below : String) (v : ℚ) {f k : GregFlags}
    (h : k ≠ f) (name : String) (g : Greg σ) :
    (g.checkOverPressure lim above below v f name).flagSet k = g.flagSet k :=
  (checkOverPressure_writes lim above below v f name g).flag_ne h

/-- The disconnect check is a latch set below its limit. -/
theorem checkDisconnect_flag (v : ℚ) (f : GregFlags) (name : String) (g : Greg σ) :
    (g.checkDisconnect v f name).flagSet f = latchBelow pDisconnect (g.flagSet f) v := by
  unfold checkDisconnect latchBelow
  by_cases hlt : v < pDisconnect
  · rw [if_pos hlt, if_pos hlt]
    cases hf : g.flagSet f
    · exact flagSet_newFlag f (name ++ " disconnected!") g
    · exact hf
  · rw [if_neg hlt, if_neg hlt]
    by_cases hgt : pDisconnect < v
    · rw [if_pos hgt]
      cases hf : g.flagSet f
      · rw [if_neg (by simp)]
        exact hf
      · rw [if_pos ⟨hgt, rfl⟩]
        exact flagSet_deleteFlag f (name ++ " reading back in expected range!") g
    · rw [if_neg (fun h => hgt h.1), if_neg hgt]

/-- The counter moves with the flag, both ways. -/
theorem checkDisconnect_dcCount (v : ℚ) (f : GregFlags) (name : String) (g : Greg σ) :
    (g.checkDisconnect v f name).dcCount + (g.flagSet f).toUInt8 =
      g.dcCount + ((g.checkDisconnect v f name).flagSet f).toUInt8 := by
  rw [checkDisconnect_flag]
  unfold checkDisconnect latchBelow
  by_cases hlt : v < pDisconnect
  · rw [if_pos hlt, if_pos hlt]
    cases hf : g.flagSet f
    · exact UInt8.add_zero _
    · rfl
  · rw [if_neg hlt, if_neg hlt]
    by_cases hgt : pDisconnect < v
    · rw [if_pos hgt]
      cases hf : g.flagSet f
      · rw [if_neg (by simp)]
      · rw [if_pos ⟨hgt, rfl⟩]
        exact (UInt8.sub_add_cancel _ _).trans (UInt8.add_zero _).symm
    · rw [if_neg (fun h => hgt h.1), if_neg hgt]

theorem checkDisconnect_flag_ne (v : ℚ) {f k : GregFlags} (h : k ≠ f) (name : String)
    (g : Greg σ) : (g.checkDisconnect v f name).flagSet k = g.flagSet k :=
  (checkDisconnect_writes v f name g).flag_ne h

/-- A summary flag is the disjunction of the flags it sums up. -/
theorem checkGenericPTFlag_flag (f : GregFlags) (name : String) (fs : List GregFlags)
    (g : Greg σ) : (g.checkGenericPTFlag f name fs).flagSet f = g.flagSetOr fs := by
  unfold checkGenericPTFlag
  cases hor : g.flagSetOr fs <;> cases hf : g.flagSet f
  · rw [if_neg (by simp), if_neg (by simp)]
    exact hf
  · rw [if_neg (by simp), if_pos (by simp)]
    exact flagSet_deleteFlag f _ g
  · rw [if_pos (by simp)]
    exact flagSet_newFlag f _ g
  · rw [if_neg (by simp), if_neg (by simp)]
    exact hf

theorem checkGenericPTFlag_flag_ne {f k : GregFlags} (h : k ≠ f) (name : String)
    (fs : List GregFlags) (g : Greg σ) :
    (g.checkGenericPTFlag f name fs).flagSet k = g.flagSet k :=
  (checkGenericPTFlag_writes f name fs g).flag_ne h

theorem raiseCritical_flag (g : Greg σ) :
    g.raiseCritical.flagSet .errorCriticalOVP =
      (g.flagSet .errorCriticalOVP || g.flagSet .errorFbpCOVP) := by
  have hor : g.flagSetOr [.errorFbpCOVP] = g.flagSet .errorFbpCOVP := by
    simp [flagSetOr, flagSet, FlagStore.flagSetOr]
  unfold raiseCritical
  rw [hor]
  cases hc : g.flagSet .errorCriticalOVP <;> cases hv : g.flagSet .errorFbpCOVP
  · rw [if_neg (by simp), hc]
    rfl
  · rw [if_pos (by simp), flagSet_newFlag]
    rfl
  · rw [if_neg (by simp), hc]
    rfl
  · rw [if_neg (by simp), hc]
    rfl

theorem raiseCritical_flag_ne {k : GregFlags} (h : k ≠ .errorCriticalOVP) (g : Greg σ) :
    g.raiseCritical.flagSet k = g.flagSet k :=
  g.raiseCritical_writes.flag_ne h

theorem checkOverPressure_dcCount (lim : ℚ) (above below : String) (v : ℚ) (f : GregFlags)
    (name : String) (g : Greg σ) :
    (g.checkOverPressure lim above below v f name).dcCount = g.dcCount := by
  unfold checkOverPressure
  split
  · split <;> rfl
  · split <;> rfl

theorem checkGenericPTFlag_dcCount (f : GregFlags) (name : String) (fs : List GregFlags)
    (g : Greg σ) : (g.checkGenericPTFlag f name fs).dcCount = g.dcCount := by
  unfold checkGenericPTFlag
  split
  · rfl
  · split <;> rfl

theorem raiseCritical_dcCount (g : Greg σ) : g.raiseCritical.dcCount = g.dcCount := by
  unfold raiseCritical
  split <;> rfl

/-! ## The checks together -/

/-- The flags the per-sensor checks write. -/
def sensorFlags : List GregFlags :=
  [.errorFbpDC, .errorN2pDC, .errorFbpCOVP, .errorFeedbackP, .errorN2P]

theorem checkSensors_flag_ne {k : GregFlags} (h : k ∉ sensorFlags) (g : Greg σ) :
    g.checkSensors.flagSet k = g.flagSet k := by
  simp only [sensorFlags, List.mem_cons, List.not_mem_nil, or_false, not_or] at h
  obtain ⟨hfdc, hndc, hcovp, hfp, hn2⟩ := h
  unfold checkSensors checkCOverPressure checkHOverPressure
  dsimp only
  rw [checkGenericPTFlag_flag_ne hn2, checkGenericPTFlag_flag_ne hfp,
    checkOverPressure_flag_ne _ _ _ _ hcovp, checkOverPressure_flag_ne _ _ _ _ hcovp,
    checkDisconnect_flag_ne _ hndc, checkDisconnect_flag_ne _ hfdc]

/-- The critical flag after the checks compares with the half-abort limit. -/
theorem checkSensors_covp (g : Greg σ) :
    g.checkSensors.flagSet .errorFbpCOVP = decide (pHalfAbort < g.feedbackP) := by
  have hdc := (checkDisconnect_writes g.feedbackP .errorFbpDC "Feedback PT" g).flagsOnly.trans
    (checkDisconnect_writes (g.checkDisconnect g.feedbackP .errorFbpDC "Feedback PT").n2P
      .errorN2pDC "Local nitrogen PT" _).flagsOnly
  -- the generic checks write other flags; what is left is the pair of latches
  unfold checkSensors checkCOverPressure checkHOverPressure
  dsimp only
  rw [checkGenericPTFlag_flag_ne (by decide), checkGenericPTFlag_flag_ne (by decide),
    checkOverPressure_flag, checkOverPressure_flag,
    (checkOverPressure_writes _ _ _ _ _ _ _).flagsOnly.frame.feedbackP, hdc.frame.feedbackP,
    latch_latch pHalfAbort_lt]

/-- What the disconnect checks leave in their flags stays there. -/
theorem checkSensors_dc (g : Greg σ) :
    g.checkSensors.flagSet .errorFbpDC =
        latchBelow pDisconnect (g.flagSet .errorFbpDC) g.feedbackP ∧
      g.checkSensors.flagSet .errorN2pDC =
        latchBelow pDisconnect (g.flagSet .errorN2pDC) g.n2P := by
  have hfirst := (checkDisconnect_writes g.feedbackP .errorFbpDC "Feedback PT" g).flagsOnly
  unfold checkSensors checkCOverPressure checkHOverPressure
  dsimp only
  constructor
  · rw [checkGenericPTFlag_flag_ne (by decide), checkGenericPTFlag_flag_ne (by decide),
      checkOverPressure_flag_ne _ _ _ _ (by decide), checkOverPressure_flag_ne _ _ _ _ (by decide),
      checkDisconnect_flag_ne _ (by decide), checkDisconnect_flag]
  · rw [checkGenericPTFlag_flag_ne (by decide), checkGenericPTFlag_flag_ne (by decide),
      checkOverPressure_flag_ne _ _ _ _ (by decide), checkOverPressure_flag_ne _ _ _ _ (by decide),
      checkDisconnect_flag, checkDisconnect_flag_ne _ (by decide), hfirst.frame.n2P]

theorem flagSetOr_congr {g g' : Greg σ} {fs : List GregFlags}
    (h : ∀ f ∈ fs, g'.flagSet f = g.flagSet f) : g'.flagSetOr fs = g.flagSetOr fs := by
  rw [Bool.eq_iff_iff]
  unfold flagSetOr FlagStore.flagSetOr
  rw [List.any_eq_true, List.any_eq_true]
  exact exists_congr fun f => and_congr_right fun hf => by rw [← flagSet, ← flagSet, h f hf]

/-- The two summaries hold of the flags the checks leave. -/
theorem checkSensors_summary (g : Greg σ) :
    g.checkSensors.flagSet .errorFeedbackP =
        g.checkSensors.flagSetOr [.errorFbpCOVP, .errorFbpDC, .errorFbpHOVP] ∧
      g.checkSensors.flagSet .errorN2P = g.checkSensors.flagSetOr [.errorN2pDC] := by
  unfold checkSensors
  dsimp only
  -- no summary is among the flags summed up, so they are as the check saw them
  constructor
  · rw [checkGenericPTFlag_flag_ne (by decide), checkGenericPTFlag_flag]
    refine (flagSetOr_congr fun f hf => ?_).symm
    rw [checkGenericPTFlag_flag_ne (by rintro rfl; exact absurd hf (by decide)),
      checkGenericPTFlag_flag_ne (by rintro rfl; exact absurd hf (by decide))]
  · rw [checkGenericPTFlag_flag]
    refine (flagSetOr_congr fun f hf => ?_).symm
    rw [checkGenericPTFlag_flag_ne (by rintro rfl; exact absurd hf (by decide))]

/-- `checkPressures` up to the transitions. -/
def checkFlags (g : Greg σ) : Greg σ := g.checkSensors.raiseCritical

theorem checkFlags_flagsOnly (g : Greg σ) : FlagsOnly g g.checkFlags :=
  (checkSensors_flagsOnly g).trans (raiseCritical_writes _).flagsOnly

theorem checkFlags_flag_ne {k : GregFlags} (h : k ∉ .errorCriticalOVP :: sensorFlags)
    (g : Greg σ) : g.checkFlags.flagSet k = g.flagSet k := by
  rw [List.mem_cons, not_or] at h
  rw [checkFlags, raiseCritical_flag_ne h.1, checkSensors_flag_ne h.2]

theorem checkFlags_dc (g : Greg σ) :
    g.checkFlags.flagSet .errorFbpDC =
        latchBelow pDisconnect (g.flagSet .errorFbpDC) g.feedbackP ∧
      g.checkFlags.flagSet .errorN2pDC =
        latchBelow pDisconnect (g.flagSet .errorN2pDC) g.n2P := by
  rw [checkFlags, raiseCritical_flag_ne (by decide), raiseCritical_flag_ne (by decide)]
  exact checkSensors_dc g

theorem checkFlags_summary (g : Greg σ) :
    g.checkFlags.flagSet .errorFeedbackP =
        g.checkFlags.flagSetOr [.errorFbpCOVP, .errorFbpDC, .errorFbpHOVP] ∧
      g.checkFlags.flagSet .errorN2P = g.checkFlags.flagSetOr [.errorN2pDC] := by
  have hkept (fs : List GregFlags) (h : .errorCriticalOVP ∉ fs) :
      g.checkFlags.flagSetOr fs = g.checkSensors.flagSetOr fs :=
    flagSetOr_congr fun f hf => raiseCritical_flag_ne (fun he => h (he ▸ hf)) _
  rw [hkept _ (by decide), hkept _ (by decide), checkFlags, raiseCritical_flag_ne (by decide),
    raiseCritical_flag_ne (by decide)]
  exact checkSensors_summary g

theorem checkFlags_covp (g : Greg σ) :
    g.checkFlags.flagSet .errorFbpCOVP = decide (pHalfAbort < g.feedbackP) := by
  rw [checkFlags, raiseCritical_flag_ne (by decide), checkSensors_covp]

/-- The latched flag trips above the half-abort limit. -/
theorem checkFlags_critical (g : Greg σ) :
    g.checkFlags.flagSet .errorCriticalOVP =
      (g.flagSet .errorCriticalOVP || decide (pHalfAbort < g.feedbackP)) := by
  rw [checkFlags, raiseCritical_flag, checkSensors_covp, checkSensors_flag_ne (by decide)]

/-! ## The disconnect counter -/

/-- The counter says how many of the two disconnect flags are set. -/
def CountsDC (g : Greg σ) : Prop :=
  g.dcCount = (g.flagSet .errorFbpDC).toUInt8 + (g.flagSet .errorN2pDC).toUInt8

theorem CountsDC.of_eq {g g' : Greg σ} (h : CountsDC g) (hcount : g'.dcCount = g.dcCount)
    (hfbp : g'.flagSet .errorFbpDC = g.flagSet .errorFbpDC)
    (hn2 : g'.flagSet .errorN2pDC = g.flagSet .errorN2pDC) : CountsDC g' := by
  rw [CountsDC, hcount, hfbp, hn2]
  exact h

/-- Each of the two disconnect checks keeps the counter right by itself, so it
is right at every moment in between. -/
theorem CountsDC.checkDisconnect {g : Greg σ} (h : CountsDC g) (v : ℚ) {f : GregFlags}
    (hf : f = .errorFbpDC ∨ f = .errorN2pDC) (name : String) :
    CountsDC (g.checkDisconnect v f name) := by
  have hmove := checkDisconnect_dcCount v f name g
  unfold CountsDC at h ⊢
  rcases hf with rfl | rfl
  · rw [checkDisconnect_flag_ne v (k := .errorN2pDC) (by decide)]
    grind
  · rw [checkDisconnect_flag_ne v (k := .errorFbpDC) (by decide)]
    grind

/-- Nothing after the disconnect checks touches the counter or its flags. -/
theorem CountsDC.checkFlags {g : Greg σ} (h : CountsDC g) : CountsDC g.checkFlags := by
  have hfirst : CountsDC (g.checkDisconnect g.feedbackP .errorFbpDC "Feedback PT") :=
    h.checkDisconnect _ (Or.inl rfl) _
  have hboth := hfirst.checkDisconnect (g.checkDisconnect g.feedbackP .errorFbpDC "Feedback PT").n2P
    (Or.inr rfl) "Local nitrogen PT"
  have hover {g : Greg σ} (h : CountsDC g) (lim : ℚ) (above below : String) (v : ℚ) :
      CountsDC (g.checkOverPressure lim above below v .errorFbpCOVP "Feedback PT") :=
    h.of_eq (checkOverPressure_dcCount _ _ _ _ _ _ _)
      (checkOverPressure_flag_ne _ _ _ _ (by decide) _ _)
      (checkOverPressure_flag_ne _ _ _ _ (by decide) _ _)
  have hgeneric {g : Greg σ} (h : CountsDC g) {f : GregFlags} (hf : f = .errorFeedbackP ∨ f = .errorN2P)
      (name : String) (fs : List GregFlags) : CountsDC (g.checkGenericPTFlag f name fs) := by
    refine h.of_eq (checkGenericPTFlag_dcCount _ _ _ _) (checkGenericPTFlag_flag_ne ?_ _ _ _)
      (checkGenericPTFlag_flag_ne ?_ _ _ _)
    · rcases hf with rfl | rfl <;> decide
    · rcases hf with rfl | rfl <;> decide
  have hsensors : CountsDC g.checkSensors :=
    hgeneric (hgeneric (hover (hover hboth _ _ _ _) _ _ _ _) (Or.inl rfl) _ _) (Or.inr rfl) _ _
  exact hsensors.of_eq (raiseCritical_dcCount _) (raiseCritical_flag_ne (by decide) _)
    (raiseCritical_flag_ne (by decide) _)

/-- Counting by words and counting the flags is the same: there are only two. -/
theorem CountsDC.toNat {g : Greg σ} (h : CountsDC g) :
    g.dcCount.toNat = [GregFlags.errorFbpDC, .errorN2pDC].countP fun f => g.flagSet f := by
  rw [h]
  cases hf : g.flagSet .errorFbpDC <;> cases hn : g.flagSet .errorN2pDC <;>
    simp [hf, hn, Bool.toUInt8]

end Greg

theorem FlagsAgree.checkFlags {σ : Type} [SystemStatus σ] {g : Greg σ} (h : FlagsAgree g) :
    FlagsAgree g.checkFlags := by
  intro m
  rw [Greg.checkFlags_flag_ne (by cases m <;> decide), (Greg.checkFlags_flagsOnly g).machine]
  exact h m

end Heimdall
