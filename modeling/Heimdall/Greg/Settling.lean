import Heimdall.Greg.Disconnect

/-!
# Running the pressure checks twice

Every check compares its flag with what the reading says it should be, so a
second run with the same readings should find nothing to do: no flag raised or
lowered, no transition, no command. Each check is the identity where it finds
its flag as it would leave it (`checkDisconnect_settled` and its siblings), and
one run leaves every flag so (`settled_checkPressures`), but for one pair.

The two overpressure checks share a flag, and between their limits they
disagree about it: the first lowers what the second has raised. There every
further run makes two calls more (`checkPressures_band`), and everywhere else
it makes none (`settles_iff`).
-/

namespace Heimdall

open EventRun Latch

variable {σ : Type} [SystemStatus σ]

/-! ## Checks with nothing to do -/

namespace Greg

theorem checkDisconnect_settled {v : ℚ} {f : GregFlags} {g : Greg σ}
    (h : latchBelow pDisconnect (g.flagSet f) v = g.flagSet f) (name : String) :
    g.checkDisconnect v f name = g := by
  unfold checkDisconnect
  unfold latchBelow at h
  by_cases hlt : v < pDisconnect
  · rw [if_pos hlt] at h ⊢
    rw [← h]
    rfl
  · rw [if_neg hlt] at h ⊢
    refine if_neg ?_
    rintro ⟨hgt, hset⟩
    rw [if_pos hgt, hset] at h
    exact absurd h (by decide)

theorem checkOverPressure_settled {lim v : ℚ} {f : GregFlags} {g : Greg σ}
    (h : latch lim (g.flagSet f) v = g.flagSet f) (above below name : String) :
    g.checkOverPressure lim above below v f name = g := by
  unfold checkOverPressure
  unfold latch at h
  by_cases hgt : lim < v
  · rw [if_pos hgt] at h ⊢
    rw [← h]
    rfl
  · rw [if_neg hgt] at h ⊢
    refine if_neg ?_
    rintro ⟨hlt, hset⟩
    rw [if_pos hlt, hset] at h
    exact absurd h (by decide)

theorem checkGenericPTFlag_settled {f : GregFlags} {fs : List GregFlags} {g : Greg σ}
    (h : g.flagSet f = g.flagSetOr fs) (name : String) : g.checkGenericPTFlag f name fs = g := by
  unfold checkGenericPTFlag
  rw [h]
  cases g.flagSetOr fs <;> simp

theorem raiseCritical_settled {g : Greg σ}
    (h : g.flagSet .errorFbpCOVP = true → g.flagSet .errorCriticalOVP = true) :
    g.raiseCritical = g := by
  have hor : g.flagSetOr [.errorFbpCOVP] = g.flagSet .errorFbpCOVP := by
    simp [flagSetOr, flagSet, FlagStore.flagSetOr]
  unfold raiseCritical
  rw [hor]
  refine if_neg ?_
  rintro ⟨hcovp, hclear⟩
  rw [h hcovp] at hclear
  exact absurd hclear (by decide)

end Greg

/-- Every check but the overpressure pair finds its flag as it would leave it,
and neither transition is due. -/
structure Settled (g : Greg σ) : Prop where
  agree : FlagsAgree g
  fbpDC : latchBelow pDisconnect (g.flagSet .errorFbpDC) g.feedbackP = g.flagSet .errorFbpDC
  n2pDC : latchBelow pDisconnect (g.flagSet .errorN2pDC) g.n2P = g.flagSet .errorN2pDC
  summary : Summarised g
  critical : g.flagSet .errorFbpCOVP = true → g.flagSet .errorCriticalOVP = true
  trip : ¬(g.flagSet .errorCriticalOVP = true ∧ g.machine.mode ≠ .shutdown ∧
    g.machine.mode ≠ .default)
  half : ¬(g.flagSet .errorHalfabort = true ∧ g.machine.mode = .controlled)

/-- It is about the flags, the state and the readings only. -/
theorem Settled.of_eq {g g' : Greg σ} (h : Settled g)
    (hflags : ∀ f : GregFlags, g'.flagSet f = g.flagSet f) (hmachine : g'.machine = g.machine)
    (hp : g'.feedbackP = g.feedbackP) (hn : g'.n2P = g.n2P) : Settled g' where
  agree := by
    intro m
    rw [hflags, hmachine]
    exact h.agree m
  fbpDC := by rw [hflags, hp]; exact h.fbpDC
  n2pDC := by rw [hflags, hn]; exact h.n2pDC
  summary := h.summary.of_eq fun f _ => hflags f
  critical := by rw [hflags, hflags]; exact h.critical
  trip := by rw [hflags, hmachine]; exact h.trip
  half := by rw [hflags, hmachine]; exact h.half

/-- What follows the overpressure pair in a settled run. -/
theorem Settled.after {g : Greg σ} (h : Settled g) :
    (((g.checkGenericPTFlag .errorFeedbackP "feedback pressure local"
      [.errorFbpCOVP, .errorFbpDC, .errorFbpHOVP]).checkGenericPTFlag .errorN2P "n2 tank"
      [.errorN2pDC]).raiseCritical).actOnFlags = g := by
  rw [Greg.checkGenericPTFlag_settled h.summary.feedbackP,
    Greg.checkGenericPTFlag_settled h.summary.n2P, Greg.raiseCritical_settled h.critical,
    Greg.actOnFlags_eq h.agree, Greg.actByMode, if_neg h.trip, if_neg h.half]

/-- The checks of a settled controller are the overpressure pair and what
follows it. -/
theorem Settled.checkPressures_eq {g : Greg σ} (h : Settled g) :
    g.checkPressures =
      (((((g.checkCOverPressure g.feedbackP .errorFbpCOVP "Feedback PT").checkHOverPressure
        (g.checkCOverPressure g.feedbackP .errorFbpCOVP "Feedback PT").feedbackP .errorFbpCOVP
        "Feedback PT").checkGenericPTFlag .errorFeedbackP "feedback pressure local"
        [.errorFbpCOVP, .errorFbpDC, .errorFbpHOVP]).checkGenericPTFlag .errorN2P "n2 tank"
        [.errorN2pDC]).raiseCritical).actOnFlags := by
  unfold Greg.checkPressures Greg.checkSensors
  dsimp only
  rw [Greg.checkDisconnect_settled h.fbpDC, Greg.checkDisconnect_settled h.n2pDC]

/-- Where the pair agree about their flag, nothing is left to do. -/
theorem Settled.checkPressures_self {g : Greg σ} (h : Settled g)
    (hfull : latch pFullAbort (g.flagSet .errorFbpCOVP) g.feedbackP = g.flagSet .errorFbpCOVP)
    (hhalf : latch pHalfAbort (g.flagSet .errorFbpCOVP) g.feedbackP = g.flagSet .errorFbpCOVP) :
    g.checkPressures = g := by
  have hc : g.checkCOverPressure g.feedbackP .errorFbpCOVP "Feedback PT" = g :=
    Greg.checkOverPressure_settled hfull _ _ _
  have hh : g.checkHOverPressure g.feedbackP .errorFbpCOVP "Feedback PT" = g :=
    Greg.checkOverPressure_settled hhalf _ _ _
  rw [h.checkPressures_eq, hc, hh]
  exact h.after

/-- The two calls a run of the checks makes between the limits. -/
def Greg.relower (g : Greg σ) : Greg σ :=
  (g.deleteFlag .errorFbpCOVP ("Feedback PT" ++ " reading back below critical pressure!")).newFlag
    .errorFbpCOVP ("Feedback PT" ++ " exceeded half abort pressure!")

/-- Between the limits one check of the pair lowers the flag and the other
raises it again. -/
theorem Settled.checkPressures_band {g : Greg σ} (h : Settled g)
    (hset : g.flagSet .errorFbpCOVP = true) (hlo : pHalfAbort < g.feedbackP)
    (hhi : g.feedbackP < pFullAbort) : g.checkPressures = g.relower := by
  have hc : g.checkCOverPressure g.feedbackP .errorFbpCOVP "Feedback PT" =
      g.deleteFlag .errorFbpCOVP ("Feedback PT" ++ " reading back below critical pressure!") := by
    unfold Greg.checkCOverPressure Greg.checkOverPressure
    rw [if_neg hhi.not_gt, if_pos ⟨hhi, hset⟩]
  have hh : (g.deleteFlag .errorFbpCOVP ("Feedback PT" ++
      " reading back below critical pressure!")).checkHOverPressure g.feedbackP .errorFbpCOVP
      "Feedback PT" = g.relower := by
    unfold Greg.checkHOverPressure Greg.checkOverPressure
    rw [if_pos hlo, Greg.flagSet_deleteFlag]
    rfl
  -- the flag ends as it was, so what follows is still settled
  have hflags (f : GregFlags) : g.relower.flagSet f = g.flagSet f := by
    by_cases hf : f = .errorFbpCOVP
    · rw [hf, hset]
      exact Greg.flagSet_newFlag _ _ _
    · exact (Greg.flagSet_newFlag_ne hf _ _).trans (Greg.flagSet_deleteFlag_ne hf _ _)
  have hrelowered : Settled g.relower := h.of_eq hflags rfl rfl rfl
  rw [h.checkPressures_eq, hc, Greg.deleteFlag_feedbackP, hh]
  exact hrelowered.after

/-! ## One run of the checks -/

/-- What the transitions at the end of a run leave. -/
theorem actByMode_settles {g : Greg σ} (h : FlagsAgree g) :
    FlagsAgree g.actByMode ∧ Frame g g.actByMode ∧
      (∀ f : GregFlags, f.isError → g.actByMode.flagSet f = g.flagSet f) ∧
      ¬(g.flagSet .errorCriticalOVP = true ∧ g.actByMode.machine.mode ≠ .shutdown ∧
        g.actByMode.machine.mode ≠ .default) ∧
      ¬(g.flagSet .errorHalfabort = true ∧ g.actByMode.machine.mode = .controlled) := by
  unfold Greg.actByMode Greg.shutdown Greg.halfabort
  by_cases htrip : g.flagSet .errorCriticalOVP = true ∧ g.machine.mode ≠ .shutdown ∧
      g.machine.mode ≠ .default
  · rw [if_pos htrip, Greg.changeState_mode]
    exact ⟨h.changeState _, Greg.changeState_frame _ _, fun f hf => Greg.changeState_isError _ _ hf,
      fun hc => hc.2.1 rfl, fun hc => absurd hc.2 (by decide)⟩
  rw [if_neg htrip]
  by_cases hhalf : g.flagSet .errorHalfabort = true ∧ g.machine.mode = .controlled
  · have hdef : g.machine.mode ≠ .default := by rw [hhalf.2]; decide
    have hclear : g.flagSet .errorCriticalOVP ≠ true :=
      fun hc => htrip ⟨hc, by rw [hhalf.2]; decide, hdef⟩
    rw [if_pos hhalf, if_neg hdef, Greg.changeState_mode]
    exact ⟨h.changeState _, Greg.changeState_frame _ _, fun f hf => Greg.changeState_isError _ _ hf,
      fun hc => hclear hc.1, fun hc => absurd hc.2 (by decide)⟩
  · rw [if_neg hhalf]
    exact ⟨h, Frame.refl g, fun _ _ => rfl, htrip, hhalf⟩

/-- A run of the checks leaves everything but the overpressure pair settled,
and the flag of the pair saying which side of the half-abort limit the reading
is on. -/
theorem settled_checkPressures {g : Greg σ} (h : FlagsAgree g) :
    Settled g.checkPressures ∧ Frame g g.checkPressures ∧
      g.checkPressures.flagSet .errorFbpCOVP = decide (pHalfAbort < g.feedbackP) := by
  have hact : g.checkPressures = g.checkFlags.actByMode := Greg.actOnFlags_eq h.checkFlags
  obtain ⟨hagree, hframe, herrors, htrip, hhalf⟩ := actByMode_settles h.checkFlags
  obtain ⟨hfbp, hn2⟩ := g.checkFlags_dc
  obtain ⟨hsumf, hsumn⟩ := g.checkFlags_summary
  have hchk := (Greg.checkFlags_flagsOnly g).frame
  rw [hact]
  refine ⟨⟨hagree, ?_, ?_, ?_, ?_, ?_, ?_⟩, hchk.trans hframe, ?_⟩
  · rw [herrors _ (by decide), hframe.feedbackP, hchk.feedbackP, hfbp, latchBelow_latchBelow]
  · rw [herrors _ (by decide), hframe.n2P, hchk.n2P, hn2, latchBelow_latchBelow]
  · exact Summarised.of_eq ⟨hsumf, hsumn⟩ herrors
  · rw [herrors _ (by decide), herrors _ (by decide), Greg.checkFlags_covp,
      Greg.checkFlags_critical]
    intro hover
    rw [hover, Bool.or_true]
  · rw [herrors _ (by decide)]
    exact htrip
  · rw [herrors _ (by decide)]
    exact hhalf
  · rw [herrors _ (by decide), Greg.checkFlags_covp]

/-! ## The second run -/

/-- The call raises or lowers a flag. -/
def Call.changesFlag : Call → Bool
  | .newFlag .. | .deleteFlag .. | .initializeState _ | .exitState _ => true
  | .arm | .execute _ | .disarm | .setEN _ => false

/-- A run of the checks from `g` to `g'`, its record of calls started afresh,
raises and lowers no flag, changes no state, sends no command and leaves the
disconnect counter alone. -/
structure Quiet (g g' : Greg σ) : Prop where
  noFlag : ∀ c ∈ g'.calls, c.1.changesFlag = false
  machine : g'.machine = g.machine
  flags : ∀ f : GregFlags, g'.flagSet f = g.flagSet f
  sent : g'.sent = []
  dcCount : g'.dcCount = g.dcCount

/-- The checks, run a second time with the same readings, are quiet exactly
where the reading is not between the two limits. -/
theorem settles_iff {g : Greg σ} (h : Reachable g) (t t' : UInt32) (p n : ℚ) :
    Quiet ((g.begin t).sense p n).checkPressures
        (((g.begin t).sense p n).checkPressures.begin t').checkPressures ↔
      ¬(pHalfAbort < p ∧ p < pFullAbort) := by
  obtain ⟨hsettled, hframe, hcovp⟩ :=
    settled_checkPressures ((reachable_consistent h).flags.sense t p n)
  have hp : ((g.begin t).sense p n).checkPressures.feedbackP = p := hframe.feedbackP
  have hcovp' : ((g.begin t).sense p n).checkPressures.flagSet .errorFbpCOVP =
      decide (pHalfAbort < p) := hcovp
  generalize ((g.begin t).sense p n).checkPressures = g₁ at hsettled hp hcovp' ⊢
  have hagain : Settled (g₁.begin t') := hsettled.of_eq (fun _ => rfl) rfl rfl rfl
  have hp' : (g₁.begin t').feedbackP = p := hp
  have hset : (g₁.begin t').flagSet .errorFbpCOVP = decide (pHalfAbort < p) := hcovp'
  constructor
  · intro hquiet hband
    rw [hagain.checkPressures_band (by rw [hset]; exact decide_eq_true hband.1)
      (by rw [hp']; exact hband.1) (by rw [hp']; exact hband.2)] at hquiet
    exact absurd (hquiet.noFlag _ List.mem_cons_self) (by simp [Call.changesFlag])
  · intro hout
    have hself : (g₁.begin t').checkPressures = g₁.begin t' := by
      refine hagain.checkPressures_self ?_ ?_
      · -- the upper limit clears a flag that is set between the limits only
        rw [hset, hp']
        by_cases hle : p ≤ pHalfAbort
        · rw [latch_of_gt (hle.trans_lt pHalfAbort_lt), decide_eq_false hle.not_gt]
        · have hlo : pHalfAbort < p := not_le.mp hle
          have hge : pFullAbort ≤ p := not_lt.mp fun hhi => hout ⟨hlo, hhi⟩
          rw [decide_eq_true hlo]
          rcases hge.lt_or_eq with hgt | heq
          · exact latch_of_lt hgt true
          · rw [← heq, latch_self]
      · rw [hset, hp']
        by_cases heq : p = pHalfAbort
        · rw [heq, latch_self]
        · exact latch_of_ne heq _
    rw [hself]
    exact ⟨fun _ hc => absurd hc List.not_mem_nil, rfl, fun _ => rfl, rfl, rfl⟩

/-- A reading of 70 is above both limits: the first run raises flags, and the second
leaves them. -/
theorem settles_70 :
    (((Greg.setup true 0 : Greg StatusWord).begin 10).sense 70 100).checkPressures.flagSet
        .errorFbpCOVP = true ∧
      Quiet (((Greg.setup true 0 : Greg StatusWord).begin 10).sense 70 100).checkPressures
        ((((Greg.setup true 0 : Greg StatusWord).begin 10).sense 70 100).checkPressures.begin
          20).checkPressures :=
  ⟨by decide +kernel, (settles_iff (reachable_run true 0 []) 10 20 70 100).mpr (by decide +kernel)⟩

/-- A reading of 60 does not: the second run lowers the flag and raises it
again. -/
theorem settles_fails :
    ¬Quiet (((Greg.setup true 0 : Greg StatusWord).begin 10).sense 60 100).checkPressures
      ((((Greg.setup true 0 : Greg StatusWord).begin 10).sense 60 100).checkPressures.begin
        20).checkPressures := by
  intro hquiet
  exact absurd hquiet.noFlag (by decide +kernel)

end Heimdall
