import Heimdall.Greg.Overpressure

/-!
# Losing the sensors

Each pressure tap has a disconnect flag, and `m_DC_count` counts the two. They
are kept by edges: a flag and the counter move only when a reading crosses
`m_P_disconnect`, and the two summary flags are adjusted afterwards. So what
they say after a run is an invariant over all its readings
(`disconnect_bookkeeping`), carried by one step lemma for the flags
(`step_dc`), one for the counter (`CountsDC.step`) and one for the summaries
(`Summarised.step`).

The books are right and nothing reads them. Half abort is promised on multiple
disconnects, but `m_DC_count` is never tested and `ERROR_HALFABORT` never
raised, so an update of `CONTROLLED` that loses both sensors drives the valve
from their bogus readings and stays where it is (`loss_iff`).
-/

namespace Heimdall

open EventRun Latch

variable {σ : Type} [SystemStatus σ]

/-! ## The nitrogen readings -/

/-- The nitrogen reading an event brings. -/
def Event.n2Reading : Event → Option ℚ
  | .update _ _ n => some n
  | _ => none

/-- The nitrogen readings of a run. -/
def n2Readings (es : List Event) : List ℚ := es.filterMap Event.n2Reading

theorem n2Readings_concat (es : List Event) (e : Event) :
    n2Readings (es ++ [e]) = n2Readings es ++ e.n2Reading.toList := by
  rw [n2Readings, n2Readings, List.filterMap_append]
  cases h : e.n2Reading <;> simp [h]

/-! ## The disconnect flags -/

/-- The two flags after an update. -/
theorem step_dc {g : Greg σ} (h : FlagsAgree g) (t : UInt32) (p n : ℚ) :
    (step g (.update t p n)).flagSet .errorFbpDC =
        latchBelow pDisconnect (g.flagSet .errorFbpDC) p ∧
      (step g (.update t p n)).flagSet .errorN2pDC =
        latchBelow pDisconnect (g.flagSet .errorN2pDC) n := by
  obtain ⟨pre, hchk⟩ := update_checked (h.sense t p n)
  obtain ⟨hfbp, hn2⟩ := pre.checkFlags_dc
  rw [hchk.found _ (by decide), hchk.frame.feedbackP] at hfbp
  rw [hchk.found _ (by decide), hchk.frame.n2P] at hn2
  exact ⟨(hchk.left _ (by decide)).trans hfbp, (hchk.left _ (by decide)).trans hn2⟩

/-- The two flags after a run: each is the latch of its sensor's readings. -/
theorem run_dc (disarmed : Bool) (now : UInt32) (es : List Event) :
    (run step (Greg.setup disarmed now : Greg σ) es).flagSet .errorFbpDC =
        (readings es).foldl (latchBelow pDisconnect) false ∧
      (run step (Greg.setup disarmed now : Greg σ) es).flagSet .errorN2pDC =
        (n2Readings es).foldl (latchBelow pDisconnect) false := by
  induction es using List.reverseRecOn with
  | nil => exact ⟨setup_flagSet disarmed now (by decide), setup_flagSet disarmed now (by decide)⟩
  | append_singleton es e ih =>
    have hagree := (run_consistent (σ := σ) disarmed now es).flags
    obtain ⟨ihf, ihn⟩ := ih
    rw [run_concat, readings_concat, n2Readings_concat, List.foldl_append, List.foldl_append,
      ← ihf, ← ihn]
    cases e with
    | update t p n => exact step_dc hagree t p n
    | arm t | disarm t | execute t arg | extended t commandID arg =>
      exact ⟨step_isError hagree rfl (by decide), step_isError hagree rfl (by decide)⟩

/-! ## The counter -/

theorem extended_dcCount (g : Greg σ) (commandID : UInt8) (arg : Int32) :
    (g.extendedCommandHandlerImpl commandID arg).dcCount = g.dcCount := by
  have hstep := extended_step g commandID arg
  generalize g.extendedCommandHandlerImpl commandID arg = g' at hstep ⊢
  cases hstep with
  | moves h6 hdbg => rfl
  | setsAngle h7 => rfl
  | ignored => rfl

/-- Commands leave the counter alone. -/
theorem step_command_dcCount {g : Greg σ} (h : FlagsAgree g) {e : Event}
    (he : e.isUpdate = false) : (step g e).dcCount = g.dcCount := by
  cases e with
  | update t p n => exact absurd he (by simp [Event.isUpdate])
  | arm t => rfl
  | disarm t => rfl
  | execute t arg =>
    have hstep := step_execute h t arg
    generalize step g (.execute t arg) = g' at hstep ⊢
    cases hstep with
    | entered new hm hact => exact (g.begin t).changeState_dcCount new
    | shutdown => exact (g.begin t).changeState_dcCount .shutdown
    | ignored => rfl
  | extended t commandID arg => exact extended_dcCount (g.begin t) commandID arg

theorem Greg.CountsDC.step {g : Greg σ} (hcount : g.CountsDC) (h : FlagsAgree g) (e : Event) :
    (step g e).CountsDC := by
  cases he : e.isUpdate with
  | true =>
    cases e with
    | update t p n =>
      obtain ⟨pre, hchk⟩ := update_checked (h.sense t p n)
      have hpre : pre.CountsDC :=
        hcount.of_eq hchk.foundCount (hchk.found _ (by decide)) (hchk.found _ (by decide))
      exact hpre.checkFlags.of_eq hchk.leftCount (hchk.left _ (by decide)) (hchk.left _ (by decide))
    | _ => exact absurd he (by simp [Event.isUpdate])
  | false =>
    have herrors := (step_command h he).errors
    exact hcount.of_eq (step_command_dcCount h he) (herrors _ (by decide)) (herrors _ (by decide))

/-! ## The summary flags -/

/-- The two summary flags are the disjunctions they stand for. -/
structure Summarised (g : Greg σ) : Prop where
  feedbackP : g.flagSet .errorFeedbackP =
    g.flagSetOr [.errorFbpCOVP, .errorFbpDC, .errorFbpHOVP]
  n2P : g.flagSet .errorN2P = g.flagSetOr [.errorN2pDC]

/-- Two controllers that agree on the error flags agree on this. -/
theorem Summarised.of_eq {g g' : Greg σ} (h : Summarised g)
    (herrors : ∀ f : GregFlags, f.isError → g'.flagSet f = g.flagSet f) : Summarised g' where
  feedbackP := by
    rw [herrors _ (by decide), h.feedbackP]
    exact (Greg.flagSetOr_congr fun f hf => herrors f (by revert f; decide)).symm
  n2P := by
    rw [herrors _ (by decide), h.n2P]
    exact (Greg.flagSetOr_congr fun f hf => herrors f (by revert f; decide)).symm

theorem Summarised.step {g : Greg σ} (hsum : Summarised g) (h : FlagsAgree g) (e : Event) :
    Summarised (step g e) := by
  cases he : e.isUpdate with
  | true =>
    cases e with
    | update t p n =>
      obtain ⟨pre, hchk⟩ := update_checked (h.sense t p n)
      exact Summarised.of_eq ⟨pre.checkFlags_summary.1, pre.checkFlags_summary.2⟩ hchk.left
    | _ => exact absurd he (by simp [Event.isUpdate])
  | false => exact hsum.of_eq (step_command h he).errors

/-! ## The books -/

/-- The disconnect bookkeeping, `ps` and `ns` being the readings of the two
sensors so far. -/
structure Bookkeeping (ps ns : List ℚ) (g : Greg σ) : Prop where
  fbpDC : g.flagSet .errorFbpDC = true ↔ ∃ p ∈ lastOff pDisconnect ps, p < pDisconnect
  n2pDC : g.flagSet .errorN2pDC = true ↔ ∃ n ∈ lastOff pDisconnect ns, n < pDisconnect
  count : g.dcCount.toNat = [GregFlags.errorFbpDC, .errorN2pDC].countP fun f => g.flagSet f
  countLe : g.dcCount ≤ 2
  feedbackP : g.flagSet .errorFeedbackP = true ↔
    g.flagSet .errorFbpCOVP = true ∨ g.flagSet .errorFbpDC = true ∨ g.flagSet .errorFbpHOVP = true
  n2P : g.flagSet .errorN2P = true ↔ g.flagSet .errorN2pDC = true

/-- The books and the summaries of a run. -/
theorem run_books (disarmed : Bool) (now : UInt32) (es : List Event) :
    (run step (Greg.setup disarmed now : Greg σ) es).CountsDC ∧
      Summarised (run step (Greg.setup disarmed now : Greg σ) es) := by
  have hunset {f : GregFlags} (hf : f.isError) :
      (Greg.setup disarmed now : Greg σ).flagSet f = false := setup_flagSet disarmed now hf
  have hnone : ∀ fs : List GregFlags, (∀ f ∈ fs, f.isError) →
      (Greg.setup disarmed now : Greg σ).flagSetOr fs = false :=
    fun fs hfs => List.any_eq_false.mpr fun f hf => Bool.eq_false_iff.mp (hunset (hfs f hf))
  have hkeep : ∀ (g : Greg σ) (e : Event), Consistent g ∧ g.CountsDC ∧ Summarised g →
      Consistent (step g e) ∧ (step g e).CountsDC ∧ Summarised (step g e) :=
    fun g e hg => ⟨step_consistent hg.1 e, hg.2.1.step hg.1.flags e, hg.2.2.step hg.1.flags e⟩
  refine (run_keeps hkeep ⟨setup_consistent disarmed now, ?_, ?_⟩ es).2
  · rw [Greg.CountsDC, hunset (by decide), hunset (by decide)]
    rfl
  · exact ⟨by rw [hunset (by decide), hnone _ (by decide)],
      by rw [hunset (by decide), hnone _ (by decide)]⟩

/-- After any history of readings the books are right. -/
theorem disconnect_bookkeeping (disarmed : Bool) (now : UInt32) (es : List Event) :
    Bookkeeping (readings es) (n2Readings es)
      (run step (Greg.setup disarmed now : Greg σ) es) := by
  obtain ⟨hfbp, hn2⟩ := run_dc (σ := σ) disarmed now es
  obtain ⟨hcount, hsum⟩ := run_books (σ := σ) disarmed now es
  have hlatch (rs : List ℚ) : rs.foldl (latchBelow pDisconnect) false = true ↔
      ∃ r ∈ lastOff pDisconnect rs, r < pDisconnect := by
    rw [foldl_latchBelow]
    cases lastOff pDisconnect rs <;> simp
  refine ⟨by rw [hfbp]; exact hlatch _, by rw [hn2]; exact hlatch _, hcount.toNat, ?_, ?_, ?_⟩
  · rw [UInt8.le_iff_toNat_le, hcount.toNat]
    exact List.countP_le_length
  · rw [hsum.feedbackP]
    simp [Greg.flagSetOr, Greg.flagSet, FlagStore.flagSetOr]
  · rw [hsum.n2P]
    simp [Greg.flagSetOr, Greg.flagSet, FlagStore.flagSetOr]

/-! ## What they are for -/

/-- What losing both sensors in an armed, untripped `CONTROLLED` promises. -/
def HandlesLoss (g : Greg σ) : Event → Prop
  | .update t p n =>
    g.mode = .controlled → g.disarmed = false → g.flagSet .errorCriticalOVP = false →
      p < pDisconnect → n < pDisconnect →
      (step g (.update t p n)).mode = .halfabort ∧
        (step g (.update t p n)).adapter.angle = some (angleOf halfAbortAngle)
  | _ => True

/-- Both sensors were lost before this update, which finds them lost still,
drives the valve and stays in `CONTROLLED`. -/
def KeepsDriving (g : Greg σ) : Event → Prop
  | .update t p n =>
    g.flagSet .errorFbpDC = true ∧ g.flagSet .errorN2pDC = true ∧
      p < pDisconnect ∧ n < pDisconnect ∧
      (∃ c ∈ (step g (.update t p n)).sent, c.2.mode = .controlled) ∧
      (step g (.update t p n)).mode = .controlled
  | _ => False

/-- An armed, untripped update of `CONTROLLED` in which both sensors read as
disconnected. -/
def LosesBoth (g : Greg σ) : Event → Prop
  | .update _ p n =>
    g.mode = .controlled ∧ g.disarmed = false ∧ g.flagSet .errorCriticalOVP = false ∧
      p < pDisconnect ∧ n < pDisconnect
  | _ => False

theorem pDisconnect_lt : pDisconnect < pHalfAbort := by norm_num [pDisconnect, pHalfAbort]

theorem loss_iff_step {g : Greg σ} (h : FlagsAgree g)
    (hhalf : g.flagSet .errorHalfabort = false) (e : Event) :
    (HandlesLoss g e ∧ ¬KeepsDriving g e) ↔ ¬LosesBoth g e := by
  cases e with
  | update t p n =>
    have hmode := step_mode h (.update t p n)
    rw [Greg.cue, hhalf] at hmode
    constructor
    · intro hclaim hloses
      obtain ⟨hm, hd, hc, hp, hn⟩ := hloses
      -- neither flag the update tests is set, so it stays
      have hlow : ¬(g.flagSet .errorCriticalOVP = true ∨ pHalfAbort < p) := by
        rw [hc]
        rintro (hset | hhi)
        · exact absurd hset (by decide)
        · exact absurd (hhi.trans hp) pDisconnect_lt.not_gt
      rw [hm, hd, decide_eq_false hlow, Mode.next, Mode.onUpdate_controlled] at hmode
      have hhalted := (hclaim.1 hm hd hc hp hn).1
      rw [hmode] at hhalted
      exact absurd hhalted (by decide)
    · intro hnot
      refine ⟨fun hm hd hc hp hn => absurd ⟨hm, hd, hc, hp, hn⟩ hnot, ?_⟩
      intro hdrives
      obtain ⟨-, -, hp, hn, -, hend⟩ := hdrives
      rw [hmode] at hend
      -- an update that ends in `CONTROLLED` was armed and untripped
      obtain ⟨hm, hd, hc⟩ := Mode.onUpdate_eq_controlled.mp hend
      rw [decide_eq_false_iff_not, not_or, Bool.not_eq_true] at hc
      exact hnot ⟨hm, hd, hc.1, hp, hn⟩
  | _ => exact iff_of_true ⟨trivial, id⟩ id

/-- A run handles the loss of its sensors exactly when it never loses both in
an armed, untripped `CONTROLLED`. -/
theorem loss_iff (disarmed : Bool) (now : UInt32) (es : List Event) :
    EachStep step (fun g e => HandlesLoss g e ∧ ¬KeepsDriving g e)
        (Greg.setup disarmed now : Greg σ) es ↔
      EachStep step (fun g e => ¬LosesBoth g e) (Greg.setup disarmed now : Greg σ) es := by
  refine eachStep_congr (J := fun g => Consistent g ∧ g.flagSet .errorHalfabort = false)
    (fun g e hg _ => loss_iff_step hg.1.flags hg.2 e) ?_
    ⟨setup_consistent disarmed now, setup_flagSet disarmed now (by decide)⟩ (eachStep_true _ es)
  intro g e hg _ _
  refine ⟨step_consistent hg.1 e, ?_⟩
  rw [step_flag_ne hg.1.flags e (by decide) (by decide)]
  exact hg.2

/-- Both sensors lost in one update, and the controller stays in
`CONTROLLED`. -/
theorem loss_fails :
    ¬EachStep step (fun g e => HandlesLoss g e ∧ ¬KeepsDriving g e)
      (Greg.setup false 0 : Greg StatusWord) [.execute 10 1, .update 20 (-20) (-20)] := by
  intro hclaim
  have hlast := eachStep_iff_split.mp hclaim [.execute 10 1] (.update 20 (-20) (-20)) [] rfl
  have hhalted := hlast.1 (by decide +kernel) (by decide +kernel) (by decide +kernel)
    (by decide +kernel) (by decide +kernel)
  exact absurd hhalted.1 (by decide +kernel)

end Heimdall
