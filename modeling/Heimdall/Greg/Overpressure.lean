import Heimdall.Greg.Refinement

/-!
# The response to overpressure

Three promises about what the controller does when the feedback pressure is
too high: it closes the valve within the update that sees it
(`trip_closes`), it answers the two limits with two different states
(`graded_iff`), and its flags say which of the limits was passed
(`overpressure_flags_iff`).

Only the first is kept. The half-abort check reports through the critical
flag, so the half-abort limit *is* the critical limit: a reading between the
two trips the latch and shuts the machine down, `ERROR_FBP_HOVP` is never set,
and `HALFABORT` is never entered. The other two promises are stated with the
exact condition under which a run keeps them.
-/

namespace Heimdall

open EventRun Latch

variable {σ : Type} [SystemStatus σ]

/-! ## The flags of a run -/

theorem readings_concat (es : List Event) (e : Event) :
    readings (es ++ [e]) = readings es ++ e.reading.toList := by
  rw [readings, readings, List.filterMap_append]
  cases h : e.reading <;> simp [h]

/-- The latched flag remembers whether any reading was above the half-abort
limit. -/
theorem run_critical (disarmed : Bool) (now : UInt32) (es : List Event) :
    (run step (Greg.setup disarmed now : Greg σ) es).flagSet .errorCriticalOVP = true ↔
      ∃ p ∈ readings es, pHalfAbort < p := by
  induction es using List.reverseRecOn with
  | nil =>
    rw [run_nil, setup_flagSet _ _ (by decide)]
    simp [readings]
  | append_singleton es e ih =>
    have hcons := run_consistent (σ := σ) disarmed now es
    rw [run_concat, step_critical hcons.flags, ih, readings_concat]
    simp only [List.mem_append, Option.mem_toList, Option.mem_def, or_and_right, exists_or]

/-- The two half-abort flags are set in no run. -/
theorem run_never_set (disarmed : Bool) (now : UInt32) (es : List Event) {f : GregFlags}
    (hf : f.isError) (hne : f ∉ .errorCriticalOVP :: Greg.sensorFlags) :
    (run step (Greg.setup disarmed now : Greg σ) es).flagSet f = false := by
  induction es using List.reverseRecOn with
  | nil => exact setup_flagSet disarmed now hf
  | append_singleton es e ih =>
    have hcons := run_consistent (σ := σ) disarmed now es
    rw [run_concat, step_flag_ne hcons.flags e hf hne]
    exact ih

/-! ## The valve closes -/

/-- What a tripped or disarmed update leaves the adapter with. -/
def closedAdapter : ServoAdapter := { armed := false, angle := some closedAngle }

/-- The invariant pins the adapter in the two closed states. -/
theorem Consistent.adapter_closed {g : Greg σ} (h : Consistent g)
    (hm : g.mode = .default ∨ g.mode = .shutdown) : g.adapter = closedAdapter := by
  have hboth : g.adapter.armed = false ∧ g.adapter.angle = some closedAngle := by
    rcases hm with hdef | hshut
    · have hmode : g.machine.mode = .default := hdef
      exact ⟨by rw [h.armed, hmode]; rfl, h.rest _ (by rw [hmode]; rfl)⟩
    · have hmode : g.machine.mode = .shutdown := hshut
      exact ⟨by rw [h.armed, hmode]; rfl, h.rest _ (by rw [hmode]; rfl)⟩
  cases hadapter : g.adapter with
  | mk armed angle =>
    rw [hadapter] at hboth
    obtain ⟨rfl, rfl⟩ := hboth
    rfl

/-- One update is enough: from any reachable controller, disarmed or tripped,
it ends in a closed state with the valve told to close and the adapter
disarmed; and a trip is for good. -/
theorem trip_closes {g : Greg σ} (h : Reachable g) (t : UInt32) (p n : ℚ) :
    (g.disarmed = true → (step g (.update t p n)).mode = .default) ∧
      (pFullAbort < p ∨ g.flagSet .errorCriticalOVP = true →
        (step g (.update t p n)).mode = .default ∨ (step g (.update t p n)).mode = .shutdown) ∧
      (g.disarmed = true ∨ pFullAbort < p ∨ g.flagSet .errorCriticalOVP = true →
        (step g (.update t p n)).adapter = closedAdapter) ∧
      ∀ es, g.flagSet .errorCriticalOVP = true →
        (run step g es).flagSet .errorCriticalOVP = true := by
  have hcons := reachable_consistent h
  have hmode := step_mode hcons.flags (.update t p n)
  have hdis (hd : g.disarmed = true) : (step g (.update t p n)).mode = .default := by
    rw [hmode, Greg.cue, hd]
    rfl
  have htrip (hc : pFullAbort < p ∨ g.flagSet .errorCriticalOVP = true) :
      (step g (.update t p n)).mode = .default ∨ (step g (.update t p n)).mode = .shutdown := by
    have hcrit : g.flagSet .errorCriticalOVP = true ∨ pHalfAbort < p :=
      hc.symm.imp_right pHalfAbort_lt.trans
    rw [hmode, Greg.cue, decide_eq_true hcrit]
    exact Mode.onUpdate_critical _ _ _ _
  refine ⟨hdis, htrip, ?_, ?_⟩
  · intro hclose
    refine (step_consistent hcons _).adapter_closed ?_
    rcases hclose with hd | hc
    · exact Or.inl (hdis hd)
    · exact htrip hc
  · intro es hc
    have hkeep : ∀ (g : Greg σ) (e : Event),
        Consistent g ∧ g.flagSet .errorCriticalOVP = true →
          Consistent (step g e) ∧ (step g e).flagSet .errorCriticalOVP = true :=
      fun g e hg => ⟨step_consistent hg.1 e, (step_critical hg.1.flags e).mpr (Or.inl hg.2)⟩
    exact (run_keeps hkeep ⟨hcons, hc⟩ es).2

/-- A pressurisation that both reaches its target and passes the limit. -/
theorem trip_closes_pressurising :
    (step (run step (Greg.setup false 0 : Greg StatusWord) [.execute 10 4])
      (.update 20 64 100)).adapter = closedAdapter :=
  (trip_closes (reachable_run (σ := StatusWord) false 0 [.execute 10 4]) 20 64 100).2.2.1
    (Or.inr (Or.inl (by decide +kernel)))

/-! ## The flags tell the truth -/

/-- The three flags, `rs` being the feedback readings so far: the two latches
are on the side of the last reading off their limit, and the third is set by
any reading above the full-abort limit. -/
structure FlagsTrue (rs : List ℚ) (g : Greg σ) : Prop where
  covp : g.flagSet .errorFbpCOVP = true ↔ ∃ p ∈ lastOff pFullAbort rs, pFullAbort < p
  hovp : g.flagSet .errorFbpHOVP = true ↔ ∃ p ∈ lastOff pHalfAbort rs, pHalfAbort < p
  critical : g.flagSet .errorCriticalOVP = true ↔ ∃ p ∈ rs, pFullAbort < p

/-- A reading above the half-abort limit has to set `ERROR_FBP_HOVP`, which
nothing does. -/
theorem FlagsTrue.le {disarmed : Bool} {now : UInt32} {pre : List Event} {t : UInt32} {p n : ℚ}
    (h : FlagsTrue (readings (pre ++ [.update t p n]))
      (run step (Greg.setup disarmed now : Greg σ) (pre ++ [.update t p n]))) :
    p ≤ pHalfAbort := by
  have hovp := h.hovp
  rw [run_never_set _ _ _ (by decide) (by decide), readings_concat] at hovp
  by_contra hgt
  rw [not_le] at hgt
  -- it is the last reading, and off the limit
  refine absurd (hovp.mpr ⟨p, ?_, hgt⟩) (by decide)
  show p ∈ lastOff pHalfAbort (readings pre ++ [p])
  rw [lastOff_concat, if_neg hgt.ne']
  rfl

/-- Below both limits no flag is set, and none should be. -/
theorem flagsTrue_of_le {disarmed : Bool} {now : UInt32} {pre : List Event} {t : UInt32} {p n : ℚ}
    (h : ∀ x ∈ readings (pre ++ [.update t p n]), x ≤ pHalfAbort) :
    FlagsTrue (readings (pre ++ [.update t p n]))
      (run step (Greg.setup disarmed now : Greg σ) (pre ++ [.update t p n])) := by
  have hagree := (run_consistent (σ := σ) disarmed now pre).flags
  have hp : p ≤ pHalfAbort := by
    refine h p ?_
    rw [readings_concat]
    exact List.mem_append_right _ (List.mem_singleton_self p)
  have hfull : ∀ x ∈ readings (pre ++ [.update t p n]), ¬pFullAbort < x :=
    fun x hx => not_lt.mpr ((h x hx).trans pHalfAbort_lt.le)
  refine ⟨iff_of_false ?_ ?_, iff_of_false ?_ ?_, iff_of_false ?_ ?_⟩
  · rw [run_concat, step_covp hagree, decide_eq_true_iff]
    exact hp.not_gt
  · intro hlast
    obtain ⟨q, hq, hgt⟩ := hlast
    exact hfull q (lastOff_mem hq) hgt
  · rw [run_never_set _ _ _ (by decide) (by decide)]
    decide
  · intro hlast
    obtain ⟨q, hq, hgt⟩ := hlast
    exact (h q (lastOff_mem hq)).not_gt hgt
  · rw [run_critical]
    intro hany
    obtain ⟨q, hq, hgt⟩ := hany
    exact (h q hq).not_gt hgt
  · intro hany
    obtain ⟨q, hq, hgt⟩ := hany
    exact hfull q hq hgt

/-- The flags are true after every update of a run exactly when no reading of
the run is above the half-abort limit. -/
theorem overpressure_flags_iff (disarmed : Bool) (now : UInt32) (es : List Event) :
    (∀ pre t p n post, es = pre ++ .update t p n :: post →
      FlagsTrue (readings (pre ++ [.update t p n]))
        (run step (Greg.setup disarmed now : Greg σ) (pre ++ [.update t p n]))) ↔
    ∀ p ∈ readings es, p ≤ pHalfAbort := by
  constructor
  · intro htrue p hp
    obtain ⟨e, he, hread⟩ := List.mem_filterMap.mp hp
    obtain ⟨pre, post, rfl⟩ := List.append_of_mem he
    cases e with
    | update t p' n =>
      obtain rfl : p' = p := Option.some.inj hread
      exact (htrue pre t p' n post rfl).le
    | _ => exact absurd hread (by simp [Event.reading])
  · intro hle pre t p n post hes
    refine flagsTrue_of_le fun x hx => hle x ?_
    rw [hes, List.append_cons, readings, List.filterMap_append]
    exact List.mem_append_left _ hx

/-- A reading between the two limits is reported as critical. -/
theorem overpressure_flags_lie :
    ¬FlagsTrue (readings [.update 10 60 100])
      (run step (Greg.setup true 0 : Greg StatusWord) [.update 10 60 100]) := by
  intro htrue
  refine absurd (htrue.hovp.mpr ⟨60, ?_, ?_⟩) ?_
  · decide +kernel
  · decide +kernel
  · decide +kernel

/-! ## Two limits, two answers -/

/-- The answers promised to an armed `CONTROLLED` update that is not tripped
and whose nitrogen sensor is connected, by the band of its reading. -/
def Graded (g : Greg σ) : Event → Prop
  | .update t p n =>
    g.mode = .controlled → g.disarmed = false → g.flagSet .errorCriticalOVP = false →
      pDisconnect < n →
      (pFullAbort < p → (step g (.update t p n)).mode = .shutdown) ∧
      (pHalfAbort < p → p ≤ pFullAbort → (step g (.update t p n)).mode = .halfabort) ∧
      (pDisconnect ≤ p → p ≤ pHalfAbort → (step g (.update t p n)).mode = .controlled)
  | _ => True

/-- The event is no automatic shutdown. -/
def NotShutDown (g : Greg σ) (e : Event) : Prop :=
  e.isUpdate = true → (step g e).mode = .shutdown → g.mode = .shutdown

/-- A reading between the limits in such an update. -/
def BetweenLimits (g : Greg σ) : Event → Prop
  | .update _ p n =>
    g.mode = .controlled ∧ g.disarmed = false ∧ g.flagSet .errorCriticalOVP = false ∧
      pDisconnect < n ∧ pHalfAbort < p ∧ p ≤ pFullAbort
  | _ => False

/-- An armed update that finds the latch set or reads above the half-abort
limit, in a state it can shut down. -/
def Trips (g : Greg σ) : Event → Prop
  | .update _ p _ =>
    g.disarmed = false ∧ (g.flagSet .errorCriticalOVP = true ∨ pHalfAbort < p) ∧
      (g.mode = .controlled ∨ g.mode = .debug ∨ g.mode = .halfabort ∨
        g.mode = .pressurise ∧ p < pSetpoint + pPressExtra)
  | _ => False

theorem graded_iff_step {g : Greg σ} (h : FlagsAgree g)
    (hhalf : g.flagSet .errorHalfabort = false) (e : Event) :
    Graded g e ↔ ¬BetweenLimits g e := by
  cases e with
  | update t p n =>
    -- where an armed, untripped update of `CONTROLLED` ends
    have hends (hm : g.mode = .controlled) (hd : g.disarmed = false)
        (hc : g.flagSet .errorCriticalOVP = false) :
        (step g (.update t p n)).mode = if pHalfAbort < p then .shutdown else .controlled := by
      rw [step_mode h, hm, Greg.cue, hd, hhalf, hc, Mode.next, Mode.onUpdate_controlled]
      simp
    constructor
    · intro hgraded hbetween
      obtain ⟨hm, hd, hc, hn, hlo, hhi⟩ := hbetween
      -- promised `halfabort`, and trips
      have hhalted := (hgraded hm hd hc hn).2.1 hlo hhi
      rw [hends hm hd hc, if_pos hlo] at hhalted
      exact absurd hhalted (by decide)
    · intro hnot hm hd hc hn
      rw [hends hm hd hc]
      refine ⟨?_, ?_, ?_⟩
      · intro hhi
        exact if_pos (pHalfAbort_lt.trans hhi)
      · intro hlo hhi
        exact absurd ⟨hm, hd, hc, hn, hlo, hhi⟩ hnot
      · intro _ hle
        exact if_neg hle.not_gt
  | _ => exact iff_of_true trivial id

theorem notShutDown_iff_step {g : Greg σ} (h : FlagsAgree g) (e : Event) :
    NotShutDown g e ↔ ¬Trips g e := by
  cases e with
  | update t p n =>
    have hends : (step g (.update t p n)).mode = .shutdown ↔ g.disarmed = false ∧
        (g.mode = .shutdown ∨ (g.flagSet .errorCriticalOVP = true ∨ pHalfAbort < p) ∧
          (g.mode = .controlled ∨ g.mode = .debug ∨ g.mode = .halfabort ∨
            g.mode = .pressurise ∧ p < pSetpoint + pPressExtra)) := by
      rw [step_mode h, Greg.cue, Mode.next, Mode.onUpdate_shutdown, decide_eq_true_iff,
        decide_eq_false_iff_not, not_le]
    unfold NotShutDown
    rw [hends]
    constructor
    · intro hstay htrip
      obtain ⟨hd, hc, hm⟩ := htrip
      have hshut : g.mode = .shutdown := hstay rfl ⟨hd, Or.inr ⟨hc, hm⟩⟩
      rw [hshut] at hm
      exact absurd hm (by simp)
    · intro hnot _ hend
      obtain ⟨hd, hshut | hc⟩ := hend
      · exact hshut
      · exact absurd ⟨hd, hc⟩ hnot
  | _ => exact iff_of_true (fun he => absurd he (by simp [Event.isUpdate])) id

/-- A run answers the two limits differently, and shuts down on its own only
above the full-abort limit, exactly when no reading of an untripped
`CONTROLLED` update falls between the limits and, if all its readings are
below the full-abort limit, no armed update trips. -/
theorem graded_iff (disarmed : Bool) (now : UInt32) (es : List Event) :
    (EachStep step Graded (Greg.setup disarmed now : Greg σ) es ∧
      ((∀ p ∈ readings es, p ≤ pFullAbort) →
        EachStep step NotShutDown (Greg.setup disarmed now : Greg σ) es)) ↔
    (EachStep step (fun g e => ¬BetweenLimits g e) (Greg.setup disarmed now : Greg σ) es ∧
      ((∀ p ∈ readings es, p ≤ pFullAbort) →
        EachStep step (fun g e => ¬Trips g e) (Greg.setup disarmed now : Greg σ) es)) := by
  have hstart : Consistent (Greg.setup disarmed now : Greg σ) := setup_consistent disarmed now
  have hhalf : (Greg.setup disarmed now : Greg σ).flagSet .errorHalfabort = false :=
    setup_flagSet disarmed now (by decide)
  have hgraded : EachStep step Graded (Greg.setup disarmed now : Greg σ) es ↔
      EachStep step (fun g e => ¬BetweenLimits g e) (Greg.setup disarmed now : Greg σ) es := by
    refine eachStep_congr (J := fun g => Consistent g ∧ g.flagSet .errorHalfabort = false)
      (fun g e hg _ => graded_iff_step hg.1.flags hg.2 e) ?_ ⟨hstart, hhalf⟩ (eachStep_true _ es)
    intro g e hg _ _
    refine ⟨step_consistent hg.1 e, ?_⟩
    rw [step_flag_ne hg.1.flags e (by decide) (by decide)]
    exact hg.2
  have hshut : EachStep step NotShutDown (Greg.setup disarmed now : Greg σ) es ↔
      EachStep step (fun g e => ¬Trips g e) (Greg.setup disarmed now : Greg σ) es :=
    eachStep_congr (J := Consistent) (fun g e hg _ => notShutDown_iff_step hg.flags e)
      (fun g e hg _ _ => step_consistent hg e) hstart (eachStep_true _ es)
  rw [hgraded, hshut]

/-- A reading of 60 shuts the controller down, though it is below the
full-abort limit. -/
theorem graded_fails :
    ¬(EachStep step Graded (Greg.setup false 0 : Greg StatusWord)
        [.execute 10 1, .update 20 60 100] ∧
      ((∀ p ∈ readings [.execute 10 1, .update 20 60 100], p ≤ pFullAbort) →
        EachStep step NotShutDown (Greg.setup false 0 : Greg StatusWord)
          [.execute 10 1, .update 20 60 100])) := by
  intro hclaim
  have hlast := eachStep_iff_split.mp hclaim.1 [.execute 10 1] (.update 20 60 100) [] rfl
  have hbands := hlast (by decide +kernel) (by decide +kernel) (by decide +kernel)
    (by decide +kernel)
  exact absurd (hbands.2.1 (by decide +kernel) (by decide +kernel)) (by decide +kernel)

end Heimdall
