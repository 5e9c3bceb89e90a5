import Heimdall.Buck.SiC43x
import Heimdall.Lib.EventRun

/-!
# Restarting the converter

`restart` is the request for a restart and the body `update` enters again until
the off-time is over. The first call notes the clock and the off-time; the
comparison that ends the restart uses the call's argument, which is the noted
off-time when `update` makes the call (`handle_entered`). So a restart keeps its
off-time in every run except where a request during it brings an off-time of
its own, and the two disagree on whether the time is over (`offTimeKept_iff`).

What the guarantee speaks about is observed and not read from the object: a
period begins when a restart is requested of a converter that is in none, and
ends when the converter is on again (`stepOff`).
-/

namespace Heimdall

open EventRun

/-- What happens to the converter. -/
inductive BuckEvent
  | restart (millis offTime : UInt32)
  | update (i : BuckInputs)
  deriving DecidableEq

def BuckEvent.millis : BuckEvent → UInt32
  | restart t _ => t
  | update i => i.millis

/-- A converter is off for a restart: since when, and for how long. -/
structure OffPeriod where
  start : UInt32
  offTime : UInt32
  deriving DecidableEq

/-- The period has been exceeded at `now`, on the wrapping clock. -/
def OffPeriod.Over (p : OffPeriod) (now : UInt32) : Prop := p.offTime < now - p.start

instance (p : OffPeriod) (now : UInt32) : Decidable (p.Over now) :=
  inferInstanceAs (Decidable (_ < _))

variable {τ : Type}

namespace SiC43x

/-! ## One call -/

/-- When the restart a call is part of began. -/
def began (c : SiC43x τ) (now : UInt32) : UInt32 := if c.restartFlag then c.prevtime else now

/-- What a call of `restart` does. -/
structure Restarted (c : SiC43x τ) (now offTime : UInt32) (c' : SiC43x τ) : Prop where
  isOn : c'.isOn = decide (offTime < now - c.began now)
  restartFlag : c'.restartFlag = !c'.isOn
  prevtime : c'.prevtime = c.began now
  offTime : c'.offTime = if c.restartFlag then c.offTime else offTime

/-- The converter a call has turned off, with the clock and the off-time of the
restart noted. -/
def turnedOff (c : SiC43x τ) (now offTime : UInt32) : SiC43x τ :=
  { c with
    prevtime := c.began now
    offTime := if c.restartFlag then c.offTime else offTime
    restartFlag := true }.setEN false

theorem restart_eq (now offTime : UInt32) (c : SiC43x τ) :
    c.restart now offTime =
      if offTime < now - c.began now then
        { (c.turnedOff now offTime).setEN true with restartFlag := false }
      else c.turnedOff now offTime := by
  unfold restart turnedOff began
  cases hflag : c.restartFlag <;> simp [setEN]

theorem restart_spec (now offTime : UInt32) (c : SiC43x τ) :
    Restarted c now offTime (c.restart now offTime) := by
  rw [restart_eq]
  by_cases hover : offTime < now - c.began now
  · rw [if_pos hover]
    have hon : ((c.turnedOff now offTime).setEN true).isOn = true := isOn_setEN true _
    exact ⟨hon.trans (decide_eq_true hover).symm, (congrArg (!·) hon).symm, rfl, rfl⟩
  · rw [if_neg hover]
    have hoff : (c.turnedOff now offTime).isOn = false := isOn_setEN false _
    exact ⟨hoff.trans (decide_eq_false hover).symm, (congrArg (!·) hoff).symm, rfl, rfl⟩

variable [SystemFlags τ]

/-- One event. -/
def handle (c : SiC43x τ) : BuckEvent → SiC43x τ
  | .restart t offTime => c.restart t offTime
  | .update i => c.update i

/-- The off-time `restart` is entered with, if the event enters it. -/
def entered (c : SiC43x τ) : BuckEvent → Option UInt32
  | .restart _ offTime => some offTime
  | .update _ => if c.restartFlag then some c.offTime else none

/-- An event that enters `restart` does to the restart what the call does. -/
theorem handle_entered {c : SiC43x τ} {e : BuckEvent} {offTime : UInt32}
    (h : c.entered e = some offTime) : Restarted c e.millis offTime (c.handle e) := by
  cases e with
  | restart t offTime' =>
    obtain rfl : offTime' = offTime := Option.some.inj h
    exact c.restart_spec t offTime'
  | update i =>
    cases hflag : c.restartFlag with
    | false => simp [entered, hflag] at h
    | true =>
      obtain rfl : c.offTime = offTime := by simpa [entered, hflag] using h
      have hsame := c.sameDrive_checks i
      -- the supervisions left alone what the call reads
      have hbegan : ((c.checkVoltage i).checkPGood i.pGood).began i.millis =
          c.began i.millis := by
        rw [began, began, hsame.restartFlag, hsame.prevtime]
      have hspec := ((c.checkVoltage i).checkPGood i.pGood).restart_spec
        i.millis c.offTime
      show Restarted c i.millis c.offTime (c.update i)
      rw [update_restarting hflag]
      refine ⟨?_, hspec.restartFlag, hspec.prevtime.trans hbegan, ?_⟩
      · rw [hspec.isOn, hbegan]
      · rw [hspec.offTime, hsame.restartFlag, hsame.offTime]

/-- An event that does not enter it leaves the drive alone. -/
theorem handle_not_entered {c : SiC43x τ} {e : BuckEvent} (h : c.entered e = none) :
    SameDrive c (c.handle e) := by
  cases e with
  | restart t offTime => exact absurd h (by simp [entered])
  | update i =>
    have hflag : c.restartFlag = false := by simpa [entered] using h
    show SameDrive c (c.update i)
    rw [update_idle hflag]
    exact c.sameDrive_checks i

end SiC43x

variable [SystemFlags τ]

/-! ## Whole runs -/

/-- The period an event finds the converter in, or begins. -/
def inPeriod (s : SiC43x τ × Option OffPeriod) : BuckEvent → Option OffPeriod
  | .restart t offTime => some (s.2.getD ⟨t, offTime⟩)
  | .update _ => s.2

/-- The converter, with the period it is in: over as soon as it is on. -/
def stepOff (s : SiC43x τ × Option OffPeriod) (e : BuckEvent) : SiC43x τ × Option OffPeriod :=
  (s.1.handle e, if (s.1.handle e).isOn then none else inPeriod s e)

/-- The converter is on after an event of a period exactly when the period has
been exceeded, and the restart flag is set exactly while a period lasts. -/
structure OffTimeKept (s : SiC43x τ × Option OffPeriod) (e : BuckEvent) : Prop where
  isOn : ∀ p, inPeriod s e = some p → ((s.1.handle e).isOn = true ↔ p.Over e.millis)
  restartFlag : (s.1.handle e).restartFlag = (stepOff s e).2.isSome

/-- A request inside a period has an off-time of its own that is over when the
period is not, or the other way round. -/
def Overrides (s : SiC43x τ × Option OffPeriod) : BuckEvent → Prop
  | .restart t offTime => ∃ p, s.2 = some p ∧ ¬(OffPeriod.Over ⟨p.start, offTime⟩ t ↔ p.Over t)
  | .update _ => False

/-- The converter has noted the period it is in. -/
structure Notes (s : SiC43x τ × Option OffPeriod) : Prop where
  restartFlag : s.1.restartFlag = s.2.isSome
  prevtime : ∀ p, s.2 = some p → s.1.prevtime = p.start
  offTime : ∀ p, s.2 = some p → s.1.offTime = p.offTime

theorem notes_inPeriod {τ : Type} {s : SiC43x τ × Option OffPeriod} (h : Notes s) {e : BuckEvent}
    {p : OffPeriod} (hp : inPeriod s e = some p) :
    ∃ offTime, s.1.entered e = some offTime ∧ s.1.began e.millis = p.start ∧
      (if s.1.restartFlag then s.1.offTime else offTime) = p.offTime := by
  have hflag := h.restartFlag
  cases hs : s.2 with
  | none =>
    rw [hs] at hflag
    cases e with
    | restart t offTime =>
      obtain rfl : OffPeriod.mk t offTime = p := by simpa [inPeriod, hs] using hp
      exact ⟨offTime, rfl, by rw [SiC43x.began, hflag]; rfl, by rw [hflag]; rfl⟩
    | update i => exact absurd (hs.symm.trans hp) (by simp)
  | some q =>
    obtain rfl : q = p := by
      cases e with
      | restart t offTime => simpa [inPeriod, hs] using hp
      | update i => exact Option.some.inj (hs.symm.trans hp)
    rw [hs] at hflag
    have hbegan : s.1.began e.millis = q.start := by
      rw [SiC43x.began, hflag]
      exact h.prevtime q hs
    have hentered : ∃ offTime, s.1.entered e = some offTime := by
      cases e with
      | restart t offTime => exact ⟨offTime, rfl⟩
      | update i => exact ⟨s.1.offTime, by rw [SiC43x.entered, hflag]; rfl⟩
    obtain ⟨offTime, hoff⟩ := hentered
    refine ⟨offTime, hoff, hbegan, ?_⟩
    rw [hflag]
    exact h.offTime q hs

/-- Outside a period only a request enters `restart`, and that begins one. -/
theorem notes_no_period {τ : Type} {s : SiC43x τ × Option OffPeriod} (h : Notes s) {e : BuckEvent}
    (hp : inPeriod s e = none) : s.1.entered e = none ∧ s.1.restartFlag = false := by
  cases e with
  | restart t offTime => exact absurd hp (by simp [inPeriod])
  | update i =>
    have hflag : s.1.restartFlag = false := by
      rw [h.restartFlag, show s.2 = none from hp]
      rfl
    exact ⟨by rw [SiC43x.entered, hflag]; rfl, hflag⟩

/-- A period that lasts is the one the event found or began. -/
theorem inPeriod_of_stepOff {s : SiC43x τ × Option OffPeriod} {e : BuckEvent} {p : OffPeriod}
    (h : (stepOff s e).2 = some p) : inPeriod s e = some p := by
  unfold stepOff at h
  dsimp only at h
  split at h
  · exact absurd h (by simp)
  · exact h

/-- The notes are kept by every event, whatever the requests bring. -/
theorem notes_step {s : SiC43x τ × Option OffPeriod} (h : Notes s) (e : BuckEvent) :
    Notes (stepOff s e) := by
  cases hp : inPeriod s e with
  | none =>
    obtain ⟨hentered, hflag⟩ := notes_no_period h hp
    have hsame := s.1.handle_not_entered hentered
    have hperiod : (stepOff s e).2 = none := by
      rw [stepOff, hp]
      exact ite_self none
    have hnone : ∀ p, (stepOff s e).2 ≠ some p := by simp [hperiod]
    refine ⟨?_, fun p hq => absurd hq (hnone p), fun p hq => absurd hq (hnone p)⟩
    rw [hperiod]
    exact hsame.restartFlag.trans hflag
  | some p =>
    obtain ⟨offTime, hentered, hbegan, hnoted⟩ := notes_inPeriod h hp
    have hspec := s.1.handle_entered hentered
    have hperiod : (stepOff s e).2 = if (s.1.handle e).isOn then none else some p := by
      rw [stepOff, hp]
    refine ⟨?_, fun q hq => ?_, fun q hq => ?_⟩
    · rw [hperiod]
      show (s.1.handle e).restartFlag = _
      rw [hspec.restartFlag]
      cases (s.1.handle e).isOn <;> rfl
    · obtain rfl : p = q := Option.some.inj (hp.symm.trans (inPeriod_of_stepOff hq))
      exact hspec.prevtime.trans hbegan
    · obtain rfl : p = q := Option.some.inj (hp.symm.trans (inPeriod_of_stepOff hq))
      exact hspec.offTime.trans hnoted

/-- When the converter is on after an event of a period: the comparison is made
with what `restart` was entered with. -/
theorem isOn_handle {s : SiC43x τ × Option OffPeriod} (h : Notes s) {e : BuckEvent}
    {p : OffPeriod} (hp : inPeriod s e = some p) {offTime : UInt32}
    (hentered : s.1.entered e = some offTime) :
    (s.1.handle e).isOn = true ↔ OffPeriod.Over ⟨p.start, offTime⟩ e.millis := by
  obtain ⟨-, -, hbegan, -⟩ := notes_inPeriod h hp
  rw [(s.1.handle_entered hentered).isOn, hbegan, decide_eq_true_iff]
  exact Iff.rfl

theorem offTimeKept_iff_step {s : SiC43x τ × Option OffPeriod} (h : Notes s) (e : BuckEvent) :
    OffTimeKept s e ↔ ¬Overrides s e := by
  have hflag := (notes_step h e).restartFlag
  cases e with
  | update i =>
    refine iff_of_true ⟨fun p hp => ?_, hflag⟩ id
    obtain ⟨offTime, hentered, -, hnoted⟩ := notes_inPeriod h hp
    -- `update` enters `restart` with the noted off-time
    obtain ⟨hset, rfl⟩ : s.1.restartFlag = true ∧ s.1.offTime = offTime := by
      simpa [SiC43x.entered] using hentered
    rw [if_pos hset] at hnoted
    rw [isOn_handle h hp hentered, hnoted]
  | restart t offTime =>
    cases hs : s.2 with
    | none =>
      refine iff_of_true ⟨fun p hp => ?_, hflag⟩ fun ⟨p, hp, _⟩ => absurd (hs.symm.trans hp) (by simp)
      -- a period of its own
      obtain rfl : OffPeriod.mk t offTime = p := by simpa [inPeriod, hs] using hp
      exact isOn_handle h hp rfl
    | some q =>
      have hperiod : inPeriod s (.restart t offTime) = some q := by simp [inPeriod, hs]
      have hon := isOn_handle h hperiod rfl
      constructor
      · intro hkept hover
        rcases hover with ⟨p, hp, hdiffer⟩
        obtain rfl : q = p := Option.some.inj (hs.symm.trans hp)
        exact hdiffer (hon.symm.trans (hkept.isOn q hperiod))
      · intro hnot
        refine ⟨fun p hp => ?_, hflag⟩
        obtain rfl : q = p := Option.some.inj (hperiod.symm.trans hp)
        by_contra hdiffer
        exact hnot ⟨q, hs, fun hagree => hdiffer (hon.trans hagree)⟩

/-- A run of requests and updates, from a converter that is in no restart, keeps
every off-time exactly when no request inside a period disagrees with it. -/
theorem offTimeKept_iff (c : SiC43x τ) (hidle : c.restartFlag = false) (es : List BuckEvent) :
    EachStep stepOff OffTimeKept (c, none) es ↔
      EachStep stepOff (fun s e => ¬Overrides s e) (c, none) es :=
  eachStep_congr (fun _ e hs _ => offTimeKept_iff_step hs e) (fun _ e hs _ _ => notes_step hs e)
    (J := Notes) ⟨hidle, fun _ h => absurd h (by simp), fun _ h => absurd h (by simp)⟩
    (eachStep_true _ es)

/-- The board's converter, with nothing on its voltage pin. -/
def boardBuck : SiC43x SystemWord :=
  .new .cleared 48 21 true false (-1) 0 1 .zero

/-- A restart of two seconds across the wrap of the counter. -/
theorem offTimeKept_wrap :
    EachStep stepOff OffTimeKept (boardBuck, none)
      [.restart 4294967000 2000, .update ⟨1700, true, 0, 0⟩, .update ⟨1705, true, 0, 0⟩] := by
  exact (offTimeKept_iff boardBuck rfl _).mpr ⟨fun ⟨p, hp, _⟩ => absurd hp (by simp), id, id, trivial⟩

/-- A request for no off-time at all, 5 ms into a restart of two seconds, turns
the converter on. -/
theorem offTimeKept_fails :
    ¬EachStep stepOff OffTimeKept (boardBuck, none) [.restart 100 2000, .restart 105 0] := by
  intro hclaim
  rcases hclaim with ⟨-, hkept, -⟩
  have hover := (hkept.isOn ⟨100, 2000⟩ (by decide +kernel)).mp (by decide +kernel)
  exact absurd hover (by decide +kernel)

end Heimdall
