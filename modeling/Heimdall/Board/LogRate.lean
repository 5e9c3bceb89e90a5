import Heimdall.Board.Loop
import Mathlib.Data.List.Pairwise
import Mathlib.Algebra.Ring.Nat
import Mathlib.Tactic.Ring

/-!
# The telemetry log's rate

`logReadings` keeps the time of the last frame in 32 bits and subtracts it from
a clock of 64. While the last frame is younger than 2^32 µs, which is 71 minutes
after power-up, the comparison is the one meant; from then on it is true of
every call (`logDue_of_late`). So no frame that is due is ever missed, and two
frames come too close exactly when a call follows a late frame too soon
(`rateKept_iff`).
-/

namespace Heimdall

open EventRun

variable {σ τ : Type}

namespace Board

/-! ## The comparison -/

/-- The kept time is the low half of the last frame's. -/
def Keeps (b : Board σ τ) : Prop :=
  ∀ f, b.frames.head? = some f → b.prevTelemetryLogTime = f.timestamp.toUInt32

theorem prev_toNat {b : Board σ τ} (h : b.Keeps) {f : TelemetryLogframe}
    (hf : b.frames.head? = some f) :
    b.prevTelemetryLogTime.toNat = f.timestamp.toNat % 2 ^ 32 := by
  rw [h f hf]
  exact UInt64.toNat_toUInt32 _

/-- A call more than the delta after the last frame is due, -/
theorem logDue_of_apart {b : Board σ τ} (h : b.Keeps) {f : TelemetryLogframe}
    (hf : b.frames.head? = some f) {now : UInt64} (hapart : f.timestamp.toNat + 1000 < now.toNat) :
    b.LogDue now := by
  have hprev := prev_toNat h hf
  have hle : f.timestamp.toNat % 2 ^ 32 ≤ f.timestamp.toNat := Nat.mod_le _ _
  show ((1000 : Nat) : Int) < now.toNat - b.prevTelemetryLogTime.toNat
  omega

/-- an earlier one is not while the last frame's time fits its 32 bits, -/
theorem not_logDue_of_early {b : Board σ τ} (h : b.Keeps) {f : TelemetryLogframe}
    (hf : b.frames.head? = some f) {now : UInt64} (hearly : f.timestamp.toNat < 2 ^ 32)
    (hclose : now.toNat ≤ f.timestamp.toNat + 1000) : ¬b.LogDue now := by
  have hprev := prev_toNat h hf
  have hmod : f.timestamp.toNat % 2 ^ 32 = f.timestamp.toNat := Nat.mod_eq_of_lt hearly
  show ¬((1000 : Nat) : Int) < now.toNat - b.prevTelemetryLogTime.toNat
  omega

/-- and every call is once it does not. -/
theorem logDue_of_late {b : Board σ τ} (h : b.Keeps) {f : TelemetryLogframe}
    (hf : b.frames.head? = some f) {now : UInt64} (hlate : 2 ^ 32 ≤ f.timestamp.toNat)
    (hnow : f.timestamp.toNat ≤ now.toNat) : b.LogDue now := by
  have hprev := prev_toNat h hf
  show ((1000 : Nat) : Int) < now.toNat - b.prevTelemetryLogTime.toNat
  omega

/-! ## One cycle -/

@[simp] theorem frames_reportSD [SystemFlags τ] (sdError : UInt8) (b : Board σ τ) :
    (b.reportSD sdError).frames = b.frames := by
  unfold reportSD
  split <;> rfl

@[simp] theorem prev_reportSD [SystemFlags τ] (sdError : UInt8) (b : Board σ τ) :
    (b.reportSD sdError).prevTelemetryLogTime = b.prevTelemetryLogTime := by
  unfold reportSD
  split <;> rfl

variable [SystemFlags τ]

/-- What the cycle has read when it logs. -/
def sensed (libs : BoardLibs τ) (b : Board σ τ) (i : CycleInputs) : Board σ τ :=
  (b.deviceUpdate i).remoteSensorUpdate libs

variable [SystemStatus σ]

/-- Of the cycle, only the logging touches the log. -/
theorem frames_systemUpdate (libs : BoardLibs τ) (b : Board σ τ) (i : CycleInputs) :
    (b.systemUpdate libs i).frames = ((b.sensed libs i).logTelemetry i.micros).frames :=
  frames_reportSD i.sdError _

theorem prev_systemUpdate (libs : BoardLibs τ) (b : Board σ τ) (i : CycleInputs) :
    (b.systemUpdate libs i).prevTelemetryLogTime =
      ((b.sensed libs i).logTelemetry i.micros).prevTelemetryLogTime :=
  prev_reportSD i.sdError _

/-- A cycle that logs, -/
theorem systemUpdate_due (libs : BoardLibs τ) {b : Board σ τ} {i : CycleInputs}
    (h : b.LogDue i.micros) :
    (b.systemUpdate libs i).frames = (b.sensed libs i).logframe i.micros :: b.frames ∧
      (b.systemUpdate libs i).prevTelemetryLogTime = i.micros.toUInt32 := by
  have hdue : (b.sensed libs i).LogDue i.micros := h
  rw [frames_systemUpdate, prev_systemUpdate, logTelemetry, if_pos hdue]
  exact ⟨rfl, rfl⟩

/-- and one that does not. -/
theorem systemUpdate_not_due (libs : BoardLibs τ) {b : Board σ τ} {i : CycleInputs}
    (h : ¬b.LogDue i.micros) :
    (b.systemUpdate libs i).frames = b.frames ∧
      (b.systemUpdate libs i).prevTelemetryLogTime = b.prevTelemetryLogTime := by
  have hdue : ¬(b.sensed libs i).LogDue i.micros := h
  rw [frames_systemUpdate, prev_systemUpdate, logTelemetry, if_neg hdue]
  exact ⟨rfl, rfl⟩

theorem keeps_systemUpdate (libs : BoardLibs τ) {b : Board σ τ} (h : b.Keeps) (i : CycleInputs) :
    (b.systemUpdate libs i).Keeps := by
  intro f hf
  by_cases hdue : b.LogDue i.micros
  · obtain ⟨hframes, hprev⟩ := systemUpdate_due libs hdue
    rw [hframes] at hf
    obtain rfl := Option.some.inj hf
    exact hprev
  · obtain ⟨hframes, hprev⟩ := systemUpdate_not_due libs hdue
    rw [hframes] at hf
    exact hprev.trans (h f hf)

/-- Nothing has been logged when the loop starts. -/
theorem frames_setup (libs : BoardLibs τ) (begins : Bool) (now : UInt32) :
    (setup libs begins now : Board σ τ).frames = [] := by
  cases begins <;> rfl

theorem no_frame_setup (libs : BoardLibs τ) (begins : Bool) (now : UInt32) (f : TelemetryLogframe) :
    (setup libs begins now : Board σ τ).frames.head? ≠ some f := by
  rw [frames_setup, List.head?_nil]
  exact (Option.some_ne_none f).symm

theorem keeps_setup (libs : BoardLibs τ) (begins : Bool) (now : UInt32) :
    (setup libs begins now : Board σ τ).Keeps :=
  fun f hf => absurd hf (no_frame_setup libs begins now f)

end Board

/-! ## Whole runs -/

variable [SystemFlags τ] [SystemStatus σ]

/-- A frame the cycle logs is more than the delta after the last one, and a
cycle more than the delta after it logs one. -/
structure RateKept (libs : BoardLibs τ) (b : Board σ τ) (i : CycleInputs) : Prop where
  apart : ∀ f f', b.frames.head? = some f → (b.systemUpdate libs i).frames = f' :: b.frames →
    f.timestamp.toNat + telemetryLogDelta.toNat < f'.timestamp.toNat
  logs : ∀ f, b.frames.head? = some f →
    f.timestamp.toNat + telemetryLogDelta.toNat < i.micros.toNat →
    ∃ f', (b.systemUpdate libs i).frames = f' :: b.frames

/-- The cycle is not more than the delta after a frame logged at 2^32 µs or
later. -/
def Floods (b : Board σ τ) (i : CycleInputs) : Prop :=
  ∃ f, b.frames.head? = some f ∧ 2 ^ 32 ≤ f.timestamp.toNat ∧
    i.micros.toNat ≤ f.timestamp.toNat + telemetryLogDelta.toNat

/-- The clock has not gone back behind the last frame. -/
def AfterLast (b : Board σ τ) (i : CycleInputs) : Prop :=
  ∀ f, b.frames.head? = some f → f.timestamp.toNat ≤ i.micros.toNat

theorem rateKept_iff_step (libs : BoardLibs τ) {b : Board σ τ} (h : b.Keeps) {i : CycleInputs}
    (hclock : AfterLast b i) : RateKept libs b i ↔ ¬Floods b i := by
  constructor
  · intro hkept hfloods
    rcases hfloods with ⟨f, hf, hlate, hclose⟩
    obtain ⟨hframes, -⟩ := Board.systemUpdate_due libs (Board.logDue_of_late h hf hlate (hclock f hf))
    exact absurd (hkept.apart f _ hf hframes) (Nat.not_lt.mpr hclose)
  · intro hnot
    refine ⟨fun f f' hf hframes => ?_, fun f hf hlater => ?_⟩
    · -- a frame was logged: were it too close, the last one would be late
      by_contra hclose
      have hdue : b.LogDue i.micros := by
        by_contra hnotdue
        have hsame := (Board.systemUpdate_not_due libs hnotdue).1
        exact List.cons_ne_self f' b.frames (hframes.symm.trans hsame)
      obtain ⟨hlogged, -⟩ := Board.systemUpdate_due libs hdue
      have hstamp : f'.timestamp = i.micros := by
        rw [(List.cons.inj (hframes.symm.trans hlogged)).1]
        rfl
      rw [hstamp] at hclose
      refine hnot ⟨f, hf, Nat.le_of_not_lt fun hearly => ?_, Nat.le_of_not_lt hclose⟩
      exact Board.not_logDue_of_early h hf hearly (Nat.le_of_not_lt hclose) hdue
    · exact ⟨_, (Board.systemUpdate_due libs (Board.logDue_of_apart h hf hlater)).1⟩

/-- The microsecond clock of a run never goes back. -/
def NonDecreasingMicros (is : List CycleInputs) : Prop :=
  is.Pairwise fun i i' => i.micros.toNat ≤ i'.micros.toNat

/-- So it is never behind the last frame. -/
theorem afterLast_eachStep (libs : BoardLibs τ) {b : Board σ τ} {is : List CycleInputs}
    (hclock : NonDecreasingMicros is) (hlast : ∀ i ∈ is, AfterLast b i) :
    EachStep (Board.systemUpdate libs) AfterLast b is := by
  induction is generalizing b with
  | nil => trivial
  | cons i is ih =>
    obtain ⟨hhead, htail⟩ := List.pairwise_cons.mp hclock
    refine ⟨hlast i List.mem_cons_self, ih htail fun i' hi' f hf => ?_⟩
    by_cases hdue : b.LogDue i.micros
    · rw [(Board.systemUpdate_due libs hdue).1] at hf
      obtain rfl := Option.some.inj hf
      exact hhead i' hi'
    · rw [(Board.systemUpdate_not_due libs hdue).1] at hf
      exact hlast i' (List.mem_cons_of_mem i hi') f hf

/-- Over every run of the board's loop, the log keeps its rate exactly when no
cycle comes within the delta after a frame logged at 2^32 µs or later. -/
theorem rateKept_iff (libs : BoardLibs τ) (begins : Bool) (now : UInt32) (is : List CycleInputs)
    (hclock : NonDecreasingMicros is) :
    EachStep (Board.systemUpdate libs) (RateKept libs)
        (Board.setup libs begins now : Board σ τ) is ↔
      EachStep (Board.systemUpdate libs) (fun b i => ¬Floods b i)
        (Board.setup libs begins now : Board σ τ) is := by
  exact eachStep_congr (J := Board.Keeps) (fun _ _ hb hc => rateKept_iff_step libs hb hc)
    (fun _ i hb _ _ => Board.keeps_systemUpdate libs hb i) (Board.keeps_setup libs begins now)
    (afterLast_eachStep libs hclock fun _ _ f hf =>
      absurd hf (Board.no_frame_setup libs begins now f))

/-- A cycle of the plain board at a time. -/
def cycleAt (micros : UInt64) : CycleInputs :=
  { millis := (micros / 1000).toUInt32, micros := micros, adc0 := fun _ => 0, tc0 := 20, tc1 := 20,
    sdError := 0, pGood := true }

/-- The board after its first frame. -/
def afterFirst (micros : UInt64) : Board StatusWord SystemWord :=
  (Board.setup plainLibs true 0).systemUpdate plainLibs (cycleAt micros)

theorem afterFirst_head (micros : UInt64) (h : 1000 < micros.toNat) :
    (afterFirst micros).frames.head? = some ⟨10, 100, 20, 20, micros⟩ := by
  have hdue : (Board.setup plainLibs true 0 : Board StatusWord SystemWord).LogDue micros := by
    show ((1000 : Nat) : Int) < micros.toNat - ((0 : Nat) : Int)
    omega
  rw [afterFirst, (Board.systemUpdate_due (i := cycleAt micros) plainLibs hdue).1]
  rfl

/-- Two frames 2 ms apart, soon after power-up. -/
theorem rateKept_early :
    EachStep (Board.systemUpdate plainLibs) (RateKept plainLibs)
      (Board.setup plainLibs true 0 : Board StatusWord SystemWord) [cycleAt 2000, cycleAt 4000] := by
  have hclock : NonDecreasingMicros [cycleAt 2000, cycleAt 4000] := by
    unfold NonDecreasingMicros
    decide
  refine (rateKept_iff plainLibs true 0 _ hclock).mpr ⟨?_, ?_, trivial⟩
  · intro hfloods
    rcases hfloods with ⟨f, hf, -⟩
    exact Board.no_frame_setup plainLibs true 0 f hf
  · intro hfloods
    rcases hfloods with ⟨f, hf, hlate, -⟩
    obtain rfl := Option.some.inj ((afterFirst_head 2000 (by decide)).symm.trans hf)
    exact absurd hlate (by decide)

/-- The frame at 2^32 µs is followed by another one microsecond later. -/
theorem rateKept_fails :
    ¬EachStep (Board.systemUpdate plainLibs) (RateKept plainLibs)
      (Board.setup plainLibs true 0 : Board StatusWord SystemWord)
      [cycleAt 4294967296, cycleAt 4294967297] := by
  intro hclaim
  rcases hclaim with ⟨-, hkept, -⟩
  have hhead := afterFirst_head 4294967296 (by decide)
  have hkeeps : (afterFirst 4294967296).Keeps :=
    Board.keeps_systemUpdate plainLibs (Board.keeps_setup plainLibs true 0) _
  have hclock : AfterLast (afterFirst 4294967296) (cycleAt 4294967297) := by
    intro f hf
    obtain rfl := Option.some.inj (hhead.symm.trans hf)
    decide
  exact (rateKept_iff_step plainLibs hkeeps hclock).mp hkept ⟨_, hhead, by decide, by decide⟩

end Heimdall
