import Heimdall.Greg.Power

/-!
# How long the power stays on

In the states that do not move the servo the buck may stay on for two seconds
after the entry, and for one after each periodic refresh; and the refresh comes
at least every ten seconds, in every state. Both are bounds on the two timers
by what last happened, so the run is watched with a record of three times
(`Marks`): the last state entry, the last refresh and the last `buckOn`.

`TimersStep` says what an event can do to the timers, with the call that goes
with it: the deadline moves with an entry or a refresh, `m_prevBuckTime` with a
`buckOn`. The invariant `WithinBudget` is that the deadline is no further out
than the marks allow; `idle_budget` is what it says of a run.
-/

namespace Heimdall

open EventRun

variable {σ : Type} [SystemStatus σ]

/-! ## Calls of an event -/

namespace Call

/-- A state is entered. -/
def isEntry : Call → Bool
  | initializeState _ => true
  | _ => false

/-- The buck is switched on, which only `buckOn` does. -/
def isOn : Call → Bool
  | setEN level => level
  | _ => false

end Call

namespace Greg

/-- The calls on record include one of the kind `p`. -/
def called {σ : Type} (p : Call → Bool) (g : Greg σ) : Bool := g.calls.any fun c => p c.1

theorem called_mono {σ : Type} {p : Call → Bool} {g g' : Greg σ} (h : g.calls <:+ g'.calls)
    (hcalled : g.called p = true) : g'.called p = true := by
  unfold called at hcalled ⊢
  rw [List.any_eq_true] at hcalled ⊢
  obtain ⟨c, hc, hp⟩ := hcalled
  exact ⟨c, h.subset hc, hp⟩

theorem called_of_cons {σ : Type} {p : Call → Bool} {g g' : Greg σ} {c : Call × Moment σ}
    (h : g'.calls = c :: g.calls) (hp : p c.1 = true) : g'.called p = true := by
  rw [called, h, List.any_cons, hp, Bool.true_or]

/-! The record of calls only grows. -/

theorem WritesFlag.calls {f : GregFlags} {g g' : Greg σ} (h : WritesFlag f g g') :
    g.calls <:+ g'.calls := by
  cases h with
  | leaves => exact List.suffix_refl _
  | raises info n => exact List.suffix_cons _ _
  | lowers info n => exact List.suffix_cons _ _

theorem checkFlags_calls (g : Greg σ) : g.calls <:+ g.checkFlags.calls :=
  (checkDisconnect_writes _ _ _ g).calls.trans <|
    (checkDisconnect_writes _ _ _ _).calls.trans <|
    (checkOverPressure_writes _ _ _ _ _ _ _).calls.trans <|
    (checkOverPressure_writes _ _ _ _ _ _ _).calls.trans <|
    (checkGenericPTFlag_writes _ _ _ _).calls.trans <|
    (checkGenericPTFlag_writes _ _ _ _).calls.trans (raiseCritical_writes _).calls

theorem ownMove_calls {σ : Type} (g : Greg σ) : g.calls <:+ g.ownMove.calls := by
  have hstep := g.ownMove_step
  generalize g.ownMove = g' at hstep ⊢
  cases hstep with
  | idle hangle => exact List.suffix_refl _
  | sends angle hangle ff kp pAngle => exact List.suffix_cons _ _

/-! ## The timers of a transition -/

theorem changeState_calls (new : StateObj) (g : Greg σ) : g.calls <:+ (g.changeState new).calls := by
  have hexit : g.calls <:+ (g.machine.exitState g).calls := by
    cases g.machine <;> simp [StateObj.exitState, List.suffix_cons_iff]
  refine hexit.trans ?_
  unfold changeState initalize
  cases new <;> simp [StateObj.initializeState, List.suffix_cons_iff]

/-- A transition enters its state, and switches the buck on for an active one. -/
theorem changeState_called (new : StateObj) (g : Greg σ) :
    (g.changeState new).called Call.isEntry = true ∧
      (new.mode.isActive = true → (g.changeState new).called Call.isOn = true) := by
  unfold changeState initalize called
  cases new <;> simp [StateObj.initializeState, Call.isEntry, Call.isOn, StateObj.mode, Mode.isActive]

theorem changeState_prevBuckTime (new : StateObj) (g : Greg σ) :
    (g.changeState new).prevBuckTime =
      if new.mode.isActive then g.millis else g.prevBuckTime := by
  have hmillis := (g.machine.exitState_frame g).millis
  have hprev : (g.machine.exitState g).prevBuckTime = g.prevBuckTime := by
    cases g.machine <;> simp [StateObj.exitState]
  unfold changeState initalize
  cases new <;> simp [StateObj.initializeState, StateObj.mode, Mode.isActive, hmillis, hprev]

/-- The two passive states that set the deadline, and the third as it is
entered from `CONTROLLED`. -/
theorem changeState_buckOffTime {new : StateObj} {g : Greg σ}
    (h : new = .default ∨ new = .shutdown ∨
      (∃ angle, new = .halfabort angle) ∧ g.machine.mode = .controlled) :
    (g.changeState new).buckOffTime = g.millis + 2000 := by
  have hmillis := (g.machine.exitState_frame g).millis
  rcases h with rfl | rfl | ⟨⟨angle, rfl⟩, hm⟩
  · simp [changeState, initalize, StateObj.initializeState, hmillis]
  · simp [changeState, initalize, StateObj.initializeState, hmillis]
  · -- `Halfabort::initialize` leaves the deadline of `Controlled::exit`
    cases hmach : g.machine with
    | controlled stateEntry =>
      simp [changeState, initalize, StateObj.initializeState, StateObj.exitState, hmach]
    | _ =>
      rw [hmach] at hm
      exact absurd hm (by simp [StateObj.mode])

/-! ## The timers of an update before its transition -/

theorem managed_timers {σ : Type} (g : Greg σ) :
    if g.refreshDue then
      g.managed.prevBuckTime = g.millis ∧ g.managed.buckOffTime = g.millis + 1000 ∧
        g.managed.called Call.isOn = true
    else g.managed.prevBuckTime = g.prevBuckTime ∧ g.managed.buckOffTime = g.buckOffTime := by
  have hdue : refreshDue { g with value := g.status } ↔ g.refreshDue := Iff.rfl
  unfold managed buckManager
  by_cases hr : g.refreshDue
  · rw [if_pos hr, if_pos (hdue.mpr hr)]
    exact ⟨rfl, rfl, called_of_cons rfl rfl⟩
  · rw [if_neg hr, if_neg (fun h => hr (hdue.mp h))]
    split
    · exact ⟨rfl, rfl⟩
    · exact ⟨rfl, rfl⟩

theorem ownMove_timers {σ : Type} (g : Greg σ) :
    g.ownMove.prevBuckTime = g.prevBuckTime ∧ g.ownMove.buckOffTime = g.buckOffTime := by
  have hstep := g.ownMove_step
  generalize g.ownMove = g' at hstep ⊢
  cases hstep with
  | idle hangle => exact ⟨rfl, rfl⟩
  | sends angle hangle ff kp pAngle => exact ⟨rfl, rfl⟩

end Greg

/-- What an update does to the timers after its refresh: nothing, or the
deadline of the passive state it enters. -/
theorem update_timers {g : Greg σ} (h : FlagsAgree g) :
    g.update.prevBuckTime = g.managed.prevBuckTime ∧ g.managed.calls <:+ g.update.calls ∧
      (g.update.buckOffTime = g.millis + 2000 ∧ g.update.called Call.isEntry = true ∨
        g.update.machine = g.machine ∧ g.update.buckOffTime = g.managed.buckOffTime) := by
  have hmillis : g.managed.millis = g.millis := g.managed_powerOnly.frame.millis
  obtain ⟨hprev, hoff⟩ := g.managed.ownMove_timers
  have hown : g.managed.ownMove.millis = g.millis :=
    g.managed.ownMove_spec.frame.millis.trans hmillis
  have hchk := Greg.checkFlags_flagsOnly g.managed.ownMove
  have hstep := update_step h
  generalize g.update = g' at hstep ⊢
  cases hstep with
  | disarmed hd hm =>
    have hleft := Greg.checkFlags_flagsOnly (g.managed.changeState .default)
    refine ⟨?_, (Greg.changeState_calls _ _).trans (Greg.checkFlags_calls _), Or.inl ⟨?_, ?_⟩⟩
    · rw [hleft.prevBuckTime, Greg.changeState_prevBuckTime]
      rfl
    · rw [hleft.buckOffTime, Greg.changeState_buckOffTime (Or.inl rfl), hmillis]
    · exact Greg.called_mono (Greg.checkFlags_calls _) (Greg.changeState_called _ _).1
  | filled hd hm hf =>
    have hleft := Greg.checkFlags_flagsOnly (g.managed.ownMove.changeState .default)
    refine ⟨?_, (Greg.ownMove_calls _).trans
      ((Greg.changeState_calls _ _).trans (Greg.checkFlags_calls _)), Or.inl ⟨?_, ?_⟩⟩
    · rw [hleft.prevBuckTime, Greg.changeState_prevBuckTime]
      exact hprev
    · rw [hleft.buckOffTime, Greg.changeState_buckOffTime (Or.inl rfl), hown]
    · exact Greg.called_mono (Greg.checkFlags_calls _) (Greg.changeState_called _ _).1
  | tripped hd hm hf hc =>
    refine ⟨?_, (Greg.ownMove_calls _).trans
      ((Greg.checkFlags_calls _).trans (Greg.changeState_calls _ _)),
      Or.inl ⟨?_, (Greg.changeState_called _ _).1⟩⟩
    · rw [Greg.changeState_prevBuckTime]
      exact hchk.prevBuckTime.trans hprev
    · rw [Greg.changeState_buckOffTime (Or.inr (Or.inl rfl)), hchk.frame.millis, hown]
  | halved hd hm hc hh =>
    have hctrl : g.managed.ownMove.checkFlags.machine.mode = .controlled := by
      rw [checkFlags_ownMove_machine]
      exact hm
    refine ⟨?_, (Greg.ownMove_calls _).trans
      ((Greg.checkFlags_calls _).trans (Greg.changeState_calls _ _)),
      Or.inl ⟨?_, (Greg.changeState_called _ _).1⟩⟩
    · rw [Greg.changeState_prevBuckTime]
      exact hchk.prevBuckTime.trans hprev
    · rw [Greg.changeState_buckOffTime (Or.inr (Or.inr ⟨⟨_, rfl⟩, hctrl⟩)), hchk.frame.millis, hown]
  | stayed hd hf hc hh =>
    refine ⟨hchk.prevBuckTime.trans hprev, (Greg.ownMove_calls _).trans (Greg.checkFlags_calls _),
      Or.inr ⟨checkFlags_ownMove_machine g, hchk.buckOffTime.trans hoff⟩⟩

/-! ## The timers of an event -/

/-- The event is an update that refreshes the buck. -/
def Greg.refreshes {σ : Type} (g : Greg σ) : Event → Bool
  | .update t _ _ => decide (g.begin t).refreshDue
  | _ => false

/-- What an event can do to the timers, and the call or the refresh behind it. -/
structure TimersStep (g : Greg σ) (e : Event) (g' : Greg σ) : Prop where
  on : g'.prevBuckTime = e.millis ∧ g'.called Call.isOn = true ∨ g'.prevBuckTime = g.prevBuckTime
  off : g'.mode.isActive = false →
    g'.buckOffTime = e.millis + 2000 ∧ g'.called Call.isEntry = true ∨
      g'.buckOffTime = e.millis + 1000 ∧ g.refreshes e = true ∨
      g.mode.isActive = false ∧ g'.buckOffTime = g.buckOffTime ∧ g.refreshes e = false
  /-- After an update the last refresh is recent. -/
  fresh : e.isUpdate = true → ¬e.millis - g'.prevBuckTime > 10000

/-- An event that leaves the timers and the state alone. -/
theorem TimersStep.of_eq {σ : Type} {g g' : Greg σ} {e : Event} (he : e.isUpdate = false)
    (hprev : g'.prevBuckTime = g.prevBuckTime) (hoff : g'.buckOffTime = g.buckOffTime)
    (hmachine : g'.machine = g.machine) : TimersStep g e g' where
  on := Or.inr hprev
  off := by
    intro hpassive
    refine Or.inr (Or.inr ⟨?_, hoff, ?_⟩)
    · rw [Greg.mode, hmachine] at hpassive
      exact hpassive
    · cases e with
      | update t p n => exact absurd he (by simp [Event.isUpdate])
      | _ => rfl
  fresh hup := absurd (he.symm.trans hup) (by decide)

theorem update_timersStep {g : Greg σ} (h : FlagsAgree g) (t : UInt32) (p n : ℚ) :
    TimersStep g (.update t p n) (step g (.update t p n)) := by
  have hman := ((g.begin t).sense p n).managed_timers
  obtain ⟨hprev, hcalls, hoff⟩ := update_timers (h.sense t p n)
  have hdue : ((g.begin t).sense p n).refreshDue ↔ (g.begin t).refreshDue := Iff.rfl
  by_cases hr : (g.begin t).refreshDue
  · rw [if_pos (hdue.mpr hr)] at hman
    obtain ⟨hmprev, hmoff, hon⟩ := hman
    have hnow : (step g (.update t p n)).prevBuckTime = t := hprev.trans hmprev
    refine ⟨Or.inl ⟨hnow, Greg.called_mono hcalls hon⟩, fun _ => ?_, fun _ => ?_⟩
    · rcases hoff with hentry | ⟨-, hkept⟩
      · exact Or.inl hentry
      · exact Or.inr (Or.inl ⟨hkept.trans hmoff, decide_eq_true hr⟩)
    · rw [hnow]
      show ¬t - t > 10000
      rw [UInt32.sub_self]
      decide
  · rw [if_neg (fun hr' => hr (hdue.mp hr'))] at hman
    obtain ⟨hmprev, hmoff⟩ := hman
    have hkeep : (step g (.update t p n)).prevBuckTime = g.prevBuckTime := hprev.trans hmprev
    refine ⟨Or.inr hkeep, fun hpassive => ?_, fun _ => ?_⟩
    · rcases hoff with hentry | ⟨hmachine, hkept⟩
      · exact Or.inl hentry
      · -- no transition, so it was passive before
        refine Or.inr (Or.inr ⟨?_, hkept.trans hmoff, decide_eq_false hr⟩)
        have hmode : (step g (.update t p n)).mode = g.mode := congrArg StateObj.mode hmachine
        rw [← hmode]
        exact hpassive
    · rw [hkeep]
      exact hr

theorem extended_timers (g : Greg σ) (commandID : UInt8) (arg : Int32) :
    (g.extendedCommandHandlerImpl commandID arg).prevBuckTime = g.prevBuckTime ∧
      (g.extendedCommandHandlerImpl commandID arg).buckOffTime = g.buckOffTime := by
  have hstep := extended_step g commandID arg
  generalize g.extendedCommandHandlerImpl commandID arg = g' at hstep ⊢
  cases hstep with
  | moves h6 hdbg => exact ⟨rfl, rfl⟩
  | setsAngle h7 => exact ⟨rfl, rfl⟩
  | ignored => exact ⟨rfl, rfl⟩

theorem step_timers {g : Greg σ} (h : FlagsAgree g) (e : Event) : TimersStep g e (step g e) := by
  cases e with
  | update t p n => exact update_timersStep h t p n
  | arm t => exact .of_eq rfl rfl rfl rfl
  | disarm t => exact .of_eq rfl rfl rfl rfl
  | execute t arg =>
    have hstep := step_execute h t arg
    generalize step g (.execute t arg) = g' at hstep ⊢
    cases hstep with
    | entered new hm hact =>
      refine ⟨Or.inl ⟨?_, (Greg.changeState_called new _).2 hact⟩, fun hpassive => ?_,
        fun hup => absurd hup (by simp [Event.isUpdate])⟩
      · rw [Greg.changeState_prevBuckTime, if_pos hact]
        rfl
      · rw [Greg.mode, Greg.changeState_mode, hact] at hpassive
        exact absurd hpassive (by decide)
    | shutdown =>
      refine ⟨Or.inr ?_, fun _ => Or.inl ⟨?_, (Greg.changeState_called .shutdown _).1⟩,
        fun hup => absurd hup (by simp [Event.isUpdate])⟩
      · rw [Greg.changeState_prevBuckTime]
        rfl
      · rw [Greg.changeState_buckOffTime (Or.inr (Or.inl rfl))]
        rfl
    | ignored => exact .of_eq rfl rfl rfl rfl
  | extended t commandID arg =>
    obtain ⟨hprev, hoff⟩ := extended_timers (g.begin t) commandID arg
    exact .of_eq rfl hprev hoff (extended_spec (g.begin t) commandID arg).machine

/-! ## The budget -/

/-- When a state was last entered, the buck last refreshed, and last switched
on. -/
structure Marks where
  entry : UInt32
  refresh : Option UInt32
  on : UInt32

/-- The marks after an event that led from `g` to `g'`. -/
def Marks.note (m : Marks) (g : Greg σ) (e : Event) (g' : Greg σ) : Marks where
  entry := if g'.called Call.isEntry then e.millis else m.entry
  refresh := if g.refreshes e then some e.millis else m.refresh
  on := if g'.called Call.isOn then e.millis else m.on

/-- The controller, with the marks of the run so far. -/
def stepMarked (s : Greg σ × Marks) (e : Event) : Greg σ × Marks :=
  (step s.1 e, s.2.note s.1 e (step s.1 e))

/-- `setup` enters `DEFAULT` and switches the buck on. -/
def setupMarked (disarmed : Bool) (now : UInt32) : Greg σ × Marks :=
  (Greg.setup disarmed now, { entry := now, refresh := none, on := now })

/-- The deadline is no further out than the last entry and the last refresh
allow. -/
def Marks.Allow (m : Marks) (t : UInt32) : Prop :=
  t.toNat ≤ m.entry.toNat + 2000 ∨ ∃ r ∈ m.refresh, t.toNat ≤ r.toNat + 1000

/-- An update that ends in a passive state leaves the buck on only within the
budget, and any update leaves it switched on within the last ten seconds. -/
def Budget (s : Greg σ × Marks) (e : Event) : Prop :=
  e.isUpdate = true →
    ((step s.1 e).mode.isActive = false → (step s.1 e).buckEN = true →
      (stepMarked s e).2.Allow e.millis) ∧
    e.millis.toNat ≤ (stepMarked s e).2.on.toNat + 10000

/-- The invariant: the timers are where the marks put them, and no mark is in
the future. -/
structure WithinBudget (s : Greg σ × Marks) : Prop where
  consistent : Consistent s.1
  on : s.1.prevBuckTime.toNat ≤ s.2.on.toNat
  off : s.1.mode.isActive = false → s.2.Allow s.1.buckOffTime
  prevPast : s.1.prevBuckTime.toNat ≤ s.1.millis.toNat
  entryPast : s.2.entry.toNat ≤ s.1.millis.toNat

/-- Adding a delay to a counter value adds at most that delay. -/
theorem toNat_add_le (t d : UInt32) : (t + d).toNat ≤ t.toNat + d.toNat := by
  rw [UInt32.toNat_add]
  exact Nat.mod_le _ _

/-- The marks an event leaves allow the deadline it leaves. -/
theorem allow_step {s : Greg σ × Marks} (h : WithinBudget s) {e : Event}
    (hclock : s.1.millis ≤ e.millis) (hpassive : (step s.1 e).mode.isActive = false) :
    (stepMarked s e).2.Allow (step s.1 e).buckOffTime := by
  rw [UInt32.le_iff_toNat_le] at hclock
  unfold Marks.Allow
  rcases (step_timers h.consistent.flags e).off hpassive with
    ⟨hoff, hentry⟩ | ⟨hoff, hrefresh⟩ | ⟨hbefore, hoff, hnone⟩
  · have hmark : (stepMarked s e).2.entry = e.millis := if_pos hentry
    rw [hoff, hmark]
    exact Or.inl (toNat_add_le e.millis 2000)
  · have hmark : (stepMarked s e).2.refresh = some e.millis := if_pos hrefresh
    rw [hoff, hmark]
    exact Or.inr ⟨e.millis, rfl, toNat_add_le e.millis 1000⟩
  · -- nothing moved the deadline, and a mark can only have moved forward
    have hmark : (stepMarked s e).2.refresh = s.2.refresh := if_neg (by rw [hnone]; decide)
    have hlater : s.2.entry.toNat ≤ (stepMarked s e).2.entry.toNat := by
      show _ ≤ (if _ then e.millis else s.2.entry).toNat
      split
      · exact h.entryPast.trans hclock
      · exact le_refl _
    rw [hoff, hmark]
    rcases h.off hbefore with hle | hle
    · exact Or.inl (by omega)
    · exact Or.inr hle

theorem withinBudget_step {s : Greg σ × Marks} (h : WithinBudget s) {e : Event}
    (hclock : s.1.millis ≤ e.millis) : WithinBudget (stepMarked s e) where
  consistent := step_consistent h.consistent e
  on := by
    have hnow : s.1.prevBuckTime.toNat ≤ e.millis.toNat :=
      h.prevPast.trans (UInt32.le_iff_toNat_le.mp hclock)
    show (step s.1 e).prevBuckTime.toNat ≤
      (if (step s.1 e).called Call.isOn then e.millis else s.2.on).toNat
    rcases (step_timers h.consistent.flags e).on with ⟨hprev, hon⟩ | hprev
    · rw [hprev, if_pos hon]
    · rw [hprev]
      split
      · exact hnow
      · exact h.on
  off := allow_step h hclock
  prevPast := by
    show (step s.1 e).prevBuckTime.toNat ≤ (step s.1 e).millis.toNat
    rw [step_millis h.consistent.flags]
    rcases (step_timers h.consistent.flags e).on with ⟨hprev, -⟩ | hprev
    · rw [hprev]
    · rw [hprev]
      exact h.prevPast.trans (UInt32.le_iff_toNat_le.mp hclock)
  entryPast := by
    show (if (step s.1 e).called Call.isEntry then e.millis else s.2.entry).toNat ≤
      (step s.1 e).millis.toNat
    rw [step_millis h.consistent.flags]
    split
    · exact le_refl _
    · exact h.entryPast.trans (UInt32.le_iff_toNat_le.mp hclock)

/-- An update that ends in a passive state with the buck on has just refreshed
it, or found a deadline that was not over and that was allowed. -/
theorem powered_allowed {s : Greg σ × Marks} (h : WithinBudget s) {t : UInt32} {p n : ℚ}
    (hclock : s.1.millis ≤ (Event.update t p n).millis)
    (hpassive : (step s.1 (.update t p n)).mode.isActive = false)
    (hon : (step s.1 (.update t p n)).buckEN = true) :
    (stepMarked s (.update t p n)).2.Allow t := by
  have hagree := h.consistent.flags
  have hoff := allow_step h hclock hpassive
  have hpower : (s.1.begin t).power = true := (step_buckEN_update hagree t p n).symm.trans hon
  unfold Greg.power at hpower
  by_cases hr : (s.1.begin t).refreshDue
  · have hmark : (stepMarked s (.update t p n)).2.refresh = some t := if_pos (decide_eq_true hr)
    exact Or.inr ⟨t, hmark, Nat.le_add_right _ _⟩
  rw [if_neg hr] at hpower
  split at hpower
  next => exact absurd hpower (by decide)
  next hpast =>
    have hle : t.toNat ≤ s.1.buckOffTime.toNat := by
      have hnot : ¬s.1.buckOffTime < t := hpast
      rw [UInt32.lt_iff_toNat_lt] at hnot
      omega
    rcases (step_timers hagree (.update t p n)).off hpassive with
      ⟨-, hentry⟩ | ⟨-, hrefresh⟩ | ⟨-, hkept, -⟩
    · have hmark : (stepMarked s (.update t p n)).2.entry = t := if_pos hentry
      refine Or.inl ?_
      rw [hmark]
      exact Nat.le_add_right _ _
    · exact absurd (of_decide_eq_true hrefresh) hr
    · rw [hkept] at hoff
      rcases hoff with hentry | ⟨r, hr', hrefresh⟩
      · exact Or.inl (hle.trans hentry)
      · exact Or.inr ⟨r, hr', hle.trans hrefresh⟩

/-- An update leaves the last `buckOn` within ten seconds. -/
theorem on_recent {s : Greg σ × Marks} (h : WithinBudget s) {e : Event}
    (hclock : s.1.millis ≤ e.millis) (hup : e.isUpdate = true) :
    e.millis.toNat ≤ (stepMarked s e).2.on.toNat + 10000 := by
  have hagree := h.consistent.flags
  have hnext := withinBudget_step h hclock
  have hprev : (step s.1 e).prevBuckTime.toNat ≤ (stepMarked s e).2.on.toNat := hnext.on
  have hmillis : (stepMarked s e).1.millis = e.millis := step_millis hagree e
  have hle : (step s.1 e).prevBuckTime ≤ e.millis := by
    rw [UInt32.le_iff_toNat_le, ← hmillis]
    exact hnext.prevPast
  have hfresh := (step_timers hagree e).fresh hup
  rw [gt_iff_lt, UInt32.not_lt, UInt32.le_iff_toNat_le, UInt32.toNat_sub_of_le _ _ hle] at hfresh
  have hten : (10000 : UInt32).toNat = 10000 := rfl
  omega

theorem budget_step {s : Greg σ × Marks} (h : WithinBudget s) {e : Event}
    (hclock : s.1.millis ≤ e.millis) : Budget s e := by
  intro hup
  refine ⟨?_, on_recent h hclock hup⟩
  intro hpassive hon
  cases e with
  | update t p n => exact powered_allowed h hclock hpassive hon
  | _ => exact absurd hup (by simp [Event.isUpdate])

/-- Over a run whose clock never goes back, every update keeps to the budget. -/
theorem idle_budget (disarmed : Bool) (now : UInt32) (es : List Event)
    (hclock : NonDecreasing now es) :
    EachStep stepMarked Budget (setupMarked disarmed now : Greg σ × Marks) es := by
  have hsteps : EachStep stepMarked (fun s e => s.1.millis ≤ e.millis)
      (setupMarked disarmed now : Greg σ × Marks) es :=
    (eachStep_fst (P := fun (g : Greg σ) (e : Event) => g.millis ≤ e.millis) fun _ _ => rfl).mpr
      (nonDecreasing_eachStep (setup_consistent disarmed now) hclock)
  have hstart : WithinBudget (setupMarked disarmed now : Greg σ × Marks) :=
    ⟨setup_consistent disarmed now, le_refl _, fun _ => Or.inl (toNat_add_le now 2000), le_refl _,
      le_refl _⟩
  refine (eachStep_congr (Q := fun _ _ => True) (J := WithinBudget)
    (fun s e hs hc => iff_of_true (budget_step hs hc) trivial)
    (fun s e hs hc _ => withinBudget_step hs hc) hstart hsteps).mpr (eachStep_true _ es)

/-- A shutdown at 500, with updates for eleven seconds after it. -/
theorem idle_budget_shutdown :
    EachStep stepMarked Budget (setupMarked false 0 : Greg StatusWord × Marks)
      [.execute 500 2, .update 2000 10 100, .update 3000 10 100, .update 11500 10 100] :=
  idle_budget false 0 _ (by decide)

end Heimdall
