import Mathlib.Tactic.TypeStar

/-!
# Programs that can fail half way

A C function that returns false, or a null pointer, has often done part of its
work by then: what it has changed stays changed. `Fallible σ α` is such a program,
a state transition that gives an `α` back or nothing, and leaves a state in both
cases. Its `do` stops at the first call that fails, as a chain of `goto fail` does.

`Meets p Q E s` says what `p` does from `s`: when it succeeds `Q` holds of what it
returns and of the state it leaves, when it fails `E` holds of the state it leaves.
It is a weakest precondition, so that it computes along a program: there is one
equation for each way programs are put together (`meets_bind` is the one that
matters), a rule of consequence (`Meets.mono`), and a rule for loops that count
down (`meets_repeat`). Nothing here knows what the states are.
-/

universe u v w

/-- What a call that can fail gives back, and the state it leaves in either case. -/
def Fallible (σ : Type u) (α : Type v) : Type (max u v) := σ → Option α × σ

namespace Fallible

variable {σ : Type u} {τ : Type w} {α β : Type v}

instance : Monad (Fallible σ) where
  pure a := fun s => (some a, s)
  bind p f := fun s =>
    match p s with
    | (some a, t) => f a t
    | (none, t) => (none, t)

/-- Gives up, leaving everything as it is. -/
def fail : Fallible σ α := fun s => (none, s)

/-- Goes on only if `b` holds. -/
def require (b : Bool) : Fallible σ PUnit := fun s => (if b then some ⟨⟩ else none, s)

/-- `p`, if `b` holds. -/
def given (b : Bool) (p : Fallible σ PUnit) : Fallible σ PUnit := if b then p else pure ⟨⟩

/-- The state itself. -/
def state : Fallible σ σ := fun s => (some s, s)

def change (f : σ → σ) : Fallible σ PUnit := fun s => (some ⟨⟩, f s)

/-- `p`, and `f` once it has failed. -/
def onFail (f : σ → σ) (p : Fallible σ α) : Fallible σ α := fun s =>
  let r := p s
  (r.1, if r.1.isNone then f r.2 else r.2)

/-- A program on a part of the state. -/
def within (part : τ → σ) (put : τ → σ → τ) (p : Fallible σ α) : Fallible τ α := fun t =>
  let r := p (part t)
  (r.1, put t r.2)

/-- `p`, `n` times, handing on what it returns. -/
def repeated (p : α → Fallible σ α) : Nat → α → Fallible σ α
  | 0, a => pure a
  | n + 1, a => do repeated p n (← p a)

theorem bind_of_some {p : Fallible σ α} {f : α → Fallible σ β} {s t : σ} {a : α}
    (h : p s = (some a, t)) : (p >>= f) s = f a t := by
  show (match p s with | (some a, t) => f a t | (none, t) => (none, t)) = _
  rw [h]

theorem bind_of_none {p : Fallible σ α} {f : α → Fallible σ β} {s t : σ}
    (h : p s = (none, t)) : (p >>= f) s = (none, t) := by
  show (match p s with | (some a, t) => f a t | (none, t) => (none, t)) = _
  rw [h]

theorem given_of_true {b : Bool} (h : b = true) (p : Fallible σ PUnit) : given b p = p := if_pos h

theorem given_of_false {b : Bool} (h : b = false) (p : Fallible σ PUnit) :
    given b p = pure ⟨⟩ := if_neg (Bool.not_eq_true b ▸ h)

/-! ## What a program does -/

/-- From `s`, `p` succeeds with `Q` or fails with `E`. -/
def Meets (p : Fallible σ α) (Q : α → σ → Prop) (E : σ → Prop) (s : σ) : Prop :=
  match p s with
  | (some a, t) => Q a t
  | (none, t) => E t

variable {p : Fallible σ α} {Q Q' : α → σ → Prop} {E E' : σ → Prop} {s : σ}

theorem Meets.intro {r : Option α} {t : σ} (hp : p s = (r, t)) (hQ : ∀ a, r = some a → Q a t)
    (hE : r = none → E t) : p.Meets Q E s := by
  unfold Meets
  rw [hp]
  cases r with
  | none => exact hE rfl
  | some a => exact hQ a rfl

/-- The rule of consequence. -/
theorem Meets.mono (h : p.Meets Q E s) (hQ : ∀ a t, Q a t → Q' a t) (hE : ∀ t, E t → E' t) :
    p.Meets Q' E' s := by
  unfold Meets at h ⊢
  rcases hp : p s with ⟨_ | a, t⟩
  · rw [hp] at h
    exact hE t h
  · rw [hp] at h
    exact hQ a t h

/-- Two things a program does, it does at once. -/
theorem Meets.and (h : p.Meets Q E s) (h' : p.Meets Q' E' s) :
    p.Meets (fun a t => Q a t ∧ Q' a t) (fun t => E t ∧ E' t) s := by
  unfold Meets at h h' ⊢
  rcases hp : p s with ⟨_ | a, t⟩
  · rw [hp] at h h'
    exact ⟨h, h'⟩
  · rw [hp] at h h'
    exact ⟨h, h'⟩

/-- What holds of the state both ways holds of the state that is left. -/
theorem Meets.after {P : σ → Prop} (h : p.Meets (fun _ t => P t) P s) : P (p s).2 := by
  unfold Meets at h
  rcases hp : p s with ⟨_ | a, t⟩
  · rw [hp] at h
    exact h
  · rw [hp] at h
    exact h

theorem Meets.of_some (h : p.Meets Q E s) {a : α} {t : σ} (hp : p s = (some a, t)) : Q a t := by
  unfold Meets at h
  rw [hp] at h
  exact h

theorem Meets.of_none (h : p.Meets Q E s) {t : σ} (hp : p s = (none, t)) : E t := by
  unfold Meets at h
  rw [hp] at h
  exact h

@[simp] theorem meets_pure (a : α) : (pure a : Fallible σ α).Meets Q E s ↔ Q a s := Iff.rfl

@[simp] theorem meets_fail : (fail : Fallible σ α).Meets Q E s ↔ E s := Iff.rfl

/-- One program after another: the second has to do the rest from wherever the
first one leaves off. -/
theorem meets_bind (f : α → Fallible σ β) {Q : β → σ → Prop} :
    (p >>= f).Meets Q E s ↔ p.Meets (fun a t => (f a).Meets Q E t) E s := by
  show (match (match p s with | (some a, t) => f a t | (none, t) => (none, t)) with
    | (some b, t) => Q b t | (none, t) => E t) ↔ _
  unfold Meets
  rcases p s with ⟨_ | a, t⟩
  · exact Iff.rfl
  · exact Iff.rfl

@[simp] theorem meets_require (b : Bool) {Q : PUnit → σ → Prop} :
    (require b : Fallible σ PUnit).Meets Q E s ↔ (b = true → Q ⟨⟩ s) ∧ (b = false → E s) := by
  cases b with
  | false => exact ⟨fun h => ⟨fun hb => absurd hb Bool.false_ne_true, fun _ => h⟩,
      fun h => h.2 rfl⟩
  | true => exact ⟨fun h => ⟨fun _ => h, fun hb => absurd hb.symm Bool.false_ne_true⟩,
      fun h => h.1 rfl⟩

theorem meets_given (b : Bool) {p : Fallible σ PUnit} {Q : PUnit → σ → Prop} :
    (given b p).Meets Q E s ↔ (b = true → p.Meets Q E s) ∧ (b = false → Q ⟨⟩ s) := by
  cases b with
  | false => exact ⟨fun h => ⟨fun hb => absurd hb Bool.false_ne_true, fun _ => h⟩,
      fun h => h.2 rfl⟩
  | true => exact ⟨fun h => ⟨fun _ => h, fun hb => absurd hb.symm Bool.false_ne_true⟩,
      fun h => h.1 rfl⟩

@[simp] theorem meets_state {Q : σ → σ → Prop} :
    (state : Fallible σ σ).Meets Q E s ↔ Q s s := Iff.rfl

@[simp] theorem meets_change (f : σ → σ) {Q : PUnit → σ → Prop} :
    (change f).Meets Q E s ↔ Q ⟨⟩ (f s) := Iff.rfl

theorem meets_within (part : τ → σ) (put : τ → σ → τ) {Q : α → τ → Prop} {E : τ → Prop} {t : τ} :
    (within part put p).Meets Q E t ↔
      p.Meets (fun a s => Q a (put t s)) (fun s => E (put t s)) (part t) := by
  show (match ((p (part t)).1, put t (p (part t)).2) with
    | (some a, t') => Q a t' | (none, t') => E t') ↔ _
  unfold Meets
  rcases p (part t) with ⟨_ | a, s⟩
  · exact Iff.rfl
  · exact Iff.rfl

theorem meets_onFail (f : σ → σ) : (onFail f p).Meets Q E s ↔ p.Meets Q (fun t => E (f t)) s := by
  show (match ((p s).1, if (p s).1.isNone then f (p s).2 else (p s).2) with
    | (some a, t) => Q a t | (none, t) => E t) ↔ _
  unfold Meets
  rcases p s with ⟨_ | a, t⟩
  · exact Iff.rfl
  · exact Iff.rfl

/-- A loop that counts down keeps an invariant indexed by the count. -/
theorem meets_repeat {p : α → Fallible σ α} {I : Nat → α → σ → Prop}
    (hstep : ∀ n a t, I (n + 1) a t → (p a).Meets (I n) E t) {n : Nat} {a : α} (h : I n a s) :
    (repeated p n a).Meets (I 0) E s := by
  induction n generalizing a s with
  | zero => exact h
  | succ n ih =>
    rw [repeated, meets_bind]
    exact (hstep n a s h).mono (fun b t hb => ih hb) fun _ h => h

end Fallible
