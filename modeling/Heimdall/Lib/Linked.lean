import Mathlib.Data.List.Chain

/-!
# Lists threaded through a table

A table that gives each of its entries a successor, or none, holds lists without
storing any: `Linked next l` says that `l` is what following `next` from its first
element goes through, to the end. The successor of an element is the head of what
comes after it, which is the whole definition.

From an element there is one such list (`Linked.unique`), so none of them comes back
on itself (`Linked.nodup`). The two ways a table is changed under a list keep it one:
elsewhere (`Linked.congr`), and at its end to take in another element
(`Linked.snoc`).
-/

universe u

/-- `l` is what `next` goes through from the head of `l` to the end. -/
def Linked {α : Type u} (next : α → Option α) : List α → Prop
  | [] => True
  | a :: l => next a = l.head? ∧ Linked next l

namespace Linked

variable {α : Type u} {next next' : α → Option α} {a b : α} {l l₁ l₂ : List α}

theorem congr (h : Linked next l) (heq : ∀ x ∈ l, next' x = next x) : Linked next' l := by
  induction l with
  | nil => trivial
  | cons a l ih =>
    obtain ⟨ha, hl⟩ := h
    exact ⟨(heq a List.mem_cons_self).trans ha,
      ih hl fun x hx => heq x (List.mem_cons_of_mem a hx)⟩

/-- A list is a walk. -/
theorem isChain (h : Linked next l) : l.IsChain (next · = some ·) := by
  induction l with
  | nil => exact .nil
  | cons a l ih => exact (ih h.2).cons fun y hy => h.1.trans hy

theorem of_append (h : Linked next (l₁ ++ l₂)) : Linked next l₂ := by
  induction l₁ with
  | nil => exact h
  | cons a l₁ ih => exact ih h.2

theorem next_getElem (h : Linked next l) {i : ℕ} (hi : i < l.length) : next l[i] = l[i + 1]? := by
  induction l generalizing i with
  | nil => exact absurd hi (Nat.not_lt_zero i)
  | cons a l ih =>
    cases i with
    | zero => exact h.1.trans List.head?_eq_getElem?
    | succ i => exact ih h.2 (Nat.lt_of_succ_lt_succ hi)

theorem unique_of_head (h₁ : Linked next l₁) (h₂ : Linked next l₂) (hhead : l₁.head? = l₂.head?) :
    l₁ = l₂ := by
  induction l₁ generalizing l₂ with
  | nil => exact (List.head?_eq_none_iff.mp hhead.symm).symm
  | cons a l₁ ih =>
    cases l₂ with
    | nil => exact List.head?_eq_none_iff.mp hhead
    | cons b l₂ =>
      obtain rfl : a = b := Option.some.inj hhead
      rw [ih h₁.2 h₂.2 (h₁.1.symm.trans h₂.1)]

/-- An element has one list after it. -/
theorem unique (h₁ : Linked next (a :: l₁)) (h₂ : Linked next (a :: l₂)) : l₁ = l₂ :=
  (List.cons.inj (unique_of_head h₁ h₂ rfl)).2

theorem nodup (h : Linked next l) : l.Nodup := by
  induction l with
  | nil => exact List.nodup_nil
  | cons a l ih =>
    refine List.nodup_cons.mpr ⟨fun ha => ?_, ih h.2⟩
    -- coming back to `a` would leave two lists after it, one longer than the other
    obtain ⟨s, t, rfl⟩ := List.append_of_mem ha
    have htwice := unique h (of_append h.2)
    have hlen := congrArg List.length htwice
    rw [List.length_append, List.length_cons] at hlen
    omega

theorem append_congr (h : Linked next (l₁ ++ l)) (h' : Linked next' l₂)
    (heq : ∀ x ∈ l₁, next' x = next x) (hhead : l₂.head? = l.head?) : Linked next' (l₁ ++ l₂) := by
  induction l₁ with
  | nil => exact h'
  | cons a l₁ ih =>
    refine ⟨?_, ih h.2 fun x hx => heq x (List.mem_cons_of_mem a hx)⟩
    have hnext : next a = (l₁ ++ l).head? := h.1
    show next' a = (l₁ ++ l₂).head?
    rw [heq a List.mem_cons_self, hnext, List.head?_append, List.head?_append, hhead]

/-- The list takes in `b` at its end. -/
theorem snoc (h : Linked next (l ++ [a])) (heq : ∀ x ∈ l, next' x = next x)
    (ha : next' a = some b) (hb : next' b = none) : Linked next' (l ++ [a, b]) :=
  append_congr h ⟨ha, hb, trivial⟩ heq rfl

end Linked
