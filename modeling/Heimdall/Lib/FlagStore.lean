import Mathlib.Logic.Function.Basic
import Mathlib.Tactic.TypeStar

/-!
# Status words: a set of flags behind four operations

A component that reports its condition as flags only ever asks whether a flag
is set, sets one and clears one. `FlagStore F σ` is that interface over an
arbitrary enumeration `F`, with the laws of a set of flags as fields, so a
store that breaks them cannot be handed to the code that relies on them.

`FlagWord` is the implementation firmware uses, one bit of a machine word for
each flag. The laws hold of it as soon as no two flags share a bit
(`BitCode.bit_inj`), which is the obligation an enumeration of `1 << n` masks
discharges.
-/

/-- A status store over the flags `F`: the operations and the laws of a set. -/
class FlagStore (F : Type*) (σ : Type*) where
  empty : σ
  flagSet : σ → F → Bool
  newFlag : σ → F → σ
  deleteFlag : σ → F → σ
  flagSet_empty : ∀ f, flagSet empty f = false
  flagSet_newFlag : ∀ s f g, flagSet (newFlag s f) g = true ↔ g = f ∨ flagSet s g = true
  flagSet_deleteFlag : ∀ s f g, flagSet (deleteFlag s f) g = true ↔ g ≠ f ∧ flagSet s g = true

namespace FlagStore

variable {F σ : Type*} [FlagStore F σ]

/-- At least one of the listed flags is set. -/
def flagSetOr (s : σ) (fs : List F) : Bool := fs.any (flagSet s)

@[simp] theorem flagSet_newFlag_self (s : σ) (f : F) : flagSet (newFlag s f) f = true :=
  (flagSet_newFlag s f f).mpr (Or.inl rfl)

theorem flagSet_newFlag_ne (s : σ) {f g : F} (h : g ≠ f) :
    flagSet (newFlag s f) g = flagSet s g := by
  rw [Bool.eq_iff_iff, flagSet_newFlag]
  exact ⟨fun h' => h'.resolve_left h, Or.inr⟩

@[simp] theorem flagSet_deleteFlag_self (s : σ) (f : F) :
    flagSet (deleteFlag s f) f = false := by
  rw [Bool.eq_false_iff]
  intro h
  exact ((flagSet_deleteFlag s f f).mp h).1 rfl

theorem flagSet_deleteFlag_ne (s : σ) {f g : F} (h : g ≠ f) :
    flagSet (deleteFlag s f) g = flagSet s g := by
  rw [Bool.eq_iff_iff, flagSet_deleteFlag]
  exact ⟨And.right, fun h' => ⟨h, h'⟩⟩

end FlagStore

/-! ## One bit for each flag -/

/-- The bit of a `w`-bit word each flag owns. -/
class BitCode (F : Type*) (w : Nat) where
  bit : F → Fin w
  bit_inj : Function.Injective bit

/-- A status word over the flags `F`. -/
structure FlagWord (F : Type*) (w : Nat) where
  bits : BitVec w

namespace FlagWord

variable {F : Type*} {w : Nat} [BitCode F w]

/-- The flag's bit, read out of the word. -/
def test (s : FlagWord F w) (f : F) : Bool := s.bits.getLsbD (BitCode.bit (w := w) f).val

/-- `1 << bit`, the mask of a flag. -/
def mask (w : Nat) [BitCode F w] (f : F) : BitVec w := BitVec.twoPow w (BitCode.bit (w := w) f).val

theorem getLsbD_mask (f g : F) :
    (mask w f).getLsbD (BitCode.bit (w := w) g).val = true ↔ g = f := by
  rw [mask, BitVec.getLsbD_twoPow, Bool.and_eq_true, decide_eq_true_iff, decide_eq_true_iff]
  constructor
  · rintro ⟨-, h⟩
    exact BitCode.bit_inj (w := w) (Fin.ext h.symm)
  · rintro rfl
    exact ⟨(BitCode.bit (w := w) g).isLt, rfl⟩

instance : FlagStore F (FlagWord F w) where
  empty := ⟨0⟩
  flagSet := test
  newFlag s f := ⟨s.bits ||| mask w f⟩
  deleteFlag s f := ⟨s.bits &&& ~~~mask w f⟩
  flagSet_empty f := by simp [test]
  flagSet_newFlag s f g := by
    rw [test, BitVec.getLsbD_or, Bool.or_eq_true, getLsbD_mask, or_comm]
    rfl
  flagSet_deleteFlag s f g := by
    rw [test, BitVec.getLsbD_and, BitVec.getLsbD_not, Bool.and_eq_true, Bool.and_eq_true,
      Bool.not_eq_true', decide_eq_true_iff]
    have hbit : (mask w f).getLsbD (BitCode.bit (w := w) g).val = false ↔ g ≠ f := by
      rw [Bool.eq_false_iff]
      exact not_congr (getLsbD_mask f g)
    rw [hbit]
    exact ⟨fun h => ⟨h.2.2, h.1⟩, fun h => ⟨h.2, (BitCode.bit (w := w) g).isLt, h.1⟩⟩

end FlagWord
