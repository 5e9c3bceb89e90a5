import Mathlib.Data.List.Basic
import Mathlib.Tactic.TypeStar

/-!
# Cyclic redundancy checks

A check of width `w` is a register that takes the message in a bit at a time:
the register moves up one place, and the polynomial is added when the bit that
leaves differs from the bit that comes in (`shiftIn`). Addition is exclusive or
throughout, so the register is linear in its contents and the message together
(`feed_xor`), and the checks of two messages differ by the check of their
difference.

A polynomial with a constant term (`poly.getLsbD 0`) makes a step that takes in
a zero bit injective (`shiftIn_false_eq_zero`), which gives the two results a
receiver relies on. A register that takes in its own contents is left empty, and
no other message of its length empties it (`feed_toBits_eq_zero`); and a
difference confined to `w` successive bits is never missed (`feed_burst_ne`).

A step that takes in a whole word at once is compared with `feed` on the words
with a single bit set (`step_eq_feed`), since linear functions are determined
there (`Linear.ext`).
-/

namespace Crc

variable {w : ℕ}

/-- One bit into the register. -/
def shiftIn (poly : BitVec w) (c : BitVec w) (b : Bool) : BitVec w :=
  if c.msb ^^ b then (c <<< 1) ^^^ poly else c <<< 1

/-- A message into the register, first bit first. -/
def feed (poly : BitVec w) (c : BitVec w) (bs : List Bool) : BitVec w := bs.foldl (shiftIn poly) c

/-- A word's bits, the highest first. -/
def toBits {n : ℕ} (x : BitVec n) : List Bool := List.ofFn fun i : Fin n => x.getMsbD i

variable {poly : BitVec w}

section

variable (poly)

@[simp] theorem feed_nil (c : BitVec w) : feed poly c [] = c := rfl

@[simp] theorem feed_cons (c : BitVec w) (b : Bool) (bs : List Bool) :
    feed poly c (b :: bs) = feed poly (shiftIn poly c b) bs := rfl

theorem feed_append (c : BitVec w) (as bs : List Bool) :
    feed poly c (as ++ bs) = feed poly (feed poly c as) bs :=
  List.foldl_append

@[simp] theorem length_toBits {n : ℕ} (x : BitVec n) : (toBits x).length = n := List.length_ofFn

@[simp] theorem getElem_toBits {n i : ℕ} {x : BitVec n} (h : i < (toBits x).length) :
    (toBits x)[i] = x.getMsbD i :=
  List.getElem_ofFn h

/-- Taking the highest bit off moves the others up. -/
theorem take_succ_toBits {n k : ℕ} (x : BitVec n) (hk : k < n) :
    (toBits x).take (k + 1) = x.msb :: (toBits (x <<< 1)).take k := by
  apply List.ext_getElem
  · simp only [List.length_take, length_toBits, List.length_cons]
    omega
  · intro i h₁ h₂
    have hi : i < k + 1 := by
      rw [List.length_take] at h₁
      omega
    rw [List.getElem_take, getElem_toBits]
    cases i with
    | zero => rfl
    | succ i =>
      have hlt : i + 1 < n := by omega
      rw [List.getElem_cons_succ, List.getElem_take, getElem_toBits, BitVec.getMsbD_shiftLeft]

theorem toBits_append {m n : ℕ} (x : BitVec m) (y : BitVec n) :
    toBits (x ++ y) = toBits x ++ toBits y := by
  apply List.ext_getElem
  · simp
  · intro i h₁ h₂
    rw [getElem_toBits, BitVec.getMsbD_append, List.getElem_append]
    by_cases hi : i < m
    · have hnot : ¬m ≤ i := by omega
      simp [hi, hnot]
    · have hle : m ≤ i := by omega
      simp [hi, hle]

/-! ## Linearity -/

theorem shiftIn_xor (c d : BitVec w) (a b : Bool) :
    shiftIn poly (c ^^^ d) (a ^^ b) = shiftIn poly c a ^^^ shiftIn poly d b := by
  unfold shiftIn
  rw [BitVec.msb_xor, BitVec.shiftLeft_xor_distrib]
  have hleave : (c.msb ^^ d.msb ^^ (a ^^ b)) = ((c.msb ^^ a) ^^ (d.msb ^^ b)) := by
    cases c.msb <;> cases d.msb <;> cases a <;> cases b <;> rfl
  rw [hleave]
  cases c.msb ^^ a <;> cases d.msb ^^ b
  · rfl
  · exact BitVec.xor_assoc ..
  · simp only [Bool.xor_false, if_true, Bool.false_eq_true, if_false]
    ac_rfl
  · simp only [Bool.xor_true, Bool.not_true, if_true, Bool.false_eq_true, if_false]
    -- the polynomial is added twice
    rw [BitVec.xor_assoc, ← BitVec.xor_assoc poly, BitVec.xor_comm poly, BitVec.xor_assoc (d <<< 1),
      BitVec.xor_self, BitVec.xor_zero]

/-- The check of a difference is the difference of the checks. -/
theorem feed_xor (c d : BitVec w) {as bs : List Bool} (hlen : as.length = bs.length) :
    feed poly (c ^^^ d) (List.zipWith xor as bs) = feed poly c as ^^^ feed poly d bs := by
  induction as generalizing c d bs with
  | nil =>
    obtain rfl := List.length_eq_zero_iff.mp hlen.symm
    rfl
  | cons a as ih =>
    cases bs with
    | nil => exact absurd hlen (Nat.succ_ne_zero _)
    | cons b bs =>
      rw [List.zipWith_cons_cons, feed_cons, shiftIn_xor, ih _ _ (Nat.succ.inj hlen)]
      rfl

/-- The register and the message contribute separately. -/
theorem feed_split (c : BitVec w) (bs : List Bool) :
    feed poly c bs = feed poly c (List.replicate bs.length false) ^^^ feed poly 0#w bs := by
  have hzip : List.zipWith xor (List.replicate bs.length false) bs = bs := by
    apply List.ext_getElem
    · simp
    · intro i h₁ h₂
      simp
  have hxor := feed_xor poly c 0#w
    (show (List.replicate bs.length false).length = bs.length from List.length_replicate)
  rwa [hzip, BitVec.xor_zero] at hxor

/-- What a register becomes over zero bits is linear in it. -/
theorem feed_zeros_xor (c d : BitVec w) (n : ℕ) :
    feed poly (c ^^^ d) (List.replicate n false)
      = feed poly c (List.replicate n false) ^^^ feed poly d (List.replicate n false) := by
  have hxor := feed_xor poly c d (rfl : (List.replicate n false).length = _)
  rwa [List.zipWith_replicate', Bool.xor_false] at hxor

end

/-! ## Zero bits lose nothing -/

theorem shiftIn_false_eq_zero (hpoly : poly.getLsbD 0 = true) {c : BitVec w} :
    shiftIn poly c false = 0#w ↔ c = 0#w := by
  constructor
  · intro h
    have hw : 0 < w := by
      by_contra hw
      obtain rfl : w = 0 := by omega
      exact absurd (hpoly.symm.trans (BitVec.getLsbD_of_ge _ _ (Nat.le_refl _))) (by decide)
    unfold shiftIn at h
    rw [Bool.xor_false] at h
    cases hmsb : c.msb with
    | true =>
      -- the lowest bit has just been filled by the polynomial
      rw [if_pos hmsb] at h
      have hlow := congrArg (BitVec.getLsbD · 0) h
      simp [hpoly] at hlow
    | false =>
      rw [if_neg (Bool.eq_false_iff.mp hmsb)] at h
      apply BitVec.eq_of_getLsbD_eq
      intro i hi
      rw [BitVec.getLsbD_zero]
      by_cases htop : i = w - 1
      · rw [htop, ← BitVec.msb_eq_getLsbD_last]
        exact hmsb
      · have hup := congrArg (BitVec.getLsbD · (i + 1)) h
        rw [BitVec.getLsbD_zero, BitVec.getLsbD_shiftLeft] at hup
        have hlt : i + 1 < w := by omega
        simpa [hlt] using hup
  · intro h
    subst h
    simp [shiftIn]

theorem feed_zeros_eq_zero (hpoly : poly.getLsbD 0 = true) {c : BitVec w} (n : ℕ) :
    feed poly c (List.replicate n false) = 0#w ↔ c = 0#w := by
  induction n generalizing c with
  | zero => exact Iff.rfl
  | succ n ih => rw [List.replicate_succ, feed_cons, ih, shiftIn_false_eq_zero hpoly]

/-- Equal messages keep different registers apart. -/
theorem feed_inj (hpoly : poly.getLsbD 0 = true) {c d : BitVec w} (bs : List Bool) :
    feed poly c bs = feed poly d bs ↔ c = d := by
  have hxor : feed poly c bs ^^^ feed poly d bs
      = feed poly (c ^^^ d) (List.replicate bs.length false) := by
    rw [feed_zeros_xor, feed_split poly c, feed_split poly d]
    -- the message's own share is added twice
    rw [BitVec.xor_assoc, BitVec.xor_comm (feed poly d _), ← BitVec.xor_assoc (feed poly 0#w bs),
      BitVec.xor_self, BitVec.zero_xor]
  rw [← BitVec.xor_eq_zero_iff, hxor, feed_zeros_eq_zero hpoly, BitVec.xor_eq_zero_iff]

/-! ## A register that takes in its own contents -/

theorem feed_take_toBits (poly c : BitVec w) {k : ℕ} (hk : k ≤ w) :
    feed poly c ((toBits c).take k) = c <<< k := by
  induction k with
  | zero => rw [List.take_zero, feed_nil, BitVec.shiftLeft_zero]
  | succ k ih =>
    have hlt : k < (toBits c).length := by
      rw [length_toBits]
      exact hk
    have hbit : (toBits c)[k] = (c <<< k).msb := by
      rw [getElem_toBits, BitVec.msb_shiftLeft]
    -- the bit that comes in is the one that leaves
    rw [List.take_succ_eq_append_getElem hlt, feed_append, ih (Nat.le_of_succ_le hk), hbit]
    show shiftIn poly (c <<< k) (c <<< k).msb = _
    rw [shiftIn, Bool.xor_self, if_neg Bool.false_ne_true, ← BitVec.shiftLeft_add]

theorem feed_toBits_self (poly c : BitVec w) : feed poly c (toBits c) = 0#w := by
  have hall := feed_take_toBits poly c (Nat.le_refl w)
  rw [List.take_of_length_le (Nat.le_of_eq (length_toBits c))] at hall
  rw [hall, BitVec.shiftLeft_eq_zero (Nat.le_refl w)]

/-- It is the only message of that length to leave the register empty. -/
theorem feed_toBits_eq_zero (hpoly : poly.getLsbD 0 = true) (c d : BitVec w) :
    feed poly c (toBits d) = 0#w ↔ c = d := by
  have hd := feed_split poly d (toBits d)
  rw [feed_toBits_self, length_toBits, eq_comm, BitVec.xor_eq_zero_iff] at hd
  rw [feed_split, length_toBits, ← hd, ← feed_zeros_xor, feed_zeros_eq_zero hpoly,
    BitVec.xor_eq_zero_iff]

/-! ## Bursts -/

/-- Bits that fit the register leave it empty only if they are all zero. -/
theorem feed_short_eq_zero (hpoly : poly.getLsbD 0 = true) {bs : List Bool} (hlen : bs.length ≤ w)
    (h : feed poly 0#w bs = 0#w) : bs = List.replicate bs.length false := by
  let padded := bs ++ List.replicate (w - bs.length) false
  have hpadded : padded.length = w := by
    simp only [padded, List.length_append, List.length_replicate]
    omega
  obtain ⟨d, hd⟩ : ∃ d : BitVec w, toBits d = padded := by
    refine ⟨(BitVec.ofBoolListBE padded).cast hpadded, ?_⟩
    apply List.ext_getElem
    · rw [length_toBits, hpadded]
    · intro i h₁ h₂
      simp [h₂]
  have hzero : d = 0#w := by
    refine ((feed_toBits_eq_zero hpoly 0#w d).mp ?_).symm
    rw [hd, feed_append, h, feed_zeros_eq_zero hpoly]
  have hbits : padded = List.replicate w false := by
    rw [← hd, hzero]
    apply List.ext_getElem
    · simp
    · intro i h₁ h₂
      simp
  have htake := congrArg (List.take bs.length) hbits
  rwa [List.take_left, List.take_replicate, Nat.min_eq_left hlen] at htake

/-- Messages that differ, and only within `w` successive bits, have different
checks. -/
theorem feed_burst_ne (hpoly : poly.getLsbD 0 = true) (c : BitVec w) (before after : List Bool)
    {as bs : List Bool} (hlen : as.length = bs.length) (hw : as.length ≤ w) (hne : as ≠ bs) :
    feed poly c (before ++ as ++ after) ≠ feed poly c (before ++ bs ++ after) := by
  rw [feed_append, feed_append, feed_append, feed_append, Ne, feed_inj hpoly]
  generalize feed poly c before = d
  intro hsame
  refine hne ?_
  have hxor := feed_xor poly d d hlen
  rw [hsame, BitVec.xor_self, BitVec.xor_self] at hxor
  have hzip : (List.zipWith xor as bs).length = as.length := by
    rw [List.length_zipWith, ← hlen, Nat.min_self]
  have hzero := feed_short_eq_zero hpoly (by rw [hzip]; exact hw) hxor
  apply List.ext_getElem hlen
  intro i h₁ h₂
  have hlt : i < (List.zipWith xor as bs).length := by rwa [hzip]
  have hi : (List.zipWith xor as bs)[i] = false := by
    rw [List.getElem_of_eq hzero]
    exact List.getElem_replicate ..
  rw [List.getElem_zipWith] at hi
  simpa using hi

/-! ## Comparing steps -/

/-- Addition is carried through. -/
def Linear {m n : ℕ} (f : BitVec n → BitVec m) : Prop := ∀ x y, f (x ^^^ y) = f x ^^^ f y

namespace Linear

variable {k m n : ℕ} {f g : BitVec n → BitVec m}

theorem comp {h : BitVec m → BitVec k} (hh : Linear h) (hf : Linear f) :
    Linear fun x => h (f x) := by
  intro x y
  show h (f (x ^^^ y)) = _
  rw [hf, hh]

theorem add (hf : Linear f) (hg : Linear g) : Linear fun x => f x ^^^ g x := by
  intro x y
  show f (x ^^^ y) ^^^ g (x ^^^ y) = (f x ^^^ g x) ^^^ (f y ^^^ g y)
  rw [hf, hg]
  ac_rfl

theorem id : Linear fun x : BitVec n => x := fun _ _ => rfl

theorem shiftLeft (i : ℕ) : Linear fun x : BitVec n => x <<< i :=
  fun x y => BitVec.shiftLeft_xor_distrib x y i

theorem ushiftRight (i : ℕ) : Linear fun x : BitVec n => x >>> i :=
  fun x y => BitVec.ushiftRight_xor_distrib x y i

theorem and (mask : BitVec n) : Linear fun x => x &&& mask := by
  intro x y
  ext i hi
  simp [Bool.and_xor_distrib_right]

theorem setWidth : Linear fun x : BitVec n => x.setWidth m := fun _ _ => BitVec.setWidth_xor

theorem feed_zeros (n : ℕ) : Linear fun c : BitVec w => feed poly c (List.replicate n false) :=
  fun c d => feed_zeros_xor poly c d n

theorem feed_toBits : Linear fun d : BitVec n => feed poly 0#w (toBits d) := by
  intro x y
  have hbits : toBits (x ^^^ y) = List.zipWith xor (toBits x) (toBits y) := by
    apply List.ext_getElem
    · simp
    · intro i h₁ h₂
      simp
  have hxor := feed_xor poly 0#w 0#w
    (show (toBits x).length = (toBits y).length by simp)
  rw [← hbits, BitVec.xor_self] at hxor
  exact hxor

theorem map_zero (hf : Linear f) : f 0#n = 0#m := by
  have hself := hf 0#n 0#n
  rwa [BitVec.xor_self, BitVec.xor_self] at hself

/-- Two linear functions agree if they agree on the words with a single bit
set. -/
theorem ext (hf : Linear f) (hg : Linear g)
    (h : ∀ i < n, f (BitVec.twoPow n i) = g (BitVec.twoPow n i)) (x : BitVec n) : f x = g x := by
  -- one bit at a time, from words with no bit from `k` on
  have hbits : ∀ k ≤ n, ∀ x : BitVec n, (∀ i, k ≤ i → x.getLsbD i = false) → f x = g x := by
    intro k
    induction k with
    | zero =>
      intro _ x hx
      have hx0 : x = 0#n := BitVec.eq_of_getLsbD_eq fun i _ => by
        rw [hx i (Nat.zero_le i), BitVec.getLsbD_zero]
      rw [hx0, hf.map_zero, hg.map_zero]
    | succ k ih =>
      intro hk x hx
      cases hbit : x.getLsbD k with
      | false =>
        refine ih (Nat.le_of_succ_le hk) x fun i hi => ?_
        rcases Nat.eq_or_lt_of_le hi with rfl | hlt
        · exact hbit
        · exact hx i hlt
      | true =>
        have hrest : f (x ^^^ BitVec.twoPow n k) = g (x ^^^ BitVec.twoPow n k) := by
          refine ih (Nat.le_of_succ_le hk) _ fun i hi => ?_
          rw [BitVec.getLsbD_xor, BitVec.getLsbD_twoPow]
          rcases Nat.eq_or_lt_of_le hi with rfl | hlt
          · simp [hbit, Nat.lt_of_succ_le hk]
          · have hne : k ≠ i := Nat.ne_of_lt hlt
            simp [hx i hlt, hne]
        have hx' : x = x ^^^ BitVec.twoPow n k ^^^ BitVec.twoPow n k := by
          rw [BitVec.xor_assoc, BitVec.xor_self, BitVec.xor_zero]
        rw [hx', hf, hg, hrest, h k (Nat.lt_of_succ_le hk)]
  exact hbits n (Nat.le_refl n) x fun i hi => BitVec.getLsbD_of_ge x i hi

end Linear

/-- A step that takes a whole word in is `feed` if it is so for a single bit of
the register and for a single bit of the word. -/
theorem step_eq_feed {n : ℕ} {f : BitVec w → BitVec w} {g : BitVec n → BitVec w} (hf : Linear f)
    (hg : Linear g)
    (hc : ∀ i < w, f (BitVec.twoPow w i) = feed poly (BitVec.twoPow w i) (List.replicate n false))
    (hd : ∀ i < n, g (BitVec.twoPow n i) = feed poly 0#w (toBits (BitVec.twoPow n i)))
    (c : BitVec w) (d : BitVec n) : f c ^^^ g d = feed poly c (toBits d) := by
  rw [feed_split, length_toBits, Linear.ext hf (Linear.feed_zeros n) hc c,
    Linear.ext hg Linear.feed_toBits hd d]

end Crc
