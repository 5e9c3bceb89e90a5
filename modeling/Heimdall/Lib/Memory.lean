import Mathlib.Data.List.Range

/-!
# Memories

A memory is a function from addresses. `write` lays a list down from an address on
and `read` takes one up; the laws say that the cells of the list are what was
written (`write_add`, `read_write`), that the others are as they were
(`write_outside`, `read_write_outside`), and that two lists laid end to end are one
(`write_write`).

A memory of blocks of `n` cells is a memory of cells, `flat`. Writing a run of
blocks writes their cells (`flat_write`), and copying cells into one block writes
them at its place (`flat_copy`), so that what is stored block by block can be
reasoned about address by address.
-/

universe u

namespace Memory

variable {α : Type u} {m m' : ℕ → α} {a b x : ℕ} {xs ys : List α}

/-- `xs` from address `a` on. -/
def write (m : ℕ → α) (a : ℕ) (xs : List α) : ℕ → α := fun x =>
  if a ≤ x then xs[x - a]?.getD (m x) else m x

/-- The `n` cells from address `a` on. -/
def read (m : ℕ → α) (a n : ℕ) : List α := (List.range n).map fun i => m (a + i)

/-! ## Writing -/

@[simp] theorem write_nil (m : ℕ → α) (a : ℕ) : write m a [] = m := by
  funext x
  simp [write]

theorem write_outside (m : ℕ → α) (h : x < a ∨ a + xs.length ≤ x) : write m a xs x = m x := by
  unfold write
  rcases h with hlt | hge
  · rw [if_neg (Nat.not_le.mpr hlt)]
  · have hnone : xs[x - a]? = none := List.getElem?_eq_none (by omega)
    rw [hnone, Option.getD_none, ite_self]

theorem write_add (m : ℕ → α) (a : ℕ) {i : ℕ} (hi : i < xs.length) :
    write m a xs (a + i) = xs[i] := by
  unfold write
  rw [if_pos (Nat.le_add_right a i), Nat.add_sub_cancel_left, List.getElem?_eq_getElem hi,
    Option.getD_some]

theorem write_self (m : ℕ → α) (a : ℕ) (c : α) : write m a [c] a = c :=
  write_add m a (show 0 < [c].length from Nat.zero_lt_one)

theorem write_ne (m : ℕ → α) (c : α) (h : x ≠ a) : write m a [c] x = m x :=
  write_outside m (Nat.lt_or_gt_of_ne h)

/-- One list after another is the two of them together. -/
theorem write_write (m : ℕ → α) (a : ℕ) (xs ys : List α) :
    write (write m a xs) (a + xs.length) ys = write m a (xs ++ ys) := by
  funext x
  unfold write
  by_cases ha : a ≤ x
  · rw [if_pos ha, if_pos ha]
    by_cases hx : a + xs.length ≤ x
    · have hys : x - a - xs.length = x - (a + xs.length) := by omega
      rw [if_pos hx, List.getElem?_append_right (by omega), hys,
        List.getElem?_eq_none (l := xs) (by omega), Option.getD_none]
    · rw [if_neg hx, List.getElem?_append_left (by omega)]
  · rw [if_neg ha, if_neg ha, if_neg (by omega)]

/-- What a write makes of two memories alike outside it is alike. -/
theorem write_congr (h : x < a ∨ a + xs.length ≤ x → m' x = m x) :
    write m' a xs x = write m a xs x := by
  by_cases hx : x < a ∨ a + xs.length ≤ x
  · rw [write_outside m' hx, write_outside m hx, h hx]
  · obtain ⟨i, rfl⟩ := Nat.exists_eq_add_of_le (show a ≤ x by omega)
    rw [write_add m' a (by omega), write_add m a (by omega)]

/-- Cells that are seen in another order, at `place`: a write to places that lie
together is a write to what is seen. -/
theorem write_through {place : ℕ → ℕ} (hin : ∀ i < xs.length, place (b + i) = place b + i)
    (hout : x < b ∨ b + xs.length ≤ x → place x < place b ∨ place b + xs.length ≤ place x) :
    write m (place b) xs (place x) = write (fun p => m (place p)) b xs x := by
  by_cases hx : x < b ∨ b + xs.length ≤ x
  · rw [write_outside _ hx, write_outside _ (hout hx)]
  · obtain ⟨i, rfl⟩ := Nat.exists_eq_add_of_le (show b ≤ x by omega)
    have hi : i < xs.length := by omega
    rw [write_add _ b hi, hin i hi, write_add _ _ hi]

/-! ## Reading -/

@[simp] theorem length_read (m : ℕ → α) (a n : ℕ) : (read m a n).length = n := by
  rw [read, List.length_map, List.length_range]

theorem getElem_read (m : ℕ → α) (a n : ℕ) {i : ℕ} (hi : i < (read m a n).length) :
    (read m a n)[i] = m (a + i) := by
  simp [read]

theorem read_congr {n : ℕ} (h : ∀ i < n, m' (b + i) = m (a + i)) : read m' b n = read m a n :=
  List.map_congr_left fun i hi => h i (List.mem_range.mp hi)

theorem read_add (m : ℕ → α) (a n k : ℕ) : read m a (n + k) = read m a n ++ read m (a + n) k := by
  rw [read, List.range_add, List.map_append, List.map_map]
  refine congrArg _ (List.map_congr_left fun i _ => ?_)
  rw [Function.comp_apply, Nat.add_assoc]

/-- Part of what is read is what is read of that part. -/
theorem take_drop_read (m : ℕ → α) (b a n k : ℕ) :
    ((read m b k).drop a).take n = read m (b + a) (min n (k - a)) := by
  refine List.ext_getElem ?_ fun i hi hi' => ?_
  · rw [length_read, List.length_take, List.length_drop, length_read]
  · rw [List.getElem_take, List.getElem_drop, getElem_read, getElem_read, Nat.add_assoc]

theorem getElem?_read (m : ℕ → α) (a : ℕ) {n i : ℕ} (hi : i < n) :
    (read m a n)[i]? = some (m (a + i)) := by
  rw [List.getElem?_eq_getElem (by rwa [length_read]), getElem_read]

theorem read_write (m : ℕ → α) (a : ℕ) (xs : List α) : read (write m a xs) a xs.length = xs := by
  refine List.ext_getElem (length_read _ _ _) fun i hi hx => ?_
  rw [getElem_read, write_add m a hx]

theorem read_write_outside (m : ℕ → α) {n : ℕ} (h : b + n ≤ a ∨ a + xs.length ≤ b) :
    read (write m a xs) b n = read m b n :=
  read_congr fun i hi => write_outside m (by omega)

/-- Writing into what is read, or over its end. -/
theorem read_splice (m : ℕ → α) {k : ℕ} (h : a ≤ k) (xs : List α) :
    read (write m a xs) 0 (max k (a + xs.length)) =
      (read m 0 k).take a ++ xs ++ (read m 0 k).drop (a + xs.length) := by
  have hbefore : read (write m a xs) 0 a = (read m 0 k).take a := by
    obtain ⟨j, rfl⟩ := Nat.exists_eq_add_of_le h
    rw [read_add, List.take_append_of_le_length (by rw [length_read]),
      List.take_of_length_le (by rw [length_read])]
    exact read_write_outside m (.inl (by omega))
  have hafter : read (write m a xs) (a + xs.length) (max k (a + xs.length) - (a + xs.length)) =
      (read m 0 k).drop (a + xs.length) := by
    by_cases hk : a + xs.length ≤ k
    · obtain ⟨j, rfl⟩ := Nat.exists_eq_add_of_le hk
      rw [Nat.max_eq_left (by omega), Nat.add_sub_cancel_left, read_add,
        List.drop_append_of_le_length (by rw [length_read]),
        List.drop_of_length_le (by rw [length_read]), List.nil_append, Nat.zero_add]
      exact read_write_outside m (.inr (Nat.le_refl _))
    · rw [Nat.max_eq_right (by omega), Nat.sub_self,
        List.drop_of_length_le (by rw [length_read]; omega)]
      rfl
  obtain ⟨j, hj⟩ := Nat.exists_eq_add_of_le (Nat.le_max_right k (a + xs.length))
  rw [hj, Nat.add_sub_cancel_left] at hafter
  rw [hj, read_add, read_add, Nat.zero_add, Nat.zero_add, hbefore, read_write, hafter]

/-- What is there already may be written again. -/
theorem write_read (m : ℕ → α) (a n : ℕ) : write m a (read m a n) = m := by
  funext x
  by_cases hx : x < a ∨ a + (read m a n).length ≤ x
  · exact write_outside m hx
  · obtain ⟨i, rfl⟩ := Nat.exists_eq_add_of_le (show a ≤ x by omega)
    rw [write_add m a (by omega), getElem_read]

/-! ## Blocks -/

variable {n : ℕ}

/-- The cells of the blocks, one block after the other. -/
def flat (hn : 0 < n) (m : ℕ → Vector α n) : ℕ → α := fun x =>
  (m (x / n)).get ⟨x % n, Nat.mod_lt x hn⟩

/-- The block with `xs` copied to its cells from `o` on. -/
def copy (v : Vector α n) (o : ℕ) (xs : List α) : Vector α n :=
  Vector.ofFn fun i => if o ≤ i then xs[i - o]?.getD (v.get i) else v.get i

theorem get_copy (v : Vector α n) (o : ℕ) (xs : List α) (i : Fin n) :
    (copy v o xs).get i = if o ≤ i then xs[i - o]?.getD (v.get i) else v.get i := by
  show (Vector.ofFn _)[i.val] = _
  rw [Vector.getElem_ofFn]

theorem length_cells (vs : List (Vector α n)) :
    (vs.flatMap Vector.toList).length = vs.length * n := by
  induction vs with
  | nil => exact (Nat.zero_mul n).symm
  | cons v vs ih =>
    rw [List.flatMap_cons, List.length_append, Vector.length_toList, ih, List.length_cons,
      Nat.add_mul, Nat.one_mul, Nat.add_comm]

/-- Block `j` of a list, `d` where the list has no cell. -/
def block (n : ℕ) (d : α) (xs : List α) (j : ℕ) : Vector α n :=
  Vector.ofFn fun i => xs.getD (j * n + i) d

theorem getElem_block (d : α) (xs : List α) (j : ℕ) {i : ℕ} (hi : i < n) :
    (block n d xs j)[i] = xs.getD (j * n + i) d := Vector.getElem_ofFn _

/-- The first `k` blocks of a list. -/
def blocks (n : ℕ) (d : α) (k : ℕ) (xs : List α) : List (Vector α n) :=
  (List.range k).map (block n d xs)

@[simp] theorem length_blocks (n : ℕ) (d : α) (k : ℕ) (xs : List α) :
    (blocks n d k xs).length = k := by
  rw [blocks, List.length_map, List.length_range]

/-- The cells of the blocks are those of the list. -/
theorem flatMap_blocks (d : α) (k : ℕ) (h : k * n ≤ xs.length) :
    (blocks n d k xs).flatMap Vector.toList = xs.take (k * n) := by
  induction k with
  | zero =>
    rw [Nat.zero_mul]
    rfl
  | succ k ih =>
    rw [Nat.add_mul, Nat.one_mul] at h ⊢
    have hlast : (block n d xs k).toList = (xs.drop (k * n)).take n := by
      refine List.ext_getElem ?_ fun i hi hi' => ?_
      · rw [Vector.length_toList, List.length_take, List.length_drop]
        omega
      · rw [Vector.length_toList] at hi
        rw [Vector.getElem_toList, getElem_block d xs k hi, List.getElem_take, List.getElem_drop,
          List.getD_eq_getElem?_getD,
          List.getElem?_eq_getElem (show k * n + i < xs.length by omega), Option.getD_some]
    rw [List.take_add, ← ih (by omega), ← hlast, blocks, List.range_succ, List.map_append,
      List.flatMap_append]
    exact congrArg _ (List.append_nil _)

variable (hn : 0 < n) {w w' : ℕ → Vector α n}

theorem flat_add (w : ℕ → Vector α n) (s : ℕ) {o : ℕ} (ho : o < n) :
    flat hn w (s * n + o) = (w s).get ⟨o, ho⟩ := by
  have hs : (s * n + o) / n = s := by
    rw [Nat.mul_comm, Nat.mul_add_div hn, Nat.div_eq_of_lt ho, Nat.add_zero]
  have hmod : (s * n + o) % n = o := by
    rw [Nat.mul_comm, Nat.mul_add_mod, Nat.mod_eq_of_lt ho]
  unfold flat
  congr 1
  · rw [hs]
  · exact Fin.ext hmod

theorem flat_congr (h : w' (x / n) = w (x / n)) : flat hn w' x = flat hn w x := by
  unfold flat
  rw [h]

/-- A block, read from its place. -/
theorem read_flat (w : ℕ → Vector α n) (s o k : ℕ) (h : o + k ≤ n) :
    read (flat hn w) (s * n + o) k = ((w s).toList.drop o).take k := by
  refine List.ext_getElem ?_ fun i hi hi' => ?_
  · rw [length_read, List.length_take, List.length_drop, Vector.length_toList]
    omega
  · rw [length_read] at hi
    rw [getElem_read, Nat.add_assoc, flat_add hn w s (show o + i < n by omega), List.getElem_take,
      List.getElem_drop, Vector.getElem_toList]
    rfl

/-- A run of blocks is the cells of its stretch. -/
theorem read_flat_blocks (w : ℕ → Vector α n) (s k : ℕ) :
    read (flat hn w) (s * n) (k * n) = (read w s k).flatMap Vector.toList := by
  induction k with
  | zero =>
    rw [Nat.zero_mul]
    rfl
  | succ k ih =>
    have hblock := read_flat hn w (s + k) 0 n (by omega)
    rw [Nat.add_zero, List.drop_zero, List.take_of_length_le (by rw [Vector.length_toList]),
      Nat.add_mul] at hblock
    rw [Nat.add_mul, Nat.one_mul, read_add, ih, hblock, read_add w s k 1, List.flatMap_append]
    exact congrArg _ (List.append_nil _).symm

/-- Copying into a block writes at its place. -/
theorem flat_copy (w : ℕ → Vector α n) (s : ℕ) {o : ℕ} (h : o + xs.length ≤ n) :
    flat hn (write w s [copy (w s) o xs]) = write (flat hn w) (s * n + o) xs := by
  funext x
  obtain ⟨t, r, hr, rfl⟩ : ∃ t r, r < n ∧ x = t * n + r :=
    ⟨x / n, x % n, Nat.mod_lt x hn, (Nat.div_add_mod' x n).symm⟩
  rw [flat_add hn _ t hr]
  by_cases ht : t = s
  · subst ht
    rw [write_self, get_copy]
    unfold write
    rw [flat_add hn w t hr]
    by_cases ho : o ≤ r
    · rw [if_pos ho, if_pos (by omega), Nat.add_sub_add_left]
    · rw [if_neg ho, if_neg (by omega)]
  · rw [write_ne w _ ht, ← flat_add hn w t hr, write_outside]
    rcases Nat.lt_or_gt_of_ne ht with hlt | hgt
    · left
      have hle : (t + 1) * n ≤ s * n := Nat.mul_le_mul_right n hlt
      rw [Nat.add_mul, Nat.one_mul] at hle
      omega
    · right
      have hle : (s + 1) * n ≤ t * n := Nat.mul_le_mul_right n hgt
      rw [Nat.add_mul, Nat.one_mul] at hle
      omega

/-- A block is its cells. -/
theorem flat_write_one (w : ℕ → Vector α n) (s : ℕ) (v : Vector α n) :
    flat hn (write w s [v]) = write (flat hn w) (s * n) v.toList := by
  have hcopy : copy (w s) 0 v.toList = v := by
    refine Vector.ext fun i hi => ?_
    show (copy (w s) 0 v.toList).get ⟨i, hi⟩ = v[i]
    have hlen : i < v.toList.length := by rwa [Vector.length_toList]
    rw [get_copy, if_pos (Nat.zero_le i), Nat.sub_zero, List.getElem?_eq_getElem hlen,
      Option.getD_some, Vector.getElem_toList]
  have hflat := flat_copy hn w s (show 0 + v.toList.length ≤ n by rw [Vector.length_toList]; omega)
  rwa [hcopy, Nat.add_zero] at hflat

/-- So are the blocks of a run. -/
theorem flat_write (w : ℕ → Vector α n) (s : ℕ) (vs : List (Vector α n)) :
    flat hn (write w s vs) = write (flat hn w) (s * n) (vs.flatMap Vector.toList) := by
  induction vs generalizing w s with
  | nil =>
    rw [write_nil]
    exact (write_nil _ _).symm
  | cons v vs ih =>
    have hblocks : write w s (v :: vs) = write (write w s [v]) (s + 1) vs :=
      (write_write w s [v] vs).symm
    have hcells : write (write (flat hn w) (s * n) v.toList) (s * n + v.toList.length)
        (vs.flatMap Vector.toList) = write (flat hn w) (s * n) ((v :: vs).flatMap Vector.toList) :=
      write_write _ _ _ _
    rw [hblocks, ih, flat_write_one, ← hcells, Vector.length_toList, Nat.add_mul, Nat.one_mul]

end Memory
