import Heimdall.Storage.FatFile

/-!
# Seeking and reading

`OnChain` says that a file lies on a list of clusters, `Cursor` that `m_curCluster` is
the one of the byte before the position. Neither asks where the chain ends: a file can
be read of which only the part that its size covers is known.

`seekSet_meets` and `read_meets` have both ways for a file that can tell its next
cluster by counting and for one that has to look it up.
-/

namespace Heimdall

namespace FatLayout

variable {L : FatLayout} {p : ℕ}

theorem shift_eq (L : FatLayout) (x : ℕ) : x >>> L.bytesPerClusterShift = x / L.clusterSize := by
  rw [bytesPerClusterShift, Nat.shiftRight_eq_div_pow, clusterSize, sectorsPerCluster, Nat.pow_add,
    Nat.mul_comm]

theorem offset_eq (x : ℕ) : x &&& 511 = x % 512 := Nat.and_two_pow_sub_one_eq_mod x 9

/-- The start of a cluster is the start of its first sector. -/
theorem start_iff (L : FatLayout) (p : ℕ) :
    p &&& 511 = 0 ∧ L.sectorOfCluster p = 0 ↔ p % L.clusterSize = 0 := by
  rw [offset_eq, mod_clusterSize]
  omega

/-- Behind the start of a cluster, the byte before is in the same one, -/
theorem div_pred (h : p % L.clusterSize ≠ 0) : (p - 1) / L.clusterSize = p / L.clusterSize := by
  have hpos := L.clusterSize_pos
  have hsplit := Nat.div_add_mod p L.clusterSize
  have hlt := Nat.mod_lt p hpos
  have hp : p - 1 = L.clusterSize * (p / L.clusterSize) + (p % L.clusterSize - 1) := by omega
  rw [hp, Nat.mul_add_div hpos,
    Nat.div_eq_of_lt (show p % L.clusterSize - 1 < L.clusterSize by omega), Nat.add_zero]

/-- and at the start of one it is in the one before. -/
theorem div_pred_succ (h : p % L.clusterSize = 0) (hp : 0 < p) :
    (p - 1) / L.clusterSize + 1 = p / L.clusterSize := by
  have hpos := L.clusterSize_pos
  have hsplit := Nat.div_add_mod p L.clusterSize
  obtain ⟨q, hq⟩ : ∃ q, p / L.clusterSize = q + 1 := by
    refine Nat.exists_eq_succ_of_ne_zero fun hzero => ?_
    rw [hzero, Nat.mul_zero, h] at hsplit
    omega
  rw [hq, Nat.mul_succ, h] at hsplit
  have hp' : p - 1 = L.clusterSize * q + (L.clusterSize - 1) := by omega
  rw [hp', Nat.mul_add_div hpos, Nat.div_eq_of_lt (show _ < L.clusterSize by omega), hq]

/-- The byte before the end of a stretch is in the cluster the stretch is in. -/
theorem div_end {n : ℕ} (hn : 0 < n) (h : p % L.clusterSize + n ≤ L.clusterSize) :
    (p + n - 1) / L.clusterSize = p / L.clusterSize := by
  have hpos := L.clusterSize_pos
  have hsplit := Nat.div_add_mod p L.clusterSize
  have hp : p + n - 1 = L.clusterSize * (p / L.clusterSize) + (p % L.clusterSize + n - 1) := by
    omega
  rw [hp, Nat.mul_add_div hpos,
    Nat.div_eq_of_lt (show p % L.clusterSize + n - 1 < L.clusterSize by omega), Nat.add_zero]

end FatLayout

namespace OpenFile

open Fallible FatPartition

variable {L : FatLayout} {v v' : FatPartition} {f f' f'' : FatFile} {o o' : OpenFile} {l : List ℕ}
  {c n pos toRead : ℕ}

/-! ## Where a file lies -/

/-- The file's bytes are on `l`. -/
structure OnChain (L : FatLayout) (v : FatPartition) (f : FatFile) (l : List ℕ) : Prop where
  file : f.isFile = true
  rootFixed : f.isRootFixed = false
  root32 : f.isRoot32 = false
  chain : l.IsChain (v.next L · = some ·)
  range : ∀ c ∈ l, L.InRange c
  first : f.firstCluster = l.headD 0
  contiguous : f.flagContiguous = true → ∀ i c, l[i]? = some c → c = f.firstCluster + i
  room : f.fileSize ≤ l.length * L.clusterSize
  small : f.fileSize < 2 ^ 32

/-- `m_curCluster` has the byte before the position. -/
structure Cursor (L : FatLayout) (f : FatFile) (l : List ℕ) : Prop where
  start : f.curPosition = 0 → f.curCluster = 0
  here : 0 < f.curPosition → l[(f.curPosition - 1) / L.clusterSize]? = some f.curCluster

/-- Which file it is, and how it was opened. -/
structure SameEntry (f f' : FatFile) : Prop where
  attributes : f'.attributes = f.attributes
  flagRead : f'.flagRead = f.flagRead
  flagWrite : f'.flagWrite = f.flagWrite
  flagAppend : f'.flagAppend = f.flagAppend
  dirIndex : f'.dirIndex = f.dirIndex
  dirSector : f'.dirSector = f.dirSector
  flagPreallocate : f.flagPreallocate = false → f'.flagPreallocate = false

/-- Only the cursor has moved. -/
structure Moved (f f' : FatFile) : Prop extends SameEntry f f' where
  flagContiguous : f'.flagContiguous = f.flagContiguous
  flagDirDirty : f'.flagDirDirty = f.flagDirDirty
  fileSize : f'.fileSize = f.fileSize
  firstCluster : f'.firstCluster = f.firstCluster

theorem SameEntry.refl (f : FatFile) : SameEntry f f := ⟨rfl, rfl, rfl, rfl, rfl, rfl, id⟩

theorem Moved.refl (f : FatFile) : Moved f f := ⟨.refl f, rfl, rfl, rfl, rfl⟩

theorem SameEntry.trans (h : SameEntry f f') (h' : SameEntry f' f'') : SameEntry f f'' :=
  ⟨h'.attributes.trans h.attributes, h'.flagRead.trans h.flagRead, h'.flagWrite.trans h.flagWrite,
    h'.flagAppend.trans h.flagAppend, h'.dirIndex.trans h.dirIndex, h'.dirSector.trans h.dirSector,
    fun hp => h'.flagPreallocate (h.flagPreallocate hp)⟩

theorem Moved.trans (h : Moved f f') (h' : Moved f' f'') : Moved f f'' :=
  ⟨h.toSameEntry.trans h'.toSameEntry, h'.flagContiguous.trans h.flagContiguous,
    h'.flagDirDirty.trans h.flagDirDirty, h'.fileSize.trans h.fileSize,
    h'.firstCluster.trans h.firstCluster⟩

theorem moved_setCluster (f : FatFile) (c : ℕ) : Moved f { f with curCluster := c } :=
  ⟨⟨rfl, rfl, rfl, rfl, rfl, rfl, id⟩, rfl, rfl, rfl, rfl⟩

theorem moved_advance (f : FatFile) (n : ℕ) : Moved f (f.advance n) :=
  ⟨⟨rfl, rfl, rfl, rfl, rfl, rfl, id⟩, rfl, rfl, rfl, rfl⟩

theorem SameEntry.isFile (h : SameEntry f f') : f'.isFile = f.isFile := by
  rw [FatFile.isFile, FatFile.isFile, h.attributes]

theorem SameEntry.isRootFixed (h : SameEntry f f') : f'.isRootFixed = f.isRootFixed := by
  rw [FatFile.isRootFixed, FatFile.isRootFixed, h.attributes]

theorem SameEntry.isRoot32 (h : SameEntry f f') : f'.isRoot32 = f.isRoot32 := by
  rw [FatFile.isRoot32, FatFile.isRoot32, h.attributes]

namespace OnChain

/-- The cursor and the rest of the volume do not matter. -/
theorem congr (h : OnChain L v f l) (hmoved : Moved f f')
    (hnext : ∀ c ∈ l, v'.next L c = v.next L c) : OnChain L v' f' l where
  file := hmoved.isFile.trans h.file
  rootFixed := hmoved.isRootFixed.trans h.rootFixed
  root32 := hmoved.isRoot32.trans h.root32
  chain := h.chain.imp_of_mem_imp fun a b ha _ hab => (hnext a ha).trans hab
  range := h.range
  first := hmoved.firstCluster.trans h.first
  contiguous hf i c hc := by
    rw [hmoved.firstCluster]
    exact h.contiguous (hmoved.flagContiguous.symm.trans hf) i c hc
  room := hmoved.fileSize ▸ h.room
  small := hmoved.fileSize ▸ h.small

theorem same (h : OnChain L v f l) (hmoved : Moved f f') (hsame : Same L v v') :
    OnChain L v' f' l :=
  h.congr hmoved fun c _ => congrArg L.link (congrFun hsame.entry c)

theorem isOpen (h : OnChain L v f l) : f.isOpen = true := by
  by_contra hclosed
  have hzero : f.attributes = 0 := by simpa [FatFile.isOpen] using hclosed
  have hfile := h.file
  rw [FatFile.isFile, hzero] at hfile
  exact absurd hfile (by decide)

/-- A cluster's number leads to the next one of the file. -/
theorem next_eq (h : OnChain L v f l) {i d : ℕ} (hc : l[i]? = some c) (hd : l[i + 1]? = some d) :
    v.next L c = some d := by
  obtain ⟨hi, rfl⟩ := List.getElem?_eq_some_iff.mp hd
  obtain ⟨hi', rfl⟩ := List.getElem?_eq_some_iff.mp hc
  exact h.chain.getElem i hi

theorem first_eq (h : OnChain L v f l) (hc : l[0]? = some c) : f.firstCluster = c := by
  rw [h.first, List.headD_eq_head?_getD, List.head?_eq_getElem?, hc, Option.getD_some]

end OnChain

/-- The cursor behind a stretch that lies in the cluster it is at. -/
theorem Cursor.advance (hhere : l[f.curPosition / L.clusterSize]? = some f.curCluster)
    (hn : 0 < n) (hin : f.curPosition % L.clusterSize + n ≤ L.clusterSize)
    (hsmall : f.curPosition + n < 2 ^ 32) :
    Cursor L (f.advance n) l ∧ (f.advance n).curPosition = f.curPosition + n := by
  have hpos : (f.advance n).curPosition = f.curPosition + n := Nat.mod_eq_of_lt hsmall
  refine ⟨⟨fun h => ?_, fun _ => ?_⟩, hpos⟩
  · omega
  · rw [hpos, FatLayout.div_end hn hin]
    exact hhere

/-! ## Seeking -/

theorem follow_meets (hv : v.Coherent L) (hl : OnChain L v f l) {i : ℕ} (hc : l[i]? = some c)
    (hn : i + n < l.length) :
    (follow L n c).Meets (fun d v' => Same L v v' ∧ l[i + n]? = some d)
      (fun v' => Same L v v' ∧ ¬ v.cache.Working) v := by
  unfold follow
  refine (meets_repeat
    (I := fun k d v' => Same L v v' ∧ k ≤ n ∧ l[i + (n - k)]? = some d) ?_
    ⟨hv.same, Nat.le_refl n, by rwa [Nat.sub_self]⟩).mono ?_ fun _ h => h
  · rintro k d v₁ ⟨hsame, hk, hd⟩
    have hidx : i + (n - k) = i + (n - (k + 1)) + 1 := by omega
    obtain ⟨e, he⟩ : ∃ e, l[i + (n - k)]? = some e :=
      ⟨_, List.getElem?_eq_getElem (show i + (n - k) < l.length by omega)⟩
    have hnext : v₁.next L d = some e :=
      (congrArg L.link (congrFun hsame.entry d)).trans (hl.next_eq hd (hidx ▸ he))
    have hin := hl.range d (List.mem_of_getElem? hd)
    rw [meets_bind]
    refine (fatGet_meets hsame.coherent d).mono (fun r v₂ h => ?_)
      fun v₂ h => ⟨hsame.trans h.1, fun hw => h.2 hin (hsame.working hw)⟩
    obtain ⟨hsame₂, -, rfl⟩ := h
    rw [hnext]
    exact ⟨hsame.trans hsame₂, by omega, he⟩
  · rintro d v' ⟨hsame, -, hd⟩
    exact ⟨hsame, by simpa using hd⟩

/-- The clusters before `pos` are those of the file. -/
theorem lt_length (hl : OnChain L v f l) (h0 : 0 < pos) (hpos : pos ≤ f.fileSize) :
    (pos - 1) / L.clusterSize < l.length :=
  Nat.div_lt_of_lt_mul (by
    have hroom := hl.room
    rw [Nat.mul_comm] at hroom
    omega)

theorem seekCluster_meets (hv : v.Coherent L) (hl : OnChain L v f l) (hc : Cursor L f l)
    (hin : f.curPosition ≤ f.fileSize) (pos : ℕ) :
    (seekCluster L pos f).Meets
      (fun c v' => Same L v v' ∧ pos ≤ f.fileSize ∧
        Cursor L { f with curCluster := c, curPosition := pos, flagPreallocate := false } l)
      (fun v' => Same L v v' ∧ (pos ≤ f.fileSize → ¬ v.cache.Working)) v := by
  unfold seekCluster
  by_cases hzero : pos = 0
  · rw [if_pos hzero]
    subst hzero
    exact ⟨hv.same, Nat.zero_le _, fun _ => rfl, fun h => absurd h (Nat.lt_irrefl 0)⟩
  rw [if_neg hzero]
  by_cases hbeyond : f.fileSize < pos
  · rw [if_pos (by simp [hl.file, hbeyond])]
    exact ⟨hv.same, fun h => absurd hbeyond (by omega)⟩
  rw [if_neg (by simp [hbeyond]), if_neg (by simp [hl.file])]
  have hle : pos ≤ f.fileSize := by omega
  have hlt := lt_length hl (Nat.pos_of_ne_zero hzero) hle
  have hsmall := hl.small
  -- the cluster to be found
  obtain ⟨d, hd⟩ : ∃ d, l[(pos - 1) / L.clusterSize]? = some d :=
    ⟨_, List.getElem?_eq_getElem hlt⟩
  have hcursor : ∀ c, l[(pos - 1) / L.clusterSize]? = some c →
      Cursor L { f with curCluster := c, curPosition := pos, flagPreallocate := false } l :=
    fun c hc => ⟨fun h => absurd h hzero, fun _ => hc⟩
  show (if f.flagContiguous then _ else _ : Fallible FatPartition ℕ).Meets _ _ v
  rw [L.shift_eq]
  by_cases hcont : f.flagContiguous = true
  · rw [if_pos hcont]
    have heq := hl.contiguous hcont _ d hd
    have hlast : L.lastCluster < 2 ^ 32 := by
      have hends := L.ends
      have hlarge : L.fatType.endOfChain < 2 ^ 32 := by cases L.fatType <;> decide
      omega
    have hd₂ := (hl.range d (List.mem_of_getElem? hd)).2
    rw [← heq, Nat.mod_eq_of_lt (by omega)]
    exact ⟨hv.same, hle, hcursor d hd⟩
  rw [if_neg hcont]
  show (if _ then _ else _ : Fallible FatPartition ℕ).Meets _ _ v
  rw [L.shift_eq]
  by_cases hback : (pos - 1) / L.clusterSize < (f.curPosition + 2 ^ 32 - 1) % 2 ^ 32 / L.clusterSize
      ∨ f.curPosition = 0
  · rw [if_pos hback, if_neg (by simp [hl.root32])]
    have hfirst : l[0]? = some f.firstCluster := by
      obtain ⟨e, he⟩ : ∃ e, l[0]? = some e :=
        ⟨_, List.getElem?_eq_getElem (Nat.lt_of_le_of_lt (Nat.zero_le _) hlt)⟩
      rw [hl.first_eq he]
      exact he
    refine (follow_meets hv hl hfirst (by rwa [Nat.zero_add])).mono (fun c v' h => ?_)
      fun v' h => ⟨h.1, fun _ => h.2⟩
    rw [Nat.zero_add] at h
    exact ⟨h.1, hle, hcursor c h.2⟩
  · rw [if_neg hback]
    obtain ⟨hfwd, hmid⟩ := not_or.mp hback
    have hprev : (f.curPosition + 2 ^ 32 - 1) % 2 ^ 32 = f.curPosition - 1 := by
      rw [show f.curPosition + 2 ^ 32 - 1 = f.curPosition - 1 + 2 ^ 32 by omega, Nat.add_mod_right]
      exact Nat.mod_eq_of_lt (by omega)
    rw [hprev] at hfwd ⊢
    have hsum := Nat.add_sub_cancel' (Nat.le_of_not_lt hfwd)
    refine (follow_meets hv hl (hc.here (Nat.pos_of_ne_zero hmid)) (by rwa [hsum])).mono
      (fun c v' h => ?_) fun v' h => ⟨h.1, fun _ => h.2⟩
    rw [hsum] at h
    exact ⟨h.1, hle, hcursor c h.2⟩

/-- Seeking finds the cluster of the byte before `pos`, or leaves the file where it
was. -/
theorem seekSet_meets (hv : o.vol.Coherent L) (hl : OnChain L o.vol o.file l)
    (hc : Cursor L o.file l) (hin : o.file.curPosition ≤ o.file.fileSize) (pos : ℕ) :
    (seekSet L pos).Meets
      (fun _ o' => Same L o.vol o'.vol ∧ Moved o.file o'.file ∧ Cursor L o'.file l ∧
        pos ≤ o.file.fileSize ∧ o'.file.curPosition = pos)
      (fun o' => Same L o.vol o'.vol ∧ o'.file = o.file ∧
        (pos ≤ o.file.fileSize → ¬ o.vol.cache.Working)) o := by
  unfold seekSet
  rw [meets_bind, meets_state, meets_bind, meets_require]
  refine ⟨fun _ => ?_, fun hclosed => absurd (hl.isOpen.symm.trans hclosed).symm
    Bool.false_ne_true⟩
  rw [meets_given]
  refine ⟨fun _ => ?_, fun heq => ?_⟩
  · unfold onVolume
    rw [meets_bind, meets_within]
    refine (seekCluster_meets hv hl hc hin pos).mono (fun c v' h => ?_)
      fun v' h => ⟨h.1, rfl, h.2⟩
    exact ⟨h.1, ⟨⟨rfl, rfl, rfl, rfl, rfl, rfl, fun _ => rfl⟩, rfl, rfl, rfl, rfl⟩, h.2.2, h.2.1,
      rfl⟩
  · have heq' : pos = o.file.curPosition := by simpa using heq
    exact ⟨hv.same, .refl _, hc, heq' ▸ hin, heq'.symm⟩

/-! ## Reading -/

/-- The byte at the position is in `m_curCluster`. -/
def Here (L : FatLayout) (f : FatFile) (l : List ℕ) : Prop :=
  l[f.curPosition / L.clusterSize]? = some f.curCluster

/-- What the file holds at `p`. -/
def byteAt (L : FatLayout) (l : List ℕ) (v : FatPartition) (p : ℕ) : UInt8 :=
  v.mem L (L.fileAddr l p)

theorem lastCluster_lt (L : FatLayout) : L.lastCluster < 2 ^ 32 - 1 := by
  have hends := L.ends
  have hlarge : L.fatType.endOfChain < 2 ^ 32 - 1 := by cases L.fatType <;> decide
  omega

/-- At the start of a cluster that is not the first, the cursor is at the end of the
one before. -/
theorem Cursor.before (hc : Cursor L f l) (hstart : f.curPosition % L.clusterSize = 0)
    (hpos : f.curPosition ≠ 0) :
    ∃ i, f.curPosition / L.clusterSize = i + 1 ∧ l[i]? = some f.curCluster :=
  ⟨_, (FatLayout.div_pred_succ hstart (Nat.pos_of_ne_zero hpos)).symm,
    hc.here (Nat.pos_of_ne_zero hpos)⟩

/-- Behind the start of a cluster, the cursor is at it. -/
theorem Cursor.inside (hc : Cursor L f l) (h : f.curPosition % L.clusterSize ≠ 0) : Here L f l := by
  have hpos : 0 < f.curPosition := by
    refine Nat.pos_of_ne_zero fun hzero => h ?_
    rw [hzero, Nat.zero_mod]
  have hhere := hc.here hpos
  rwa [FatLayout.div_pred h] at hhere

/-- In a contiguous file the next cluster is the next number. -/
theorem OnChain.count (hl : OnChain L v f l) (hcont : f.flagContiguous = true) {i d : ℕ}
    (hc : l[i]? = some c) (hd : l[i + 1]? = some d) : (c + 1) % 2 ^ 32 = d := by
  have hc' := hl.contiguous hcont i c hc
  have hd' := hl.contiguous hcont (i + 1) d hd
  have hlast := lastCluster_lt L
  have hdlast := (hl.range d (List.mem_of_getElem? hd)).2
  rw [Nat.mod_eq_of_lt (by omega)]
  omega

theorem nextToRead_meets (hv : o.vol.Coherent L) (hl : OnChain L o.vol o.file l)
    (hc : Cursor L o.file l) (hlt : o.file.curPosition < l.length * L.clusterSize) :
    (nextToRead L).Meets
      (fun more o' => more = true ∧ Same L o.vol o'.vol ∧ Moved o.file o'.file ∧
        Here L o'.file l ∧ o'.file.curPosition = o.file.curPosition)
      (fun o' => Same L o.vol o'.vol ∧ ¬ o.vol.cache.Working) o := by
  obtain ⟨d, hd, hdmem⟩ := FatLayout.exists_cluster hlt
  unfold nextToRead
  rw [meets_bind, meets_state]
  by_cases hstart : o.file.curPosition &&& 511 = 0 ∧ L.sectorOfCluster o.file.curPosition = 0
  · have hmod := (L.start_iff _).mp hstart
    show (if _ then _ else _ : Fallible OpenFile Bool).Meets _ _ o
    rw [if_pos hstart]
    by_cases hzero : o.file.curPosition = 0
    · rw [if_pos hzero, if_neg (by simp [hl.root32])]
      rw [hzero, Nat.zero_div] at hd
      refine ⟨rfl, hv.same, moved_setCluster _ _, ?_, rfl⟩
      show l[o.file.curPosition / L.clusterSize]? = some o.file.firstCluster
      rw [hzero, Nat.zero_div, hl.first_eq hd]
      exact hd
    · rw [if_neg hzero]
      obtain ⟨i, hi, hcur⟩ := hc.before hmod hzero
      have hhere : ∀ c, c = d → Here L { o.file with curCluster := c } l := by
        rintro c rfl
        exact hd
      rw [hi] at hd
      by_cases hcont : o.file.flagContiguous = true
      · rw [if_pos (by simp [hl.file, hcont])]
        exact ⟨rfl, hv.same, moved_setCluster _ _, hhere _ (hl.count hcont hcur hd), rfl⟩
      · rw [if_neg (by simp [hcont])]
        have hin := hl.range _ (List.mem_of_getElem? hcur)
        unfold onVolume
        rw [meets_bind, meets_within]
        refine (fatGet_meets hv _).mono (fun r v₁ h => ?_) fun v₁ h => ⟨h.1, h.2 hin⟩
        obtain ⟨hsame, -, rfl⟩ := h
        rw [hl.next_eq hcur hd]
        exact ⟨rfl, hsame, moved_setCluster _ _, hhere d rfl, rfl⟩
  · show (if _ then _ else _ : Fallible OpenFile Bool).Meets _ _ o
    rw [if_neg hstart]
    have hmod : o.file.curPosition % L.clusterSize ≠ 0 := fun h => hstart ((L.start_iff _).mpr h)
    exact ⟨rfl, hv.same, .refl _, hc.inside hmod, rfl⟩

/-- A stretch of a cluster holds that stretch of the file. -/
theorem read_stretch {p k : ℕ} (h : p % L.clusterSize + k ≤ L.clusterSize) :
    Memory.read (v.mem L) (L.fileAddr l p) k = Memory.read (byteAt L l v) p k :=
  Memory.read_congr fun i hi => congrArg (v.mem L)
    (FatLayout.fileAddr_add (show p % L.clusterSize + i < L.clusterSize by omega)).symm

/-- A turn of the loop reads a stretch of the cluster. -/
theorem fetch_meets (hv : o.vol.Coherent L) (hl : OnChain L o.vol o.file l)
    (hhere : Here L o.file l) (hto : 0 < toRead) :
    (fetch L toRead (L.dataSector o.file.curCluster o.file.curPosition)).Meets
      (fun bytes o' => Same L o.vol o'.vol ∧ o'.file = o.file ∧ 0 < bytes.length ∧
        bytes.length ≤ toRead ∧
        o.file.curPosition % L.clusterSize + bytes.length ≤ L.clusterSize ∧
        bytes = Memory.read (byteAt L l o.vol) o.file.curPosition bytes.length)
      (fun o' => Same L o.vol o'.vol ∧ ¬ o.vol.cache.Working) o := by
  have hrange := hl.range _ (List.mem_of_getElem? hhere)
  have hplace := FatLayout.dataSector_spec hrange o.file.curPosition
  rw [← FatLayout.fileAddr_eq hhere] at hplace
  have hsplit := L.mod_clusterSize o.file.curPosition
  have hsize : L.clusterSize = 512 * L.sectorsPerCluster := rfl
  have hsector : L.sectorOfCluster o.file.curPosition < L.sectorsPerCluster := by
    rw [L.sectorOfCluster_eq]
    exact Nat.mod_lt _ L.sectorsPerCluster_pos
  have hoff := Nat.mod_lt o.file.curPosition (show 0 < 512 by decide)
  have hone : L.area.Usable (L.dataSector o.file.curCluster o.file.curPosition) :=
    FsCache.Usable.of_range (FatLayout.dataSector_usable hrange hsector)
  -- whichever way `k` bytes are read
  have hdone : ∀ (k : ℕ) (bytes : List UInt8) (v₁ : FatPartition), 0 < k → k ≤ toRead →
      o.file.curPosition % L.clusterSize + k ≤ L.clusterSize → Same L o.vol v₁ →
      bytes = Memory.read (o.vol.mem L) (L.fileAddr l o.file.curPosition) k →
      Same L o.vol v₁ ∧ o.file = o.file ∧ 0 < bytes.length ∧ bytes.length ≤ toRead ∧
        o.file.curPosition % L.clusterSize + bytes.length ≤ L.clusterSize ∧
        bytes = Memory.read (byteAt L l o.vol) o.file.curPosition bytes.length := by
    intro k bytes v₁ hk hle hin hsame hbytes
    have hlen : bytes.length = k := by rw [hbytes, Memory.length_read]
    rw [hlen]
    exact ⟨hsame, rfl, hk, hle, hin, hbytes.trans (read_stretch hin)⟩
  unfold fetch
  rw [meets_bind, meets_state]
  show (if _ then _ else _ : Fallible OpenFile (List UInt8)).Meets _ _ o
  rw [FatLayout.offset_eq]
  by_cases hcache : o.file.curPosition % 512 ≠ 0 ∨ toRead < 512 ∨
      L.dataSector o.file.curCluster o.file.curPosition = o.vol.cache.sector
  · rw [if_pos hcache, meets_bind]
    unfold onVolume
    rw [meets_within]
    refine (dataCachePrepare_meets hv hone rfl fun h => absurd h Bool.false_ne_true).mono
      (fun _ v₁ hheld => ?_) fun _ h => ⟨h.toSame, h.broken⟩
    have hsame := hheld.same rfl
    refine hdone (min (512 - o.file.curPosition % 512) toRead) _ v₁ (by omega)
      (Nat.min_le_right _ _) (by omega) hsame ?_
    rw [← hplace, ← hsame.mem, ← hheld.sector]
    exact buffer_eq (hheld.sector ▸ hone) (by omega)
  · obtain ⟨hoff0, hmore⟩ := not_or.mp hcache
    have hoff' : o.file.curPosition % 512 = 0 := not_not.mp hoff0
    rw [hoff', Nat.add_zero] at hplace
    rw [if_neg hcache]
    by_cases htwo : 2 * 512 ≤ toRead
    · rw [if_pos htwo]
      show (onVolume _ >>= _ : Fallible OpenFile _).Meets _ _ o
      rw [hl.rootFixed, if_neg Bool.false_ne_true, meets_bind,
        show toRead >>> 9 = toRead / 512 from Nat.shiftRight_eq_div_pow toRead 9]
      unfold onVolume
      rw [meets_within]
      refine (readPast_meets hv (FatLayout.dataSector_usable hrange (by omega))).mono
        (fun vs v₁ h => ?_) fun _ h => ⟨h.toSame, h.broken⟩
      obtain ⟨hsame, hbytes⟩ := h
      rw [hplace] at hbytes
      refine hdone _ _ v₁ (by omega) ?_ (by omega) hsame hbytes
      exact Nat.le_trans (Nat.mul_le_mul_right 512 (Nat.min_le_left _ _))
        (Nat.div_mul_le_self toRead 512)
    · rw [if_neg htwo, meets_bind]
      unfold onVolume
      rw [meets_within]
      refine (readOnePast_meets hv hone).mono (fun dst v₁ h => ?_) fun _ h => ⟨h.toSame, h.broken⟩
      obtain ⟨hsame, hbytes⟩ := h
      rw [hplace] at hbytes
      refine hdone 512 _ v₁ (by decide) (by omega) (by omega) hsame hbytes

theorem readFrom_meets (hv : o.vol.Coherent L) (hl : OnChain L o.vol o.file l)
    (hhere : Here L o.file l) (hto : 0 < toRead) (hsmall : o.file.curPosition + toRead < 2 ^ 32) :
    (readFrom L toRead (L.dataSector o.file.curCluster o.file.curPosition)).Meets
      (fun bytes o' => Same L o.vol o'.vol ∧ Moved o.file o'.file ∧ Cursor L o'.file l ∧
        0 < bytes.length ∧ bytes.length ≤ toRead ∧
        o'.file.curPosition = o.file.curPosition + bytes.length ∧
        bytes = Memory.read (byteAt L l o.vol) o.file.curPosition bytes.length)
      (fun o' => Same L o.vol o'.vol ∧ ¬ o.vol.cache.Working) o := by
  unfold readFrom
  rw [meets_bind]
  refine (fetch_meets hv hl hhere hto).mono (fun bytes o₁ h => ?_) fun _ h => h
  obtain ⟨hsame, hfile, hlen, hle, hin, hbytes⟩ := h
  obtain ⟨hcursor, hpos⟩ := Cursor.advance hhere hlen hin (by omega)
  rw [← hfile] at hcursor hpos
  exact ⟨hsame, hfile ▸ moved_advance _ _, hcursor, hlen, hle,
    hpos.trans (congrArg (·.curPosition + bytes.length) hfile), hbytes⟩

theorem readSome_meets (hv : o.vol.Coherent L) (hl : OnChain L o.vol o.file l)
    (hc : Cursor L o.file l) (hto : 0 < toRead)
    (hend : o.file.curPosition + toRead ≤ o.file.fileSize) :
    (readSome L toRead).Meets
      (fun r o' => ∃ bytes, r = some bytes ∧ Same L o.vol o'.vol ∧ Moved o.file o'.file ∧
        Cursor L o'.file l ∧ 0 < bytes.length ∧ bytes.length ≤ toRead ∧
        o'.file.curPosition = o.file.curPosition + bytes.length ∧
        bytes = Memory.read (byteAt L l o.vol) o.file.curPosition bytes.length)
      (fun o' => Same L o.vol o'.vol ∧ ¬ o.vol.cache.Working) o := by
  have hroom := hl.room
  have hsmall := hl.small
  unfold readSome
  rw [meets_bind, meets_state, hl.rootFixed, if_neg Bool.false_ne_true, meets_bind]
  refine (nextToRead_meets hv hl hc (by omega)).mono (fun more o₁ h => ?_) fun _ h => h
  obtain ⟨rfl, hsame, hmoved, hhere, hpos⟩ := h
  rw [if_pos rfl, meets_bind, meets_state, meets_bind]
  refine (readFrom_meets hsame.coherent (hl.same hmoved hsame) hhere hto (by omega)).mono
    (fun bytes o₂ h => ?_) fun _ h => ⟨hsame.trans h.1, fun hw => h.2 (hsame.working hw)⟩
  obtain ⟨hsame₂, hmoved₂, hcursor, hlen, hle, hpos₂, hbytes⟩ := h
  refine ⟨bytes, rfl, hsame.trans hsame₂, hmoved.trans hmoved₂, hcursor, hlen, hle, by omega, ?_⟩
  rw [hpos] at hbytes
  unfold byteAt at hbytes ⊢
  rwa [hsame.mem] at hbytes

theorem readLoop_meets (hv : o.vol.Coherent L) (hl : OnChain L o.vol o.file l)
    (hc : Cursor L o.file l) {fuel : ℕ} (hfuel : toRead ≤ fuel)
    (hend : o.file.curPosition + toRead ≤ o.file.fileSize) :
    (readLoop L fuel toRead).Meets
      (fun bytes o' => Same L o.vol o'.vol ∧ Moved o.file o'.file ∧ Cursor L o'.file l ∧
        o'.file.curPosition = o.file.curPosition + toRead ∧
        bytes = Memory.read (byteAt L l o.vol) o.file.curPosition toRead)
      (fun o' => Same L o.vol o'.vol ∧ ¬ o.vol.cache.Working) o := by
  induction fuel generalizing toRead o with
  | zero =>
    obtain rfl : toRead = 0 := Nat.le_zero.mp hfuel
    exact ⟨hv.same, .refl _, hc, rfl, rfl⟩
  | succ fuel ih =>
    unfold readLoop
    by_cases hzero : toRead = 0
    · subst hzero
      rw [if_pos rfl]
      exact ⟨hv.same, .refl _, hc, rfl, rfl⟩
    rw [if_neg hzero, meets_bind]
    refine (readSome_meets hv hl hc (Nat.pos_of_ne_zero hzero) hend).mono (fun r o₁ h => ?_)
      fun _ h => h
    obtain ⟨bytes, rfl, hsame, hmoved, hcursor, hlen, hle, hpos, hbytes⟩ := h
    show (readLoop L fuel (toRead - bytes.length) >>= _ : Fallible OpenFile _).Meets _ _ o₁
    rw [meets_bind]
    have hsize := hmoved.fileSize
    refine (ih hsame.coherent (hl.same hmoved hsame) hcursor (by omega) (by omega)).mono
      (fun rest o₂ h => ?_) fun _ h => ⟨hsame.trans h.1, fun hw => h.2 (hsame.working hw)⟩
    obtain ⟨hsame₂, hmoved₂, hcursor₂, hpos₂, hrest⟩ := h
    refine ⟨hsame.trans hsame₂, hmoved.trans hmoved₂, hcursor₂, by omega, ?_⟩
    -- what this turn reads and what the others do
    obtain ⟨k, hk⟩ := Nat.exists_eq_add_of_le hle
    unfold byteAt at hrest hbytes ⊢
    rw [hpos, hsame.mem, hk, Nat.add_sub_cancel_left] at hrest
    rw [hk, Memory.read_add, ← hbytes, ← hrest]

/-- Reading returns what the file holds at its position, as much of what is asked as
there is. -/
theorem read_meets (hv : o.vol.Coherent L) (hl : OnChain L o.vol o.file l)
    (hc : Cursor L o.file l) (hin : o.file.curPosition ≤ o.file.fileSize) (nbyte : ℕ) :
    (read L nbyte).Meets
      (fun bytes o' => Same L o.vol o'.vol ∧ Moved o.file o'.file ∧ Cursor L o'.file l ∧
        o'.file.curPosition = o.file.curPosition + bytes.length ∧
        bytes = Memory.read (byteAt L l o.vol) o.file.curPosition
          (min nbyte (o.file.fileSize - o.file.curPosition)))
      (fun o' => Same L o.vol o'.vol ∧ (o.file.flagRead = true → ¬ o.vol.cache.Working)) o := by
  have hsmall := hl.small
  have hreadable : readable L nbyte o.file =
      min nbyte (o.file.fileSize - o.file.curPosition) := by
    rw [readable, if_pos hl.file,
      show o.file.fileSize + 2 ^ 32 - o.file.curPosition =
        o.file.fileSize - o.file.curPosition + 2 ^ 32 by omega, Nat.add_mod_right,
      Nat.mod_eq_of_lt (by omega)]
  unfold read
  rw [meets_onFail, meets_bind, meets_state, meets_bind, meets_require]
  refine ⟨fun _ => ?_, fun hno => ⟨hv.same, fun h => absurd (h.symm.trans hno).symm
    Bool.false_ne_true⟩⟩
  rw [hreadable]
  refine (readLoop_meets hv hl hc (Nat.le_refl _) (by omega)).mono (fun bytes o' h => ?_)
    fun _ h => ⟨h.1, fun _ => h.2⟩
  obtain ⟨hsame, hmoved, hcursor, hpos, hbytes⟩ := h
  have hlen := congrArg List.length hbytes
  rw [Memory.length_read] at hlen
  exact ⟨hsame, hmoved, hcursor, hpos.trans (congrArg _ hlen.symm), hbytes⟩

end OpenFile

end Heimdall
