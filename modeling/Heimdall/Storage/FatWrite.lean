import Heimdall.Storage.FatRead

/-!
# Writing

A file that is written past its end takes in new clusters, and `m_fileSize` is set only
when all is written. `Wrote` is what part of a write has done by then: the chain has
grown by clusters that were free, and the file holds what it should up to the position,
behind it whatever was in the new clusters.

`writeLoop_meets` is the induction over the turns of the loop. `write_meets` is the
result, in both outcomes: a write that succeeds is a write to an array of bytes, and
one that fails has changed nothing in front of the position it began at and nothing of
any other file.
-/

namespace Heimdall

namespace OpenFile

open Fallible FatPartition

variable {L : FatLayout} {v v' v'' : FatPartition} {f f' : FatFile} {o o' o'' : OpenFile}
  {l l' l'' t : List ℕ} {c n p pos x : ℕ} {src src' : List UInt8}

/-- The chain ends where `l` does. -/
structure Whole (L : FatLayout) (v : FatPartition) (f : FatFile) (l : List ℕ) : Prop
    extends OnChain L v f l where
  ends : Linked (v.next L) l

/-- The clusters of a file are in use. -/
theorem Whole.used (h : Whole L v f l) (hc : c ∈ l) : v.entry L c ≠ 0 := by
  intro hzero
  obtain ⟨i, hi, rfl⟩ := List.getElem_of_mem hc
  have hnext := (h.ends.next_getElem hi).symm.trans (next_eq_zero_iff.mpr hzero)
  have hrange := h.range 0 (List.mem_of_getElem? hnext)
  exact absurd hrange.1 (by decide)

/-- `c` is the last cluster. -/
def IsLast (l : List ℕ) (c : ℕ) : Prop := l.getLast? = some c

/-- The bytes behind `pos`, of the file and of what it can grow into. -/
def Beyond (L : FatLayout) (v : FatPartition) (l : List ℕ) (pos x : ℕ) : Prop :=
  (∃ c, Free L v c ∧ L.InCluster c x) ∨
    ∃ p, pos ≤ p ∧ p < l.length * L.clusterSize ∧ x = L.fileAddr l p

theorem free_of_same (h : Same L v v') (hfree : Free L v' c) : Free L v c :=
  ⟨hfree.1, (congrFun h.entry c).symm.trans hfree.2⟩

theorem Beyond.of_same (h : Same L v v') (hx : Beyond L v' l pos x) : Beyond L v l pos x :=
  hx.imp_left fun ⟨c, hc, hin⟩ => ⟨c, free_of_same h hc, hin⟩

/-! ## The next cluster -/

/-- The file before and after one more cluster. -/
structure Grown (L : FatLayout) (o o' : OpenFile) (l l' : List ℕ) : Prop where
  kept : Kept L (IsLast l) nobody o.vol o'.vol
  entry : SameEntry o.file o'.file
  fileSize : o'.file.fileSize = o.file.fileSize
  curPosition : o'.file.curPosition = o.file.curPosition
  more : ∃ t, l' = l ++ t ∧ ∀ c ∈ t, Free L o.vol c
  whole : Whole L o'.vol o'.file l'
  dirty : o.file.flagDirDirty = true ∨ o'.file.firstCluster ≠ o.file.firstCluster →
    o'.file.flagDirDirty = true

/-- `m_curCluster` as it is when a cluster is added. -/
def AtEnd (f : FatFile) (l : List ℕ) : Prop :=
  l.getLast? = some f.curCluster ∨ l = [] ∧ f.curCluster = 0

/-- What `addCluster` makes of the file. -/
def withCluster (n : ℕ) (f : FatFile) : FatFile :=
  { f with
    curCluster := n
    flagContiguous :=
      if f.curCluster = 0 then true
      else if n ≠ (f.curCluster + 1) % 2 ^ 32 then false else f.flagContiguous
    flagDirDirty := true }

theorem AtEnd.range (h : AtEnd f l) (hl : OnChain L v f l) :
    f.curCluster = 0 ∨ L.InRange f.curCluster :=
  h.elim (fun hlast => .inr (hl.range _ (List.mem_of_getLast? hlast))) fun hnil => .inl hnil.2

theorem addCluster_meets (hv : o.vol.Coherent L) (hstart : 1 ≤ o.vol.allocSearchStart) :
    (addCluster L).Meets
      (fun _ o' => ∃ n, Allocated L o.file.curCluster n o.vol o'.vol ∧
        o'.file = withCluster n o.file)
      (fun o' => Kept L nobody nobody o.vol o'.vol ∧
        (o.file.curCluster = 0 ∨ L.InRange o.file.curCluster → o.vol.cache.Working →
          Same L o.vol o'.vol ∧ ∀ m, o.vol.allocSearchStart < m → m ≤ L.lastCluster →
            m ≠ o.file.curCluster → o.vol.entry L m ≠ 0)) o := by
  unfold addCluster onVolume
  rw [meets_bind, meets_state, meets_bind, meets_within]
  exact (allocateCluster_meets hv hstart o.file.curCluster).mono (fun n v' h => ⟨n, h.1, rfl⟩)
    fun v' h => h

/-- The chain takes in a cluster. -/
theorem Whole.grow (h : Whole L v f l) (hend : AtEnd f l)
    (hall : Allocated L f.curCluster n v v') :
    Whole L v' { withCluster n f with firstCluster := if l = [] then n else f.firstCluster }
      (l ++ [n]) := by
  have hfresh : ∀ c ∈ l, c ≠ n := by
    rintro c hc rfl
    exact h.used hc hall.free.2
  have hends : Linked (v'.next L) (l ++ [n]) := by
    rcases hend with hlast | ⟨rfl, -⟩
    · obtain ⟨s, hs⟩ := List.getLast?_eq_some_iff.mp hlast
      have hin : f.curCluster ∈ l := List.mem_of_getLast? hlast
      have hne : f.curCluster ≠ 0 := by
        have hrange := h.range _ hin
        exact Nat.ne_of_gt (Nat.lt_of_lt_of_le (by decide) hrange.1)
      have hnodup := h.ends.nodup
      rw [hs] at hnodup hfresh ⊢
      have hlinked := h.ends
      rw [hs] at hlinked
      rw [List.append_assoc]
      refine hlinked.snoc (fun x hx => ?_) (hall.follows hne) hall.ends
      have hx' : x ≠ f.curCluster := by
        rintro rfl
        exact (List.disjoint_of_nodup_append hnodup) hx List.mem_cons_self
      exact congrArg L.link (hall.rest x (hfresh x (List.mem_append_left _ hx)) (.inl hx'))
    · exact ⟨hall.ends, trivial⟩
  have hlast := lastCluster_lt L
  have hcontiguous : (withCluster n f).flagContiguous = true → ∀ i c, (l ++ [n])[i]? = some c →
      c = (if l = [] then n else f.firstCluster) + i := by
    intro hflag i c hc
    rcases hend with hcur | ⟨rfl, -⟩
    · have hin : f.curCluster ∈ l := List.mem_of_getLast? hcur
      have hrange := h.range _ hin
      have hne : f.curCluster ≠ 0 := Nat.ne_of_gt (Nat.lt_of_lt_of_le (by decide) hrange.1)
      have hnil : l ≠ [] := List.ne_nil_of_mem hin
      have hflag' : (if f.curCluster = 0 then true
        else if n ≠ (f.curCluster + 1) % 2 ^ 32 then false else f.flagContiguous) = true := hflag
      rw [if_neg hne] at hflag'
      have hrange₂ := hrange.2
      have hsucc : (f.curCluster + 1) % 2 ^ 32 = f.curCluster + 1 :=
        Nat.mod_eq_of_lt (by omega)
      rw [hsucc] at hflag'
      by_cases hn : n = f.curCluster + 1
      · rw [if_neg (not_not_intro hn)] at hflag'
        rw [if_neg hnil]
        have hold := h.contiguous hflag'
        by_cases hi : i < l.length
        · exact hold i c ((List.getElem?_append_left hi).symm.trans hc)
        · rw [List.getElem?_append_right (by omega)] at hc
          obtain ⟨hlt, hget⟩ := List.getElem?_eq_some_iff.mp hc
          rw [List.length_singleton] at hlt
          have hcn : c = n := by
            rw [← hget]
            exact List.mem_singleton.mp (List.getElem_mem hlt)
          rw [List.getLast?_eq_getElem?] at hcur
          have hprev := hold _ _ hcur
          have hpos : 0 < l.length := List.length_pos_of_ne_nil hnil
          omega
      · rw [if_pos hn] at hflag'
        exact absurd hflag' Bool.false_ne_true
    · rw [if_pos rfl]
      obtain ⟨hlt, hget⟩ := List.getElem?_eq_some_iff.mp hc
      rw [List.nil_append, List.length_singleton] at hlt
      obtain rfl : i = 0 := by omega
      exact hget.symm
  exact {
    file := h.file
    rootFixed := h.rootFixed
    root32 := h.root32
    chain := hends.isChain
    range := fun c hc => (List.mem_append.mp hc).elim (h.range c) fun hc =>
      List.mem_singleton.mp hc ▸ hall.free.1
    first := by
      show (if l = [] then n else f.firstCluster) = (l ++ [n]).headD 0
      cases l with
      | nil => rfl
      | cons a l =>
        rw [if_neg (List.cons_ne_nil a l)]
        exact h.first
    contiguous := hcontiguous
    room := by
      have hroom := h.room
      show f.fileSize ≤ (l ++ [n]).length * L.clusterSize
      rw [List.length_append, List.length_singleton, Nat.add_mul, Nat.one_mul]
      omega
    small := h.small
    ends := hends }

/-- Adding a cluster. -/
theorem Whole.grown (h : Whole L o.vol o.file l) (hend : AtEnd o.file l)
    (hall : Allocated L o.file.curCluster n o.vol v') :
    Grown L o
      ⟨v', { withCluster n o.file with firstCluster := if l = [] then n else o.file.firstCluster }⟩
      l (l ++ [n]) where
  kept := hall.kept.mono (fun c hc heq => by
    rcases hend with hlast | ⟨-, hcur⟩
    · rwa [← heq] at hlast
    · have hlow := hc.1
      omega) fun _ hb => hb
  entry := ⟨rfl, rfl, rfl, rfl, rfl, rfl, id⟩
  fileSize := rfl
  curPosition := rfl
  more := ⟨[n], rfl, fun c hc => List.mem_singleton.mp hc ▸ hall.free⟩
  whole := h.grow hend hall
  dirty _ := rfl

theorem Whole.same (h : Whole L v f l) (hmoved : Moved f f') (hsame : Same L v v') :
    Whole L v' f' l :=
  { h.toOnChain.same hmoved hsame with
    ends := h.ends.congr fun c _ => congrArg L.link (congrFun hsame.entry c) }

/-- Moving on to a cluster the file has. -/
theorem Whole.moved (h : Whole L o.vol o.file l) (hmoved : Moved o.file f')
    (hsame : Same L o.vol v') (hpos : f'.curPosition = o.file.curPosition) :
    Grown L o ⟨v', f'⟩ l l where
  kept := hsame.kept
  entry := hmoved.toSameEntry
  fileSize := hmoved.fileSize
  curPosition := hpos
  more := ⟨[], (List.append_nil l).symm, fun _ hc => absurd hc List.not_mem_nil⟩
  whole := h.same hmoved hsame
  dirty hd := hmoved.flagDirDirty.trans (hd.resolve_right fun hne => hne hmoved.firstCluster)

/-- Nothing is free where the next search starts. -/
def Full (L : FatLayout) (v : FatPartition) : Prop :=
  ∀ m, v.allocSearchStart < m → m ≤ L.lastCluster → v.entry L m ≠ 0

/-- When `addCluster` fails on a card that works, the volume is full. -/
theorem Whole.full (h : Whole L o.vol o.file l) (hend : AtEnd o.file l)
    (hsame : Same L o.vol v')
    (hnone : ∀ m, o.vol.allocSearchStart < m → m ≤ L.lastCluster → m ≠ o.file.curCluster →
      o.vol.entry L m ≠ 0) : Full L v' := by
  intro m hm hle
  rw [hsame.alloc] at hm
  rw [hsame.entry]
  by_cases heq : m = o.file.curCluster
  · rcases hend with hlast | ⟨-, hcur⟩
    · rw [heq]
      exact h.used (List.mem_of_getLast? hlast)
    · omega
  · exact hnone m hm hle heq

theorem nextToWrite_meets (hv : o.vol.Coherent L) (hstart : 1 ≤ o.vol.allocSearchStart)
    (h : Whole L o.vol o.file l) (hc : Cursor L o.file l) :
    (nextToWrite L).Meets
      (fun _ o' => ∃ l', Grown L o o' l l' ∧ Here L o'.file l')
      (fun o' => Kept L nobody nobody o.vol o'.vol ∧ (o.vol.cache.Working → Full L o'.vol)) o := by
  -- the cases in which the file has to grow
  have hadd : ∀ v₁, Same L o.vol v₁ → AtEnd o.file l →
      o.file.curPosition / L.clusterSize = l.length →
      (addCluster L).Meets
        (fun _ o' => ∃ n, o'.file = withCluster n o.file ∧
          Grown L o ⟨o'.vol, { withCluster n o.file with
            firstCluster := if l = [] then n else o.file.firstCluster }⟩ l (l ++ [n]) ∧
          (l ++ [n])[o.file.curPosition / L.clusterSize]? = some n)
        (fun o' => Kept L nobody nobody o.vol o'.vol ∧ (o.vol.cache.Working → Full L o'.vol))
        { o with vol := v₁ } := by
    intro v₁ hsame hend hidx
    refine (addCluster_meets (o := { o with vol := v₁ }) hsame.coherent
      (hsame.alloc.symm ▸ hstart)).mono (fun _ o' h' => ?_) fun o' h' => ?_
    · obtain ⟨n, hall, hfile⟩ := h'
      refine ⟨n, hfile, h.grown hend (hall.of_same hsame), ?_⟩
      rw [hidx, List.getElem?_append_right (Nat.le_refl _), Nat.sub_self]
      rfl
    · refine ⟨hsame.kept.after h'.1, fun hw => ?_⟩
      obtain ⟨hsame', hnone⟩ := h'.2 (hend.range h.toOnChain) (hsame.working hw)
      refine h.full hend (hsame.trans hsame') fun m hm hle hne => ?_
      have hm' : v₁.entry L m ≠ 0 := hnone m (hsame.alloc.symm ▸ hm) hle hne
      rwa [hsame.entry] at hm'
  unfold nextToWrite
  rw [meets_bind, meets_state]
  show (if _ then _ else _ : Fallible OpenFile Unit).Meets _ _ o
  by_cases hstart₀ : o.file.curPosition &&& 511 = 0 ∧ L.sectorOfCluster o.file.curPosition = 0
  swap
  · rw [if_neg fun hs => hstart₀ hs.symm]
    have hmod : o.file.curPosition % L.clusterSize ≠ 0 := fun hs => hstart₀ ((L.start_iff _).mpr hs)
    exact ⟨l, h.moved (.refl _) hv.same rfl, hc.inside hmod⟩
  have hmod := (L.start_iff _).mp hstart₀
  rw [if_pos hstart₀.symm]
  by_cases hcur : o.file.curCluster ≠ 0
  · rw [if_pos hcur]
    have hpos : o.file.curPosition ≠ 0 := fun hzero => hcur (hc.start hzero)
    obtain ⟨i, hi, hat⟩ := hc.before hmod hpos
    have hin := h.range _ (List.mem_of_getElem? hat)
    have hilt : i < l.length := (List.getElem?_eq_some_iff.mp hat).1
    have hmove : ∀ (v₁ : FatPartition) (d : ℕ), Same L o.vol v₁ → l[i + 1]? = some d →
        ∃ l', Grown L o ⟨v₁, { o.file with curCluster := d }⟩ l l' ∧
          Here L { o.file with curCluster := d } l' := by
      intro v₁ d hsame hd
      refine ⟨l, h.moved (moved_setCluster _ _) hsame rfl, ?_⟩
      show l[o.file.curPosition / L.clusterSize]? = some d
      rw [hi]
      exact hd
    by_cases hcount :
        (o.file.flagContiguous && decide (o.file.curPosition < o.file.fileSize)) = true
    · rw [if_pos hcount]
      obtain ⟨hcont, hlt⟩ := Bool.and_eq_true_iff.mp hcount
      have hroom := h.room
      obtain ⟨d, hd, -⟩ := FatLayout.exists_cluster
        (Nat.lt_of_lt_of_le (of_decide_eq_true hlt) hroom)
      rw [hi] at hd
      have hnext := h.toOnChain.count hcont hat hd
      rw [hnext]
      exact hmove o.vol d hv.same hd
    · rw [if_neg hcount]
      unfold onVolume
      rw [meets_bind, meets_within]
      refine (fatGet_meets hv o.file.curCluster).mono (fun r v₁ h' => ?_)
        fun v₁ h' => ⟨h'.1.kept, fun hw => absurd hw (h'.2 hin)⟩
      obtain ⟨hsame, -, rfl⟩ := h'
      obtain ⟨_, hget⟩ := List.getElem?_eq_some_iff.mp hat
      have hnext := h.ends.next_getElem hilt
      rw [hget] at hnext
      rw [hnext]
      cases hd : l[i + 1]? with
      | some d => exact hmove v₁ d hsame hd
      | none =>
        have hlen : i + 1 = l.length := by
          have hge := List.getElem?_eq_none_iff.mp hd
          omega
        have hend : AtEnd o.file l := by
          refine .inl ?_
          rw [List.getLast?_eq_getElem?, ← hlen, Nat.add_sub_cancel]
          exact hat
        refine (hadd v₁ hsame hend (hi.trans hlen)).mono (fun _ o' h' => ?_) fun _ h' => h'
        obtain ⟨n, hfile, hgrown, hhere⟩ := h'
        rw [if_neg (List.ne_nil_of_mem (List.mem_of_getElem? hat))] at hgrown
        refine ⟨l ++ [n], ?_, ?_⟩
        · have heq : o' = ⟨o'.vol, withCluster n o.file⟩ := by rw [← hfile]
          rw [heq]
          exact hgrown
        · unfold Here
          rw [hfile]
          exact hhere
  · rw [if_neg hcur]
    have hzero : o.file.curPosition = 0 := by
      by_contra hpos
      obtain ⟨i, -, hat⟩ := hc.before hmod hpos
      have hrange := h.range _ (List.mem_of_getElem? hat)
      have hlow := hrange.1
      omega
    by_cases hfirst : o.file.firstCluster = 0
    · rw [if_pos hfirst]
      have hnil : l = [] := by
        cases l with
        | nil => rfl
        | cons a l =>
          have hrange := h.range a List.mem_cons_self
          have hlow := hrange.1
          have ha : o.file.firstCluster = a := h.first
          omega
      rw [meets_bind]
      refine (hadd o.vol hv.same (.inr ⟨hnil, not_not.mp hcur⟩)
        (by rw [hzero, Nat.zero_div, hnil]; rfl)).mono (fun _ o' h' => ?_) fun _ h' => h'
      obtain ⟨n, hfile, hgrown, hhere⟩ := h'
      rw [if_pos hnil] at hgrown
      refine ⟨l ++ [n], ?_, ?_⟩
      · show Grown L o ⟨o'.vol, { o'.file with firstCluster := o'.file.curCluster }⟩ l (l ++ [n])
        rw [hfile]
        exact hgrown
      · show (l ++ [n])[o'.file.curPosition / L.clusterSize]? = some o'.file.curCluster
        rw [hfile]
        exact hhere
    · rw [if_neg hfirst]
      refine ⟨l, h.moved (moved_setCluster _ _) hv.same rfl, ?_⟩
      show l[o.file.curPosition / L.clusterSize]? = some o.file.firstCluster
      rw [hzero, Nat.zero_div]
      cases l with
      | nil => exact absurd h.first hfirst
      | cons a l =>
        have ha : o.file.firstCluster = a := h.first
        rw [ha]
        rfl

/-! ## The bytes -/

/-- The bytes from a position to the end of its cluster. -/
def Rest (L : FatLayout) (l : List ℕ) (pos x : ℕ) : Prop :=
  L.fileAddr l pos ≤ x ∧ x < L.fileAddr l pos + (L.clusterSize - pos % L.clusterSize)

/-- What a turn of the loop writes. -/
theorem writeTo_meets (hv : o.vol.Coherent L) (hl : OnChain L o.vol o.file l)
    (hhere : Here L o.file l) (hpre : o.file.flagPreallocate = false) (hsrc : src ≠ []) :
    (writeTo src (L.dataSector o.file.curCluster o.file.curPosition) L).Meets
      (fun n o' => o'.file = o.file ∧ 0 < n ∧ n ≤ src.length ∧
        o.file.curPosition % L.clusterSize + n ≤ L.clusterSize ∧
        Written L (L.fileAddr l o.file.curPosition) (src.take n)
          (fun x => o.file.fileSize ≤ o.file.curPosition ∧ Rest L l o.file.curPosition x)
          o.vol o'.vol)
      (fun o' => Written L (L.fileAddr l o.file.curPosition) []
        (Rest L l o.file.curPosition) o.vol o'.vol ∧ ¬ o.vol.cache.Working) o := by
  have hrange := hl.range _ (List.mem_of_getElem? hhere)
  have hplace := FatLayout.dataSector_spec hrange o.file.curPosition
  rw [← FatLayout.fileAddr_eq hhere] at hplace
  have hsplit := L.mod_clusterSize o.file.curPosition
  have hsize : L.clusterSize = 512 * L.sectorsPerCluster := rfl
  have hsector : L.sectorOfCluster o.file.curPosition < L.sectorsPerCluster := by
    rw [L.sectorOfCluster_eq]
    exact Nat.mod_lt _ L.sectorsPerCluster_pos
  have hoff := Nat.mod_lt o.file.curPosition (show 0 < 512 by decide)
  have hlen : 0 < src.length := List.length_pos_of_ne_nil hsrc
  have hone : L.area.Usable (L.dataSector o.file.curCluster o.file.curPosition) :=
    FsCache.Usable.of_range (FatLayout.dataSector_usable hrange hsector)
  have hbad : ∀ v₁, Failed L o.vol v₁ →
      Written L (L.fileAddr l o.file.curPosition) [] (Rest L l o.file.curPosition) o.vol v₁ ∧
        ¬ o.vol.cache.Working := fun v₁ h => ⟨h.toSame.written, h.broken⟩
  unfold writeTo
  rw [meets_bind, meets_state]
  show (if _ then _ else _ : Fallible OpenFile ℕ).Meets _ _ o
  rw [FatLayout.offset_eq]
  by_cases hcache : o.file.curPosition % 512 ≠ 0 ∨ src.length < 512
  · rw [if_pos hcache]
    show ((onVolume _ >>= _ : Fallible OpenFile ℕ)).Meets _ _ o
    unfold onVolume
    rw [meets_bind, meets_within]
    -- the sector is read unless it is all behind the file
    generalize hopt : (if o.file.curPosition % 512 = 0 ∧
      (o.file.fileSize ≤ o.file.curPosition ∨ o.file.flagPreallocate = true)
      then CacheOption.reserveForWrite else CacheOption.forWrite) = option
    have hreserve : option.mirrorFat = false ∧ option.dirty = true ∧
        (option.noRead = true → o.file.curPosition % 512 = 0 ∧
          o.file.fileSize ≤ o.file.curPosition) := by
      rw [← hopt]
      split
      · next hc => exact ⟨rfl, rfl, fun _ => ⟨hc.1, hc.2.resolve_right fun h =>
          absurd (hpre.symm.trans h) Bool.false_ne_true⟩⟩
      · exact ⟨rfl, rfl, fun h => absurd h Bool.false_ne_true⟩
    obtain ⟨hfat, hdirty, hnew⟩ := hreserve
    have htake : (src.take (min (512 - o.file.curPosition % 512) src.length)).length =
        min (512 - o.file.curPosition % 512) src.length := by
      rw [List.length_take]
      omega
    refine (prepareStore_meets hv hone hfat hdirty (by rw [htake]; omega)).mono
      (fun _ v₁ hwritten => ?_) fun v₁ h => hbad v₁ h
    rw [hplace] at hwritten
    have hwrote : Written L (L.fileAddr l o.file.curPosition)
        (src.take (min (512 - o.file.curPosition % 512) src.length))
        (fun x => o.file.fileSize ≤ o.file.curPosition ∧ Rest L l o.file.curPosition x)
        o.vol v₁ := by
      refine hwritten.mono fun x hx => ?_
      obtain ⟨hread, hx⟩ := hx
      obtain ⟨hzero, hle⟩ := hnew hread
      exact ⟨hle, by omega, by omega⟩
    rw [meets_bind, meets_given]
    refine ⟨fun _ => ?_, fun _ => ⟨rfl, by omega, Nat.min_le_right _ _, by omega, hwrote⟩⟩
    rw [meets_within]
    refine (syncData_meets hwrote.coherent).mono
      (fun _ v₂ hsame => ⟨rfl, by omega, Nat.min_le_right _ _, by omega, hwrote.same hsame⟩)
      fun v₂ h => ⟨(hwrote.same h.toSame).spoil fun x hx => ?_, fun hw =>
        h.broken (hwrote.working hw)⟩
    rw [htake] at hx
    exact hx.elim (fun hin => ⟨hin.1, by omega⟩) fun hsp => hsp.2
  · obtain ⟨hoff0, hmore⟩ := not_or.mp hcache
    have hoff' : o.file.curPosition % 512 = 0 := not_not.mp hoff0
    rw [hoff', Nat.add_zero] at hplace
    rw [if_neg hcache]
    by_cases htwo : 2 * 512 ≤ src.length
    · rw [if_pos htwo]
      show ((onVolume _ >>= _ : Fallible OpenFile ℕ)).Meets _ _ o
      rw [show src.length >>> 9 = src.length / 512 from Nat.shiftRight_eq_div_pow _ 9]
      have hfit : min (src.length / 512)
          (L.sectorsPerCluster - L.sectorOfCluster o.file.curPosition) * 512 ≤ src.length :=
        Nat.le_trans (Nat.mul_le_mul_right 512 (Nat.min_le_left _ _)) (Nat.div_mul_le_self _ 512)
      generalize hn : min (src.length / 512)
        (L.sectorsPerCluster - L.sectorOfCluster o.file.curPosition) = k at hfit ⊢
      unfold onVolume
      rw [meets_bind, meets_within]
      have hblocks := Memory.length_blocks 512 (0 : UInt8) k src
      refine (writePast_meets hv (by
        rw [hblocks]
        exact FatLayout.dataSector_usable hrange (by omega))).mono
        (fun _ v₁ h => ?_) fun v₁ h => ⟨?_, h.2⟩
      · rw [hplace, Memory.flatMap_blocks 0 k hfit] at h
        exact ⟨rfl, by omega, hfit, by omega, h.mono fun _ hf => hf.elim⟩
      · rw [hplace, hblocks] at h
        exact h.1.mono fun x hx => ⟨hx.1, by omega⟩
    · rw [if_neg htwo]
      have hblock := Memory.flatMap_blocks (n := 512) (0 : UInt8) 1
        (show 1 * 512 ≤ src.length by omega)
      have htoList : (Memory.block 512 0 src 0).toList = src.take 512 :=
        (List.append_nil _).symm.trans hblock
      unfold onVolume
      rw [meets_bind, meets_within]
      refine (writeOnePast_meets hv hone _).mono (fun _ v₁ h => ?_) fun v₁ h => ⟨?_, h.2⟩
      · rw [hplace, htoList] at h
        exact ⟨rfl, by decide, by omega, by omega, h.mono fun _ hf => hf.elim⟩
      · rw [hplace] at h
        exact h.1.mono fun x hx => ⟨hx.1, by omega⟩

/-- The bytes behind a position of a file are the file's to change. -/
theorem Rest.beyond (h : Rest L l pos x) (hc : l[pos / L.clusterSize]? = some c) :
    Beyond L v l pos x := by
  obtain ⟨hlo, hhi⟩ := h
  obtain ⟨i, rfl⟩ := Nat.exists_eq_add_of_le hlo
  have hlt := Nat.mod_lt pos L.clusterSize_pos
  have hi : pos % L.clusterSize + i < L.clusterSize := by omega
  have hlen : pos / L.clusterSize < l.length := (List.getElem?_eq_some_iff.mp hc).1
  have hsplit := Nat.div_add_mod pos L.clusterSize
  have hle := Nat.mul_le_mul_left L.clusterSize hlen
  rw [Nat.mul_succ, Nat.mul_comm _ l.length] at hle
  exact .inr ⟨pos + i, Nat.le_add_right _ _, by omega, (FatLayout.fileAddr_add hi).symm⟩

theorem Rest.not_table (h : Rest L l pos x) (hc : l[pos / L.clusterSize]? = some c) :
    ¬ L.InTable x := by
  have hin := FatLayout.fileAddr_eq (L := L) hc
  obtain ⟨hlo, hhi⟩ := h
  have hlt := Nat.mod_lt pos L.clusterSize_pos
  exact FatLayout.InCluster.not_table (c := c) ⟨by omega, by omega⟩

/-- `src` has been written from the position on, and `m_fileSize` is still what it
was. -/
structure Wrote (L : FatLayout) (o : OpenFile) (l : List ℕ) (src : List UInt8) (o' : OpenFile)
    (l' : List ℕ) : Prop where
  kept : Kept L (IsLast l) (Beyond L o.vol l o.file.curPosition) o.vol o'.vol
  entry : SameEntry o.file o'.file
  fileSize : o'.file.fileSize = o.file.fileSize
  curPosition : o'.file.curPosition = o.file.curPosition + src.length
  more : ∃ t, l' = l ++ t ∧ ∀ c ∈ t, Free L o.vol c
  whole : Whole L o'.vol o'.file l'
  cursor : Cursor L o'.file l'
  dirty : o.file.flagDirDirty = true ∨ o'.file.firstCluster ≠ o.file.firstCluster →
    o'.file.flagDirDirty = true
  bytes : ∀ p, p < max o.file.fileSize o'.file.curPosition →
    byteAt L l' o'.vol p = Memory.write (byteAt L l o.vol) o.file.curPosition src p

/-- The cursor is no further than the end of the chain. -/
theorem Cursor.le_length (hc : Cursor L f l) : f.curPosition ≤ l.length * L.clusterSize := by
  by_cases hzero : f.curPosition = 0
  · omega
  · have hlt := (List.getElem?_eq_some_iff.mp (hc.here (Nat.pos_of_ne_zero hzero))).1
    have hsplit := Nat.div_add_mod (f.curPosition - 1) L.clusterSize
    have hmod := Nat.mod_lt (f.curPosition - 1) L.clusterSize_pos
    have hle := Nat.mul_le_mul_left L.clusterSize hlt
    rw [Nat.mul_succ, Nat.mul_comm _ l.length] at hle
    omega

theorem Wrote.refl (hv : o.vol.Coherent L) (h : Whole L o.vol o.file l) (hc : Cursor L o.file l) :
    Wrote L o l [] o l where
  kept := hv.same.kept
  entry := .refl _
  fileSize := rfl
  curPosition := rfl
  more := ⟨[], (List.append_nil l).symm, fun _ hc => absurd hc List.not_mem_nil⟩
  whole := h
  cursor := hc
  dirty hd := hd.resolve_right fun hne => hne rfl
  bytes p _ := by rw [Memory.write_nil]

/-- What is free later was free before. -/
theorem free_before {own bytes : ℕ → Prop} (h' : Whole L v' f' l')
    (hkept : Kept L own bytes v v') (hown : ∀ c, own c → c ∈ l') (hfree : Free L v' c) :
    Free L v c := by
  refine ⟨hfree.1, ?_⟩
  by_contra hused
  have hno : ¬ own c := fun ho => h'.used (hown c ho) hfree.2
  exact hused ((hkept.table hfree.1 hno hused).symm.trans hfree.2)

theorem mem_of_isLast (hmore : ∃ t, l' = l ++ t ∧ ∀ c ∈ t, Free L v c) (hc : IsLast l c) :
    c ∈ l' := by
  obtain ⟨t, rfl, -⟩ := hmore
  exact List.mem_append_left t (List.mem_of_getLast? hc)

/-- What is the file's after it has grown was the file's or free before. -/
theorem Beyond.before {bytes : ℕ → Prop} (h' : Whole L v' f' l')
    (hkept : Kept L (IsLast l) bytes v v') (hmore : ∃ t, l' = l ++ t ∧ ∀ c ∈ t, Free L v c)
    {pos' : ℕ} (hpos : pos ≤ pos') (hx : Beyond L v' l' pos' x) : Beyond L v l pos x := by
  rcases hx with ⟨c, hfree, hin⟩ | ⟨p, hp, hlt, rfl⟩
  · exact .inl ⟨c, free_before h' hkept (fun _ => mem_of_isLast hmore) hfree, hin⟩
  · obtain ⟨t, rfl, hfree⟩ := hmore
    by_cases hold : p < l.length * L.clusterSize
    · exact .inr ⟨p, by omega, hold, FatLayout.fileAddr_append hold⟩
    · obtain ⟨c, hc, -⟩ := FatLayout.exists_cluster hlt
      have hidx : l.length ≤ p / L.clusterSize :=
        (Nat.le_div_iff_mul_le L.clusterSize_pos).mpr (Nat.le_of_not_lt hold)
      refine .inl ⟨c, hfree c ?_, FatLayout.fileAddr_in hc⟩
      rw [List.getElem?_append_right hidx] at hc
      exact List.mem_of_getElem? hc

/-- A write that goes on from another one. -/
theorem kept_trans (h' : Whole L v' f' l')
    (hkept : Kept L (IsLast l) (Beyond L v l pos) v v')
    (hmore : ∃ t, l' = l ++ t ∧ ∀ c ∈ t, Free L v c) {pos' : ℕ} (hpos : pos ≤ pos')
    (hkept' : Kept L (IsLast l') (Beyond L v' l' pos') v' v'') :
    Kept L (IsLast l) (Beyond L v l pos) v v'' := by
  refine hkept.trans (hkept'.mono (fun _ _ hc => hc) fun x hx => hx.before h' hkept hmore hpos)
    fun c hc => ?_
  obtain ⟨t, rfl, hfree⟩ := hmore
  rcases List.eq_nil_or_concat t with rfl | ⟨s, d, rfl⟩
  · rw [List.append_nil] at hc
    exact .inl hc
  · rw [List.concat_eq_append] at hc hfree
    have hlast : (l ++ (s ++ [d])).getLast? = some c := hc
    rw [← List.append_assoc, List.getLast?_concat] at hlast
    obtain rfl := Option.some.inj hlast
    exact .inr (hfree _ (List.mem_append_right s List.mem_cons_self)).2

theorem Wrote.trans (h : Wrote L o l src o' l') (h' : Wrote L o' l' src' o'' l'') :
    Wrote L o l (src ++ src') o'' l'' where
  kept := kept_trans h.whole h.kept h.more (by rw [h.curPosition]; omega) h'.kept
  entry := h.entry.trans h'.entry
  fileSize := h'.fileSize.trans h.fileSize
  curPosition := by
    rw [h'.curPosition, h.curPosition, List.length_append]
    omega
  more := by
    obtain ⟨t, ht, hfree⟩ := h.more
    obtain ⟨t', ht', hfree'⟩ := h'.more
    refine ⟨t ++ t', by rw [ht', ht, List.append_assoc], fun c hc => ?_⟩
    rcases List.mem_append.mp hc with hc | hc
    · exact hfree c hc
    · exact free_before h.whole h.kept (fun _ => mem_of_isLast h.more) (hfree' c hc)
  whole := h'.whole
  cursor := h'.cursor
  dirty hd := by
    by_cases heq : o''.file.firstCluster = o'.file.firstCluster
    · exact h'.dirty (.inl (h.dirty (hd.imp_right fun hne => heq ▸ hne)))
    · exact h'.dirty (.inr heq)
  bytes p hp := by
    have hpos := h.curPosition
    have hpos' := h'.curPosition
    have hsize := h.fileSize
    rw [h'.bytes p (by omega), hpos, ← Memory.write_write]
    refine Memory.write_congr fun hout => h.bytes p ?_
    omega

/-! ## Writing -/

/-- One turn of the loop. -/
theorem writeSome_meets (hv : o.vol.Coherent L) (hstart : 1 ≤ o.vol.allocSearchStart)
    (h : Whole L o.vol o.file l) (hc : Cursor L o.file l)
    (hpre : o.file.flagPreallocate = false) (hsrc : src ≠ [])
    (hsmall : o.file.curPosition + src.length < 2 ^ 32) :
    (writeSome L src).Meets
      (fun n o' => 0 < n ∧ n ≤ src.length ∧ ∃ l', Wrote L o l (src.take n) o' l')
      (fun o' => Kept L (IsLast l) (Beyond L o.vol l o.file.curPosition) o.vol o'.vol ∧
        (o.vol.cache.Working → Full L o'.vol)) o := by
  unfold writeSome
  rw [meets_bind]
  refine (nextToWrite_meets hv hstart h hc).mono (fun _ o₁ hgrown => ?_)
    fun o₁ hfail => ⟨hfail.1.of_nobody, hfail.2⟩
  obtain ⟨l', hgrown, hhere⟩ := hgrown
  have hpos := hgrown.curPosition
  have hsize := hgrown.fileSize
  have hkept₁ : Kept L (IsLast l) (Beyond L o.vol l o.file.curPosition) o.vol o₁.vol :=
    hgrown.kept.mono (fun _ _ hc => hc) fun _ hb => hb.elim
  have hbeyond : ∀ x, Rest L l' o₁.file.curPosition x →
      ¬ L.InTable x ∧ Beyond L o.vol l o.file.curPosition x := fun x hx =>
    ⟨hx.not_table hhere, Beyond.before hgrown.whole hgrown.kept hgrown.more
      (Nat.le_of_eq hpos.symm) (hx.beyond hhere)⟩
  rw [meets_bind, meets_state, meets_bind]
  refine (writeTo_meets hkept₁.coherent hgrown.whole.toOnChain hhere
    (hgrown.entry.flagPreallocate hpre) hsrc).mono (fun n o₂ hto => ?_) fun o₂ hfail => ?_
  swap
  · refine ⟨hkept₁.after (hfail.1.kept fun x hx => hbeyond x (hx.resolve_left fun hin =>
      absurd hin.2 (Nat.not_lt.mpr hin.1))), fun hw => absurd (hkept₁.working hw) hfail.2⟩
  obtain ⟨hfile, hn, hle, hin, hwritten⟩ := hto
  have htake : (src.take n).length = n := by
    rw [List.length_take]
    omega
  obtain ⟨hcursor, hpos₂⟩ := Cursor.advance hhere hn hin (by omega)
  have hkept₂ : Kept L (IsLast l) (Beyond L o.vol l o.file.curPosition) o₁.vol o₂.vol := by
    refine hwritten.kept fun x hx => hbeyond x (hx.elim (fun hx => ?_) fun hx => hx.2)
    rw [htake] at hx
    exact ⟨hx.1, by omega⟩
  have hmoved : Moved o₁.file (o₂.file.advance n) := hfile ▸ moved_advance _ n
  -- the table is as it was: the write is outside it
  have hsame : ∀ c ∈ l', o₂.vol.next L c = o₁.vol.next L c := by
    intro c hc
    have hrange := hgrown.whole.range c hc
    have htable : Kept L nobody (Rest L l' o₁.file.curPosition) o₁.vol o₂.vol := by
      refine hwritten.kept fun x hx => ?_
      have hrest : Rest L l' o₁.file.curPosition x := hx.elim (fun hx => by
        rw [htake] at hx
        exact ⟨hx.1, by omega⟩) fun hx => hx.2
      exact ⟨hrest.not_table hhere, hrest⟩
    exact congrArg L.link (htable.table hrange id (hgrown.whole.used hc))
  rw [← hfile] at hcursor hpos₂
  have hnow : (o₂.file.advance n).curPosition = o.file.curPosition + n := by
    rw [hpos₂, hfile, hpos]
  have hhere' : l'[o.file.curPosition / L.clusterSize]? = some o₁.file.curCluster := by
    rw [← hpos]
    exact hhere
  obtain ⟨t, ht, hfree⟩ := hgrown.more
  have hlen : l.length * L.clusterSize ≤ l'.length * L.clusterSize := by
    rw [ht, List.length_append]
    exact Nat.mul_le_mul_right _ (Nat.le_add_right _ _)
  have hroom := h.room
  have hback := hc.le_length
  have hfront := hcursor.le_length
  refine ⟨hn, hle, l', ?_⟩
  exact {
    kept := hkept₁.after hkept₂
    entry := hgrown.entry.trans hmoved.toSameEntry
    fileSize := hmoved.fileSize.trans hsize
    curPosition := by
      rw [htake]
      exact hnow
    more := ⟨t, ht, hfree⟩
    whole :=
      { hgrown.whole.toOnChain.congr hmoved hsame with
        ends := hgrown.whole.ends.congr hsame }
    cursor := hcursor
    dirty := fun hd => hmoved.flagDirDirty.trans
      (hgrown.dirty (hd.imp_right fun hne => hmoved.firstCluster ▸ hne))
    bytes := fun p hp => by
      have hp' : p < max o.file.fileSize (o.file.curPosition + n) := by
        rw [← hnow]
        exact hp
      have hfront' : o.file.curPosition + n ≤ l'.length * L.clusterSize := by rwa [← hnow]
      have hplt : p < l'.length * L.clusterSize := by omega
      have hout : p < o.file.curPosition ∨ o.file.curPosition + n ≤ p →
          ¬ (L.fileAddr l' o.file.curPosition ≤ L.fileAddr l' p ∧
            L.fileAddr l' p < L.fileAddr l' o.file.curPosition + n) := by
        intro hout hx
        rw [hpos] at hin
        have hx' := FatLayout.fileAddr_outside hgrown.whole.ends.nodup hgrown.whole.range
          hhere' hin hplt hx.1 hx.2
        omega
      have hmem : byteAt L l' o₂.vol p = Memory.write (o₁.vol.mem L)
          (L.fileAddr l' o₁.file.curPosition) (src.take n) (L.fileAddr l' p) := by
        refine hwritten.mem _ ?_
        by_cases hrange : o.file.curPosition ≤ p ∧ p < o.file.curPosition + n
        · obtain ⟨i, rfl⟩ := Nat.exists_eq_add_of_le hrange.1
          left
          rw [htake, hpos, FatLayout.fileAddr_add (by rw [← hpos]; omega)]
          omega
        · right
          rintro ⟨hend, hrest⟩
          have hlt := Nat.mod_lt o₁.file.curPosition L.clusterSize_pos
          have hx' := FatLayout.fileAddr_outside hgrown.whole.ends.nodup hgrown.whole.range
            hhere (show _ + (L.clusterSize - o₁.file.curPosition % L.clusterSize) ≤ _ by omega)
            hplt hrest.1 hrest.2
          omega
      rw [hmem, hpos, Memory.write_through (fun i hi => ?_) fun hx => ?_]
      · refine Memory.write_congr fun hx => ?_
        rw [htake] at hx
        have hold : p < l.length * L.clusterSize := by omega
        obtain ⟨c, hc, -⟩ := FatLayout.exists_cluster hold
        unfold byteAt
        rw [ht, FatLayout.fileAddr_append hold]
        exact hgrown.kept.outside (FatLayout.fileAddr_in hc).not_table id
      · rw [htake] at hi
        exact FatLayout.fileAddr_add (by rw [← hpos]; omega)
      · rw [htake] at hx ⊢
        have hno := hout hx
        omega }

theorem writeLoop_meets (hv : o.vol.Coherent L) (hstart : 1 ≤ o.vol.allocSearchStart)
    (h : Whole L o.vol o.file l) (hc : Cursor L o.file l)
    (hpre : o.file.flagPreallocate = false) {fuel : ℕ} (hfuel : src.length ≤ fuel)
    (hsmall : o.file.curPosition + src.length < 2 ^ 32) :
    (writeLoop L fuel src).Meets
      (fun _ o' => ∃ l', Wrote L o l src o' l')
      (fun o' => Kept L (IsLast l) (Beyond L o.vol l o.file.curPosition) o.vol o'.vol ∧
        (o.vol.cache.Working → Full L o'.vol)) o := by
  induction fuel generalizing o l src with
  | zero =>
    obtain rfl : src = [] := List.eq_nil_of_length_eq_zero (Nat.le_zero.mp hfuel)
    exact ⟨l, .refl hv h hc⟩
  | succ fuel ih =>
    unfold writeLoop
    by_cases hnil : src = []
    · subst hnil
      rw [if_pos rfl]
      exact ⟨l, .refl hv h hc⟩
    rw [if_neg hnil, meets_bind]
    refine (writeSome_meets hv hstart h hc hpre hnil hsmall).mono (fun n o₁ hturn => ?_)
      fun _ hfail => hfail
    obtain ⟨hn, hle, l₁, hwrote⟩ := hturn
    have hpos := hwrote.curPosition
    have hrest : (src.drop n).length = src.length - n := List.length_drop
    rw [List.length_take] at hpos
    refine (ih hwrote.kept.coherent (hwrote.kept.start hstart) hwrote.whole hwrote.cursor
      (hwrote.entry.flagPreallocate hpre) (by omega) (by omega)).mono (fun _ o₂ hloop => ?_)
      fun o₂ hfail => ⟨kept_trans hwrote.whole hwrote.kept hwrote.more (by omega) hfail.1,
        fun hw => hfail.2 (hwrote.kept.working hw)⟩
    obtain ⟨l₂, hwrote₂⟩ := hloop
    have htrans := hwrote.trans hwrote₂
    rw [List.take_append_drop] at htrans
    exact ⟨l₂, htrans⟩

/-- Where a write begins. -/
def writeAt (f : FatFile) : ℕ := if f.flagAppend then f.fileSize else f.curPosition

/-- A file that is appended to goes to its end first. -/
theorem toEnd_meets (hv : o.vol.Coherent L) (h : OnChain L o.vol o.file l)
    (hc : Cursor L o.file l) (hin : o.file.curPosition ≤ o.file.fileSize) :
    (given o.file.flagAppend (seekSet L o.file.fileSize)).Meets
      (fun _ o' => Same L o.vol o'.vol ∧ Moved o.file o'.file ∧ Cursor L o'.file l ∧
        o'.file.curPosition = writeAt o.file)
      (fun o' => Same L o.vol o'.vol ∧ ¬ o.vol.cache.Working) o := by
  rw [meets_given]
  refine ⟨fun happ => ?_, fun happ => ?_⟩
  · refine (seekSet_meets hv h hc hin _).mono (fun _ o' hseek => ?_)
      fun o' hfail => ⟨hfail.1, hfail.2.2 (Nat.le_refl _)⟩
    obtain ⟨hsame, hmoved, hcursor, -, hpos⟩ := hseek
    exact ⟨hsame, hmoved, hcursor, hpos.trans (if_pos happ).symm⟩
  · exact ⟨hv.same, .refl _, hc, (if_neg (happ ▸ Bool.false_ne_true)).symm⟩

/-- `src` is in the file, from where the write began. -/
structure Stored (L : FatLayout) (o : OpenFile) (l : List ℕ) (src : List UInt8) (o' : OpenFile)
    (l' : List ℕ) : Prop where
  kept : Kept L (IsLast l) (Beyond L o.vol l (writeAt o.file)) o.vol o'.vol
  entry : SameEntry o.file o'.file
  fileSize : o'.file.fileSize = max o.file.fileSize (writeAt o.file + src.length)
  curPosition : o'.file.curPosition = writeAt o.file + src.length
  more : ∃ t, l' = l ++ t ∧ ∀ c ∈ t, Free L o.vol c
  whole : Whole L o'.vol o'.file l'
  cursor : Cursor L o'.file l'
  dirty : o.file.flagDirDirty = true ∨ o'.file.firstCluster ≠ o.file.firstCluster ∨
    o'.file.fileSize ≠ o.file.fileSize → o'.file.flagDirDirty = true
  bytes : Memory.read (byteAt L l' o'.vol) 0 o'.file.fileSize =
    (Memory.read (byteAt L l o.vol) 0 o.file.fileSize).take (writeAt o.file) ++ src ++
      (Memory.read (byteAt L l o.vol) 0 o.file.fileSize).drop (writeAt o.file + src.length)

/-- `m_fileSize` has caught up with the position. -/
structure Sized (f f' : FatFile) : Prop extends SameEntry f f' where
  curPosition : f'.curPosition = f.curPosition
  curCluster : f'.curCluster = f.curCluster
  firstCluster : f'.firstCluster = f.firstCluster
  flagContiguous : f'.flagContiguous = f.flagContiguous
  fileSize : f'.fileSize = max f.fileSize f.curPosition
  dirty : f.flagDirDirty = true ∨ f'.fileSize ≠ f.fileSize → f'.flagDirDirty = true

theorem sized (f : FatFile) : Sized f
    (if f.fileSize < f.curPosition then { f with fileSize := f.curPosition, flagDirDirty := true }
      else f) := by
  by_cases hgrown : f.fileSize < f.curPosition
  · rw [if_pos hgrown]
    exact ⟨⟨rfl, rfl, rfl, rfl, rfl, rfl, id⟩, rfl, rfl, rfl, rfl,
      (Nat.max_eq_right (Nat.le_of_lt hgrown)).symm, fun _ => rfl⟩
  · rw [if_neg hgrown]
    exact ⟨.refl f, rfl, rfl, rfl, rfl, (Nat.max_eq_left (Nat.le_of_not_lt hgrown)).symm,
      fun hd => hd.resolve_right fun hne => hne rfl⟩

theorem Cursor.sized (hc : Cursor L f l) (hs : Sized f f') : Cursor L f' l where
  start hzero := hs.curCluster.trans (hc.start (hs.curPosition.symm.trans hzero))
  here hpos := by
    rw [hs.curPosition, hs.curCluster]
    exact hc.here (hs.curPosition ▸ hpos)

theorem Whole.sized (h : Whole L v f l) (hs : Sized f f')
    (hroom : f'.fileSize ≤ l.length * L.clusterSize) (hsmall : f'.fileSize < 2 ^ 32) :
    Whole L v f' l where
  file := hs.isFile.trans h.file
  rootFixed := hs.isRootFixed.trans h.rootFixed
  root32 := hs.isRoot32.trans h.root32
  chain := h.chain
  range := h.range
  first := hs.firstCluster.trans h.first
  contiguous hf i c hc := by
    rw [hs.firstCluster]
    exact h.contiguous (hs.flagContiguous.symm.trans hf) i c hc
  room := hroom
  small := hsmall
  ends := h.ends

/-- A write that has come to its end. -/
theorem Wrote.stored {f₁ : FatFile} (hs₁ : Same L o.vol v) (hm₁ : Moved o.file f₁)
    (hat : f₁.curPosition = writeAt o.file) (hin : writeAt o.file ≤ o.file.fileSize)
    (hsmall : writeAt o.file + src.length < 2 ^ 32)
    (hw : Wrote L ⟨v, f₁⟩ l src o' l') (hs : Sized o'.file f') :
    Stored L o l src ⟨o'.vol, f'⟩ l' := by
  have hsize₁ : f₁.fileSize = o.file.fileSize := hm₁.fileSize
  have hsize : o'.file.fileSize = f₁.fileSize := hw.fileSize
  have hpos : o'.file.curPosition = f₁.curPosition + src.length := hw.curPosition
  have hsize' : f'.fileSize = max o.file.fileSize (writeAt o.file + src.length) := by
    rw [hs.fileSize, hsize, hsize₁, hpos, hat]
  have hold := hw.whole.small
  have hroom := hw.whole.room
  have hfront := hw.cursor.le_length
  exact {
    kept := by
      refine hs₁.kept.after (hw.kept.mono (fun _ _ hc => hc) fun x hx => ?_)
      rw [← hat]
      exact hx.of_same hs₁
    entry := hm₁.toSameEntry.trans (hw.entry.trans hs.toSameEntry)
    fileSize := hsize'
    curPosition := by
      rw [← hat, ← hpos]
      exact hs.curPosition
    more := by
      obtain ⟨t, ht, hnew⟩ := hw.more
      exact ⟨t, ht, fun c hc => free_of_same hs₁ (hnew c hc)⟩
    whole := hw.whole.sized hs (by rw [hs.fileSize]; omega)
      (show f'.fileSize < 2 ^ 32 by omega)
    cursor := hw.cursor.sized hs
    dirty := by
      have hdirty := hw.dirty
      rw [show (⟨v, f₁⟩ : OpenFile).file = f₁ from rfl, hm₁.flagDirDirty, hm₁.firstCluster]
        at hdirty
      rintro (hd | hd | hd)
      · exact hs.dirty (.inl (hdirty (.inl hd)))
      · exact hs.dirty (.inl (hdirty (.inr (hs.firstCluster ▸ hd))))
      · refine hs.dirty (.inr ?_)
        rw [hsize, hsize₁]
        exact hd
    bytes := by
      rw [← Memory.read_splice _ hin src, ← hsize']
      refine Memory.read_congr fun i hi => ?_
      rw [Nat.zero_add]
      have hi' : i < max f₁.fileSize o'.file.curPosition := by
        rw [hsize₁, hpos, hat, ← hsize']
        exact hi
      rw [hw.bytes i hi']
      show Memory.write (byteAt L l v) f₁.curPosition src i = _
      rw [hat]
      unfold byteAt
      rw [hs₁.mem] }

/-- Writing puts `src` where the file is, or at its end. When it fails, what it has
changed is behind that, or was free. -/
theorem write_meets (hv : o.vol.Coherent L) (hstart : 1 ≤ o.vol.allocSearchStart)
    (h : Whole L o.vol o.file l) (hc : Cursor L o.file l)
    (hpre : o.file.flagPreallocate = false) (hin : o.file.curPosition ≤ o.file.fileSize)
    (src : List UInt8) :
    (write L src).Meets
      (fun _ o' => ∃ l', Stored L o l src o' l')
      (fun o' => Kept L (IsLast l) (Beyond L o.vol l (writeAt o.file)) o.vol o'.vol ∧
        (o.vol.cache.Working → o.file.flagWrite = true →
          writeAt o.file + src.length < 2 ^ 32 → Full L o'.vol)) o := by
  have hsmall := h.small
  have hat : writeAt o.file ≤ o.file.fileSize := by
    unfold writeAt
    split
    · exact Nat.le_refl _
    · exact hin
  unfold write
  rw [meets_onFail, meets_bind, meets_state, meets_bind, meets_require]
  refine ⟨fun _ => ?_, fun hno => ⟨hv.same.kept, fun _ hyes => absurd (hyes.symm.trans hno).symm
    Bool.false_ne_true⟩⟩
  rw [meets_bind]
  refine (toEnd_meets hv h.toOnChain hc hin).mono (fun _ o₁ hend => ?_)
    fun o₁ hfail => ⟨hfail.1.kept, fun hw => absurd hw hfail.2⟩
  obtain ⟨hsame, hmoved, hcursor, hpos⟩ := hend
  rw [meets_bind, meets_state, meets_bind, meets_require]
  refine ⟨fun hfits => ?_, fun hno => ⟨hsame.kept, fun _ _ hlt => ?_⟩⟩
  swap
  · have hgt := of_decide_eq_false hno
    omega
  have hfits' := of_decide_eq_true hfits
  rw [meets_bind]
  refine (writeLoop_meets hsame.coherent (hsame.alloc.symm ▸ hstart) (h.same hmoved hsame) hcursor
    (hmoved.flagPreallocate hpre) (Nat.le_refl _) (by omega)).mono (fun _ o₂ hloop => ?_)
    fun o₂ hfail => ⟨?_, fun hw _ _ => hfail.2 (hsame.working hw)⟩
  · obtain ⟨l', hwrote⟩ := hloop
    exact ⟨l', hwrote.stored hsame hmoved hpos hat (by omega) (sized o₂.file)⟩
  · refine hsame.kept.after (hfail.1.mono (fun _ _ hc => hc) fun x hx => ?_)
    rw [hpos] at hx
    exact hx.of_same hsame

end OpenFile

end Heimdall
