import Heimdall.Storage.PowerCut

/-!
# The directory entry

What a file is known by while it is open goes to its directory entry when it is synced,
and comes from there when it is opened. `synced_reopens`: after a `sync` that succeeds the
power may go, and a mount that opens the entry reads what the file held.

A file whose entry is up to date is not written again (`m_flags` says so), so it has to
be known that it is: `Recorded` is what a `sync` leaves and every change to the file's
size or first cluster takes away.
-/

namespace Heimdall

namespace OpenFile

open Fallible FatPartition

variable {L : FatLayout} {v v' : FatPartition} {f : FatFile} {o o' : OpenFile} {l : List ℕ}
  {b : ByteFile} {d : FsBlockDevice} {field x : ℕ} {xs : List UInt8}

/-- Where the entry is. -/
def dirAddr (f : FatFile) : ℕ := f.dirSector * 512 + f.dirOffset

/-- A byte of the entry. -/
def InDir (f : FatFile) (x : ℕ) : Prop := dirAddr f ≤ x ∧ x < dirAddr f + 32

theorem dirOffset_le (f : FatFile) : f.dirOffset + 32 ≤ 512 := by
  have hle : f.dirIndex &&& 0xF ≤ 0xF := Nat.and_le_right
  unfold FatFile.dirOffset
  omega

/-- The entry is in a directory, and has not been deleted. -/
structure Listed (L : FatLayout) (v : FatPartition) (f : FatFile) (l : List ℕ) : Prop where
  usable : L.area.Usable f.dirSector
  table : ∀ x, InDir f x → ¬ L.InTable x
  apart : ∀ x, InDir f x → ∀ c, c ∈ l ∨ Free L v c → ¬ L.InCluster c x
  live : v.mem L (dirAddr f) ≠ 0xE5

/-- The entry says what the file is. -/
structure Recorded (L : FatLayout) (v : FatPartition) (f : FatFile) : Prop where
  live : v.mem L (dirAddr f) ≠ 0xE5
  attributes : v.mem L (dirAddr f + 11) = f.attributes &&& attribCopy
  fileSize : LittleEndian.decode (Memory.read (v.mem L) (dirAddr f + 28) 4) = f.fileSize
  low : LittleEndian.decode (Memory.read (v.mem L) (dirAddr f + 26) 2) = f.firstCluster &&& 0xFFFF
  high : LittleEndian.decode (Memory.read (v.mem L) (dirAddr f + 20) 2) = f.firstCluster >>> 16

/-- While its sector is held, the entry is what is in view. -/
theorem dirEntry_eq (hs : L.area.Usable f.dirSector) (hheld : o.vol.cache.sector = f.dirSector)
    (hindex : o.file.dirIndex = f.dirIndex) :
    o.dirEntry = Memory.read (o.vol.mem L) (dirAddr f) 32 := by
  have hoffset : o.file.dirOffset = f.dirOffset := congrArg (fun i => 32 * (i &&& 0xF)) hindex
  unfold dirEntry dirAddr
  rw [← hheld, ← hoffset]
  exact buffer_eq (hheld ▸ hs) (dirOffset_le o.file)

/-! ## Writing the entry -/

/-- The entry's sector is held, and is to be written back. -/
structure Editing (L : FatLayout) (o : OpenFile) : Prop where
  coherent : o.vol.Coherent L
  dirty : o.vol.cache.statusDirty = true
  held : o.vol.cache.sector = o.file.dirSector
  usable : L.area.Usable o.file.dirSector

theorem setDir_meets (h : Editing L o) (hfield : field + xs.length ≤ 32) {E : OpenFile → Prop} :
    (setDir field xs).Meets
      (fun _ o' => Editing L o' ∧ o'.file = o.file ∧
        Written L (dirAddr o.file + field) xs (fun _ => False) o.vol o'.vol) E o := by
  have hoffset := dirOffset_le o.file
  unfold setDir onVolume
  rw [meets_bind, meets_state, meets_within]
  refine (store_meets h.coherent h.dirty (h.held ▸ h.usable)
    (show o.file.dirOffset + field + xs.length ≤ 512 by omega)).mono (fun _ v₁ hstored => ?_)
    fun _ hno => hno
  obtain ⟨hw, hsector, hdirty⟩ := hstored
  rw [h.held, ← Nat.add_assoc] at hw
  exact ⟨⟨hw.coherent, hdirty, hsector.trans h.held, h.usable⟩, rfl, hw⟩

/-- What has been written of the entry. -/
theorem kept_inDir {own : ℕ → Prop} (h : Written L (dirAddr f + field) xs (fun _ => False) v v')
    (htable : ∀ x, InDir f x → ¬ L.InTable x) (hfield : field + xs.length ≤ 32) :
    Kept L own (InDir f) v v' :=
  h.kept fun x hx => by
    have hin : InDir f x := hx.elim (fun ⟨hlo, hhi⟩ => ⟨by omega, by omega⟩) False.elim
    exact ⟨htable x hin, hin⟩

theorem mem_written {a : ℕ} (h : Written L a xs (fun _ => False) v v') :
    v'.mem L = Memory.write (v.mem L) a xs := funext fun x => h.mem x (.inr not_false)

/-- What the four fields are once they have been written. -/
theorem recorded_of_mem {m : ℕ → UInt8} (hsize : f.fileSize < 2 ^ 32)
    (hfirst : f.firstCluster < 2 ^ 32) (hlive : m (dirAddr f) ≠ 0xE5)
    (hmem : v.mem L = Memory.write (Memory.write (Memory.write
      (Memory.write m (dirAddr f + 11) [f.attributes &&& attribCopy])
      (dirAddr f + 28) (LittleEndian.encode 4 f.fileSize))
      (dirAddr f + 26) (LittleEndian.encode 2 (f.firstCluster &&& 0xFFFF)))
      (dirAddr f + 20) (LittleEndian.encode 2 (f.firstCluster >>> 16))) : Recorded L v f := by
  have hlen₁ := LittleEndian.length_encode 2 (f.firstCluster &&& 0xFFFF)
  have hlen₂ := LittleEndian.length_encode 2 (f.firstCluster >>> 16)
  have hlow : f.firstCluster &&& 0xFFFF ≤ 0xFFFF := Nat.and_le_right
  have hhigh : f.firstCluster >>> 16 < 2 ^ 16 := by
    rw [Nat.shiftRight_eq_div_pow]
    exact Nat.div_lt_of_lt_mul hfirst
  -- a field is where none of the others is
  have hread : ∀ (m : ℕ → UInt8) (a n x : ℕ), x < 256 ^ n →
      LittleEndian.decode (Memory.read (Memory.write m a (LittleEndian.encode n x)) a n) = x := by
    intro m a n x hx
    have hself := Memory.read_write m a (LittleEndian.encode n x)
    rw [LittleEndian.length_encode] at hself
    rw [hself]
    exact LittleEndian.decode_encode hx
  refine ⟨?_, ?_, ?_, ?_, ?_⟩
  · rw [hmem, Memory.write_outside _ (.inl (by omega)), Memory.write_outside _ (.inl (by omega)),
      Memory.write_outside _ (.inl (by omega)), Memory.write_outside _ (.inl (by omega))]
    exact hlive
  · rw [hmem, Memory.write_outside _ (.inl (by omega)), Memory.write_outside _ (.inl (by omega)),
      Memory.write_outside _ (.inl (by omega))]
    exact Memory.write_self _ _ _
  · rw [hmem, Memory.read_write_outside _ (.inr (by omega)),
      Memory.read_write_outside _ (.inr (by omega))]
    exact hread _ _ 4 _ hsize
  · rw [hmem, Memory.read_write_outside _ (.inr (by omega))]
    exact hread _ _ 2 _ (by omega)
  · rw [hmem]
    exact hread _ _ 2 _ hhigh

theorem writeDirEntry_meets (hv : o.vol.Coherent L) (hfile : o.file.isFile = true)
    (hsize : o.file.fileSize < 2 ^ 32) (hfirst : o.file.firstCluster < 2 ^ 32)
    (hlisted : Listed L o.vol o.file l) :
    writeDirEntry.Meets
      (fun _ o' => Kept L nobody (InDir o.file) o.vol o'.vol ∧
        o'.file = { o.file with flagDirDirty := false } ∧ Recorded L o'.vol o.file)
      (fun o' => Failed L o.vol o'.vol) o := by
  unfold writeDirEntry cacheDirEntry
  rw [meets_bind, meets_bind, meets_state]
  unfold onVolume
  rw [meets_within]
  refine (dataCachePrepare_meets hv hlisted.usable rfl fun h => absurd h Bool.false_ne_true).mono
    (fun _ v₁ hheld => ?_) fun _ h => h
  have hsame := hheld.same rfl
  have hedit : Editing L { o with vol := v₁ } :=
    ⟨hheld.coherent, hheld.dirty rfl, hheld.sector, hlisted.usable⟩
  have hentry := dirEntry_eq (L := L) (o := { o with vol := v₁ }) hlisted.usable hheld.sector rfl
  rw [meets_bind, meets_state, meets_bind, meets_require]
  have hlive : v₁.mem L (dirAddr o.file) ≠ 0xE5 := by
    rw [hsame.mem]
    exact hlisted.live
  have hhead : ({ o with vol := v₁ } : OpenFile).dirEntry.head? =
      some (v₁.mem L (dirAddr o.file)) := by
    rw [hentry, List.head?_eq_getElem?, Memory.getElem?_read _ _ (by decide), Nat.add_zero]
  refine ⟨fun _ => ?_, fun hno => ?_⟩
  swap
  · have hdeleted := bne_eq_false_iff_eq.mp hno
    exact absurd (Option.some.inj (hhead.symm.trans hdeleted)) hlive
  have hlen := LittleEndian.length_encode
  rw [meets_bind]
  refine (setDir_meets hedit (show 11 + 1 ≤ 32 by decide)).mono (fun _ o₁ h₁ => ?_) fun _ h => h
  obtain ⟨hedit₁, hfile₁, hw₁⟩ := h₁
  rw [meets_bind, meets_given]
  refine ⟨fun _ => ?_, fun hno => absurd (hfile.symm.trans hno).symm Bool.false_ne_true⟩
  refine (setDir_meets hedit₁ (by rw [hlen])).mono (fun _ o₂ h₂ => ?_) fun _ h => h
  obtain ⟨hedit₂, hfile₂, hw₂⟩ := h₂
  rw [meets_bind]
  refine (setDir_meets hedit₂ (by rw [hlen]; decide)).mono (fun _ o₃ h₃ => ?_) fun _ h => h
  obtain ⟨hedit₃, hfile₃, hw₃⟩ := h₃
  rw [meets_bind]
  refine (setDir_meets hedit₃ (by rw [hlen]; decide)).mono (fun _ o₄ h₄ => ?_) fun _ h => h
  obtain ⟨-, hfile₄, hw₄⟩ := h₄
  rw [hfile₃, hfile₂, hfile₁] at hw₄
  rw [hfile₂, hfile₁] at hw₃
  rw [hfile₁] at hw₂
  have hkept₁ : Kept L nobody (InDir o.file) v₁ o₁.vol :=
    kept_inDir hw₁ hlisted.table (show 11 + 1 ≤ 32 by decide)
  have hkept := ((hkept₁.after (kept_inDir hw₂ hlisted.table (by rw [hlen]))).after
    (kept_inDir hw₃ hlisted.table (by rw [hlen]; decide))).after
    (kept_inDir hw₄ hlisted.table (by rw [hlen]; decide))
  refine ⟨hsame.kept.after hkept, ?_, recorded_of_mem hsize hfirst hlive ?_⟩
  · show { o₄.file with flagDirDirty := false } = _
    rw [hfile₄, hfile₃, hfile₂, hfile₁]
  · show o₄.vol.mem L = _
    rw [mem_written hw₄, mem_written hw₃, mem_written hw₂, mem_written hw₁]

/-! ## Syncing -/

theorem Recorded.congr (h : Recorded L v f) (hmem : v'.mem L = v.mem L) : Recorded L v' f where
  live := hmem ▸ h.live
  attributes := hmem ▸ h.attributes
  fileSize := hmem ▸ h.fileSize
  low := hmem ▸ h.low
  high := hmem ▸ h.high

theorem dirAddr_eq {f' : FatFile} (h : SameEntry f f') : dirAddr f' = dirAddr f := by
  unfold dirAddr FatFile.dirOffset
  rw [h.dirSector, h.dirIndex]

/-- A call to the file leaves its entry alone. -/
theorem Listed.mem {pos : ℕ} (h : Listed L v f l) (hown : Own L l pos v v')
    (hx : InDir f x) : v'.mem L x = v.mem L x := by
  refine hown.outside (h.table x hx) ?_
  rintro (⟨c, hfree, hin⟩ | ⟨p, -, hlt, rfl⟩)
  · exact h.apart x hx c (.inr hfree) hin
  · obtain ⟨c, hc, hmem⟩ := FatLayout.exists_cluster hlt
    exact h.apart _ hx c (.inl hmem) (FatLayout.fileAddr_in hc)

theorem Listed.after {f' : FatFile} {l' : List ℕ} {pos : ℕ} (h : Listed L v f l)
    (hown : Own L l pos v v') (hnoted : SameEntry f f') (hwhole : Whole L v' f' l')
    (hmore : ∃ t, l' = l ++ t ∧ ∀ c ∈ t, Free L v c) : Listed L v' f' l' := by
  have haddr := dirAddr_eq hnoted
  have hin : ∀ x, InDir f' x → InDir f x := by
    intro x hx
    unfold InDir at hx ⊢
    rwa [haddr] at hx
  refine ⟨hnoted.dirSector ▸ h.usable, fun x hx => h.table x (hin x hx), fun x hx c hc => ?_, ?_⟩
  · refine h.apart x (hin x hx) c ?_
    rcases hc with hold | hfree
    · obtain ⟨t, rfl, hnew⟩ := hmore
      exact (List.mem_append.mp hold).imp_right (hnew c)
    · exact .inr (free_before hwhole hown (fun _ => mem_of_isLast hmore) hfree)
  · rw [haddr, h.mem hown ⟨Nat.le_refl _, by omega⟩]
    exact h.live

theorem Recorded.after {f' : FatFile} {pos : ℕ} (hrec : Recorded L v f) (h : Listed L v f l)
    (hown : Own L l pos v v') (hnoted : SameEntry f f') (hfirst : f'.firstCluster = f.firstCluster)
    (hsize : f'.fileSize = f.fileSize) : Recorded L v' f' := by
  have haddr := dirAddr_eq hnoted
  have hread : ∀ k w, k + w ≤ 32 → Memory.read (v'.mem L) (dirAddr f + k) w =
      Memory.read (v.mem L) (dirAddr f + k) w := fun k w hk =>
    Memory.read_congr fun i hi => h.mem hown ⟨by omega, by omega⟩
  refine ⟨?_, ?_, ?_, ?_, ?_⟩
  · rw [haddr, h.mem hown ⟨Nat.le_refl _, by omega⟩]
    exact hrec.live
  · rw [haddr, hnoted.attributes, h.mem hown ⟨by omega, by omega⟩]
    exact hrec.attributes
  · rw [haddr, hsize, hread 28 4 (by decide)]
    exact hrec.fileSize
  · rw [haddr, hfirst, hread 26 2 (by decide)]
    exact hrec.low
  · rw [haddr, hfirst, hread 20 2 (by decide)]
    exact hrec.high

/-- The first cluster is one of the volume, or none. -/
theorem OnChain.firstCluster_lt (h : OnChain L v f l) : f.firstCluster < 2 ^ 32 := by
  have hlast := lastCluster_lt L
  rw [h.first]
  cases l with
  | nil =>
    show 0 < 2 ^ 32
    omega
  | cons c l =>
    have hrange := (h.range c List.mem_cons_self).2
    show c < 2 ^ 32
    omega

/-- A `sync` that succeeds leaves the entry up to date, and all on the card. -/
theorem sync_meets (hv : o.vol.Coherent L) (h : OnChain L o.vol o.file l)
    (hlisted : Listed L o.vol o.file l)
    (hrec : o.file.flagDirDirty = false → Recorded L o.vol o.file) :
    sync.Meets
      (fun _ o' => Kept L nobody (InDir o.file) o.vol o'.vol ∧
        o'.file = { o.file with flagDirDirty := false } ∧ Recorded L o'.vol o.file ∧
        o'.vol.card L = o'.vol.mem L)
      (fun o' => Kept L nobody (InDir o.file) o.vol o'.vol ∧ ¬ o.vol.cache.Working) o := by
  -- the cache, once the entry is up to date
  have hflush : ∀ o₁ : OpenFile, Kept L nobody (InDir o.file) o.vol o₁.vol →
      o₁.file = { o.file with flagDirDirty := false } → Recorded L o₁.vol o.file →
      (onVolume cacheSync).Meets
        (fun _ o' => Kept L nobody (InDir o.file) o.vol o'.vol ∧
          o'.file = { o.file with flagDirDirty := false } ∧ Recorded L o'.vol o.file ∧
          o'.vol.card L = o'.vol.mem L)
        (fun o' => Kept L nobody (InDir o.file) o.vol o'.vol ∧ ¬ o.vol.cache.Working) o₁ := by
    intro o₁ hkept hfile hrec₁
    unfold onVolume
    rw [meets_within]
    refine (cacheSync_meets hkept.coherent).mono (fun _ v₂ hsync => ?_) fun v₂ hfail => ?_
    · obtain ⟨hsame, hcard⟩ := hsync
      exact ⟨hkept.after hsame.kept, hfile, hrec₁.congr hsame.mem, hcard⟩
    · exact ⟨hkept.after hfail.toSame.kept, fun hw => hfail.broken (hkept.working hw)⟩
  unfold sync
  rw [meets_bind, meets_state, meets_given]
  refine ⟨fun _ => ?_, fun hclosed => absurd (h.isOpen.symm.trans hclosed).symm
    Bool.false_ne_true⟩
  rw [meets_onFail, meets_bind, meets_given]
  refine ⟨fun _ => ?_, fun hclean => hflush o hv.same.kept ?_ (hrec hclean)⟩
  · refine (writeDirEntry_meets hv h.file h.small h.firstCluster_lt hlisted).mono
      (fun _ o₁ hwrote => hflush o₁ hwrote.1 hwrote.2.1 hwrote.2.2)
      fun o₁ hfail => ⟨hfail.toSame.kept, hfail.broken⟩
  · exact congrArg (fun dirty => { o.file with flagDirDirty := dirty }) hclean

/-! ## Opening -/

/-- Opening to read. -/
def readOnly : OFlag := { accmode := .rdonly, append := false, trunc := false, atEnd := false }

/-- What opening an entry makes of the file that it is of. -/
def opened (f : FatFile) : FatFile :=
  { closedFile f.dirIndex with
    attributes := f.attributes &&& attribCopy ||| 0x08
    flagRead := true
    dirSector := f.dirSector
    fileSize := f.fileSize
    firstCluster := f.firstCluster }

/-- A file that is opened is a file, and no root directory. -/
theorem opened_attributes (f : FatFile) :
    (opened f).isFile = true ∧ (opened f).isRootFixed = false ∧ (opened f).isRoot32 = false := by
  have hbits : ∀ y : BitVec 8, (y &&& 0x37 ||| 0x08) &&& 0x08 ≠ 0 ∧
      (y &&& 0x37 ||| 0x08) &&& 0x40 = 0 ∧ (y &&& 0x37 ||| 0x08) &&& 0x80 = 0 := by decide
  have h := hbits f.attributes.toBitVec
  simpa [FatFile.isFile, FatFile.isRootFixed, FatFile.isRoot32, opened, attribCopy,
    ← UInt8.toBitVec_inj] using h

theorem opened_onChain (h : OnChain L v f l) : OnChain L v (opened f) l where
  file := (opened_attributes f).1
  rootFixed := (opened_attributes f).2.1
  root32 := (opened_attributes f).2.2
  chain := h.chain
  range := h.range
  first := h.first
  contiguous hf := absurd hf Bool.false_ne_true
  room := h.room
  small := h.small

/-- The two halves of a cluster's number. -/
theorem halves (c : ℕ) : c >>> 16 <<< 16 ||| c &&& 0xFFFF = c := by
  have hlow : c &&& 0xFFFF = c % 2 ^ 16 := Nat.and_two_pow_sub_one_eq_mod c 16
  rw [hlow, ← Nat.shiftLeft_add_eq_or_of_lt (Nat.mod_lt c (Nat.two_pow_pos 16)), Nat.shiftLeft_eq,
    Nat.shiftRight_eq_div_pow]
  exact Nat.div_add_mod' c (2 ^ 16)

/-- The bits of the attributes that an entry keeps are those of a file. -/
theorem attributes_read (x : UInt8) (hsub : x &&& 0x10 = 0) :
    x &&& attribCopy &&& 0x08 = 0 ∧ x &&& attribCopy &&& 0x18 = 0 ∧
      x &&& attribCopy &&& attribCopy = x &&& attribCopy := by
  have hbits : ∀ y : BitVec 8, y &&& 0x10 = 0 →
      y &&& 0x37 &&& 0x08 = 0 ∧ y &&& 0x37 &&& 0x18 = 0 := by decide
  have h := hbits x.toBitVec (by simpa [← UInt8.toBitVec_inj] using hsub)
  refine ⟨?_, ?_, ?_⟩
  · simpa [attribCopy, ← UInt8.toBitVec_inj] using h.1
  · simpa [attribCopy, ← UInt8.toBitVec_inj] using h.2
  · rw [UInt8.and_assoc, UInt8.and_self]

theorem openAt_meets (hv : o.vol.Coherent L) (hs : L.area.Usable f.dirSector)
    (hsub : f.attributes &&& 0x10 = 0) (hrec : Recorded L o.vol f) :
    (openAt L f.dirSector f.dirIndex readOnly).Meets
      (fun _ o' => Same L o.vol o'.vol ∧ o'.file = opened f)
      (fun _ => ¬ o.vol.cache.Working) o := by
  unfold openAt onVolume
  rw [meets_bind, meets_within]
  refine (dataCachePrepare_meets hv hs rfl fun h => absurd h Bool.false_ne_true).mono
    (fun _ v₁ hheld => ?_) fun _ h => h.broken
  have hsame := hheld.same rfl
  have hrec₁ := hrec.congr hsame.mem
  -- what is read from the entry
  have hentry : (⟨v₁, closedFile f.dirIndex⟩ : OpenFile).dirEntry =
      Memory.read (v₁.mem L) (dirAddr f) 32 := dirEntry_eq hs hheld.sector rfl
  have hfield : ∀ k w, k + w ≤ 32 → dirField (Memory.read (v₁.mem L) (dirAddr f) 32) k w =
      LittleEndian.decode (Memory.read (v₁.mem L) (dirAddr f + k) w) := by
    intro k w hk
    unfold dirField
    rw [Memory.take_drop_read, Nat.min_eq_left (by omega)]
  have hattr : (Memory.read (v₁.mem L) (dirAddr f) 32).getD 11 0 = f.attributes &&& attribCopy := by
    rw [List.getD_eq_getElem?_getD, Memory.getElem?_read _ _ (by decide)]
    exact hrec₁.attributes
  have hfirst' : dirField (Memory.read (v₁.mem L) (dirAddr f) 32) 20 2 <<< 16 |||
      dirField (Memory.read (v₁.mem L) (dirAddr f) 32) 26 2 = f.firstCluster := by
    rw [hfield 20 2 (by decide), hfield 26 2 (by decide), hrec₁.high, hrec₁.low]
    exact halves f.firstCluster
  have hsize : dirField (Memory.read (v₁.mem L) (dirAddr f) 32) 28 4 = f.fileSize :=
    (hfield 28 4 (by decide)).trans hrec₁.fileSize
  obtain ⟨hvolume, hfile, hcopy⟩ := attributes_read f.attributes hsub
  unfold openCachedEntry
  rw [meets_onFail, meets_bind]
  unfold setFile
  rw [meets_change, meets_bind, meets_state, meets_bind, meets_require]
  show (_ → _) ∧ (_ → _)
  rw [hentry, hattr]
  refine ⟨fun _ => ?_, fun hno => absurd (beq_eq_false_iff_ne.mp hno) (not_not_intro hvolume)⟩
  rw [meets_bind, meets_change, meets_bind, hcopy]
  show Same L o.vol v₁ ∧
    { closedFile f.dirIndex with
      attributes := f.attributes &&& attribCopy |||
        if f.attributes &&& attribCopy &&& 0x18 = 0 then 0x08 else 0
      flagRead := true
      dirSector := v₁.cache.sector
      firstCluster := dirField (Memory.read (v₁.mem L) (dirAddr f) 32) 20 2 <<< 16 |||
        dirField (Memory.read (v₁.mem L) (dirAddr f) 32) 26 2
      fileSize := dirField (Memory.read (v₁.mem L) (dirAddr f) 32) 28 4 } = opened f
  rw [if_pos hfile, hheld.sector, hfirst', hsize]
  exact ⟨hsame, rfl⟩

/-! ## A file and its entry -/

/-- Calls to the file, one after the other. -/
def performAll (L : FatLayout) : List FileCall → Fallible OpenFile Unit
  | [] => pure ()
  | call :: calls => do
    let _ ← perform L call
    performAll L calls

/-- The file is `b`, on `l`, and has an entry that is up to date if `m_flags` says so. -/
structure Filed (L : FatLayout) (o : OpenFile) (l : List ℕ) (b : ByteFile) : Prop where
  coherent : o.vol.Coherent L
  start : 1 ≤ o.vol.allocSearchStart
  follows : Follows L o.vol o.file l b
  listed : Listed L o.vol o.file l
  recorded : o.file.flagDirDirty = false → Recorded L o.vol o.file
  subDir : o.file.attributes &&& 0x10 = 0

/-- A call leaves it so, unless it fails half way. -/
theorem Filed.perform (h : Filed L o l b) (call : FileCall) :
    (perform L call).Meets
      (fun _ o' => SameEntry o.file o'.file ∧ ∃ l', Filed L o' l' (b.effect call))
      (fun _ => True) o := by
  refine (perform_meets h.coherent h.start h.follows call).mono (fun _ o' hdone => ?_)
    fun _ _ => trivial
  obtain ⟨-, hown, hnoted, l', hfollows, hmore⟩ := hdone
  refine ⟨hnoted.toSameEntry, l', hown.coherent, hown.start h.start, hfollows,
    h.listed.after hown hnoted.toSameEntry hfollows.toWhole hmore, fun hclean => ?_,
    hnoted.attributes ▸ h.subDir⟩
  obtain ⟨hclean', hfirst, hsize⟩ := hnoted.clean hclean
  exact (h.recorded hclean').after h.listed hown hnoted.toSameEntry hfirst hsize

theorem Filed.performAll (h : Filed L o l b) (calls : List FileCall) :
    (performAll L calls).Meets
      (fun _ o' => SameEntry o.file o'.file ∧ ∃ l', Filed L o' l' (calls.foldl ByteFile.effect b))
      (fun _ => True) o := by
  induction calls generalizing o l b with
  | nil => exact ⟨.refl _, l, h⟩
  | cons call calls ih =>
    unfold OpenFile.performAll
    rw [meets_bind]
    refine (h.perform call).mono (fun _ o₁ hdone => ?_) fun _ _ => trivial
    obtain ⟨hentry, l₁, h₁⟩ := hdone
    exact (ih h₁).mono (fun _ _ hrest => ⟨hentry.trans hrest.1, hrest.2⟩) fun _ _ => trivial

/-- After a `sync` that succeeds the file can be opened from the card. -/
theorem Filed.sync (h : Filed L o l b) :
    sync.Meets
      (fun _ o' => ∀ d : FsBlockDevice, d.disk = o'.vol.cache.blockDev.disk →
        (∀ n junk, d.onRead n ≠ .garbled junk) → ∀ (f : FatFile) (nbyte : ℕ),
          (openAt L o.file.dirSector o.file.dirIndex readOnly >>= fun _ => read L nbyte).Meets
            (fun r _ => r = b.bytes.take nbyte) (fun _ => ¬ (o'.vol.remount d).cache.Working)
            ⟨o'.vol.remount d, f⟩)
      (fun _ => ¬ o.vol.cache.Working) o := by
  have hchain := h.follows.toOnChain
  refine (sync_meets h.coherent hchain h.listed h.recorded).mono (fun _ o' hsync => ?_)
    fun _ hfail => hfail.2
  obtain ⟨hkept, -, hrec, hcard⟩ := hsync
  intro d hdisk hquiet f nbyte
  have hmem : (o'.vol.remount d).mem L = o'.vol.mem L := (mem_remount hdisk).trans hcard
  have hcoh := remount_coherent hkept.coherent hquiet
  -- the entry has changed, and nothing of the file
  have hfollows : Follows L (o'.vol.remount d) o.file l b := by
    refine h.follows.congr (fun c hc => ?_) fun p hp => ?_
    · have hentry := hkept.table (h.follows.range c hc) id (h.follows.toWhole.used hc)
      exact congrArg L.link ((congrFun (entry_congr hmem) c).trans hentry)
    · obtain ⟨c, hc, hin⟩ := FatLayout.exists_cluster (L := L)
        (Nat.lt_of_lt_of_le hp h.follows.room)
      have hplace := FatLayout.fileAddr_in (L := L) hc
      exact (congrFun hmem _).trans (hkept.outside hplace.not_table fun hx =>
        h.listed.apart _ hx c (.inl hin) hplace)
  rw [meets_bind]
  refine (openAt_meets (o := ⟨o'.vol.remount d, f⟩) hcoh h.listed.usable h.subDir
    (hrec.congr hmem)).mono (fun _ o₁ hopen => ?_) fun _ hbroken => hbroken
  obtain ⟨hsame, hfile⟩ := hopen
  have hopened : OnChain L o₁.vol o₁.file l := by
    rw [hfile]
    exact (opened_onChain hfollows.toOnChain).same (.refl _) hsame
  have hstart : o₁.file.curPosition = 0 := by
    rw [hfile]
    rfl
  have hsize : o₁.file.fileSize = o.file.fileSize := by
    rw [hfile]
    rfl
  have hmode : o₁.file.flagRead = true := by
    rw [hfile]
    rfl
  have hcursor : Cursor L o₁.file l := by
    refine ⟨fun _ => ?_, fun hpos => absurd hstart (Nat.ne_of_gt hpos)⟩
    rw [hfile]
    rfl
  refine (read_meets hsame.coherent hopened hcursor (by omega) nbyte).mono
    (fun r _ hread => ?_) fun _ hfail hw => hfail.2 hmode (hsame.working hw)
  obtain ⟨-, -, -, -, hr⟩ := hread
  rw [hstart, hsize] at hr
  unfold byteAt at hr
  rw [hsame.mem] at hr
  have htake := Memory.take_drop_read (byteAt L l (o'.vol.remount d)) 0 0 nbyte o.file.fileSize
  rw [← hfollows.bytes] at htake
  exact hr.trans htake.symm

/-- **A synced file reopens.** After any calls to a file and a `sync`, all of which
succeed, the power may go: on any device that then has what this one has, opening the
file's entry and reading returns what the calls would have made of an array of bytes,
unless the device fails. -/
theorem synced_reopens (h : Filed L o l b) (calls : List FileCall) :
    (performAll L calls >>= fun _ => sync).Meets
      (fun _ o' => ∀ d : FsBlockDevice, d.disk = o'.vol.cache.blockDev.disk →
        (∀ n junk, d.onRead n ≠ .garbled junk) → ∀ (f : FatFile) (nbyte : ℕ),
          (openAt L o.file.dirSector o.file.dirIndex readOnly >>= fun _ => read L nbyte).Meets
            (fun r _ => r = (calls.foldl ByteFile.effect b).bytes.take nbyte)
            (fun _ => ¬ (o'.vol.remount d).cache.Working) ⟨o'.vol.remount d, f⟩)
      (fun _ => True) o := by
  rw [meets_bind]
  refine (h.performAll calls).mono (fun _ o₁ hdone => ?_) fun _ _ => trivial
  obtain ⟨hentry, l₁, h₁⟩ := hdone
  rw [← hentry.dirSector, ← hentry.dirIndex]
  exact h₁.sync.mono (fun _ _ hsync => hsync) fun _ _ => trivial

/-! A new file, whose entry is the first of a directory of one sector. -/

def newFile : OpenFile :=
  ⟨emptyVolume,
    { OpenFiles.emptyFile with
      dirSector := 3
      flagDirDirty := true }⟩

theorem newFile_filed : Filed dirLayout newFile [] ⟨[], 0, false⟩ where
  coherent :=
    { quiet := fun _ _ h => Answer.noConfusion h
      clean := fun _ h => absurd rfl h
      front := .inl rfl
      offset := rfl
      mirror := fun h => absurd h Bool.false_ne_true }
  start := Nat.le_refl 1
  follows :=
    have hempty := OpenFiles.emptyFile_follows dirLayout emptyVolume
    { hempty with
      cursor := ⟨fun _ => rfl, fun hpos => absurd hpos (Nat.lt_irrefl 0)⟩ }
  listed :=
    { usable := ⟨by decide, by decide⟩
      table := fun x hx ht => by
        have hlo : 1536 ≤ x := hx.1
        have hhi : x < 1024 := ht.2
        omega
      apart := fun x hx c hc hin => by
        have hhi : x < 1568 := hx.2
        have hlo : 2048 + 512 * (c - 2) ≤ x := hin.1
        omega
      live := by
        show emptyVolume.mem dirLayout _ ≠ 0xE5
        rw [emptyVolume_mem]
        decide }
  recorded hclean := absurd hclean.symm Bool.false_ne_true
  subDir := rfl

theorem synced_reopens_new :
    (performAll dirLayout [.write [1, 2, 3], .write [4]] >>= fun _ => sync).Meets
      (fun _ o' => ∀ d : FsBlockDevice, d.disk = o'.vol.cache.blockDev.disk →
        (∀ n junk, d.onRead n ≠ .garbled junk) → ∀ (f : FatFile) (nbyte : ℕ),
          (openAt dirLayout 3 0 readOnly >>= fun _ => read dirLayout nbyte).Meets
            (fun r _ => r = [1, 2, 3, 4].take nbyte)
            (fun _ => ¬ (o'.vol.remount d).cache.Working) ⟨o'.vol.remount d, f⟩)
      (fun _ => True) newFile :=
  synced_reopens newFile_filed [.write [1, 2, 3], .write [4]]

end OpenFile

end Heimdall
