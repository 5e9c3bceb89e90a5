import Heimdall.Lib.Linked
import Heimdall.Lib.Serializer
import Heimdall.Storage.FsCache

/-!
# The file allocation table

A volume is divided into clusters, numbered from 2, and the table has a number for
each of them: 0 for a free one, the next cluster of the same file, or a number past
the last cluster where a file ends. `fatGet` and `fatPut` are how the file system
reads and changes it, two bytes or four at a time, through the sector cache.

The volume is seen as a memory of bytes, `mem`, in which the table and the clusters
are two stretches that do not meet (`FatLayout`). `fatGet_meets` and `fatPut_meets`
say that the two functions read and write the number of a cluster there, that they
fail only without having changed anything, and `Put` says what a change leaves as it
was: every other number, and every byte that is not of the table.
-/

namespace Heimdall

inductive FatType where
  | fat16
  | fat32
  deriving DecidableEq

/-- Bytes to a number of the table. -/
def FatType.width : FatType → ℕ
  | fat16 => 2
  | fat32 => 4

/-- A number that ends a chain has to be told from a cluster. -/
def FatType.endOfChain : FatType → ℕ
  | fat16 => 0xFFFF
  | fat32 => 0x0FFFFFFF

/-- Where things are on a volume, as read from its boot sector when it is mounted. The
table has room for every cluster, and the two tables, what comes between, and the
clusters follow each other. -/
structure FatLayout where
  fatType : FatType
  fatStartSector : ℕ
  sectorsPerFat : ℕ
  dataStartSector : ℕ
  sectorsPerClusterShift : ℕ
  lastCluster : ℕ
  rootDirStart : ℕ
  rootDirEntryCount : ℕ
  shift : sectorsPerClusterShift ≤ 7
  first : 2 ≤ lastCluster
  table : fatType.width * (lastCluster + 1) ≤ 512 * sectorsPerFat
  ends : lastCluster < fatType.endOfChain
  apart : fatStartSector + 2 * sectorsPerFat ≤ dataStartSector
  fits : dataStartSector + (lastCluster - 1) * 2 ^ sectorsPerClusterShift ≤ noSector

namespace FatLayout

variable (L : FatLayout)

/-- The two tables. -/
def area : FatArea where
  start := L.fatStartSector
  size := L.sectorsPerFat
  fits := by
    have hapart := L.apart
    have hfits := L.fits
    omega

def sectorsPerCluster : ℕ := 2 ^ L.sectorsPerClusterShift

def bytesPerClusterShift : ℕ := L.sectorsPerClusterShift + 9

/-- The bytes of a cluster. -/
def clusterSize : ℕ := 512 * L.sectorsPerCluster

/-- A cluster of the volume. -/
def InRange (cluster : ℕ) : Prop := 2 ≤ cluster ∧ cluster ≤ L.lastCluster

def isEOC (cluster : ℕ) : Bool := decide (L.lastCluster < cluster)

/-- What `fatGet` makes of a number: nothing at the end of a chain. -/
def link (next : ℕ) : Option ℕ := if L.isEOC next then none else some next

def sectorOfCluster (position : ℕ) : ℕ := (position >>> 9) &&& (L.sectorsPerCluster - 1)

def clusterStartSector (cluster : ℕ) : ℕ :=
  (L.dataStartSector + ((cluster + 2 ^ 32 - 2) <<< L.sectorsPerClusterShift)) % 2 ^ 32

/-- Where the number of a cluster is. -/
def entryAddr (cluster : ℕ) : ℕ := 512 * L.fatStartSector + L.fatType.width * cluster

/-- A byte of the number of a cluster. -/
def InEntry (cluster x : ℕ) : Prop :=
  L.entryAddr cluster ≤ x ∧ x < L.entryAddr cluster + L.fatType.width

/-- A byte of the first table. -/
def InTable (x : ℕ) : Prop :=
  512 * L.fatStartSector ≤ x ∧ x < 512 * (L.fatStartSector + L.sectorsPerFat)

/-- Where the bytes of a cluster are. -/
def clusterAddr (cluster : ℕ) : ℕ := 512 * L.dataStartSector + L.clusterSize * (cluster - 2)

end FatLayout

/-- What changes of a mounted volume. -/
structure FatPartition where
  cache : FsCache
  allocSearchStart : ℕ

namespace FatPartition

open Fallible

/-- A call to the cache. -/
def onCache {α : Type} (p : Fallible FsCache α) : Fallible FatPartition α :=
  within FatPartition.cache (fun v cache => { v with cache }) p

def fatCachePrepare (sector : ℕ) (option : CacheOption) : Fallible FatPartition Unit :=
  onCache (FsCache.prepare sector { option with mirrorFat := true })

def dataCachePrepare (sector : ℕ) (option : CacheOption) : Fallible FatPartition Unit :=
  onCache (FsCache.prepare sector option)

/-- `getLe16` and `getLe32`. -/
def getLe (width offset : ℕ) (buffer : Sector) : ℕ :=
  LittleEndian.decode ((buffer.toList.drop offset).take width)

/-- Where in the table the number of a cluster is: a sector, and a place in it. -/
def entryPlace (L : FatLayout) (cluster : ℕ) : ℕ × ℕ :=
  match L.fatType with
  | .fat32 => ((L.fatStartSector + cluster >>> 7) % 2 ^ 32, (cluster <<< 2) &&& 511)
  | .fat16 =>
    let cluster := cluster &&& 0xFFFF
    ((L.fatStartSector + cluster >>> 8) % 2 ^ 32, (cluster <<< 1) &&& 511)

/-- Fails for -1, returns nothing for 0. -/
def fatGet (L : FatLayout) (cluster : ℕ) : Fallible FatPartition (Option ℕ) := do
  require (decide (2 ≤ cluster) && decide (cluster ≤ L.lastCluster))
  fatCachePrepare (entryPlace L cluster).1 .forRead
  let v ← state
  pure (L.link (getLe L.fatType.width (entryPlace L cluster).2 v.cache.buffer))

def fatPut (L : FatLayout) (cluster value : ℕ) : Fallible FatPartition Unit := do
  require (decide (2 ≤ cluster) && decide (cluster ≤ L.lastCluster))
  fatCachePrepare (entryPlace L cluster).1 .forWrite
  onCache (FsCache.store (entryPlace L cluster).2 (LittleEndian.encode L.fatType.width value))

def fatPutEOC (L : FatLayout) (cluster : ℕ) : Fallible FatPartition Unit :=
  fatPut L cluster 0x0FFFFFFF

end FatPartition

/-! ## Places on the volume -/

namespace FatLayout

variable {L : FatLayout} {cluster c d : ℕ}

theorem clusterSize_pos (L : FatLayout) : 0 < L.clusterSize :=
  Nat.mul_pos (by decide) (Nat.two_pow_pos _)

/-- The place the two branches compute is that of the number. -/
theorem entryPlace_spec (h : L.InRange cluster) :
    L.area.First (FatPartition.entryPlace L cluster).1 ∧
      (FatPartition.entryPlace L cluster).2 + L.fatType.width ≤ 512 ∧
      (FatPartition.entryPlace L cluster).1 * 512 + (FatPartition.entryPlace L cluster).2 =
        L.entryAddr cluster := by
  have hlast : cluster ≤ L.lastCluster := h.2
  have htable := L.table
  have hends := L.ends
  have hapart := L.apart
  have hfits : L.dataStartSector + _ ≤ 0xFFFFFFFF := L.fits
  have hmask : ∀ x : ℕ, x &&& 511 = x % 512 := fun x => Nat.and_two_pow_sub_one_eq_mod x 9
  unfold FatPartition.entryPlace entryAddr FatArea.First
  cases htype : L.fatType with
  | fat32 =>
    rw [htype] at htable hends
    have hdiv : cluster >>> 7 = cluster / 128 := Nat.shiftRight_eq_div_pow cluster 7
    have hmul : cluster <<< 2 = 4 * cluster := by rw [Nat.shiftLeft_eq]; omega
    simp only [area, FatType.width] at htable ⊢
    rw [hmask, hdiv, hmul,
      Nat.mod_eq_of_lt (show L.fatStartSector + cluster / 128 < 2 ^ 32 by omega)]
    omega
  | fat16 =>
    rw [htype] at htable hends
    have hlow : cluster &&& 0xFFFF = cluster := by
      have hends' : L.lastCluster < 0xFFFF := hends
      rw [show (0xFFFF : ℕ) = 2 ^ 16 - 1 from rfl, Nat.and_two_pow_sub_one_eq_mod]
      exact Nat.mod_eq_of_lt (by omega)
    have hdiv : cluster >>> 8 = cluster / 256 := Nat.shiftRight_eq_div_pow cluster 8
    have hmul : cluster <<< 1 = 2 * cluster := by rw [Nat.shiftLeft_eq]; omega
    simp only [area, FatType.width, hlow] at htable ⊢
    rw [hmask, hdiv, hmul,
      Nat.mod_eq_of_lt (show L.fatStartSector + cluster / 256 < 2 ^ 32 by omega)]
    omega

/-- The numbers of two clusters do not overlap. -/
theorem entryAddr_apart (h : c ≠ d) :
    L.entryAddr c + L.fatType.width ≤ L.entryAddr d ∨
      L.entryAddr d + L.fatType.width ≤ L.entryAddr c := by
  unfold entryAddr
  cases L.fatType with
  | fat16 =>
    simp only [FatType.width]
    omega
  | fat32 =>
    simp only [FatType.width]
    omega

theorem inEntry_unique {x : ℕ} (hc : L.InEntry c x) (hd : L.InEntry d x) : c = d := by
  by_contra hne
  have hapart := L.entryAddr_apart hne
  obtain ⟨h₁, h₂⟩ := hc
  obtain ⟨h₃, h₄⟩ := hd
  omega

/-- The number of a cluster is in the table. -/
theorem entryAddr_in_table (h : L.InRange cluster) :
    512 * L.fatStartSector ≤ L.entryAddr cluster ∧
      L.entryAddr cluster + L.fatType.width ≤ 512 * (L.fatStartSector + L.sectorsPerFat) := by
  have htable := L.table
  have hle : L.fatType.width * (cluster + 1) ≤ L.fatType.width * (L.lastCluster + 1) :=
    Nat.mul_le_mul_left _ (Nat.succ_le_succ h.2)
  rw [Nat.mul_succ] at hle
  unfold entryAddr
  constructor <;> omega

/-- Two clusters do not overlap. -/
theorem clusterAddr_apart (hc : L.InRange c) (hd : L.InRange d) (h : c ≠ d) :
    L.clusterAddr c + L.clusterSize ≤ L.clusterAddr d ∨
      L.clusterAddr d + L.clusterSize ≤ L.clusterAddr c := by
  have hc₂ := hc.1
  have hd₂ := hd.1
  unfold clusterAddr
  rcases Nat.lt_or_gt_of_ne h with hlt | hgt
  · left
    have hle := Nat.mul_le_mul_left L.clusterSize (show c - 2 + 1 ≤ d - 2 by omega)
    rw [Nat.mul_succ] at hle
    omega
  · right
    have hle := Nat.mul_le_mul_left L.clusterSize (show d - 2 + 1 ≤ c - 2 by omega)
    rw [Nat.mul_succ] at hle
    omega

end FatLayout

/-! ## Reading and changing the table -/

namespace FatPartition

open Fallible

variable {L : FatLayout} {v v' v'' : FatPartition} {cluster value d : ℕ}

/-- The bytes of the volume. -/
def mem (L : FatLayout) (v : FatPartition) : ℕ → UInt8 :=
  Memory.flat FsCache.sector_pos (v.cache.view L.area)

/-- What a mount would find, the cache being lost. -/
def card (L : FatLayout) (v : FatPartition) : ℕ → UInt8 :=
  Memory.flat FsCache.sector_pos (v.cache.invalidate.view L.area)

/-- Sector by sector, the bytes of the card that are in `kept` are what they were, or
what was in view. -/
def Flushed (L : FatLayout) (kept : ℕ → Prop) (v v' : FatPartition) : Prop :=
  ∀ s, (∀ x, x / 512 = s → kept x → v'.card L x = v.card L x) ∨
    ∀ x, x / 512 = s → kept x → v'.card L x = v.mem L x

/-- The number the table has for a cluster. -/
def entry (L : FatLayout) (v : FatPartition) (cluster : ℕ) : ℕ :=
  LittleEndian.decode (Memory.read (v.mem L) (L.entryAddr cluster) L.fatType.width)

/-- What follows a cluster in its chain. -/
def next (L : FatLayout) (v : FatPartition) (cluster : ℕ) : Option ℕ := L.link (v.entry L cluster)

def Coherent (L : FatLayout) (v : FatPartition) : Prop := v.cache.Coherent L.area

/-- Nothing of the volume has changed. -/
structure Same (L : FatLayout) (v v' : FatPartition) : Prop where
  coherent : v'.Coherent L
  mem : v'.mem L = v.mem L
  alloc : v'.allocSearchStart = v.allocSearchStart
  working : v.cache.Working → v'.cache.Working
  atomic : v.cache.Atomic → v'.cache.Atomic
  flushed : v.cache.Atomic → Flushed L (fun _ => True) v v'

/-- And the device has failed. -/
structure Failed (L : FatLayout) (v v' : FatPartition) : Prop extends Same L v v' where
  broken : ¬ v.cache.Working

theorem Flushed.mono {kept kept' : ℕ → Prop} (h : Flushed L kept v v')
    (hkept : ∀ x, kept' x → kept x) : Flushed L kept' v v' := fun s =>
  (h s).imp (fun h x hx hk => h x hx (hkept x hk)) fun h x hx hk => h x hx (hkept x hk)

theorem Flushed.refl (L : FatLayout) (kept : ℕ → Prop) (v : FatPartition) : Flushed L kept v v :=
  fun _ => .inl fun _ _ _ => rfl

theorem Flushed.trans {kept : ℕ → Prop} (h : Flushed L kept v v') (h' : Flushed L kept v' v'')
    (hmem : ∀ x, kept x → v'.mem L x = v.mem L x) : Flushed L kept v v'' := by
  intro s
  rcases h' s with hcard | hnew
  · exact (h s).imp (fun h x hx hk => (hcard x hx hk).trans (h x hx hk))
      fun h x hx hk => (hcard x hx hk).trans (h x hx hk)
  · exact .inr fun x hx hk => (hnew x hx hk).trans (hmem x hk)

theorem Coherent.same (h : v.Coherent L) : Same L v v :=
  ⟨h, rfl, rfl, id, id, fun _ => .refl L _ v⟩

theorem Same.trans (h : Same L v v') (h' : Same L v' v'') : Same L v v'' :=
  ⟨h'.coherent, h'.mem.trans h.mem, h'.alloc.trans h.alloc, fun hw => h'.working (h.working hw),
    fun ha => h'.atomic (h.atomic ha), fun ha =>
      (h.flushed ha).trans (h'.flushed (h.atomic ha)) fun x _ => congrFun h.mem x⟩

theorem Same.failed (h : Same L v v') (h' : Failed L v' v'') : Failed L v v'' :=
  ⟨h.trans h'.toSame, fun hw => h'.broken (h.working hw)⟩

theorem entry_congr (h : v'.mem L = v.mem L) : v'.entry L = v.entry L := by
  unfold entry
  rw [h]

theorem Same.entry (h : Same L v v') : v'.entry L = v.entry L := entry_congr h.mem

/-- What a mount finds is on the device. -/
theorem view_invalidated {c : FsCache} {s : ℕ} (hs : L.area.Usable s) :
    c.invalidate.view L.area s = c.blockDev.disk s :=
  FsCache.view_other (c := c.invalidate) hs (Nat.ne_of_lt hs.1)

theorem card_congr (h : v'.cache.blockDev.disk = v.cache.blockDev.disk) :
    v'.card L = v.card L := by
  refine funext fun x => Memory.flat_congr _ ?_
  by_cases hs : L.area.Usable (x / 512)
  · rw [view_invalidated hs, view_invalidated hs, h]
  · rw [FsCache.view_hidden hs, FsCache.view_hidden hs]

/-- Storing in the buffer is not seen by the card. -/
theorem Flushed.stored {kept : ℕ → Prop} (h : Flushed L kept v v')
    (hdisk : v''.cache.blockDev.disk = v'.cache.blockDev.disk) : Flushed L kept v v'' := by
  unfold Flushed
  rw [card_congr hdisk]
  exact h

theorem flushed_of_cache {kept : ℕ → Prop} {c : FsCache}
    (h : ∀ s, L.area.Usable s → (∃ x, x / 512 = s ∧ kept x) → FsCache.Flushed L.area v.cache c s) :
    Flushed L kept v { v with cache := c } := by
  intro s
  by_cases hs : L.area.Usable s
  · by_cases hk : ∃ x, x / 512 = s ∧ kept x
    · refine (h s hs hk).imp (fun hd x hx _ => ?_) fun hd x hx _ => ?_
      · subst hx
        refine Memory.flat_congr _ ?_
        rw [view_invalidated hs, view_invalidated hs, hd]
      · subst hx
        refine Memory.flat_congr _ ?_
        rw [view_invalidated hs, hd]
    · exact .inl fun x hx hkept => absurd ⟨x, hx, hkept⟩ hk
  · refine .inl fun x hx _ => ?_
    subst hx
    refine Memory.flat_congr _ ?_
    rw [FsCache.view_hidden hs, FsCache.view_hidden hs]

theorem same_of_cache {c : FsCache} (h : FsCache.Same L.area v.cache c) :
    Same L v { v with cache := c } :=
  ⟨h.coherent, congrArg (Memory.flat _) h.view, rfl, h.working, h.atomic,
    fun ha => flushed_of_cache fun s hs _ => h.flushed ha s hs⟩

/-- One number of the table has changed. -/
structure Put (L : FatLayout) (cluster value : ℕ) (v v' : FatPartition) : Prop where
  range : L.InRange cluster
  coherent : v'.Coherent L
  working : v.cache.Working → v'.cache.Working
  atomic : v.cache.Atomic → v'.cache.Atomic
  flushed : v.cache.Atomic → Flushed L (fun _ => True) v v'
  alloc : v'.allocSearchStart = v.allocSearchStart
  mem : v'.mem L =
    Memory.write (v.mem L) (L.entryAddr cluster) (LittleEndian.encode L.fatType.width value)

theorem First.usable {s : ℕ} (h : L.area.First s) : L.area.Usable s := by
  have hfits := L.area.fits
  obtain ⟨hlo, hhi⟩ := h
  refine ⟨by omega, fun hsecond => ?_⟩
  exact absurd hsecond.1 (by omega)

/-- The sector of a number of the table, prepared for it. -/
theorem fatCachePrepare_meets (hv : v.Coherent L) (h : L.InRange cluster) {option : CacheOption}
    (hread : option.noRead = false) :
    (fatCachePrepare (entryPlace L cluster).1 option).Meets
      (fun _ v' => Same L v v' ∧ v'.cache.sector = (entryPlace L cluster).1 ∧
        (option.dirty = true → v'.cache.statusDirty = true)) (Failed L v) v := by
  have hplace := (L.entryPlace_spec h).1
  unfold fatCachePrepare onCache
  rw [meets_within]
  have hprepare : (FsCache.prepare (entryPlace L cluster).1
      { option with mirrorFat := true }).Meets _ _ v.cache :=
    FsCache.prepare_meets hv (First.usable hplace) (fun _ => hplace)
      fun hno => absurd (hno.symm.trans hread).symm Bool.false_ne_true
  refine hprepare.mono (fun _ c h => ?_) fun c h => ⟨same_of_cache h.toSame, h.broken⟩
  have hsame : FsCache.Same L.area v.cache c :=
    ⟨h.coherent, funext fun t => h.view t (.inr hread), h.working, h.atomic, h.flushed⟩
  exact ⟨same_of_cache hsame, h.held, h.dirty⟩

theorem fatGet_meets (hv : v.Coherent L) (cluster : ℕ) :
    (fatGet L cluster).Meets
      (fun r v' => Same L v v' ∧ L.InRange cluster ∧ r = v.next L cluster)
      (fun v' => Same L v v' ∧ (L.InRange cluster → ¬ v.cache.Working)) v := by
  unfold fatGet
  rw [meets_bind, meets_require]
  refine ⟨fun h => ?_, fun h => ⟨hv.same, fun hrange => absurd h ?_⟩⟩
  swap
  · simpa [FatLayout.InRange] using hrange
  have hrange : L.InRange cluster := by simpa [FatLayout.InRange] using h
  obtain ⟨hfirst, hin, haddr⟩ := L.entryPlace_spec hrange
  rw [meets_bind]
  refine (fatCachePrepare_meets hv hrange rfl).mono (fun _ v₁ h => ?_)
    fun _ h => ⟨h.toSame, fun _ => h.broken⟩
  obtain ⟨hsame, hheld, -⟩ := h
  refine ⟨hsame, hrange, congrArg L.link ?_⟩
  rw [← hsame.entry]
  have hview := FsCache.view_held (c := v₁.cache) (hheld ▸ First.usable hfirst)
  rw [hheld] at hview
  unfold getLe FatPartition.entry FatPartition.mem
  rw [← haddr, Memory.read_flat _ _ _ _ _ hin, hview]

theorem fatPut_meets (hv : v.Coherent L) (cluster value : ℕ) :
    (fatPut L cluster value).Meets
      (fun _ v' => Put L cluster value v v')
      (fun v' => Same L v v' ∧ (L.InRange cluster → ¬ v.cache.Working)) v := by
  unfold fatPut
  rw [meets_bind, meets_require]
  refine ⟨fun h => ?_, fun h => ⟨hv.same, fun hrange => absurd h ?_⟩⟩
  swap
  · simpa [FatLayout.InRange] using hrange
  have hrange : L.InRange cluster := by simpa [FatLayout.InRange] using h
  obtain ⟨hfirst, hin, haddr⟩ := L.entryPlace_spec hrange
  rw [meets_bind]
  refine (fatCachePrepare_meets hv hrange rfl).mono (fun _ v₁ h => ?_)
    fun _ h => ⟨h.toSame, fun _ => h.broken⟩
  obtain ⟨hsame, hheld, hdirty⟩ := h
  obtain ⟨hcoh, hview⟩ := hsame.coherent.stored (hdirty rfl) (hheld ▸ First.usable hfirst)
    (entryPlace L cluster).2 (LittleEndian.encode L.fatType.width value)
  refine ⟨hrange, hcoh, fun hw n => hsame.working hw n, fun ha n => hsame.atomic ha n,
    fun ha => (hsame.flushed ha).stored rfl, hsame.alloc, ?_⟩
  rw [← hsame.mem]
  unfold FatPartition.mem
  refine (congrArg (Memory.flat _) hview).trans ?_
  rw [hheld, Memory.flat_copy _ _ _ (by rwa [LittleEndian.length_encode]), haddr]

theorem fatPutEOC_meets (hv : v.Coherent L) (cluster : ℕ) :
    (fatPutEOC L cluster).Meets (fun _ v' => Put L cluster 0x0FFFFFFF v v')
      (fun v' => Same L v v' ∧ (L.InRange cluster → ¬ v.cache.Working)) v :=
  fatPut_meets hv cluster _

namespace Put

/-- The other numbers are as they were. -/
theorem entry_other (h : Put L cluster value v v') (hd : d ≠ cluster) :
    v'.entry L d = v.entry L d := by
  unfold FatPartition.entry
  rw [h.mem, Memory.read_write_outside]
  rw [LittleEndian.length_encode]
  exact L.entryAddr_apart hd

theorem entry_self (h : Put L cluster value v v') :
    v'.entry L cluster = value % 256 ^ L.fatType.width := by
  unfold FatPartition.entry
  have hread := Memory.read_write (v.mem L) (L.entryAddr cluster)
    (LittleEndian.encode L.fatType.width value)
  rw [LittleEndian.length_encode] at hread
  rw [h.mem, hread, LittleEndian.decode_encode_mod]

theorem next_other (h : Put L cluster value v v') (hd : d ≠ cluster) :
    v'.next L d = v.next L d := congrArg L.link (h.entry_other hd)

/-- The chain goes on with a cluster, -/
theorem next_link (h : Put L cluster value v v') (hvalue : L.InRange value) :
    v'.next L cluster = some value := by
  have hends := L.ends
  have hlt : value < 256 ^ L.fatType.width := by
    obtain ⟨-, hle⟩ := hvalue
    cases htype : L.fatType <;> simp only [htype, FatType.endOfChain, FatType.width] at hends ⊢ <;>
      omega
  unfold FatPartition.next FatLayout.link FatLayout.isEOC
  rw [h.entry_self, Nat.mod_eq_of_lt hlt]
  exact if_neg (by simpa using hvalue.2)

/-- or it ends. -/
theorem entry_eoc (h : Put L cluster 0x0FFFFFFF v v') : v'.entry L cluster
    = L.fatType.endOfChain := by
  rw [h.entry_self]
  cases L.fatType <;> rfl

theorem next_eoc (h : Put L cluster 0x0FFFFFFF v v') : v'.next L cluster = none := by
  unfold FatPartition.next FatLayout.link FatLayout.isEOC
  rw [h.entry_eoc]
  exact if_pos (decide_eq_true L.ends)

theorem entry_zero (h : Put L cluster 0 v v') : v'.entry L cluster = 0 := by
  rw [h.entry_self, Nat.zero_mod]

end Put

end FatPartition

end Heimdall
