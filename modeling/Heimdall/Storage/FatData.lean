import Heimdall.Storage.FatAlloc

/-!
# The bytes of clusters

A file lies on a list of clusters, byte `p` at `fileAddr`. Within a cluster that is a
stretch of the volume (`fileAddr_add`), and a byte of another place in the file is
outside it (`fileAddr_outside`), so that writing the stretch is writing the file
there.

The sector that `read` and `write` compute for a position holds its byte
(`dataSector_spec`), and the calls they make for it, through the cache or past it,
read the volume there and write it there (`readCached_meets`, `store_meets`,
`writePast_meets`). `Written` is what these leave of the rest.
-/

namespace Heimdall

namespace FatLayout

variable {L : FatLayout} {c d x p q n : ℕ} {l t : List ℕ}

/-- A byte of a cluster. -/
def InCluster (L : FatLayout) (cluster x : ℕ) : Prop :=
  L.clusterAddr cluster ≤ x ∧ x < L.clusterAddr cluster + L.clusterSize

theorem inCluster_unique (hc : L.InRange c) (hd : L.InRange d) (hcx : L.InCluster c x)
    (hdx : L.InCluster d x) : c = d := by
  by_contra hne
  have hapart := clusterAddr_apart hc hd hne
  obtain ⟨h₁, h₂⟩ := hcx
  obtain ⟨h₃, h₄⟩ := hdx
  omega

theorem InCluster.not_table (h : L.InCluster c x) : ¬ L.InTable x := by
  have hapart := L.apart
  have hstart : 512 * L.dataStartSector ≤ L.clusterAddr c := Nat.le_add_right _ _
  obtain ⟨h₁, h₂⟩ := h
  rintro ⟨h₃, h₄⟩
  omega

/-! ## Places in a file -/

/-- Where byte `p` of a file on the clusters `l` is. -/
def fileAddr (L : FatLayout) (l : List ℕ) (p : ℕ) : ℕ :=
  L.clusterAddr (l.getD (p / L.clusterSize) 0) + p % L.clusterSize

theorem fileAddr_eq (hp : l[p / L.clusterSize]? = some c) :
    L.fileAddr l p = L.clusterAddr c + p % L.clusterSize := by
  rw [fileAddr, List.getD_eq_getElem?_getD, hp, Option.getD_some]

theorem fileAddr_in (hp : l[p / L.clusterSize]? = some c) : L.InCluster c (L.fileAddr l p) := by
  have hlt := Nat.mod_lt p L.clusterSize_pos
  rw [fileAddr_eq hp]
  exact ⟨Nat.le_add_right _ _, by omega⟩

/-- A position of the file is in one of its clusters. -/
theorem exists_cluster (hp : p < l.length * L.clusterSize) :
    ∃ c, l[p / L.clusterSize]? = some c ∧ c ∈ l := by
  have hlt : p / L.clusterSize < l.length :=
    Nat.div_lt_of_lt_mul (by rwa [Nat.mul_comm] at hp)
  exact ⟨l[p / L.clusterSize], List.getElem?_eq_getElem hlt, List.getElem_mem hlt⟩

theorem fileAddr_add {i : ℕ} (h : p % L.clusterSize + i < L.clusterSize) :
    L.fileAddr l (p + i) = L.fileAddr l p + i := by
  have hpos := L.clusterSize_pos
  have hsplit := Nat.div_add_mod p L.clusterSize
  have hi : p + i = L.clusterSize * (p / L.clusterSize) + (p % L.clusterSize + i) := by omega
  have hdiv : (p + i) / L.clusterSize = p / L.clusterSize := by
    rw [hi, Nat.mul_add_div hpos, Nat.div_eq_of_lt h, Nat.add_zero]
  have hmod : (p + i) % L.clusterSize = p % L.clusterSize + i := by
    rw [hi, Nat.mul_add_mod, Nat.mod_eq_of_lt h]
  rw [fileAddr, hdiv, hmod, fileAddr]
  exact (Nat.add_assoc _ _ _).symm

theorem fileAddr_append (hp : p < l.length * L.clusterSize) :
    L.fileAddr (l ++ t) p = L.fileAddr l p := by
  obtain ⟨c, hc, -⟩ := exists_cluster hp
  have hlt : p / L.clusterSize < l.length := (List.getElem?_eq_some_iff.mp hc).1
  rw [fileAddr_eq hc, fileAddr_eq ((List.getElem?_append_left hlt).trans hc)]

/-- What lies in a stretch of a cluster is in that stretch of the file. -/
theorem fileAddr_outside (hl : l.Nodup) (hrange : ∀ c ∈ l, L.InRange c)
    (hp : l[p / L.clusterSize]? = some c) (hn : p % L.clusterSize + n ≤ L.clusterSize)
    (hq : q < l.length * L.clusterSize) (hlo : L.fileAddr l p ≤ L.fileAddr l q)
    (hhi : L.fileAddr l q < L.fileAddr l p + n) : p ≤ q ∧ q < p + n := by
  obtain ⟨d, hd, hmem⟩ := exists_cluster hq
  have hc := List.mem_of_getElem? hp
  have hin : L.InCluster c (L.fileAddr l q) := by
    rw [fileAddr_eq hp] at hlo hhi
    exact ⟨by omega, by omega⟩
  obtain rfl := inCluster_unique (hrange c hc) (hrange d hmem) hin (fileAddr_in hd)
  have hidx : p / L.clusterSize = q / L.clusterSize := by
    obtain ⟨h₁, hp'⟩ := List.getElem?_eq_some_iff.mp hp
    obtain ⟨h₂, hd'⟩ := List.getElem?_eq_some_iff.mp hd
    exact (hl.getElem_inj_iff).mp (hp'.trans hd'.symm)
  rw [fileAddr_eq hp, fileAddr_eq hd] at hlo hhi
  have hsplitp := Nat.div_add_mod p L.clusterSize
  have hsplitq := Nat.div_add_mod q L.clusterSize
  rw [hidx] at hsplitp
  omega

/-! ## Sectors -/

theorem sectorsPerCluster_pos (L : FatLayout) : 0 < L.sectorsPerCluster := Nat.two_pow_pos _

theorem sectorOfCluster_eq (L : FatLayout) (p : ℕ) :
    L.sectorOfCluster p = p / 512 % L.sectorsPerCluster := by
  rw [sectorOfCluster, sectorsPerCluster, Nat.and_two_pow_sub_one_eq_mod, Nat.shiftRight_eq_div_pow]

theorem mod_clusterSize (L : FatLayout) (p : ℕ) :
    p % L.clusterSize = 512 * L.sectorOfCluster p + p % 512 := by
  rw [sectorOfCluster_eq, clusterSize, Nat.mod_mul, Nat.add_comm]

/-- `sector` of `read` and `write`. -/
def dataSector (L : FatLayout) (cluster position : ℕ) : ℕ :=
  (L.clusterStartSector cluster + L.sectorOfCluster position) % 2 ^ 32

theorem dataSector_eq (hc : L.InRange c) (p : ℕ) :
    L.dataSector c p = L.dataStartSector + (c - 2) * L.sectorsPerCluster + L.sectorOfCluster p ∧
      L.dataSector c p + (L.sectorsPerCluster - L.sectorOfCluster p) ≤ noSector := by
  have hfits : _ ≤ 0xFFFFFFFF := L.fits
  have hsector : L.sectorOfCluster p < L.sectorsPerCluster := by
    rw [sectorOfCluster_eq]
    exact Nat.mod_lt _ L.sectorsPerCluster_pos
  obtain ⟨hlo, hhi⟩ := hc
  have hle := Nat.mul_le_mul_right L.sectorsPerCluster (show c - 2 + 1 ≤ L.lastCluster - 1 by omega)
  rw [Nat.add_mul, Nat.one_mul] at hle
  rw [← show L.sectorsPerCluster = 2 ^ L.sectorsPerClusterShift from rfl] at hfits
  have hstart : L.clusterStartSector c = L.dataStartSector + (c - 2) * L.sectorsPerCluster := by
    have hshift : (c + 2 ^ 32 - 2) <<< L.sectorsPerClusterShift =
        (c - 2) * L.sectorsPerCluster + 2 ^ 32 * L.sectorsPerCluster := by
      rw [Nat.shiftLeft_eq, show c + 2 ^ 32 - 2 = c - 2 + 2 ^ 32 by omega, Nat.add_mul]
      rfl
    rw [clusterStartSector, hshift, ← Nat.add_assoc, Nat.add_mul_mod_self_left]
    exact Nat.mod_eq_of_lt (by omega)
  have heq : L.dataSector c p =
      L.dataStartSector + (c - 2) * L.sectorsPerCluster + L.sectorOfCluster p := by
    rw [dataSector, hstart]
    exact Nat.mod_eq_of_lt (by omega)
  refine ⟨heq, ?_⟩
  show _ ≤ 0xFFFFFFFF
  omega

/-- The byte of a position is in its sector. -/
theorem dataSector_spec (hc : L.InRange c) (p : ℕ) :
    L.dataSector c p * 512 + p % 512 = L.clusterAddr c + p % L.clusterSize := by
  have hmul : L.clusterSize * (c - 2) = 512 * ((c - 2) * L.sectorsPerCluster) := by
    rw [clusterSize, Nat.mul_assoc, Nat.mul_comm L.sectorsPerCluster]
  rw [(dataSector_eq hc p).1, clusterAddr, mod_clusterSize, hmul]
  omega

theorem dataSector_usable (hc : L.InRange c) (h : L.sectorOfCluster p + n ≤ L.sectorsPerCluster) :
    L.area.UsableRange (L.dataSector c p) n := by
  have hapart := L.apart
  obtain ⟨heq, hle⟩ := dataSector_eq hc p
  refine ⟨by omega, fun i _ hsecond => ?_⟩
  have hhi : _ < L.fatStartSector + 2 * L.sectorsPerFat := hsecond.2
  omega

end FatLayout

namespace FatPartition

open Fallible

variable {L : FatLayout} {v v' v'' : FatPartition} {own bytes spoilt : ℕ → Prop} {a s o : ℕ}
  {xs : List UInt8} {option : CacheOption}

/-! ## Through the cache -/

/-- `s` is held, and what was in view still is, unless `s` was not read. -/
structure Held (L : FatLayout) (s : ℕ) (option : CacheOption) (v v' : FatPartition) : Prop where
  coherent : v'.Coherent L
  working : v.cache.Working → v'.cache.Working
  atomic : v.cache.Atomic → v'.cache.Atomic
  alloc : v'.allocSearchStart = v.allocSearchStart
  sector : v'.cache.sector = s
  dirty : option.dirty = true → v'.cache.statusDirty = true
  mem : ∀ x, x / 512 ≠ s ∨ option.noRead = false → v'.mem L x = v.mem L x
  flushed : v.cache.Atomic → Flushed L (fun _ => True) v v'

theorem dataCachePrepare_meets (hv : v.Coherent L) (hs : L.area.Usable s)
    (hfat : option.mirrorFat = false) (hnew : option.noRead = true → option.dirty = true) :
    (dataCachePrepare s option).Meets (fun _ v' => Held L s option v v') (Failed L v) v := by
  unfold dataCachePrepare onCache
  rw [meets_within]
  have hprepare : (FsCache.prepare s option).Meets _ _ v.cache := FsCache.prepare_meets hv hs
    (fun h => absurd (hfat.symm.trans h) Bool.false_ne_true) hnew
  refine hprepare.mono (fun _ c h => ?_) fun c h => ⟨same_of_cache h.toSame, h.broken⟩
  exact {
    coherent := h.coherent
    working := h.working
    atomic := h.atomic
    alloc := rfl
    sector := h.held
    dirty := h.dirty
    mem := fun x hx => Memory.flat_congr _ (h.view _ hx)
    flushed := fun ha => flushed_of_cache fun t ht _ => h.flushed ha t ht }

theorem Held.same (h : Held L s option v v') (hread : option.noRead = false) : Same L v v' :=
  ⟨h.coherent, funext fun x => h.mem x (.inr hread), h.alloc, h.working, h.atomic, h.flushed⟩

/-- What is in the buffer is what is in view. -/
theorem buffer_eq (hs : L.area.Usable v.cache.sector) {n : ℕ} (hn : o + n ≤ 512) :
    (v.cache.buffer.toList.drop o).take n =
      Memory.read (v.mem L) (v.cache.sector * 512 + o) n := by
  have hheld := FsCache.view_held hs
  unfold mem
  rw [Memory.read_flat _ _ _ _ _ hn, hheld]

/-! ## Writing -/

/-- `xs` has been written at `a`, and `spoilt` with it. -/
structure Written (L : FatLayout) (a : ℕ) (xs : List UInt8) (spoilt : ℕ → Prop)
    (v v' : FatPartition) : Prop where
  coherent : v'.Coherent L
  working : v.cache.Working → v'.cache.Working
  atomic : v.cache.Atomic → v'.cache.Atomic
  alloc : v'.allocSearchStart = v.allocSearchStart
  mem : ∀ x, (a ≤ x ∧ x < a + xs.length) ∨ ¬ spoilt x →
    v'.mem L x = Memory.write (v.mem L) a xs x
  flushed : v.cache.Atomic →
    Flushed L (fun x => ¬ (a ≤ x ∧ x < a + xs.length) ∧ ¬ spoilt x) v v'

theorem Written.outside (h : Written L a xs spoilt v v') {x : ℕ}
    (hx : ¬ (a ≤ x ∧ x < a + xs.length)) (hsp : ¬ spoilt x) : v'.mem L x = v.mem L x := by
  rw [h.mem x (.inr hsp), Memory.write_outside]
  omega

theorem Written.same (h : Written L a xs spoilt v v') (h' : Same L v' v'') :
    Written L a xs spoilt v v'' := by
  refine ⟨h'.coherent, fun hw => h'.working (h.working hw), fun ha => h'.atomic (h.atomic ha),
    h'.alloc.trans h.alloc, fun x hx => (congrFun h'.mem x).trans (h.mem x hx), fun ha => ?_⟩
  exact (h.flushed ha).trans ((h'.flushed (h.atomic ha)).mono fun _ _ => trivial)
    fun x hx => h.outside hx.1 hx.2

/-- Others keep what they have if it is the caller's bytes that are written. -/
theorem Written.kept (h : Written L a xs spoilt v v')
    (hbytes : ∀ x, (a ≤ x ∧ x < a + xs.length) ∨ spoilt x → ¬ L.InTable x ∧ bytes x) :
    Kept L own bytes v v' := by
  have hsub : ∀ x, ¬ Changed L own bytes v x → ¬ (a ≤ x ∧ x < a + xs.length) ∧ ¬ spoilt x :=
    fun x hx => ⟨fun hin => hx (.inr (hbytes x (.inl hin))),
      fun hsp => hx (.inr (hbytes x (.inr hsp)))⟩
  exact ⟨h.coherent, h.working, h.atomic, fun hs => h.alloc ▸ hs,
    fun x hx => h.outside (hsub x hx).1 (hsub x hx).2, fun ha => (h.flushed ha).mono hsub⟩

/-- Storing in the held sector, which is to be written back. -/
theorem store_meets (hv : v.Coherent L) (hdirty : v.cache.statusDirty = true)
    (hs : L.area.Usable v.cache.sector) (ho : o + xs.length ≤ 512) {E : FatPartition → Prop} :
    (onCache (FsCache.store o xs)).Meets
      (fun _ v' => Written L (v.cache.sector * 512 + o) xs (fun _ => False) v v' ∧
        v'.cache.sector = v.cache.sector ∧ v'.cache.statusDirty = true) E v := by
  obtain ⟨hcoh, hview⟩ := FsCache.Coherent.stored hv hdirty hs o xs
  unfold onCache FsCache.store
  rw [meets_within, meets_change]
  refine ⟨⟨hcoh, fun hw n => hw n, fun ha n => ha n, rfl, fun x _ => ?_, fun _ =>
    (Flushed.refl L _ v).stored rfl⟩, rfl, hdirty⟩
  refine (congrFun (congrArg (Memory.flat FsCache.sector_pos) hview) x).trans ?_
  rw [Memory.flat_copy _ _ _ ho]
  rfl

/-- Preparing a sector and storing in it. -/
theorem prepareStore_meets (hv : v.Coherent L) (hs : L.area.Usable s)
    (hfat : option.mirrorFat = false) (hdirty : option.dirty = true) (ho : o + xs.length ≤ 512) :
    (dataCachePrepare s option >>= fun _ => onCache (FsCache.store o xs)).Meets
      (fun _ v' => Written L (s * 512 + o) xs (fun x => option.noRead = true ∧ x / 512 = s) v v')
      (Failed L v) v := by
  rw [meets_bind]
  refine (dataCachePrepare_meets hv hs hfat fun _ => hdirty).mono (fun _ v₁ hheld => ?_)
    fun _ h => h
  obtain rfl := hheld.sector
  refine (store_meets hheld.coherent (hheld.dirty hdirty) hs ho).mono (fun _ v₂ h => ?_)
    fun _ h => h
  obtain ⟨hw, -, -⟩ := h
  have hmem : ∀ x, ¬ (option.noRead = true ∧ x / 512 = v₁.cache.sector) →
      v₁.mem L x = v.mem L x := by
    intro x hx
    refine hheld.mem x ?_
    by_contra hc
    obtain ⟨hsector, hread⟩ := not_or.mp hc
    exact hx ⟨by simpa using hread, not_not.mp hsector⟩
  exact {
    coherent := hw.coherent
    working := fun h => hw.working (hheld.working h)
    atomic := fun h => hw.atomic (hheld.atomic h)
    alloc := hw.alloc.trans hheld.alloc
    mem := fun x hx => (hw.mem x (.inr not_false)).trans (Memory.write_congr fun hout =>
      hmem x (hx.resolve_left fun hin => by omega))
    flushed := fun ha => ((hheld.flushed ha).mono fun _ _ => trivial).trans
      ((hw.flushed (hheld.atomic ha)).mono fun _ hx => ⟨hx.1, not_false⟩)
      fun x hx => hmem x hx.2 }

/-! ## Past the cache -/

theorem readPast_meets (hv : v.Coherent L) {count : ℕ} (hs : L.area.UsableRange s count) :
    (onCache (FsCache.cacheSafeReads s count)).Meets
      (fun vs v' => Same L v v' ∧
        vs.flatMap Vector.toList = Memory.read (v.mem L) (s * 512) (count * 512))
      (Failed L v) v := by
  unfold onCache
  rw [meets_within]
  refine (FsCache.cacheSafeReads_meets hv hs).mono (fun vs c h => ?_)
    fun c h => ⟨same_of_cache h.toSame, h.broken⟩
  obtain ⟨rfl, h⟩ := h
  exact ⟨same_of_cache h, (Memory.read_flat_blocks _ _ _ _).symm⟩

theorem readOnePast_meets (hv : v.Coherent L) (hs : L.area.Usable s) :
    (onCache (FsCache.cacheSafeRead s)).Meets
      (fun block v' => Same L v v' ∧ block.toList = Memory.read (v.mem L) (s * 512) 512)
      (Failed L v) v := by
  unfold onCache
  rw [meets_within]
  refine (FsCache.cacheSafeRead_meets hv hs).mono (fun x c h => ?_)
    fun c h => ⟨same_of_cache h.toSame, h.broken⟩
  obtain ⟨rfl, h⟩ := h
  refine ⟨same_of_cache h, ?_⟩
  have hblock := Memory.read_flat_blocks FsCache.sector_pos (v.cache.view L.area) s 1
  rw [Nat.one_mul] at hblock
  exact (List.append_nil _).symm.trans hblock.symm

/-- What writing past the cache leaves of the volume. -/
theorem written_of_cache {vs : List Sector} {c : FsCache}
    (h : FsCache.Overwritten L.area s vs v.cache c) :
    Written L (s * 512) (vs.flatMap Vector.toList) (fun _ => False) v { v with cache := c } := by
  have hlen : (vs.flatMap Vector.toList).length = vs.length * 512 := Memory.length_cells vs
  refine ⟨h.coherent, h.working, h.atomic, rfl, fun x _ => ?_, fun _ => flushed_of_cache ?_⟩
  · refine (congrFun (congrArg (Memory.flat FsCache.sector_pos) h.view) x).trans ?_
    rw [Memory.flat_write]
    rfl
  · rintro t - ⟨x, rfl, hx, -⟩
    rw [hlen] at hx
    exact .inl (h.disk _ (by omega))

theorem Written.mono {spoilt' : ℕ → Prop} (h : Written L a xs spoilt v v')
    (hsub : ∀ x, spoilt x → spoilt' x) : Written L a xs spoilt' v v' :=
  ⟨h.coherent, h.working, h.atomic, h.alloc,
    fun x hx => h.mem x (hx.imp_right fun hno hsp => hno (hsub x hsp)), fun ha =>
      (h.flushed ha).mono fun x hx => ⟨hx.1, fun hsp => hx.2 (hsub x hsp)⟩⟩

theorem Same.written (h : Same L v v') : Written L a [] spoilt v v' :=
  ⟨h.coherent, h.working, h.atomic, h.alloc, fun x _ => by
    rw [Memory.write_nil]
    exact congrFun h.mem x, fun ha => (h.flushed ha).mono fun _ _ => trivial⟩

/-- What has been written may be taken for spoilt. -/
theorem Written.spoil {spoilt' : ℕ → Prop} (h : Written L a xs spoilt v v')
    (hsub : ∀ x, (a ≤ x ∧ x < a + xs.length) ∨ spoilt x → spoilt' x) :
    Written L a [] spoilt' v v' := by
  refine ⟨h.coherent, h.working, h.atomic, h.alloc, fun x hx => ?_, fun ha =>
    (h.flushed ha).mono fun x hx => ⟨fun hin => hx.2 (hsub x (.inl hin)),
      fun hsp => hx.2 (hsub x (.inr hsp))⟩⟩
  rw [Memory.write_nil]
  have hno := hx.resolve_left fun hin => absurd hin.2 (Nat.not_lt.mpr hin.1)
  exact h.outside (fun hin => hno (hsub x (.inl hin))) fun hsp => hno (hsub x (.inr hsp))

/-- If it fails the sectors it was to write are spoilt. -/
theorem writePast_meets (hv : v.Coherent L) {src : List Sector}
    (hs : L.area.UsableRange s src.length) :
    (onCache (FsCache.cacheSafeWrites s src)).Meets
      (fun _ v' => Written L (s * 512) (src.flatMap Vector.toList) (fun _ => False) v v')
      (fun v' => Written L (s * 512) []
        (fun x => s * 512 ≤ x ∧ x < s * 512 + src.length * 512) v v' ∧ ¬ v.cache.Working) v := by
  unfold onCache
  rw [meets_within]
  refine (FsCache.cacheSafeWrites_meets hv hs).mono (fun _ c h => written_of_cache h) fun c h => ?_
  obtain ⟨⟨vs, hlen, hover⟩, hbroken⟩ := h
  refine ⟨(written_of_cache hover).spoil fun x hx => ?_, hbroken⟩
  rw [Memory.length_cells, hlen] at hx
  exact hx.resolve_right id

theorem writeOnePast_meets (hv : v.Coherent L) (hs : L.area.Usable s) (src : Sector) :
    (onCache (FsCache.cacheSafeWrite s src)).Meets
      (fun _ v' => Written L (s * 512) src.toList (fun _ => False) v v')
      (fun v' => Written L (s * 512) [] (fun x => s * 512 ≤ x ∧ x < s * 512 + 512) v v' ∧
        ¬ v.cache.Working) v := by
  have hone : ∀ x : Sector, [x].flatMap Vector.toList = x.toList := fun x => List.append_nil _
  unfold onCache
  rw [meets_within]
  refine (FsCache.cacheSafeWrite_meets hv hs src).mono
    (fun _ c h => hone src ▸ written_of_cache h) fun c h => ?_
  obtain ⟨⟨y, hover⟩, hbroken⟩ := h
  refine ⟨(written_of_cache hover).spoil fun x hx => ?_, hbroken⟩
  rw [hone, Vector.length_toList] at hx
  exact hx.resolve_right id

theorem syncData_meets (hv : v.Coherent L) :
    (onCache FsCache.sync).Meets (fun _ v' => Same L v v') (Failed L v) v := by
  unfold onCache
  rw [meets_within]
  exact (FsCache.sync_meets hv).mono (fun _ c h => same_of_cache h.1)
    fun c h => ⟨same_of_cache h.toSame, h.broken⟩

end FatPartition

end Heimdall
