import Heimdall.Lib.EventRun
import Heimdall.Storage.FsCache

/-!
# The cache over whole runs

`cache_transparent`: over any run of calls, whatever the device does to each of them,
the cache is a memory of sectors. A call that succeeds returns what the memory holds
and changes it as it should; a call that fails leaves it alone, but for sectors it
was to write past the cache.

`sync_reaches_device` says when the memory is the card's: after a `sync` that
succeeds every sector is on the device, and the second table is the first. The
invariant is `Mirrored`. The two copies of a sector of the table may differ only
while the cache holds that sector changed, and then knows that it has two.

`garbled_read_spreads` is what becomes of this if a read that fails spoils the
buffer. The cache still believes it holds the sector it held before.
-/

namespace Heimdall

/-- What the file system asks of the cache. -/
inductive CacheCall where
  | read (sector : ℕ)
  | modify (sector offset : ℕ) (bytes : List UInt8)
  | reserve (sector : ℕ) (src : Sector)
  | safeRead (sector : ℕ)
  | safeReads (sector count : ℕ)
  | safeWrite (sector : ℕ) (src : Sector)
  | safeWrites (sector : ℕ) (src : List Sector)
  | sync
  | clear

namespace CacheCall

/-- The sectors the call is about. -/
def range : CacheCall → ℕ × ℕ
  | read sector => (sector, 1)
  | modify sector _ _ => (sector, 1)
  | reserve sector _ => (sector, 1)
  | safeRead sector => (sector, 1)
  | safeReads sector count => (sector, count)
  | safeWrite sector _ => (sector, 1)
  | safeWrites sector src => (sector, src.length)
  | sync => (0, 0)
  | clear => (0, 0)

/-- Does the call write past the cache? -/
def writesPast : CacheCall → Bool
  | safeWrite _ _ => true
  | safeWrites _ _ => true
  | _ => false

/-- What a memory of sectors answers. -/
def answer (m : ℕ → Sector) : CacheCall → List Sector
  | read sector => [m sector]
  | safeRead sector => [m sector]
  | safeReads sector count => Memory.read m sector count
  | _ => []

/-- What becomes of the memory. -/
def effect (m : ℕ → Sector) : CacheCall → ℕ → Sector
  | modify sector offset bytes => Memory.write m sector [Memory.copy (m sector) offset bytes]
  | reserve sector src => Memory.write m sector [src]
  | safeWrite sector src => Memory.write m sector [src]
  | safeWrites sector src => Memory.write m sector src
  | _ => m

/-- The second table is not asked for, and the first is not written past the
cache. -/
structure Proper (area : FatArea) (call : CacheCall) : Prop where
  usable : area.UsableRange call.range.1 call.range.2
  table : call.writesPast = true → ∀ i < call.range.2, ¬ area.First (call.range.1 + i)

end CacheCall

namespace FsCache

open Fallible

variable {area : FatArea} {c c' : FsCache} {sector : ℕ}

/-- A sector of the table is prepared as one. -/
def prepareIn (area : FatArea) (sector : ℕ) (option : CacheOption) : Fallible FsCache Unit :=
  prepare sector { option with mirrorFat := decide (area.First sector) }

def perform (area : FatArea) : CacheCall → Fallible FsCache (List Sector)
  | .read sector => do
    prepareIn area sector .forRead
    let c ← state
    pure [c.buffer]
  | .modify sector offset bytes => do
    prepareIn area sector .forWrite
    store offset bytes
    pure []
  | .reserve sector src => do
    prepareIn area sector .reserveForWrite
    store 0 src.toList
    pure []
  | .safeRead sector => do
    let src ← cacheSafeRead sector
    pure [src]
  | .safeReads sector count => cacheSafeReads sector count
  | .safeWrite sector src => do
    cacheSafeWrite sector src
    pure []
  | .safeWrites sector src => do
    cacheSafeWrites sector src
    pure []
  | .sync => do
    sync
    pure []
  | .clear => do
    clear
    pure []

/-- The cache after a call. -/
def after (area : FatArea) (c : FsCache) (call : CacheCall) : FsCache := (perform area call c).2

/-- A call that succeeds does to the memory in view what it should. One that fails
has changed at most what it was to write past the cache. -/
def Transparent (area : FatArea) (c : FsCache) (call : CacheCall) : Prop :=
  (perform area call).Meets
    (fun r c' => r = call.answer (c.view area) ∧ c'.view area = call.effect (c.view area))
    (fun c' => ∀ t, call.writesPast = false ∨ t < call.range.1 ∨
      call.range.1 + call.range.2 ≤ t → c'.view area t = c.view area t) c

/-! ## One call -/

theorem Usable.of_range (hs : area.UsableRange sector 1) : area.Usable sector :=
  ⟨hs.1, hs.2 0 Nat.zero_lt_one⟩

theorem prepareIn_meets (hc : c.Coherent area) (hs : area.UsableRange sector 1)
    {option : CacheOption} (hnew : option.noRead = true → option.dirty = true) :
    (prepareIn area sector option).Meets
      (fun _ c' => Prepared area sector
        { option with mirrorFat := decide (area.First sector) } c c')
      (Failed area c) c :=
  prepare_meets hc (Usable.of_range hs) of_decide_eq_true hnew

/-- Storing in a sector prepared for it. -/
theorem Prepared.store {option : CacheOption} (h : Prepared area sector option c c')
    (hs : area.UsableRange sector 1) (hdirty : option.dirty = true) (offset : ℕ)
    (bytes : List UInt8) :
    let c'' := { c' with buffer := Memory.copy c'.buffer offset bytes }
    c''.Coherent area ∧ c''.view area =
      Memory.write (c'.view area) sector [Memory.copy (c'.view area sector) offset bytes] := by
  obtain rfl := h.held
  exact h.coherent.stored (h.dirty hdirty) (Usable.of_range hs) offset bytes

theorem Prepared.view_eq {option : CacheOption} (h : Prepared area sector option c c')
    (hread : option.noRead = false) : c'.view area = c.view area :=
  funext fun t => h.view t (.inr hread)

/-- A sector that is written over whole. -/
theorem copy_whole (x src : Sector) : Memory.copy x 0 src.toList = src := by
  refine Vector.ext fun i hi => ?_
  show (Memory.copy x 0 src.toList).get ⟨i, hi⟩ = src[i]
  have hlen : i < src.toList.length := by rwa [Vector.length_toList]
  rw [Memory.get_copy, if_pos (Nat.zero_le i), Nat.sub_zero, List.getElem?_eq_getElem hlen,
    Option.getD_some, Vector.getElem_toList]

theorem perform_meets (hc : c.Coherent area) {call : CacheCall} (hcall : call.Proper area) :
    (perform area call).Meets
      (fun r c' => c'.Coherent area ∧ r = call.answer (c.view area) ∧
        c'.view area = call.effect (c.view area))
      (fun c' => c'.Coherent area ∧ ∀ t, call.writesPast = false ∨ t < call.range.1 ∨
        call.range.1 + call.range.2 ≤ t → c'.view area t = c.view area t) c := by
  have hsame : ∀ c', Failed area c c' → c'.Coherent area ∧ ∀ t, call.writesPast = false ∨
      t < call.range.1 ∨ call.range.1 + call.range.2 ≤ t → c'.view area t = c.view area t :=
    fun c' h => ⟨h.coherent, fun t _ => congrFun h.view t⟩
  cases call with
  | read sector =>
    have hs : area.UsableRange sector 1 := hcall.usable
    unfold perform
    rw [meets_bind]
    refine (prepareIn_meets hc hs fun h => absurd h Bool.false_ne_true).mono
      (fun _ c₁ hprep => ?_) hsame
    have hview := hprep.view_eq rfl
    refine ⟨hprep.coherent, ?_, hview⟩
    have hheld := view_held (c := c₁) (hprep.held ▸ Usable.of_range hs)
    rw [hprep.held, hview] at hheld
    exact congrArg (fun x => [x]) hheld.symm
  | modify sector offset bytes =>
    have hs : area.UsableRange sector 1 := hcall.usable
    unfold perform
    rw [meets_bind]
    refine (prepareIn_meets hc hs fun h => absurd h Bool.false_ne_true).mono
      (fun _ c₁ hprep => ?_) hsame
    obtain ⟨hcoh, hview⟩ := hprep.store hs rfl offset bytes
    rw [hprep.view_eq rfl] at hview
    exact ⟨hcoh, rfl, hview⟩
  | reserve sector src =>
    have hs : area.UsableRange sector 1 := hcall.usable
    unfold perform
    rw [meets_bind]
    refine (prepareIn_meets hc hs fun _ => rfl).mono (fun _ c₁ hprep => ?_) hsame
    obtain ⟨hcoh, hview⟩ := hprep.store hs rfl 0 src.toList
    refine ⟨hcoh, rfl, hview.trans ?_⟩
    rw [copy_whole]
    funext t
    refine Memory.write_congr fun ht => hprep.view t (.inl ?_)
    rintro rfl
    rw [List.length_singleton] at ht
    omega
  | safeRead sector =>
    have hs : area.UsableRange sector 1 := hcall.usable
    unfold perform
    rw [meets_bind]
    refine (cacheSafeRead_meets hc (Usable.of_range hs)).mono (fun x c₁ h => ?_) hsame
    obtain ⟨rfl, h⟩ := h
    exact ⟨h.coherent, rfl, h.view⟩
  | safeReads sector count =>
    refine (cacheSafeReads_meets hc hcall.usable).mono (fun vs c₁ h => ?_) hsame
    obtain ⟨rfl, h⟩ := h
    exact ⟨h.coherent, rfl, h.view⟩
  | safeWrite sector src =>
    have hs : area.UsableRange sector 1 := hcall.usable
    unfold perform
    rw [meets_bind]
    refine (cacheSafeWrite_meets hc (Usable.of_range hs) src).mono
      (fun _ c₁ h => ⟨h.coherent, rfl, h.view⟩) fun c₁ h => ?_
    obtain ⟨⟨x, h⟩, -⟩ := h
    refine ⟨h.coherent, fun t ht => ?_⟩
    rw [h.view]
    exact Memory.write_outside _ (ht.resolve_left fun hf => absurd hf.symm Bool.false_ne_true)
  | safeWrites sector src =>
    unfold perform
    rw [meets_bind]
    refine (cacheSafeWrites_meets hc hcall.usable).mono
      (fun _ c₁ h => ⟨h.coherent, rfl, h.view⟩) fun c₁ h => ?_
    obtain ⟨⟨vs, hlen, h⟩, -⟩ := h
    refine ⟨h.coherent, fun t ht => ?_⟩
    rw [h.view]
    have hout := ht.resolve_left fun hf => absurd hf.symm Bool.false_ne_true
    exact Memory.write_outside _ (hlen ▸ hout)
  | sync =>
    unfold perform
    rw [meets_bind]
    exact (sync_meets hc).mono (fun _ c₁ h => ⟨h.1.coherent, rfl, h.1.view⟩) hsame
  | clear =>
    unfold perform
    rw [meets_bind]
    exact (clear_meets hc).mono (fun _ c₁ h => ⟨h.coherent, rfl, h.view⟩) hsame

theorem after_coherent (hc : c.Coherent area) {call : CacheCall} (hcall : call.Proper area) :
    (after area c call).Coherent area :=
  ((perform_meets hc hcall).mono (fun _ _ h => h.1) fun _ h => h.1).after

/-- **The cache is a memory.** In every run of calls, whatever the device does to
them, a call that succeeds returns what the sectors in view hold and changes them as
it should, and a call that fails leaves them alone, but for those it was to write
past the cache. -/
theorem cache_transparent (area : FatArea) {c : FsCache} (hc : c.Coherent area)
    (calls : List {call : CacheCall // call.Proper area}) :
    EventRun.EachStep (fun c call => after area c call.1)
      (fun c call => Transparent area c call.1) c calls :=
  EventRun.EachStep.of_invariant (J := Coherent area)
    (fun _ call h => ⟨(perform_meets h call.2).mono (fun _ _ h => h.2) fun _ h => h.2,
      after_coherent h call.2⟩) hc calls

/-! A card with tables of one sector each, and a cache that holds nothing yet. -/

def smallArea : FatArea := { start := 1, size := 1, fits := by decide }

def emptyCache (onRead onWrite : ℕ → Answer) : FsCache where
  statusDirty := false
  statusMirrorFat := false
  blockDev :=
    { disk := fun _ => Vector.replicate 512 0, calls := 0, onRead, onWrite,
      onSync := fun _ => true }
  sector := noSector
  mirrorOffset := 1
  buffer := Vector.replicate 512 0

theorem emptyCache_coherent (onWrite : ℕ → Answer) :
    (emptyCache (fun _ => .done) onWrite).Coherent smallArea where
  quiet _ _ h := Answer.noConfusion h
  clean _ h := absurd rfl h
  front := .inl rfl
  offset := rfl
  mirror h := absurd h Bool.false_ne_true

/-- A change to the first table, and its writing back. -/
def tableCalls : List {call : CacheCall // call.Proper smallArea} :=
  [⟨.modify 1 4 [7], ⟨by decide, by decide⟩, fun h => absurd h Bool.false_ne_true⟩,
    ⟨.sync, ⟨by decide, by decide⟩, fun h => absurd h Bool.false_ne_true⟩]

theorem cache_transparent_table :
    EventRun.EachStep (fun c call => after smallArea c call.1)
      (fun c call => Transparent smallArea c call.1)
      (emptyCache (fun _ => .done) fun _ => .refused) tableCalls :=
  cache_transparent smallArea (emptyCache_coherent _) tableCalls

/-! ## The two tables -/

/-- The tables differ at most in the held sector, and only while it is known to be
changed and to have two copies. -/
structure Mirrored (area : FatArea) (c : FsCache) : Prop where
  marked : c.statusDirty = true → area.First c.sector → c.statusMirrorFat = true
  copied : ∀ s, area.First s → (s = c.sector → c.statusDirty = false) →
    c.blockDev.disk (s + area.size) = c.blockDev.disk s

theorem Mirrored.wrote (hm : Mirrored area c) (hdirty : c.statusDirty = true) {t : ℕ}
    (hs : ∀ s, area.First s → s ≠ c.sector → s ≠ t ∧ s + area.size ≠ t) (x : Sector) :
    Mirrored area (c.wrote t x) := by
  refine ⟨hm.marked, fun s hfirst hheld => ?_⟩
  have hne : s ≠ c.sector := fun heq =>
    absurd (hdirty.symm.trans (hheld heq)).symm Bool.false_ne_true
  obtain ⟨h₁, h₂⟩ := hs s hfirst hne
  refine (Memory.write_ne _ _ h₂).trans (Eq.trans ?_ (Memory.write_ne _ _ h₁).symm)
  exact hm.copied s hfirst fun heq => absurd heq hne

/-- A sector of the first table is not one of the second. -/
theorem second_of_first {s : ℕ} (h : area.First s) : area.Second (s + area.size) := by
  obtain ⟨hlo, hhi⟩ := h
  exact ⟨by omega, by omega⟩

theorem Coherent.sector_ne_second (hc : c.Coherent area) {s : ℕ} (h : area.First s) :
    s + area.size ≠ c.sector := by
  have hsecond := second_of_first h
  have hfits := area.fits
  obtain ⟨hlo, hhi⟩ := h
  rcases hc.front with hnone | hu
  · omega
  · exact fun heq => hu.2 (heq ▸ hsecond)

theorem sync_mirrored (hc : c.Coherent area) (hm : Mirrored area c) :
    sync.Meets (fun _ c' => Mirrored area c') (Mirrored area) c := by
  unfold sync
  rw [meets_bind, meets_state, meets_given]
  refine ⟨fun hdirty => ?_, fun _ => hm⟩
  have hfirst := hm.wrote hdirty (t := c.sector)
    fun s h hne => ⟨hne, hc.sector_ne_second h⟩
  rw [meets_bind]
  refine (deviceWrite_meets _ _ c).mono ?_ ?_
  · rintro - c₁ rfl
    rw [meets_bind, meets_given]
    refine ⟨fun hmirror => ?_, fun hplain => ?_⟩
    · have htable := hc.mirror hmirror
      rw [(hc.second hmirror).1]
      have hsecond := (hfirst c.buffer).wrote hdirty (t := c.sector + area.size)
        fun s h hne => by
          obtain ⟨hlo, hhi⟩ := h
          have hlo' := htable.1
          exact ⟨by omega, fun heq => hne (Nat.add_right_cancel heq)⟩
      refine (deviceWrite_meets _ _ _).mono ?_ ?_
      · rintro - c₂ rfl
        refine ⟨fun h => absurd h Bool.false_ne_true, fun s h _ => ?_⟩
        by_cases heq : s = c.sector
        · subst heq
          have hne : c.sector ≠ c.sector + area.size := by
            have hlt := htable.2
            have hle := htable.1
            omega
          exact (Memory.write_self _ _ _).trans
            (((Memory.write_ne _ _ hne).trans (Memory.write_self _ _ _)).symm)
        · exact (hsecond c.buffer).copied s h fun h' => absurd h' heq
      · rintro c₂ ⟨⟨x, rfl, -⟩, -⟩
        exact hsecond x
    · refine ⟨fun h => absurd h Bool.false_ne_true, fun s h _ => ?_⟩
      refine (hfirst c.buffer).copied s h fun heq => ?_
      subst heq
      exact absurd ((hm.marked hdirty h).symm.trans hplain).symm Bool.false_ne_true
  · rintro c₁ ⟨⟨x, rfl, -⟩, -⟩
    exact hfirst x

/-- What the tables are like depends on the device's sectors and the status. -/
theorem Mirrored.held (hm : Mirrored area c) (hdisk : c'.blockDev.disk = c.blockDev.disk)
    (hmarked : c'.statusDirty = true → area.First c'.sector → c'.statusMirrorFat = true)
    (hstill : c.statusDirty = true → c'.sector = c.sector ∧ c'.statusDirty = true) :
    Mirrored area c' := by
  refine ⟨hmarked, fun s h hheld => ?_⟩
  rw [hdisk]
  refine hm.copied s h fun heq => ?_
  by_contra hdirty
  obtain ⟨hsector, hdirty'⟩ := hstill (by simpa using hdirty)
  exact absurd (hdirty'.symm.trans (hheld (heq.trans hsector.symm))).symm Bool.false_ne_true

theorem prepareIn_mirrored (hc : c.Coherent area) (hm : Mirrored area c) (sector : ℕ)
    (option : CacheOption) :
    (prepareIn area sector option).Meets (fun _ c' => Mirrored area c') (Mirrored area) c := by
  unfold prepareIn prepare
  rw [meets_bind, meets_state, meets_bind, meets_given]
  refine ⟨fun _ => ?_, fun heq => ?_⟩
  · rw [meets_bind]
    refine ((sync_meets hc).and (sync_mirrored hc hm)).mono (fun _ c₁ h => ?_) fun _ h => h.2
    obtain ⟨⟨hsame, hclean, -⟩, hm₁⟩ := h
    have htake : ∀ c₂ : FsCache, c₂.blockDev.disk = c₁.blockDev.disk →
        Mirrored area
          { c₂ with
            statusDirty := false || option.dirty
            statusMirrorFat := false || decide (area.First sector)
            sector } := fun c₂ hdisk =>
      hm₁.held hdisk (fun _ h => by simpa using h)
        fun h => absurd (h.symm.trans hclean).symm Bool.false_ne_true
    rw [meets_bind, meets_given]
    refine ⟨fun _ => ?_, fun _ => htake c₁ rfl⟩
    refine (deviceFill_meets hsame.coherent sector).mono ?_ ?_
    · rintro - c₂ rfl
      exact htake { c₁.asked with buffer := c₁.blockDev.disk sector } rfl
    · rintro c₂ ⟨rfl, -⟩
      exact hm₁.held rfl hm₁.marked fun h => ⟨rfl, h⟩
  · have hheld : c.sector = sector := by simpa using heq
    refine hm.held rfl (fun _ h => ?_) fun h => ⟨rfl, Bool.or_eq_true_iff.mpr (.inl h)⟩
    refine Bool.or_eq_true_iff.mpr (.inr (decide_eq_true ?_))
    rwa [← hheld]

/-- Writing elsewhere than to the tables. -/
theorem Mirrored.rewrote (hm : Mirrored area c) {sector : ℕ} {vs : List Sector}
    (hs : ∀ i < vs.length, ¬ area.First (sector + i) ∧ ¬ area.Second (sector + i)) (k : ℕ)
    {c₁ : FsCache} (hc₁ : c₁ = c ∨
      c₁ = c.invalidate ∧ sector ≤ c.sector ∧ c.sector < sector + vs.length) :
    Mirrored area { c₁ with blockDev := { c₁.blockDev with
      calls := k, disk := Memory.write c₁.blockDev.disk sector vs } } := by
  have hout : ∀ s, area.First s ∨ area.Second s → s < sector ∨ sector + vs.length ≤ s := by
    intro s h
    by_contra hin
    obtain ⟨i, rfl⟩ := Nat.exists_eq_add_of_le (show sector ≤ s by omega)
    exact h.elim (hs i (by omega)).1 (hs i (by omega)).2
  have hdisk : ∀ s, area.First s → (s = c.sector → c.statusDirty = false) →
      Memory.write c.blockDev.disk sector vs (s + area.size) =
        Memory.write c.blockDev.disk sector vs s := by
    intro s h hheld
    rw [Memory.write_outside _ (hout s (.inl h)),
      Memory.write_outside _ (hout _ (.inr (second_of_first h)))]
    exact hm.copied s h hheld
  rcases hc₁ with rfl | ⟨rfl, hlo, hhi⟩
  · exact ⟨hm.marked, hdisk⟩
  · refine ⟨fun h => absurd h Bool.false_ne_true, fun s h _ => hdisk s h fun heq => ?_⟩
    have hs' := hout s (.inl h)
    omega

/-- No call parts the tables, whatever the device does to it. -/
theorem perform_mirrored (hc : c.Coherent area) (hm : Mirrored area c) {call : CacheCall}
    (hcall : call.Proper area) : Mirrored area (after area c call) := by
  refine Meets.after ?_
  cases call with
  | read sector =>
    unfold perform
    rw [meets_bind]
    exact (prepareIn_mirrored hc hm sector _).mono (fun _ _ h => h) fun _ h => h
  | modify sector offset bytes =>
    unfold perform
    rw [meets_bind]
    exact (prepareIn_mirrored hc hm sector _).mono (fun _ _ h => ⟨h.marked, h.copied⟩) fun _ h => h
  | reserve sector src =>
    unfold perform
    rw [meets_bind]
    exact (prepareIn_mirrored hc hm sector _).mono (fun _ _ h => ⟨h.marked, h.copied⟩) fun _ h => h
  | safeRead sector =>
    unfold perform cacheSafeRead
    rw [meets_bind, meets_bind, meets_state]
    split
    · exact hm
    · refine (deviceRead_meets hc sector).mono ?_ ?_
      · rintro x c₁ ⟨-, rfl⟩
        exact hm.held rfl hm.marked fun h => ⟨rfl, h⟩
      · rintro c₁ ⟨rfl, -⟩
        exact hm.held rfl hm.marked fun h => ⟨rfl, h⟩
  | safeReads sector count =>
    have hread : ∀ c₁ : FsCache, c₁.Coherent area → Mirrored area c₁ →
        (deviceReads sector count).Meets (fun _ c' => Mirrored area c') (Mirrored area) c₁ := by
      intro c₁ hc₁ hm₁
      obtain ⟨⟨k, hk⟩, -⟩ := readSectors_spec hc₁.quiet sector count
      have hafter : Mirrored area { c₁ with blockDev := { c₁.blockDev with calls := k } } :=
        hm₁.held rfl hm₁.marked fun h => ⟨rfl, h⟩
      rw [← hk] at hafter
      exact Meets.intro rfl (fun _ _ => hafter) fun _ => hafter
    unfold perform cacheSafeReads
    rw [meets_bind, meets_state, meets_bind, meets_given]
    refine ⟨fun _ => ?_, fun _ => hread c hc hm⟩
    exact ((sync_meets hc).and (sync_mirrored hc hm)).mono
      (fun _ c₁ h => hread c₁ h.1.1.coherent h.2) fun _ h => h.2
  | safeWrite sector src =>
    have hout : ∀ i < 1, ¬ area.First (sector + i) ∧ ¬ area.Second (sector + i) :=
      fun i hi => ⟨hcall.table rfl i hi, hcall.usable.2 i hi⟩
    have hwrite : ∀ c₁ : FsCache, (c₁ = c ∨
        c₁ = c.invalidate ∧ sector ≤ c.sector ∧ c.sector < sector + 1) →
        (deviceWrite sector src).Meets (fun _ c' => Mirrored area c') (Mirrored area) c₁ := by
      intro c₁ hc₁
      have hdone : ∀ x, Mirrored area (c₁.wrote sector x) := fun x =>
        hm.rewrote (show ∀ i < [x].length, _ from hout) (c₁.blockDev.calls + 1) hc₁
      refine (deviceWrite_meets sector src c₁).mono (fun _ _ h => h ▸ hdone src) ?_
      rintro c₂ ⟨⟨x, rfl, -⟩, -⟩
      exact hdone x
    unfold perform cacheSafeWrite
    rw [meets_bind, meets_bind, meets_state, meets_bind, meets_given]
    refine ⟨fun hin => hwrite c.invalidate (.inr ⟨rfl, ?_⟩), fun _ => hwrite c (.inl rfl)⟩
    have heq : sector = c.sector := by simpa [isCached] using hin
    omega
  | safeWrites sector src =>
    have hwrite : ∀ c₁ : FsCache, (c₁ = c ∨
        c₁ = c.invalidate ∧ sector ≤ c.sector ∧ c.sector < sector + src.length) →
        (deviceWrites sector src).Meets (fun _ c' => Mirrored area c') (Mirrored area) c₁ := by
      intro c₁ hc₁
      obtain ⟨k, vs, hlen, hstate, -, -⟩ := writeSectors_spec c₁.blockDev sector src
      have hout : ∀ i < vs.length, ¬ area.First (sector + i) ∧ ¬ area.Second (sector + i) := by
        intro i hi
        rw [hlen] at hi
        exact ⟨hcall.table rfl i hi, hcall.usable.2 i hi⟩
      rw [← hlen] at hc₁
      have hdone := hm.rewrote hout k hc₁
      rw [← hstate] at hdone
      exact Meets.intro rfl (fun _ _ => hdone) fun _ => hdone
    have hmod : (sector + src.length) % 2 ^ 32 = sector + src.length := by
      have hlim : sector + src.length ≤ 0xFFFFFFFF := hcall.usable.1
      exact Nat.mod_eq_of_lt (by omega)
    unfold perform cacheSafeWrites
    rw [meets_bind, meets_bind, meets_state, meets_bind, meets_given, isCachedRange, hmod]
    refine ⟨fun hin => hwrite c.invalidate (.inr ⟨rfl, ?_⟩), fun _ => hwrite c (.inl rfl)⟩
    simpa using hin
  | sync =>
    unfold perform
    rw [meets_bind]
    exact (sync_mirrored hc hm).mono (fun _ _ h => h) fun _ h => h
  | clear =>
    have hclear : ∀ c₁ : FsCache, Mirrored area c₁ → c₁.statusDirty = false →
        Mirrored area c₁.invalidate := fun c₁ hm₁ hclean =>
      hm₁.held rfl (fun h => absurd h Bool.false_ne_true)
        fun h => absurd (h.symm.trans hclean).symm Bool.false_ne_true
    unfold perform clear
    rw [meets_bind, meets_bind, meets_state, meets_bind, meets_given]
    refine ⟨fun _ => ?_, hclear c hm⟩
    exact ((sync_meets hc).and (sync_mirrored hc hm)).mono
      (fun _ c₁ h => hclear c₁ h.2 h.1.2.1) fun _ h => h.2

/-- **What is in view reaches the device.** After any run of calls, a `sync` that
succeeds leaves every sector in view on the device, and the two tables the same. -/
theorem sync_reaches_device (area : FatArea) {c : FsCache} (hc : c.Coherent area)
    (hm : Mirrored area c) (calls : List {call : CacheCall // call.Proper area}) :
    let d := EventRun.run (fun c (call : {call : CacheCall // call.Proper area}) =>
      after area c call.1) c calls
    (perform area .sync d).1.isSome = true →
      (∀ s, area.Usable s → (after area d .sync).blockDev.disk s = d.view area s) ∧
      ∀ s, area.First s → (after area d .sync).blockDev.disk (s + area.size) =
        (after area d .sync).blockDev.disk s := by
  intro d
  have hkeep : d.Coherent area ∧ Mirrored area d :=
    EventRun.run_keeps (P := fun c => c.Coherent area ∧ Mirrored area c)
      (fun _ call h => ⟨after_coherent h.1 call.2, perform_mirrored h.1 h.2 call.2⟩) ⟨hc, hm⟩ calls
  intro hsome
  obtain ⟨r, hr⟩ := Option.isSome_iff_exists.mp hsome
  have hsync : (perform area .sync).Meets (fun _ c' => (Same area d c' ∧ c'.statusDirty = false ∧
      c'.sector = d.sector) ∧ Mirrored area c') (fun _ => True) d := by
    unfold perform
    rw [meets_bind]
    exact ((sync_meets hkeep.1).and (sync_mirrored hkeep.1 hkeep.2)).mono (fun _ _ h => h)
      fun _ _ => trivial
  obtain ⟨⟨hsame, hclean, -⟩, hm'⟩ := hsync.of_some (Prod.ext hr rfl)
  exact ⟨fun s hs => (hsame.coherent.view_clean hclean hs).symm.trans (congrFun hsame.view s),
    fun s hs => hm'.copied s hs fun _ => hclean⟩

theorem sync_reaches_device_table :
    let d := EventRun.run (fun c (call : {call : CacheCall // call.Proper smallArea}) =>
      after smallArea c call.1) (emptyCache (fun _ => .done) fun _ => .done) (tableCalls.take 1)
    (after smallArea d .sync).blockDev.disk 2 = (after smallArea d .sync).blockDev.disk 1 := by
  have hreach := sync_reaches_device smallArea (emptyCache_coherent fun _ => .done)
    ⟨fun h => absurd h Bool.false_ne_true, fun _ _ _ => rfl⟩ (tableCalls.take 1) rfl
  exact hreach.2 1 ⟨by decide, by decide⟩

/-! ## A read that spoils the buffer -/

theorem sync_clean (hclean : c.statusDirty = false) : sync c = (some (), c) := by
  unfold sync
  refine (bind_of_some rfl).trans ?_
  rw [given_of_false hclean]
  rfl

/-- The buffer is no longer the sector it is taken for. -/
theorem prepare_garbled {junk : Sector} {t : ℕ} {option : CacheOption} (hne : c.sector ≠ t)
    (hclean : c.statusDirty = false) (hread : option.noRead = false)
    (hspoil : c.blockDev.onRead c.blockDev.calls = .garbled junk) :
    prepare t option c = (none, { c.asked with buffer := junk }) := by
  have hfill : deviceFill t c = (none, { c.asked with buffer := junk }) := by
    unfold deviceFill FsBlockDevice.readSector
    rw [hspoil]
    rfl
  unfold prepare
  refine (bind_of_some rfl).trans (bind_of_none ?_)
  rw [given_of_true (bne_iff_ne.mpr hne)]
  refine (bind_of_some (sync_clean hclean)).trans (bind_of_none ?_)
  rw [given_of_true (by rw [hread]; rfl)]
  exact hfill

/-- The held sector needs no device. -/
theorem prepare_held {option : CacheOption} (h : c.sector = sector) :
    (prepare sector option).Meets (fun _ c' => c'.sector = c.sector ∧ c'.buffer = c.buffer ∧
      c'.mirrorOffset = c.mirrorOffset ∧ (option.dirty = true → c'.statusDirty = true) ∧
      (c'.statusMirrorFat = true → c.statusMirrorFat = true ∨ option.mirrorFat
        = true)) (fun _ => False) c := by
  unfold prepare
  rw [meets_bind, meets_state, meets_bind, meets_given]
  refine ⟨fun hother => absurd h (by simpa using hother), fun _ => ?_⟩
  exact ⟨rfl, rfl, rfl, fun h => Bool.or_eq_true_iff.mpr (.inr h), Bool.or_eq_true_iff.mp⟩

/-- The held sector is what is written back. -/
theorem sync_writes (hdirty : c.statusDirty = true)
    (hfat : c.statusMirrorFat = true → (c.sector + c.mirrorOffset) % 2 ^ 32 ≠ c.sector) :
    sync.Meets (fun _ c' => c'.blockDev.disk c.sector = c.buffer) (fun _ => True) c := by
  unfold sync
  rw [meets_bind, meets_state, meets_given]
  refine ⟨fun _ => ?_, fun hclean => absurd (hdirty.symm.trans hclean).symm Bool.false_ne_true⟩
  rw [meets_bind]
  refine (deviceWrite_meets _ _ c).mono ?_ fun _ _ => trivial
  rintro - c₁ rfl
  rw [meets_bind, meets_given]
  refine ⟨fun hmirror => ?_, fun _ => Memory.write_self _ _ _⟩
  refine (deviceWrite_meets _ _ _).mono ?_ fun _ _ => trivial
  rintro - c₂ rfl
  exact (Memory.write_ne _ _ (hfat hmirror).symm).trans (Memory.write_self _ _ _)

/-- The cache, had it a device whose reads do not fail. -/
def trusting (c : FsCache) : FsCache :=
  { c with blockDev := { c.blockDev with onRead := fun _ => .done } }

/-- **A spoilt buffer spreads.** If a read that fails spoils the buffer, the sector
that was held reads as what was left there, and a change to it that is written back
writes that over it. -/
theorem garbled_read_spreads (area : FatArea) (c : FsCache) (hc : c.trusting.Coherent area)
    (hclean : c.statusDirty = false) {t : ℕ} (hne : c.sector ≠ t) {junk : Sector}
    (hspoil : c.blockDev.onRead c.blockDev.calls = .garbled junk) (offset : ℕ)
    (bytes : List UInt8) :
    let c₁ := after area c (.read t)
    let c₂ := after area c₁ (.modify c.sector offset bytes)
    (perform area (.read t) c).1 = none ∧
      (perform area (.read c.sector) c₁).1 = some [junk] ∧
      ((perform area .sync c₂).1.isSome = true →
        (after area c₂ .sync).blockDev.disk c.sector = Memory.copy junk offset bytes) := by
  intro c₁ c₂
  have hfail : perform area (.read t) c = (none, { c.asked with buffer := junk }) :=
    bind_of_none (prepare_garbled hne hclean rfl hspoil)
  have hc₁ : c₁ = { c.asked with buffer := junk } := congrArg Prod.snd hfail
  refine ⟨congrArg Prod.fst hfail, ?_, fun hsome => ?_⟩
  · have hread : (perform area (.read c.sector)).Meets (fun r _ => r = [junk]) (fun _ => False)
        c₁ := by
      unfold perform prepareIn
      rw [meets_bind, hc₁]
      refine (prepare_held rfl).mono (fun _ c' h => ?_) fun _ h => h
      exact congrArg (fun x => [x]) h.2.1
    rcases hr : perform area (.read c.sector) c₁ with ⟨_ | r, c'⟩
    · exact (hread.of_none hr).elim
    · exact congrArg some (hread.of_some hr)
  · have hmodify : (perform area (.modify c.sector offset bytes)).Meets
        (fun _ c' => c'.sector = c.sector ∧ c'.buffer = Memory.copy junk offset bytes ∧
          c'.mirrorOffset = c.mirrorOffset ∧ c'.statusDirty = true ∧
          (c'.statusMirrorFat = true → area.First c.sector)) (fun _ => False) c₁ := by
      unfold perform prepareIn
      rw [meets_bind, hc₁]
      refine (prepare_held rfl).mono (fun _ c' h => ?_) fun _ h => h
      obtain ⟨hsector, hbuffer, hoffset, hdirty, hmirror⟩ := h
      refine ⟨hsector, ?_, hoffset, hdirty rfl, fun h => ?_⟩
      · exact congrArg (fun x => Memory.copy x offset bytes) hbuffer
      · exact (hmirror h).elim hc.mirror of_decide_eq_true
    have hc₂ : c₂.sector = c.sector ∧ c₂.buffer = Memory.copy junk offset bytes ∧
        c₂.mirrorOffset = c.mirrorOffset ∧ c₂.statusDirty = true ∧
        (c₂.statusMirrorFat = true → area.First c.sector) :=
      (hmodify.mono (fun _ _ h => h) fun _ h => h.elim).after
    obtain ⟨hsector, hbuffer, hoffset, hdirty, hmirror⟩ := hc₂
    have hsync : (perform area .sync).Meets
        (fun _ c' => c'.blockDev.disk c₂.sector = c₂.buffer) (fun _ => True) c₂ := by
      unfold perform
      rw [meets_bind]
      refine (sync_writes hdirty fun h => ?_).mono (fun _ _ h => h) fun _ h => h
      obtain ⟨hlo, hhi⟩ := hmirror h
      have hsize : c.mirrorOffset = area.size := hc.offset
      have hfits : area.start + 2 * area.size ≤ 0xFFFFFFFF := area.fits
      rw [hsector, hoffset, hsize, Nat.mod_eq_of_lt (by omega)]
      omega
    obtain ⟨r, hr⟩ := Option.isSome_iff_exists.mp hsome
    have hdisk := hsync.of_some (Prod.ext hr rfl)
    rw [hsector, hbuffer] at hdisk
    exact hdisk

/-- Sector 9 is held, and the next read fails its check. Two bytes of sector 9 are then
changed, and the rest of it is lost. -/
theorem garbled_read_spreads_change :
    let c : FsCache := { emptyCache (fun _ => .garbled (Vector.replicate 512 0xA5)) (fun _ => .done)
      with sector := 9 }
    let c₁ := after smallArea c (.read 10)
    let c₂ := after smallArea c₁ (.modify 9 4 [0x12, 0x34])
    (after smallArea c₂ .sync).blockDev.disk 9 =
      Memory.copy (Vector.replicate 512 0xA5) 4 [0x12, 0x34] := by
  intro c c₁ c₂
  have hc : c.trusting.Coherent smallArea :=
    { quiet := fun _ _ h => Answer.noConfusion h
      clean := fun _ _ => rfl
      front := .inr ⟨by decide, by decide⟩
      offset := rfl
      mirror := fun h => absurd h Bool.false_ne_true }
  have hspread := garbled_read_spreads smallArea c hc rfl (show c.sector ≠ 10 by decide) rfl 4
    [0x12, 0x34]
  exact hspread.2.2 rfl

end FsCache

end Heimdall
