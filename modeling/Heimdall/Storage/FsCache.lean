import Heimdall.Lib.Fallible
import Heimdall.Lib.Memory
import Heimdall.Storage.SdSpi
import Mathlib.Algebra.Order.Group.Nat

/-!
# The sector cache

Everything the file system knows of the card goes through one sector of memory.
`FsCache` holds a sector, whether it has been changed since it was read, and whether
it belongs to the file allocation table, of which the card keeps two copies:
writing such a sector back writes both.

`view` is the card as the file system sees it, the held sector over the sectors of
the device. The cache is `Coherent` while a sector it holds unchanged is the
device's. Then nothing the cache does on its own account can be seen
(`sync_meets`, `prepare_meets`), a sector that is asked for is the one in view, and
what is written is what comes into view, whatever the device does to the calls it
fails: refuse them, or spoil the block that was to be written.

One thing is asked of the device, that a read that fails leaves the buffer as it
was (`quiet`). `prepare` reads the new sector into the buffer before it has given up
the old one, and gives up the old one only if the read succeeds
(`prepare_garbled`).
-/

namespace Heimdall

/-! ## The device -/

/-- What becomes of a block the device is asked to move: it may fail to, and may
spoil the place it was to go to. -/
inductive Answer where
  | done
  | refused
  | garbled (junk : Sector)

/-- A block device, with what it will do to each block it is asked for. -/
structure FsBlockDevice where
  disk : ℕ → Sector
  calls : ℕ
  onRead : ℕ → Answer
  onWrite : ℕ → Answer
  onSync : ℕ → Bool

namespace FsBlockDevice

def called (d : FsBlockDevice) : FsBlockDevice := { d with calls := d.calls + 1 }

/-- The result, and what is in `dst` afterwards. -/
def readSector (sector : ℕ) (dst : Sector) (d : FsBlockDevice) : Bool × Sector × FsBlockDevice :=
  match d.onRead d.calls with
  | .done => (true, d.disk sector, d.called)
  | .refused => (false, dst, d.called)
  | .garbled junk => (false, junk, d.called)

def writeSector (sector : ℕ) (src : Sector) (d : FsBlockDevice) : Bool × FsBlockDevice :=
  match d.onWrite d.calls with
  | .done => (true, { d.called with disk := Memory.write d.disk sector [src] })
  | .refused => (false, d.called)
  | .garbled junk => (false, { d.called with disk := Memory.write d.disk sector [junk] })

/-- Block by block, up to the first that fails. -/
def readSectors (sector : ℕ) : ℕ → FsBlockDevice → Option (List Sector) × FsBlockDevice
  | 0, d => (some [], d)
  | count + 1, d =>
    let r := d.readSector sector (Vector.replicate 512 0)
    if r.1 then
      let rest := readSectors (sector + 1) count r.2.2
      (rest.1.map (r.2.1 :: ·), rest.2)
    else (none, r.2.2)

def writeSectors (sector : ℕ) : List Sector → FsBlockDevice → Bool × FsBlockDevice
  | [], d => (true, d)
  | src :: rest, d =>
    let r := d.writeSector sector src
    if r.1 then writeSectors (sector + 1) rest r.2 else (false, r.2)

def syncDevice (d : FsBlockDevice) : Bool × FsBlockDevice := (d.onSync d.calls, d.called)

end FsBlockDevice

/-! ## The cache -/

/-- The options of `prepare`: the two status bits, and whether the sector is read. -/
structure CacheOption where
  dirty : Bool
  mirrorFat : Bool
  noRead : Bool

namespace CacheOption

def forRead : CacheOption := { dirty := false, mirrorFat := false, noRead := false }
def forWrite : CacheOption := { forRead with dirty := true }
def reserveForWrite : CacheOption := { forWrite with noRead := true }

end CacheOption

/-- `m_sector` of a cache that holds none. -/
def noSector : ℕ := 0xFFFFFFFF

/-- `m_status` is its two bits. -/
structure FsCache where
  statusDirty : Bool
  statusMirrorFat : Bool
  blockDev : FsBlockDevice
  sector : ℕ
  mirrorOffset : ℕ
  buffer : Sector

namespace FsCache

open Fallible

def invalidate (c : FsCache) : FsCache :=
  { c with statusDirty := false, statusMirrorFat := false, sector := noSector }

def init (blockDev : FsBlockDevice) (c : FsCache) : FsCache := { c with blockDev }.invalidate

def isCached (c : FsCache) (sector : ℕ) : Bool := sector == c.sector

def isCachedRange (c : FsCache) (sector count : ℕ) : Bool :=
  decide (sector ≤ c.sector) && decide (c.sector < (sector + count) % 2 ^ 32)

/-- Asking the device for a block. -/
def deviceRead (sector : ℕ) : Fallible FsCache Sector := fun c =>
  let r := c.blockDev.readSector sector (Vector.replicate 512 0)
  (if r.1 then some r.2.1 else none, { c with blockDev := r.2.2 })

/-- Asking it for a block to be put in the buffer. -/
def deviceFill (sector : ℕ) : Fallible FsCache Unit := fun c =>
  let r := c.blockDev.readSector sector c.buffer
  (if r.1 then some () else none, { c with blockDev := r.2.2, buffer := r.2.1 })

def deviceReads (sector count : ℕ) : Fallible FsCache (List Sector) := fun c =>
  let r := c.blockDev.readSectors sector count
  (r.1, { c with blockDev := r.2 })

def deviceWrite (sector : ℕ) (src : Sector) : Fallible FsCache Unit := fun c =>
  let r := c.blockDev.writeSector sector src
  (if r.1 then some () else none, { c with blockDev := r.2 })

def deviceWrites (sector : ℕ) (src : List Sector) : Fallible FsCache Unit := fun c =>
  let r := c.blockDev.writeSectors sector src
  (if r.1 then some () else none, { c with blockDev := r.2 })

def syncDevice : Fallible FsCache Unit := fun c =>
  let r := c.blockDev.syncDevice
  (if r.1 then some () else none, { c with blockDev := r.2 })

/-- Writes the sector back if it has been changed, and to the second table as well
if it is one of the first. -/
def sync : Fallible FsCache Unit := do
  let c ← state
  given c.statusDirty do
    deviceWrite c.sector c.buffer
    given c.statusMirrorFat (deviceWrite ((c.sector + c.mirrorOffset) % 2 ^ 32) c.buffer)
    change fun c => { c with statusDirty := false }

/-- Makes `sector` the one that is held. -/
def prepare (sector : ℕ) (option : CacheOption) : Fallible FsCache Unit := do
  let c ← state
  given (c.sector != sector) do
    sync
    given (!option.noRead) (deviceFill sector)
    change fun c => { c with statusDirty := false, statusMirrorFat := false, sector }
  change fun c =>
    { c with
      statusDirty := c.statusDirty || option.dirty
      statusMirrorFat := c.statusMirrorFat || option.mirrorFat }

/-- What a caller does to the buffer it was given. -/
def store (offset : ℕ) (bytes : List UInt8) : Fallible FsCache Unit :=
  change fun c => { c with buffer := Memory.copy c.buffer offset bytes }

def cacheSafeRead (sector : ℕ) : Fallible FsCache Sector := do
  let c ← state
  if c.isCached sector then pure c.buffer else deviceRead sector

def cacheSafeReads (sector count : ℕ) : Fallible FsCache (List Sector) := do
  let c ← state
  given (c.isCachedRange sector count) sync
  deviceReads sector count

def cacheSafeWrite (sector : ℕ) (src : Sector) : Fallible FsCache Unit := do
  let c ← state
  given (c.isCached sector) (change invalidate)
  deviceWrite sector src

def cacheSafeWrites (sector : ℕ) (src : List Sector) : Fallible FsCache Unit := do
  let c ← state
  given (c.isCachedRange sector src.length) (change invalidate)
  deviceWrites sector src

def clear : Fallible FsCache Unit := do
  let c ← state
  given c.statusDirty sync
  change invalidate

end FsCache

/-! ## What the file system sees -/

/-- Where the card keeps its two tables. -/
structure FatArea where
  start : ℕ
  size : ℕ
  fits : start + 2 * size ≤ noSector

namespace FatArea

variable (area : FatArea)

/-- A sector of the first table. -/
def First (s : ℕ) : Prop := area.start ≤ s ∧ s < area.start + area.size

/-- A sector of the second, which is written and never read. -/
def Second (s : ℕ) : Prop := area.start + area.size ≤ s ∧ s < area.start + 2 * area.size

instance : DecidablePred area.First := fun s =>
  inferInstanceAs (Decidable (area.start ≤ s ∧ s < area.start + area.size))

instance : DecidablePred area.Second := fun s =>
  inferInstanceAs (Decidable (area.start + area.size ≤ s ∧ s < area.start + 2 * area.size))

/-- A sector that may be asked for. -/
def Usable (s : ℕ) : Prop := s < noSector ∧ ¬ area.Second s

instance : DecidablePred area.Usable := fun s =>
  inferInstanceAs (Decidable (s < noSector ∧ ¬ area.Second s))

/-- Sectors that may be asked for at once. -/
def UsableRange (s count : ℕ) : Prop := s + count ≤ noSector ∧ ∀ i < count, ¬ area.Second (s + i)

end FatArea

namespace FsCache

variable {area : FatArea} {c c' c'' : FsCache} {s sector : ℕ} {src x : Sector}

theorem sector_pos : 0 < 512 := by decide

/-- The held sector over the device, with the second table left out. -/
def view (area : FatArea) (c : FsCache) : ℕ → Sector := fun s =>
  if area.Usable s then
    if s = c.sector then c.buffer else c.blockDev.disk s
  else Vector.replicate 512 0

theorem view_held (h : area.Usable c.sector) : c.view area c.sector = c.buffer := by
  unfold view
  rw [if_pos h, if_pos rfl]

theorem view_other (h : area.Usable s) (hs : s ≠ c.sector) :
    c.view area s = c.blockDev.disk s := by
  unfold view
  rw [if_pos h, if_neg hs]

theorem view_hidden (h : ¬ area.Usable s) : c.view area s = Vector.replicate 512 0 := if_neg h

/-- Two caches that show the same usable sectors show the same. -/
theorem view_ext (h : ∀ s, area.Usable s → c'.view area s = c.view area s) :
    c'.view area = c.view area := by
  funext s
  by_cases hs : area.Usable s
  · exact h s hs
  · rw [view_hidden hs, view_hidden hs]

/-- What is held unchanged is the device's. -/
structure Coherent (area : FatArea) (c : FsCache) : Prop where
  quiet : ∀ n junk, c.blockDev.onRead n ≠ .garbled junk
  clean : c.statusDirty = false → c.sector ≠ noSector → c.buffer = c.blockDev.disk c.sector
  front : c.sector = noSector ∨ area.Usable c.sector
  offset : c.mirrorOffset = area.size
  mirror : c.statusMirrorFat = true → area.First c.sector

/-- The device does all it is asked. -/
def Working (c : FsCache) : Prop :=
  ∀ n, c.blockDev.onRead n = .done ∧ c.blockDev.onWrite n = .done ∧ c.blockDev.onSync n = true

theorem Working.read (h : c.Working) {n : ℕ} {a : Answer} (ha : c.blockDev.onRead n = a)
    (hne : a ≠ .done) : False := hne (ha.symm.trans (h n).1)

theorem Working.write (h : c.Working) {n : ℕ} {a : Answer} (ha : c.blockDev.onWrite n = a)
    (hne : a ≠ .done) : False := hne (ha.symm.trans (h n).2.1)

/-- A block it fails to write it leaves alone. -/
def Atomic (c : FsCache) : Prop := ∀ n junk, c.blockDev.onWrite n ≠ .garbled junk

/-- A sector of the device is what it was, or what was in view. -/
def Flushed (area : FatArea) (c c' : FsCache) (s : ℕ) : Prop :=
  c'.blockDev.disk s = c.blockDev.disk s ∨ c'.blockDev.disk s = c.view area s

/-- Nothing the file system can see has changed. -/
structure Same (area : FatArea) (c c' : FsCache) : Prop where
  coherent : c'.Coherent area
  view : c'.view area = c.view area
  working : c.Working → c'.Working
  atomic : c.Atomic → c'.Atomic
  flushed : c.Atomic → ∀ s, area.Usable s → Flushed area c c' s

/-- Nothing has changed, and it is the device that failed. -/
structure Failed (area : FatArea) (c c' : FsCache) : Prop extends Same area c c' where
  broken : ¬ c.Working

theorem Coherent.same (h : c.Coherent area) : Same area c c :=
  ⟨h, rfl, id, id, fun _ _ _ => .inl rfl⟩

theorem Flushed.trans (h : Flushed area c c' s) (h' : Flushed area c' c'' s)
    (hview : c'.view area s = c.view area s) : Flushed area c c'' s := by
  rcases h' with hdisk | hnew
  · exact h.imp hdisk.trans hdisk.trans
  · exact .inr (hnew.trans hview)

theorem Same.trans (h : Same area c c') (h' : Same area c' c'') : Same area c c'' :=
  ⟨h'.coherent, h'.view.trans h.view, fun hw => h'.working (h.working hw),
    fun ha => h'.atomic (h.atomic ha), fun ha s hs =>
      (h.flushed ha s hs).trans (h'.flushed (h.atomic ha) s hs) (congrFun h.view s)⟩

theorem Same.failed (h : Same area c c') (h' : Failed area c' c'') : Failed area c c'' :=
  ⟨h.trans h'.toSame, fun hw => h'.broken (h.working hw)⟩

/-! ## Calls to the device -/

/-- The cache after a block of its device has become `x`. -/
def wrote (sector : ℕ) (x : Sector) (c : FsCache) : FsCache :=
  { c with
    blockDev := { c.blockDev.called with disk := Memory.write c.blockDev.disk sector [x] } }

def asked (c : FsCache) : FsCache := { c with blockDev := c.blockDev.called }

theorem deviceWrite_meets (sector : ℕ) (src : Sector) (c : FsCache) :
    (deviceWrite sector src).Meets (fun _ c' => c' = c.wrote sector src)
      (fun c' => (∃ x, c' = c.wrote sector x ∧ (c.Atomic → x = c.blockDev.disk sector)) ∧
        ¬ c.Working) c := by
  unfold Fallible.Meets deviceWrite FsBlockDevice.writeSector
  cases hanswer : c.blockDev.onWrite c.blockDev.calls with
  | done => rfl
  | refused =>
    refine ⟨⟨c.blockDev.disk sector, ?_, fun _ => rfl⟩,
      fun h => h.write hanswer Answer.noConfusion⟩
    have hsame : Memory.write c.blockDev.disk sector [c.blockDev.disk sector] = c.blockDev.disk :=
      Memory.write_read _ sector 1
    rw [wrote, hsame]
    rfl
  | garbled junk =>
    exact ⟨⟨junk, rfl, fun h => absurd hanswer (h _ junk)⟩,
      fun h => h.write hanswer Answer.noConfusion⟩

theorem deviceRead_meets (hc : c.Coherent area) (sector : ℕ) :
    (deviceRead sector).Meets (fun x c' => x = c.blockDev.disk sector ∧ c' = c.asked)
      (fun c' => c' = c.asked ∧ ¬ c.Working) c := by
  have hquiet := hc.quiet c.blockDev.calls
  unfold Fallible.Meets deviceRead FsBlockDevice.readSector
  cases hanswer : c.blockDev.onRead c.blockDev.calls with
  | done => exact ⟨rfl, rfl⟩
  | refused => exact ⟨rfl, fun h => h.read hanswer Answer.noConfusion⟩
  | garbled junk => exact absurd hanswer (hquiet junk)

theorem deviceFill_meets (hc : c.Coherent area) (sector : ℕ) :
    (deviceFill sector).Meets
      (fun _ c' => c' = { c.asked with buffer := c.blockDev.disk sector })
      (fun c' => c' = c.asked ∧ ¬ c.Working) c := by
  have hquiet := hc.quiet c.blockDev.calls
  unfold Fallible.Meets deviceFill FsBlockDevice.readSector
  cases hanswer : c.blockDev.onRead c.blockDev.calls with
  | done => rfl
  | refused => exact ⟨rfl, fun h => h.read hanswer Answer.noConfusion⟩
  | garbled junk => exact absurd hanswer (hquiet junk)

theorem Coherent.asked (hc : c.Coherent area) : Same area c c.asked :=
  ⟨⟨hc.quiet, hc.clean, hc.front, hc.offset, hc.mirror⟩, rfl, id, id, fun _ _ _ => .inl rfl⟩

/-- Writing back the held sector, or to the second table, is not seen. -/
theorem Coherent.wrote (hc : c.Coherent area) (hdirty : c.statusDirty = true)
    (hs : s = c.sector ∨ area.Second s)
    (hx : c.Atomic → s = c.sector → x = c.blockDev.disk s ∨ x = c.buffer) :
    Same area c (c.wrote s x) := by
  refine ⟨⟨hc.quiet, fun h => ?_, hc.front, hc.offset, hc.mirror⟩, view_ext fun t ht => ?_, id, id,
    fun ha t ht => ?_⟩
  · exact absurd (hdirty.symm.trans h).symm Bool.false_ne_true
  · by_cases heq : t = c.sector
    · subst heq
      exact (view_held (c := c.wrote s x) ht).trans (view_held ht).symm
    · have hts : t ≠ s := by
        rintro rfl
        exact hs.elim heq ht.2
      refine (view_other (c := c.wrote s x) ht heq).trans ?_
      rw [view_other ht heq]
      exact Memory.write_ne _ _ hts
  · by_cases hts : t = s
    · subst hts
      have hheld : t = c.sector := hs.resolve_right ht.2
      have hself : (c.wrote t x).blockDev.disk t = x := Memory.write_self _ _ _
      refine (hx ha hheld).imp hself.trans fun h => (hself.trans h).trans ?_
      subst hheld
      exact (view_held ht).symm
    · exact .inl (Memory.write_ne _ _ hts)

/-! ## Writing back -/

/-- Where the second copy of a held sector goes. -/
theorem Coherent.second (hc : c.Coherent area) (hm : c.statusMirrorFat = true) :
    (c.sector + c.mirrorOffset) % 2 ^ 32 = c.sector + area.size ∧
      area.Second (c.sector + area.size) := by
  obtain ⟨hlo, hhi⟩ := hc.mirror hm
  have hfits : area.start + 2 * area.size ≤ 0xFFFFFFFF := area.fits
  rw [hc.offset]
  exact ⟨Nat.mod_eq_of_lt (by omega), by omega, by omega⟩

/-- A sector the device has a copy of needs no writing back. -/
theorem Same.settle (h : Same area c c') (hdisk : c'.blockDev.disk c'.sector = c'.buffer) :
    Same area c { c' with statusDirty := false } :=
  ⟨⟨h.coherent.quiet, fun _ _ => hdisk.symm, h.coherent.front, h.coherent.offset,
    h.coherent.mirror⟩, h.view, h.working, h.atomic, h.flushed⟩

/-- Writing back is not seen, and leaves nothing to write back. -/
theorem sync_meets (hc : c.Coherent area) :
    sync.Meets (fun _ c' => Same area c c' ∧ c'.statusDirty = false ∧ c'.sector = c.sector)
      (Failed area c) c := by
  unfold sync
  rw [Fallible.meets_bind, Fallible.meets_state, Fallible.meets_given]
  refine ⟨fun hdirty => ?_, fun hclean => ⟨hc.same, hclean, rfl⟩⟩
  rw [Fallible.meets_bind]
  refine (deviceWrite_meets _ _ c).mono ?_ ?_
  · rintro - c₁ rfl
    have hfirst := hc.wrote (x := c.buffer) hdirty (.inl rfl) fun _ _ => .inr rfl
    have hdisk : (c.wrote c.sector c.buffer).blockDev.disk c.sector = c.buffer :=
      Memory.write_self _ _ _
    rw [Fallible.meets_bind, Fallible.meets_given]
    refine ⟨fun hmirror => ?_, fun _ => ⟨hfirst.settle hdisk, rfl, rfl⟩⟩
    obtain ⟨hplace, hsecond⟩ := hc.second hmirror
    rw [hplace]
    have hne : c.sector ≠ c.sector + area.size := by
      obtain ⟨hlo, hhi⟩ := hsecond
      have hm := hc.mirror hmirror
      exact fun heq => absurd hm.2 (by omega)
    have hcopy : ∀ x, Same area c ((c.wrote c.sector c.buffer).wrote (c.sector + area.size) x) :=
      fun x => hfirst.trans (hfirst.coherent.wrote hdirty (.inr hsecond) fun _ h => absurd h.symm hne)
    refine (deviceWrite_meets _ _ _).mono ?_ ?_
    · rintro - c₂ rfl
      exact ⟨(hcopy c.buffer).settle ((Memory.write_ne _ _ hne).trans hdisk), rfl, rfl⟩
    · rintro c₂ ⟨⟨x, rfl, -⟩, hbroken⟩
      exact ⟨hcopy x, hbroken⟩
  · rintro c₁ ⟨⟨x, rfl, hx⟩, hbroken⟩
    exact ⟨hc.wrote hdirty (.inl rfl) fun ha _ => .inl (hx ha), hbroken⟩

/-! ## Changing sectors -/

/-- What `prepare` promises: `sector` is held, and nothing is seen to change unless
it was to be written without being read. -/
structure Prepared (area : FatArea) (sector : ℕ) (option : CacheOption)
  (c c' : FsCache) : Prop where
  coherent : c'.Coherent area
  held : c'.sector = sector
  dirty : option.dirty = true → c'.statusDirty = true
  mirrored : option.mirrorFat = true → c'.statusMirrorFat = true
  view : ∀ t, t ≠ sector ∨ option.noRead = false → c'.view area t = c.view area t
  working : c.Working → c'.Working
  atomic : c.Atomic → c'.Atomic
  flushed : c.Atomic → ∀ t, area.Usable t → Flushed area c c' t

/-- The cache holding `sector` instead, unchanged. -/
def holding (sector : ℕ) (buffer : Sector) (c : FsCache) : FsCache :=
  { c with statusDirty := false, statusMirrorFat := false, sector, buffer }

/-- With nothing to write back, what is seen is the device. -/
theorem Coherent.view_clean (hc : c.Coherent area) (hclean : c.statusDirty = false) {s : ℕ}
    (hs : area.Usable s) : c.view area s = c.blockDev.disk s := by
  by_cases heq : s = c.sector
  · subst heq
    exact (view_held hs).trans (hc.clean hclean (Nat.ne_of_lt hs.1))
  · exact view_other hs heq

/-- Nothing is seen of the change if what is held is the device's. -/
theorem Coherent.view_holding (hc : c.Coherent area) (hdirty : c.statusDirty = false)
    (h : s ≠ sector ∨ x = c.blockDev.disk sector) :
    (c.holding sector x).view area s = c.view area s := by
  by_cases hs : area.Usable s
  · rw [hc.view_clean hdirty hs]
    by_cases heq : s = sector
    · subst heq
      exact (view_held (c := c.holding s x) hs).trans (h.resolve_left (not_not_intro rfl))
    · exact view_other (c := c.holding sector x) hs heq
  · rw [view_hidden hs, view_hidden hs]

/-- Setting the status bits of the held sector. -/
theorem Prepared.mark {option : CacheOption} (held : FsCache) (hs : area.Usable sector)
    (hfat : option.mirrorFat = true → area.First sector) (hsector : held.sector = sector)
    (hquiet : ∀ n junk, held.blockDev.onRead n ≠ .garbled junk)
    (hoffset : held.mirrorOffset = area.size)
    (hclean : held.statusDirty = false → option.dirty = false →
      held.buffer = held.blockDev.disk sector)
    (hmirror : held.statusMirrorFat = true → area.First sector)
    (hview : ∀ t, t ≠ sector ∨ option.noRead = false → held.view area t = c.view area t)
    (hworking : c.Working → held.Working) (hatomic : c.Atomic → held.Atomic)
    (hflushed : c.Atomic → ∀ t, area.Usable t → Flushed area c held t) :
    Prepared area sector option c
      { held with
        statusDirty := held.statusDirty || option.dirty
        statusMirrorFat := held.statusMirrorFat || option.mirrorFat } where
  coherent :=
    { quiet := hquiet
      clean := fun h _ => by
        obtain ⟨h₁, h₂⟩ := Bool.or_eq_false_iff.mp h
        exact (hclean h₁ h₂).trans (congrArg _ hsector.symm)
      front := .inr (hsector ▸ hs)
      offset := hoffset
      mirror := fun h => by
        rw [← hsector] at hmirror hfat
        exact (Bool.or_eq_true_iff.mp h).elim hmirror hfat }
  held := hsector
  dirty h := Bool.or_eq_true_iff.mpr (.inr h)
  mirrored h := Bool.or_eq_true_iff.mpr (.inr h)
  view := hview
  working := hworking
  atomic := hatomic
  flushed := hflushed

/-- A sector is not read only in order to be written. -/
theorem prepare_meets (hc : c.Coherent area) {option : CacheOption} (hs : area.Usable sector)
    (hfat : option.mirrorFat = true → area.First sector)
    (hnew : option.noRead = true → option.dirty = true) :
    (prepare sector option).Meets (fun _ c' => Prepared area sector option c c')
      (Failed area c) c := by
  unfold prepare
  rw [Fallible.meets_bind, Fallible.meets_state, Fallible.meets_bind, Fallible.meets_given]
  refine ⟨fun hother => ?_, fun heq => ?_⟩
  · rw [Fallible.meets_bind]
    refine (sync_meets hc).mono (fun _ c₁ hsync => ?_) fun _ h => h
    obtain ⟨hsame, hdirty, -⟩ := hsync
    have hcoh := hsame.coherent
    rw [Fallible.meets_bind, Fallible.meets_given]
    refine ⟨fun hread => ?_, fun hnoRead => ?_⟩
    · refine (deviceFill_meets hcoh sector).mono ?_ ?_
      · rintro - c₂ rfl
        refine Prepared.mark (c₁.asked.holding sector (c₁.blockDev.disk sector)) hs hfat rfl
          hcoh.quiet hcoh.offset (fun _ _ => rfl) (fun h => absurd h Bool.false_ne_true) ?_
          hsame.working hsame.atomic hsame.flushed
        intro t _
        have hview : (c₁.asked.holding sector (c₁.blockDev.disk sector)).view area t
            = c₁.asked.view area t := hcoh.asked.coherent.view_holding hdirty (.inr rfl)
        rw [hview, hcoh.asked.view, hsame.view]
      · rintro c₂ ⟨rfl, hbroken⟩
        exact hsame.failed ⟨hcoh.asked, hbroken⟩
    · have hreserve : option.noRead = true := by simpa using hnoRead
      refine Prepared.mark (c₁.holding sector c₁.buffer) hs hfat rfl hcoh.quiet hcoh.offset
        (fun _ h => ?_) (fun h => absurd h Bool.false_ne_true) ?_ hsame.working hsame.atomic
        hsame.flushed
      · exact absurd ((hnew hreserve).symm.trans h).symm Bool.false_ne_true
      · intro t ht
        have hne : t ≠ sector := ht.resolve_right fun h =>
          absurd (hreserve.symm.trans h).symm Bool.false_ne_true
        rw [hcoh.view_holding hdirty (.inl hne), hsame.view]
  · have hheld : c.sector = sector := by simpa using heq
    refine Prepared.mark c hs hfat hheld hc.quiet hc.offset (fun h _ => ?_)
      (fun h => hheld ▸ hc.mirror h) (fun _ _ => rfl) id id fun _ _ _ => .inl rfl
    have hne : c.sector ≠ noSector := hheld ▸ Nat.ne_of_lt hs.1
    exact (hc.clean h hne).trans (congrArg _ hheld)

/-- What is stored in the held sector comes into view. -/
theorem Coherent.stored (hc : c.Coherent area) (hdirty : c.statusDirty = true)
    (hs : area.Usable c.sector) (offset : ℕ) (bytes : List UInt8) :
    let c' := { c with buffer := Memory.copy c.buffer offset bytes }
    c'.Coherent area ∧ c'.view area =
      Memory.write (c.view area) c.sector [Memory.copy (c.view area c.sector) offset bytes] := by
  intro c'
  refine ⟨⟨hc.quiet, fun h => ?_, hc.front, hc.offset, hc.mirror⟩, ?_⟩
  · exact absurd (hdirty.symm.trans h).symm Bool.false_ne_true
  · funext t
    by_cases ht : t = c.sector
    · subst ht
      rw [Memory.write_self, view_held hs]
      exact view_held (c := c') hs
    · rw [Memory.write_ne _ _ ht]
      by_cases hu : area.Usable t
      · rw [view_other hu ht]
        exact view_other (c := c') hu ht
      · rw [view_hidden hu, view_hidden hu]

/-! ## Whole sectors -/

theorem cacheSafeRead_meets (hc : c.Coherent area) (hs : area.Usable sector) :
    (cacheSafeRead sector).Meets (fun x c' => x = c.view area sector ∧ Same area c c')
      (Failed area c) c := by
  unfold cacheSafeRead
  rw [Fallible.meets_bind, Fallible.meets_state]
  by_cases hcached : sector = c.sector
  · rw [if_pos (by simpa [isCached] using hcached)]
    subst hcached
    exact ⟨(view_held hs).symm, hc.same⟩
  · rw [if_neg (by simpa [isCached] using hcached)]
    refine (deviceRead_meets hc sector).mono ?_ ?_
    · rintro x c' ⟨rfl, rfl⟩
      exact ⟨(view_other hs hcached).symm, hc.asked⟩
    · rintro c' ⟨rfl, hbroken⟩
      exact ⟨hc.asked, hbroken⟩

/-- Reading blocks changes nothing but the count of calls. -/
theorem readSectors_spec {d : FsBlockDevice} (hquiet : ∀ n junk, d.onRead n ≠ .garbled junk)
    (sector count : ℕ) :
    (∃ k, (d.readSectors sector count).2 = { d with calls := k }) ∧
      (∀ vs, (d.readSectors sector count).1 = some vs → vs = Memory.read d.disk sector count) ∧
      ((d.readSectors sector count).1 = none → ∃ n, d.onRead n ≠ .done) := by
  induction count generalizing sector d with
  | zero =>
    exact ⟨⟨d.calls, rfl⟩, fun vs h => (Option.some.inj h).symm,
      fun h => absurd h (Option.some_ne_none [])⟩
  | succ count ih =>
    have hcall := hquiet d.calls
    have hrest := ih (d := d.called) hquiet (sector + 1)
    unfold FsBlockDevice.readSectors FsBlockDevice.readSector
    cases hanswer : d.onRead d.calls with
    | done =>
      obtain ⟨⟨k, hk⟩, hvs, hnone⟩ := hrest
      refine ⟨⟨k, hk⟩, fun vs h => ?_, fun h => hnone (Option.map_eq_none_iff.mp h)⟩
      obtain ⟨rest, hsome, rfl⟩ := Option.map_eq_some_iff.mp h
      have hone : Memory.read d.disk sector 1 = [d.disk sector] := rfl
      rw [hvs rest hsome, Nat.add_comm count 1, Memory.read_add, hone]
      rfl
    | refused =>
      exact ⟨⟨d.calls + 1, rfl⟩, fun vs h => absurd h.symm (Option.some_ne_none vs),
        fun _ => ⟨d.calls, fun h => Answer.noConfusion (hanswer.symm.trans h)⟩⟩
    | garbled junk => exact absurd hanswer (hcall junk)

/-- Writing blocks writes some blocks there, the ones that were given if it
succeeds. -/
theorem writeSectors_spec (d : FsBlockDevice) (sector : ℕ) (src : List Sector) :
    ∃ k vs, vs.length = src.length ∧
      (d.writeSectors sector src).2 =
        { d with calls := k, disk := Memory.write d.disk sector vs } ∧
      ((d.writeSectors sector src).1 = true → vs = src) ∧
      ((d.writeSectors sector src).1 = false → ∃ n, d.onWrite n ≠ .done) := by
  induction src generalizing sector d with
  | nil =>
    refine ⟨d.calls, [], rfl, ?_, fun _ => rfl, fun h => absurd h.symm Bool.false_ne_true⟩
    rw [Memory.write_nil]
    rfl
  | cons x src ih =>
    have hstop : ∀ y, ∃ k vs, vs.length = (x :: src).length ∧
        ({ d.called with disk := Memory.write d.disk sector [y] } : FsBlockDevice) =
          { d with calls := k, disk := Memory.write d.disk sector vs } := by
      intro y
      refine ⟨d.calls + 1,
        y :: Memory.read (Memory.write d.disk sector [y]) (sector + 1) src.length,
        by simp, ?_⟩
      have hrest := Memory.write_write d.disk sector [y]
        (Memory.read (Memory.write d.disk sector [y]) (sector + 1) src.length)
      rw [List.length_singleton, Memory.write_read] at hrest
      exact congrArg (fun disk => { d with calls := d.calls + 1, disk }) hrest
    unfold FsBlockDevice.writeSectors FsBlockDevice.writeSector
    cases hanswer : d.onWrite d.calls with
    | done =>
      obtain ⟨k, vs, hlen, hstate, hok, hfail⟩ := ih
        { d.called with disk := Memory.write d.disk sector [x] } (sector + 1)
      refine ⟨k, x :: vs, congrArg Nat.succ hlen, hstate.trans ?_, fun h => ?_, hfail⟩
      · exact congrArg (fun disk => { d with calls := k, disk })
          (Memory.write_write d.disk sector [x] vs)
      · rw [hok h]
    | refused =>
      obtain ⟨k, vs, hlen, hstate⟩ := hstop (d.disk sector)
      refine ⟨k, vs, hlen, ?_, fun h => absurd h Bool.false_ne_true,
        fun _ => ⟨d.calls, fun h => Answer.noConfusion (hanswer.symm.trans h)⟩⟩
      have hsame : Memory.write d.disk sector [d.disk sector] = d.disk :=
        Memory.write_read _ sector 1
      rw [← hstate, hsame]
      rfl
    | garbled junk =>
      obtain ⟨k, vs, hlen, hstate⟩ := hstop junk
      exact ⟨k, vs, hlen, hstate, fun h => absurd h Bool.false_ne_true,
        fun _ => ⟨d.calls, fun h => Answer.noConfusion (hanswer.symm.trans h)⟩⟩

theorem cacheSafeReads_meets (hc : c.Coherent area) {count : ℕ}
    (hs : area.UsableRange sector count) :
    (cacheSafeReads sector count).Meets
      (fun vs c' => vs = Memory.read (c.view area) sector count ∧ Same area c c')
      (Failed area c) c := by
  have hread : ∀ c₁ : FsCache, Same area c c₁ →
      (∀ i < count, sector + i ≠ c₁.sector ∨ c₁.statusDirty = false) →
      (deviceReads sector count).Meets
        (fun vs c' => vs = Memory.read (c.view area) sector count ∧ Same area c c')
        (Failed area c) c₁ := by
    intro c₁ hsame hpast
    obtain ⟨⟨k, hk⟩, hvs, hnone⟩ := readSectors_spec hsame.coherent.quiet sector count
    have hafter : Same area c₁ { c₁ with blockDev := { c₁.blockDev with calls := k } } :=
      ⟨⟨hsame.coherent.quiet, hsame.coherent.clean, hsame.coherent.front, hsame.coherent.offset,
        hsame.coherent.mirror⟩, rfl, id, id, fun _ _ _ => .inl rfl⟩
    rw [← hk] at hafter
    refine Fallible.Meets.intro rfl (fun vs hr => ?_) fun hr => ?_
    · refine ⟨(hvs vs hr).trans (Memory.read_congr fun i hi => ?_), hsame.trans hafter⟩
      have hu : area.Usable (sector + i) := ⟨by have := hs.1; omega, hs.2 i hi⟩
      rw [← hsame.view]
      by_cases heq : sector + i = c₁.sector
      · have hclean := (hpast i hi).resolve_left (not_not_intro heq)
        rw [heq, view_held (heq ▸ hu)]
        exact (hsame.coherent.clean hclean (heq ▸ Nat.ne_of_lt hu.1)).symm
      · exact (view_other hu heq).symm
    · obtain ⟨n, hn⟩ := hnone hr
      exact hsame.failed ⟨hafter, fun hw => hn (hw n).1⟩
  unfold cacheSafeReads
  rw [Fallible.meets_bind, Fallible.meets_state, Fallible.meets_bind, Fallible.meets_given]
  refine ⟨fun _ => ?_, fun hout => ?_⟩
  · refine (sync_meets hc).mono (fun _ c₁ hsync => ?_) fun _ h => h
    exact hread c₁ hsync.1 fun _ _ => .inr hsync.2.1
  · refine hread c hc.same fun i hi => .inl fun heq => ?_
    have hlim : sector + count ≤ 0xFFFFFFFF := hs.1
    have hmod : (sector + count) % 2 ^ 32 = sector + count := Nat.mod_eq_of_lt (by omega)
    rw [isCachedRange, hmod, ← heq] at hout
    simp at hout
    omega

/-- Sectors that are not held are seen as soon as they are written. -/
theorem Coherent.rewrote (hc : c.Coherent area) {vs : List Sector}
    (hs : area.UsableRange sector vs.length)
    (hout : c.sector < sector ∨ sector + vs.length ≤ c.sector) (k : ℕ) :
    let c' := { c with blockDev := { c.blockDev with
      calls := k, disk := Memory.write c.blockDev.disk sector vs } }
    c'.Coherent area ∧ c'.view area = Memory.write (c.view area) sector vs := by
  intro c'
  have hsame : c'.blockDev.disk c.sector = c.blockDev.disk c.sector :=
    Memory.write_outside _ hout
  refine ⟨⟨hc.quiet, fun h h' => ?_, hc.front, hc.offset, hc.mirror⟩, ?_⟩
  · exact (hc.clean h h').trans hsame.symm
  · funext t
    by_cases ht : t < sector ∨ sector + vs.length ≤ t
    · rw [Memory.write_outside _ ht]
      by_cases hu : area.Usable t
      · by_cases heq : t = c.sector
        · subst heq
          exact (view_held (c := c') hu).trans (view_held hu).symm
        · refine (view_other (c := c') hu heq).trans ?_
          rw [view_other hu heq]
          exact Memory.write_outside _ ht
      · rw [view_hidden hu, view_hidden hu]
    · obtain ⟨i, rfl⟩ := Nat.exists_eq_add_of_le (show sector ≤ t by omega)
      have hi : i < vs.length := by omega
      have hu : area.Usable (sector + i) := ⟨by have := hs.1; omega, hs.2 i hi⟩
      rw [Memory.write_add _ _ hi]
      refine (view_other (c := c') hu ?_).trans (Memory.write_add _ _ hi)
      show sector + i ≠ c.sector
      omega

theorem Coherent.invalidate (hc : c.Coherent area) : c.invalidate.Coherent area :=
  ⟨hc.quiet, fun _ h => absurd rfl h, .inl rfl, hc.offset, fun h => absurd h Bool.false_ne_true⟩

/-- Only the held sector is lost. -/
theorem view_invalidate (hs : s ≠ c.sector) : c.invalidate.view area s = c.view area s := by
  by_cases hu : area.Usable s
  · rw [view_other hu hs]
    exact view_other (c := c.invalidate) hu (Nat.ne_of_lt hu.1)
  · rw [view_hidden hu, view_hidden hu]

/-- Nothing is, if it was the device's. -/
theorem Coherent.invalidate_clean (hc : c.Coherent area) (hclean : c.statusDirty = false) :
    Same area c c.invalidate := by
  refine ⟨hc.invalidate, view_ext fun s hs => ?_, id, id, fun _ _ _ => .inl rfl⟩
  by_cases heq : s = c.sector
  · subst heq
    rw [view_held hs, hc.clean hclean (Nat.ne_of_lt hs.1)]
    exact view_other (c := c.invalidate) hs (Nat.ne_of_lt hs.1)
  · exact view_invalidate heq

/-- Writing past the cache is seen at once. If it fails the sectors it was to write
are some others, and the rest is as it was. -/
structure Overwritten (area : FatArea) (sector : ℕ) (vs : List Sector) (c c' : FsCache) : Prop where
  coherent : c'.Coherent area
  view : c'.view area = Memory.write (c.view area) sector vs
  working : c.Working → c'.Working
  atomic : c.Atomic → c'.Atomic
  disk : ∀ t, t < sector ∨ sector + vs.length ≤ t → c'.blockDev.disk t = c.blockDev.disk t

theorem Coherent.overwritten (hc : c.Coherent area) {vs : List Sector}
    (hs : area.UsableRange sector vs.length) (k : ℕ) {c₁ : FsCache}
    (hc₁ : c₁ = c ∧ (c.sector < sector ∨ sector + vs.length ≤ c.sector) ∨
      c₁ = c.invalidate ∧ sector ≤ c.sector ∧ c.sector < sector + vs.length) :
    Overwritten area sector vs c { c₁ with blockDev := { c₁.blockDev with
      calls := k, disk := Memory.write c₁.blockDev.disk sector vs } } := by
  rcases hc₁ with ⟨rfl, hout⟩ | ⟨rfl, hlo, hhi⟩
  · obtain ⟨hcoh, hview⟩ := hc.rewrote hs hout k
    exact ⟨hcoh, hview, id, id, fun t ht => Memory.write_outside _ ht⟩
  · have hrange := hs.1
    obtain ⟨hcoh, hview⟩ := hc.invalidate.rewrote hs (.inr hrange) k
    refine ⟨hcoh, hview.trans ?_, id, id, fun t ht => Memory.write_outside _ ht⟩
    -- what was held and is given up is written over
    funext t
    refine Memory.write_congr fun ht => view_invalidate ?_
    rintro rfl
    omega

theorem cacheSafeWrite_meets (hc : c.Coherent area) (hs : area.Usable sector) (src : Sector) :
    (cacheSafeWrite sector src).Meets (fun _ c' => Overwritten area sector [src] c c')
      (fun c' => (∃ x, Overwritten area sector [x] c c') ∧ ¬ c.Working) c := by
  have hwrite : ∀ c₁ : FsCache, (c₁.Working ↔ c.Working) →
      (∀ x, Overwritten area sector [x] c (c₁.wrote sector x)) →
      (deviceWrite sector src).Meets (fun _ c' => Overwritten area sector [src] c c')
        (fun c' => (∃ x, Overwritten area sector [x] c c') ∧ ¬ c.Working) c₁ := by
    intro c₁ hworking hover
    refine (deviceWrite_meets sector src c₁).mono (fun _ _ h => h ▸ hover src) ?_
    rintro c₂ ⟨⟨x, rfl, -⟩, hbroken⟩
    exact ⟨⟨x, hover x⟩, fun hw => hbroken (hworking.mpr hw)⟩
  have hrange : ∀ x : Sector, area.UsableRange sector [x].length := by
    refine fun x => ⟨hs.1, fun i hi => ?_⟩
    obtain rfl : i = 0 := Nat.lt_one_iff.mp hi
    exact hs.2
  unfold cacheSafeWrite
  rw [Fallible.meets_bind, Fallible.meets_state, Fallible.meets_bind, Fallible.meets_given]
  refine ⟨fun hin => hwrite c.invalidate Iff.rfl fun x => ?_,
    fun hout => hwrite c Iff.rfl fun x => ?_⟩
  · have hheld : sector = c.sector := by simpa [isCached] using hin
    exact hc.overwritten (hrange x) _
      (.inr ⟨rfl, Nat.le_of_eq hheld, by rw [List.length_singleton]; omega⟩)
  · have hne : sector ≠ c.sector := by simpa [isCached] using hout
    exact hc.overwritten (hrange x) _ (.inl ⟨rfl, by rw [List.length_singleton]; omega⟩)

theorem cacheSafeWrites_meets (hc : c.Coherent area) {src : List Sector}
    (hs : area.UsableRange sector src.length) :
    (cacheSafeWrites sector src).Meets (fun _ c' => Overwritten area sector src c c')
      (fun c' => (∃ vs, vs.length = src.length ∧ Overwritten area sector vs c c') ∧
        ¬ c.Working) c := by
  have hwrite : ∀ c₁ : FsCache, (c₁.Working ↔ c.Working) →
      (∀ (vs : List Sector) (k : ℕ), vs.length = src.length →
        Overwritten area sector vs c { c₁ with blockDev := { c₁.blockDev with
          calls := k, disk := Memory.write c₁.blockDev.disk sector vs } }) →
      (deviceWrites sector src).Meets (fun _ c' => Overwritten area sector src c c')
        (fun c' => (∃ vs, vs.length = src.length ∧ Overwritten area sector vs c c') ∧
          ¬ c.Working) c₁ := by
    intro c₁ hworking hover
    obtain ⟨k, vs, hlen, hstate, hok, hfail⟩ := writeSectors_spec c₁.blockDev sector src
    have hdone := hover vs k hlen
    rw [← hstate] at hdone
    refine Fallible.Meets.intro rfl (fun _ hr => ?_) fun hr => ⟨⟨vs, hlen, hdone⟩, fun hw => ?_⟩
    · rwa [hok (by simpa using hr)] at hdone
    · obtain ⟨n, hn⟩ := hfail (by simpa using hr)
      exact hn (hworking.mpr hw n).2.1
  have hmod : (sector + src.length) % 2 ^ 32 = sector + src.length := by
    have hlim : sector + src.length ≤ 0xFFFFFFFF := hs.1
    exact Nat.mod_eq_of_lt (by omega)
  unfold cacheSafeWrites
  rw [Fallible.meets_bind, Fallible.meets_state, Fallible.meets_bind, Fallible.meets_given,
    isCachedRange, hmod]
  refine ⟨fun hin => hwrite c.invalidate Iff.rfl fun vs k hlen => ?_,
    fun hout => hwrite c Iff.rfl fun vs k hlen => ?_⟩
  · refine hc.overwritten (hlen ▸ hs) k (.inr ⟨rfl, ?_⟩)
    rw [hlen]
    simpa using hin
  · refine hc.overwritten (hlen ▸ hs) k (.inl ⟨rfl, ?_⟩)
    rw [hlen]
    simp at hout
    omega

/-- Giving up the held sector, written back if need be. -/
theorem clear_meets (hc : c.Coherent area) :
    clear.Meets (fun _ c' => Same area c c') (Failed area c) c := by
  unfold clear
  rw [Fallible.meets_bind, Fallible.meets_state, Fallible.meets_bind, Fallible.meets_given]
  refine ⟨fun _ => ?_, hc.invalidate_clean⟩
  refine (sync_meets hc).mono (fun _ c₁ hsync => ?_) fun _ h => h
  exact hsync.1.trans (hsync.1.coherent.invalidate_clean hsync.2.1)

end FsCache

end Heimdall
