import Heimdall.Storage.FileRun

/-!
# Power cuts

When the power goes the cache is lost, and a mount finds what has been written back by
then. A power cut in the middle of a call is a device that refuses everything from then
on, so it need not be said when it comes: the device may do anything, but leaves a block
alone that it fails to write.

`synced_survives`: what a file held when everything was last written back can be read
after a power cut at any later moment, whatever has been done with the other files by
then, and as long as the file itself has only been appended to. What a call changes is
behind all that (`Kept`), and the card is never anything but what it was or what was in
view (`Flushed`).
-/

namespace Heimdall

open Fallible

namespace FatPartition

variable {L : FatLayout} {v v' : FatPartition} {own bytes : ℕ → Prop} {d : FsBlockDevice}

/-- With nothing to write back, the card is what is in view. -/
theorem card_eq_mem (hv : v.Coherent L) (hclean : v.cache.statusDirty = false) :
    v.card L = v.mem L := by
  refine funext fun x => Memory.flat_congr _ ?_
  by_cases hs : L.area.Usable (x / 512)
  · rw [view_invalidated hs, hv.view_clean hclean hs]
  · rw [FsCache.view_hidden hs, FsCache.view_hidden hs]

/-- A `cacheSync` that succeeds leaves all that is in view on the card. -/
theorem cacheSync_meets (hv : v.Coherent L) :
    OpenFile.cacheSync.Meets (fun _ v' => Same L v v' ∧ v'.card L = v'.mem L) (Failed L v) v := by
  unfold OpenFile.cacheSync onCache
  rw [meets_within, meets_bind]
  refine (FsCache.sync_meets hv).mono (fun _ c h => ?_)
    fun c h => ⟨same_of_cache h.toSame, h.broken⟩
  obtain ⟨hsame, hclean, -⟩ := h
  have hasked := hsame.trans hsame.coherent.asked
  have hcall : FsCache.syncDevice c =
      (if c.blockDev.onSync c.blockDev.calls then some () else none, c.asked) := rfl
  refine Meets.intro hcall (fun _ _ => ?_) fun hnone => ⟨same_of_cache hasked, fun hw => ?_⟩
  · exact ⟨same_of_cache hasked,
      card_eq_mem (v := { v with cache := c.asked }) hasked.coherent hclean⟩
  · rw [if_pos (hsame.working hw c.blockDev.calls).2.2] at hnone
    exact Option.some_ne_none _ hnone

/-- What a mount finds, on the device as it is then. -/
def remount (d : FsBlockDevice) (v : FatPartition) : FatPartition :=
  { v with cache := v.cache.init d }

theorem remount_coherent (hv : v.Coherent L) (hquiet : ∀ n junk, d.onRead n ≠ .garbled junk) :
    (v.remount d).Coherent L :=
  ⟨hquiet, fun _ h => absurd rfl h, .inl rfl, hv.offset, fun h => absurd h Bool.false_ne_true⟩

theorem mem_remount (hdisk : d.disk = v.cache.blockDev.disk) : (v.remount d).mem L = v.card L := by
  refine funext fun x => Memory.flat_congr _ ?_
  by_cases hs : L.area.Usable (x / 512)
  · rw [view_invalidated hs, ← hdisk]
    exact view_invalidated (c := { v.cache with blockDev := d }) hs
  · rw [FsCache.view_hidden hs, FsCache.view_hidden hs]

end FatPartition

namespace OpenFile

open FatPartition

variable {L : FatLayout} {v₀ v v' : FatPartition} {f : FatFile} {l l' t : List ℕ}
  {own bytes : ℕ → Prop} {n pos x : ℕ}

/-! ## What is needed of a file -/

/-- The first `n` bytes of a file on `l`, and the numbers that lead to them. -/
def Needed (L : FatLayout) (l : List ℕ) (n x : ℕ) : Prop :=
  (∃ c ∈ l.dropLast, L.InEntry c x) ∨ ∃ p < n, x = L.fileAddr l p

/-- The chain has grown by `t` since, and is changed elsewhere. -/
theorem Needed.unchanged (h : Whole L v f (l ++ t)) (hn : n ≤ l.length * L.clusterSize)
    (hlast : ∀ c ∈ l.dropLast, ¬ own c) (hbytes : ∀ p < n, ¬ bytes (L.fileAddr (l ++ t) p))
    (hx : Needed L l n x) : ¬ Changed L own bytes v x := by
  have hmem : ∀ c ∈ l, c ∈ l ++ t := fun c hc => List.mem_append_left t hc
  intro hchanged
  rcases hx with ⟨c, hc, hentry⟩ | ⟨p, hp, rfl⟩
  · have hin := hmem c (List.mem_of_mem_dropLast hc)
    have htable := L.entryAddr_in_table (h.range c hin)
    obtain ⟨hlo, hhi⟩ := hentry
    rcases hchanged with ⟨d, -, ho, hd⟩ | ⟨hout, -⟩
    · obtain rfl := L.inEntry_unique ⟨hlo, hhi⟩ hd
      exact ho.elim (hlast c hc) (h.used hin)
    · exact hout ⟨by omega, by omega⟩
  · have hlt : p < l.length * L.clusterSize := Nat.lt_of_lt_of_le hp hn
    rw [← FatLayout.fileAddr_append (t := t) hlt] at hchanged
    rcases hchanged with ⟨d, hd, -, hlo, hhi⟩ | ⟨-, hb⟩
    · have htable := L.entryAddr_in_table hd
      obtain ⟨c, hc, -⟩ := FatLayout.exists_cluster hlt
      rw [FatLayout.fileAddr_append hlt] at hlo hhi
      exact (FatLayout.fileAddr_in hc).not_table ⟨by omega, by omega⟩
    · exact hbytes p hp hb

/-- A file that is changed from `pos` on keeps what is before. -/
theorem Whole.not_beyond_self (h : Whole L v f l) {p : ℕ} (hp : p < l.length * L.clusterSize)
    (hpos : p < pos) : ¬ Beyond L v l pos (L.fileAddr l p) := by
  obtain ⟨c, hc, hmem⟩ := FatLayout.exists_cluster hp
  have hin := FatLayout.fileAddr_in (L := L) hc
  rintro (⟨d, hfree, hd⟩ | ⟨q, hq, hlt, heq⟩)
  · obtain rfl := FatLayout.inCluster_unique (h.range c hmem) hfree.1 hin hd
    exact h.used hmem hfree.2
  · have hsize := Nat.mod_lt p L.clusterSize_pos
    have hx := FatLayout.fileAddr_outside (n := 1) h.ends.nodup h.range hc (by omega) hlt
      (Nat.le_of_eq heq) (by omega)
    omega

/-- What is needed of the first `n` bytes of the file on `l` is what it was at `v₀`, in
view and on the card. -/
structure Safe (L : FatLayout) (v₀ : FatPartition) (l : List ℕ) (n : ℕ) (v : FatPartition) :
    Prop where
  atomic : v.cache.Atomic
  mem : ∀ x, Needed L l n x → v.mem L x = v₀.mem L x
  card : ∀ x, Needed L l n x → v.card L x = v₀.mem L x

theorem Safe.step (h : Safe L v₀ l n v) (hkept : Kept L own bytes v v')
    (hno : ∀ x, Needed L l n x → ¬ Changed L own bytes v x) : Safe L v₀ l n v' where
  atomic := hkept.atomic h.atomic
  mem x hx := (hkept.mem x (hno x hx)).trans (h.mem x hx)
  card x hx := by
    rcases hkept.flushed h.atomic (x / 512) with hold | hnew
    · exact (hold x rfl (hno x hx)).trans (h.card x hx)
    · exact (hnew x rfl (hno x hx)).trans (h.mem x hx)

/-- What `openCachedEntry` makes of an entry with the file's attributes, first cluster
and size. -/
def anew (f : FatFile) : FatFile :=
  { closedFile f.dirIndex with
    attributes := f.attributes
    flagRead := true
    fileSize := f.fileSize
    firstCluster := f.firstCluster }

/-- The file can be read after a power cut, if the device does what it is asked then. -/
def OnCard (L : FatLayout) (v : FatPartition) (f : FatFile) (bytes : List UInt8) : Prop :=
  ∀ d : FsBlockDevice, d.disk = v.cache.blockDev.disk → (∀ n junk, d.onRead n ≠ .garbled junk) →
    ∀ nbyte, (read L nbyte).Meets (fun r _ => r = bytes.take nbyte)
      (fun _ => ¬ (v.remount d).cache.Working) ⟨v.remount d, anew f⟩

/-- The chain is found again, and on it what was there. -/
theorem Safe.onCard (h : Safe L v₀ l f.fileSize v) (hv : v.Coherent L) (h₀ : OnChain L v₀ f l)
    {xs : List UInt8} (hxs : xs = Memory.read (byteAt L l v₀) 0 f.fileSize) :
    OnCard L v f xs := by
  intro d hdisk hquiet nbyte
  have hmem := mem_remount (L := L) hdisk
  have hnext : ∀ c ∈ l.dropLast, (v.remount d).next L c = v₀.next L c := by
    intro c hc
    refine congrArg (fun n => L.link (LittleEndian.decode n)) (Memory.read_congr fun i hi => ?_)
    rw [hmem]
    exact h.card _ (.inl ⟨c, hc, Nat.le_add_right _ _, by omega⟩)
  have hchain : OnChain L (v.remount d) (anew f) l :=
    { h₀ with
      chain := by
        rw [List.isChain_iff_getElem]
        intro i hi
        refine (hnext _ ?_).trans (h₀.chain.getElem i hi)
        have hlen : i < l.dropLast.length := by
          rw [List.length_dropLast]
          omega
        rw [← List.getElem_dropLast hlen]
        exact List.getElem_mem hlen
      contiguous := fun hf => absurd hf Bool.false_ne_true }
  refine (read_meets (remount_coherent hv hquiet) hchain
    ⟨fun _ => rfl, fun hpos => absurd hpos (Nat.lt_irrefl 0)⟩ (Nat.zero_le _) nbyte).mono
    (fun r o' hread => ?_) fun o' hfail => hfail.2 rfl
  obtain ⟨-, -, -, -, hr⟩ := hread
  have hbytes : Memory.read (byteAt L l (v.remount d)) 0 f.fileSize = xs := by
    rw [hxs]
    refine Memory.read_congr fun i hi => ?_
    unfold byteAt
    rw [hmem]
    exact h.card _ (.inr ⟨i, hi, by rw [Nat.zero_add]⟩)
  have htake := Memory.take_drop_read (byteAt L l (v.remount d)) 0 0 nbyte f.fileSize
  rw [hbytes] at htake
  exact hr.trans htake.symm

end OpenFile

/-! ## Runs -/

namespace ByteFile

/-- Before its end a file is left alone, if it is not written or only appended to. -/
theorem le_kept {b : ByteFile} {call : FileCall}
    (h : b.append = true ∨ ∀ src, call ≠ .write src) : b.bytes.length ≤ b.kept call := by
  cases call with
  | seekSet pos => exact Nat.le_refl _
  | read nbyte => exact Nat.le_refl _
  | write src =>
    have happ : b.append = true := h.resolve_right fun hno => hno src rfl
    exact Nat.le_of_eq (if_pos happ).symm

end ByteFile

namespace OpenFiles

open FatPartition OpenFile

variable {ι : Type} [DecidableEq ι] {L : FatLayout} {s : OpenFiles ι}
  {known : ι → Option ByteFile} {l : ι → List ℕ} {l₀ t : List ℕ} {j : ι} {b b' : ByteFile}
  {v v₀ : FatPartition} {n : ℕ}

theorem not_isLast {c : ℕ} (hnodup : (l₀ ++ t).Nodup) (hc : c ∈ l₀.dropLast) :
    ¬ IsLast (l₀ ++ t) c := by
  intro hlast
  have hne : l₀ ≠ [] := by
    rintro rfl
    exact absurd hc List.not_mem_nil
  have hsplit := List.dropLast_append_getLast hne
  rw [← hsplit, List.append_assoc] at hnodup hlast
  have hmem : c ∈ [l₀.getLast hne] ++ t := by
    unfold IsLast at hlast
    rw [List.getLast?_append_of_ne_nil _ (by simp)] at hlast
    exact List.mem_of_getLast? hlast
  exact List.disjoint_of_nodup_append hnodup hc hmem

/-- A step leaves alone what the first `n` bytes of a file need. -/
theorem Tracked.safe_step {s : OpenFiles ι × (ι → Option ByteFile)} (h : Tracked L s.1 s.2 l)
    {e : ι × FileCall} (hj : s.2 j = some b) (he : s.2 e.1 = some b') (ht : l j = l₀ ++ t)
    (hn : n ≤ l₀.length * L.clusterSize) (hkept : e.1 = j → n ≤ b.kept e.2)
    (hsafe : Safe L v₀ l₀ n s.1.vol) : Safe L v₀ l₀ n (step L s e).1.vol := by
  have hwhole : Whole L s.1.vol (s.1.file j) (l₀ ++ t) := ht ▸ (h.file j b hj).toWhole
  have hown := (step_tracked h e).2.1 b' he
  have hlen : l₀.length * L.clusterSize ≤ (l₀ ++ t).length * L.clusterSize := by
    rw [List.length_append]
    exact Nat.mul_le_mul_right _ (Nat.le_add_right _ _)
  by_cases heq : e.1 = j
  · subst heq
    obtain rfl : b = b' := Option.some.inj (hj.symm.trans he)
    have hle := hkept rfl
    rw [ht] at hown
    exact hsafe.step hown fun x hx => hx.unchanged hwhole hn
      (fun c hc => not_isLast hwhole.ends.nodup hc)
      fun p hp => hwhole.not_beyond_self (by omega) (by omega)
  · have hdisjoint := h.apart j e.1 b b' (fun hje => heq hje.symm) hj he
    rw [ht] at hdisjoint
    exact hsafe.step hown fun x hx => hx.unchanged hwhole hn
      (fun c hc hlast => hdisjoint (List.mem_append_left t (List.mem_of_mem_dropLast hc))
        (List.mem_of_getLast? hlast))
      fun p hp => hwhole.not_beyond (h.file e.1 b' he).range hdisjoint (by omega)

/-- As long as anything is known of `j`, its first `n` bytes are safe. -/
def Anchored (L : FatLayout) (v₀ : FatPartition) (l₀ : List ℕ) (n : ℕ) (append : Bool) (j : ι)
    (s : OpenFiles ι × (ι → Option ByteFile)) : Prop :=
  ∃ l, Tracked L s.1 s.2 l ∧ ∀ b, s.2 j = some b → Safe L v₀ l₀ n s.1.vol ∧
    (∃ t, l j = l₀ ++ t) ∧ n ≤ b.bytes.length ∧ b.append = append

/-- The step is made, on files of which something is known, and leaves the file on the
card. -/
def Survives (L : FatLayout) (f : FatFile) (bytes : List UInt8) (j : ι)
    (s : OpenFiles ι × (ι → Option ByteFile)) (e : ι × FileCall) : Prop :=
  s.2 j ≠ none → s.2 e.1 ≠ none → OnCard L (step L s e).1.vol f bytes

/-- **What has been synced survives.** Once `cacheSync` has succeeded, whatever is then
done with the open files and whatever the device does to it, the power may go after any
call, up to the first one to the file `j` that fails half way: what the file held when it
was synced can be read from the card, if it has not been written since or only been
appended to. -/
theorem synced_survives (h : Tracked L s known l) (hj : known j = some b)
    (hatomic : s.vol.cache.Atomic) (hsync : cacheSync s.vol = (some ⟨⟩, v))
    (es : List (ι × FileCall))
    (hes : ∀ e ∈ es, e.1 = j → b.append = true ∨ ∀ src, e.2 ≠ .write src) :
    OnCard L v (s.file j) b.bytes ∧
      EventRun.EachStep (step L) (Survives L (s.file j) b.bytes j) (⟨v, s.file⟩, known) es := by
  obtain ⟨hsame, hcard⟩ := (cacheSync_meets (h.coherent j b hj)).of_some hsync
  have hfile := h.file j b hj
  have hroom : (s.file j).fileSize ≤ (l j).length * L.clusterSize := hfile.room
  -- the volume as it is synced
  have htracked : Tracked L ⟨v, s.file⟩ known l :=
    { coherent := fun _ _ _ => hsame.coherent
      start := fun i b hi => hsame.alloc.symm ▸ h.start i b hi
      file := fun i b hi =>
        have hold := h.file i b hi
        hold.moved (.refl _) hsame hold.cursor hold.inside hold.pos rfl rfl
      apart := h.apart }
  have hchain : OnChain L v (s.file j) (l j) := (htracked.file j b hj).toOnChain
  have hbytes := (htracked.file j b hj).bytes
  have hsafe₀ : Safe L v (l j) (s.file j).fileSize v :=
    ⟨hsame.atomic hatomic, fun _ _ => rfl, fun x _ => congrFun hcard x⟩
  have hstart : Anchored L v (l j) (s.file j).fileSize b.append j (⟨v, s.file⟩, known) := by
    refine ⟨l, htracked, fun b' hb' => ?_⟩
    obtain rfl : b = b' := Option.some.inj (hj.symm.trans hb')
    exact ⟨hsafe₀, ⟨[], (List.append_nil _).symm⟩, Nat.le_of_eq hfile.length_bytes.symm, rfl⟩
  have hstep : ∀ (s' : OpenFiles ι × (ι → Option ByteFile)) (e : ι × FileCall),
      Anchored L v (l j) (s.file j).fileSize b.append j s' →
      (e.1 = j → b.append = true ∨ ∀ src, e.2 ≠ .write src) →
      Survives L (s.file j) b.bytes j s' e ∧
        Anchored L v (l j) (s.file j).fileSize b.append j (step L s' e) := by
    rintro s' e ⟨l', htr, hanchor⟩ hcall
    obtain ⟨-, hown, l'', htr', hnext⟩ := step_tracked htr e
    have hsafe : ∀ b₁ b₂, s'.2 j = some b₁ → s'.2 e.1 = some b₂ →
        Safe L v (l j) (s.file j).fileSize (step L s' e).1.vol := by
      intro b₁ b₂ h₁ h₂
      obtain ⟨hsafe, ⟨t, ht⟩, hle, happ⟩ := hanchor b₁ h₁
      refine htr.safe_step h₁ h₂ ht hroom (fun heq => ?_) hsafe
      rw [← happ] at hcall
      exact Nat.le_trans hle (ByteFile.le_kept (hcall heq))
    refine ⟨fun hj' he' => ?_, l'', htr', fun b₂ hb₂ => ?_⟩
    · obtain ⟨b₁, h₁⟩ := Option.ne_none_iff_exists'.mp hj'
      obtain ⟨b₂, h₂⟩ := Option.ne_none_iff_exists'.mp he'
      exact (hsafe b₁ b₂ h₁ h₂).onCard (hown b₂ h₂).coherent hchain hbytes
    · obtain ⟨b₁, t', h₁, hl, hb⟩ := hnext j b₂ hb₂
      obtain ⟨-, ⟨t, ht⟩, hle, happ⟩ := hanchor b₁ h₁
      have he : ∃ b₃, s'.2 e.1 = some b₃ := by
        refine Option.ne_none_iff_exists'.mp fun hnone => ?_
        have hno : (step L s' e).2 j = none := by
          unfold step learn
          rw [hnone]
        exact Option.some_ne_none _ (hb₂.symm.trans hno)
      obtain ⟨b₃, h₃⟩ := he
      refine ⟨hsafe b₁ b₃ h₁ h₃, ⟨t ++ t', by rw [hl, ht, List.append_assoc]⟩, ?_, ?_⟩
      · rcases hb with rfl | rfl
        · exact hle
        · exact Nat.le_trans hle (ByteFile.length_le_effect e.2)
      · rcases hb with rfl | rfl
        · exact happ
        · exact (ByteFile.effect_append e.2).trans happ
  have hrun : EventRun.EachStep (step L)
      (fun _ e => e.1 = j → b.append = true ∨ ∀ src, e.2 ≠ .write src) (⟨v, s.file⟩, known) es :=
    EventRun.eachStep_event.mpr hes
  refine ⟨hsafe₀.onCard hsame.coherent hchain hbytes, ?_⟩
  refine (EventRun.eachStep_congr (Q := fun _ _ => True) (fun s' e hs hc => ?_)
    (fun s' e hs hc _ => (hstep s' e hs hc).2) hstart hrun).mpr (EventRun.eachStep_true _ _)
  exact iff_of_true (hstep s' e hs hc).1 trivial

/-! A log of three bytes in the first cluster, and another file. -/

/-- The table, in which the first cluster ends a chain. -/
def logTable : Sector := Memory.copy (Vector.replicate 512 0) 4 [0xFF, 0xFF]

def logDisk : ℕ → Sector := Memory.write (fun _ => Vector.replicate 512 0) 1 [logTable]

def logVolume : FatPartition :=
  { emptyVolume with cache :=
      { emptyVolume.cache with blockDev := { emptyVolume.cache.blockDev with disk := logDisk } } }

theorem logVolume_coherent : logVolume.Coherent smallLayout where
  quiet _ _ h := Answer.noConfusion h
  clean _ h := absurd rfl h
  front := .inl rfl
  offset := rfl
  mirror h := absurd h Bool.false_ne_true

theorem logVolume_next : logVolume.next smallLayout 2 = none := by
  have husable : smallLayout.area.Usable 1 := ⟨by decide, by decide⟩
  have hdisk : logVolume.cache.blockDev.disk 1 = logTable :=
    Memory.write_self (fun _ => Vector.replicate 512 0) 1 logTable
  have hview : logVolume.cache.view smallLayout.area 1 = logTable :=
    (FsCache.view_other husable (Nat.ne_of_lt husable.1)).trans hdisk
  have hmem : ∀ i (hi : 4 + i < 512), logVolume.mem smallLayout (1 * 512 + (4 + i)) =
      [0xFF, 0xFF][i]?.getD 0 := by
    intro i hi
    refine (Memory.flat_add FsCache.sector_pos _ 1 hi).trans ?_
    rw [hview]
    unfold logTable
    rw [Memory.get_copy, if_pos (Nat.le_add_right 4 i)]
    show [0xFF, 0xFF][4 + i - 4]?.getD ((Vector.replicate 512 (0 : UInt8))[4 + i]) = _
    rw [Vector.getElem_replicate, Nat.add_sub_cancel_left]
  have hread : Memory.read (logVolume.mem smallLayout) 516 2 = [0xFF, 0xFF] := by
    show [logVolume.mem smallLayout (1 * 512 + (4 + 0)),
      logVolume.mem smallLayout (1 * 512 + (4 + 1))] = _
    rw [hmem 0 (by decide), hmem 1 (by decide)]
    rfl
  show smallLayout.link (LittleEndian.decode (Memory.read (logVolume.mem smallLayout) 516 2)) = none
  rw [hread]
  rfl

def logFile : FatFile :=
  { emptyFile with
    flagAppend := true
    fileSize := 3
    firstCluster := 2 }

def logBytes : ByteFile :=
  ⟨Memory.read (byteAt smallLayout [2] logVolume) 0 3, 0, true⟩

theorem logFile_follows : Follows smallLayout logVolume logFile [2] logBytes where
  file := rfl
  rootFixed := rfl
  root32 := rfl
  chain := .singleton 2
  range c hc := by
    obtain rfl := List.mem_singleton.mp hc
    exact ⟨by decide, by decide⟩
  first := rfl
  contiguous hf := absurd hf Bool.false_ne_true
  room := by decide
  small := by decide
  ends := ⟨logVolume_next, trivial⟩
  cursor := ⟨fun _ => rfl, fun hpos => absurd hpos (Nat.lt_irrefl 0)⟩
  flagPreallocate := rfl
  inside := Nat.zero_le _
  bytes := rfl
  pos := rfl
  append := rfl

/-- The log, and a file with nothing in it yet. -/
def logFiles : OpenFiles Bool := ⟨logVolume, fun i => if i then logFile else emptyFile⟩

def logKnown : Bool → Option ByteFile := fun i => some (if i then logBytes else ⟨[], 0, false⟩)

theorem logFiles_tracked :
    Tracked smallLayout logFiles logKnown fun i => if i then [2] else [] where
  coherent _ _ _ := logVolume_coherent
  start _ _ _ := Nat.le_refl 1
  file i b hb := by
    obtain rfl : _ = b := Option.some.inj hb
    cases i with
    | false => exact emptyFile_follows _ _
    | true => exact logFile_follows
  apart i j b b' hne hi hj := by
    cases i with
    | false => exact List.disjoint_nil_left _
    | true =>
      cases j with
      | false => exact List.disjoint_nil_right _
      | true => exact absurd rfl hne

/-- The log is appended to, and the other file written. -/
def logCalls : List (Bool × FileCall) :=
  [(true, .write [7, 8]), (false, .write [9]), (true, .write [10])]

theorem synced_survives_log :
    ∃ v, cacheSync logVolume = (some ⟨⟩, v) ∧
      OnCard smallLayout v logFile logBytes.bytes ∧
      EventRun.EachStep (step smallLayout) (Survives smallLayout logFile logBytes.bytes true)
        (⟨v, logFiles.file⟩, logKnown) logCalls := by
  have hsync : cacheSync logVolume = (some ⟨⟩, (cacheSync logVolume).2) := rfl
  exact ⟨_, hsync, synced_survives (j := true) logFiles_tracked rfl
    (fun _ _ h => Answer.noConfusion h) hsync logCalls fun _ _ _ => .inl rfl⟩

end OpenFiles

end Heimdall
