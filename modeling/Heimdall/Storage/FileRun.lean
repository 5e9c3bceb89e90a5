import Heimdall.Lib.EventRun
import Heimdall.Storage.FatWrite

/-!
# Files over whole runs

A volume has any number of open files, and each of them is read, written and moved in
in any order. `files_are_arrays`: whatever the device does, each of them is an array of
bytes with a position. A read returns what was written there last, through that file,
and no call to one file is seen through another.

A read or a write that fails leaves its file somewhere on the way, and nothing is said
of that file afterwards. All the others keep what they hold: what a write has changed
by then was its own file's or free. This is `Follows.others`.
-/

namespace Heimdall

/-- What is asked of an open file. -/
inductive FileCall where
  | seekSet (pos : ℕ)
  | read (nbyte : ℕ)
  | write (src : List UInt8)

/-- A file as those who use it see it. -/
structure ByteFile where
  bytes : List UInt8
  pos : ℕ
  append : Bool

namespace ByteFile

variable (b : ByteFile)

/-- Where a write begins. -/
def writeAt : ℕ := if b.append then b.bytes.length else b.pos

def answer : FileCall → List UInt8
  | .read nbyte => (b.bytes.drop b.pos).take nbyte
  | _ => []

def effect : FileCall → ByteFile
  | .seekSet pos => { b with pos }
  | .read nbyte => { b with pos := b.pos + (b.answer (.read nbyte)).length }
  | .write src =>
    { b with
      bytes := b.bytes.take b.writeAt ++ src ++ b.bytes.drop (b.writeAt + src.length)
      pos := b.writeAt + src.length }

/-- What is before this the call leaves alone. -/
def kept : FileCall → ℕ
  | .write _ => b.writeAt
  | _ => b.bytes.length

/-- What is known of the file when the call fails. -/
def onFail : FileCall → Option ByteFile
  | .seekSet _ => some b
  | _ => none

variable {b} {b' : ByteFile}

theorem effect_append (call : FileCall) : (b.effect call).append = b.append := by
  cases call <;> rfl

/-- No call makes a file shorter. -/
theorem length_le_effect (call : FileCall) :
    b.bytes.length ≤ (b.effect call).bytes.length := by
  cases call with
  | seekSet pos => exact Nat.le_refl _
  | read nbyte => exact Nat.le_refl _
  | write src =>
    show _ ≤ (b.bytes.take b.writeAt ++ src ++ b.bytes.drop (b.writeAt + src.length)).length
    rw [List.length_append, List.length_append, List.length_take, List.length_drop]
    omega

theorem eq_of_onFail {call : FileCall} (h : b.onFail call = some b') : b' = b := by
  cases call with
  | seekSet pos => exact (Option.some.inj h).symm
  | read nbyte => exact (Option.some_ne_none _ h.symm).elim
  | write src => exact (Option.some_ne_none _ h.symm).elim

end ByteFile

namespace OpenFile

open Fallible FatPartition

variable {L : FatLayout} {v v' : FatPartition} {f : FatFile} {o : OpenFile} {l l' : List ℕ}
  {b b' : ByteFile} {pos : ℕ}

def perform (L : FatLayout) : FileCall → Fallible OpenFile (List UInt8)
  | .seekSet pos => do
    seekSet L pos
    pure []
  | .read nbyte => read L nbyte
  | .write src => do
    write L src
    pure []

/-- Why a call fails on a card that works. -/
def Refused (L : FatLayout) (o o' : OpenFile) : FileCall → Prop
  | .seekSet pos => o.file.fileSize < pos
  | .read _ => o.file.flagRead = false
  | .write src =>
    o.file.flagWrite = false ∨ 2 ^ 32 ≤ OpenFile.writeAt o.file + src.length ∨ Full L o'.vol

/-- The file is `b`, on `l`. -/
structure Follows (L : FatLayout) (v : FatPartition) (f : FatFile) (l : List ℕ) (b : ByteFile) :
    Prop extends Whole L v f l where
  cursor : Cursor L f l
  flagPreallocate : f.flagPreallocate = false
  inside : f.curPosition ≤ f.fileSize
  bytes : b.bytes = Memory.read (byteAt L l v) 0 f.fileSize
  pos : b.pos = f.curPosition
  append : b.append = f.flagAppend

theorem Follows.length_bytes (h : Follows L v f l b) : b.bytes.length = f.fileSize := by
  rw [h.bytes, Memory.length_read]

theorem Follows.writeAt (h : Follows L v f l b) : b.writeAt = OpenFile.writeAt f := by
  unfold ByteFile.writeAt OpenFile.writeAt
  rw [h.length_bytes, h.pos, h.append]

/-- It is the same file, and its entry is as up to date as `m_flags` says. -/
structure Noted (f f' : FatFile) : Prop extends SameEntry f f' where
  clean : f'.flagDirDirty = false →
    f.flagDirDirty = false ∧ f'.firstCluster = f.firstCluster ∧ f'.fileSize = f.fileSize

theorem Moved.noted {f' : FatFile} (h : Moved f f') : Noted f f' :=
  ⟨h.toSameEntry, fun hclean => ⟨h.flagDirDirty.symm.trans hclean, h.firstCluster, h.fileSize⟩⟩

theorem Stored.noted {o' : OpenFile} {src : List UInt8} (h : Stored L o l src o' l') :
    Noted o.file o'.file := by
  refine ⟨h.entry, fun hclean => ?_⟩
  have hno : ¬ (o.file.flagDirDirty = true ∨ o'.file.firstCluster ≠ o.file.firstCluster ∨
      o'.file.fileSize ≠ o.file.fileSize) := fun hd =>
    absurd ((h.dirty hd).symm.trans hclean).symm Bool.false_ne_true
  obtain ⟨hdirty, hrest⟩ := not_or.mp hno
  obtain ⟨hfirst, hsize⟩ := not_or.mp hrest
  exact ⟨Bool.eq_false_iff.mpr hdirty, not_not.mp hfirst, not_not.mp hsize⟩

/-- What has changed of the volume is the file's own from `pos` on, or was free. -/
def Own (L : FatLayout) (l : List ℕ) (pos : ℕ) (v v' : FatPartition) : Prop :=
  Kept L (IsLast l) (Beyond L v l pos) v v'

/-- The file with only the cursor moved. -/
theorem Follows.moved {f' : FatFile} (h : Follows L v f l b) (hmoved : Moved f f')
    (hsame : Same L v v') (hcursor : Cursor L f' l) (hinside : f'.curPosition ≤ f.fileSize)
    (hpos : b'.pos = f'.curPosition) (hbytes : b'.bytes = b.bytes) (happ : b'.append = b.append) :
    Follows L v' f' l b' where
  toWhole := h.toWhole.same hmoved hsame
  cursor := hcursor
  flagPreallocate := hmoved.flagPreallocate h.flagPreallocate
  inside := hmoved.fileSize ▸ hinside
  bytes := by
    rw [hbytes, h.bytes, hmoved.fileSize]
    unfold byteAt
    rw [hsame.mem]
  pos := hpos
  append := happ.trans (h.append.trans hmoved.flagAppend.symm)

/-- A call does to the file what it would do to an array of bytes. -/
theorem perform_meets (hv : o.vol.Coherent L) (hstart : 1 ≤ o.vol.allocSearchStart)
    (h : Follows L o.vol o.file l b) (call : FileCall) :
    (perform L call).Meets
      (fun bytes o' => bytes = b.answer call ∧ Own L l (b.kept call) o.vol o'.vol ∧
        Noted o.file o'.file ∧ ∃ l', Follows L o'.vol o'.file l' (b.effect call) ∧
          ∃ t, l' = l ++ t ∧ ∀ c ∈ t, Free L o.vol c)
      (fun o' => (o.vol.cache.Working → Refused L o o' call) ∧ Own L l (b.kept call) o.vol o'.vol ∧
        ∀ b', b.onFail call = some b' → Follows L o'.vol o'.file l b') o := by
  have hstays : ∃ t, l = l ++ t ∧ ∀ c ∈ t, Free L o.vol c :=
    ⟨[], (List.append_nil l).symm, fun _ hc => absurd hc List.not_mem_nil⟩
  cases call with
  | seekSet pos =>
    unfold perform
    rw [meets_bind]
    refine (seekSet_meets hv h.toOnChain h.cursor h.inside pos).mono (fun _ o' hseek => ?_)
      fun o' hfail => ?_
    · obtain ⟨hsame, hmoved, hcursor, hle, hpos⟩ := hseek
      exact ⟨rfl, hsame.kept, hmoved.noted, l,
        h.moved hmoved hsame hcursor (hpos.symm ▸ hle) hpos.symm rfl rfl, hstays⟩
    · obtain ⟨hsame, hfile, hbroken⟩ := hfail
      refine ⟨fun hw => ?_, hsame.kept, fun b' hb' => ?_⟩
      · by_contra hin
        exact hbroken (Nat.le_of_not_lt hin) hw
      · obtain rfl : b = b' := Option.some.inj hb'
        rw [hfile]
        exact h.moved (.refl _) hsame h.cursor h.inside h.pos rfl rfl
  | read nbyte =>
    unfold perform
    refine (read_meets hv h.toOnChain h.cursor h.inside nbyte).mono (fun bytes o' hread => ?_)
      fun o' hfail => ?_
    · obtain ⟨hsame, hmoved, hcursor, hpos, hbytes⟩ := hread
      have hin := h.inside
      have hlen := congrArg List.length hbytes
      rw [Memory.length_read] at hlen
      have hanswer : bytes = b.answer (.read nbyte) := by
        show bytes = (b.bytes.drop b.pos).take nbyte
        rw [h.bytes, h.pos, Memory.take_drop_read, Nat.zero_add]
        exact hbytes
      refine ⟨hanswer, hsame.kept, hmoved.noted, l,
        h.moved hmoved hsame hcursor (by omega) ?_ rfl rfl, hstays⟩
      show b.pos + (b.answer (.read nbyte)).length = o'.file.curPosition
      rw [← hanswer, h.pos, hpos]
    · obtain ⟨hsame, hbroken⟩ := hfail
      refine ⟨fun hw => ?_, hsame.kept, fun _ hno =>
        (Option.some_ne_none _ hno.symm).elim⟩
      unfold Refused
      rw [← Bool.not_eq_true]
      exact fun hread => hbroken hread hw
  | write src =>
    unfold perform
    rw [meets_bind]
    have hown : ∀ {v : FatPartition},
        Kept L (IsLast l) (Beyond L o.vol l (OpenFile.writeAt o.file)) o.vol v →
          Own L l (b.kept (.write src)) o.vol v := by
      intro v hkept
      rw [← h.writeAt] at hkept
      exact hkept
    refine (write_meets hv hstart h.toWhole h.cursor h.flagPreallocate h.inside src).mono
      (fun _ o' hwrite => ?_) fun o' hfail => ?_
    · obtain ⟨l', hstored⟩ := hwrite
      have hsize := hstored.fileSize
      have hpos := hstored.curPosition
      refine ⟨rfl, hown hstored.kept, hstored.noted, l', ?_, hstored.more⟩
      exact {
        toWhole := hstored.whole
        cursor := hstored.cursor
        flagPreallocate := hstored.entry.flagPreallocate h.flagPreallocate
        inside := by omega
        bytes := by
          rw [hstored.bytes, ← h.writeAt, ← h.bytes]
          rfl
        pos := by
          rw [hpos, ← h.writeAt]
          rfl
        append := h.append.trans hstored.entry.flagAppend.symm }
    · obtain ⟨hkept, hfull⟩ := hfail
      refine ⟨fun hw => ?_, hown hkept, fun _ hno =>
        (Option.some_ne_none _ hno.symm).elim⟩
      unfold Refused
      by_cases hmode : o.file.flagWrite = true
      · by_cases hfits : OpenFile.writeAt o.file + src.length < 2 ^ 32
        · exact .inr (.inr (hfull hw hmode hfits))
        · exact .inr (.inl (Nat.le_of_not_lt hfits))
      · exact .inl (Bool.not_eq_true _ ▸ hmode)

/-- What one file may change is not in another. -/
theorem Whole.not_beyond (h : Whole L v f l) (hrange : ∀ c ∈ l', L.InRange c)
    (hdisjoint : l.Disjoint l') {p : ℕ} (hp : p < l.length * L.clusterSize) :
    ¬ Beyond L v l' pos (L.fileAddr l p) := by
  obtain ⟨c, hc, hmem⟩ := FatLayout.exists_cluster hp
  have hin := FatLayout.fileAddr_in (L := L) hc
  rintro (⟨d, hfree, hd⟩ | ⟨q, -, hq, heq⟩)
  · obtain rfl := FatLayout.inCluster_unique (h.range c hmem) hfree.1 hin hd
    exact h.used hmem hfree.2
  · obtain ⟨d, hd, hmem'⟩ := FatLayout.exists_cluster hq
    have hin' := FatLayout.fileAddr_in (L := L) hd
    rw [← heq] at hin'
    obtain rfl := FatLayout.inCluster_unique (h.range c hmem) (hrange d hmem') hin hin'
    exact hdisjoint hmem hmem'

/-- A file is what it was as long as its bytes are, and the numbers of its clusters. -/
theorem Follows.congr (h : Follows L v f l b) (hnext : ∀ c ∈ l, v'.next L c = v.next L c)
    (hbyte : ∀ p < f.fileSize, byteAt L l v' p = byteAt L l v p) : Follows L v' f l b where
  toWhole :=
    { h.toOnChain.congr (.refl f) hnext with
      ends := h.ends.congr hnext }
  cursor := h.cursor
  flagPreallocate := h.flagPreallocate
  inside := h.inside
  bytes := by
    rw [h.bytes]
    refine Memory.read_congr fun i hi => ?_
    rw [Nat.zero_add]
    exact (hbyte i hi).symm
  pos := h.pos
  append := h.append

/-- A file keeps what it holds through a call to another one. -/
theorem Follows.others (h : Follows L v f l b) (hrange : ∀ c ∈ l', L.InRange c)
    (hdisjoint : l.Disjoint l') (hown : Own L l' pos v v') : Follows L v' f l b := by
  refine h.congr (fun c hc => ?_) fun p hp => ?_
  · exact congrArg L.link (hown.table (h.range c hc)
      (fun hlast => hdisjoint hc (List.mem_of_getLast? hlast)) (h.toWhole.used hc))
  · have hin : p < l.length * L.clusterSize := Nat.lt_of_lt_of_le hp h.room
    obtain ⟨c, hc, -⟩ := FatLayout.exists_cluster hin
    exact hown.outside (FatLayout.fileAddr_in hc).not_table
      (h.toWhole.not_beyond hrange hdisjoint hin)

end OpenFile

/-! ## Many files -/

/-- A volume and its open files. -/
structure OpenFiles (ι : Type) where
  vol : FatPartition
  file : ι → FatFile

namespace OpenFiles

open Fallible FatPartition OpenFile

variable {ι : Type} [DecidableEq ι] {L : FatLayout} {s : OpenFiles ι}
  {known : ι → Option ByteFile} {l : ι → List ℕ} {l' : List ℕ} {i : ι} {b : ByteFile} {o : OpenFile}
  {pos : ℕ}

def one (s : OpenFiles ι) (i : ι) : OpenFile := ⟨s.vol, s.file i⟩

def put (s : OpenFiles ι) (i : ι) (o : OpenFile) : OpenFiles ι :=
  ⟨o.vol, Function.update s.file i o.file⟩

theorem put_file_self : (s.put i o).file i = o.file := Function.update_self ..

theorem put_file_ne {j : ι} (h : j ≠ i) : (s.put i o).file j = s.file j :=
  Function.update_of_ne h ..

/-- What is known of the files when a call has returned. Nothing, if it was to a file of
which nothing is known. -/
def learn (known : ι → Option ByteFile) (e : ι × FileCall) (r : Option (List UInt8)) :
    ι → Option ByteFile :=
  match known e.1 with
  | none => fun _ => none
  | some b => Function.update known e.1 (if r.isSome then some (b.effect e.2) else b.onFail e.2)

/-- A call to one of the files. -/
def step (L : FatLayout) (s : OpenFiles ι × (ι → Option ByteFile)) (e : ι × FileCall) :
    OpenFiles ι × (ι → Option ByteFile) :=
  let r := perform L e.2 (s.1.one e.1)
  (s.1.put e.1 r.2, learn s.2 e r.1)

/-- The files of which anything is known are that, each on clusters of its own. -/
structure Tracked (L : FatLayout) (s : OpenFiles ι) (known : ι → Option ByteFile)
    (l : ι → List ℕ) : Prop where
  coherent : ∀ i b, known i = some b → s.vol.Coherent L
  start : ∀ i b, known i = some b → 1 ≤ s.vol.allocSearchStart
  file : ∀ i b, known i = some b → Follows L s.vol (s.file i) (l i) b
  apart : ∀ i j b b', i ≠ j → known i = some b → known j = some b' → (l i).Disjoint (l j)

/-- The call does what it would do to an array of bytes, or fails for a reason. -/
def AsArray (L : FatLayout) (s : OpenFiles ι × (ι → Option ByteFile)) (e : ι × FileCall) : Prop :=
  ∀ b, s.2 e.1 = some b →
    (perform L e.2).Meets (fun bytes _ => bytes = b.answer e.2)
      (fun o' => s.1.vol.cache.Working → Refused L (s.1.one e.1) o' e.2) (s.1.one e.1)

/-- One file has changed, and all that it has taken in was free. -/
theorem Tracked.put (h : Tracked L s known l) (hi : known i = some b)
    (hown : Own L (l i) pos s.vol o.vol) (hmore : ∃ t, l' = l i ++ t ∧ ∀ c ∈ t, Free L s.vol c)
    {r : Option ByteFile} (hnew : ∀ b', r = some b' → Follows L o.vol o.file l' b') :
    Tracked L (s.put i o) (Function.update known i r) (Function.update l i l') := by
  have hothers : ∀ j b', j ≠ i → Function.update known i r j = some b' → known j = some b' := by
    intro j b' hne hj
    rwa [Function.update_of_ne hne] at hj
  -- what the file has taken in is none of the others'
  have hfree : ∀ j b', j ≠ i → known j = some b' → (l j).Disjoint l' := by
    intro j b' hne hj c hc hc'
    obtain ⟨t, rfl, ht⟩ := hmore
    rcases List.mem_append.mp hc' with hold | hnew
    · exact h.apart j i b' b hne hj hi hc hold
    · exact (h.file j b' hj).toWhole.used hc (ht c hnew).2
  refine ⟨fun _ _ _ => hown.coherent, fun _ _ _ => hown.start (h.start i b hi), ?_, ?_⟩
  · intro j b' hj
    by_cases heq : j = i
    · subst heq
      rw [Function.update_self] at hj ⊢
      rw [put_file_self]
      exact hnew b' hj
    · have hj' := hothers j b' heq hj
      rw [put_file_ne heq, Function.update_of_ne heq]
      exact (h.file j b' hj').others (h.file i b hi).range (h.apart j i b' b heq hj' hi) hown
  · intro j k b₁ b₂ hne hj hk
    by_cases hji : j = i
    · subst hji
      rw [Function.update_self, Function.update_of_ne hne.symm]
      exact (hfree k b₂ hne.symm (hothers k b₂ hne.symm hk)).symm
    · by_cases hki : k = i
      · subst hki
        rw [Function.update_self, Function.update_of_ne hne]
        exact hfree j b₁ hne (hothers j b₁ hne hj)
      · rw [Function.update_of_ne hji, Function.update_of_ne hki]
        exact h.apart j k b₁ b₂ hne (hothers j b₁ hji hj) (hothers k b₂ hki hk)

/-- What a step does: the law, what it may change, and what is known next. -/
theorem step_tracked {s : OpenFiles ι × (ι → Option ByteFile)} (h : Tracked L s.1 s.2 l)
    (e : ι × FileCall) :
    AsArray L s e ∧
      (∀ b, s.2 e.1 = some b → Own L (l e.1) (b.kept e.2) s.1.vol (step L s e).1.vol) ∧
      ∃ l', Tracked L (step L s e).1 (step L s e).2 l' ∧
        ∀ j b', (step L s e).2 j = some b' →
          ∃ b t, s.2 j = some b ∧ l' j = l j ++ t ∧ (b' = b ∨ b' = b.effect e.2) := by
  unfold AsArray step learn
  cases hk : s.2 e.1 with
  | none =>
    have hno : ∀ {b : ByteFile} {P : Prop}, none = some b → P := fun hno =>
      (Option.some_ne_none _ hno.symm).elim
    exact ⟨fun _ => hno, fun _ => hno, l, ⟨fun _ _ => hno, fun _ _ => hno, fun _ _ => hno,
      fun _ _ _ _ _ => hno⟩, fun _ _ => hno⟩
  | some b =>
    have hmeets := perform_meets (o := s.1.one e.1) (h.coherent _ b hk) (h.start _ b hk)
      (h.file _ b hk) e.2
    -- the file that is called, and the others
    have hnext : ∀ (r : Option ByteFile) (l' : List ℕ), (∃ t, l' = l e.1 ++ t) →
        (∀ b', r = some b' → b' = b ∨ b' = b.effect e.2) →
        ∀ j b', Function.update s.2 e.1 r j = some b' →
          ∃ b t, s.2 j = some b ∧ Function.update l e.1 l' j = l j ++ t ∧
            (b' = b ∨ b' = b.effect e.2) := by
      rintro r l' ⟨t, ht⟩ hr j b' hj
      by_cases heq : j = e.1
      · subst heq
        rw [Function.update_self] at hj ⊢
        exact ⟨b, t, hk, ht, hr b' hj⟩
      · rw [Function.update_of_ne heq] at hj ⊢
        exact ⟨b', [], hj, (List.append_nil _).symm, .inl rfl⟩
    refine ⟨fun b' hb' => ?_, fun b' hb' => ?_, ?_⟩
    · obtain rfl : b = b' := Option.some.inj hb'
      exact hmeets.mono (fun _ _ hdone => hdone.1) fun _ hfail => hfail.1
    · obtain rfl : b = b' := Option.some.inj hb'
      exact (hmeets.mono (fun _ _ hdone => hdone.2.1) fun _ hfail => hfail.2.1).after
    · rcases hp : perform L e.2 (s.1.one e.1) with ⟨_ | bytes, o⟩
      · obtain ⟨-, hown, hfollows⟩ := hmeets.of_none hp
        have hsame : ∃ t, l e.1 = l e.1 ++ t ∧ ∀ c ∈ t, Free L s.1.vol c :=
          ⟨[], (List.append_nil _).symm, fun _ hc => absurd hc List.not_mem_nil⟩
        exact ⟨_, h.put hk hown hsame hfollows,
          hnext _ _ ⟨[], (List.append_nil _).symm⟩ fun b' hb' => .inl (ByteFile.eq_of_onFail hb')⟩
      · obtain ⟨-, hown, -, l', hfollows, hmore⟩ := hmeets.of_some hp
        obtain ⟨t, ht, -⟩ := id hmore
        refine ⟨_, h.put hk hown hmore fun b' hb' => ?_,
          hnext _ _ ⟨t, ht⟩ fun b' hb' => .inr (Option.some.inj hb').symm⟩
        obtain rfl : b.effect e.2 = b' := Option.some.inj hb'
        exact hfollows

/-- **Files are arrays of bytes.** In every run of calls to the open files of a volume,
whatever the device does to them, a call to a file that has not failed half way does
what it would do to an array of bytes with a position, and on a card that works it fails
only where it is refused or the volume is full. So it is at the end of the run. -/
theorem files_are_arrays (h : Tracked L s known l) (es : List (ι × FileCall)) :
    EventRun.EachStep (step L) (AsArray L) (s, known) es ∧
      ∃ l', Tracked L (EventRun.run (step L) (s, known) es).1
        (EventRun.run (step L) (s, known) es).2 l' := by
  have hstep : ∀ (s : OpenFiles ι × (ι → Option ByteFile)) e, (∃ l, Tracked L s.1 s.2 l) →
      AsArray L s e ∧ ∃ l', Tracked L (step L s e).1 (step L s e).2 l' := by
    rintro s e ⟨l, h⟩
    obtain ⟨harray, -, l', h', -⟩ := step_tracked h e
    exact ⟨harray, l', h'⟩
  exact ⟨EventRun.EachStep.of_invariant hstep ⟨l, h⟩ es,
    EventRun.run_keeps (fun s e hs => (hstep s e hs).2) ⟨l, h⟩ es⟩

/-! Two files with nothing in them yet, on a volume of three clusters. -/

def emptyFile : FatFile :=
  { closedFile 0 with
    attributes := 0x08
    flagRead := true
    flagWrite := true }

theorem emptyFile_follows (L : FatLayout) (v : FatPartition) :
    Follows L v emptyFile [] ⟨[], 0, false⟩ where
  file := rfl
  rootFixed := rfl
  root32 := rfl
  chain := .nil
  range _ hc := absurd hc List.not_mem_nil
  first := rfl
  contiguous hf := absurd hf Bool.false_ne_true
  room := Nat.zero_le _
  small := by decide
  ends := trivial
  cursor := ⟨fun _ => rfl, fun hpos => absurd hpos (Nat.lt_irrefl 0)⟩
  flagPreallocate := rfl
  inside := Nat.le_refl 0
  bytes := rfl
  pos := rfl
  append := rfl

def twoFiles : OpenFiles Bool := ⟨emptyVolume, fun _ => emptyFile⟩

theorem twoFiles_tracked :
    Tracked smallLayout twoFiles (fun _ => some ⟨[], 0, false⟩) fun _ => [] where
  coherent _ _ _ := emptyVolume_coherent
  start _ _ _ := Nat.le_refl 1
  file _ b hb := by
    obtain rfl : _ = b := Option.some.inj hb
    exact emptyFile_follows _ _
  apart _ _ _ _ _ _ _ := List.disjoint_nil_left _

/-- Each is written, and one of them read. -/
def twoFileCalls : List (Bool × FileCall) :=
  [(true, .write [1, 2, 3]), (false, .write [4]), (true, .seekSet 1), (true, .read 5)]

theorem files_are_arrays_two :
    EventRun.EachStep (step smallLayout) (AsArray smallLayout)
      (twoFiles, fun _ => some ⟨[], 0, false⟩) twoFileCalls :=
  (files_are_arrays twoFiles_tracked twoFileCalls).1

end OpenFiles

end Heimdall
