import Heimdall.Storage.CacheRun
import Heimdall.Storage.FatTable
import Mathlib.Data.Finset.Card
import Mathlib.Order.Interval.Finset.Nat

/-!
# Allocating and freeing clusters

A file grows by `allocateCluster`, which takes a free cluster, ends a chain there and
links it behind the file's last one, and shrinks by `freeChain`, which follows a chain
and sets its numbers to 0. Every call of theirs to the table can fail, and leaves the
table half changed if it does.

`Kept` is what other files are promised whatever happens: a cluster in use that is not
one of the caller's keeps its number, and bytes outside the table are left alone.
`allocateCluster_meets` and `freeChain_meets` have it in both outcomes. The first also
says what was taken, and that a search fails only if there is nothing free above
`m_allocSearchStart`, where every search but a file's own continuation starts.

`freeChain_ends` needs no chain. On any table, however its numbers lead in circles or
into other files, the loop comes to an end by itself, since it clears what it goes
through and a cleared number leads to cluster 0, which there is none of.
-/

namespace Heimdall

namespace FatPartition

open Fallible

/-- The clusters after `find`, up to the first that is free. -/
def searchUp (L : FatLayout) (current : ℕ) : ℕ → ℕ → Fallible FatPartition (Option ℕ)
  | 0, _ => pure none
  | todo + 1, find => do
    require (find + 1 != current)
    let f ← fatGet L (find + 1)
    if f = some 0 then pure (some (find + 1)) else searchUp L current todo (find + 1)

/-- Ends a chain at the cluster that was found, and links it behind `current`. -/
def linkFound (L : FatLayout) (current find : ℕ) : Fallible FatPartition ℕ := do
  fatPutEOC L find
  given (current != 0) (fatPut L current find)
  pure find

def takeFound (L : FatLayout) (current find : ℕ) (setStart : Bool) : Fallible FatPartition ℕ := do
  given setStart (change fun v => { v with allocSearchStart := find })
  linkFound L current find

/-- One pass upwards from `current`, and if that is past `m_allocSearchStart` another
one from there. -/
def allocateCluster (L : FatLayout) (current : ℕ) : Fallible FatPartition ℕ := do
  let v ← state
  let setStart := !decide (v.allocSearchStart < current)
  let start := if setStart then v.allocSearchStart else current
  match ← searchUp L current (L.lastCluster - start) start with
  | some find => takeFound L current find setStart
  | none => do
    require (!setStart)
    match ← searchUp L current (L.lastCluster - v.allocSearchStart) v.allocSearchStart with
    | some find => takeFound L current find true
    | none => fail

/-- Searches start below a cluster that is freed. -/
def lower (start cluster : ℕ) : ℕ := if cluster < start then cluster - 1 else start

def lowerStart (cluster : ℕ) (v : FatPartition) : FatPartition :=
  { v with allocSearchStart := lower v.allocSearchStart cluster }

/-- The loop of `freeChain`, at most `fuel` times: the cluster it was to free next when
it was stopped, or none when it came to the end. -/
def freeChainLoop (L : FatLayout) : ℕ → ℕ → Fallible FatPartition (Option ℕ)
  | 0, cluster => pure (some cluster)
  | fuel + 1, cluster => do
    let fg ← fatGet L cluster
    fatPut L cluster 0
    change (lowerStart cluster)
    match fg with
    | none => pure none
    | some next => freeChainLoop L fuel next

/-- The loop is never stopped, see `freeChain_ends`. -/
def freeChain (L : FatLayout) (cluster : ℕ) : Fallible FatPartition Unit := do
  let _ ← freeChainLoop L (L.lastCluster + 1) cluster
  pure ()

/-! ## What others are promised -/

variable {L : FatLayout} {v v' v'' : FatPartition} {own own' bytes bytes' : ℕ → Prop}
  {cluster current n d : ℕ}

/-- What a caller may change: the numbers of its own clusters and of free ones, and
`bytes` outside the table. -/
def Changed (L : FatLayout) (own bytes : ℕ → Prop) (v : FatPartition) (x : ℕ) : Prop :=
  (∃ c, L.InRange c ∧ (own c ∨ v.entry L c = 0) ∧ L.InEntry c x) ∨ ¬ L.InTable x ∧ bytes x

/-- The rest is as it was, in view, and on the card as far as it can be. -/
structure Kept (L : FatLayout) (own bytes : ℕ → Prop) (v v' : FatPartition) : Prop where
  coherent : v'.Coherent L
  working : v.cache.Working → v'.cache.Working
  atomic : v.cache.Atomic → v'.cache.Atomic
  start : 1 ≤ v.allocSearchStart → 1 ≤ v'.allocSearchStart
  mem : ∀ x, ¬ Changed L own bytes v x → v'.mem L x = v.mem L x
  flushed : v.cache.Atomic → Flushed L (¬ Changed L own bytes v ·) v v'

def nobody : ℕ → Prop := fun _ => False

theorem Same.kept (h : Same L v v') : Kept L own bytes v v' :=
  ⟨h.coherent, h.working, h.atomic, fun hs => h.alloc ▸ hs, fun x _ => congrFun h.mem x,
    fun ha => (h.flushed ha).mono fun _ _ => trivial⟩

theorem Put.kept {value : ℕ} (h : Put L cluster value v v')
    (hown : own cluster ∨ v.entry L cluster = 0) : Kept L own bytes v v' := by
  refine ⟨h.coherent, h.working, h.atomic, fun hs => h.alloc ▸ hs, fun x hx => ?_,
    fun ha => (h.flushed ha).mono fun _ _ => trivial⟩
  rw [h.mem, Memory.write_outside]
  rw [LittleEndian.length_encode]
  by_contra hin
  exact hx (.inl ⟨cluster, h.range, hown, by omega, by omega⟩)

theorem Changed.mono {x : ℕ} (h : Changed L own bytes v x)
    (hown : ∀ c, L.InRange c → own c ∨ v.entry L c = 0 → own' c ∨ v'.entry L c = 0)
    (hbytes : ∀ x, bytes x → bytes' x) : Changed L own' bytes' v' x :=
  h.imp (fun ⟨c, hc, ho, hx⟩ => ⟨c, hc, hown c hc ho, hx⟩) fun ⟨ht, hb⟩ => ⟨ht, hbytes x hb⟩

theorem Kept.mono (h : Kept L own bytes v v') (hown : ∀ c, L.InRange c → own c → own' c)
    (hbytes : ∀ x, bytes x → bytes' x) : Kept L own' bytes' v v' := by
  have hsub : ∀ x, ¬ Changed L own' bytes' v x → ¬ Changed L own bytes v x := fun x hx hc =>
    hx (hc.mono (fun c hin ho => ho.imp_left (hown c hin)) hbytes)
  exact ⟨h.coherent, h.working, h.atomic, h.start, fun x hx => h.mem x (hsub x hx),
    fun ha => (h.flushed ha).mono hsub⟩

/-- A cluster in use keeps its number, unless it is one's own. -/
theorem Kept.table (h : Kept L own bytes v v') {c : ℕ} (hc : L.InRange c) (hn : ¬ own c)
    (hused : v.entry L c ≠ 0) : v'.entry L c = v.entry L c := by
  have hin := L.entryAddr_in_table hc
  unfold entry
  refine congrArg _ (Memory.read_congr fun i hi => h.mem _ fun hchanged => ?_)
  rcases hchanged with ⟨d, -, ho, hx⟩ | ⟨ht, -⟩
  · obtain rfl := L.inEntry_unique (c := c) ⟨Nat.le_add_right _ _, by omega⟩ hx
    exact ho.elim hn hused
  · exact ht ⟨by omega, by omega⟩

/-- Outside the table there are only `bytes`. -/
theorem Kept.outside (h : Kept L own bytes v v') {x : ℕ} (ht : ¬ L.InTable x) (hx : ¬ bytes x) :
    v'.mem L x = v.mem L x := by
  refine h.mem x fun hchanged => ?_
  rcases hchanged with ⟨d, hd, -, hlo, hhi⟩ | ⟨-, hb⟩
  · have hin := L.entryAddr_in_table hd
    exact ht ⟨by omega, by omega⟩
  · exact hx hb

/-- One after the other. What was free when the first began may be anyone's in the
second. -/
theorem Kept.trans (h : Kept L own bytes v v') (h' : Kept L own' bytes v' v'')
    (hown : ∀ c, own' c → own c ∨ v.entry L c = 0) : Kept L own bytes v v'' := by
  have hsub : ∀ x, ¬ Changed L own bytes v x → ¬ Changed L own' bytes v' x := by
    intro x hx hchanged
    refine hx (hchanged.mono (fun c hc ho => ?_) fun _ hb => hb)
    rcases ho with ho | hfree
    · exact hown c ho
    · by_contra hn
      obtain ⟨hno, hused⟩ := not_or.mp hn
      exact hused ((h.table hc hno hused).symm.trans hfree)
  exact ⟨h'.coherent, fun hw => h'.working (h.working hw), fun ha => h'.atomic (h.atomic ha),
    fun hs => h'.start (h.start hs), fun x hx => (h'.mem x (hsub x hx)).trans (h.mem x hx),
    fun ha => (h.flushed ha).trans ((h'.flushed (h.atomic ha)).mono hsub) h.mem⟩

theorem Kept.after (h : Kept L own bytes v v') (h' : Kept L own bytes v' v'') :
    Kept L own bytes v v'' := h.trans h' fun _ hc => .inl hc

theorem Kept.of_nobody (h : Kept L nobody nobody v v') : Kept L own bytes v v' :=
  h.mono (fun _ _ h => h.elim) fun _ h => h.elim

/-- Where the next search starts is not part of the volume. -/
theorem Kept.of_start {k : ℕ} (hk : 1 ≤ k)
    (h : Kept L own bytes { v with allocSearchStart := k } v') : Kept L own bytes v v' :=
  ⟨h.coherent, h.working, h.atomic, fun _ => h.start hk, h.mem, h.flushed⟩

theorem Kept.to_start {k : ℕ} (hk : 1 ≤ v.allocSearchStart → 1 ≤ k)
    (h : Kept L own bytes v v') : Kept L own bytes v { v' with allocSearchStart := k } :=
  ⟨h.coherent, h.working, h.atomic, hk, h.mem, h.flushed⟩

/-! ## Searching -/

/-- A cluster that may be taken. -/
def Free (L : FatLayout) (v : FatPartition) (c : ℕ) : Prop := L.InRange c ∧ v.entry L c = 0

theorem next_eq_zero_iff : v.next L cluster = some 0 ↔ v.entry L cluster = 0 := by
  unfold next FatLayout.link FatLayout.isEOC
  constructor
  · intro h
    by_cases heoc : L.lastCluster < v.entry L cluster
    · rw [if_pos (decide_eq_true heoc)] at h
      exact absurd h.symm (Option.some_ne_none 0)
    · rw [if_neg (by simpa using heoc)] at h
      exact Option.some.inj h
  · intro h
    rw [h]
    exact if_neg (by simp)

theorem searchUp_meets (hv : v.Coherent L) (current todo find : ℕ) (hfind : 1 ≤ find)
    (htodo : todo ≤ L.lastCluster - find) :
    (searchUp L current todo find).Meets
      (fun r v' => Same L v v' ∧ (∀ n, r = some n → find < n ∧ n ≠ current ∧ Free L v n ∧
          ∀ m, find < m → m < n → v.entry L m ≠ 0) ∧
        (r = none → ∀ m, find < m → m ≤ find + todo → m ≠ current ∧ v.entry L m ≠ 0))
      (fun v' => Same L v v' ∧ (v.cache.Working → find < current ∧ current ≤ find + todo ∧
        ∀ m, find < m → m < current → v.entry L m ≠ 0)) v := by
  induction todo generalizing find v with
  | zero =>
    refine ⟨hv.same, fun n h => absurd h.symm (Option.some_ne_none n), fun _ m h h' => ?_⟩
    omega
  | succ todo ih =>
    unfold searchUp
    rw [meets_bind, meets_require]
    refine ⟨fun hne => ?_, fun heq => ?_⟩
    · have hne' : find + 1 ≠ current := by simpa using hne
      rw [meets_bind]
      refine (fatGet_meets hv (find + 1)).mono (fun f v₁ h => ?_) fun v₁ h => ?_
      · obtain ⟨hsame, hrange, rfl⟩ := h
        by_cases hfree : v.entry L (find + 1) = 0
        · rw [if_pos (next_eq_zero_iff.mpr hfree)]
          refine ⟨hsame, fun n hn => ?_, fun hn => absurd hn (Option.some_ne_none _)⟩
          obtain rfl := Option.some.inj hn
          exact ⟨by omega, hne', ⟨hrange, hfree⟩, fun m h h' => by omega⟩
        · rw [if_neg fun h => hfree (next_eq_zero_iff.mp h)]
          have hentry := hsame.entry
          -- the clusters looked at so far are not free
          have hpast : ∀ m, find < m → (find + 1 < m → v.entry L m ≠ 0) → v.entry L m ≠ 0 := by
            intro m hm hrest
            by_cases heq : m = find + 1
            · rwa [heq]
            · exact hrest (by omega)
          refine (ih hsame.coherent (find + 1) (by omega) (by omega)).mono
            (fun r v₂ h => ?_) fun v₂ h => ?_
          · obtain ⟨hsame₂, hsome, hnone⟩ := h
            rw [hentry] at hnone
            refine ⟨hsame.trans hsame₂, fun n hn => ?_, fun hn m hm hle => ?_⟩
            · obtain ⟨hlt, hcur, ⟨hr, hz⟩, hbetween⟩ := hsome n hn
              rw [hentry] at hz
              rw [hentry] at hbetween
              exact ⟨by omega, hcur, ⟨hr, hz⟩,
                fun m hm hmn => hpast m hm fun hm' => hbetween m hm' hmn⟩
            · refine ⟨?_, hpast m hm fun hm' => (hnone hn m hm' (by omega)).2⟩
              by_cases heq : m = find + 1
              · rwa [heq]
              · exact (hnone hn m (by omega) (by omega)).1
          · obtain ⟨hsame₂, hwhy⟩ := h
            refine ⟨hsame.trans hsame₂, fun hw => ?_⟩
            obtain ⟨hlt, hle, hbetween⟩ := hwhy (hsame.working hw)
            rw [hentry] at hbetween
            exact ⟨by omega, by omega, fun m hm hmc => hpast m hm fun hm' => hbetween m hm' hmc⟩
      · refine ⟨h.1, fun hw => absurd hw (h.2 ⟨by omega, by omega⟩)⟩
    · have heq' : find + 1 = current := by simpa using heq
      exact ⟨hv.same, fun _ => ⟨by omega, by omega, fun m hm hmc => by omega⟩⟩

/-! ## Allocating -/

/-- `n` has been taken: it ends a chain, behind `current`. -/
structure Allocated (L : FatLayout) (current n : ℕ) (v v' : FatPartition) : Prop where
  free : Free L v n
  other : n ≠ current
  kept : Kept L (· = current) nobody v v'
  ends : v'.next L n = none
  used : v'.entry L n ≠ 0
  follows : current ≠ 0 → v'.next L current = some n
  rest : ∀ d, d ≠ n → d ≠ current ∨ current = 0 → v'.entry L d = v.entry L d

theorem linkFound_meets (hv : v.Coherent L) (hfree : Free L v n) (hne : n ≠ current) :
    (linkFound L current n).Meets
      (fun r v' => r = n ∧ Allocated L current n v v' ∧ v'.allocSearchStart = v.allocSearchStart)
      (fun v' => Kept L nobody nobody v v' ∧
        (current = 0 ∨ L.InRange current → ¬ v.cache.Working)) v := by
  unfold linkFound
  rw [meets_bind]
  refine (fatPutEOC_meets hv n).mono (fun _ v₁ hput => ?_)
    fun v₁ h => ⟨h.1.kept, fun _ => h.2 hfree.1⟩
  have hkept : Kept L nobody nobody v v₁ := hput.kept (.inr hfree.2)
  have hused : v₁.entry L n ≠ 0 := by
    rw [hput.entry_eoc]
    cases L.fatType <;> decide
  rw [meets_bind, meets_given]
  refine ⟨fun hcur => ?_, fun hcur => ?_⟩
  · have hcur' : current ≠ 0 := by simpa using hcur
    refine (fatPut_meets hput.coherent current n).mono (fun _ v₂ hlink => ?_) fun v₂ h => ?_
    · refine ⟨rfl, ?_, hlink.alloc.trans hput.alloc⟩
      exact {
        free := hfree
        other := hne
        kept := hkept.of_nobody.after (hlink.kept (.inl rfl))
        ends := (hlink.next_other hne).trans hput.next_eoc
        used := by rwa [hlink.entry_other hne]
        follows := fun _ => hlink.next_link hfree.1
        rest := fun d hdn hdc => (hlink.entry_other (hdc.resolve_right hcur')).trans
          (hput.entry_other hdn) }
    · refine ⟨hkept.after h.1.kept, fun hrange hw => ?_⟩
      exact h.2 (hrange.resolve_left hcur') (hput.working hw)
  · have hcur' : current = 0 := by simpa using hcur
    refine ⟨rfl, ?_, hput.alloc⟩
    exact {
      free := hfree
      other := hne
      kept := hkept.of_nobody
      ends := hput.next_eoc
      used := hused
      follows := fun h => absurd hcur' h
      rest := fun d hdn _ => hput.entry_other hdn }

theorem takeFound_meets (hv : v.Coherent L) (hfree : Free L v n) (hne : n ≠ current)
    (setStart : Bool) :
    (takeFound L current n setStart).Meets
      (fun r v' => r = n ∧ Allocated L current n v v' ∧
        v'.allocSearchStart = if setStart then n else v.allocSearchStart)
      (fun v' => Kept L nobody nobody v v' ∧
        (current = 0 ∨ L.InRange current → ¬ v.cache.Working)) v := by
  unfold takeFound
  rw [meets_bind, meets_given]
  refine ⟨fun hset => ?_, fun hset => ?_⟩
  · have hn : 1 ≤ n := Nat.le_of_succ_le hfree.1.1
    refine (linkFound_meets (v := { v with allocSearchStart := n }) hv hfree hne).mono
      (fun r v' h => ?_) fun v' h => ⟨h.1.of_start hn, h.2⟩
    obtain ⟨rfl, hall, hstart⟩ := h
    refine ⟨rfl, { hall with kept := hall.kept.of_start hn }, ?_⟩
    rw [if_pos hset]
    exact hstart
  · rw [if_neg (by simpa using hset)]
    exact linkFound_meets hv hfree hne

theorem Same.free (h : Same L v v') (hfree : Free L v n) : Free L v' n :=
  ⟨hfree.1, (congrFun h.entry n).trans hfree.2⟩

theorem Allocated.of_same (h : Same L v v') (h' : Allocated L current n v' v'') :
    Allocated L current n v v'' where
  free := ⟨h'.free.1, (congrFun h.entry n).symm.trans h'.free.2⟩
  other := h'.other
  kept := h.kept.after h'.kept
  ends := h'.ends
  used := h'.used
  follows := h'.follows
  rest := fun d hdn hdc => (h'.rest d hdn hdc).trans (congrFun h.entry d)

/-- Taking what a search has found. -/
theorem takeFound_after (h : Same L v v') (hfree : Free L v n) (hne : n ≠ current)
    (setStart : Bool) :
    (takeFound L current n setStart).Meets
      (fun r v'' => r = n ∧ Allocated L current n v v'' ∧
        v''.allocSearchStart = if setStart then n else v.allocSearchStart)
      (fun v'' => Kept L nobody nobody v v'' ∧
        (current = 0 ∨ L.InRange current → ¬ v.cache.Working)) v' := by
  refine (takeFound_meets h.coherent (h.free hfree) hne setStart).mono (fun r v'' h' => ?_)
    fun v'' h' => ⟨h.kept.after h'.1, fun hr hw => h'.2 hr (h.working hw)⟩
  obtain ⟨rfl, hall, halloc⟩ := h'
  rw [h.alloc] at halloc
  exact ⟨rfl, hall.of_same h, halloc⟩

/-- What `allocateCluster` does. Whether it finds a cluster is a matter of those above
`m_allocSearchStart` alone. -/
theorem allocateCluster_meets (hv : v.Coherent L) (hstart : 1 ≤ v.allocSearchStart)
    (current : ℕ) :
    (allocateCluster L current).Meets
      (fun n v' => Allocated L current n v v' ∧
        (current ≤ v.allocSearchStart → v'.allocSearchStart = n ∧ v.allocSearchStart < n ∧
          ∀ m, v.allocSearchStart < m → m < n → v.entry L m ≠ 0))
      (fun v' => Kept L nobody nobody v v' ∧
        (current = 0 ∨ L.InRange current → v.cache.Working → Same L v v' ∧
          ∀ m, v.allocSearchStart < m → m ≤ L.lastCluster → m ≠ current →
            v.entry L m ≠ 0)) v := by
  unfold allocateCluster
  rw [meets_bind, meets_state, meets_bind]
  by_cases hlt : v.allocSearchStart < current
  · have hset : (!decide (v.allocSearchStart < current)) = false := by simpa using hlt
    rw [hset, if_neg Bool.false_ne_true]
    refine (searchUp_meets hv current _ current (by omega) (Nat.le_refl _)).mono
      (fun r v₁ h => ?_) fun v₁ h => ?_
    · obtain ⟨hsame, hsome, hnone⟩ := h
      cases r with
      | some n =>
        obtain ⟨-, hne, hfree, -⟩ := hsome n rfl
        refine (takeFound_after hsame hfree hne false).mono (fun r v₂ h => ?_)
          fun v₂ h => ⟨h.1, fun hr hw => absurd hw (h.2 hr)⟩
        obtain ⟨rfl, hall, -⟩ := h
        exact ⟨hall, fun hle => absurd hlt (Nat.not_lt.mpr hle)⟩
      | none =>
        -- everything above `current` is in use: the second pass stops short of it
        have habove := hnone rfl
        have hentry := hsame.entry
        show (require (!false) >>= _ : Fallible FatPartition ℕ).Meets _ _ v₁
        rw [meets_bind, meets_require]
        refine ⟨fun _ => ?_, fun h => absurd h.symm Bool.false_ne_true⟩
        rw [meets_bind]
        refine (searchUp_meets hsame.coherent current _ v.allocSearchStart hstart
          (Nat.le_refl _)).mono (fun r v₂ h => ?_) fun v₂ h => ?_
        · obtain ⟨hsame₂, hsome₂, hnone₂⟩ := h
          have hsame' := hsame.trans hsame₂
          cases r with
          | some n =>
            obtain ⟨-, hne, ⟨hr, hz⟩, -⟩ := hsome₂ n rfl
            rw [hentry] at hz
            refine (takeFound_after hsame' ⟨hr, hz⟩ hne true).mono (fun r v₃ h => ?_)
              fun v₃ h => ⟨h.1, fun hr hw => absurd hw (h.2 hr)⟩
            obtain ⟨rfl, hall, -⟩ := h
            exact ⟨hall, fun hle => absurd hlt (Nat.not_lt.mpr hle)⟩
          | none =>
            have hbelow := hnone₂ rfl
            rw [hentry] at hbelow
            exact ⟨hsame'.kept, fun _ _ => ⟨hsame', fun m hm hle _ => (hbelow m hm (by omega)).2⟩⟩
        · obtain ⟨hsame₂, hwhy⟩ := h
          refine ⟨(hsame.trans hsame₂).kept, fun _ hw => ⟨hsame.trans hsame₂,
            fun m hm hle hne => ?_⟩⟩
          obtain ⟨-, -, hbelow⟩ := hwhy (hsame.working hw)
          rw [hentry] at hbelow
          rcases Nat.lt_or_gt_of_ne hne with hlt' | hgt
          · exact hbelow m hm hlt'
          · exact (habove m hgt (by omega)).2
    · obtain ⟨hsame, hwhy⟩ := h
      refine ⟨hsame.kept, fun _ hw => ?_⟩
      exact absurd (hwhy hw).1 (Nat.lt_irrefl current)
  · have hset : (!decide (v.allocSearchStart < current)) = true := by simpa using hlt
    rw [hset, if_pos rfl]
    refine (searchUp_meets hv current _ v.allocSearchStart hstart (Nat.le_refl _)).mono
      (fun r v₁ h => ?_) fun v₁ h => ?_
    · obtain ⟨hsame, hsome, hnone⟩ := h
      cases r with
      | some n =>
        obtain ⟨hgt, hne, hfree, hbetween⟩ := hsome n rfl
        refine (takeFound_after hsame hfree hne true).mono (fun r v₂ h => ?_)
          fun v₂ h => ⟨h.1, fun hr hw => absurd hw (h.2 hr)⟩
        obtain ⟨rfl, hall, halloc⟩ := h
        exact ⟨hall, fun _ => ⟨halloc, hgt, hbetween⟩⟩
      | none =>
        have hall := hnone rfl
        show (require (!true) >>= _ : Fallible FatPartition ℕ).Meets _ _ v₁
        rw [meets_bind, meets_require]
        refine ⟨fun h => absurd h Bool.false_ne_true, fun _ => ⟨hsame.kept,
          fun _ _ => ⟨hsame, fun m hm hle _ => ?_⟩⟩⟩
        exact (hall m hm (by omega)).2
    · obtain ⟨hsame, hwhy⟩ := h
      exact ⟨hsame.kept, fun _ hw => absurd (hwhy hw).1 hlt⟩

/-! ## Freeing -/

/-- Part of `own` has been freed, and nothing else has changed. -/
structure Freeing (L : FatLayout) (own : ℕ → Prop) (v v' : FatPartition) : Prop where
  kept : Kept L own nobody v v'
  rest : ∀ d, ¬ own d → v'.entry L d = v.entry L d

theorem Same.freeing (h : Same L v v') : Freeing L own v v' :=
  ⟨h.kept, fun d _ => congrFun h.entry d⟩

theorem Freeing.after (h : Freeing L own v v') (h' : Freeing L own v' v'') :
    Freeing L own v v'' :=
  ⟨h.kept.after h'.kept, fun d hd => (h'.rest d hd).trans (h.rest d hd)⟩

theorem Freeing.mono (h : Freeing L own v v') (hown : ∀ c, own c → own' c) :
    Freeing L own' v v' :=
  ⟨h.kept.mono (fun c _ => hown c) fun _ h => h, fun d hd => h.rest d fun ho => hd (hown d ho)⟩

/-- One turn of the loop frees a cluster. -/
theorem Put.freeing (h : Put L cluster 0 v v') : Freeing L (·
    = cluster) v (lowerStart cluster v') where
  kept := by
    have hkept : Kept L (· = cluster) nobody v v' := h.kept (.inl rfl)
    have hrange := h.range.1
    refine hkept.to_start fun hs => ?_
    have hs' := hkept.start hs
    unfold lower
    split <;> omega
  rest d hd := h.entry_other hd

theorem freeChainLoop_meets (hv : v.Coherent L) {l : List ℕ} {fuel : ℕ}
    (hchain : Linked (v.next L) (cluster :: l)) (hrange : ∀ c ∈ cluster :: l, L.InRange c)
    (hfuel : l.length < fuel) :
    (freeChainLoop L fuel cluster).Meets
      (fun _ v' => Freeing L (· ∈ cluster :: l) v v' ∧ (∀ c ∈ cluster :: l, v'.entry L c = 0) ∧
        v'.allocSearchStart = (cluster :: l).foldl lower v.allocSearchStart)
      (fun v' => Freeing L (· ∈ cluster :: l) v v' ∧ ¬ v.cache.Working) v := by
  induction l generalizing cluster v fuel with
  | nil =>
    cases fuel with
    | zero => exact absurd hfuel (Nat.not_lt_zero _)
    | succ fuel =>
      have hin := hrange cluster List.mem_cons_self
      unfold freeChainLoop
      rw [meets_bind]
      refine (fatGet_meets hv cluster).mono (fun r v₁ h => ?_)
        fun v₁ h => ⟨h.1.freeing, h.2 hin⟩
      obtain ⟨hsame, -, rfl⟩ := h
      rw [meets_bind]
      refine (fatPut_meets hsame.coherent cluster 0).mono (fun _ v₂ hput => ?_)
        fun v₂ h => ⟨(hsame.trans h.1).freeing, fun hw => h.2 hin (hsame.working hw)⟩
      rw [meets_bind, meets_change, hchain.1]
      refine ⟨hsame.freeing.after (hput.freeing.mono fun c hc => ?_), fun c hc => ?_, ?_⟩
      · rw [hc]
        exact List.mem_cons_self
      · rw [List.mem_singleton.mp hc]
        exact hput.entry_zero
      · exact congrArg (lower · cluster) (hput.alloc.trans hsame.alloc)
  | cons d l ih =>
    cases fuel with
    | zero => exact absurd hfuel (Nat.not_lt_zero _)
    | succ fuel =>
      have hin := hrange cluster List.mem_cons_self
      have hnodup := List.nodup_cons.mp hchain.nodup
      unfold freeChainLoop
      rw [meets_bind]
      refine (fatGet_meets hv cluster).mono (fun r v₁ h => ?_)
        fun v₁ h => ⟨h.1.freeing, h.2 hin⟩
      obtain ⟨hsame, -, rfl⟩ := h
      rw [meets_bind]
      refine (fatPut_meets hsame.coherent cluster 0).mono (fun _ v₂ hput => ?_)
        fun v₂ h => ⟨(hsame.trans h.1).freeing, fun hw => h.2 hin (hsame.working hw)⟩
      rw [meets_bind, meets_change, hchain.1]
      -- the rest of the chain is still there
      have hfirst : Freeing L (· ∈ cluster :: d :: l) v (lowerStart cluster v₂) :=
        hsame.freeing.after (hput.freeing.mono fun c hc => hc ▸ List.mem_cons_self)
      have hrest : Linked ((lowerStart cluster v₂).next L) (d :: l) := by
        refine hchain.2.congr fun x hx => congrArg L.link ?_
        have hne : x ≠ cluster := fun heq => hnodup.1 (heq ▸ hx)
        exact (hput.entry_other hne).trans (congrFun hsame.entry x)
      refine (ih hfirst.kept.coherent hrest (fun c hc => hrange c (List.mem_cons_of_mem _ hc))
        (Nat.lt_of_succ_lt_succ hfuel)).mono (fun _ v₃ h => ?_) fun v₃ h => ?_
      · obtain ⟨hfreeing, hzero, hstart⟩ := h
        refine ⟨hfirst.after (hfreeing.mono fun c hc => List.mem_cons_of_mem _ hc),
          fun c hc => ?_, hstart.trans ?_⟩
        · rcases List.mem_cons.mp hc with rfl | hc'
          · exact (hfreeing.rest c hnodup.1).trans hput.entry_zero
          · exact hzero c hc'
        · have hlower : (lowerStart cluster v₂).allocSearchStart
            = lower v.allocSearchStart cluster :=
            congrArg (lower · cluster) (hput.alloc.trans hsame.alloc)
          rw [hlower]
          rfl
      · exact ⟨hfirst.after (h.1.mono fun c hc => List.mem_cons_of_mem _ hc),
          fun hw => h.2 (hfirst.kept.working hw)⟩

/-- A chain is no longer than the volume. -/
theorem length_chain_lt {l : List ℕ} (hchain : Linked (v.next L) l)
    (hrange : ∀ c ∈ l, L.InRange c) : l.length < L.lastCluster := by
  have hsub : l.toFinset ⊆ Finset.Icc 2 L.lastCluster := fun c hc =>
    Finset.mem_Icc.mpr (hrange c (List.mem_toFinset.mp hc))
  have hcard := Finset.card_le_card hsub
  rw [List.toFinset_card_of_nodup hchain.nodup, Nat.card_Icc] at hcard
  have hfirst := L.first
  omega

theorem freeChain_meets (hv : v.Coherent L) {l : List ℕ}
    (hchain : Linked (v.next L) (cluster :: l)) (hrange : ∀ c ∈ cluster :: l, L.InRange c) :
    (freeChain L cluster).Meets
      (fun _ v' => Freeing L (· ∈ cluster :: l) v v' ∧ (∀ c ∈ cluster :: l, v'.entry L c = 0) ∧
        v'.allocSearchStart = (cluster :: l).foldl lower v.allocSearchStart)
      (fun v' => Freeing L (· ∈ cluster :: l) v v' ∧ ¬ v.cache.Working) v := by
  have hlen := length_chain_lt hchain hrange
  rw [List.length_cons] at hlen
  unfold freeChain
  rw [meets_bind]
  exact freeChainLoop_meets hv hchain hrange (by omega)

/-! ## The loop ends -/

/-- The clusters whose numbers are not 0. -/
def usedClusters (L : FatLayout) (v : FatPartition) : Finset ℕ :=
  (Finset.Icc 2 L.lastCluster).filter (v.entry L · ≠ 0)

theorem card_usedClusters_le (L : FatLayout) (v : FatPartition) :
    (usedClusters L v).card + 1 ≤ L.lastCluster := by
  have hcard := Finset.card_le_card (Finset.filter_subset (v.entry L · ≠ 0)
      (Finset.Icc 2 L.lastCluster))
  have hfirst := L.first
  rw [Nat.card_Icc] at hcard
  unfold usedClusters
  omega

/-- Freeing a cluster in use leaves one fewer. -/
theorem Put.card_usedClusters (h : Put L cluster 0 v v') (hused : v.entry L cluster ≠ 0) :
    (usedClusters L v').card < (usedClusters L v).card := by
  refine Finset.card_lt_card ⟨fun c hc => ?_, fun hsub => ?_⟩
  · obtain ⟨hrange, hc'⟩ := Finset.mem_filter.mp hc
    have hne : c ≠ cluster := by
      rintro rfl
      exact hc' h.entry_zero
    exact Finset.mem_filter.mpr ⟨hrange, (h.entry_other hne) ▸ hc'⟩
  · have hmem : cluster ∈ usedClusters L v :=
      Finset.mem_filter.mpr ⟨Finset.mem_Icc.mpr h.range, hused⟩
    exact (Finset.mem_filter.mp (hsub hmem)).2 h.entry_zero

/-- There is no cluster 0. -/
theorem freeChainLoop_zero (L : FatLayout) (v : FatPartition) (fuel : ℕ) :
    freeChainLoop L (fuel + 1) 0 v = (none, v) := bind_of_none (bind_of_none rfl)

/-- With a turn for every cluster in use and two more the loop is not stopped. Each turn
clears a number, or has come to one that was clear and goes on to cluster 0. -/
theorem freeChainLoop_ends (hv : v.Coherent L) {fuel : ℕ}
    (hfuel : (usedClusters L v).card + 1 < fuel) (cluster : ℕ) :
    (freeChainLoop L fuel cluster).Meets (fun left _ => left = none) (fun _ => True) v := by
  induction fuel generalizing cluster v with
  | zero => exact absurd hfuel (Nat.not_lt_zero _)
  | succ fuel ih =>
    unfold freeChainLoop
    rw [meets_bind]
    refine (fatGet_meets hv cluster).mono (fun r v₁ h => ?_) fun _ _ => trivial
    obtain ⟨hsame, -, rfl⟩ := h
    rw [meets_bind]
    refine (fatPut_meets hsame.coherent cluster 0).mono (fun _ v₂ hput => ?_) fun _ _ => trivial
    rw [meets_bind, meets_change]
    cases hnext : v.next L cluster with
    | none => rfl
    | some next =>
      by_cases hfree : v.entry L cluster = 0
      · obtain rfl : 0 = next := Option.some.inj ((next_eq_zero_iff.mpr hfree).symm.trans hnext)
        obtain ⟨turns, rfl⟩ : ∃ turns, fuel = turns + 1 := Nat.exists_eq_succ_of_ne_zero (by omega)
        exact Meets.intro (freeChainLoop_zero L _ _) (fun _ h => absurd h.symm (Option.some_ne_none _))
          fun _ => trivial
      · have hlt := hput.card_usedClusters (by rwa [hsame.entry])
        have hcard : usedClusters L v₁ = usedClusters L v := by
          unfold usedClusters
          rw [hsame.entry]
        rw [hcard] at hlt
        exact ih (v := lowerStart cluster v₂) hput.freeing.kept.coherent
          (show (usedClusters L v₂).card + 1 < fuel by omega) next

/-- A loop that was not stopped does the same when it is allowed more. -/
theorem freeChainLoop_succ {fuel : ℕ}
    (h : ∀ left, (freeChainLoop L fuel cluster v).1 ≠ some (some left)) :
    freeChainLoop L (fuel + 1) cluster v = freeChainLoop L fuel cluster v := by
  induction fuel generalizing cluster v with
  | zero => exact absurd rfl (h cluster)
  | succ fuel ih =>
    rw [freeChainLoop] at h ⊢
    rw [freeChainLoop]
    rcases hget : fatGet L cluster v with ⟨_ | fg, v₁⟩
    · exact (bind_of_none hget).trans (bind_of_none hget).symm
    rw [bind_of_some hget] at h ⊢
    refine Eq.trans ?_ (bind_of_some hget).symm
    rcases hput : fatPut L cluster 0 v₁ with ⟨_ | _, v₂⟩
    · exact (bind_of_none hput).trans (bind_of_none hput).symm
    rw [bind_of_some hput] at h ⊢
    refine Eq.trans ?_ (bind_of_some hput).symm
    cases fg with
    | none => rfl
    | some next => exact ih h

/-- **Freeing ends.** Whatever the table holds and wherever it is told to start, the
loop stops by itself: in as many turns as there are numbers in the table it has come to
the end of a chain or failed, and as often as it were allowed to turn, it does the
same. -/
theorem freeChain_ends (hv : v.Coherent L) (cluster more : ℕ) :
    (∀ left, (freeChainLoop L (L.lastCluster + 1) cluster v).1 ≠ some (some left)) ∧
      freeChainLoop L (L.lastCluster + 1 + more) cluster v
        = freeChainLoop L (L.lastCluster + 1) cluster v := by
  have hcard := card_usedClusters_le L v
  have hends (fuel : ℕ) (hfuel : L.lastCluster + 1 ≤ fuel) (left : ℕ) :
      (freeChainLoop L fuel cluster v).1 ≠ some (some left) := by
    intro hleft
    have hstopped := (freeChainLoop_ends hv (show _ < fuel by omega) cluster).of_some
      (Prod.ext hleft rfl)
    exact Option.some_ne_none left hstopped
  refine ⟨hends _ le_rfl, ?_⟩
  induction more with
  | zero => rfl
  | succ more ih => exact (freeChainLoop_succ (hends _ (Nat.le_add_right _ _))).trans ih

/-! A volume of three clusters, all free, on a card that does all it is asked. -/

def smallLayout : FatLayout where
  fatType := .fat16
  fatStartSector := 1
  sectorsPerFat := 1
  dataStartSector := 3
  sectorsPerClusterShift := 0
  lastCluster := 4
  rootDirStart := 3
  rootDirEntryCount := 0
  shift := by decide
  first := by decide
  table := by decide
  ends := by decide
  apart := by decide
  fits := by decide

/-- With a root directory of one sector. -/
def dirLayout : FatLayout where
  fatType := .fat16
  fatStartSector := 1
  sectorsPerFat := 1
  dataStartSector := 4
  sectorsPerClusterShift := 0
  lastCluster := 4
  rootDirStart := 3
  rootDirEntryCount := 16
  shift := by decide
  first := by decide
  table := by decide
  ends := by decide
  apart := by decide
  fits := by decide

def emptyVolume : FatPartition where
  cache := FsCache.emptyCache (fun _ => .done) fun _ => .done
  allocSearchStart := 1

theorem emptyVolume_coherent : emptyVolume.Coherent smallLayout := FsCache.emptyCache_coherent _

theorem emptyVolume_working : emptyVolume.cache.Working := fun _ => ⟨rfl, rfl, rfl⟩

/-- The same volume with clusters 2 and 3 leading to one another. -/
def circleVolume : FatPartition :=
  { emptyVolume with
    cache.blockDev.disk := fun s =>
      if s = 1 then Memory.copy (Vector.replicate 512 0) 4 [3, 0, 2, 0]
      else Vector.replicate 512 0 }

theorem circleVolume_coherent : circleVolume.Coherent smallLayout where
  quiet _ _ h := Answer.noConfusion h
  clean _ h := absurd rfl h
  front := .inl rfl
  offset := rfl
  mirror h := absurd h Bool.false_ne_true

theorem freeChain_ends_circle :
    (∀ left, (freeChainLoop smallLayout 5 2 circleVolume).1 ≠ some (some left)) ∧
      freeChainLoop smallLayout 9 2 circleVolume = freeChainLoop smallLayout 5 2 circleVolume :=
  freeChain_ends circleVolume_coherent 2 4

/-! ## Files of one cluster -/

/-- A file of one cluster comes and goes. -/
def oneClusterFile (L : FatLayout) : Fallible FatPartition ℕ := do
  let n ← allocateCluster L 0
  freeChain L n
  pure n

/-- `freeChain` leaves `m_allocSearchStart` at the only cluster it frees. -/
theorem oneClusterFile_spec (hv : v.Coherent L) (hw : v.cache.Working)
    (hstart : 1 ≤ v.allocSearchStart)
    (hfree : ∀ m, v.allocSearchStart < m → m ≤ L.lastCluster → v.entry L m = 0) :
    (v.allocSearchStart < L.lastCluster →
      (oneClusterFile L v).1 = some (v.allocSearchStart + 1) ∧
      (oneClusterFile L v).2.Coherent L ∧ (oneClusterFile L v).2.cache.Working ∧
      (oneClusterFile L v).2.allocSearchStart = v.allocSearchStart + 1 ∧
      (oneClusterFile L v).2.entry L = v.entry L) ∧
    (v.allocSearchStart = L.lastCluster → (oneClusterFile L v).1 = none) := by
  have hmeets : (oneClusterFile L).Meets
      (fun n v' => n = v.allocSearchStart + 1 ∧ n ≤ L.lastCluster ∧ v'.Coherent L ∧
        v'.cache.Working ∧ v'.allocSearchStart = n ∧ v'.entry L = v.entry L)
      (fun _ => L.lastCluster ≤ v.allocSearchStart) v := by
    unfold oneClusterFile
    rw [meets_bind]
    refine (allocateCluster_meets hv hstart 0).mono (fun n v₁ h => ?_) fun v₁ h => ?_
    · obtain ⟨hall, hlow⟩ := h
      obtain ⟨halloc, hgt, hbetween⟩ := hlow (Nat.zero_le _)
      have hlast := hall.free.1.2
      have hn : n = v.allocSearchStart + 1 := by
        by_contra hne
        exact hbetween (v.allocSearchStart + 1) (by omega) (by omega)
          (hfree _ (by omega) (by omega))
      have hchain : Linked (v₁.next L) [n] := ⟨hall.ends, trivial⟩
      have hin : ∀ c ∈ [n], L.InRange c := fun c hc => List.mem_singleton.mp hc ▸ hall.free.1
      rw [meets_bind]
      refine (freeChain_meets hall.kept.coherent hchain hin).mono (fun _ v₂ h => ?_)
        fun v₂ h => absurd (hall.kept.working hw) h.2
      obtain ⟨hfreeing, hzero, halloc₂⟩ := h
      refine ⟨hn, hlast, hfreeing.kept.coherent, hfreeing.kept.working (hall.kept.working hw), ?_,
        funext fun d => ?_⟩
      · rw [halloc₂, halloc]
        exact if_neg (Nat.lt_irrefl n)
      · by_cases hd : d = n
        · subst hd
          rw [hzero d List.mem_cons_self, hall.free.2]
        · rw [hfreeing.rest d fun h => hd (List.mem_singleton.mp h)]
          exact hall.rest d hd (.inr rfl)
    · by_contra hlt
      exact (h.2 (.inl rfl) hw).2 _ (Nat.lt_succ_self _) (by omega) (by omega)
        (hfree _ (Nat.lt_succ_self _) (by omega))
  refine ⟨fun hlt => ?_, fun heq => ?_⟩
  · rcases hr : oneClusterFile L v with ⟨_ | n, v'⟩
    · exact absurd hlt (Nat.not_lt.mpr (hmeets.of_none hr))
    · obtain ⟨rfl, -, hcoh, hw', halloc, hentry⟩ := hmeets.of_some hr
      exact ⟨rfl, hcoh, hw', halloc, hentry⟩
  · rcases hr : oneClusterFile L v with ⟨_ | n, v'⟩
    · rfl
    · obtain ⟨rfl, hle, -⟩ := hmeets.of_some hr
      omega

/-- **One-cluster files use up the volume.** On a card that does all it is asked, with
every cluster above `m_allocSearchStart` free, each file of one cluster that comes and
goes costs the cluster it had. The table is what it was before, and once there have
been as many as there were clusters no other can be made. -/
theorem one_cluster_files_use_up (hv : v.Coherent L) (hw : v.cache.Working)
    (hstart : 1 ≤ v.allocSearchStart)
    (hfree : ∀ m, v.allocSearchStart < m → m ≤ L.lastCluster → v.entry L m = 0) (k : ℕ)
    (hk : v.allocSearchStart + k ≤ L.lastCluster) :
    let v' := (fun w => (oneClusterFile L w).2)^[k] v
    v'.entry L = v.entry L ∧
      (oneClusterFile L v').1 = if v.allocSearchStart + k < L.lastCluster
        then some (v.allocSearchStart + k + 1) else none := by
  intro v'
  have hrun : v'.Coherent L ∧ v'.cache.Working ∧ v'.allocSearchStart = v.allocSearchStart + k ∧
      v'.entry L = v.entry L := by
    induction k with
    | zero => exact ⟨hv, hw, rfl, rfl⟩
    | succ k ih =>
      obtain ⟨hcoh, hw', halloc, hentry⟩ := ih (by omega)
      have hround := (oneClusterFile_spec hcoh hw' (by omega) fun m hm hle => by
        rw [hentry]
        exact hfree m (by omega) hle).1 (by omega)
      have hnext : v' = (oneClusterFile L ((fun w => (oneClusterFile L w).2)^[k] v)).2 :=
        Function.iterate_succ_apply' _ k v
      rw [hnext]
      obtain ⟨-, hcoh₁, hw₁, halloc₁, hentry₁⟩ := hround
      exact ⟨hcoh₁, hw₁, by omega, hentry₁.trans hentry⟩
  obtain ⟨hcoh, hw', halloc, hentry⟩ := hrun
  have hround := oneClusterFile_spec hcoh hw' (by omega) fun m hm hle => by
    rw [hentry]
    exact hfree m (by omega) hle
  rw [halloc] at hround
  refine ⟨hentry, ?_⟩
  by_cases hlt : v.allocSearchStart + k < L.lastCluster
  · rw [if_pos hlt]
    exact (hround.1 hlt).1
  · rw [if_neg hlt]
    exact hround.2 (by omega)

theorem emptyVolume_mem (L : FatLayout) (x : ℕ) : emptyVolume.mem L x = 0 := by
  have hview : emptyVolume.cache.view L.area (x / 512) = Vector.replicate 512 0 := by
    unfold FsCache.view
    split
    · split <;> rfl
    · rfl
  show (emptyVolume.cache.view L.area (x / 512)).get _ = 0
  rw [hview]
  exact Vector.getElem_replicate _

theorem emptyVolume_entry (d : ℕ) : emptyVolume.entry smallLayout d = 0 := by
  have hread : Memory.read (emptyVolume.mem smallLayout) (smallLayout.entryAddr d) 2
      = Memory.read (fun _ => 0) 0 2 :=
    Memory.read_congr fun i _ => emptyVolume_mem _ _
  show LittleEndian.decode (Memory.read _ _ 2) = 0
  rw [hread]
  rfl

theorem one_cluster_files_use_up_empty :
    (oneClusterFile smallLayout
      ((fun w => (oneClusterFile smallLayout w).2)^[3] emptyVolume)).1 = none :=
  (one_cluster_files_use_up emptyVolume_coherent emptyVolume_working (Nat.le_refl 1)
    (fun m _ _ => emptyVolume_entry m) 3 (by decide)).2

end FatPartition

end Heimdall
