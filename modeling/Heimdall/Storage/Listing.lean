import Heimdall.Storage.SdFat

/-!
# Listing a directory

`SdFat_Store::_ls` walks a directory with `openNextFile` and reads each child's
name through a buffer of 64 bytes. The walk itself is exact, whatever the
directory's length (`lsLoop_eq`): one element for each entry, in order. The name
of an element is what went through the buffer, which is nothing at all for a
name of 64 characters or more (`element_eq_iff`), so the listing is exact for
the directories that have no such name (`listed_iff`).
-/

namespace Heimdall

/-- `FILE_TYPE` -/
inductive FileType
  | file | directory
  deriving DecidableEq, Repr

/-- `directory_element_t` -/
structure DirectoryElement where
  name : String
  type : FileType
  size : UInt64
  deriving DecidableEq, Repr

namespace SdFatStore

/-- `sizeof(filename)` -/
def filenameSize : Nat := 64

/-- The body of the loop: the element made of a child. -/
def element (child : FsFile) : DirectoryElement :=
  { name := child.getName filenameSize
    type := if child.isDirectory then .directory else .file
    size := child.size }

/-- The loop, over the child opened last and the directory it came from. -/
def lsLoop (child file : FsFile) (directoryStructure : List DirectoryElement) :
    List DirectoryElement :=
  if child.isOpen then
    let next := file.openNextFile
    lsLoop next.1 next.2 (directoryStructure ++ [element child])
  else directoryStructure
termination_by file.entries.length + child.isOpen.toNat
decreasing_by
  have hlength := file.openNextFile_length
  rename_i hopen
  rw [hopen, Bool.toNat_true]
  omega

/-- `_ls`: the return value, and what `directory_structure` is left as. -/
def ls (filesys : String → FsFile) (path : String) (directoryStructure : List DirectoryElement) :
    Bool × List DirectoryElement :=
  let file := filesys path
  if !file.isOpen || !file.isDirectory then (false, directoryStructure)
  else
    let next := file.openNextFile
    (true, lsLoop next.1 next.2 directoryStructure)

/-! ## The walk -/

/-- The file `openNextFile` opens on an entry. -/
def childOf (e : DirEntry) : FsFile :=
  { FsFile.closed with isOpen := true, name := e.name, isDirectory := e.isDirectory, size := e.size }

/-- Opening the next child and looping from there adds an element for each
entry left. The induction is on the entries, each of which one pass uses up. -/
theorem lsLoop_next (file : FsFile) (before : List DirectoryElement) :
    lsLoop file.openNextFile.1 file.openNextFile.2 before =
      before ++ file.entries.map fun e => element (childOf e) := by
  cases hentries : file.entries with
  | nil =>
    have hnext : file.openNextFile = (.closed, file) := by
      rw [FsFile.openNextFile, hentries]
    rw [hnext, lsLoop, List.map_nil, List.append_nil]
    rfl
  | cons e es =>
    have hnext : file.openNextFile = (childOf e, { file with entries := es }) := by
      rw [FsFile.openNextFile, hentries]
      rfl
    have ih := lsLoop_next { file with entries := es } (before ++ [element (childOf e)])
    have hopen : (childOf e).isOpen = true := rfl
    rw [hnext, lsLoop, if_pos hopen]
    refine ih.trans ?_
    rw [List.map_cons, List.append_assoc, List.singleton_append]
termination_by file.entries.length
decreasing_by
  rw [hentries, List.length_cons]
  exact Nat.lt_succ_self _

theorem ls_eq (filesys : String → FsFile) (path : String) (before : List DirectoryElement) :
    ls filesys path before =
      if (filesys path).isOpen = true ∧ (filesys path).isDirectory = true then
        (true, before ++ (filesys path).entries.map fun e => element (childOf e))
      else (false, before) := by
  unfold ls
  dsimp only
  rw [lsLoop_next]
  cases (filesys path).isOpen <;> cases (filesys path).isDirectory <;> rfl

/-! ## What is listed -/

/-- The element of an entry: its full name, its type and its size. -/
def listing (e : DirEntry) : DirectoryElement :=
  { name := e.name, type := if e.isDirectory then .directory else .file, size := e.size }

/-- The loop makes that element exactly when the name fits the buffer. -/
theorem element_eq_iff (e : DirEntry) :
    element (childOf e) = listing e ↔ e.name.length < filenameSize := by
  have hname : (element (childOf e)).name =
      if e.name.length + 1 ≤ filenameSize then e.name else "" := rfl
  by_cases hfits : e.name.length + 1 ≤ filenameSize
  · refine iff_of_true ?_ hfits
    rw [if_pos hfits] at hname
    exact congrArg (DirectoryElement.mk · _ _) hname
  · refine iff_of_false ?_ hfits
    intro heq
    rw [if_neg hfits] at hname
    have hempty : e.name = "" := (congrArg DirectoryElement.name heq).symm.trans hname
    rw [hempty] at hfits
    exact absurd hfits (by decide)

end SdFatStore

/-- A directory is listed entry by entry behind what was there; any other path
gives `false` and changes nothing. -/
def Listed (filesys : String → FsFile) (path : String) (before : List DirectoryElement) : Prop :=
  SdFatStore.ls filesys path before =
    if (filesys path).isOpen = true ∧ (filesys path).isDirectory = true then
      (true, before ++ (filesys path).entries.map SdFatStore.listing)
    else (false, before)

/-- It is exactly when every name in the directory is shorter than the buffer. -/
theorem listed_iff (filesys : String → FsFile) (path : String) (before : List DirectoryElement) :
    Listed filesys path before ↔
      ((filesys path).isOpen = true ∧ (filesys path).isDirectory = true →
        ∀ e ∈ (filesys path).entries, e.name.length < SdFatStore.filenameSize) := by
  unfold Listed
  rw [SdFatStore.ls_eq]
  by_cases hdir : (filesys path).isOpen = true ∧ (filesys path).isDirectory = true
  · rw [if_pos hdir, if_pos hdir, Prod.mk.injEq, List.append_cancel_left_eq, List.map_inj_left,
      forall_prop_of_true hdir]
    refine (and_iff_right rfl).trans (forall₂_congr fun e _ => ?_)
    exact SdFatStore.element_eq_iff e
  · rw [if_neg hdir, if_neg hdir]
    exact iff_of_true rfl fun h => absurd h hdir

/-- A directory with one file in it, of a name of 64 characters. -/
def longName : FsFile :=
  { FsFile.closed with
    isOpen := true
    isDirectory := true
    entries := [⟨String.ofList (List.replicate 64 'a'), false, 12⟩] }

/-- The file is listed without its name. -/
theorem listed_fails : ¬Listed (fun _ => longName) "/Logs" [] := by
  intro hlisted
  rw [Listed, SdFatStore.ls_eq] at hlisted
  exact absurd hlisted (by decide +kernel)

end Heimdall
