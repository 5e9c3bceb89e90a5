import Mathlib.Data.List.Basic
import Mathlib.Tactic.TypeStar

/-!
# The SD card's files

`src/Storage`: `SdFat_WrappedFile` turns what SdFat answers into exceptions, and
`SdFat_Store::_open` turns an opened file into a wrapped one.

SdFat is the library's `FsFile` as its callers see it: whether it is open, the
bytes still to be read, the bytes written, the write-error bit that stays set,
and for a directory the entries still to be yielded. Every call is given
whether the card does its part (`ok`). The five conventions SdFat reports a
failure by are: a closed file, -1, zero with the bit set, and twice `false`.

`neverSilent_iff` says which answers are passed on. Two calls lose a failure,
opening and a read that ends early, and an empty write can report the failure
of an earlier one.
-/

namespace Heimdall

/-! ## SdFat -/

/-- An entry of a directory, its name as SdFat writes it: one byte a character. -/
structure DirEntry where
  name : String
  isDirectory : Bool
  size : UInt64
  deriving DecidableEq, Repr

/-- `FsFile`. -/
structure FsFile where
  isOpen : Bool
  name : String
  isDirectory : Bool
  size : UInt64
  /-- from the read position to the end -/
  rest : List UInt8
  written : List UInt8
  writeError : Bool
  /-- what `openNextFile` has still to yield -/
  entries : List DirEntry
  deriving DecidableEq, Repr

namespace FsFile

/-- A file that is not open. -/
def closed : FsFile :=
  { isOpen := false, name := "", isDirectory := false, size := 0, rest := [], written := [],
    writeError := false, entries := [] }

/-- A call on the file does what it is for. -/
def performs (f : FsFile) (ok : Bool) : Bool := f.isOpen && ok

/-- `read`: the byte count or -1, and what the buffer holds afterwards. -/
def read (buf : List UInt8) (ok : Bool) (f : FsFile) : Int × List UInt8 × FsFile :=
  if f.performs ok then
    let bytes := f.rest.take buf.length
    (bytes.length, bytes ++ buf.drop bytes.length, { f with rest := f.rest.drop buf.length })
  else (-1, buf, f)

/-- `write`: the whole length, or 0 and the bit set. -/
def write (data : List UInt8) (ok : Bool) (f : FsFile) : Nat × FsFile :=
  if f.performs ok then (data.length, { f with written := f.written ++ data })
  else (0, { f with writeError := true })

/-- `getWriteError`, true of a file that is not open. -/
def getWriteError (f : FsFile) : Bool := !f.isOpen || f.writeError

/-- `sync` -/
def sync (ok : Bool) (f : FsFile) : Bool × FsFile :=
  if f.performs ok then (true, f) else (false, { f with writeError := true })

/-- `close`: nothing can fail on a file that is not open. -/
def close (ok : Bool) (f : FsFile) : Bool × FsFile := (!f.isOpen || ok, closed)

/-- `getName` into a buffer of `size` bytes: the name and its terminator, or an
empty string. -/
def getName (size : Nat) (f : FsFile) : String := if f.name.length + 1 ≤ size then f.name else ""

/-- `openNextFile`: the child, closed when there is none, and the directory. -/
def openNextFile (dir : FsFile) : FsFile × FsFile :=
  match dir.entries with
  | [] => (closed, dir)
  | e :: es =>
    ({ closed with isOpen := true, name := e.name, isDirectory := e.isDirectory, size := e.size },
      { dir with entries := es })

/-- Opening a child takes its entry off the directory. -/
theorem openNextFile_length (dir : FsFile) :
    dir.openNextFile.2.entries.length + dir.openNextFile.1.isOpen.toNat = dir.entries.length := by
  unfold openNextFile
  split <;> rename_i h <;> rw [h] <;> rfl

theorem read_count_of_performs {f : FsFile} {ok : Bool} (h : f.performs ok = true)
    (buf : List UInt8) : (f.read buf ok).1 = (min buf.length f.rest.length : Nat) := by
  rw [read, if_pos h]
  exact congrArg Int.ofNat List.length_take

theorem read_of_not_performs {f : FsFile} {ok : Bool} (h : f.performs ok = false)
    (buf : List UInt8) : f.read buf ok = (-1, buf, f) := by
  rw [read, h]
  rfl

/-- The count is -1 exactly when the call does not do its part. -/
theorem read_count_eq_neg_one (f : FsFile) (buf : List UInt8) (ok : Bool) :
    (f.read buf ok).1 = -1 ↔ f.performs ok = false := by
  cases h : f.performs ok with
  | false => exact iff_of_true (by rw [read_of_not_performs h]) rfl
  | true =>
    rw [read_count_of_performs h]
    exact iff_of_false (by omega) (by decide)

end FsFile

/-! ## The wrapped file -/

/-- The exceptions of libriccore's `WrappedFile`. -/
inductive FileException
  | readException | closeException | writeException | flushException
  deriving DecidableEq, Repr

/-- What is logged before each is thrown. -/
def FileException.text : FileException → String
  | readException => "Read error!"
  | closeException => "Close error!"
  | writeException => "Write error!"
  | flushException => "Flush error!"

/-- `SdFat_WrappedFile`, with the messages it logged, newest first. -/
structure SdFatWrappedFile where
  file : FsFile
  fileDesc : Int
  mode : Int
  maxQueueSize : Nat
  logs : List String
  deriving DecidableEq, Repr

namespace SdFatWrappedFile

/-- Log and throw. -/
def raise {α : Type} (e : FileException) (w : SdFatWrappedFile) :
    Except FileException α × SdFatWrappedFile :=
  (.error e, { w with logs := e.text :: w.logs })

/-- `_read`: what `dest` holds, its size being the number of bytes asked for. -/
def read (dest : List UInt8) (ok : Bool) (w : SdFatWrappedFile) :
    Except FileException (List UInt8) × SdFatWrappedFile :=
  let (numBytes, buf, file) := w.file.read dest ok
  let w := { w with file := file }
  if numBytes = -1 then w.raise .readException else (.ok buf, w)

/-- `_close` -/
def close (ok : Bool) (w : SdFatWrappedFile) : Except FileException Unit × SdFatWrappedFile :=
  let (done, file) := w.file.close ok
  let w := { w with file := file }
  if !done then w.raise .closeException else (.ok (), w)

/-- `file_write` -/
def fileWrite (data : List UInt8) (ok : Bool) (w : SdFatWrappedFile) :
    Except FileException Unit × SdFatWrappedFile :=
  let (numBytes, file) := w.file.write data ok
  let w := { w with file := file }
  if numBytes = 0 then
    if w.file.getWriteError then w.raise .writeException else (.ok (), w)
  else (.ok (), w)

/-- `file_flush` -/
def fileFlush (ok : Bool) (w : SdFatWrappedFile) : Except FileException Unit × SdFatWrappedFile :=
  let (done, file) := w.file.sync ok
  let w := { w with file := file }
  if !done then w.raise .flushException else (.ok (), w)

end SdFatWrappedFile

/-- `SdFat_Store::_open`: what `filesys.open` gave is wrapped as it is. `none` is
a null pointer. -/
def SdFatStore.openFile (filesys : String → Int → FsFile) (path : String) (fileDesc mode : Int)
    (maxQueueSize : Nat) : Option SdFatWrappedFile :=
  some { file := filesys path mode, fileDesc := fileDesc, mode := mode,
         maxQueueSize := maxQueueSize, logs := [] }

/-! ## What is signalled -/

/-- The five operations, with what SdFat answers. -/
inductive StoreCall
  | openFile (filesys : String → Int → FsFile) (path : String) (fileDesc mode : Int)
      (maxQueueSize : Nat)
  | read (dest : List UInt8) (ok : Bool)
  | fileWrite (data : List UInt8) (ok : Bool)
  | fileFlush (ok : Bool)
  | close (ok : Bool)

namespace StoreCall

/-- The operation returns null or throws. -/
def signals (w : SdFatWrappedFile) : StoreCall → Bool
  | openFile filesys path fileDesc mode maxQueueSize =>
    (SdFatStore.openFile filesys path fileDesc mode maxQueueSize).isNone
  | read dest ok => !(w.read dest ok).1.isOk
  | fileWrite data ok => !(w.fileWrite data ok).1.isOk
  | fileFlush ok => !(w.fileFlush ok).1.isOk
  | close ok => !(w.close ok).1.isOk

/-- The call of SdFat fails, or transfers fewer bytes than it is asked for. -/
def FallsShort (f : FsFile) : StoreCall → Prop
  | openFile filesys path _ mode _ => (filesys path mode).isOpen = false
  | read dest ok => (f.read dest ok).1 < dest.length
  | fileWrite _ ok => f.performs ok = false
  | fileFlush ok => (f.sync ok).1 = false
  | close ok => (f.close ok).1 = false

end StoreCall

/-- An operation signals exactly what falls short, and a read that returns has
filled `dest` with the next bytes of the file. -/
structure NeverSilent (w : SdFatWrappedFile) (c : StoreCall) : Prop where
  signals : c.signals w = true ↔ c.FallsShort w.file
  read : ∀ dest ok, c = .read dest ok → ∀ bytes, (w.read dest ok).1 = .ok bytes →
    bytes = w.file.rest.take dest.length ∧ bytes.length = dest.length

/-- The path does not open; the file ends before `dest` is full; nothing is to
be written, the card would have written it, and an earlier write failed. -/
def Misreports (w : SdFatWrappedFile) : StoreCall → Prop
  | .openFile filesys path _ mode _ => (filesys path mode).isOpen = false
  | .read dest ok => w.file.performs ok = true ∧ w.file.rest.length < dest.length
  | .fileWrite data ok => data = [] ∧ w.file.performs ok = true ∧ w.file.writeError = true
  | .fileFlush _ => False
  | .close _ => False

namespace SdFatWrappedFile

/-! ## One operation at a time -/

theorem read_eq_of_performs {w : SdFatWrappedFile} {ok : Bool} (h : w.file.performs ok = true)
    (dest : List UInt8) :
    (w.read dest ok).1 =
      .ok (w.file.rest.take dest.length ++ dest.drop (w.file.rest.take dest.length).length) := by
  have hcount : (w.file.read dest ok).1 ≠ -1 := by
    rw [Ne, FsFile.read_count_eq_neg_one, h]
    decide
  unfold read
  dsimp only
  rw [if_neg hcount]
  show Except.ok (w.file.read dest ok).2.1 = _
  rw [FsFile.read, if_pos h]

theorem read_throws {w : SdFatWrappedFile} {ok : Bool} (h : w.file.performs ok = false)
    (dest : List UInt8) : (w.read dest ok).1 = .error .readException := by
  have hcount : (w.file.read dest ok).1 = -1 := (FsFile.read_count_eq_neg_one _ _ _).mpr h
  unfold read
  dsimp only
  rw [if_pos hcount]
  rfl

/-- A read throws exactly when the call did not do its part. -/
theorem read_signals (w : SdFatWrappedFile) (dest : List UInt8) (ok : Bool) :
    (StoreCall.read dest ok).signals w = true ↔ w.file.performs ok = false := by
  show (!(w.read dest ok).1.isOk) = true ↔ _
  cases h : w.file.performs ok with
  | true =>
    rw [read_eq_of_performs h]
    exact iff_of_false Bool.false_ne_true Bool.noConfusion
  | false =>
    rw [read_throws h]
    exact iff_of_true rfl rfl

/-- A write throws when the call did not do its part, and on an empty write also
when the bit is still set from before. -/
theorem fileWrite_signals (w : SdFatWrappedFile) (data : List UInt8) (ok : Bool) :
    (StoreCall.fileWrite data ok).signals w = true ↔
      w.file.performs ok = false ∨ data = [] ∧ w.file.writeError = true := by
  show (!(w.fileWrite data ok).1.isOk) = true ↔ _
  unfold fileWrite FsFile.write
  dsimp only
  cases h : w.file.performs ok with
  | false =>
    refine iff_of_true ?_ (Or.inl rfl)
    simp [FsFile.getWriteError, raise, Except.isOk, Except.toBool]
  | true =>
    have hopen : w.file.isOpen = true := (Bool.and_eq_true_iff.mp h).1
    cases data with
    | cons b bs => simp [Except.isOk, Except.toBool]
    | nil =>
      cases hbit : w.file.writeError <;>
        simp [FsFile.getWriteError, hopen, raise, Except.isOk, Except.toBool]

theorem fileFlush_signals (w : SdFatWrappedFile) (ok : Bool) :
    (StoreCall.fileFlush ok).signals w = true ↔ (w.file.sync ok).1 = false := by
  show (!(w.fileFlush ok).1.isOk) = true ↔ _
  unfold fileFlush
  cases h : (w.file.sync ok).1 <;> simp [h, raise, Except.isOk, Except.toBool]

theorem close_signals (w : SdFatWrappedFile) (ok : Bool) :
    (StoreCall.close ok).signals w = true ↔ (w.file.close ok).1 = false := by
  show (!(w.close ok).1.isOk) = true ↔ _
  unfold close
  cases h : (w.file.close ok).1 <;> simp [h, raise, Except.isOk, Except.toBool]

/-- What a read that returns has left in `dest`, when the file did not end. -/
theorem read_fills {w : SdFatWrappedFile} {dest bytes : List UInt8} {ok : Bool}
    (hfull : w.file.performs ok = true → dest.length ≤ w.file.rest.length)
    (h : (w.read dest ok).1 = .ok bytes) :
    bytes = w.file.rest.take dest.length ∧ bytes.length = dest.length := by
  cases hperf : w.file.performs ok with
  | false =>
    rw [read_throws hperf] at h
    exact absurd h (by simp)
  | true =>
    have hlen : (w.file.rest.take dest.length).length = dest.length := by
      rw [List.length_take, Nat.min_eq_left (hfull hperf)]
    rw [read_eq_of_performs hperf, hlen, List.drop_length, List.append_nil] at h
    obtain rfl := Except.ok.inj h
    exact ⟨rfl, hlen⟩

end SdFatWrappedFile

/-- A read falls short when it fails or the file ends before `dest` is full. -/
theorem StoreCall.read_fallsShort (f : FsFile) (dest : List UInt8) (ok : Bool) :
    (StoreCall.read dest ok).FallsShort f ↔
      f.performs ok = false ∨ f.rest.length < dest.length := by
  show (f.read dest ok).1 < (dest.length : Int) ↔ _
  cases h : f.performs ok with
  | false =>
    rw [FsFile.read_of_not_performs h]
    exact iff_of_true (by omega) (Or.inl rfl)
  | true =>
    rw [FsFile.read_count_of_performs h]
    simp only [Bool.true_eq_false, false_or]
    omega

/-- The failures of SdFat are passed on exactly by the calls that do not
misreport. -/
theorem neverSilent_iff (w : SdFatWrappedFile) (c : StoreCall) :
    NeverSilent w c ↔ ¬Misreports w c := by
  cases c with
  | openFile filesys path fileDesc mode maxQueueSize =>
    constructor
    · intro hnever hclosed
      exact absurd (hnever.signals.mpr hclosed) Bool.false_ne_true
    · intro hopen
      exact ⟨iff_of_false Bool.false_ne_true hopen, fun _ _ h => nomatch h⟩
  | read dest ok =>
    have hsignals := w.read_signals dest ok
    have hshort := StoreCall.read_fallsShort w.file dest ok
    constructor
    · intro hnever hmis
      rcases hmis with ⟨hperf, hends⟩
      have hthrows := hsignals.mp (hnever.signals.mpr (hshort.mpr (Or.inr hends)))
      exact absurd (hperf.symm.trans hthrows) (by decide)
    · intro hnot
      have hfull : w.file.performs ok = true → dest.length ≤ w.file.rest.length :=
        fun hperf => Nat.not_lt.mp fun hends => hnot ⟨hperf, hends⟩
      refine ⟨?_, ?_⟩
      · rw [hsignals, hshort]
        refine ⟨Or.inl, fun h => h.elim id fun hends => ?_⟩
        rw [Bool.eq_false_iff]
        exact fun hperf => absurd hends (Nat.not_lt.mpr (hfull hperf))
      · intro dest' ok' heq bytes hbytes
        obtain ⟨rfl, rfl⟩ := StoreCall.read.inj heq
        exact SdFatWrappedFile.read_fills hfull hbytes
  | fileWrite data ok =>
    have hsignals := w.fileWrite_signals data ok
    constructor
    · intro hnever hmis
      rcases hmis with ⟨hempty, hperf, hbit⟩
      have hfails : w.file.performs ok = false := hnever.signals.mp (hsignals.mpr (Or.inr ⟨hempty, hbit⟩))
      exact absurd (hperf.symm.trans hfails) (by decide)
    · intro hnot
      refine ⟨?_, fun _ _ h => nomatch h⟩
      rw [hsignals]
      refine ⟨fun h => h.elim id fun ⟨hempty, hbit⟩ => ?_, Or.inl⟩
      show w.file.performs ok = false
      rw [Bool.eq_false_iff]
      exact fun hperf => hnot ⟨hempty, hperf, hbit⟩
  | fileFlush ok => exact iff_of_true ⟨w.fileFlush_signals ok, fun _ _ h => nomatch h⟩ id
  | close ok => exact iff_of_true ⟨w.close_signals ok, fun _ _ h => nomatch h⟩ id

/-- An open file of one byte. -/
def oneByte : SdFatWrappedFile :=
  { file := { FsFile.closed with isOpen := true, rest := [7] }, fileDesc := 0, mode := 0,
    maxQueueSize := 0, logs := [] }

/-- A path that does not open, two bytes of a file of one, and an empty write
after one that failed. -/
theorem neverSilent_fails :
    ¬NeverSilent oneByte (.openFile (fun _ _ => .closed) "/Logs/1/telemetrylog.csv" 0 0 0) ∧
      ¬NeverSilent oneByte (.read [0, 0] true) ∧
      ¬NeverSilent (oneByte.fileWrite [1] false).2 (.fileWrite [] true) := by
  refine ⟨fun h => ?_, fun h => ?_, fun h => ?_⟩
  · exact absurd (h.signals.mpr rfl) (by decide)
  · have hshort : (StoreCall.read [0, 0] true).FallsShort oneByte.file :=
      (StoreCall.read_fallsShort _ _ _).mpr (Or.inr (by decide))
    exact absurd (h.signals.mpr hshort) (by decide)
  · have hfails : (oneByte.fileWrite [1] false).2.file.performs true = false :=
      h.signals.mp (by decide)
    exact absurd hfails (by decide)

end Heimdall
