import Heimdall.Storage.FatData
import Mathlib.Data.List.Chain

/-!
# Files

An open file is a position in a chain of clusters: `m_curCluster` is the cluster of
the byte before `m_curPosition`, so that at a cluster's end it is still the one that
ends there, and the next one is looked for, or allocated, when the next byte is read
or written.

The functions are those of `FatFile.cpp` on a file and its volume. A call that fails
has often moved on by then, and leaves what it has done.
-/

namespace Heimdall

structure FatFile where
  attributes : UInt8
  readError : Bool
  writeError : Bool
  flagRead : Bool
  flagWrite : Bool
  flagAppend : Bool
  flagPreallocate : Bool
  flagContiguous : Bool
  flagDirDirty : Bool
  dirIndex : ℕ
  dirSector : ℕ
  curCluster : ℕ
  curPosition : ℕ
  fileSize : ℕ
  firstCluster : ℕ

namespace FatFile

variable (f : FatFile)

def isOpen : Bool := f.attributes != 0
def isFile : Bool := f.attributes &&& 0x08 != 0
def isDir : Bool := f.attributes &&& 0xD0 != 0
def isSubDir : Bool := f.attributes &&& 0x10 != 0
def isReadOnly : Bool := f.attributes &&& 0x01 != 0
def isRootFixed : Bool := f.attributes &&& 0x40 != 0
def isRoot32 : Bool := f.attributes &&& 0x80 != 0

/-- Bytes from the start of the directory's sector to the file's entry. -/
def dirOffset : ℕ := 32 * (f.dirIndex &&& 0xF)

/-- Over the next `n` bytes. -/
def advance (n : ℕ) : FatFile := { f with curPosition := (f.curPosition + n) % 2 ^ 32 }

end FatFile

/-- An open file, and the volume it is on. -/
structure OpenFile where
  vol : FatPartition
  file : FatFile

namespace OpenFile

open Fallible FatPartition

def onVolume {α : Type} (p : Fallible FatPartition α) : Fallible OpenFile α :=
  within OpenFile.vol (fun o vol => { o with vol }) p

def setFile (f : FatFile → FatFile) : Fallible OpenFile Unit :=
  change fun o => { o with file := f o.file }

def setCluster (cluster : ℕ) : Fallible OpenFile Unit :=
  setFile fun f => { f with curCluster := cluster }

/-! ## Seeking -/

/-- `n` clusters on. -/
def follow (L : FatLayout) (n cluster : ℕ) : Fallible FatPartition ℕ :=
  repeated (fun cluster => do
    match ← fatGet L cluster with
    | some next => pure next
    | none => fail) n cluster

/-- The cluster of the byte before `pos`. -/
def seekCluster (L : FatLayout) (pos : ℕ) (f : FatFile) : Fallible FatPartition ℕ :=
  if pos = 0 then pure 0
  else if f.isFile && decide (f.fileSize < pos) then fail
  else if !f.isFile && f.isRootFixed then do
    require (decide (pos ≤ 32 * L.rootDirEntryCount))
    pure f.curCluster
  else
    let nNew := (pos - 1) >>> L.bytesPerClusterShift
    if f.flagContiguous then pure ((f.firstCluster + nNew) % 2 ^ 32)
    else
      let nCur := ((f.curPosition + 2 ^ 32 - 1) % 2 ^ 32) >>> L.bytesPerClusterShift
      if nNew < nCur ∨ f.curPosition = 0 then
        follow L nNew (if f.isRoot32 then L.rootDirStart else f.firstCluster)
      else follow L (nNew - nCur) f.curCluster

/-- `m_curCluster` is set once nothing can fail. -/
def seekSet (L : FatLayout) (pos : ℕ) : Fallible OpenFile Unit := do
  let o ← state
  require o.file.isOpen
  given (pos != o.file.curPosition) do
    let cluster ← onVolume (seekCluster L pos o.file)
    setFile fun f => { f with curCluster := cluster, curPosition := pos, flagPreallocate := false }

/-! ## Reading -/

/-- At the start of a cluster, goes on to it. False at the end of a directory. -/
def nextToRead (L : FatLayout) : Fallible OpenFile Bool := do
  let o ← state
  let f := o.file
  if f.curPosition &&& 511 = 0 ∧ L.sectorOfCluster f.curPosition = 0 then
    if f.curPosition = 0 then do
      setCluster (if f.isRoot32 then L.rootDirStart else f.firstCluster)
      pure true
    else if f.isFile && f.flagContiguous then do
      setCluster ((f.curCluster + 1) % 2 ^ 32)
      pure true
    else do
      match ← onVolume (fatGet L f.curCluster) with
      | some next => do
        setCluster next
        pure true
      | none => do
        require f.isDir
        pure false
  else pure true

/-- Bytes of a sector from the cache, whole sectors past it. -/
def fetch (L : FatLayout) (toRead sector : ℕ) : Fallible OpenFile (List UInt8) := do
  let o ← state
  let offset := o.file.curPosition &&& 511
  if offset ≠ 0 ∨ toRead < 512 ∨ sector = o.vol.cache.sector then do
    onVolume (dataCachePrepare sector .forRead)
    let o ← state
    pure ((o.vol.cache.buffer.toList.drop offset).take (min (512 - offset) toRead))
  else if 2 * 512 ≤ toRead then do
    let ns := toRead >>> 9
    let ns := if o.file.isRootFixed then ns
      else min ns (L.sectorsPerCluster - L.sectorOfCluster o.file.curPosition)
    let dst ← onVolume (onCache (FsCache.cacheSafeReads sector ns))
    pure (dst.flatMap Vector.toList)
  else do
    let dst ← onVolume (onCache (FsCache.cacheSafeRead sector))
    pure dst.toList

def readFrom (L : FatLayout) (toRead sector : ℕ) : Fallible OpenFile (List UInt8) := do
  let bytes ← fetch L toRead sector
  setFile (FatFile.advance · bytes.length)
  pure bytes

/-- One turn of the loop of `read`. -/
def readSome (L : FatLayout) (toRead : ℕ) : Fallible OpenFile (Option (List UInt8)) := do
  let o ← state
  if o.file.isRootFixed then do
    let bytes ← readFrom L toRead ((L.rootDirStart + o.file.curPosition >>> 9) % 2 ^ 32)
    pure (some bytes)
  else do
    if ← nextToRead L then do
      let o ← state
      let bytes ← readFrom L toRead (L.dataSector o.file.curCluster o.file.curPosition)
      pure (some bytes)
    else pure none

/-- Each turn reads at least a byte, so that `fuel` need be no more than `toRead`. -/
def readLoop (L : FatLayout) : ℕ → ℕ → Fallible OpenFile (List UInt8)
  | 0, _ => pure []
  | fuel + 1, toRead =>
    if toRead = 0 then pure []
    else do
      match ← readSome L toRead with
      | some bytes => do
        let rest ← readLoop L fuel (toRead - bytes.length)
        pure (bytes ++ rest)
      | none => pure []

/-- No more than there is. -/
def readable (L : FatLayout) (nbyte : ℕ) (f : FatFile) : ℕ :=
  if f.isFile then min nbyte ((f.fileSize + 2 ^ 32 - f.curPosition) % 2 ^ 32)
  else if f.isRootFixed then
    min nbyte ((32 * L.rootDirEntryCount + 2 ^ 16 - f.curPosition % 2 ^ 16) % 2 ^ 16)
  else nbyte

def read (L : FatLayout) (nbyte : ℕ) : Fallible OpenFile (List UInt8) :=
  onFail (fun o => { o with file := { o.file with readError := true } }) do
    let o ← state
    require o.file.flagRead
    readLoop L (readable L nbyte o.file) (readable L nbyte o.file)

/-! ## Writing -/

def addCluster (L : FatLayout) : Fallible OpenFile Unit := do
  let o ← state
  let cc := o.file.curCluster
  let cluster ← onVolume (allocateCluster L cc)
  setFile fun f =>
    { f with
      curCluster := cluster
      flagContiguous :=
        if cc = 0 then true else if cluster ≠ (cc + 1) % 2 ^ 32 then false else f.flagContiguous
      flagDirDirty := true }

/-- At the start of a cluster, goes on to it, or to a new one. -/
def nextToWrite (L : FatLayout) : Fallible OpenFile Unit := do
  let o ← state
  let f := o.file
  if L.sectorOfCluster f.curPosition = 0 ∧ f.curPosition &&& 511 = 0 then
    if f.curCluster ≠ 0 then
      if f.flagContiguous && decide (f.curPosition < f.fileSize) then
        setCluster ((f.curCluster + 1) % 2 ^ 32)
      else do
        match ← onVolume (fatGet L f.curCluster) with
        | some next => setCluster next
        | none => addCluster L
    else if f.firstCluster = 0 then do
      addCluster L
      setFile fun f => { f with firstCluster := f.curCluster }
    else setCluster f.firstCluster
  else pure ()

/-- Part of a sector through the cache, whole sectors past it. -/
def writeTo (src : List UInt8) (sector : ℕ) (L : FatLayout) : Fallible OpenFile ℕ := do
  let o ← state
  let f := o.file
  let sectorOffset := f.curPosition &&& 511
  if sectorOffset ≠ 0 ∨ src.length < 512 then do
    let n := min (512 - sectorOffset) src.length
    let cacheOption :=
      if sectorOffset = 0 ∧ (f.fileSize ≤ f.curPosition ∨ f.flagPreallocate = true)
      then CacheOption.reserveForWrite else CacheOption.forWrite
    onVolume (dataCachePrepare sector cacheOption >>= fun _ =>
      onCache (FsCache.store sectorOffset (src.take n)))
    given (512 == n + sectorOffset) (onVolume (onCache FsCache.sync))
    pure n
  else if 2 * 512 ≤ src.length then do
    let maxSectors := L.sectorsPerCluster - L.sectorOfCluster f.curPosition
    let nSector := min (src.length >>> 9) maxSectors
    onVolume (onCache (FsCache.cacheSafeWrites sector (Memory.blocks 512 0 nSector src)))
    pure (nSector * 512)
  else do
    onVolume (onCache (FsCache.cacheSafeWrite sector (Memory.block 512 0 src 0)))
    pure 512

/-- One turn of the loop of `write`. -/
def writeSome (L : FatLayout) (src : List UInt8) : Fallible OpenFile ℕ := do
  nextToWrite L
  let o ← state
  let n ← writeTo src (L.dataSector o.file.curCluster o.file.curPosition) L
  setFile (FatFile.advance · n)
  pure n

/-- Each turn writes at least a byte. -/
def writeLoop (L : FatLayout) : ℕ → List UInt8 → Fallible OpenFile Unit
  | 0, _ => pure ()
  | fuel + 1, src =>
    if src = [] then pure ()
    else do
      let n ← writeSome L src
      writeLoop L fuel (src.drop n)

/-- The time callback is null. -/
def write (L : FatLayout) (src : List UInt8) : Fallible OpenFile Unit :=
  onFail (fun o => { o with file := { o.file with writeError := true } }) do
    let o ← state
    require o.file.flagWrite
    given o.file.flagAppend (seekSet L o.file.fileSize)
    let o ← state
    require (decide (src.length ≤ 0xFFFFFFFF - o.file.curPosition))
    writeLoop L src.length src
    setFile fun f =>
      if f.fileSize < f.curPosition then
        { f with fileSize := f.curPosition, flagDirDirty := true }
      else f

/-! ## The directory entry -/

/-- `FS_ATTRIB_COPY`. -/
def attribCopy : UInt8 := 0x37

/-- The bytes of the entry, while its sector is held. -/
def dirEntry (o : OpenFile) : List UInt8 :=
  (o.vol.cache.buffer.toList.drop o.file.dirOffset).take 32

/-- To a field of the entry. -/
def setDir (field : ℕ) (bytes : List UInt8) : Fallible OpenFile Unit := do
  let o ← state
  onVolume (onCache (FsCache.store (o.file.dirOffset + field) bytes))

def cacheDirEntry (option : CacheOption) : Fallible OpenFile Unit := do
  let o ← state
  onVolume (dataCachePrepare o.file.dirSector option)

/-- An entry whose name begins with 0xE5 has been deleted. -/
def writeDirEntry : Fallible OpenFile Unit := do
  cacheDirEntry .forWrite
  let o ← state
  require (o.dirEntry.head? != some 0xE5)
  setDir 11 [o.file.attributes &&& attribCopy]
  given o.file.isFile (setDir 28 (LittleEndian.encode 4 o.file.fileSize))
  setDir 26 (LittleEndian.encode 2 (o.file.firstCluster &&& 0xFFFF))
  setDir 20 (LittleEndian.encode 2 (o.file.firstCluster >>> 16))
  setFile fun f => { f with flagDirDirty := false }

def cacheSync : Fallible FatPartition Unit := onCache (FsCache.sync >>= fun _ => FsCache.syncDevice)

def sync : Fallible OpenFile Unit := do
  let o ← state
  given o.file.isOpen
    (onFail (fun o => { o with file := { o.file with writeError := true } }) do
      given o.file.flagDirDirty writeDirEntry
      onVolume cacheSync)

/-! ## Opening -/

inductive AccessMode where
  | rdonly
  | wronly
  | rdwr
  | other

/-- `oflag_t`, as far as an entry that exists is opened by it. -/
structure OFlag where
  accmode : AccessMode
  append : Bool
  trunc : Bool
  atEnd : Bool

def closedFile (dirIndex : ℕ) : FatFile where
  attributes := 0
  readError := false
  writeError := false
  flagRead := false
  flagWrite := false
  flagAppend := false
  flagPreallocate := false
  flagContiguous := false
  flagDirDirty := false
  dirIndex := dirIndex
  dirSector := 0
  curCluster := 0
  curPosition := 0
  fileSize := 0
  firstCluster := 0

def setAccess (oflag : OFlag) : Fallible OpenFile Unit :=
  match oflag.accmode with
  | .rdonly => do
    require (!oflag.trunc)
    setFile fun f => { f with flagRead := true }
  | .rdwr => setFile fun f => { f with flagRead := true, flagWrite := true }
  | .wronly => setFile fun f => { f with flagWrite := true }
  | .other => fail

/-- The number of a field of an entry. -/
def dirField (dir : List UInt8) (field width : ℕ) : ℕ :=
  LittleEndian.decode ((dir.drop field).take width)

/-- Opens the file whose entry is in the held sector. -/
def openCachedEntry (L : FatLayout) (dirIndex : ℕ) (oflag : OFlag) : Fallible OpenFile Unit :=
  onFail (fun o => { o with file := { o.file with
      attributes := 0, flagRead := false, flagWrite := false, flagAppend := false,
      flagPreallocate := false, flagContiguous := false, flagDirDirty := false } }) do
    setFile fun _ => closedFile dirIndex
    let o ← state
    let dir := o.dirEntry
    let attributes := dir.getD 11 0
    require (attributes &&& 0x08 == 0)
    setFile fun f =>
      { f with
        attributes := attributes &&& attribCopy ||| if attributes &&& 0x18 = 0 then 0x08 else 0 }
    setAccess oflag
    let o ← state
    given o.file.flagWrite do
      require (!(o.file.isSubDir || o.file.isReadOnly))
      setFile fun f => { f with attributes := f.attributes ||| 0x20 }
    setFile fun f => { f with flagAppend := oflag.append, dirSector := o.vol.cache.sector }
    let firstCluster := dirField dir 20 2 <<< 16 ||| dirField dir 26 2
    if oflag.trunc then do
      given (firstCluster != 0) (onVolume (freeChain L firstCluster))
      setFile fun f => { f with flagDirDirty := true }
    else setFile fun f => { f with firstCluster, fileSize := dirField dir 28 4 }
    let o ← state
    given oflag.atEnd (seekSet L o.file.fileSize)

/-- The entry is found by reading its directory, which leaves its sector held. -/
def openAt (L : FatLayout) (dirSector dirIndex : ℕ) (oflag : OFlag) : Fallible OpenFile Unit := do
  onVolume (dataCachePrepare dirSector .forRead)
  openCachedEntry L dirIndex oflag

end OpenFile

end Heimdall
