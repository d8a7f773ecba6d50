import NNRt.Cache.CacheInfo
import NNRt.Lib.Directory

/-!
# The compiled-cache store

`NNCompiledCache`: a list of byte buffers is saved as one file per buffer and a
`cache_info` record, and restored from them.

The file system is explicit state. What can go wrong while files are opened,
written or mapped is an oracle `IoFaults`; `{}` is the oracle without I/O
errors. A restored buffer is a mapping, and the mappings made and released are
logged.
-/

namespace NNRt

/-! ## Files -/

/-- Files by canonical directory and name. -/
structure FileSystem where
  /-- `realpath` of a directory. -/
  realpath : String → Option String
  /-- `realpath("")` fails with `ENOENT`. -/
  realpath_empty : realpath "" = none
  files : String → String → Option Bytes

namespace FileSystem

/-- Write the whole file `name` in the canonical directory `dir`. -/
def write (fs : FileSystem) (dir name : String) (content : Bytes) : FileSystem :=
  { fs with files := Function.update fs.files dir (Directory.write (fs.files dir) name content) }

/-- A sequence of writes into one directory. -/
def writeAll (fs : FileSystem) (dir : String) : List (String × Bytes) → FileSystem
  | [] => fs
  | (name, content) :: ws => (fs.write dir name content).writeAll dir ws

/-- The file `dirPath + "/" + name`, when `realpath` finds it. -/
def find? (fs : FileSystem) (dirPath name : String) : Option Bytes :=
  match fs.realpath dirPath with
  | none => none
  | some dir => fs.files dir name

@[simp] theorem write_realpath (fs : FileSystem) (dir name : String) (content : Bytes) :
    (fs.write dir name content).realpath = fs.realpath := rfl

@[simp] theorem write_files (fs : FileSystem) (dir name : String) (content : Bytes) :
    (fs.write dir name content).files dir = Directory.write (fs.files dir) name content := by
  simp [write]

@[simp] theorem writeAll_realpath (fs : FileSystem) (dir : String) (ws : List (String × Bytes)) :
    (fs.writeAll dir ws).realpath = fs.realpath := by
  induction ws generalizing fs with
  | nil => rfl
  | cons w ws ih => exact ih (fs.write dir w.1 w.2)

@[simp] theorem writeAll_files (fs : FileSystem) (dir : String) (ws : List (String × Bytes)) :
    (fs.writeAll dir ws).files dir = Directory.writeAll (fs.files dir) ws := by
  induction ws generalizing fs with
  | nil => rfl
  | cons w ws ih =>
    show ((fs.write dir w.1 w.2).writeAll dir ws).files dir = _
    rw [ih, write_files]
    rfl

theorem writeAll_append (fs : FileSystem) (dir : String) (ws vs : List (String × Bytes)) :
    fs.writeAll dir (ws ++ vs) = (fs.writeAll dir ws).writeAll dir vs := by
  induction ws generalizing fs with
  | nil => rfl
  | cons w ws ih => exact ih (fs.write dir w.1 w.2)

theorem find?_eq {fs : FileSystem} {dirPath dir : String} (h : fs.realpath dirPath = some dir)
    (name : String) : fs.find? dirPath name = fs.files dir name := by
  simp [find?, h]

theorem realpath_of_find? {fs : FileSystem} {cacheDir name : String} {content : Bytes}
    (h : fs.find? cacheDir name = some content) : ∃ path, fs.realpath cacheDir = some path := by
  unfold find? at h
  cases hpath : fs.realpath cacheDir with
  | none => simp [hpath] at h
  | some path => exact ⟨path, rfl⟩

/-- A file that has just been written. -/
theorem find?_write {fs : FileSystem} {cacheDir path name : String} {content : Bytes}
    (h : fs.realpath cacheDir = some path) :
    (fs.write path name content).find? cacheDir name = some content := by
  rw [find?_eq (by rwa [write_realpath]), write_files, Directory.write_self]

/-- The file system whose only directory is `dir`, without a file. -/
def single (dir : String) (h : dir ≠ "") : FileSystem where
  realpath path := if path = dir then some dir else none
  realpath_empty := if_neg (Ne.symm h)
  files _ _ := none

end FileSystem

/-- The directory of the examples. -/
theorem dataDir_ne : "/data" ≠ "" := by decide

/-- What becomes of the bytes written to one stream. -/
inductive WriteOutcome
  | complete
  /-- The stream reports the error; `written` bytes have reached the file. -/
  | failed (written : Nat)
  /-- The error happens while the buffer is flushed at `close`, which nobody checks. -/
  | lost (written : Nat)
  deriving DecidableEq, Repr

/-- What becomes of one file that is to be mapped. -/
inductive ReadOutcome
  | complete
  | realpathFails
  | openFails
  | fstatFails
  | mmapFails
  deriving DecidableEq, Repr

/-- The I/O errors of one call, by file name. -/
structure IoFaults where
  opens : String → Bool := fun _ => true
  writes : String → WriteOutcome := fun _ => .complete
  reads : String → ReadOutcome := fun _ => .complete

/-- A mapped cache file (`Buffer`). -/
structure Buffer where
  fd : Nat
  data : Bytes
  deriving DecidableEq, Repr

/-- `mmap` of a cache file, and the `munmap` and `close` that undo it. -/
inductive MapEvent
  | mapped (fd : Nat)
  | released (fd : Nat)
  deriving DecidableEq, Repr

/-- The log of mappings; its length is the next descriptor. -/
abbrev Mappings := List MapEvent

/-! ## The store -/

/-- The answer of `Device::ReadOpVersion`. -/
structure OpVersionReply where
  code : ReturnCode
  currentOpVersion : Int32
  deriving DecidableEq, Repr

/-- `NNCompiledCache`; of `m_device` the store uses `ReadOpVersion` only. -/
structure NNCompiledCache where
  backendID : UInt64 := 0
  modelName : String := ""
  device : Option OpVersionReply := none
  isExceedRamLimit : Bool := false
  deriving DecidableEq, Repr

/-- `m_modelName + std::to_string(i) + ".nncache"`. -/
def modelFileName (modelName : String) (i : Nat) : String :=
  modelName ++ toString i ++ ".nncache"

/-- `m_modelName + "cache_info.nncache"`. -/
def infoFileName (modelName : String) : String :=
  modelName ++ "cache_info.nncache"

/-- `cachePath.find("//") != npos`. -/
def hasDoubleSlash : List Char → Bool
  | '/' :: '/' :: _ => true
  | _ :: cs => hasDoubleSlash cs
  | [] => false

/-- `VerifyCachePath`. -/
def verifyCachePath (cachePath : String) : ReturnCode :=
  if cachePath.toList.head? ≠ some '/' then .invalidFile
  else if hasDoubleSlash cachePath.toList then .invalidFile
  else .success

namespace NNCompiledCache

variable (codec : JsonCodec) (io : IoFaults)

/-! ## Save -/

/-- The loop of `GenerateCacheModel` over the buffers from the `i`-th on. Opening
a file truncates it; what a failed write has left in it stays there. -/
def writeCacheModels (store : NNCompiledCache) (dir : String) (fs : FileSystem)
    (checkSums : List UInt16) (i : Nat) : List Bytes → ReturnCode × List UInt16 × FileSystem
  | [] => (.success, checkSums, fs)
  | cache :: caches =>
    let cacheModelFile := modelFileName store.modelName i
    if !io.opens cacheModelFile then (.invalidParameter, checkSums, fs)
    else
      let checkSums := checkSums ++ [getCrc16 cache]
      match io.writes cacheModelFile with
      | .complete =>
        writeCacheModels store dir (fs.write dir cacheModelFile cache) checkSums (i + 1) caches
      -- The stream still reports success: the checksum is that of the whole buffer.
      | .lost written =>
        writeCacheModels store dir (fs.write dir cacheModelFile (cache.take written))
          checkSums (i + 1) caches
      | .failed written =>
        (.saveCacheException, checkSums, fs.write dir cacheModelFile (cache.take written))

/-- `GenerateCacheModel`, which ends with the record that `WriteCacheInfo` is
to write. `reply` is what the device answers to `ReadOpVersion`. -/
def generateCacheModel (store : NNCompiledCache) (reply : OpVersionReply) (fs : FileSystem)
    (caches : List Bytes) (cacheDir : String) (version : UInt32) :
    ReturnCode × NNCompiledCacheInfo × FileSystem :=
  let cacheNumber := caches.length
  if cacheNumber = 0 ∨ cacheNumber > nnCacheFileNumberMax then (.failed, {}, fs)
  else
    let info : NNCompiledCacheInfo :=
      { fileNumber := Int64.ofNat cacheNumber
        version := version.toUInt64.toInt64
        deviceId := store.backendID.toInt64 }
    match fs.realpath cacheDir with
    | none => (.invalidParameter, info, fs)
    | some path =>
      if verifyCachePath path ≠ .success then (verifyCachePath path, info, fs)
      else
        match writeCacheModels io store path fs [] 0 caches with
        | (.success, checkSums, fs) =>
          let info := { info with modelCheckSum := checkSums }
          -- The device is asked when the files have been written.
          if reply.code ≠ .success then (reply.code, info, fs)
          else
            let info := { info with
              opVersion := reply.currentOpVersion.toInt64
              isExceedRamLimit := if store.isExceedRamLimit then 1 else 0 }
            if !strncpySucceeds (codec.dump (cacheInfoData info)).length then
              (.invalidParameter, info, fs)
            else (.success, info, fs)
        | (ret, checkSums, fs) => (ret, { info with modelCheckSum := checkSums }, fs)

/-- `WriteCacheInfo`. The state of the stream is not checked after `<<`. -/
def writeCacheInfo (store : NNCompiledCache) (fs : FileSystem) (info : NNCompiledCacheInfo)
    (cacheDir : String) : ReturnCode × FileSystem :=
  match fs.realpath cacheDir with
  | none => (.invalidParameter, fs)
  | some path =>
    if verifyCachePath path ≠ .success then (verifyCachePath path, fs)
    else
      let cacheInfoPath := infoFileName store.modelName
      if !io.opens cacheInfoPath then (.invalidFile, fs)
      else
        let text := cacheInfoText codec info
        match io.writes cacheInfoPath with
        | .complete => (.success, fs.write path cacheInfoPath text)
        | .lost written | .failed written =>
          (.success, fs.write path cacheInfoPath (text.take written))

/-- `GenerateCacheFiles`. -/
def generateCacheFiles (store : NNCompiledCache) (reply : OpVersionReply) (fs : FileSystem)
    (caches : List Bytes) (cacheDir : String) (version : UInt32) : ReturnCode × FileSystem :=
  match generateCacheModel codec io store reply fs caches cacheDir version with
  | (.success, info, fs) => writeCacheInfo codec io store fs info cacheDir
  | (ret, _, fs) => (ret, fs)

/-- `Save`. -/
def save (store : NNCompiledCache) (fs : FileSystem) (caches : List Bytes) (cacheDir : String)
    (version : UInt32) : ReturnCode × FileSystem :=
  if caches.isEmpty then (.invalidParameter, fs)
  else
    match store.device with
    | none => (.invalidParameter, fs)
    | some reply => generateCacheFiles codec io store reply fs caches cacheDir version

/-! ## Restore -/

/-- `CheckCache`. -/
def checkCache (store : NNCompiledCache) (cacheDir : String) (caches : List Buffer) : ReturnCode :=
  if cacheDir = "" then .invalidParameter
  else if !caches.isEmpty then .invalidParameter
  else if store.device.isNone then .invalidParameter
  else .success

/-- `ReadCacheModelFile`: map the whole file. An empty file cannot be mapped. -/
def readCacheModelFile (fs : FileSystem) (cacheDir name : String) (mappings : Mappings) :
    Except ReturnCode (Buffer × Mappings) :=
  match fs.find? cacheDir name, io.reads name with
  | none, _ | _, .realpathFails => .error .invalidParameter
  | _, .openFails => .error .invalidFile
  | _, .fstatFails => .error .memoryError
  | _, .mmapFails => .error .invalidFile
  | some content, .complete =>
    if content.isEmpty then .error .invalidFile
    else .ok (⟨mappings.length, content⟩, mappings ++ [.mapped mappings.length])

/-- The loop of `Restore` over `n` files from the `i`-th on. -/
def restoreFiles (store : NNCompiledCache) (fs : FileSystem) (cacheDir : String)
    (modelCheckSum : List UInt16) (i : Nat) :
    Nat → List Buffer → Mappings → Except Fault (ReturnCode × List Buffer × Mappings)
  | 0, caches, mappings => .ok (.success, caches, mappings)
  | n + 1, caches, mappings =>
    match readCacheModelFile io fs cacheDir (modelFileName store.modelName i) mappings with
    | .error _ => .ok (.invalidFile, caches, mappings)
    | .ok (modelBuffer, mappings) =>
      match modelCheckSum[i]? with
      | none => .error .outOfBounds
      | some checkSum =>
        -- The buffer with the wrong sum is released here, those before it by the caller.
        if getCrc16 modelBuffer.data ≠ checkSum then
          .ok (.invalidFile, caches, mappings ++ [.released modelBuffer.fd])
        else
          restoreFiles store fs cacheDir modelCheckSum (i + 1) n
            (caches ++ [modelBuffer]) mappings

/-- `Restore`. The buffers read before an error stay in `caches`. -/
def restore (store : NNCompiledCache) (fs : FileSystem) (cacheDir : String) (version : UInt32)
    (caches : List Buffer) (mappings : Mappings) :
    Except Fault (ReturnCode × List Buffer × Mappings) :=
  if checkCache store cacheDir caches ≠ .success then
    .ok (checkCache store cacheDir caches, caches, mappings)
  else
    let name := infoFileName store.modelName
    match fs.find? cacheDir name, io.reads name with
    | none, _ | _, .realpathFails => .ok (.invalidParameter, caches, mappings)
    | some content, outcome => do
      let (ret, cacheInfo) ← checkCacheInfo codec store.backendID
        (if outcome = .openFails then none else some content)
      if ret ≠ .success then return (ret, caches, mappings)
      else if version.toUInt64.toInt64 > cacheInfo.version then
        return (.invalidFile, caches, mappings)
      else if version.toUInt64.toInt64 < cacheInfo.version then
        return (.operationForbidden, caches, mappings)
      else
        restoreFiles io store fs cacheDir cacheInfo.modelCheckSum 0
          cacheInfo.fileNumber.toUInt64.toNat caches mappings

/-- `ReleaseCacheBuffer`. -/
def releaseCacheBuffer (buffers : List Buffer) (mappings : Mappings) : List Buffer × Mappings :=
  ([], mappings ++ buffers.map fun buffer => .released buffer.fd)

end NNCompiledCache

end NNRt
