import NNRt.Compiler.Serialize
import NNRt.Cache.Store

/-!
# `NNCompiler` and its cache

The state of a compiler, `SaveToCacheFile` and `RestoreFromCacheFile`.

The descriptions of a compiler are shared pointers; what a description is
stands as a type parameter `δ`, and the cache functions read and create the
descriptions themselves. What the backend manager and the device answer during
one call is an argument of that call.
-/

namespace NNRt

/-- The fields of `ModelConfig` that are set when a cache is restored. -/
structure ModelConfig where
  enableFloat16 : Bool
  mode : PerformanceMode
  priority : Priority
  isNpuFmShared : Bool
  deriving DecidableEq, Repr

/-- A prepared model of the device: which one it is, and what it answers when
its cache is exported and its built model released. -/
structure PreparedModel where
  id : Nat
  exportModelCache : ReturnCode × List Bytes := (.success, [])
  releaseBuiltModel : ReturnCode := .success
  deriving DecidableEq, Repr

/-- `NNCompiler`. -/
structure NNCompiler (δ : Type) where
  isBuild : Bool := false
  enableFp16 : Bool := false
  cachePath : String := ""
  cacheVersion : UInt32 := 0
  backendID : UInt64 := 0
  priority : Priority := .none
  performance : PerformanceMode := .none
  preparedModel : Option PreparedModel := none
  inputTensorDescs : List (δ × UInt32) := []
  outputTensorDescs : List (δ × UInt32) := []
  extensionConfig : ExtensionConfig := {}

/-- `INPUT_OUTPUT_MAX_NUM`. -/
def inputOutputMaxNum : Nat := 200

/-- `INVALID_CAHCE_VERSION`. -/
def invalidCacheVersion : UInt32 := 0xffffffff

/-- The cached part of a list that ends with the two description buffers:
`CACHE_INPUT_TENSORDESC_OFFSET` and `CACHE_OUTPUT_TENSORDESC_OFFSET` from its end. -/
def cacheInputTensorDescOffset : Nat := 2

def cacheOutputTensorDescOffset : Nat := 1

/-- `NNCompiledCache::SetBackend`: the backend found for the id, the device of
that backend, and what that device will answer to `ReadOpVersion`. -/
def NNCompiledCache.setBackend (store : NNCompiledCache)
    (backend : Option (Option OpVersionReply)) (backendID : UInt64) :
    ReturnCode × NNCompiledCache :=
  match backend with
  | none => (.invalidParameter, store)
  | some none => (.failed, { store with device := none })
  | some (some reply) => (.success, { store with device := some reply, backendID := backendID })

/-- What is outside the compiler during one cache call. -/
structure CacheEnv where
  codec : JsonCodec
  io : IoFaults := {}
  /-- The I/O errors of the op-version update, which opens `cache_info` again. -/
  ioUpdate : IoFaults := {}
  /-- The lookup of the backend and of its device. -/
  backend : Option (Option OpVersionReply)
  /-- `PrepareModelFromModelCache`: its code, `m_preparedModel` afterwards, `isUpdatable`. -/
  prepare : ReturnCode × Option PreparedModel × Bool := (.success, none, false)
  /-- `ReadOpVersion` of the compiler's device. -/
  readOpVersion : OpVersionReply := ⟨.success, 0⟩

namespace NNCompiler

/-! ## `SaveToCacheFile` -/

/-- `SaveToCacheFile`. -/
def saveToCacheFile (env : CacheEnv) (c : NNCompiler TensorDesc) (fs : FileSystem) :
    ReturnCode × FileSystem :=
  if c.cachePath = "" then (.invalidParameter, fs)
  else if c.cacheVersion = invalidCacheVersion then (.invalidParameter, fs)
  else
    match c.preparedModel with
    | none => (.failed, fs)
    | some preparedModel =>
      let (ret, caches) := preparedModel.exportModelCache
      if ret ≠ .success then (ret, fs)
      else if caches.length = 0 ∨ caches.length > nnCacheFileNumberMax then (.failed, fs)
      else
        match ({} : NNCompiledCache).setBackend env.backend c.backendID with
        | (.success, compiledCache) =>
          if c.inputTensorDescs.length > inputOutputMaxNum
              ∨ c.outputTensorDescs.length > inputOutputMaxNum then (.invalidParameter, fs)
          else
            match serializeTensorsToBuffer c.inputTensorDescs with
            | .error ret => (ret, fs)
            | .ok inputTensorDescBuffer =>
              match serializeTensorsToBuffer c.outputTensorDescs with
              | .error ret => (ret, fs)
              | .ok outputTensorDescBuffer =>
                let compiledCache := { compiledCache with
                  modelName := c.extensionConfig.modelName
                  isExceedRamLimit := c.extensionConfig.isExceedRamLimit }
                match compiledCache.save env.codec env.io fs
                    (caches ++ [inputTensorDescBuffer] ++ [outputTensorDescBuffer])
                    c.cachePath c.cacheVersion with
                -- The record has been written by now, whatever the release answers.
                | (.success, fs) => (preparedModel.releaseBuiltModel, fs)
                | (ret, fs) => (ret, fs)
        | (ret, _) => (ret, fs)

/-! ## `RestoreFromCacheFile` -/

/-- What `RestoreFromCacheFile` leaves behind. -/
structure RestoreOutcome where
  code : ReturnCode
  compiler : NNCompiler TensorDesc
  fs : FileSystem
  mappings : Mappings
  /-- The call of `PrepareModelFromModelCache`, if it came to it. -/
  prepareCall : Option (List Bytes × ModelConfig) := none

/-- The op-version update: when the device has a newer op version than the
record, the record is written again with that op version, and with a version
one below, so that the cache is rebuilt. -/
def updateOpVersion (env : CacheEnv) (compiledCache : NNCompiledCache) (fs : FileSystem)
    (cachePath : String) : Except Fault (ReturnCode × FileSystem) :=
  if env.readOpVersion.code ≠ .success then .ok (env.readOpVersion.code, fs)
  else
    let currentOpVersion := env.readOpVersion.currentOpVersion.toInt64
    let name := infoFileName compiledCache.modelName
    do
      let (ret, modelCacheInfo) ← checkCacheInfo env.codec compiledCache.backendID
        (if env.ioUpdate.reads name = .openFails then none else fs.find? cachePath name)
      if ret ≠ .success then return (ret, fs)
      else if currentOpVersion > modelCacheInfo.opVersion then
        let cacheInfo := { modelCacheInfo with
          version := modelCacheInfo.version - 1
          opVersion := currentOpVersion
          isExceedRamLimit := if modelCacheInfo.isExceedRamLimit ≠ 0 then 1 else 0 }
        if !strncpySucceeds (env.codec.dump (cacheInfoData cacheInfo)).length then
          return (.invalidParameter, fs)
        else return compiledCache.writeCacheInfo env.codec env.ioUpdate fs cacheInfo cachePath
      else return (.success, fs)

/-- `RestoreFromCacheFile` after `Restore` has returned `caches`. -/
def restoreFromCaches (env : CacheEnv) (c : NNCompiler TensorDesc) (fs : FileSystem)
    (compiledCache : NNCompiledCache) (caches : List Buffer) (mappings : Mappings) :
    Except Fault RestoreOutcome :=
  let released := (NNCompiledCache.releaseCacheBuffer caches mappings).2
  let cacheNum := caches.length
  if cacheNum < cacheInputTensorDescOffset then .error .outOfBounds
  else
    let bufferAt (offset : Nat) : Bytes := ((caches[cacheNum - offset]?).map Buffer.data).getD []
    match deserializedTensorsFromMapped (bufferAt cacheInputTensorDescOffset) with
    | .error (.fault f) => .error f
    | .error (.ret ret) => .ok ⟨ret, c, fs, released, none⟩
    | .ok inputTensorDescs =>
      match deserializedTensorsFromMapped (bufferAt cacheOutputTensorDescOffset) with
      | .error (.fault f) => .error f
      | .error (.ret ret) => .ok ⟨ret, c, fs, released, none⟩
      | .ok outputTensorDescs =>
        let config : ModelConfig := ⟨c.enableFp16, c.performance, c.priority,
          c.extensionConfig.isNpuFmShared⟩
        let modelOnlyCaches := (caches.take (cacheNum - cacheInputTensorDescOffset)).map Buffer.data
        let call := some (modelOnlyCaches, config)
        let (ret, preparedModel, isUpdatable) := env.prepare
        -- The device writes to `m_preparedModel` itself, also when it fails.
        let c := { c with preparedModel := preparedModel }
        if ret ≠ .success then .ok ⟨ret, c, fs, released, call⟩
        else do
          let (ret, fs) ←
            if isUpdatable then updateOpVersion env compiledCache fs c.cachePath
            else pure (.success, fs)
          -- An error of the update returns without releasing the buffers.
          if ret ≠ .success then return ⟨ret, c, fs, mappings, call⟩
          else return ⟨.success,
            { c with inputTensorDescs := inputTensorDescs, outputTensorDescs := outputTensorDescs },
            fs, released, call⟩

/-- `RestoreFromCacheFile`. -/
def restoreFromCacheFile (env : CacheEnv) (c : NNCompiler TensorDesc) (fs : FileSystem)
    (mappings : Mappings) : Except Fault RestoreOutcome :=
  if c.cachePath = "" then .ok ⟨.invalidParameter, c, fs, mappings, none⟩
  else if c.cacheVersion = invalidCacheVersion then
    .ok ⟨.invalidParameter, c, fs, mappings, none⟩
  else if c.preparedModel.isSome then .ok ⟨.failed, c, fs, mappings, none⟩
  else
    match ({} : NNCompiledCache).setBackend env.backend c.backendID with
    | (.success, compiledCache) => do
      let compiledCache := { compiledCache with modelName := c.extensionConfig.modelName }
      let (ret, caches, mappings) ←
        compiledCache.restore env.codec env.io fs c.cachePath c.cacheVersion [] mappings
      if ret ≠ .success then
        return ⟨ret, c, fs, (NNCompiledCache.releaseCacheBuffer caches mappings).2, none⟩
      else restoreFromCaches env c fs compiledCache caches mappings
    | (ret, _) => .ok ⟨ret, c, fs, mappings, none⟩

end NNCompiler

end NNRt
