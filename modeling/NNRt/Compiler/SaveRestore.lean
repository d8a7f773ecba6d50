import NNRt.Compiler.NNCompiler
import NNRt.Cache.RoundTrip

/-!
# Saving a compiled model and restoring it

`SaveToCacheFile` followed by `RestoreFromCacheFile` of a fresh compiler, when
no I/O error happens and the device answers with success.

- `ReadyToSave.saveToCacheFile_iff`: the writer succeeds exactly when the version
  is valid, the exported buffers leave room for the two description buffers
  within the store's limit, and every description is writable.
- `restoreFromCacheFile_saved`: the reader then succeeds, provided neither list
  of descriptions is empty (an empty buffer cannot be mapped).
- `save_restore_iff`: **the whole round trip holds exactly under these
  conditions.**
- `save_fails_ninetyNine_scalar`: ninety-nine exported buffers pass the
  compiler's own check and are refused by the store; a scalar cannot be written.
-/

namespace NNRt

namespace NNCompiler

/-- The store a compiler saves through. -/
def cacheStore (c : NNCompiler TensorDesc) (op : Int32) : NNCompiledCache where
  backendID := c.backendID
  modelName := c.extensionConfig.modelName
  device := some ⟨.success, op⟩
  isExceedRamLimit := c.extensionConfig.isExceedRamLimit

/-- The buffers a compiler saves: the exported ones, then the descriptions. -/
def savedBuffers (c : NNCompiler TensorDesc) (caches : List Bytes) : List Bytes :=
  caches ++ [c.inputTensorDescs.flatMap encodeDesc] ++ [c.outputTensorDescs.flatMap encodeDesc]

/-- A compiler that is about to save: a prepared model that exports `caches` and
can be released, descriptions within the limit, a directory that exists, and a
device whose op version can be read. -/
structure ReadyToSave (env : CacheEnv) (c : NNCompiler TensorDesc) (fs : FileSystem)
    (caches : List Bytes) (dir : String) (op : Int32) : Prop where
  io : env.io = {}
  backend : env.backend = some (some ⟨.success, op⟩)
  prepared : ∃ preparedModel, c.preparedModel = some preparedModel ∧
    preparedModel.exportModelCache = (.success, caches) ∧
    preparedModel.releaseBuiltModel = .success
  nonempty : caches ≠ []
  count : caches.length ≤ nnCacheFileNumberMax
  inputs : c.inputTensorDescs.length ≤ inputOutputMaxNum
  outputs : c.outputTensorDescs.length ≤ inputOutputMaxNum
  realpath : fs.realpath c.cachePath = some dir
  verified : verifyCachePath dir = .success

/-- When everything the compiler exports can be written and restored. -/
structure Storable (c : NNCompiler TensorDesc) (caches : List Bytes) : Prop where
  version : c.cacheVersion ≠ invalidCacheVersion
  room : caches.length + 2 ≤ nnCacheFileNumberMax
  inputs : ∀ desc ∈ c.inputTensorDescs, Writable desc
  outputs : ∀ desc ∈ c.outputTensorDescs, Writable desc

section Save

variable {env : CacheEnv} {c : NNCompiler TensorDesc} {fs : FileSystem} {caches : List Bytes}
  {dir : String} {op : Int32}

theorem ReadyToSave.cachePath_ne (h : ReadyToSave env c fs caches dir op) : c.cachePath ≠ "" := by
  intro hempty
  have hrealpath := h.realpath
  rw [hempty, fs.realpath_empty] at hrealpath
  cases hrealpath

/-- The store accepts what a storable compiler saves. -/
theorem ReadyToSave.saveAccepts (hc : env.codec.Faithful) (h : ReadyToSave env c fs caches dir op)
    (hroom : caches.length + 2 ≤ nnCacheFileNumberMax) :
    SaveAccepts env.codec (c.cacheStore op) fs (c.savedBuffers caches) c.cachePath c.cacheVersion
      dir op where
  nonempty := by simp [savedBuffers]
  length_le := by simpa [savedBuffers] using hroom
  device := rfl
  realpath := h.realpath
  verified := h.verified
  strncpy := hc.dump_short _ (by simpa [savedInfo, savedBuffers] using hroom)

/-- `SaveToCacheFile` of a ready compiler is the store's `Save` of what it
serialises. -/
theorem ReadyToSave.saveToCacheFile_eq (h : ReadyToSave env c fs caches dir op)
    (hversion : c.cacheVersion ≠ invalidCacheVersion) :
    c.saveToCacheFile env fs
      = match serializeTensorsToBuffer c.inputTensorDescs with
        | .error ret => (ret, fs)
        | .ok inputTensorDescBuffer =>
          match serializeTensorsToBuffer c.outputTensorDescs with
          | .error ret => (ret, fs)
          | .ok outputTensorDescBuffer =>
            (c.cacheStore op).save env.codec {} fs
              (caches ++ [inputTensorDescBuffer] ++ [outputTensorDescBuffer])
              c.cachePath c.cacheVersion := by
  obtain ⟨preparedModel, hprepared, hexport, hrelease⟩ := h.prepared
  have hcount : ¬ (caches.length = 0 ∨ caches.length > nnCacheFileNumberMax) := by
    rintro (h0 | hgt)
    · exact h.nonempty (List.length_eq_zero_iff.mp h0)
    · exact absurd h.count (by omega)
  have hlimit : ¬ (c.inputTensorDescs.length > inputOutputMaxNum
      ∨ c.outputTensorDescs.length > inputOutputMaxNum) := by
    have hi := h.inputs
    have ho := h.outputs
    omega
  simp only [saveToCacheFile, h.cachePath_ne, if_false, hversion, hprepared, hexport, ne_eq,
    not_true_eq_false, hcount, h.backend, NNCompiledCache.setBackend, hlimit, h.io, hrelease]
  cases serializeTensorsToBuffer c.inputTensorDescs with
  | error ret => rfl
  | ok inputTensorDescBuffer =>
    cases serializeTensorsToBuffer c.outputTensorDescs with
    | error ret => rfl
    | ok outputTensorDescBuffer =>
      dsimp only
      split
      · rename_i hsaved
        exact hsaved.symm
      · rename_i hsaved
        exact hsaved.symm

/-- **The writer**: a ready compiler saves successfully exactly when what it
exports is storable, and then the store holds `savedBuffers`. -/
theorem ReadyToSave.saveToCacheFile_iff (hc : env.codec.Faithful)
    (h : ReadyToSave env c fs caches dir op) (fs' : FileSystem) :
    c.saveToCacheFile env fs = (.success, fs') ↔
      Storable c caches ∧
        fs' = fs.writeAll dir
          (savedFiles env.codec (c.cacheStore op) op (c.savedBuffers caches) c.cacheVersion) := by
  by_cases hversion : c.cacheVersion = invalidCacheVersion
  · have hrefused : c.saveToCacheFile env fs = (.invalidParameter, fs) := by
      simp only [saveToCacheFile, h.cachePath_ne, if_false, hversion, if_true]
    rw [hrefused]
    constructor
    · intro hsave
      cases hsave
    · rintro ⟨hstorable, -⟩
      exact absurd hversion hstorable.version
  rw [h.saveToCacheFile_eq hversion]
  constructor
  · intro hsave
    cases hinputs : serializeTensorsToBuffer c.inputTensorDescs with
    | error ret =>
      rw [hinputs, serializeTensorsToBuffer_eq_error hinputs] at hsave
      cases hsave
    | ok inputTensorDescBuffer =>
      cases houtputs : serializeTensorsToBuffer c.outputTensorDescs with
      | error ret =>
        rw [hinputs, houtputs, serializeTensorsToBuffer_eq_error houtputs] at hsave
        cases hsave
      | ok outputTensorDescBuffer =>
        obtain ⟨hwi, rfl⟩ := serializeTensorsToBuffer_eq_ok_iff.mp hinputs
        obtain ⟨hwo, rfl⟩ := serializeTensorsToBuffer_eq_ok_iff.mp houtputs
        rw [hinputs, houtputs] at hsave
        obtain ⟨dir', op', haccepts, rfl⟩ := save_eq_success_iff.mp hsave
        have hdir : dir' = dir := by
          have hrealpath := haccepts.realpath
          rw [h.realpath] at hrealpath
          exact (Option.some.inj hrealpath).symm
        have hop : op' = op := by
          have hdevice := haccepts.device
          simp only [cacheStore, Option.some.injEq, OpVersionReply.mk.injEq, true_and] at hdevice
          exact hdevice.symm
        subst hdir hop
        have hroom := haccepts.length_le
        simp only [List.length_append, List.length_cons, List.length_nil] at hroom
        exact ⟨⟨hversion, by omega, hwi, hwo⟩, rfl⟩
  · rintro ⟨hstorable, rfl⟩
    rw [serializeTensorsToBuffer_eq_ok_iff.mpr ⟨hstorable.inputs, rfl⟩,
      serializeTensorsToBuffer_eq_ok_iff.mpr ⟨hstorable.outputs, rfl⟩]
    exact (h.saveAccepts hc hstorable.room).save_eq

end Save

/-! ## Restore -/

/-- A fresh compiler that is about to restore what `c` has saved, on a device
that prepares the model and whose op version can be read. -/
structure ReadyToRestore (env : CacheEnv) (reader c : NNCompiler TensorDesc) : Prop where
  io : env.io = {}
  ioUpdate : env.ioUpdate = {}
  backend : ∃ reply, env.backend = some (some reply)
  fresh : reader.preparedModel = none
  backendID : reader.backendID = c.backendID
  cachePath : reader.cachePath = c.cachePath
  cacheVersion : reader.cacheVersion = c.cacheVersion
  modelName : reader.extensionConfig.modelName = c.extensionConfig.modelName
  prepare : env.prepare.1 = .success
  readOpVersion : env.readOpVersion.code = .success

/-- The configuration a compiler hands to the device when it restores. -/
def restoreConfig (c : NNCompiler TensorDesc) : ModelConfig :=
  ⟨c.enableFp16, c.performance, c.priority, c.extensionConfig.isNpuFmShared⟩

/-- A restore that hands exactly `caches` to the device and ends with the
descriptions of `c`. -/
def RestoresTo (result : Except Fault RestoreOutcome) (reader c : NNCompiler TensorDesc)
    (caches : List Bytes) : Prop :=
  ∃ outcome, result = .ok outcome ∧ outcome.code = .success ∧
    outcome.prepareCall = some (caches, reader.restoreConfig) ∧
    outcome.compiler.inputTensorDescs = c.inputTensorDescs ∧
    outcome.compiler.outputTensorDescs = c.outputTensorDescs

section Restore

variable {env renv : CacheEnv} {c reader : NNCompiler TensorDesc} {fs : FileSystem}
  {caches : List Bytes} {dir : String} {op : Int32}

/-- The op-version update of a saved record succeeds, whether it rewrites the
record or not. -/
theorem updateOpVersion_saved (hc : renv.codec.Faithful) (hcodec : env.codec = renv.codec)
    (hrestore : ReadyToRestore renv reader c) (h : ReadyToSave env c fs caches dir op)
    (hstorable : Storable c caches) {store : NNCompiledCache}
    (hid : store.backendID = c.backendID) (hname : store.modelName = c.extensionConfig.modelName) :
    ∃ fs', updateOpVersion renv store
      (fs.writeAll dir
        (savedFiles env.codec (c.cacheStore op) op (c.savedBuffers caches) c.cacheVersion))
      c.cachePath = .ok (.success, fs') := by
  have haccepts := h.saveAccepts (by rw [hcodec]; exact hc) hstorable.room
  have hinfo := haccepts.find?_info
  have hcheck := haccepts.checkCacheInfo_eq (by rw [hcodec]; exact hc)
  rw [hcodec] at haccepts hinfo hcheck ⊢
  have hname' : (c.cacheStore op).modelName = store.modelName := hname.symm
  have hid' : (c.cacheStore op).backendID = store.backendID := hid.symm
  rw [hname'] at hinfo
  rw [hid'] at hcheck
  simp only [updateOpVersion, hrestore.readOpVersion, ne_eq, not_true_eq_false, if_false,
    hrestore.ioUpdate, reduceCtorEq, hinfo, hcheck, ok_bind]
  by_cases hnewer : renv.readOpVersion.currentOpVersion.toInt64
      > (savedInfo (c.cacheStore op) op (c.savedBuffers caches) c.cacheVersion).opVersion
  · have hshort : strncpySucceeds (renv.codec.dump (cacheInfoData
        { savedInfo (c.cacheStore op) op (c.savedBuffers caches) c.cacheVersion with
          version := (savedInfo (c.cacheStore op) op (c.savedBuffers caches)
            c.cacheVersion).version - 1
          opVersion := renv.readOpVersion.currentOpVersion.toInt64
          isExceedRamLimit := if ¬ (savedInfo (c.cacheStore op) op (c.savedBuffers caches)
            c.cacheVersion).isExceedRamLimit = 0 then 1 else 0 })).length = true := by
      apply hc.dump_short
      simpa [savedInfo, savedBuffers] using hstorable.room
    have hdir : (fs.writeAll dir (savedFiles renv.codec (c.cacheStore op) op
        (c.savedBuffers caches) c.cacheVersion)).realpath c.cachePath = some dir := by
      rw [FileSystem.writeAll_realpath]
      exact h.realpath
    rw [if_pos hnewer, hshort, writeCacheInfo_noFaults _ _ _ hdir h.verified]
    exact ⟨_, rfl⟩
  · rw [if_neg hnewer]
    exact ⟨_, rfl⟩

/-- The last two buffers are the descriptions, the others the exported ones. -/
theorem split_savedBuffers {buffers : List Buffer} {inputs outputs : Bytes}
    (h : buffers.map Buffer.data = caches ++ [inputs] ++ [outputs]) :
    buffers.length = caches.length + 2 ∧
      (buffers[buffers.length - cacheInputTensorDescOffset]?).map Buffer.data = some inputs ∧
      (buffers[buffers.length - cacheOutputTensorDescOffset]?).map Buffer.data = some outputs ∧
      (buffers.take (buffers.length - cacheInputTensorDescOffset)).map Buffer.data = caches := by
  have hlen : buffers.length = caches.length + 2 := by
    have hlen := congrArg List.length h
    simpa using hlen
  have hget (i : Nat) : (buffers[i]?).map Buffer.data = (caches ++ [inputs] ++ [outputs])[i]? := by
    rw [← h, List.getElem?_map]
  refine ⟨hlen, ?_, ?_, ?_⟩
  · rw [hget, hlen, cacheInputTensorDescOffset, Nat.add_sub_cancel]
    simp
  · rw [hget, hlen, cacheOutputTensorDescOffset]
    simp
  · rw [List.map_take, h, hlen, cacheInputTensorDescOffset, Nat.add_sub_cancel]
    simp

/-- **The reader**: what a ready compiler has saved is restored, when neither
list of descriptions is empty. -/
theorem restoreFromCacheFile_saved (hc : renv.codec.Faithful) (hcodec : env.codec = renv.codec)
    (hrestore : ReadyToRestore renv reader c) (h : ReadyToSave env c fs caches dir op)
    (hstorable : Storable c caches) (hne : ∀ cache ∈ caches, cache ≠ [])
    (hinputs : c.inputTensorDescs ≠ []) (houtputs : c.outputTensorDescs ≠ [])
    (mappings : Mappings) :
    RestoresTo (reader.restoreFromCacheFile renv
      (fs.writeAll dir
        (savedFiles env.codec (c.cacheStore op) op (c.savedBuffers caches) c.cacheVersion))
      mappings) reader c caches := by
  have hcenv : env.codec.Faithful := by
    rw [hcodec]
    exact hc
  have haccepts := h.saveAccepts hcenv hstorable.room
  obtain ⟨reply, hreply⟩ := hrestore.backend
  -- The store of the reader, and what it returns.
  have hdevice : (NNCompiledCache.mk reader.backendID reader.extensionConfig.modelName (some reply)
      false).device.isSome := rfl
  obtain ⟨buffers, mappings', hbuffers, hdata⟩ := haccepts.restore_saved hcenv
    (by
      intro cache hcache
      simp only [savedBuffers, List.mem_append, List.mem_singleton] at hcache
      rcases hcache with (hcache | rfl) | rfl
      · exact hne cache hcache
      · exact mt flatMap_encodeDesc_eq_nil_iff.mp hinputs
      · exact mt flatMap_encodeDesc_eq_nil_iff.mp houtputs)
    hdevice hrestore.modelName hrestore.backendID mappings
  obtain ⟨hlen, hinput, houtput, htake⟩ := split_savedBuffers hdata
  have hdi := mapped_serialize
    (serializeTensorsToBuffer_eq_ok_iff.mpr ⟨hstorable.inputs, rfl⟩)
  have hdo := mapped_serialize
    (serializeTensorsToBuffer_eq_ok_iff.mpr ⟨hstorable.outputs, rfl⟩)
  have hid : (NNCompiledCache.mk reader.backendID reader.extensionConfig.modelName (some reply)
      false).backendID = c.backendID := hrestore.backendID
  obtain ⟨fs', hupdate⟩ :=
    updateOpVersion_saved hc hcodec hrestore h hstorable hid hrestore.modelName
  have hcount : ¬ buffers.length < cacheInputTensorDescOffset := by
    simp only [cacheInputTensorDescOffset]
    omega
  rw [hcodec] at hbuffers hupdate ⊢
  rcases hprepare : renv.prepare with ⟨code, preparedModel, isUpdatable⟩
  have hcode : code = .success := by
    have hp := hrestore.prepare
    rwa [hprepare] at hp
  subst hcode
  simp only [RestoresTo, restoreFromCacheFile, h.cachePath_ne, hstorable.version, hrestore.fresh,
    Option.isSome_none, Bool.false_eq_true, if_false, hreply, NNCompiledCache.setBackend,
    hrestore.io, hrestore.cachePath, hrestore.cacheVersion, hbuffers, ok_bind, ne_eq,
    not_true_eq_false, restoreFromCaches, hcount, hinput, houtput, Option.getD_some, hdi, hdo,
    hprepare, htake]
  cases isUpdatable with
  | false => exact ⟨_, rfl, rfl, rfl, rfl, rfl⟩
  | true =>
    simp only [if_true, hupdate, ok_bind, not_true_eq_false, if_false]
    exact ⟨_, rfl, rfl, rfl, rfl, rfl⟩

/-- A restore that succeeds finds no empty buffer among the saved ones. -/
theorem nonempty_of_restoreFromCacheFile (hc : renv.codec.Faithful)
    (hcodec : env.codec = renv.codec) (hrestore : ReadyToRestore renv reader c)
    (h : ReadyToSave env c fs caches dir op) (hstorable : Storable c caches)
    {mappings : Mappings} {outcome : RestoreOutcome}
    (houtcome : reader.restoreFromCacheFile renv
      (fs.writeAll dir
        (savedFiles env.codec (c.cacheStore op) op (c.savedBuffers caches) c.cacheVersion))
      mappings = .ok outcome) (hcode : outcome.code = .success) :
    ∀ cache ∈ c.savedBuffers caches, cache ≠ [] := by
  have hcenv : env.codec.Faithful := by
    rw [hcodec]
    exact hc
  have haccepts := h.saveAccepts hcenv hstorable.room
  obtain ⟨reply, hreply⟩ := hrestore.backend
  simp only [restoreFromCacheFile, h.cachePath_ne, hstorable.version, hrestore.fresh, Option.isSome_none,
    Bool.false_eq_true, if_false, hreply, NNCompiledCache.setBackend, hrestore.io,
    hrestore.cachePath, hrestore.cacheVersion] at houtcome
  rw [← hcodec] at houtcome
  rcases hres : NNCompiledCache.restore env.codec {}
      { backendID := reader.backendID, modelName := reader.extensionConfig.modelName,
        device := some reply }
      (fs.writeAll dir
        (savedFiles env.codec (c.cacheStore op) op (c.savedBuffers caches) c.cacheVersion))
      c.cachePath c.cacheVersion [] mappings with fault | ⟨ret, buffers, mappings'⟩
  · rw [hres] at houtcome
    cases houtcome
  · rw [hres, ok_bind] at houtcome
    by_cases hret : ret = .success
    · subst hret
      exact haccepts.nonempty_of_restore hcenv rfl hrestore.modelName hrestore.backendID hres
    · simp only [ne_eq, hret, not_false_eq_true, if_true] at houtcome
      cases houtcome
      exact absurd hcode hret

/-- **Save and restore of a compiled model.** Without I/O errors and with a
device that answers with success, `SaveToCacheFile` succeeds and
`RestoreFromCacheFile` of a fresh compiler hands exactly the exported buffers to
the device and ends with the same descriptions if and only if the version is
not `UINT32_MAX`, at most 98 buffers are exported, neither list of descriptions
is empty, and every description has a shape (and a name below the limit of
`strcpy_s`). -/
theorem save_restore_iff (hc : renv.codec.Faithful) (hcodec : env.codec = renv.codec)
    (hrestore : ReadyToRestore renv reader c) (h : ReadyToSave env c fs caches dir op)
    (hne : ∀ cache ∈ caches, cache ≠ []) (mappings : Mappings) :
    ((c.saveToCacheFile env fs).1 = .success ∧
        RestoresTo (reader.restoreFromCacheFile renv (c.saveToCacheFile env fs).2 mappings)
          reader c caches) ↔
      c.cacheVersion ≠ invalidCacheVersion ∧ caches.length ≤ 98 ∧
        c.inputTensorDescs ≠ [] ∧ c.outputTensorDescs ≠ [] ∧
        ∀ desc ∈ c.inputTensorDescs ++ c.outputTensorDescs, Writable desc := by
  have hcenv : env.codec.Faithful := by
    rw [hcodec]
    exact hc
  constructor
  · rintro ⟨hsave, outcome, houtcome, hcode, -⟩
    obtain ⟨hstorable, hfs⟩ := (h.saveToCacheFile_iff hcenv
      (c.saveToCacheFile env fs).2).mp (Prod.ext hsave rfl)
    rw [hfs] at houtcome
    have hnonempty := nonempty_of_restoreFromCacheFile hc hcodec hrestore h hstorable houtcome hcode
    have hroom := hstorable.room
    simp only [nnCacheFileNumberMax] at hroom
    refine ⟨hstorable.version, by omega, ?_, ?_, ?_⟩
    · exact mt flatMap_encodeDesc_eq_nil_iff.mpr (hnonempty _ (by simp [savedBuffers]))
    · exact mt flatMap_encodeDesc_eq_nil_iff.mpr (hnonempty _ (by simp [savedBuffers]))
    · intro desc hdesc
      rcases List.mem_append.mp hdesc with hdesc | hdesc
      · exact hstorable.inputs desc hdesc
      · exact hstorable.outputs desc hdesc
  · rintro ⟨hversion, hcount, hinputs, houtputs, hwritable⟩
    have hstorable : Storable c caches :=
      { version := hversion
        room := by
          simp only [nnCacheFileNumberMax]
          omega
        inputs := fun desc hdesc => hwritable desc (List.mem_append_left _ hdesc)
        outputs := fun desc hdesc => hwritable desc (List.mem_append_right _ hdesc) }
    rw [(h.saveToCacheFile_iff hcenv _).mpr ⟨hstorable, rfl⟩]
    exact ⟨rfl, restoreFromCacheFile_saved hc hcodec hrestore h hstorable hne hinputs houtputs
      mappings⟩

end Restore

/-! ## Concrete compilers -/

/-- The description `InnerModel` produces for a float tensor of these dimensions. -/
def floatDesc (dimensions : List Int32) : TensorDescPair :=
  (((({} : NNTensor Bytes).build (some .float32) dimensions [] .tensor).2).convertToTensorDesc {},
    TensorType.tensor.code)

/-- A compiler of model `m` with one input and one output, whose device exports `caches`. -/
def compilerOf (caches : List Bytes) (input output : List Int32) : NNCompiler TensorDesc where
  cachePath := "/data"
  cacheVersion := 1
  backendID := 1
  preparedModel := some { id := 0, exportModelCache := (.success, caches) }
  inputTensorDescs := [floatDesc input]
  outputTensorDescs := [floatDesc output]
  extensionConfig := { modelName := "m" }

/-- The world of these compilers: the compact text, no I/O errors, a device of op version 3. -/
def envOf (op : Int32) : CacheEnv where
  codec := .compact
  backend := some (some ⟨.success, op⟩)
  prepare := (.success, some { id := 1 }, true)
  readOpVersion := ⟨.success, op⟩

/-- Ninety-nine exported buffers pass the compiler's own check, and a scalar is
a tensor `InnerModel` accepts; neither model can be saved. -/
theorem save_fails_ninetyNine_scalar :
    ((compilerOf (List.replicate 99 [1]) [2] [2]).saveToCacheFile (envOf 3)
        (FileSystem.single "/data" (by decide))).1 = .failed ∧
      ((compilerOf [[1]] [] [2]).saveToCacheFile (envOf 3)
        (FileSystem.single "/data" (by decide))).1 = .memoryError := by
  decide

/-- One exported buffer, one input and one output of rank one, and a device
with a newer op version at the restore. -/
theorem save_restore_one :
    ((compilerOf [[1]] [2] [3]).saveToCacheFile (envOf 3)
        (FileSystem.single "/data" (by decide))).1 = .success ∧
      RestoresTo
        (({ compilerOf [[1]] [2] [3] with
            preparedModel := none
            inputTensorDescs := []
            outputTensorDescs := [] } : NNCompiler TensorDesc).restoreFromCacheFile (envOf 4)
          ((compilerOf [[1]] [2] [3]).saveToCacheFile (envOf 3)
            (FileSystem.single "/data" (by decide))).2 [])
        { compilerOf [[1]] [2] [3] with
          preparedModel := none
          inputTensorDescs := []
          outputTensorDescs := [] }
        (compilerOf [[1]] [2] [3]) [[1]] := by
  refine (@save_restore_iff (envOf 3) (envOf 4) _ _ _ _ "/data" 3
    compact_faithful rfl ?_ ?_ (by decide) []).mpr ?_
  · exact ⟨rfl, rfl, ⟨_, rfl⟩, rfl, rfl, rfl, rfl, rfl, rfl, rfl⟩
  · exact ⟨rfl, rfl, ⟨_, rfl, rfl, rfl⟩, by decide, by decide, by decide, by decide, rfl,
      by decide⟩
  · refine ⟨by decide, by decide, by simp [compilerOf], by simp [compilerOf], ?_⟩
    intro desc hdesc
    simp only [compilerOf, List.cons_append, List.nil_append, List.mem_cons, List.not_mem_nil,
      or_false] at hdesc
    rcases hdesc with rfl | rfl
    · exact ⟨by decide, by decide⟩
    · exact ⟨by decide, by decide⟩

end NNCompiler

end NNRt
