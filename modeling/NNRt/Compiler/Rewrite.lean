import NNRt.Cache.HasCache
import NNRt.Cache.Accepted
import NNRt.Compiler.NNCompiler

/-!
# What restoring a compiled model does to its directory

`RestoreFromCacheFile` reads the files of a model and writes one of them at
most: the record, when the device asks for an update and has a newer op version.

- `updateOpVersion_effect`: the update leaves the directory alone or writes
  `rewrittenInfo` of the record that is there.
- `restoreFromCacheFile_effect`: **the same for the whole call**, with what the
  restore in front of it has found.
-/

namespace NNRt

/-- The record an op-version update writes in the place of `info`. -/
def rewrittenInfo (info : NNCompiledCacheInfo) (currentOpVersion : Int32) : NNCompiledCacheInfo :=
  { info with
    version := info.version - 1
    opVersion := currentOpVersion.toInt64
    isExceedRamLimit := if info.isExceedRamLimit ≠ 0 then 1 else 0 }

/-- The store a compiler reads through. -/
def NNCompiler.readerStore {δ : Type} (c : NNCompiler δ) (reply : OpVersionReply) :
    NNCompiledCache where
  backendID := c.backendID
  modelName := c.extensionConfig.modelName
  device := some reply

@[simp] theorem NNCompiler.readerStore_backendID {δ : Type} (c : NNCompiler δ)
    (reply : OpVersionReply) : (c.readerStore reply).backendID = c.backendID := rfl

@[simp] theorem NNCompiler.readerStore_modelName {δ : Type} (c : NNCompiler δ)
    (reply : OpVersionReply) :
    (c.readerStore reply).modelName = c.extensionConfig.modelName := rfl

/-- What can be read of a record after its stream is closed. -/
theorem parse_left {codec : JsonCodec} (hc : codec.Faithful) (hs : codec.Strict)
    (outcome : WriteOutcome) (info : NNCompiledCacheInfo) :
    codec.parse (outcome.left (cacheInfoText codec info)) = none ∨
      codec.parse (outcome.left (cacheInfoText codec info)) = some (cacheInfoJson codec info) := by
  cases outcome with
  | complete => exact Or.inr (hc.parse_dump info)
  | failed written | lost written =>
    rw [WriteOutcome.left, parse_take_cacheInfoText hc hs]
    split
    · exact Or.inl rfl
    · exact Or.inr rfl

/-- **The mark**: what an op-version update has written is not restored as the
version it was. -/
theorem restore_rewritten {codec : JsonCodec} (hc : codec.Faithful) (hs : codec.Strict)
    {reader : NNCompiledCache} {fs : FileSystem} {cacheDir path : String} {io : IoFaults}
    {info : NNCompiledCacheInfo} {v : UInt32} (hpath : fs.realpath cacheDir = some path)
    (hversion : info.version = v.toUInt64.toInt64) (outcome : WriteOutcome) (op : Int32)
    {mappings mappings' : Mappings} {caches : List Buffer} :
    reader.restore codec io
        (fs.write path (infoFileName reader.modelName)
          (outcome.left (cacheInfoText codec (rewrittenInfo info op)))) cacheDir v [] mappings
      ≠ .ok (.success, caches, mappings') := by
  intro hrestore
  obtain ⟨content, info', hfind, hread, hv, -⟩ := restore_success hrestore
  rw [FileSystem.find?_write hpath] at hfind
  cases hfind
  obtain ⟨-, j, data, haccepted⟩ := checkCacheInfo_success hread
  have hparse := haccepted.parse
  rcases parse_left hc hs outcome (rewrittenInfo info op) with hcut | hwhole
  · rw [hcut] at hparse
    cases hparse
  · rw [hwhole] at hparse
    cases hparse
    have hdata := haccepted.dataMember
    rw [find?_cacheInfoJson_data] at hdata
    cases hdata
    obtain ⟨member, hmember, hget⟩ := haccepted.version
    rw [find?_cacheInfoData_version] at hmember
    cases hmember
    rw [Json.getInt64_toInt] at hget
    have hminus : info.version - 1 = info.version := by
      rw [show info.version - 1 = (rewrittenInfo info op).version from rfl, Except.ok.inj hget, hv,
        hversion]
    have hbits : info.version.toBitVec - 1 = info.version.toBitVec := congrArg Int64.toBitVec hminus
    bv_omega

/-- The descriptions in the last two of the restored buffers. -/
def restoredDescs (caches : List Buffer) :
    Except Stop (List (TensorDesc × UInt32) × List (TensorDesc × UInt32)) := do
  let bufferAt (offset : Nat) : Bytes :=
    ((caches[caches.length - offset]?).map Buffer.data).getD []
  let inputs ← deserializedTensorsFromMapped (bufferAt cacheInputTensorDescOffset)
  let outputs ← deserializedTensorsFromMapped (bufferAt cacheOutputTensorDescOffset)
  return (inputs, outputs)

/-- Both buffers hold descriptions that can be read. -/
theorem restoredDescs_eq_ok_iff {caches : List Buffer}
    {inputs outputs : List (TensorDesc × UInt32)} :
    restoredDescs caches = .ok (inputs, outputs) ↔
      deserializedTensorsFromMapped
          (((caches[caches.length - cacheInputTensorDescOffset]?).map Buffer.data).getD [])
        = .ok inputs ∧
      deserializedTensorsFromMapped
          (((caches[caches.length - cacheOutputTensorDescOffset]?).map Buffer.data).getD [])
        = .ok outputs := by
  unfold restoredDescs
  dsimp only
  constructor
  · intro h
    obtain ⟨inputs', hinputs, h⟩ := bind_eq_ok h
    obtain ⟨outputs', houtputs, h⟩ := bind_eq_ok h
    cases h
    exact ⟨hinputs, houtputs⟩
  · rintro ⟨hinputs, houtputs⟩
    rw [hinputs, ok_bind, houtputs]
    rfl

namespace NNCompiler

variable {env : CacheEnv} {store : NNCompiledCache} {fs : FileSystem} {cachePath : String}
  {c : NNCompiler TensorDesc} {mappings : Mappings}

/-- What an op-version update does to the directory. -/
inductive UpdateEffect (env : CacheEnv) (store : NNCompiledCache) (fs : FileSystem)
    (cachePath : String) : ReturnCode × FileSystem → Prop
  | unchanged (ret : ReturnCode) : UpdateEffect env store fs cachePath (ret, fs)
  | rewritten (content : Bytes) (info : NNCompiledCacheInfo) (path : String)
      (hfind : fs.find? cachePath (infoFileName store.modelName) = some content)
      (hread : checkCacheInfo env.codec store.backendID (some content) = .ok (.success, info))
      (hcode : env.readOpVersion.code = .success)
      (hnewer : env.readOpVersion.currentOpVersion.toInt64 > info.opVersion)
      (hpath : fs.realpath cachePath = some path) :
      UpdateEffect env store fs cachePath (.success,
        fs.write path (infoFileName store.modelName)
          ((env.ioUpdate.writes (infoFileName store.modelName)).left
            (cacheInfoText env.codec (rewrittenInfo info env.readOpVersion.currentOpVersion))))

theorem verifyCachePath_error {path : String} (h : verifyCachePath path ≠ .success) :
    verifyCachePath path = .invalidFile := by
  unfold verifyCachePath at h ⊢
  split
  · rfl
  split
  · rfl
  · rename_i habsolute hslash
    rw [if_neg habsolute, if_neg hslash] at h
    exact absurd rfl h

/-- `WriteCacheInfo` in a directory that is there writes the record, or it
returns `OH_NN_INVALID_FILE` and writes nothing. -/
theorem writeCacheInfo_effect {codec : JsonCodec} {io : IoFaults} {info : NNCompiledCacheInfo}
    {path : String} (hpath : fs.realpath cachePath = some path) :
    store.writeCacheInfo codec io fs info cachePath = (.invalidFile, fs) ∨
      store.writeCacheInfo codec io fs info cachePath
        = (.success, fs.write path (infoFileName store.modelName)
            ((io.writes (infoFileName store.modelName)).left (cacheInfoText codec info))) := by
  unfold NNCompiledCache.writeCacheInfo
  rw [hpath]
  dsimp only
  by_cases hverify : verifyCachePath path = .success
  · rw [if_neg (not_not_intro hverify)]
    cases hopen : io.opens (infoFileName store.modelName) with
    | false => exact Or.inl rfl
    | true =>
      right
      cases io.writes (infoFileName store.modelName) <;> rfl
  · rw [if_pos hverify, verifyCachePath_error hverify]
    exact Or.inl rfl

/-- The update where the device does not tell its op version. -/
theorem updateOpVersion_untold (hcode : env.readOpVersion.code ≠ .success) :
    updateOpVersion env store fs cachePath = .ok (env.readOpVersion.code, fs) :=
  if_pos hcode

/-- The update where the record is not accepted. -/
theorem updateOpVersion_refused {ret : ReturnCode} {info : NNCompiledCacheInfo}
    (hcode : env.readOpVersion.code = .success)
    (hread : checkCacheInfo env.codec store.backendID
      (if env.ioUpdate.reads (infoFileName store.modelName) = .openFails then none
        else fs.find? cachePath (infoFileName store.modelName)) = .ok (ret, info))
    (hret : ret ≠ .success) : updateOpVersion env store fs cachePath = .ok (ret, fs) := by
  unfold updateOpVersion
  dsimp only
  rw [if_neg (not_not_intro hcode), hread, ok_bind]
  dsimp only
  rw [if_pos hret]
  rfl

/-- The update once the record has been read. -/
theorem updateOpVersion_read {info : NNCompiledCacheInfo} (hcode : env.readOpVersion.code = .success)
    (hread : checkCacheInfo env.codec store.backendID
      (if env.ioUpdate.reads (infoFileName store.modelName) = .openFails then none
        else fs.find? cachePath (infoFileName store.modelName)) = .ok (.success, info)) :
    updateOpVersion env store fs cachePath
      = .ok (if env.readOpVersion.currentOpVersion.toInt64 > info.opVersion then
          if strncpySucceeds (env.codec.dump (cacheInfoData
              (rewrittenInfo info env.readOpVersion.currentOpVersion))).length then
            store.writeCacheInfo env.codec env.ioUpdate fs
              (rewrittenInfo info env.readOpVersion.currentOpVersion) cachePath
          else (.invalidParameter, fs)
        else (.success, fs)) := by
  unfold updateOpVersion
  dsimp only
  rw [if_neg (not_not_intro hcode), hread, ok_bind]
  dsimp only
  rw [if_neg (not_not_intro rfl)]
  by_cases hnewer : env.readOpVersion.currentOpVersion.toInt64 > info.opVersion
  · rw [if_pos hnewer, if_pos hnewer]
    show (if (!strncpySucceeds (env.codec.dump (cacheInfoData
      (rewrittenInfo info env.readOpVersion.currentOpVersion))).length) = true then _ else _) = _
    cases strncpySucceeds (env.codec.dump (cacheInfoData
      (rewrittenInfo info env.readOpVersion.currentOpVersion))).length <;> rfl
  · rw [if_neg hnewer, if_neg hnewer]
    rfl

theorem updateOpVersion_effect {result : ReturnCode × FileSystem}
    (h : updateOpVersion env store fs cachePath = .ok result) :
    UpdateEffect env store fs cachePath result := by
  by_cases hcode : env.readOpVersion.code = .success
  · cases hread : checkCacheInfo env.codec store.backendID
      (if env.ioUpdate.reads (infoFileName store.modelName) = .openFails then none
        else fs.find? cachePath (infoFileName store.modelName)) with
    | error fault =>
      unfold updateOpVersion at h
      dsimp only at h
      rw [if_neg (not_not_intro hcode), hread] at h
      cases h
    | ok read =>
      obtain ⟨ret, info⟩ := read
      by_cases hret : ret = .success
      · subst hret
        rw [updateOpVersion_read hcode hread] at h
        cases h
        by_cases hopen : env.ioUpdate.reads (infoFileName store.modelName) = .openFails
        · rw [if_pos hopen] at hread
          cases hread
        rw [if_neg hopen] at hread
        cases hfind : fs.find? cachePath (infoFileName store.modelName) with
        | none =>
          rw [hfind] at hread
          cases hread
        | some content =>
          rw [hfind] at hread
          split
          · -- The op version of the device is newer, and the record is written anew.
            rename_i hnewer
            split
            · obtain ⟨path, hpath⟩ := FileSystem.realpath_of_find? hfind
              rcases @writeCacheInfo_effect store fs cachePath env.codec env.ioUpdate
                (rewrittenInfo info env.readOpVersion.currentOpVersion) path hpath with
                hwrite | hwrite
              · rw [hwrite]
                exact .unchanged _
              · rw [hwrite]
                exact .rewritten content info path hfind hread hcode hnewer hpath
            · exact .unchanged _
          · exact .unchanged _
      · rw [updateOpVersion_refused hcode hread hret] at h
        cases h
        exact .unchanged _
  · rw [updateOpVersion_untold hcode] at h
    cases h
    exact .unchanged _

/-- `RestoreFromCacheFile` of a compiler that may read a cache, for a backend that
is registered. -/
theorem restoreFromCacheFile_eq {reply : OpVersionReply} (hdir : c.cachePath ≠ "")
    (hversion : c.cacheVersion ≠ invalidCacheVersion) (hprepared : c.preparedModel.isSome = false)
    (hbackend : env.backend = some (some reply)) :
    c.restoreFromCacheFile env fs mappings
      = (c.readerStore reply).restore env.codec env.io fs c.cachePath c.cacheVersion [] mappings >>=
          fun (ret, caches, mappings) =>
            if ret ≠ .success then
              .ok ⟨ret, c, fs, (NNCompiledCache.releaseCacheBuffer caches mappings).2, none⟩
            else restoreFromCaches env c fs (c.readerStore reply) caches mappings := by
  unfold restoreFromCacheFile
  rw [if_neg hdir, if_neg hversion, if_neg (by rw [hprepared]; decide), hbackend]
  rfl

/-! ## The code and the directory -/

/-- The code and the directory `RestoreFromCacheFile` ends with, after the store
has returned at least two buffers. -/
theorem restoreFromCaches_result {caches : List Buffer} (htwo : 2 ≤ caches.length) :
    (restoreFromCaches env c fs store caches mappings).map (fun out => (out.code, out.fs))
      = match restoredDescs caches with
        | .error (.fault fault) => .error fault
        | .error (.ret ret) => .ok (ret, fs)
        | .ok _ =>
          if env.prepare.1 ≠ .success then .ok (env.prepare.1, fs)
          else if env.prepare.2.2 then updateOpVersion env store fs c.cachePath
          else .ok (.success, fs) := by
  have hcount : ¬ caches.length < cacheInputTensorDescOffset := Nat.not_lt.mpr htwo
  unfold restoreFromCaches restoredDescs
  dsimp only
  rw [if_neg hcount]
  cases deserializedTensorsFromMapped
    (((caches[caches.length - cacheInputTensorDescOffset]?).map Buffer.data).getD []) with
  | error stop => cases stop <;> rfl
  | ok inputs =>
    cases deserializedTensorsFromMapped
      (((caches[caches.length - cacheOutputTensorDescOffset]?).map Buffer.data).getD []) with
    | error stop => cases stop <;> rfl
    | ok outputs =>
      simp only [ok_bind, pure_eq_ok]
      by_cases hprepare : env.prepare.1 = .success
      · rw [if_neg (not_not_intro hprepare), if_neg (not_not_intro hprepare)]
        cases env.prepare.2.2 with
        | false => rfl
        | true =>
          simp only [if_true]
          cases updateOpVersion env store fs c.cachePath with
          | error fault => rfl
          | ok result =>
            obtain ⟨ret, fs'⟩ := result
            by_cases hret : ret = .success
            · subst hret
              rfl
            · rw [ok_bind]
              dsimp only
              rw [if_pos hret]
              rfl
      · rw [if_pos hprepare, if_pos hprepare]
        rfl

/-- A statement about a code and a directory, from a result to the outcome it is
a part of. -/
theorem exists_result {r : Except Fault RestoreOutcome} {result : Except Fault (ReturnCode × FileSystem)}
    (h : r.map (fun out => (out.code, out.fs)) = result) (P : ReturnCode → FileSystem → Prop) :
    (∃ out, r = .ok out ∧ P out.code out.fs) ↔ ∃ ret fs', result = .ok (ret, fs') ∧ P ret fs' := by
  subst h
  cases r with
  | error fault =>
    constructor
    · rintro ⟨out, hout, -⟩
      cases hout
    · rintro ⟨ret, fs', hresult, -⟩
      cases hresult
  | ok out =>
    constructor
    · rintro ⟨_, hout, hp⟩
      cases hout
      exact ⟨_, _, rfl, hp⟩
    · rintro ⟨ret, fs', hresult, hp⟩
      cases hresult
      exact ⟨out, rfl, hp⟩

/-! ## The whole call -/

/-- The fields of a compiler that a restore may set. -/
def RestoredFrom (c c' : NNCompiler TensorDesc) : Prop :=
  ∃ preparedModel inputs outputs,
    c' = { c with
      preparedModel := preparedModel, inputTensorDescs := inputs, outputTensorDescs := outputs }

theorem RestoredFrom.refl (c : NNCompiler TensorDesc) : RestoredFrom c c :=
  ⟨c.preparedModel, c.inputTensorDescs, c.outputTensorDescs, rfl⟩

/-- What `RestoreFromCacheFile` does after the store has returned `caches`. -/
theorem restoreFromCaches_effect {caches : List Buffer} {out : RestoreOutcome}
    (h : restoreFromCaches env c fs store caches mappings = .ok out) :
    RestoredFrom c out.compiler ∧
      (out.fs = fs ∨ 2 ≤ caches.length ∧ (∃ descs, restoredDescs caches = .ok descs) ∧
        env.prepare.1 = .success ∧ env.prepare.2.2 = true ∧
        ∃ ret, UpdateEffect env store fs c.cachePath (ret, out.fs)) := by
  unfold restoreFromCaches at h
  dsimp only at h
  split at h
  · cases h
  rename_i hcount
  split at h
  · cases h
  · cases h
    exact ⟨.refl c, Or.inl rfl⟩
  rename_i inputs hinputs
  split at h
  · cases h
  · cases h
    exact ⟨.refl c, Or.inl rfl⟩
  rename_i outputs houtputs
  have hdescs : restoredDescs caches = .ok (inputs, outputs) :=
    restoredDescs_eq_ok_iff.mpr ⟨hinputs, houtputs⟩
  have hprepared : RestoredFrom c { c with preparedModel := env.prepare.2.1 } :=
    ⟨env.prepare.2.1, c.inputTensorDescs, c.outputTensorDescs, rfl⟩
  have hrestored : RestoredFrom c { c with
      preparedModel := env.prepare.2.1, inputTensorDescs := inputs,
      outputTensorDescs := outputs } :=
    ⟨env.prepare.2.1, inputs, outputs, rfl⟩
  split at h
  · cases h
    exact ⟨hprepared, Or.inl rfl⟩
  rename_i hprepare
  split at h
  · rename_i hupdatable
    obtain ⟨⟨ret, fs'⟩, hupdate, h⟩ := bind_eq_ok h
    have heffect := updateOpVersion_effect hupdate
    have hprepare' : env.prepare.1 = .success := not_ne_iff.mp hprepare
    dsimp only at h
    split at h
    · -- After an update that fails the descriptions are not set.
      cases h
      exact ⟨hprepared, Or.inr ⟨Nat.not_lt.mp hcount, ⟨_, hdescs⟩, hprepare', hupdatable, ret, heffect⟩⟩
    · cases h
      exact ⟨hrestored, Or.inr ⟨Nat.not_lt.mp hcount, ⟨_, hdescs⟩, hprepare', hupdatable, ret, heffect⟩⟩
  · cases h
    exact ⟨hrestored, Or.inl rfl⟩

/-- `RestoreFromCacheFile` comes to rewriting the record `info`: the store has the
version, the descriptions can be read, the device takes the model, asks for an
update and has a newer op version. -/
structure Rewrites (env : CacheEnv) (c : NNCompiler TensorDesc) (fs : FileSystem)
    (info : NNCompiledCacheInfo) : Prop where
  restored : ∃ reply mappings caches mappings' descs, env.backend = some (some reply) ∧
    (c.readerStore reply).restore env.codec env.io fs c.cachePath c.cacheVersion [] mappings
      = .ok (.success, caches, mappings') ∧
    2 ≤ caches.length ∧ restoredDescs caches = .ok descs
  prepare : env.prepare.1 = .success
  updatable : env.prepare.2.2 = true
  code : env.readOpVersion.code = .success
  read : ∃ content, fs.find? c.cachePath (infoFileName c.extensionConfig.modelName) = some content ∧
    checkCacheInfo env.codec c.backendID (some content) = .ok (.success, info)
  newer : env.readOpVersion.currentOpVersion.toInt64 > info.opVersion

/-- The record that is rewritten is of the version the compiler asks for. -/
theorem Rewrites.version {info : NNCompiledCacheInfo} (h : Rewrites env c fs info) :
    info.version = c.cacheVersion.toUInt64.toInt64 := by
  obtain ⟨reply, mappings, caches, mappings', -, -, hrestore, -⟩ := h.restored
  obtain ⟨content, hfind, hread⟩ := h.read
  obtain ⟨content', info', hfind', hread', hversion, -⟩ := restore_success hrestore
  rw [readerStore_modelName, hfind] at hfind'
  cases hfind'
  rw [readerStore_backendID, hread] at hread'
  cases hread'
  exact hversion

/-- What `RestoreFromCacheFile` does to the directory. -/
inductive RestoreEffect (env : CacheEnv) (c : NNCompiler TensorDesc) (fs : FileSystem) :
    FileSystem → Prop
  | unchanged : RestoreEffect env c fs fs
  | rewritten (info : NNCompiledCacheInfo) (path : String) (hrewrites : Rewrites env c fs info)
      (hpath : fs.realpath c.cachePath = some path) :
      RestoreEffect env c fs
        (fs.write path (infoFileName c.extensionConfig.modelName)
          ((env.ioUpdate.writes (infoFileName c.extensionConfig.modelName)).left
            (cacheInfoText env.codec (rewrittenInfo info env.readOpVersion.currentOpVersion))))

/-- **What `RestoreFromCacheFile` does**: it sets the prepared model and the
descriptions of the compiler, and it leaves the directory alone or rewrites the
record it has read. -/
theorem restoreFromCacheFile_effect {out : RestoreOutcome}
    (h : c.restoreFromCacheFile env fs mappings = .ok out) :
    RestoredFrom c out.compiler ∧ RestoreEffect env c fs out.fs := by
  unfold restoreFromCacheFile at h
  split at h
  · cases h
    exact ⟨.refl c, .unchanged⟩
  split at h
  · cases h
    exact ⟨.refl c, .unchanged⟩
  split at h
  · cases h
    exact ⟨.refl c, .unchanged⟩
  cases hbackend : env.backend with
  | none =>
    rw [hbackend] at h
    cases h
    exact ⟨.refl c, .unchanged⟩
  | some device =>
    cases device with
    | none =>
      rw [hbackend] at h
      cases h
      exact ⟨.refl c, .unchanged⟩
    | some reply =>
      rw [hbackend] at h
      dsimp only [NNCompiledCache.setBackend] at h
      obtain ⟨⟨ret, caches, mappings'⟩, hrestore, h⟩ := bind_eq_ok h
      dsimp only at h
      split at h
      · cases h
        exact ⟨.refl c, .unchanged⟩
      rename_i hret
      obtain rfl : ret = .success := not_ne_iff.mp hret
      obtain ⟨hcompiler, hfs | ⟨htwo, ⟨descs, hdescs⟩, hprepare, hupdatable, ret, hupdate⟩⟩ :=
        restoreFromCaches_effect h
      · rw [hfs]
        exact ⟨hcompiler, .unchanged⟩
      · refine ⟨hcompiler, ?_⟩
        generalize out.fs = fs' at hupdate
        cases hupdate with
        | unchanged => exact .unchanged
        | rewritten content info path hfind hread hcode hnewer hpath =>
          exact .rewritten info path ⟨⟨reply, mappings, caches, mappings', descs, hbackend, hrestore,
            htwo, hdescs⟩, hprepare, hupdatable, hcode, ⟨content, hfind, hread⟩, hnewer⟩ hpath

theorem restoreFromCacheFile_realpath {out : RestoreOutcome}
    (h : c.restoreFromCacheFile env fs mappings = .ok out) : out.fs.realpath = fs.realpath := by
  have heffect := (restoreFromCacheFile_effect h).2
  generalize out.fs = fs' at heffect
  cases heffect <;> rfl

end NNCompiler

end NNRt
