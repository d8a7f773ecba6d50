import NNRt.Compiler.OnlineBuild
import NNRt.Model.InnerModel
import NNRt.Compiler.NullSafety

/-!
# The op-version upgrade

A device with a newer op version than the record asks for an update: the restore
that notices succeeds, and leaves a record of a version one below, so that the
next one does not find the version it asks for and the model is built and saved
again.

- `restoreFromCacheFile_updated`: what such a restore leaves.
- `records_marked`, `restore_marked`: **the mark** is a well-formed record that no
  restore of the version accepts.
- `onlineBuild_marked`: a compiler with a model deletes it and builds.
- `rebuilt_settled_iff`: what the build has saved is settled unless one of its
  buffers is empty.
- `upgrade_iff`: **the whole protocol.**
-/

namespace NNRt

/-- Without an error code that is none, descriptions are read or they are not. -/
theorem restoredDescs_avoids (caches : List Buffer) :
    Avoids Stop.Spurious (restoredDescs caches) := by
  refine (deserializedTensorsFromMapped_avoids _).bind fun inputs => ?_
  exact (deserializedTensorsFromMapped_avoids _).bind fun outputs => avoids_ok _

namespace NNCompiler

section Success

variable {env : CacheEnv} {c : NNCompiler TensorDesc} {fs : FileSystem} {mappings : Mappings}
  {out : RestoreOutcome}

/-- What a restore that succeeds has been through. -/
theorem restoreFromCacheFile_success (h : c.restoreFromCacheFile env fs mappings = .ok out)
    (hcode : out.code = .success) :
    ∃ reply caches mappings', c.cachePath ≠ "" ∧ c.cacheVersion ≠ invalidCacheVersion ∧
      c.preparedModel.isSome = false ∧ env.backend = some (some reply) ∧
      (c.readerStore reply).restore env.codec env.io fs c.cachePath c.cacheVersion [] mappings
        = .ok (.success, caches, mappings') ∧
      restoreFromCaches env c fs (c.readerStore reply) caches mappings' = .ok out := by
  by_cases hdir : c.cachePath = ""
  · unfold restoreFromCacheFile at h
    rw [if_pos hdir] at h
    cases h
    cases hcode
  by_cases hversion : c.cacheVersion = invalidCacheVersion
  · unfold restoreFromCacheFile at h
    rw [if_neg hdir, if_pos hversion] at h
    cases h
    cases hcode
  cases hprepared : c.preparedModel.isSome with
  | true =>
    unfold restoreFromCacheFile at h
    rw [if_neg hdir, if_neg hversion, if_pos hprepared] at h
    cases h
    cases hcode
  | false =>
    have hnone {code : ReturnCode} (hcode' : code ≠ .success)
        (hbackend : c.restoreFromCacheFile env fs mappings = .ok ⟨code, c, fs, mappings, none⟩) :
        False := by
      rw [hbackend] at h
      cases h
      exact hcode' hcode
    cases hbackend : env.backend with
    | none =>
      refine (@hnone .invalidParameter nofun ?_).elim
      unfold restoreFromCacheFile
      rw [if_neg hdir, if_neg hversion, if_neg (by rw [hprepared]; decide), hbackend]
      rfl
    | some device =>
      cases device with
      | none =>
        refine (@hnone .failed nofun ?_).elim
        unfold restoreFromCacheFile
        rw [if_neg hdir, if_neg hversion, if_neg (by rw [hprepared]; decide), hbackend]
        rfl
      | some reply =>
        rw [restoreFromCacheFile_eq hdir hversion hprepared hbackend] at h
        obtain ⟨⟨ret, caches, mappings'⟩, hrestore, h⟩ := bind_eq_ok h
        dsimp only at h
        split at h
        · rename_i hret
          cases h
          exact absurd hcode hret
        rename_i hret
        obtain rfl : ret = .success := not_ne_iff.mp hret
        exact ⟨reply, caches, mappings', hdir, hversion, rfl, rfl, hrestore, h⟩

/-- Its caches hold two lists of descriptions that can be read. -/
theorem restoreFromCaches_success {store : NNCompiledCache} {caches : List Buffer}
    (h : restoreFromCaches env c fs store caches mappings = .ok out) (hcode : out.code = .success) :
    2 ≤ caches.length ∧ ∃ descs, restoredDescs caches = .ok descs := by
  have htwo : 2 ≤ caches.length := by
    by_contra hlt
    have hfault : restoreFromCaches env c fs store caches mappings = .error .outOfBounds :=
      if_pos (Nat.not_le.mp hlt)
    rw [hfault] at h
    cases h
  have hresult := @restoreFromCaches_result env store fs c mappings caches htwo
  rw [h] at hresult
  cases hdescs : restoredDescs caches with
  | ok descs => exact ⟨htwo, descs, rfl⟩
  | error stop =>
    rw [hdescs] at hresult
    cases stop with
    | fault fault => cases hresult
    | ret ret =>
      simp only [Except.map, hcode, Except.ok.injEq, Prod.mk.injEq] at hresult
      rw [← hresult.1] at hdescs
      exact absurd (Or.inr rfl) (restoredDescs_avoids caches _ hdescs)

/-- A restore that succeeds on a device that asks for an update has updated. -/
theorem restoreFromCacheFile_updated (h : c.restoreFromCacheFile env fs mappings = .ok out)
    (hcode : out.code = .success) (hupdatable : env.prepare.2.2 = true) :
    ∃ reply, env.readOpVersion.code = .success ∧
      updateOpVersion env (c.readerStore reply) fs c.cachePath = .ok (.success, out.fs) := by
  obtain ⟨reply, caches, mappings', -, -, -, -, -, hcaches⟩ := restoreFromCacheFile_success h hcode
  obtain ⟨htwo, descs, hdescs⟩ := restoreFromCaches_success hcaches hcode
  have hresult := @restoreFromCaches_result env (c.readerStore reply) fs c mappings' caches htwo
  rw [hcaches, hupdatable, hdescs] at hresult
  dsimp only at hresult
  split at hresult
  · rename_i hprepare
    simp only [Except.map, hcode, Except.ok.injEq, Prod.mk.injEq] at hresult
    exact absurd hresult.1.symm hprepare
  · rw [if_pos rfl] at hresult
    simp only [Except.map, hcode] at hresult
    refine ⟨reply, ?_, hresult.symm⟩
    by_contra hread
    rw [updateOpVersion_untold hread, Except.ok.injEq, Prod.mk.injEq] at hresult
    exact hread hresult.1.symm

end Success

end NNCompiler

/-! ## The mark -/

/-- The version one below is a smaller one, also below 0. -/
theorem widen_pred_lt (v : UInt32) :
    v.toUInt64.toInt64 > v.toUInt64.toInt64 - 1 := by
  have hv := v.toNat_lt
  have hone : (1 : Int64).toInt = 1 := rfl
  show v.toUInt64.toInt64 - 1 < v.toUInt64.toInt64
  rw [Int64.lt_iff_toInt_lt, Int64.toInt_sub, toInt_widen, hone, Int.bmod_eq_of_le] <;> omega

section Marked

variable {codec : JsonCodec} {store : NNCompiledCache} {fs : FileSystem} {caches : List Bytes}
  {cacheDir dir : String} {version : UInt32} {op : Int32}

/-- The directory after an op-version update of a saved cache. -/
def markedFs (codec : JsonCodec) (store : NNCompiledCache) (fs : FileSystem) (dir : String)
    (op currentOpVersion : Int32) (caches : List Bytes) (version : UInt32) : FileSystem :=
  (fs.writeAll dir (savedFiles codec store op caches version)).write dir
    (infoFileName store.modelName)
    (cacheInfoText codec (rewrittenInfo (savedInfo store op caches version) currentOpVersion))

/-- The mark is a record of the same model. -/
theorem records_marked (hc : codec.Faithful)
    (h : SaveAccepts codec store fs caches cacheDir version dir op) (currentOpVersion : Int32) :
    (markedFs codec store fs dir op currentOpVersion caches version).Records codec cacheDir
      store.modelName (rewrittenInfo (savedInfo store op caches version) currentOpVersion) where
  read := by
    refine ⟨_, FileSystem.find?_write ?_, hc.parse_dump _⟩
    rw [FileSystem.writeAll_realpath]
    exact h.realpath
  wellFormed := ⟨h.wellFormed.fileNumber, h.wellFormed.nonempty, h.wellFormed.length_le⟩

/-- **The mark** is not restored as the version it was. -/
theorem restore_marked (hc : codec.Faithful)
    (h : SaveAccepts codec store fs caches cacheDir version dir op) (currentOpVersion : Int32)
    {reader : NNCompiledCache} (hdevice : reader.device.isSome)
    (hname : reader.modelName = store.modelName) (hbackend : reader.backendID = store.backendID)
    (mappings : Mappings) :
    reader.restore codec {} (markedFs codec store fs dir op currentOpVersion caches version) cacheDir
      version [] mappings = .ok (.invalidFile, [], mappings) := by
  have hrecords := records_marked hc h currentOpVersion
  rw [← hname] at hrecords
  have hid : (rewrittenInfo (savedInfo store op caches version) currentOpVersion).deviceId.toUInt64
      = reader.backendID := by
    rw [hbackend]
    exact savedInfo_deviceId store op caches version
  rw [hrecords.restore_eq hc hdevice, if_neg (not_not_intro hid), if_pos]
  exact widen_pred_lt version

end Marked

/-! ## The protocol -/

/-- No I/O error happens during the call. -/
structure CacheEnv.Quiet (env : CacheEnv) (codec : JsonCodec) : Prop where
  codec : env.codec = codec
  io : env.io = {}
  ioUpdate : env.ioUpdate = {}

/-- The compiler reads and writes the cache of this store, as version `v`. -/
structure SameCache (c : NNCompiler TensorDesc) (store : NNCompiledCache) (cacheDir : String)
    (v : UInt32) : Prop where
  cachePath : c.cachePath = cacheDir
  cacheVersion : c.cacheVersion = v
  backendID : c.backendID = store.backendID
  modelName : c.extensionConfig.modelName = store.modelName

/-- The store reads the cache of another one. -/
structure SameStore (reader store : NNCompiledCache) : Prop where
  device : reader.device.isSome
  backendID : reader.backendID = store.backendID
  modelName : reader.modelName = store.modelName

theorem SameCache.readerStore {c : NNCompiler TensorDesc} {store : NNCompiledCache}
    {cacheDir : String} {v : UInt32} (h : SameCache c store cacheDir v) (reply : OpVersionReply) :
    SameStore (c.readerStore reply) store :=
  ⟨rfl, h.backendID, h.modelName⟩

/-- The record before and after an update: the same but for the version and the
op version. -/
def RecordUpdated (codec : JsonCodec) (store : NNCompiledCache) (before after : FileSystem)
    (cacheDir : String) (currentOpVersion : Int32) : Prop :=
  ∃ info info',
    checkCacheInfo codec store.backendID (before.find? cacheDir (infoFileName store.modelName))
      = .ok (.success, info) ∧
    checkCacheInfo codec store.backendID (after.find? cacheDir (infoFileName store.modelName))
      = .ok (.success, info') ∧
    info'.fileNumber = info.fileNumber ∧ info'.deviceId = info.deviceId ∧
    info'.modelCheckSum = info.modelCheckSum ∧ info'.isExceedRamLimit = info.isExceedRamLimit ∧
    info'.opVersion = currentOpVersion.toInt64

/-- Every restore of the version answers `OH_NN_INVALID_FILE`. -/
def VersionGone (codec : JsonCodec) (store : NNCompiledCache) (fs : FileSystem) (cacheDir : String)
    (v : UInt32) : Prop :=
  ∀ reader mappings, SameStore reader store →
    reader.restore codec {} fs cacheDir v [] mappings = .ok (.invalidFile, [], mappings)

/-- Every restore of the version succeeds, and none on a device of this op version
writes anything. -/
def VersionSettled (codec : JsonCodec) (store : NNCompiledCache) (fs : FileSystem)
    (cacheDir : String) (v : UInt32) (currentOpVersion : Int32) : Prop :=
  (∀ reader mappings, SameStore reader store →
    ∃ caches mappings',
      reader.restore codec {} fs cacheDir v [] mappings = .ok (.success, caches, mappings')) ∧
  ∀ (env : CacheEnv) (c : NNCompiler TensorDesc) (w : UInt32) (mappings : Mappings)
    (out : NNCompiler.RestoreOutcome), env.Quiet codec → SameCache c store cacheDir w →
    env.readOpVersion.currentOpVersion = currentOpVersion →
    c.restoreFromCacheFile env fs mappings = .ok out → out.fs = fs

namespace NNCompiler

section Protocol

variable {codec : JsonCodec} {store : NNCompiledCache} {fs : FileSystem} {caches : List Bytes}
  {cacheDir dir : String} {v : UInt32} {op : Int32} {env : CacheEnv} {benv : BuildEnv}
  {c builder : NNCompiler TensorDesc} {mappings : Mappings} {out : RestoreOutcome}

/-- What an update of a saved cache leaves. -/
theorem updated_eq (hc : codec.Faithful)
    (haccepts : SaveAccepts codec store fs caches cacheDir v dir op) (hquiet : env.Quiet codec)
    (hsame : SameCache c store cacheDir v) (hupdatable : env.prepare.2.2 = true)
    (hnewer : op < env.readOpVersion.currentOpVersion)
    (hrestored : c.restoreFromCacheFile env
      (fs.writeAll dir (savedFiles codec store op caches v)) mappings = .ok out)
    (hcode : out.code = .success) :
    out.fs = markedFs codec store fs dir op env.readOpVersion.currentOpVersion caches v := by
  obtain ⟨reply, hread, hupdate⟩ := restoreFromCacheFile_updated hrestored hcode hupdatable
  have hdir : (fs.writeAll dir (savedFiles codec store op caches v)).realpath cacheDir = some dir := by
    rw [FileSystem.writeAll_realpath]
    exact haccepts.realpath
  have hfound : checkCacheInfo env.codec (c.readerStore reply).backendID
      (if env.ioUpdate.reads (infoFileName (c.readerStore reply).modelName) = .openFails then none
        else (fs.writeAll dir (savedFiles codec store op caches v)).find? c.cachePath
          (infoFileName (c.readerStore reply).modelName))
      = .ok (.success, savedInfo store op caches v) := by
    rw [hquiet.ioUpdate, hquiet.codec, hsame.cachePath, if_neg nofun, readerStore_modelName,
      readerStore_backendID, hsame.modelName, hsame.backendID, haccepts.find?_info]
    exact haccepts.checkCacheInfo_eq hc
  have hop : env.readOpVersion.currentOpVersion.toInt64 > (savedInfo store op caches v).opVersion :=
    Int32.toInt64_lt.mpr hnewer
  have hshort : strncpySucceeds (codec.dump (cacheInfoData (rewrittenInfo
      (savedInfo store op caches v) env.readOpVersion.currentOpVersion))).length :=
    hc.dump_short _ haccepts.wellFormed.length_le
  rw [updateOpVersion_read hread hfound, hquiet.codec, hquiet.ioUpdate, hsame.cachePath, if_pos hop,
    if_pos hshort, writeCacheInfo_noFaults _ _ _ hdir haccepts.verified, readerStore_modelName,
    hsame.modelName, Except.ok.injEq, Prod.mk.injEq] at hupdate
  exact hupdate.2.symm

/-- The mark keeps everything but the version and the op version. -/
theorem recordUpdated_marked (hc : codec.Faithful)
    (haccepts : SaveAccepts codec store fs caches cacheDir v dir op) (currentOpVersion : Int32) :
    RecordUpdated codec store (fs.writeAll dir (savedFiles codec store op caches v))
      (markedFs codec store fs dir op currentOpVersion caches v) cacheDir currentOpVersion := by
  have hflag : (rewrittenInfo (savedInfo store op caches v) currentOpVersion).isExceedRamLimit
      = (savedInfo store op caches v).isExceedRamLimit := by
    unfold rewrittenInfo savedInfo
    cases store.isExceedRamLimit <;> rfl
  obtain ⟨⟨content, hfind, hparse⟩, hwf⟩ := records_marked hc haccepts currentOpVersion
  refine ⟨savedInfo store op caches v,
    rewrittenInfo (savedInfo store op caches v) currentOpVersion, ?_, ?_, rfl, rfl, rfl, hflag, rfl⟩
  · rw [haccepts.find?_info]
    exact haccepts.checkCacheInfo_eq hc
  · rw [hfind, hwf.checkCacheInfo_eq hc hparse]
    exact congrArg Except.ok (if_pos (savedInfo_deviceId store op caches v))

/-- A compiler that does not find its version deletes the record and goes on to
`NormalBuild`. -/
theorem onlineBuild_marked {fs : FileSystem} {reply : OpVersionReply}
    (hgone : VersionGone codec store fs cacheDir v) (hpath : fs.realpath cacheDir ≠ none)
    (hv : v ≠ invalidCacheVersion) (hquiet : benv.restore.Quiet codec)
    (hbackend : benv.restore.backend = some (some reply)) (hsame : SameCache builder store cacheDir v)
    (hbuild : builder.isBuild = false) (hprepared : builder.preparedModel = none)
    (model : Option CompilerModel) (mappings : Mappings) :
    onlineBuild benv model builder fs mappings
      = .ok (normalBuild benv model builder
          (fs.remove cacheDir (infoFileName store.modelName)) mappings) := by
  have hdir : builder.cachePath ≠ "" := by
    rw [hsame.cachePath]
    rintro rfl
    exact hpath fs.realpath_empty
  have hversion : builder.cacheVersion ≠ invalidCacheVersion := by
    rw [hsame.cacheVersion]
    exact hv
  have hrestore : builder.restoreFromCacheFile benv.restore fs mappings
      = .ok ⟨.invalidFile, builder, fs, mappings, none⟩ := by
    rw [restoreFromCacheFile_eq hdir hversion (by rw [hprepared]; rfl) hbackend, hquiet.codec,
      hquiet.io, hsame.cachePath, hsame.cacheVersion,
      hgone _ mappings (hsame.readerStore reply), ok_bind]
    simp [NNCompiledCache.releaseCacheBuffer]
  rw [onlineBuild_invalidFile hrestore rfl hbuild (by rw [hsame.cachePath]; exact hpath)]
  rw [hsame.cachePath, hsame.modelName]

/-- What the device exports when the build has prepared the model. -/
def exported (benv : BuildEnv) : List Bytes :=
  (benv.prepareModel.2.map fun preparedModel => preparedModel.exportModelCache.2).getD []

/-- What is saved of a build has no empty buffer, unless one of its parts is empty. -/
theorem savedBuffers_nonempty_iff (builder : NNCompiler TensorDesc) (caches : List Bytes) :
    (∀ cache ∈ builder.savedBuffers caches, cache ≠ []) ↔
      (∀ cache ∈ caches, cache ≠ []) ∧ builder.inputTensorDescs ≠ [] ∧
        builder.outputTensorDescs ≠ [] := by
  simp only [savedBuffers, List.mem_append, List.mem_singleton, or_assoc]
  constructor
  · intro h
    exact ⟨fun cache hcache => h cache (Or.inl hcache),
      mt flatMap_encodeDesc_eq_nil_iff.mpr (h _ (Or.inr (Or.inl rfl))),
      mt flatMap_encodeDesc_eq_nil_iff.mpr (h _ (Or.inr (Or.inr rfl)))⟩
  · rintro ⟨hall, hinputs, houtputs⟩ cache (hcache | rfl | rfl)
    · exact hall cache hcache
    · exact mt flatMap_encodeDesc_eq_nil_iff.mp hinputs
    · exact mt flatMap_encodeDesc_eq_nil_iff.mp houtputs

/-- A record that has been saved under this op version is not rewritten. -/
theorem restoreFromCacheFile_saved_fs {writer : NNCompiledCache} (hc : codec.Faithful)
    (haccepts : SaveAccepts codec writer fs caches cacheDir v dir op) {w : UInt32}
    (henv : env.Quiet codec) (hsame : SameCache c writer cacheDir w)
    (hread : env.readOpVersion.currentOpVersion = op)
    (hout : c.restoreFromCacheFile env (fs.writeAll dir (savedFiles codec writer op caches v))
      mappings = .ok out) :
    out.fs = fs.writeAll dir (savedFiles codec writer op caches v) := by
  have heffect := (restoreFromCacheFile_effect hout).2
  generalize out.fs = fs' at heffect
  cases heffect with
  | unchanged => rfl
  | rewritten info path hrewrites =>
    obtain ⟨content, hfind, hinfo⟩ := hrewrites.read
    have hnewer := hrewrites.newer
    have hfind' := haccepts.find?_info
    rw [← hsame.modelName, ← hsame.cachePath, hfind] at hfind'
    cases hfind'
    have hinfo' := haccepts.checkCacheInfo_eq hc
    rw [henv.codec, hsame.backendID, hinfo'] at hinfo
    cases hinfo
    -- The record would have to be older than its own op version.
    rw [hread] at hnewer
    exact absurd hnewer Int64.lt_irrefl

/-- **What has been saved** is settled, unless one of its buffers is empty. -/
theorem versionSettled_saved_iff {writer : NNCompiledCache} (hc : codec.Faithful)
    (haccepts : SaveAccepts codec writer fs caches cacheDir v dir op)
    (hbackend : writer.backendID = store.backendID) (hname : writer.modelName = store.modelName) :
    VersionSettled codec store (fs.writeAll dir (savedFiles codec writer op caches v)) cacheDir v
        op ↔ ∀ cache ∈ caches, cache ≠ [] := by
  constructor
  · rintro ⟨hrestores, -⟩
    obtain ⟨buffers, mappings', hrestore⟩ := hrestores writer []
      ⟨by rw [haccepts.device]; rfl, hbackend, hname⟩
    exact haccepts.nonempty_of_restore hc (by rw [haccepts.device]; rfl) rfl rfl hrestore
  · intro hne
    constructor
    · intro reader mappings hreader
      obtain ⟨buffers, mappings', hrestore, -⟩ := haccepts.restore_saved hc hne hreader.device
        (hreader.modelName.trans hname.symm) (hreader.backendID.trans hbackend.symm) mappings
      exact ⟨buffers, mappings', hrestore⟩
    · intro env c w mappings out henv hsame hread hout
      refine restoreFromCacheFile_saved_fs hc haccepts (w := w) henv ?_ hread hout
      exact ⟨hsame.cachePath, hsame.cacheVersion, hsame.backendID.trans hbackend.symm,
        hsame.modelName.trans hname.symm⟩

/-- **What a build has saved** is settled, unless one of its buffers is empty. -/
theorem rebuilt_settled_iff (hc : codec.Faithful) {model : Option CompilerModel}
    {currentOpVersion : Int32} (hquiet : benv.save.Quiet codec)
    (hbackend : benv.save.backend = some (some ⟨.success, currentOpVersion⟩))
    (hsame : SameCache builder store cacheDir v) (hdir : cacheDir ≠ "")
    (hbuilt : (normalBuild benv model builder fs mappings).code = .success) :
    VersionSettled codec store (normalBuild benv model builder fs mappings).fs cacheDir v
        currentOpVersion ↔
      (∀ cache ∈ exported benv, cache ≠ []) ∧ builder.inputTensorDescs ≠ [] ∧
        builder.outputTensorDescs ≠ [] := by
  rcases normalBuild_effect benv model builder fs mappings with ⟨-, hfailed⟩ |
    ⟨reply, preparedModel, caches, hbackend', hprepare, hexport, -, hfs, hsaved⟩
  · exact absurd hbuilt (hfailed (by rw [hsame.cachePath]; exact hdir))
  rw [hbackend] at hbackend'
  cases hbackend'
  have hcaches : exported benv = caches := by
    unfold exported
    rw [hprepare, Option.map_some, hexport]
    rfl
  have hsave : (builder.writerStore ⟨.success, currentOpVersion⟩).save benv.save.codec benv.save.io fs
      (builder.savedBuffers caches) builder.cachePath builder.cacheVersion
      = (.success, (normalBuild benv model builder fs mappings).fs) :=
    Prod.ext (hsaved hbuilt) hfs.symm
  rw [hquiet.codec, hquiet.io, hsame.cachePath, hsame.cacheVersion] at hsave
  obtain ⟨dir, op, haccepts, hwritten⟩ := save_eq_success_iff.mp hsave
  have hop : op = currentOpVersion := by
    have hdevice := haccepts.device
    simp only [writerStore, Option.some.injEq, OpVersionReply.mk.injEq, true_and] at hdevice
    exact hdevice.symm
  subst hop
  rw [hcaches, ← savedBuffers_nonempty_iff, hwritten]
  exact versionSettled_saved_iff hc haccepts hsame.backendID hsame.modelName

/-- **The op-version upgrade.** A cache is saved as version `v` under op version
`op`; then `RestoreFromCacheFile` succeeds on a device that asks for an update
and has a newer op version. It leaves a record that passes `CheckCacheInfo`, with
the new op version and otherwise the same; `Restore` of version `v` answers
`OH_NN_INVALID_FILE`; `OnlineBuild` of a compiler with a model goes on to
`NormalBuild`; and when that has saved, `Restore` succeeds and no
`RestoreFromCacheFile` rewrites the record, if and only if no buffer the device
exports and neither list of descriptions is empty. -/
theorem upgrade_iff (hc : codec.Faithful) {fs₁ : FileSystem} {caches : List Bytes}
    (hsave : store.save codec {} fs caches cacheDir v = (.success, fs₁))
    (hop : store.device = some ⟨.success, op⟩)
    -- the restore that updates
    (hquiet : env.Quiet codec) (hsame : SameCache c store cacheDir v)
    (hupdatable : env.prepare.2.2 = true) (hnewer : op < env.readOpVersion.currentOpVersion)
    (hrestored : c.restoreFromCacheFile env fs₁ mappings = .ok out) (hcode : out.code = .success)
    -- the build that follows
    {reply : OpVersionReply} (model : CompilerModel) (hbquiet : benv.restore.Quiet codec)
    (hbackend : benv.restore.backend = some (some reply)) (hsquiet : benv.save.Quiet codec)
    (hsbackend : benv.save.backend = some (some ⟨.success, env.readOpVersion.currentOpVersion⟩))
    (hbuilder : SameCache builder store cacheDir v) (hbuild : builder.isBuild = false)
    (hprepared : builder.preparedModel = none) (bmappings : Mappings) :
    RecordUpdated codec store fs₁ out.fs cacheDir env.readOpVersion.currentOpVersion ∧
      VersionGone codec store out.fs cacheDir v ∧
      onlineBuild benv (some model) builder out.fs bmappings
        = .ok (normalBuild benv (some model) builder
            (out.fs.remove cacheDir (infoFileName store.modelName)) bmappings) ∧
      ((normalBuild benv (some model) builder
          (out.fs.remove cacheDir (infoFileName store.modelName)) bmappings).code = .success →
        (VersionSettled codec store
            (normalBuild benv (some model) builder
              (out.fs.remove cacheDir (infoFileName store.modelName)) bmappings).fs cacheDir v
            env.readOpVersion.currentOpVersion ↔
          (∀ cache ∈ exported benv, cache ≠ []) ∧ builder.inputTensorDescs ≠ [] ∧
            builder.outputTensorDescs ≠ [])) := by
  obtain ⟨dir, op', haccepts, rfl⟩ := save_eq_success_iff.mp hsave
  obtain rfl : op = op' := by
    have hdevice := haccepts.device
    rw [hop, Option.some.injEq, OpVersionReply.mk.injEq] at hdevice
    exact hdevice.2
  obtain ⟨_, _, _, hdir, hversion, -⟩ := restoreFromCacheFile_success hrestored hcode
  rw [hsame.cachePath] at hdir
  rw [hsame.cacheVersion] at hversion
  have hmarked := updated_eq hc haccepts hquiet hsame hupdatable hnewer hrestored hcode
  have hgone : VersionGone codec store out.fs cacheDir v := by
    intro reader mappings hreader
    rw [hmarked]
    exact restore_marked hc haccepts _ hreader.device hreader.modelName hreader.backendID mappings
  have hpath : out.fs.realpath cacheDir ≠ none := by
    rw [restoreFromCacheFile_realpath hrestored, FileSystem.writeAll_realpath, haccepts.realpath]
    nofun
  refine ⟨?_, hgone, ?_, ?_⟩
  · rw [hmarked]
    exact recordUpdated_marked hc haccepts _
  · exact onlineBuild_marked hgone hpath hversion hbquiet hbackend hbuilder hbuild hprepared _ _
  · exact rebuilt_settled_iff hc hsquiet hsbackend hbuilder hdir

end Protocol

/-! ## Concrete upgrades -/

/-- The directory in which `compilerOf [[1]] [2] [3]` has saved under op version 3. -/
def upgradeSaved : FileSystem :=
  (FileSystem.single "/data" dataDir_ne).writeAll "/data"
    (savedFiles .compact ((compilerOf [[1]] [2] [3]).cacheStore 3) 3
      ((compilerOf [[1]] [2] [3]).savedBuffers [[1]]) 1)

/-- A fresh compiler of the same model. -/
def upgradeCompiler (inputTensorDescs outputTensorDescs : List TensorDescPair) :
    NNCompiler TensorDesc :=
  { compilerOf [[1]] [2] [3] with
    preparedModel := none
    inputTensorDescs := inputTensorDescs
    outputTensorDescs := outputTensorDescs }

/-- A device of op version 4, which prepares any model and exports one buffer. -/
def upgradeEnv : BuildEnv where
  restore := envOf 4
  save := envOf 4
  prepareModel := (.success, some { id := 2, exportModelCache := (.success, [[1]]) })

theorem upgrade_ready :
    ReadyToSave (envOf 3) (compilerOf [[1]] [2] [3]) (FileSystem.single "/data" (by decide)) [[1]]
      "/data" 3 :=
  ⟨rfl, rfl, ⟨_, rfl, rfl, rfl⟩, by decide, by decide, by decide, by decide, rfl, by decide⟩

theorem upgrade_storable : Storable (compilerOf [[1]] [2] [3]) [[1]] := by
  refine ⟨by decide, by decide, ?_, ?_⟩
  · intro desc hdesc
    rw [List.mem_singleton.mp hdesc]
    exact ⟨by decide, by decide⟩
  · intro desc hdesc
    rw [List.mem_singleton.mp hdesc]
    exact ⟨by decide, by decide⟩

theorem upgrade_accepts :
    SaveAccepts .compact ((compilerOf [[1]] [2] [3]).cacheStore 3)
      (FileSystem.single "/data" (by decide)) ((compilerOf [[1]] [2] [3]).savedBuffers [[1]]) "/data"
      1 "/data" 3 :=
  upgrade_ready.saveAccepts compact_faithful upgrade_storable.room

/-- A restore by a device of any op version succeeds, also where it comes to an update. -/
theorem upgrade_restored (op : Int32) :
    ∃ out, (upgradeCompiler [] []).restoreFromCacheFile (envOf op) upgradeSaved [] = .ok out ∧
      out.code = .success := by
  have hrestored := @restoreFromCacheFile_saved (envOf 3) (envOf op) (compilerOf [[1]] [2] [3])
    (upgradeCompiler [] []) (FileSystem.single "/data" (by decide)) [[1]] "/data" 3 compact_faithful
    rfl ⟨rfl, rfl, ⟨_, rfl⟩, rfl, rfl, rfl, rfl, rfl, rfl, rfl⟩ upgrade_ready upgrade_storable
    (by decide) (by simp [compilerOf]) (by simp [compilerOf]) []
  obtain ⟨out, hout, hcode, -⟩ := hrestored
  exact ⟨out, hout, hcode⟩

/-- A model of a meta graph. -/
def metaModel : CompilerModel where
  liteGraph := none
  metaGraph := true

/-- The build that follows saves whatever descriptions can be written. -/
theorem upgrade_built {inputs outputs : List TensorDescPair}
    (hinputs : inputs.length ≤ inputOutputMaxNum ∧ ∀ desc ∈ inputs, Writable desc)
    (houtputs : outputs.length ≤ inputOutputMaxNum ∧ ∀ desc ∈ outputs, Writable desc)
    {fs : FileSystem} (hpath : fs.realpath "/data" = some "/data") :
    (normalBuild upgradeEnv (some metaModel) (upgradeCompiler inputs outputs) fs []).code
      = .success := by
  have hready : ReadyToSave (envOf 4)
      { upgradeCompiler inputs outputs with
        preparedModel := some { id := 2, exportModelCache := (.success, [[1]]) }, isBuild := true }
      fs [[1]] "/data" 4 :=
    ⟨rfl, rfl, ⟨_, rfl, rfl, rfl⟩, by decide, by decide, hinputs.1, houtputs.1, hpath, by decide⟩
  have hsaved := (hready.saveToCacheFile_iff compact_faithful _).mpr
    ⟨⟨nofun, by simp [nnCacheFileNumberMax], hinputs.2, houtputs.2⟩, rfl⟩
  unfold normalBuild
  show (({ upgradeCompiler inputs outputs with
      preparedModel := some { id := 2, exportModelCache := (.success, [[1]]) }
      isBuild := true } : NNCompiler TensorDesc).saveToCacheFile (envOf 4) fs).1 = .success
  rw [hsaved]

theorem upgrade_removed_realpath {out : RestoreOutcome}
    (h : (upgradeCompiler [] []).restoreFromCacheFile (envOf 4) upgradeSaved [] = .ok out) :
    (out.fs.remove "/data" (infoFileName "m")).realpath "/data" = some "/data" := by
  rw [FileSystem.remove_realpath, restoreFromCacheFile_realpath h, upgradeSaved,
    FileSystem.writeAll_realpath]
  rfl

theorem floatDesc_writable : ∀ desc ∈ [floatDesc [2]], Writable desc := by
  intro desc hdesc
  rw [List.mem_singleton.mp hdesc]
  exact ⟨by decide, by decide⟩

/-- A model of 201 inputs and an output, built from a meta graph. -/
def manyInputs : InnerModel :=
  let info : OHNNTensorInfo := ⟨emptyName, some .float32, .array [2], some .nhwc⟩
  ((({} : InnerModel).setInputsAndOutputsInfo {} (List.replicate 201 info) [info]).2.buildFromMetaGraph
    (some 0) {}).2

theorem manyInputs_built : manyInputs.isBuild = true := by
  decide +kernel

theorem getInputTensorDescs_manyInputs : manyInputs.getInputTensorDescs = [] := by
  decide +kernel

theorem getOutputTensorDescs_manyInputs : manyInputs.getOutputTensorDescs = [floatDesc [2]] := by
  decide +kernel

/-- The compiler that rebuilds has no input descriptions, as its model has more than
two hundred inputs: its build succeeds, and what it has saved is not restored. -/
theorem upgrade_notSettled :
    manyInputs.isBuild = true ∧ ∃ fs₁ out,
      ((compilerOf [[1]] [2] [3]).cacheStore 3).save .compact {} (FileSystem.single "/data" (by decide))
        ((compilerOf [[1]] [2] [3]).savedBuffers [[1]]) "/data" 1 = (.success, fs₁) ∧
      (upgradeCompiler [] []).restoreFromCacheFile (envOf 4) fs₁ [] = .ok out ∧
      out.code = .success ∧
      (normalBuild upgradeEnv (some metaModel)
        (upgradeCompiler manyInputs.getInputTensorDescs manyInputs.getOutputTensorDescs)
        (out.fs.remove "/data" (infoFileName "m")) []).code = .success ∧
      ¬ VersionSettled .compact ((compilerOf [[1]] [2] [3]).cacheStore 3)
        (normalBuild upgradeEnv (some metaModel)
          (upgradeCompiler manyInputs.getInputTensorDescs manyInputs.getOutputTensorDescs)
          (out.fs.remove "/data" (infoFileName "m")) []).fs "/data" 1 4 := by
  rw [getInputTensorDescs_manyInputs, getOutputTensorDescs_manyInputs]
  refine ⟨manyInputs_built, ?_⟩
  obtain ⟨out, hout, hcode⟩ := upgrade_restored 4
  have hbuilt := @upgrade_built [] [floatDesc [2]] ⟨by decide, by simp⟩
    ⟨by decide, floatDesc_writable⟩ _ (upgrade_removed_realpath hout)
  refine ⟨_, out, upgrade_accepts.save_eq, hout, hcode, hbuilt, ?_⟩
  have hsettled := @rebuilt_settled_iff .compact ((compilerOf [[1]] [2] [3]).cacheStore 3) _ "/data" 1
    upgradeEnv (upgradeCompiler [] [floatDesc [2]]) [] compact_faithful (some metaModel) 4
    ⟨rfl, rfl, rfl⟩ rfl ⟨rfl, rfl, rfl, rfl⟩ (by decide) hbuilt
  intro h
  exact (hsettled.mp h).2.1 rfl

/-- With an input and an output the upgrade ends where it should. -/
theorem upgrade_settled :
    ∃ fs₁ out,
      ((compilerOf [[1]] [2] [3]).cacheStore 3).save .compact {} (FileSystem.single "/data" (by decide))
        ((compilerOf [[1]] [2] [3]).savedBuffers [[1]]) "/data" 1 = (.success, fs₁) ∧
      (upgradeCompiler [] []).restoreFromCacheFile (envOf 4) fs₁ [] = .ok out ∧
      VersionGone .compact ((compilerOf [[1]] [2] [3]).cacheStore 3) out.fs "/data" 1 ∧
      VersionSettled .compact ((compilerOf [[1]] [2] [3]).cacheStore 3)
        (normalBuild upgradeEnv (some metaModel) (upgradeCompiler [floatDesc [2]] [floatDesc [2]])
          (out.fs.remove "/data" (infoFileName "m")) []).fs "/data" 1 4 := by
  obtain ⟨out, hout, hcode⟩ := upgrade_restored 4
  have hbuilt := @upgrade_built [floatDesc [2]] [floatDesc [2]] ⟨by decide, floatDesc_writable⟩
    ⟨by decide, floatDesc_writable⟩ _ (upgrade_removed_realpath hout)
  have hupgrade := @upgrade_iff .compact ((compilerOf [[1]] [2] [3]).cacheStore 3)
    (FileSystem.single "/data" (by decide)) "/data" 1 3 (envOf 4) upgradeEnv (upgradeCompiler [] [])
    (upgradeCompiler [floatDesc [2]] [floatDesc [2]]) [] out compact_faithful upgradeSaved
    ((compilerOf [[1]] [2] [3]).savedBuffers [[1]]) upgrade_accepts.save_eq rfl ⟨rfl, rfl, rfl⟩
    ⟨rfl, rfl, rfl, rfl⟩ rfl (by decide) hout hcode ⟨.success, 4⟩ metaModel ⟨rfl, rfl, rfl⟩ rfl
    ⟨rfl, rfl, rfl⟩ rfl ⟨rfl, rfl, rfl, rfl⟩ rfl rfl []
  exact ⟨_, out, upgrade_accepts.save_eq, hout, hupgrade.2.1,
    (hupgrade.2.2.2 hbuilt).mpr ⟨by decide, by simp [upgradeCompiler], by simp [upgradeCompiler]⟩⟩

end NNCompiler

end NNRt
