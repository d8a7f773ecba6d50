import NNRt.Cache.History
import NNRt.Compiler.OnlineBuild
import NNRt.Executor.Calls
import NNRt.Lib.Run

/-!
# Unloading and loading again

`DeinitModel` drops the prepared model when `OH_NNModel_HasCache` says that there
is a cache, and `Reload` restores it from there. Between the two readers stand the
cache files: the first asks whether they exist, the second for their checksums.

- `Sound`: what a record whose version the first reader can see promises.
- `Sound.step`: **every call keeps that**, if a `Save` leaves no files that its
  record does not describe.
- `Sound.neverStrands`: then nobody is stranded.
- `neverStrands_of_meets`: the same for whole histories.
- `failedSave_strands`: an executor that cannot load its model again.
-/

namespace NNRt

/-! ## The two readers -/

namespace NNExecutor

/-- The store through which `Reload` restores. -/
def reloadStore (e : NNExecutor) (reply : OpVersionReply) : NNCompiledCache where
  backendID := e.backendID
  modelName := e.extensionConfig.modelName
  device := some reply

/-- `Reload` of an executor that has dropped its model is a `Restore` through
`reloadStore`, for a backend that is registered. -/
theorem reload_eq {e : NNExecutor} {env : ReloadEnv} {reply : OpVersionReply}
    (hpath : e.cachePath ≠ "") (hversion : e.cacheVersion ≠ invalidCacheVersion)
    (hdropped : e.preparedModel = none) (hbackend : env.cache.backend = some (some reply))
    (w : World) :
    e.reload w env
      = match (e.reloadStore reply).restore env.cache.codec env.cache.io env.fs e.cachePath
          e.cacheVersion [] w.mappings with
        | .error fault => .error fault
        | .ok (ret, caches, mappings) =>
          let w := { w with mappings := (NNCompiledCache.releaseCacheBuffer caches mappings).2 }
          if ret ≠ .success then .ok (ret, e, w) else e.reloadCaches w env caches := by
  unfold reload
  rw [if_neg hpath, if_neg hversion, if_neg (by rw [hdropped]; nofun), hbackend]
  rfl

/-- `DeinitModel` in a directory: `OH_NNModel_HasCache` is asked by an executor with
a prepared model only. -/
def deinitIn (e : NNExecutor) (env : ExecutorEnv) (cacheEnv : HasCacheEnv) (fs : FileSystem)
    (mode : String) : Except Fault (NNExecutor × FileSystem) :=
  match e.preparedModel with
  | none => .ok ((e.deinitModel env mode).2, fs)
  | some _ =>
    match modelHasCache cacheEnv fs e.cachePath e.extensionConfig.modelName e.cacheVersion with
    | .error fault => .error fault
    | .ok (answer, fs) => .ok ((e.deinitModel { env with hasCache := answer } mode).2, fs)

/-- What `DeinitModel` leaves when it has dropped the model. -/
theorem deinitIn_dropped {e e' : NNExecutor} {env : ExecutorEnv} {cacheEnv : HasCacheEnv}
    {fs fs' : FileSystem} {mode : String} (h : e.deinitIn env cacheEnv fs mode = .ok (e', fs'))
    (hprepared : e.preparedModel.isSome) (hdropped : e'.preparedModel = none) :
    modelHasCache cacheEnv fs e.cachePath e.extensionConfig.modelName e.cacheVersion
        = .ok (true, fs') ∧
      e'.cachePath = e.cachePath ∧ e'.cacheVersion = e.cacheVersion ∧
      ∀ reply, e'.reloadStore reply = e.reloadStore reply := by
  obtain ⟨preparedModel, hsome⟩ := Option.isSome_iff_exists.mp hprepared
  unfold deinitIn deinitModel at h
  rw [hsome] at h
  dsimp only at h
  split at h
  · cases h
  rename_i answer fs₁ hanswer
  cases answer with
  | true =>
    cases h
    exact ⟨hanswer, rfl, rfl, fun _ => rfl⟩
  | false =>
    cases h
    have hnone : e.preparedModel = none := hdropped
    rw [hsome] at hnone
    cases hnone

end NNExecutor

/-! ## Histories -/

/-- One directory, one model name, and the backend of the device. -/
structure CacheSite where
  codec : JsonCodec
  cacheDir : String
  modelName : String
  /-- `std::hash<std::string>`. -/
  hash : String → UInt64
  /-- What `GetParameter` returns for the hardware name. -/
  hardware : String

/-- A call that may change the directory. -/
inductive CacheCall
  | save (io : IoFaults) (store : NNCompiledCache) (caches : List Bytes) (version : UInt32)
  | restoreFromCacheFile (env : CacheEnv) (c : NNCompiler TensorDesc) (mappings : Mappings)
  | onlineBuild (env : BuildEnv) (model : Option CompilerModel) (c : NNCompiler TensorDesc)
      (mappings : Mappings)
  | hasCache (io : IoFaults) (version : UInt32)

namespace CacheSite

/-- The backend `OH_NNModel_HasCache` checks for. -/
def backendID (site : CacheSite) : UInt64 :=
  site.hash (hardwareName ++ "." ++ site.hardware)

def store (site : CacheSite) (store : NNCompiledCache) : NNCompiledCache :=
  { store with backendID := site.backendID, modelName := site.modelName }

def compiler (site : CacheSite) (c : NNCompiler TensorDesc) : NNCompiler TensorDesc :=
  { c with
    cachePath := site.cacheDir
    backendID := site.backendID
    extensionConfig := { c.extensionConfig with modelName := site.modelName } }

def cacheEnv (site : CacheSite) (env : CacheEnv) : CacheEnv :=
  { env with codec := site.codec }

def buildEnv (site : CacheSite) (env : BuildEnv) : BuildEnv :=
  { env with restore := site.cacheEnv env.restore, save := site.cacheEnv env.save }

def hasCacheEnv (site : CacheSite) (io : IoFaults) : HasCacheEnv where
  codec := site.codec
  io := io
  hash := site.hash
  hardware := some site.hardware

/-- One call. A fault ends the process and leaves the directory as it is. -/
def step (site : CacheSite) (fs : FileSystem) : CacheCall → Except Fault FileSystem
  | .save io store caches version =>
    .ok ((site.store store).save site.codec io fs caches site.cacheDir version).2
  | .restoreFromCacheFile env c mappings =>
    match (site.compiler c).restoreFromCacheFile (site.cacheEnv env) fs mappings with
    | .error _ => .ok fs
    | .ok out => .ok out.fs
  | .onlineBuild env model c mappings =>
    match NNCompiler.onlineBuild (site.buildEnv env) model (site.compiler c) fs mappings with
    | .error _ => .ok fs
    | .ok built => .ok built.fs
  | .hasCache io version =>
    match modelHasCache (site.hasCacheEnv io) fs site.cacheDir site.modelName version with
    | .error _ => .ok fs
    | .ok (_, fs) => .ok fs

/-- Whenever `DeinitModel` drops the model of an executor, the `Restore` of the
`Reload` that follows succeeds. -/
def NeverStrands (site : CacheSite) (fs : FileSystem) : Prop :=
  ∀ (e e' : NNExecutor) (env : ExecutorEnv) (io : IoFaults) (mode : String) (fs' : FileSystem),
    e.backendID = site.backendID → e.cachePath = site.cacheDir →
    e.extensionConfig.modelName = site.modelName → e.preparedModel.isSome →
    e.deinitIn env (site.hasCacheEnv io) fs mode = .ok (e', fs') → e'.preparedModel = none →
    ∀ reply mappings, ∃ caches mappings',
      (e'.reloadStore reply).restore site.codec {} fs' e'.cachePath e'.cacheVersion [] mappings
        = .ok (.success, caches, mappings')

/-- The condition on a `Save`. If it fails, the files it leaves have the checksums of
the record that stands, when `OH_NNModel_HasCache` can see its version. If it
succeeds and its record reaches the disk, so do the files, none of them empty. -/
def SaveKeeps (site : CacheSite) (io : IoFaults) (store : NNCompiledCache) (fs : FileSystem)
    (caches : List Bytes) (version : UInt32) : Prop :=
  ∀ dir, fs.realpath site.cacheDir = some dir →
    ((store.save site.codec io fs caches site.cacheDir version).1 ≠ .success →
      ∀ info, fs.Records site.codec site.cacheDir site.modelName info →
        0 ≤ info.version.toInt → info.version.toInt < 2 ^ 31 →
        ∀ (k : Nat) (file : String × Bytes) (sum : UInt16),
          (store.filesLeft io caches dir)[k]? = some file →
          info.modelCheckSum[k]? = some sum → file.2 ≠ [] ∧ getCrc16 file.2 = sum) ∧
    ((store.save site.codec io fs caches site.cacheDir version).1 = .success →
      (∀ op, store.device = some ⟨.success, op⟩ →
        ¬ store.RecordCut site.codec io op caches version) →
      version.toNat < 2 ^ 31 →
      ∀ (k : Nat) (cache : Bytes) (file : String × Bytes), caches[k]? = some cache →
        (store.filesLeft io caches dir)[k]? = some file →
        file.2 ≠ [] ∧ getCrc16 file.2 = getCrc16 cache)

/-- The condition on a call: on the `Save` it makes, if it makes one. -/
def Keeps (site : CacheSite) (fs : FileSystem) : CacheCall → Prop
  | .save io store caches version => site.SaveKeeps io (site.store store) fs caches version
  | .restoreFromCacheFile _ _ _ => True
  | .onlineBuild env _ c mappings =>
    ∀ store fs₁ caches,
      NNCompiler.BuildSave (site.buildEnv env) (site.compiler c) fs mappings store fs₁ caches →
      site.SaveKeeps env.save.io store fs₁ caches c.cacheVersion
  | .hasCache _ _ => True

/-- What the two readers can rely on: there is no record, or there is one of this
backend and, if `OH_NNModel_HasCache` can see its version, the files are the ones it
describes. A version is one below 0 after an update of version 0. -/
def Sound (site : CacheSite) (fs : FileSystem) : Prop :=
  fs.Unrecorded site.codec site.cacheDir site.modelName ∨
    ∃ info, fs.Records site.codec site.cacheDir site.modelName info ∧
      info.deviceId = site.backendID.toInt64 ∧
      -1 ≤ info.version.toInt ∧ info.version.toInt < 2 ^ 32 ∧
      (0 ≤ info.version.toInt → info.version.toInt < 2 ^ 31 →
        fs.Matches site.cacheDir site.modelName info.modelCheckSum)

/-! ## One call -/

variable {site : CacheSite} {fs fs' : FileSystem}

/-- **A visible version can be restored.** -/
theorem Sound.neverStrands (hc : site.codec.Faithful) (hdir : site.cacheDir ≠ "")
    (h : site.Sound fs) : site.NeverStrands fs := by
  intro e e' env io mode fs' hbackend hpath hname hprepared hdeinit hdropped reply mappings
  obtain ⟨hanswer, hpath', hversion', hstore⟩ := e.deinitIn_dropped hdeinit hprepared hdropped
  rw [hpath', hversion', hstore, hpath]
  rw [hpath, hname] at hanswer
  -- An answer of yes has left the directory alone.
  rcases modelHasCache_fs hanswer with rfl | ⟨hno, -⟩
  rotate_left
  · cases hno
  rcases h with hnone | ⟨info, hrecords, hid, hlow, hhigh, hmatches⟩
  · obtain ⟨_, hno⟩ := @modelHasCache_unrecorded (site.hasCacheEnv io) fs' site.cacheDir
      site.modelName hnone hdir e.cacheVersion
    rw [hanswer] at hno
    cases hno
  have hdevice : checkDeviceId (site.hasCacheEnv io) info.deviceId = .success := by
    rw [hid]
    exact if_neg (not_not_intro rfl)
  have heq := modelHasCache_eq hc hrecords (reads_of_modelHasCache hanswer) hdevice e.cacheVersion
  rw [hanswer, Except.ok.injEq] at heq
  split at heq
  · rw [Prod.mk.injEq] at heq
    have hversion := (narrow_version_iff hlow hhigh e.cacheVersion).mp (of_decide_eq_true heq.1.symm)
    have hint := congrArg Int64.toInt hversion.1
    rw [toInt_widen] at hint
    refine (@FileSystem.Records.restore_success_iff site.codec fs' site.cacheDir info
      (e.reloadStore reply) hc ?_ rfl e.cacheVersion mappings).mpr ⟨?_, hversion.1, ?_⟩
    · rw [← hname] at hrecords
      exact hrecords
    · rw [hid, UInt64.toUInt64_toInt64]
      exact hbackend.symm
    · rw [← hname] at hmatches
      exact hmatches (by omega) (by omega)
  · rw [Prod.mk.injEq] at heq
    cases heq.1

/-- A `Save` that meets its condition. -/
theorem Sound.save {io : IoFaults} {store : NNCompiledCache} {caches : List Bytes} {version : UInt32}
    (hc : site.codec.Faithful) (hs : site.codec.Strict) (hbackend : store.backendID = site.backendID)
    (hname : store.modelName = site.modelName) (hsound : site.Sound fs)
    (hkeeps : site.SaveKeeps io store fs caches version) :
    site.Sound (store.save site.codec io fs caches site.cacheDir version).2 := by
  cases hdir : fs.realpath site.cacheDir with
  | none =>
    obtain ⟨ret, -, hsave⟩ := save_realpath_none site.codec io store caches version hdir
    rw [hsave]
    exact hsound
  | some dir =>
    obtain ⟨hfailed, hsaved⟩ := hkeeps dir hdir
    have heffect := @NNCompiledCache.save_effect site.codec io store fs caches site.cacheDir dir
      version hdir
    generalize store.save site.codec io fs caches site.cacheDir version = result
      at heffect hfailed hsaved ⊢
    cases heffect with
    | failed ret hret =>
      -- The old record stays, over the files that have been written before the error.
      have hinfo : (fs.writeAll dir (store.filesLeft io caches dir)).find? site.cacheDir
          (infoFileName site.modelName) = fs.find? site.cacheDir (infoFileName site.modelName) :=
        find?_save_record hdir site.modelName
      rcases hsound with hnone | ⟨info, hrecords, hid, hlow, hhigh, hmatches⟩
      · exact Or.inl (hnone.congr hinfo)
      refine Or.inr ⟨info, hrecords.congr hinfo, hid, hlow, hhigh, fun hpos hlt k hk => ?_⟩
      dsimp only
      rw [← hname, find?_save_file hdir, hname]
      cases hfile : (store.filesLeft io caches dir)[k]? with
      | none => exact hmatches hpos hlt k hk
      | some file =>
        exact ⟨file.2, rfl, hfailed hret info hrecords hpos hlt k file info.modelCheckSum[k] hfile
          (List.getElem?_eq_getElem hk)⟩
    | saved op accepts all =>
      -- The new record, if it has reached the disk as a whole, over the new files.
      have hrecord := @savedRecord site.codec io store fs caches site.cacheDir dir version op hc hs
        accepts
      dsimp only
      rw [hname] at hrecord ⊢
      rcases hrecord with ⟨-, hnone⟩ | ⟨hwhole, hrecords⟩
      · exact Or.inl hnone
      have hversion : (savedInfo store op caches version).version.toInt = version.toNat :=
        toInt_widen version
      have hlt := version.toNat_lt
      refine Or.inr ⟨_, hrecords, congrArg UInt64.toInt64 hbackend, by omega, by omega,
        fun _ hsmall k hk => ?_⟩
      have hk' : k < caches.length := by simpa [savedInfo] using hk
      obtain ⟨hne, hcrc⟩ := hsaved rfl
        (fun op' hdevice => by
          rw [accepts.device] at hdevice
          cases hdevice
          exact hwhole)
        (by omega) k caches[k] _ (List.getElem?_eq_getElem hk') (getElem?_filesLeft hk' all)
      refine ⟨_, ?_, hne, hcrc.trans (by simp [savedInfo])⟩
      rw [find?_write_record (by rwa [FileSystem.writeAll_realpath]), ← hname,
        find?_save_file hdir, getElem?_filesLeft hk' all]

/-- A `RestoreFromCacheFile` rewrites the record only after it has restored the files
the record describes. -/
theorem Sound.restored {env : CacheEnv} {c : NNCompiler TensorDesc} (hc : site.codec.Faithful)
    (hs : site.codec.Strict) (hsound : site.Sound fs)
    (heffect : NNCompiler.RestoreEffect (site.cacheEnv env) (site.compiler c) fs fs') :
    site.Sound fs' := by
  cases heffect with
  | unchanged => exact hsound
  | rewritten info path hrewrites hpath =>
    obtain ⟨content, hfind, hread⟩ := hrewrites.read
    have hfind : fs.find? site.cacheDir (infoFileName site.modelName) = some content := hfind
    have hread : checkCacheInfo site.codec site.backendID (some content) = .ok (.success, info) :=
      hread
    rcases hsound with hnone | ⟨info', hrecords, hid, -⟩
    · exact absurd hread (hnone.not_read hfind)
    obtain rfl := hrecords.of_read hc hfind hread
    obtain ⟨reply, mappings, caches, mappings', -, -, hrestore, -⟩ := hrewrites.restored
    have hmatches : fs.Matches site.cacheDir site.modelName info.modelCheckSum :=
      ((@FileSystem.Records.restore_success_iff site.codec fs site.cacheDir info
        ((site.compiler c).readerStore reply) hc hrecords rfl _ mappings).mp
          ⟨_, _, restore_quiet hrestore⟩).2.2
    have hversion := congrArg Int64.toInt hrewrites.version
    rw [toInt_widen] at hversion
    have hlt := (site.compiler c).cacheVersion.toNat_lt
    have hone : (1 : Int64).toInt = 1 := rfl
    -- The mark is one below a version of 32 bits, so it is never below -1.
    have hmark : (rewrittenInfo info env.readOpVersion.currentOpVersion).version.toInt
        = info.version.toInt - 1 := by
      show (info.version - 1).toInt = _
      rw [Int64.toInt_sub, hone, Int.bmod_eq_of_le] <;> omega
    have hfound : (fs.write path (infoFileName site.modelName)
        (((site.cacheEnv env).ioUpdate.writes (infoFileName site.modelName)).left
          (cacheInfoText site.codec (rewrittenInfo info env.readOpVersion.currentOpVersion)))).find?
        site.cacheDir (infoFileName site.modelName) = some _ := FileSystem.find?_write hpath
    rcases parse_left hc hs ((site.cacheEnv env).ioUpdate.writes (infoFileName site.modelName))
      (rewrittenInfo info env.readOpVersion.currentOpVersion) with hcut | hwhole
    · left
      intro content' hcontent
      have hcontent := hfound.symm.trans hcontent
      cases hcontent
      exact hcut
    · refine Or.inr ⟨rewrittenInfo info env.readOpVersion.currentOpVersion,
        ⟨⟨_, hfound, hwhole⟩, hrecords.wellFormed.fileNumber, hrecords.wellFormed.nonempty,
          hrecords.wellFormed.length_le⟩, hid, by omega, by omega, fun _ _ k hk => ?_⟩
      obtain ⟨content', hfile, hcontent⟩ := hmatches k hk
      exact ⟨content', (find?_write_record hpath _ k).trans hfile, hcontent⟩

/-- A record that is removed promises nothing. -/
theorem Sound.removed (site : CacheSite) (fs : FileSystem) :
    site.Sound (fs.remove site.cacheDir (infoFileName site.modelName)) :=
  Or.inl (FileSystem.unrecorded_remove site.modelName)

/-- **Every call that meets its condition** keeps the promise. -/
theorem Sound.step {call : CacheCall} (hc : site.codec.Faithful) (hs : site.codec.Strict)
    (hdir : site.cacheDir ≠ "") (hsound : site.Sound fs) (hkeeps : site.Keeps fs call)
    (h : site.step fs call = .ok fs') : site.Sound fs' := by
  cases call with
  | save io store caches version =>
    cases h
    exact hsound.save hc hs rfl rfl hkeeps
  | restoreFromCacheFile env c mappings =>
    unfold CacheSite.step at h
    dsimp only at h
    split at h
    · cases h
      exact hsound
    rename_i out hout
    cases h
    exact hsound.restored hc hs (NNCompiler.restoreFromCacheFile_effect hout).2
  | onlineBuild env model c mappings =>
    unfold CacheSite.step at h
    dsimp only at h
    split at h
    · cases h
      exact hsound
    rename_i built hbuilt
    cases h
    rcases NNCompiler.onlineBuild_effect hbuilt with
      ⟨fs₁, heffect, hfs | hfs⟩ | ⟨store, fs₁, caches, hsave, hfs⟩
    · rw [hfs]
      exact hsound.restored hc hs heffect
    · rw [hfs]
      exact Sound.removed site fs₁
    · -- The build has saved over what its restore has left.
      rw [hfs]
      have hkeeps := hkeeps store fs₁ caches hsave
      obtain ⟨out, reply, _, _, hout, -, -, -, -, -, rfl, hfs₁, -⟩ := hsave
      have hsound₁ : site.Sound fs₁ := by
        rw [hfs₁]
        split
        · exact Sound.removed site out.fs
        · exact hsound.restored hc hs (NNCompiler.restoreFromCacheFile_effect hout).2
      exact hsound₁.save hc hs rfl rfl hkeeps
  | hasCache io version =>
    unfold CacheSite.step at h
    dsimp only at h
    split at h
    · cases h
      exact hsound
    rename_i hanswer
    cases h
    rcases modelHasCache_fs hanswer with rfl | ⟨-, rfl⟩
    · exact hsound
    · rw [statDir, if_neg hdir]
      exact Sound.removed site fs

/-- **Unloading strands nobody** in a history, from a directory without a record,
whose calls all meet their condition. -/
theorem neverStrands_of_meets {calls : List CacheCall} (hc : site.codec.Faithful)
    (hs : site.codec.Strict) (hdir : site.cacheDir ≠ "")
    (hfresh : fs.Unrecorded site.codec site.cacheDir site.modelName)
    (hmeets : Run.Meets site.step site.Keeps fs calls) (h : Run.exec site.step fs calls = .ok fs') :
    site.NeverStrands fs' := by
  have hend : site.Sound fs' :=
    Run.exec_invariant_of_meets (P := site.Sound)
      (fun fs call fs' hs' hkeeps hstep => Sound.step hc hs hdir hs' hkeeps hstep)
      (Or.inl hfresh) hmeets h
  exact hend.neverStrands hc hdir

/-! ## A stranded executor -/

/-- Model `m` in `/data`, on a device whose name has the hash 1. -/
def mixedSite : CacheSite where
  codec := .compact
  cacheDir := "/data"
  modelName := "m"
  hash _ := 1
  hardware := "default"

/-- An executor that runs version 5 of it. -/
def mixedExecutor : NNExecutor where
  backendID := 1
  preparedModel := some { id := 0 }
  cachePath := "/data"
  cacheVersion := 5
  extensionConfig := { modelName := "m" }
  autoUnloadHandler := some 1

/-- Version 5 is saved, and saved again until the second file cannot be opened. The
executor unloads, and its reload finds a first file of the wrong checksum. -/
theorem failedSave_strands :
    ∃ fs, Run.exec mixedSite.step (FileSystem.single "/data" (by decide))
        [.save {} mixedStore [[1, 0, 2, 0], [5]] 5, .save secondFileFails mixedStore [[2], [6]] 5]
        = .ok fs ∧
      ¬ mixedSite.NeverStrands fs := by
  have haccepts := saveAccepts_mixed [[1, 0, 2, 0], [5]] (by simp) (by decide)
  refine ⟨mixedSaved.write "/data" (modelFileName "m" 0) [2], ?_, ?_⟩
  · have hfirst : mixedSite.step (FileSystem.single "/data" (by decide))
        (.save {} mixedStore [[1, 0, 2, 0], [5]] 5) = .ok mixedSaved :=
      congrArg (fun result => Except.ok (Prod.snd result)) haccepts.save_eq
    have hsecond : mixedSite.step mixedSaved (.save secondFileFails mixedStore [[2], [6]] 5)
        = .ok (mixedSaved.write "/data" (modelFileName "m" 0) [2]) :=
      congrArg (fun result => Except.ok (Prod.snd result)) (failedSave_mixed realpath_mixedSaved [2] [6] 5)
    rw [Run.exec, hfirst]
    dsimp only
    rw [Run.exec, hsecond]
    rfl
  have hother : ∀ name, name ≠ modelFileName "m" 0 →
      (mixedSaved.write "/data" (modelFileName "m" 0) [2]).find? "/data" name
        = mixedSaved.find? "/data" name := by
    intro name hname
    rw [FileSystem.find?_eq realpath_mixedSaved,
      FileSystem.find?_eq (by rw [FileSystem.write_realpath]; exact realpath_mixedSaved),
      FileSystem.write_files, Directory.write_other _ _ hname]
  have hrecords : (mixedSaved.write "/data" (modelFileName "m" 0) [2]).Records .compact "/data" "m"
      (savedInfo mixedStore 3 [[1, 0, 2, 0], [5]] 5) := by
    refine ⟨⟨_, ?_, compact_faithful.parse_dump _⟩, haccepts.wellFormed⟩
    exact (hother _ (modelFileName_ne_infoFileName _ _ _).symm).trans haccepts.find?_info
  have hzero : (mixedSaved.write "/data" (modelFileName "m" 0) [2]).find? "/data"
      (modelFileName "m" 0) = some [2] := FileSystem.find?_write realpath_mixedSaved
  have hexist : FilesExist (mixedSaved.write "/data" (modelFileName "m" 0) [2]) "/data" "m"
      (savedInfo mixedStore 3 [[1, 0, 2, 0], [5]] 5).modelCheckSum.length := by
    intro k hk
    have hk : k < 2 := hk
    obtain rfl | rfl : k = 0 ∨ k = 1 := by omega
    · rw [hzero]
      rfl
    · rw [hother _ fun h => absurd (modelFileName_injective "m" h) (by decide)]
      exact Option.isSome_iff_exists.mpr ⟨_, haccepts.find?_model (by decide)⟩
  -- All files are there, and `OH_NNModel_HasCache` does not look into them.
  have hanswer := @modelHasCache_eq (mixedSite.hasCacheEnv {}) _ "/data" "m" _ compact_faithful
    hrecords
    ⟨by rintro ⟨⟩, by rintro ⟨⟩⟩ (by decide) 5
  rw [if_pos hexist] at hanswer
  have hdeinit : mixedExecutor.deinitIn {} (mixedSite.hasCacheEnv {})
      (mixedSaved.write "/data" (modelFileName "m" 0) [2]) "DelayUnload"
      = .ok ({ mixedExecutor with preparedModel := none },
        mixedSaved.write "/data" (modelFileName "m" 0) [2]) := by
    unfold NNExecutor.deinitIn
    show (match modelHasCache (mixedSite.hasCacheEnv {})
        (mixedSaved.write "/data" (modelFileName "m" 0) [2]) "/data" "m" 5 with
      | .error fault => _
      | .ok (answer, fs) => _) = _
    rw [hanswer]
    rfl
  intro h
  -- The reload would have to accept the new first file under the old checksum.
  obtain ⟨caches, mappings', hrestore⟩ := h mixedExecutor _ {} {} "DelayUnload" _ rfl rfl rfl rfl
    hdeinit rfl ⟨.success, 3⟩ []
  have hmatches := ((@FileSystem.Records.restore_success_iff .compact _ "/data" _
    (mixedExecutor.reloadStore ⟨.success, 3⟩) compact_faithful hrecords rfl 5 []).mp
      ⟨_, _, hrestore⟩).2.2
  obtain ⟨content, hfind, -, hcrc⟩ := hmatches 0 (by decide)
  rw [show (mixedExecutor.reloadStore ⟨.success, 3⟩).modelName = "m" from rfl, hzero] at hfind
  cases hfind
  have hfirst : getCrc16 [1, 0, 2, 0] = complement16 3 := getCrc16_of_noCarry (by decide) (by decide)
  have hother : getCrc16 [2] = complement16 2 := getCrc16_of_noCarry (by decide) (by decide)
  have hsame : getCrc16 [2] = getCrc16 [1, 0, 2, 0] := hcrc
  rw [hfirst, hother] at hsame
  exact absurd hsame (by decide)

/-- A save of two buffers, and another that writes the first one again before it fails. -/
def savedAgain : List CacheCall :=
  [.save {} mixedStore [[1, 0, 2, 0], [5]] 5,
    .save secondFileFails mixedStore [[1, 0, 2, 0], [6]] 5]

/-- The first save meets its condition: what it says is there is there. -/
theorem saveKeeps_first : mixedSite.SaveKeeps {} mixedStore (FileSystem.single "/data" (by decide))
    [[1, 0, 2, 0], [5]] 5 := by
  have haccepts := saveAccepts_mixed [[1, 0, 2, 0], [5]] (by simp) (by decide)
  intro dir hdir
  have hcode : (mixedStore.save .compact {} (FileSystem.single "/data" (by decide))
      [[1, 0, 2, 0], [5]] "/data" 5).1 = .success := congrArg Prod.fst haccepts.save_eq
  refine ⟨fun hfails => absurd hcode hfails, ?_⟩
  intro _ _ _ k cache file hcache hfile
  unfold NNCompiledCache.filesLeft at hfile
  split at hfile
  · cases hfile
  obtain ⟨hk, rfl⟩ := getElem?_leftFiles hfile
  rw [List.getElem?_eq_getElem hk, Option.some.injEq] at hcache
  subst hcache
  refine ⟨?_, rfl⟩
  have hk : k < 2 := hk
  obtain rfl | rfl : k = 0 ∨ k = 1 := by omega
  · rintro ⟨⟩
  · rintro ⟨⟩

/-- So does the second: it fails with a first file that has the checksum of the record. -/
theorem saveKeeps_again :
    mixedSite.SaveKeeps secondFileFails mixedStore mixedSaved [[1, 0, 2, 0], [6]] 5 := by
  have haccepts := saveAccepts_mixed [[1, 0, 2, 0], [5]] (by simp) (by decide)
  have hfails : (mixedStore.save .compact secondFileFails mixedSaved [[1, 0, 2, 0], [6]] "/data"
      5).1 ≠ .success := by
    rw [failedSave_mixed realpath_mixedSaved]
    nofun
  intro dir hdir
  refine ⟨fun _ info hrecords _ _ k file sum hfile hsum => ?_, fun hok => absurd hok hfails⟩
  obtain rfl := hrecords.unique compact_faithful
    (⟨⟨_, haccepts.find?_info, compact_faithful.parse_dump _⟩, haccepts.wellFormed⟩ :
      mixedSaved.Records .compact "/data" "m" (savedInfo mixedStore 3 [[1, 0, 2, 0], [5]] 5))
  unfold NNCompiledCache.filesLeft at hfile
  split at hfile
  · cases hfile
  have hleft : leftFiles secondFileFails mixedStore.modelName 0 [[1, 0, 2, 0], [6]]
      = [(modelFileName "m" 0, [1, 0, 2, 0])] := by decide
  rw [hleft] at hfile
  cases k with
  | zero =>
    cases hfile
    cases hsum
    exact ⟨by nofun, rfl⟩
  | succ k => cases hfile

/-- Nobody is stranded by the two. -/
theorem save_strands_nobody :
    ∃ fs, Run.exec mixedSite.step (FileSystem.single "/data" (by decide)) savedAgain = .ok fs ∧
      (mixedStore.save .compact secondFileFails mixedSaved [[1, 0, 2, 0], [6]] "/data" 5).1
        = .invalidParameter ∧
      mixedSite.NeverStrands fs := by
  have haccepts := saveAccepts_mixed [[1, 0, 2, 0], [5]] (by simp) (by decide)
  have hsecond := failedSave_mixed realpath_mixedSaved [1, 0, 2, 0] [6] 5
  have hfirst : mixedSite.step (FileSystem.single "/data" (by decide))
      (.save {} mixedStore [[1, 0, 2, 0], [5]] 5) = .ok mixedSaved :=
    congrArg (fun result => Except.ok (Prod.snd result)) haccepts.save_eq
  have hagain : mixedSite.step mixedSaved (.save secondFileFails mixedStore [[1, 0, 2, 0], [6]] 5)
      = .ok (mixedSaved.write "/data" (modelFileName "m" 0) [1, 0, 2, 0]) :=
    congrArg (fun result => Except.ok (Prod.snd result)) hsecond
  have hfresh : (FileSystem.single "/data" (by decide)).Unrecorded .compact "/data" "m" := by
    intro content hcontent
    cases hcontent
  have hrun : Run.exec mixedSite.step (FileSystem.single "/data" (by decide)) savedAgain
      = .ok (mixedSaved.write "/data" (modelFileName "m" 0) [1, 0, 2, 0]) := by
    unfold savedAgain
    rw [Run.exec, hfirst]
    dsimp only
    rw [Run.exec, hagain]
    rfl
  refine ⟨_, hrun, congrArg Prod.fst hsecond,
    neverStrands_of_meets compact_faithful compact_strict (by decide) hfresh ?_ hrun⟩
  exact .cons hfirst saveKeeps_first (.cons hagain saveKeeps_again trivial)

end CacheSite

end NNRt
