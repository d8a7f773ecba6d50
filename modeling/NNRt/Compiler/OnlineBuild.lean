import NNRt.Compiler.Rewrite
import NNRt.Compiler.SaveRestore

/-!
# `NNCompiler::Build`

A compiler is made with a model or without one (`OH_NNCompilation_ConstructForCache`).
`Build` first tries to restore it from the cache. When that returns
`OH_NN_INVALID_FILE` the record is deleted; when it is forbidden the build ends;
otherwise the model, if there is one, is prepared and saved.

- `onlineBuild_restored` / `onlineBuild_forbidden` / `onlineBuild_invalidFile`: the
  three ways through `OnlineBuild` that a code of the restore decides.
- `normalBuild_effect`: a build that reaches the cache makes one call of `Save`.
- `onlineBuild_effect`: **what a build does to the directory.**
- `build_noModel_eq`: **without a model**, what is left of the directory depends on
  the restore only.
-/

namespace NNRt

/-- An entry of `LiteGraph::all_nodes_`, as `IsOfflineModel` sees it. -/
inductive GraphNode
  | null
  /-- `NODE_TYPE_CUSTOM`. -/
  | custom
  | other
  deriving DecidableEq, Repr

/-- What a compiler keeps of the `InnerModel` it was made with. -/
structure CompilerModel where
  /-- The nodes of `m_liteGraph`, unless it is null. -/
  liteGraph : Option (List GraphNode)
  /-- Whether `m_metaGraph` is there. -/
  metaGraph : Bool
  deriving DecidableEq, Repr

/-- What is outside the compiler during one call of `Build`. -/
structure BuildEnv where
  /-- During `RestoreFromCacheFile`. -/
  restore : CacheEnv
  /-- During `SaveToCacheFile`. -/
  save : CacheEnv
  /-- Whether `m_device` is there. -/
  device : Bool := true
  supportedOperation : ReturnCode × List Bool := (.success, [])
  /-- `PrepareModel`: its code and `m_preparedModel` afterwards. -/
  prepareModel : ReturnCode × Option PreparedModel := (.success, none)
  prepareOfflineModel : ReturnCode × Option PreparedModel := (.success, none)

/-- What a build leaves behind. -/
structure BuildOutcome where
  code : ReturnCode
  compiler : NNCompiler TensorDesc
  fs : FileSystem
  mappings : Mappings

namespace NNCompiler

/-- `IsSupportedModel`. -/
def isSupportedModel (env : BuildEnv) : ReturnCode :=
  let (ret, supportedList) := env.supportedOperation
  if ret ≠ .success then ret
  else if supportedList.any fun isSupport => !isSupport then .failed
  else .success

/-- `CheckModelParameter`. -/
def checkModelParameter (model : Option CompilerModel) : ReturnCode :=
  match model with
  | none => .success
  | some model =>
    if model.liteGraph.isNone ∧ ¬ model.metaGraph then .invalidParameter
    else if model.liteGraph.isSome ∧ model.metaGraph then .invalidParameter
    else .success

/-- `IsOfflineModel`. -/
def isOfflineModel (model : Option CompilerModel) : ReturnCode × Bool :=
  match model with
  | none => (.success, false)
  | some model =>
    if model.metaGraph then (.success, false)
    else
      match model.liteGraph with
      -- `CheckModelParameter` has been passed: one of the graphs is there.
      | none | some [] => (.invalidParameter, false)
      | some [.null] => (.nullPtr, false)
      | some [.custom] => (.success, true)
      | some [.other] => (.success, false)
      | some (_ :: _ :: _) => (.success, false)

/-- `NormalBuild`. -/
def normalBuild (env : BuildEnv) (model : Option CompilerModel) (c : NNCompiler TensorDesc)
    (fs : FileSystem) (mappings : Mappings) : BuildOutcome :=
  let liteGraph := (model.bind CompilerModel.liteGraph).isSome
  let metaGraph := (model.map CompilerModel.metaGraph).getD false
  if !liteGraph ∧ !metaGraph then ⟨.invalidParameter, c, fs, mappings⟩
  else if liteGraph ∧ metaGraph then ⟨.invalidParameter, c, fs, mappings⟩
  else if isSupportedModel env ≠ .success then ⟨isSupportedModel env, c, fs, mappings⟩
  else
    let (ret, preparedModel) := env.prepareModel
    let c := { c with preparedModel := preparedModel }
    if ret ≠ .success then ⟨ret, c, fs, mappings⟩
    else
      -- The compiler counts as built, also when the cache cannot be saved.
      let c := { c with isBuild := true }
      if c.cachePath ≠ "" then
        let (ret, fs) := c.saveToCacheFile env.save fs
        ⟨ret, c, fs, mappings⟩
      else ⟨.success, c, fs, mappings⟩

/-- `OnlineBuild`. -/
def onlineBuild (env : BuildEnv) (model : Option CompilerModel) (c : NNCompiler TensorDesc)
    (fs : FileSystem) (mappings : Mappings) : Except Fault BuildOutcome := do
  let ⟨ret, c, fs, mappings, _⟩ ← c.restoreFromCacheFile env.restore fs mappings
  if ret = .invalidFile ∧ fs.realpath c.cachePath = none then
    return ⟨.invalidParameter, c, fs, mappings⟩
  else
    -- Only the record goes; the files it lists stay.
    let fs := if ret = .invalidFile then
      fs.remove c.cachePath (infoFileName c.extensionConfig.modelName) else fs
    if ret = .operationForbidden then return ⟨ret, c, fs, mappings⟩
    else
      let c := if ret = .success then { c with isBuild := true } else c
      if c.isBuild then return ⟨.success, c, fs, mappings⟩
      else return normalBuild env model c fs mappings

/-- `Build`. -/
def build (env : BuildEnv) (model : Option CompilerModel) (c : NNCompiler TensorDesc)
    (fs : FileSystem) (mappings : Mappings) : Except Fault BuildOutcome :=
  if c.isBuild then .ok ⟨.operationForbidden, c, fs, mappings⟩
  else if !env.device then .ok ⟨.operationForbidden, c, fs, mappings⟩
  else if checkModelParameter model ≠ .success then
    .ok ⟨checkModelParameter model, c, fs, mappings⟩
  else
    match isOfflineModel model with
    | (.success, true) =>
      let (ret, preparedModel) := env.prepareOfflineModel
      let c := { c with preparedModel := preparedModel }
      if ret ≠ .success then .ok ⟨ret, c, fs, mappings⟩
      else .ok ⟨.success, { c with isBuild := true }, fs, mappings⟩
    | (.success, false) => onlineBuild env model c fs mappings
    | (ret, _) => .ok ⟨ret, c, fs, mappings⟩

/-! ## The codes of the restore -/

section Codes

variable {env : BuildEnv} {model : Option CompilerModel} {c : NNCompiler TensorDesc}
  {fs : FileSystem} {mappings : Mappings} {out : RestoreOutcome}

theorem onlineBuild_restored (h : c.restoreFromCacheFile env.restore fs mappings = .ok out)
    (hret : out.code = .success) :
    onlineBuild env model c fs mappings
      = .ok ⟨.success, { out.compiler with isBuild := true }, out.fs, out.mappings⟩ := by
  obtain ⟨ret, c', fs', mappings', call⟩ := out
  obtain rfl : ret = .success := hret
  unfold onlineBuild
  rw [h, ok_bind]
  rfl

/-- A build that is forbidden leaves the directory alone. -/
theorem onlineBuild_forbidden (h : c.restoreFromCacheFile env.restore fs mappings = .ok out)
    (hret : out.code = .operationForbidden) :
    onlineBuild env model c fs mappings
      = .ok ⟨.operationForbidden, out.compiler, out.fs, out.mappings⟩ := by
  obtain ⟨ret, c', fs', mappings', call⟩ := out
  obtain rfl : ret = .operationForbidden := hret
  unfold onlineBuild
  rw [h, ok_bind]
  rfl

/-- A restore that has read an invalid file costs the record. -/
theorem onlineBuild_invalidFile (h : c.restoreFromCacheFile env.restore fs mappings = .ok out)
    (hret : out.code = .invalidFile) (hbuild : c.isBuild = false)
    (hpath : fs.realpath c.cachePath ≠ none) :
    onlineBuild env model c fs mappings
      = .ok (normalBuild env model out.compiler
          (out.fs.remove c.cachePath (infoFileName c.extensionConfig.modelName)) out.mappings) := by
  obtain ⟨⟨preparedModel, inputs, outputs, hcompiler⟩, -⟩ := restoreFromCacheFile_effect h
  have hrealpath := restoreFromCacheFile_realpath h
  obtain ⟨ret, c', fs', mappings', call⟩ := out
  obtain rfl : ret = .invalidFile := hret
  dsimp only at hcompiler hrealpath ⊢
  subst hcompiler
  unfold onlineBuild
  rw [h, ok_bind]
  dsimp only
  rw [if_neg (by rw [hrealpath]; exact fun hall => hpath hall.2), if_pos rfl]
  simp only [reduceCtorEq, if_false, hbuild, Bool.false_eq_true, pure_eq_ok]

/-- After any other error the model is built. -/
theorem onlineBuild_failed (h : c.restoreFromCacheFile env.restore fs mappings = .ok out)
    (hbuild : c.isBuild = false) (hsuccess : out.code ≠ .success)
    (hforbidden : out.code ≠ .operationForbidden) (hinvalid : out.code ≠ .invalidFile) :
    onlineBuild env model c fs mappings
      = .ok (normalBuild env model out.compiler out.fs out.mappings) := by
  obtain ⟨⟨preparedModel, inputs, outputs, hcompiler⟩, -⟩ := restoreFromCacheFile_effect h
  obtain ⟨ret, c', fs', mappings', call⟩ := out
  dsimp only at hcompiler hsuccess hforbidden hinvalid ⊢
  subst hcompiler
  unfold onlineBuild
  rw [h, ok_bind]
  dsimp only
  rw [if_neg fun hall => hinvalid hall.1, if_neg hforbidden, if_neg hsuccess, hbuild,
    if_neg hinvalid]
  rfl

end Codes

/-! ## The save of a build -/

section Save

variable {c : NNCompiler TensorDesc} {fs : FileSystem}

/-- The store a compiler writes through. -/
def writerStore (c : NNCompiler TensorDesc) (reply : OpVersionReply) : NNCompiledCache where
  backendID := c.backendID
  modelName := c.extensionConfig.modelName
  device := some reply
  isExceedRamLimit := c.extensionConfig.isExceedRamLimit

/-- What `SaveToCacheFile` does: nothing, or a `Save` of the exported buffers and
the descriptions, whose error it returns. -/
theorem saveToCacheFile_effect (env : CacheEnv) (c : NNCompiler TensorDesc) (fs : FileSystem) :
    ((c.saveToCacheFile env fs).1 ≠ .success ∧ (c.saveToCacheFile env fs).2 = fs) ∨
      ∃ reply preparedModel caches, env.backend = some (some reply) ∧
        c.preparedModel = some preparedModel ∧
        preparedModel.exportModelCache = (.success, caches) ∧
        c.cacheVersion ≠ invalidCacheVersion ∧
        (c.saveToCacheFile env fs).2 = ((c.writerStore reply).save env.codec env.io fs
          (c.savedBuffers caches) c.cachePath c.cacheVersion).2 ∧
        ((c.saveToCacheFile env fs).1 = .success → ((c.writerStore reply).save env.codec env.io fs
          (c.savedBuffers caches) c.cachePath c.cacheVersion).1 = .success) := by
  generalize hresult : c.saveToCacheFile env fs = result
  unfold saveToCacheFile at hresult
  split at hresult
  · subst hresult
    exact Or.inl ⟨nofun, rfl⟩
  split at hresult
  · subst hresult
    exact Or.inl ⟨nofun, rfl⟩
  rename_i hversion
  cases hprepared : c.preparedModel with
  | none =>
    rw [hprepared] at hresult
    subst hresult
    exact Or.inl ⟨nofun, rfl⟩
  | some preparedModel =>
    rw [hprepared] at hresult
    dsimp only at hresult
    split at hresult
    · rename_i hret
      subst hresult
      exact Or.inl ⟨hret, rfl⟩
    rename_i hret
    split at hresult
    · subst hresult
      exact Or.inl ⟨nofun, rfl⟩
    cases hbackend : env.backend with
    | none =>
      rw [hbackend] at hresult
      subst hresult
      exact Or.inl ⟨nofun, rfl⟩
    | some device =>
      cases device with
      | none =>
        rw [hbackend] at hresult
        subst hresult
        exact Or.inl ⟨nofun, rfl⟩
      | some reply =>
        rw [hbackend] at hresult
        dsimp only [NNCompiledCache.setBackend] at hresult
        split at hresult
        · subst hresult
          exact Or.inl ⟨nofun, rfl⟩
        cases hinputs : serializeTensorsToBuffer c.inputTensorDescs with
        | error ret =>
          rw [hinputs] at hresult
          subst hresult
          rw [serializeTensorsToBuffer_eq_error hinputs]
          exact Or.inl ⟨nofun, rfl⟩
        | ok inputs =>
          cases houtputs : serializeTensorsToBuffer c.outputTensorDescs with
          | error ret =>
            rw [hinputs, houtputs] at hresult
            subst hresult
            rw [serializeTensorsToBuffer_eq_error houtputs]
            exact Or.inl ⟨nofun, rfl⟩
          | ok outputs =>
            obtain ⟨-, rfl⟩ := serializeTensorsToBuffer_eq_ok_iff.mp hinputs
            obtain ⟨-, rfl⟩ := serializeTensorsToBuffer_eq_ok_iff.mp houtputs
            rw [hinputs, houtputs] at hresult
            -- Nothing is left but the save itself, whose error is returned.
            refine Or.inr ⟨reply, preparedModel, preparedModel.exportModelCache.2, rfl, rfl,
              Prod.ext (not_ne_iff.mp hret) rfl, hversion, ?_⟩
            dsimp only at hresult
            generalize hsaved : (c.writerStore reply).save env.codec env.io fs
              (c.savedBuffers preparedModel.exportModelCache.2) c.cachePath c.cacheVersion = saved
            split at hresult
            · rename_i hwritten
              cases hsaved.symm.trans hwritten
              subst hresult
              exact ⟨rfl, fun _ => rfl⟩
            · rename_i hwritten
              cases hsaved.symm.trans hwritten
              subst hresult
              exact ⟨rfl, id⟩

/-- What `NormalBuild` does to the directory: nothing, or one `Save`. -/
theorem normalBuild_effect (env : BuildEnv) (model : Option CompilerModel)
    (c : NNCompiler TensorDesc) (fs : FileSystem) (mappings : Mappings) :
    ((normalBuild env model c fs mappings).fs = fs ∧
        (c.cachePath ≠ "" → (normalBuild env model c fs mappings).code ≠ .success)) ∨
      ∃ reply preparedModel caches, env.save.backend = some (some reply) ∧
        env.prepareModel = (.success, some preparedModel) ∧
        preparedModel.exportModelCache = (.success, caches) ∧
        c.cacheVersion ≠ invalidCacheVersion ∧
        (normalBuild env model c fs mappings).fs = ((c.writerStore reply).save env.save.codec
          env.save.io fs (c.savedBuffers caches) c.cachePath c.cacheVersion).2 ∧
        ((normalBuild env model c fs mappings).code = .success →
          ((c.writerStore reply).save env.save.codec env.save.io fs (c.savedBuffers caches)
            c.cachePath c.cacheVersion).1 = .success) := by
  unfold normalBuild
  dsimp only
  split
  · exact Or.inl ⟨rfl, nofun⟩
  split
  · exact Or.inl ⟨rfl, nofun⟩
  split
  · rename_i hsupported
    exact Or.inl ⟨rfl, fun _ => hsupported⟩
  split
  · rename_i hprepare
    exact Or.inl ⟨rfl, fun _ => hprepare⟩
  rename_i hprepare
  split
  · rename_i hpath
    rcases saveToCacheFile_effect env.save
      { c with preparedModel := env.prepareModel.2, isBuild := true } fs with
      ⟨hcode, hfs⟩ | ⟨reply, preparedModel, caches, hbackend, hprepared, hexport, hversion, hfs, hcode⟩
    · exact Or.inl ⟨hfs, fun _ => hcode⟩
    · exact Or.inr ⟨reply, preparedModel, caches, hbackend,
        Prod.ext (not_ne_iff.mp hprepare) hprepared, hexport, hversion, hfs, hcode⟩
  · rename_i hpath
    exact Or.inl ⟨rfl, fun h => absurd h hpath⟩

/-- What a build hands to `Save`: the buffers of the device and the descriptions of
the compiler, and the directory without the record if that has turned out invalid. -/
def BuildSave (env : BuildEnv) (c : NNCompiler TensorDesc) (fs : FileSystem) (mappings : Mappings)
    (store : NNCompiledCache) (fs₁ : FileSystem) (caches : List Bytes) : Prop :=
  ∃ out reply preparedModel exported,
    c.restoreFromCacheFile env.restore fs mappings = .ok out ∧
    out.code ≠ .success ∧ out.code ≠ .operationForbidden ∧
    env.prepareModel = (.success, some preparedModel) ∧
    preparedModel.exportModelCache = (.success, exported) ∧
    env.save.backend = some (some reply) ∧
    store = c.writerStore reply ∧
    fs₁ = (if out.code = .invalidFile then
      out.fs.remove c.cachePath (infoFileName c.extensionConfig.modelName) else out.fs) ∧
    caches = out.compiler.savedBuffers exported

/-- **What `OnlineBuild` does to the directory**: what its restore does, then it
may delete the record, and then it may make one call of `Save`. -/
theorem onlineBuild_effect {env : BuildEnv} {model : Option CompilerModel} {mappings : Mappings}
    {built : BuildOutcome} (h : onlineBuild env model c fs mappings = .ok built) :
    (∃ fs₁, RestoreEffect env.restore c fs fs₁ ∧
        (built.fs = fs₁ ∨
          built.fs = fs₁.remove c.cachePath (infoFileName c.extensionConfig.modelName))) ∨
      ∃ store fs₁ caches, BuildSave env c fs mappings store fs₁ caches ∧
        built.fs = (store.save env.save.codec env.save.io fs₁ caches c.cachePath c.cacheVersion).2 := by
  unfold onlineBuild at h
  obtain ⟨⟨ret, c', fs', mappings', call⟩, hrestored, h⟩ := bind_eq_ok h
  obtain ⟨⟨preparedModel, inputs, outputs, hcompiler⟩, heffect⟩ :=
    restoreFromCacheFile_effect hrestored
  dsimp only at hcompiler heffect h
  subst hcompiler
  dsimp only at h
  split at h
  · cases h
    exact Or.inl ⟨fs', heffect, Or.inl rfl⟩
  generalize hfs₁ : (if ret = .invalidFile then
    fs'.remove c.cachePath (infoFileName c.extensionConfig.modelName) else fs') = fs₁ at h
  have hleft : fs₁ = fs' ∨
      fs₁ = fs'.remove c.cachePath (infoFileName c.extensionConfig.modelName) := by
    rw [← hfs₁]
    split
    · exact Or.inr rfl
    · exact Or.inl rfl
  split at h
  · cases h
    exact Or.inl ⟨fs', heffect, hleft⟩
  rename_i hforbidden
  by_cases hret : ret = .success
  · rw [if_pos hret, if_pos rfl] at h
    cases h
    exact Or.inl ⟨fs', heffect, hleft⟩
  rw [if_neg hret] at h
  split at h
  · cases h
    exact Or.inl ⟨fs', heffect, hleft⟩
  cases h
  rcases normalBuild_effect env model
    { c with
      preparedModel := preparedModel, inputTensorDescs := inputs, outputTensorDescs := outputs }
    fs₁ mappings' with ⟨hfs, -⟩ | ⟨reply, preparedModel', exported, hbackend, hprepare, hexport, -, hfs, -⟩
  · rw [hfs]
    exact Or.inl ⟨fs', heffect, hleft⟩
  · exact Or.inr ⟨c.writerStore reply, fs₁, _, ⟨_, reply, preparedModel', exported, hrestored, hret,
      hforbidden, hprepare, hexport, hbackend, rfl, hfs₁.symm, rfl⟩, hfs⟩

end Save

/-! ## Without a model -/

section NoModel

variable {env : BuildEnv} {c : NNCompiler TensorDesc} {fs : FileSystem} {mappings : Mappings}

@[simp] theorem normalBuild_none (env : BuildEnv) (c : NNCompiler TensorDesc) (fs : FileSystem)
    (mappings : Mappings) :
    normalBuild env none c fs mappings = ⟨.invalidParameter, c, fs, mappings⟩ := rfl

/-- **A build without a model** is a restore, and the record is deleted when that
returns `OH_NN_INVALID_FILE`. -/
theorem build_noModel_eq {out : RestoreOutcome} (hbuild : c.isBuild = false)
    (hdevice : env.device = true) (hpath : fs.realpath c.cachePath ≠ none)
    (h : c.restoreFromCacheFile env.restore fs mappings = .ok out) :
    ∃ built, build env none c fs mappings = .ok built ∧
      built.fs = if out.code = .invalidFile then
        out.fs.remove c.cachePath (infoFileName c.extensionConfig.modelName) else out.fs := by
  have honline : build env none c fs mappings = onlineBuild env none c fs mappings := by
    unfold build
    rw [hbuild, hdevice]
    rfl
  rw [honline]
  by_cases hsuccess : out.code = .success
  · rw [onlineBuild_restored h hsuccess, hsuccess]
    exact ⟨_, rfl, rfl⟩
  by_cases hforbidden : out.code = .operationForbidden
  · rw [onlineBuild_forbidden h hforbidden, hforbidden]
    exact ⟨_, rfl, rfl⟩
  by_cases hinvalid : out.code = .invalidFile
  · rw [onlineBuild_invalidFile h hinvalid hbuild hpath, if_pos hinvalid]
    exact ⟨_, rfl, rfl⟩
  · rw [onlineBuild_failed h hbuild hsuccess hforbidden hinvalid, if_neg hinvalid]
    exact ⟨_, rfl, rfl⟩

/-- A fault of the restore is a fault of the build. -/
theorem build_noModel_fault {fault : Fault} (hbuild : c.isBuild = false)
    (hdevice : env.device = true) (h : c.restoreFromCacheFile env.restore fs mappings = .error fault) :
    build env none c fs mappings = .error fault := by
  unfold build
  rw [hbuild, hdevice]
  show onlineBuild env none c fs mappings = .error fault
  unfold onlineBuild
  rw [h, error_bind]

end NoModel

end NNCompiler

end NNRt
