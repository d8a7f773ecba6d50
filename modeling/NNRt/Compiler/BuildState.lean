import NNRt.Compiler.OnlineBuild
import NNRt.Executor.State
import NNRt.Lib.Run
import NNRt.Lib.UnorderedMap

/-!
# The states of a compiler

A compiler is given options, built and asked for executors, in any order and as
often as one likes. `IsBuild`, the codes that `Build` returns and the executors
should tell the same story.

- `settled_normalBuild` / `settled_onlineBuild`: when the code of a build and the
  fields it leaves agree, on each of its paths.
- `buildsAgree_iff`: **they agree in every state of a run exactly if all its
  builds settle.** A build that prepares its model and cannot save it does not.
-/

namespace NNRt

/-- The model a compiler is made with, and what is taken from it. -/
structure SourceModel extends CompilerModel where
  inputTensorDescs : List TensorDescPair
  outputTensorDescs : List TensorDescPair
  extensionConfig : ExtensionConfig

/-- The arguments of the constructors of `NNCompiler`. -/
structure Construction where
  /-- Whether `m_device` is there. -/
  device : Bool
  backendID : UInt64
  /-- Without a model, the compiler is to be restored from a cache. -/
  model : Option SourceModel

/-- The constructors of `NNCompiler`. -/
def Construction.compiler (k : Construction) : NNCompiler TensorDesc :=
  match k.model with
  | none => { backendID := k.backendID }
  | some model =>
    { backendID := k.backendID
      inputTensorDescs := model.inputTensorDescs
      outputTensorDescs := model.outputTensorDescs
      extensionConfig := model.extensionConfig }

namespace NNCompiler

/-! ## Options -/

/-- `SetCacheDir`; the device answers whether it supports caches. -/
def setCacheDir (device : Bool) (reply : ReturnCode × Bool) (cacheModelPath : String)
    (version : UInt32) (c : NNCompiler TensorDesc) : ReturnCode × NNCompiler TensorDesc :=
  if !device then (.operationForbidden, c)
  else if reply.1 ≠ .success then (reply.1, c)
  else if !reply.2 ∧ cacheModelPath ≠ "" then (.operationForbidden, c)
  else (.success, { c with cachePath := cacheModelPath, cacheVersion := version })

/-- `SetPerformance`; a number outside the enumeration is no mode. -/
def setPerformance (device : Bool) (reply : ReturnCode × Bool)
    (performance : Option PerformanceMode) (c : NNCompiler TensorDesc) :
    ReturnCode × NNCompiler TensorDesc :=
  if !device then (.operationForbidden, c)
  else if reply.1 ≠ .success then (.failed, c)
  else if !reply.2 ∧ performance ≠ some .none then (.operationForbidden, c)
  else
    match performance with
    | none => (.invalidParameter, c)
    | some performance => (.success, { c with performance := performance })

/-- `SetPriority`. -/
def setPriority (device : Bool) (reply : ReturnCode × Bool) (priority : Option Priority)
    (c : NNCompiler TensorDesc) : ReturnCode × NNCompiler TensorDesc :=
  if !device then (.operationForbidden, c)
  else if reply.1 ≠ .success then (reply.1, c)
  else if !reply.2 ∧ priority ≠ some .none then (.operationForbidden, c)
  else
    match priority with
    | none => (.invalidParameter, c)
    | some priority => (.success, { c with priority := priority })

/-- `SetEnableFp16`. -/
def setEnableFp16 (device : Bool) (reply : ReturnCode × Bool) (isFp16 : Bool)
    (c : NNCompiler TensorDesc) : ReturnCode × NNCompiler TensorDesc :=
  if !device then (.operationForbidden, c)
  else if reply.1 ≠ .success then (reply.1, c)
  else if !reply.2 ∧ isFp16 then (.operationForbidden, c)
  else (.success, { c with enableFp16 := isFp16 })

/-- A string of the bytes of an extension. -/
def stringOf (value : Bytes) : String :=
  String.ofList (value.map fun byte => Char.ofNat byte.toNat)

/-- `SetExtensionConfig`, which keeps a model name when the limit after it is empty. -/
def setExtensionConfig (configs : UnorderedMap String Bytes) (c : NNCompiler TensorDesc) :
    ReturnCode × NNCompiler TensorDesc :=
  match configs.lookup "ModelName" with
  | some [] => (.invalidParameter, c)
  | modelName =>
    let c := match modelName with
      | none => c
      | some value => { c with extensionConfig.modelName := stringOf value }
    let c := if "NPU_FM_SHARED" ∈ configs then { c with extensionConfig.isNpuFmShared := true } else c
    match configs.lookup "isExceedRamLimit" with
    | some [] => (.invalidParameter, c)
    | none => (.success, c)
    | some (value :: _) =>
      (.success, { c with extensionConfig.isExceedRamLimit := value = '1'.toNat.toUInt8 })

/-- `CreateExecutor`, which needs a device; `none` is a null pointer. -/
def executorOf (k : Construction) (c : NNCompiler TensorDesc) (w : World) (created : Bool) :
    Option NNExecutor :=
  if !k.device then none else (c.share w).1.createExecutor created

/-! ## Calls -/

/-- A call on a compiler, with what is outside it during the call. -/
inductive Call
  | setCacheDir (reply : ReturnCode × Bool) (cacheModelPath : String) (version : UInt32)
  | setPerformance (reply : ReturnCode × Bool) (performance : Option PerformanceMode)
  | setPriority (reply : ReturnCode × Bool) (priority : Option Priority)
  | setEnableFp16 (reply : ReturnCode × Bool) (isFp16 : Bool)
  | setExtensionConfig (configs : UnorderedMap String Bytes)
  /-- Others may have changed the directory since the last call. -/
  | build (env : BuildEnv) (fs : FileSystem) (mappings : Mappings)
  | createExecutor (created : Bool)

/-- A compiler with the codes its builds have returned. -/
structure History where
  compiler : NNCompiler TensorDesc
  codes : List ReturnCode := []

/-- `Build` of a compiler made by `k`. -/
def buildOf (k : Construction) (env : BuildEnv) (c : NNCompiler TensorDesc) (fs : FileSystem)
    (mappings : Mappings) : Except Fault BuildOutcome :=
  build { env with device := k.device } (k.model.map SourceModel.toCompilerModel) c fs mappings

/-- The compiler after the call of an option; other calls are no options. -/
def setOption (k : Construction) (c : NNCompiler TensorDesc) : Call → NNCompiler TensorDesc
  | .setCacheDir reply cacheModelPath version =>
    (setCacheDir k.device reply cacheModelPath version c).2
  | .setPerformance reply performance => (setPerformance k.device reply performance c).2
  | .setPriority reply priority => (setPriority k.device reply priority c).2
  | .setEnableFp16 reply isFp16 => (setEnableFp16 k.device reply isFp16 c).2
  | .setExtensionConfig configs => (setExtensionConfig configs c).2
  | .build _ _ _ => c
  | .createExecutor _ => c

/-- One call, whatever its code. -/
def step (k : Construction) (h : History) : Call → Except Fault History
  | .build env fs mappings =>
    match buildOf k env h.compiler fs mappings with
    | .error fault => .error fault
    | .ok out => .ok ⟨out.compiler, h.codes ++ [out.code]⟩
  | call => .ok { h with compiler := setOption k h.compiler call }

/-- What a compiler and the codes of its builds should have to do with each other. -/
structure BuildsAgree (k : Construction) (h : History) : Prop where
  isBuild : h.compiler.isBuild = true ↔ .success ∈ h.codes
  createExecutor : ∀ w created, (executorOf k h.compiler w created).isSome → .success ∈ h.codes
  /-- As long as no build has succeeded, the next one is not refused as already built. -/
  retry : .success ∉ h.codes → ∀ env fs mappings, buildOf k env h.compiler fs mappings =
    buildOf k env { h.compiler with isBuild := false } fs mappings

/-! ## The condition -/

/-- No executor is made of what a compiler has. -/
def Unusable (c : NNCompiler TensorDesc) : Prop :=
  c.inputTensorDescs = [] ∨ c.outputTensorDescs = [] ∨ c.preparedModel = none

/-- `m_preparedModel` after a restore that has failed: the device may have set it. -/
def preparedByRestore (env : CacheEnv) (c : NNCompiler TensorDesc) (out : RestoreOutcome) :
    Option PreparedModel :=
  if out.prepareCall.isSome then env.prepare.2.1 else c.preparedModel

/-- Exactly one of the graphs is there. -/
def HasGraph (model : Option CompilerModel) : Prop :=
  ∃ graphs, model = some graphs ∧ (graphs.liteGraph.isSome ↔ graphs.metaGraph = false)

/-- The model of a compiler goes to `PrepareModel`. -/
def Offered (env : BuildEnv) (model : Option CompilerModel) : Prop :=
  HasGraph model ∧ isSupportedModel env = .success

/-- `NormalBuild` of a compiler: a model that is prepared is saved as well, and
otherwise the compiler is of no use. -/
structure NormalSettles (env : BuildEnv) (model : Option CompilerModel) (c : NNCompiler TensorDesc)
    (fs : FileSystem) : Prop where
  notOffered : ¬ Offered env model → Unusable c
  notPrepared : Offered env model → env.prepareModel.1 ≠ .success →
    Unusable { c with preparedModel := env.prepareModel.2 }
  saved : Offered env model → env.prepareModel.1 = .success → c.cachePath ≠ "" →
    (saveToCacheFile env.save { c with preparedModel := env.prepareModel.2 } fs).1 = .success

/-- A failed restore ends the build: it is forbidden, or the directory of the
invalid record is gone. -/
def EndsBuild (c : NNCompiler TensorDesc) (fs : FileSystem) (out : RestoreOutcome) : Prop :=
  out.code = .operationForbidden ∨ out.code = .invalidFile ∧ fs.realpath c.cachePath = none

/-- The directory a normal build finds after a failed restore. -/
def leftByRestore (c : NNCompiler TensorDesc) (out : RestoreOutcome) : FileSystem :=
  if out.code = .invalidFile then
    out.fs.remove c.cachePath (infoFileName c.extensionConfig.modelName)
  else out.fs

/-- `OnlineBuild` after a failed restore. -/
structure RestoreSettles (env : BuildEnv) (model : Option CompilerModel)
    (c : NNCompiler TensorDesc) (fs : FileSystem) (out : RestoreOutcome) : Prop where
  ended : EndsBuild c fs out →
    Unusable { c with preparedModel := preparedByRestore env.restore c out }
  built : ¬ EndsBuild c fs out →
    NormalSettles env model { c with preparedModel := preparedByRestore env.restore c out }
      (leftByRestore c out)

/-- `OnlineBuild` of a compiler. -/
def OnlineSettles (env : BuildEnv) (model : Option CompilerModel) (c : NNCompiler TensorDesc)
    (fs : FileSystem) (mappings : Mappings) : Prop :=
  ∀ out, c.restoreFromCacheFile env.restore fs mappings = .ok out → out.code ≠ .success →
    RestoreSettles env model c fs out

/-- A build whose code agrees with what it leaves. -/
def BuildSettles (env : BuildEnv) (model : Option CompilerModel) (c : NNCompiler TensorDesc)
    (fs : FileSystem) (mappings : Mappings) : Prop :=
  checkModelParameter model = .success →
    (isOfflineModel model = (.success, true) → env.prepareOfflineModel.1 ≠ .success →
      Unusable { c with preparedModel := env.prepareOfflineModel.2 }) ∧
    (isOfflineModel model = (.success, false) → OnlineSettles env model c fs mappings)

/-- The condition on a call: a build of a compiler that is not built settles. -/
def Settles (k : Construction) (h : History) : Call → Prop
  | .build env fs mappings => k.device = true → h.compiler.isBuild = false →
    BuildSettles { env with device := k.device } (k.model.map SourceModel.toCompilerModel)
      h.compiler fs mappings
  | _ => True

/-! ## One build -/

/-- The code of a build and the compiler it leaves agree. -/
def Settled (out : BuildOutcome) : Prop :=
  (out.compiler.isBuild = true ↔ out.code = .success) ∧
    (out.code ≠ .success → Unusable out.compiler)

/-- A build that is refused settles if the compiler is of no use. -/
theorem settled_error {ret : ReturnCode} {c : NNCompiler TensorDesc} {fs : FileSystem}
    {mappings : Mappings} (hret : ret ≠ .success) (hbuild : c.isBuild = false) :
    Settled ⟨ret, c, fs, mappings⟩ ↔ Unusable c := by
  unfold Settled
  constructor
  · rintro ⟨-, hunusable⟩
    exact hunusable hret
  · intro hunusable
    refine ⟨iff_of_false ?_ hret, fun _ => hunusable⟩
    rw [hbuild]
    exact Bool.false_ne_true

theorem settled_success {c : NNCompiler TensorDesc} {fs : FileSystem} {mappings : Mappings}
    (hbuild : c.isBuild = true) : Settled ⟨.success, c, fs, mappings⟩ :=
  ⟨iff_of_true hbuild rfl, fun hne => absurd rfl hne⟩

section Build

variable {env : BuildEnv} {model : Option CompilerModel} {c : NNCompiler TensorDesc}
  {fs : FileSystem} {mappings : Mappings}

theorem normalBuild_noGraph (hgraph : ¬ HasGraph model) :
    normalBuild env model c fs mappings = ⟨.invalidParameter, c, fs, mappings⟩ := by
  cases model with
  | none => rfl
  | some graphs =>
    obtain ⟨liteGraph, metaGraph⟩ := graphs
    have hsame : ¬ (liteGraph.isSome = true ↔ metaGraph = false) := fun h => hgraph ⟨_, rfl, h⟩
    cases liteGraph <;> cases metaGraph <;> simp_all [normalBuild]

/-- The checks of the graphs are passed. -/
theorem normalBuild_graph (hgraph : HasGraph model) :
    normalBuild env model c fs mappings =
      if isSupportedModel env ≠ .success then ⟨isSupportedModel env, c, fs, mappings⟩
      else if env.prepareModel.1 ≠ .success then
        ⟨env.prepareModel.1, { c with preparedModel := env.prepareModel.2 }, fs, mappings⟩
      else if c.cachePath ≠ "" then
        ⟨(saveToCacheFile env.save { c with preparedModel := env.prepareModel.2 } fs).1,
          { c with preparedModel := env.prepareModel.2, isBuild := true },
          (saveToCacheFile env.save { c with preparedModel := env.prepareModel.2 } fs).2, mappings⟩
      else
        ⟨.success, { c with preparedModel := env.prepareModel.2, isBuild := true }, fs, mappings⟩ := by
  obtain ⟨⟨liteGraph, metaGraph⟩, rfl, hone⟩ := hgraph
  cases liteGraph <;> cases metaGraph <;> first | rfl | simp at hone

/-- **`NormalBuild`** sets `m_isBuild` before it saves. -/
theorem settled_normalBuild (hbuild : c.isBuild = false) :
    Settled (normalBuild env model c fs mappings) ↔ NormalSettles env model c fs := by
  by_cases hoffered : Offered env model
  · rw [normalBuild_graph hoffered.1, if_neg (not_not.mpr hoffered.2)]
    by_cases hprepare : env.prepareModel.1 = .success
    · rw [if_neg (not_not.mpr hprepare)]
      split
      · rename_i hpath
        constructor
        · intro hsettled
          have hsaved := hsettled.1.mp rfl
          exact ⟨fun hnot => absurd hoffered hnot, fun _ hnot => absurd hprepare hnot,
            fun _ _ _ => hsaved⟩
        · intro hsettles
          have hsaved := hsettles.saved hoffered hprepare hpath
          exact ⟨iff_of_true rfl hsaved, fun hnot => absurd hsaved hnot⟩
      · rename_i hpath
        refine iff_of_true (settled_success rfl) ?_
        exact ⟨fun hnot => absurd hoffered hnot, fun _ hnot => absurd hprepare hnot,
          fun _ _ hnot => absurd hnot hpath⟩
    · have hleft : ({ c with preparedModel := env.prepareModel.2 } : NNCompiler TensorDesc).isBuild
          = false := hbuild
      rw [if_pos hprepare, settled_error hprepare hleft]
      constructor
      · intro hunusable
        exact ⟨fun hnot => absurd hoffered hnot, fun _ _ => hunusable,
          fun _ hnot => absurd hnot hprepare⟩
      · exact fun hsettles => hsettles.notPrepared hoffered hprepare
  · have hrefused : ∃ ret, ret ≠ .success ∧
        normalBuild env model c fs mappings = ⟨ret, c, fs, mappings⟩ := by
      by_cases hgraph : HasGraph model
      · have hsupported : isSupportedModel env ≠ .success := fun h => hoffered ⟨hgraph, h⟩
        exact ⟨_, hsupported, by rw [normalBuild_graph hgraph, if_pos hsupported]⟩
      · exact ⟨.invalidParameter, nofun, normalBuild_noGraph hgraph⟩
    obtain ⟨ret, hret, heq⟩ := hrefused
    rw [heq, settled_error hret hbuild]
    constructor
    · intro hunusable
      exact ⟨fun _ => hunusable, fun h => absurd h hoffered, fun h => absurd h hoffered⟩
    · exact fun hsettles => hsettles.notOffered hoffered

/-- A restore that fails sets the prepared model only, to what the device has answered. -/
theorem restoreFromCaches_error {cacheEnv : CacheEnv} {store : NNCompiledCache}
    {caches : List Buffer} {out : RestoreOutcome}
    (h : restoreFromCaches cacheEnv c fs store caches mappings = .ok out)
    (hcode : out.code ≠ .success) :
    out.compiler = { c with preparedModel := preparedByRestore cacheEnv c out } := by
  unfold restoreFromCaches at h
  dsimp only at h
  split at h
  · cases h
  split at h
  · cases h
  · cases h
    rfl
  split at h
  · cases h
  · cases h
    rfl
  split at h
  · cases h
    rfl
  split at h
  · obtain ⟨⟨ret, fs'⟩, hupdate, h⟩ := bind_eq_ok h
    dsimp only at h
    split at h
    · cases h
      rfl
    · cases h
      exact absurd rfl hcode
  · cases h
    exact absurd rfl hcode

theorem restoreFromCacheFile_error {cacheEnv : CacheEnv} {out : RestoreOutcome}
    (h : c.restoreFromCacheFile cacheEnv fs mappings = .ok out) (hcode : out.code ≠ .success) :
    out.compiler = { c with preparedModel := preparedByRestore cacheEnv c out } := by
  unfold restoreFromCacheFile at h
  split at h
  · cases h
    rfl
  split at h
  · cases h
    rfl
  split at h
  · cases h
    rfl
  split at h
  · obtain ⟨⟨ret, caches, mappings'⟩, hrestore, h⟩ := bind_eq_ok h
    dsimp only at h
    split at h
    · cases h
      rfl
    · exact restoreFromCaches_error h hcode
  · cases h
    rfl

/-- A restore that ends the build leaves its own code, or another error. -/
theorem onlineBuild_ended {restored : RestoreOutcome}
    (h : c.restoreFromCacheFile env.restore fs mappings = .ok restored)
    (hended : EndsBuild c fs restored) :
    ∃ ret, ret ≠ .success ∧ onlineBuild env model c fs mappings =
      .ok ⟨ret, restored.compiler, restored.fs, restored.mappings⟩ := by
  rcases hended with hforbidden | ⟨hinvalid, hpath⟩
  · exact ⟨.operationForbidden, nofun, onlineBuild_forbidden h hforbidden⟩
  · obtain ⟨⟨preparedModel, inputs, outputs, hcompiler⟩, -⟩ := restoreFromCacheFile_effect h
    have hrealpath := restoreFromCacheFile_realpath h
    obtain ⟨ret, c', fs', mappings', call⟩ := restored
    obtain rfl : ret = .invalidFile := hinvalid
    dsimp only at hcompiler hrealpath ⊢
    subst hcompiler
    refine ⟨.invalidParameter, nofun, ?_⟩
    unfold onlineBuild
    rw [h, ok_bind]
    dsimp only
    rw [if_pos ⟨rfl, by rw [hrealpath]; exact hpath⟩]
    rfl

/-- Any other failed restore is followed by a normal build. -/
theorem onlineBuild_built {restored : RestoreOutcome} (hbuild : c.isBuild = false)
    (h : c.restoreFromCacheFile env.restore fs mappings = .ok restored)
    (hsuccess : restored.code ≠ .success) (hended : ¬ EndsBuild c fs restored) :
    onlineBuild env model c fs mappings = .ok (normalBuild env model restored.compiler
      (leftByRestore c restored) restored.mappings) := by
  unfold leftByRestore
  have hforbidden : restored.code ≠ .operationForbidden := fun h => hended (Or.inl h)
  by_cases hinvalid : restored.code = .invalidFile
  · have hpath : fs.realpath c.cachePath ≠ none := fun h => hended (Or.inr ⟨hinvalid, h⟩)
    rw [onlineBuild_invalidFile h hinvalid hbuild hpath, if_pos hinvalid]
  · rw [onlineBuild_failed h hbuild hsuccess hforbidden hinvalid, if_neg hinvalid]

/-- **`OnlineBuild`** ends with its restore, or as the normal build after it. -/
theorem settled_onlineBuild {out : BuildOutcome} (hbuild : c.isBuild = false)
    (h : onlineBuild env model c fs mappings = .ok out) :
    Settled out ↔ OnlineSettles env model c fs mappings := by
  obtain ⟨restored, hrestored⟩ :
      ∃ restored, c.restoreFromCacheFile env.restore fs mappings = .ok restored := by
    unfold onlineBuild at h
    obtain ⟨restored, hrestored, -⟩ := bind_eq_ok h
    exact ⟨restored, hrestored⟩
  have hiff : OnlineSettles env model c fs mappings ↔
      (restored.code ≠ .success → RestoreSettles env model c fs restored) := by
    constructor
    · exact fun hall => hall restored hrestored
    · intro hone out' hout' hcode
      cases hrestored.symm.trans hout'
      exact hone hcode
  rw [hiff]
  by_cases hsuccess : restored.code = .success
  · rw [onlineBuild_restored hrestored hsuccess] at h
    cases h
    exact iff_of_true (settled_success rfl) fun hnot => absurd hsuccess hnot
  · have hcompiler := restoreFromCacheFile_error hrestored hsuccess
    have hleft : ({ c with preparedModel := preparedByRestore env.restore c restored } :
        NNCompiler TensorDesc).isBuild = false := hbuild
    by_cases hended : EndsBuild c fs restored
    · obtain ⟨ret, hret, heq⟩ := onlineBuild_ended hrestored hended
      rw [heq, hcompiler] at h
      cases h
      rw [settled_error hret hleft]
      constructor
      · exact fun hunusable _ => ⟨fun _ => hunusable, fun hnot => absurd hended hnot⟩
      · exact fun hsettles => (hsettles hsuccess).ended hended
    · rw [onlineBuild_built hbuild hrestored hsuccess hended, hcompiler] at h
      cases h
      rw [settled_normalBuild hleft]
      constructor
      · exact fun hnormal _ => ⟨fun hnot => absurd hnot hended, fun _ => hnormal⟩
      · exact fun hsettles => (hsettles hsuccess).built hended

/-- **`Build`** of a compiler that is not built and of no use. -/
theorem settled_build {out : BuildOutcome} (hbuild : c.isBuild = false) (hdevice : env.device = true)
    (hunusable : Unusable c) (h : build env model c fs mappings = .ok out) :
    Settled out ↔ BuildSettles env model c fs mappings := by
  unfold build at h
  rw [if_neg (by rw [hbuild]; exact Bool.false_ne_true), hdevice, if_neg (by decide)] at h
  unfold BuildSettles
  by_cases hparameter : checkModelParameter model = .success
  · rw [if_neg (not_not.mpr hparameter)] at h
    cases hoffline : isOfflineModel model with
    | mk ret offline =>
      rw [hoffline] at h
      by_cases hret : ret = .success
      · subst hret
        cases offline with
        | true =>
          -- `isBuild` is set only when the device has taken the offline model.
          generalize env.prepareOfflineModel = prepared at h ⊢
          obtain ⟨ret, preparedModel⟩ := prepared
          dsimp only at h ⊢
          by_cases hprepare : ret = .success
          · rw [if_neg (not_not.mpr hprepare)] at h
            cases h
            refine iff_of_true (settled_success rfl) fun _ => ⟨fun _ hnot => absurd hprepare hnot, ?_⟩
            rintro ⟨⟩
          · have hleft : ({ c with preparedModel := preparedModel } : NNCompiler TensorDesc).isBuild
                = false := hbuild
            rw [if_pos hprepare] at h
            cases h
            rw [settled_error hprepare hleft]
            constructor
            · intro hunusable' _
              refine ⟨fun _ _ => hunusable', ?_⟩
              rintro ⟨⟩
            · exact fun hsettles => (hsettles hparameter).1 rfl hprepare
        | false =>
          rw [settled_onlineBuild hbuild h]
          constructor
          · intro honline _
            refine ⟨?_, fun _ => honline⟩
            rintro ⟨⟩
          · exact fun hsettles => (hsettles hparameter).2 rfl
      · have hended : out = ⟨ret, c, fs, mappings⟩ := by
          cases ret <;> first | exact absurd rfl hret | exact (Except.ok.inj h).symm
        rw [hended, settled_error hret hbuild]
        refine iff_of_true hunusable fun _ => ⟨?_, ?_⟩
        · intro heq
          exact absurd (congrArg Prod.fst heq) hret
        · intro heq
          exact absurd (congrArg Prod.fst heq) hret
  · rw [if_pos hparameter] at h
    cases h
    rw [settled_error hparameter hbuild]
    exact iff_of_true hunusable fun hnot => absurd hnot hparameter

end Build

/-! ## Runs -/

section Runs

variable {k : Construction} {h h' : History}

/-- An executor is made exactly of a compiler that is of use. -/
theorem executorOf_isSome_iff {c : NNCompiler TensorDesc} {w : World} {created : Bool} :
    (executorOf k c w created).isSome = true ↔ k.device = true ∧ created = true ∧ ¬ Unusable c := by
  have hinputs : (c.share w).1.inputTensorDescs = [] ↔ c.inputTensorDescs = [] := List.mapIdx_eq_nil_iff
  have houtputs : (c.share w).1.outputTensorDescs = [] ↔ c.outputTensorDescs = [] :=
    List.mapIdx_eq_nil_iff
  have hprepared : (c.share w).1.preparedModel = c.preparedModel := rfl
  unfold executorOf createExecutor Unusable
  simp only [hprepared, List.isEmpty_iff, hinputs, houtputs]
  cases k.device with
  | false => simp
  | true =>
    cases c.preparedModel with
    | none => simp
    | some preparedModel =>
      by_cases hin : c.inputTensorDescs = []
      · simp [hin]
      · by_cases hout : c.outputTensorDescs = []
        · simp [hin, hout]
        · cases created <;> simp [hin, hout]

/-- The fields that a build sets are left. -/
structure SameBuild (c c' : NNCompiler TensorDesc) : Prop where
  isBuild : c'.isBuild = c.isBuild
  preparedModel : c'.preparedModel = c.preparedModel
  inputTensorDescs : c'.inputTensorDescs = c.inputTensorDescs
  outputTensorDescs : c'.outputTensorDescs = c.outputTensorDescs

theorem SameBuild.unusable_iff {c c' : NNCompiler TensorDesc} (h : SameBuild c c') :
    Unusable c' ↔ Unusable c := by
  unfold Unusable
  rw [h.preparedModel, h.inputTensorDescs, h.outputTensorDescs]

/-- The options are other fields. -/
theorem sameBuild_setOption (k : Construction) (c : NNCompiler TensorDesc) (call : Call) :
    SameBuild c (setOption k c call) := by
  have hrefl : SameBuild c c := ⟨rfl, rfl, rfl, rfl⟩
  cases call with
  | setCacheDir reply cacheModelPath version =>
    show SameBuild c (setCacheDir k.device reply cacheModelPath version c).2
    unfold setCacheDir
    split_ifs <;> first | exact hrefl | exact ⟨rfl, rfl, rfl, rfl⟩
  | setPerformance reply performance =>
    show SameBuild c (setPerformance k.device reply performance c).2
    unfold setPerformance
    cases performance <;> split_ifs <;> first | exact hrefl | exact ⟨rfl, rfl, rfl, rfl⟩
  | setPriority reply priority =>
    show SameBuild c (setPriority k.device reply priority c).2
    unfold setPriority
    cases priority <;> split_ifs <;> first | exact hrefl | exact ⟨rfl, rfl, rfl, rfl⟩
  | setEnableFp16 reply isFp16 =>
    show SameBuild c (setEnableFp16 k.device reply isFp16 c).2
    unfold setEnableFp16
    split_ifs <;> first | exact hrefl | exact ⟨rfl, rfl, rfl, rfl⟩
  | setExtensionConfig configs =>
    show SameBuild c (setExtensionConfig configs c).2
    unfold setExtensionConfig
    split
    · exact hrefl
    · -- What is assigned is the extension config, or nothing.
      generalize configs.lookup "isExceedRamLimit" = limit
      cases configs.lookup "ModelName" <;> dsimp only <;> split_ifs <;>
        rcases limit with _ | _ | _ <;> exact ⟨rfl, rfl, rfl, rfl⟩
  | build env fs mappings => exact hrefl
  | createExecutor created => exact hrefl

/-- `Build` refuses a compiler that is built, and one without a device. -/
theorem buildOf_refused {env : BuildEnv} {c : NNCompiler TensorDesc} {fs : FileSystem}
    {mappings : Mappings} (hrefused : c.isBuild = true ∨ k.device = false) :
    buildOf k env c fs mappings = .ok ⟨.operationForbidden, c, fs, mappings⟩ := by
  unfold buildOf build
  rcases hrefused with hbuild | hdevice
  · rw [if_pos hbuild]
  · split
    · rfl
    · rw [hdevice]
      rfl

/-- What the agreement is about, as long as no build has succeeded. -/
theorem buildsAgree_iff_unusable (hsuccess : .success ∉ h.codes) :
    BuildsAgree k h ↔ h.compiler.isBuild = false ∧ (k.device = true → Unusable h.compiler) := by
  constructor
  · rintro ⟨hbuild, hexecutor, -⟩
    refine ⟨Bool.not_eq_true _ ▸ fun heq => hsuccess (hbuild.mp heq), fun hdevice => ?_⟩
    by_contra hnot
    exact hsuccess (hexecutor {} true (executorOf_isSome_iff.mpr ⟨hdevice, rfl, hnot⟩))
  · rintro ⟨hbuild, hunusable⟩
    refine ⟨iff_of_false ?_ hsuccess, ?_, ?_⟩
    · rw [hbuild]
      exact Bool.false_ne_true
    · intro w created hsome
      obtain ⟨hdevice, -, hnot⟩ := executorOf_isSome_iff.mp hsome
      exact absurd (hunusable hdevice) hnot
    · intro _ env fs mappings
      rw [← hbuild]

/-- Once a build has succeeded, only `IsBuild` has to agree. -/
theorem buildsAgree_iff_isBuild (hsuccess : .success ∈ h.codes) :
    BuildsAgree k h ↔ h.compiler.isBuild = true := by
  constructor
  · exact fun hagree => hagree.isBuild.mpr hsuccess
  · intro hbuild
    exact ⟨iff_of_true hbuild hsuccess, fun _ _ _ => hsuccess, fun hnot => absurd hsuccess hnot⟩

/-- The agreement is about nothing else. -/
theorem BuildsAgree.of_same (hagree : BuildsAgree k h) (hsame : SameBuild h.compiler h'.compiler)
    (hcodes : .success ∈ h'.codes ↔ .success ∈ h.codes) : BuildsAgree k h' := by
  by_cases hsuccess : .success ∈ h.codes
  · rw [buildsAgree_iff_isBuild hsuccess] at hagree
    rw [buildsAgree_iff_isBuild (hcodes.mpr hsuccess), hsame.isBuild]
    exact hagree
  · rw [buildsAgree_iff_unusable hsuccess] at hagree
    rw [buildsAgree_iff_unusable (mt hcodes.mp hsuccess), hsame.isBuild, hsame.unusable_iff]
    exact hagree

/-- The first build that is not refused decides. -/
theorem buildsAgree_build_iff {out : BuildOutcome} (hdevice : k.device = true)
    (hsuccess : .success ∉ h.codes) :
    BuildsAgree k ⟨out.compiler, h.codes ++ [out.code]⟩ ↔ Settled out := by
  unfold Settled
  by_cases hcode : out.code = .success
  · have hmem : ReturnCode.success ∈ h.codes ++ [out.code] := by
      rw [hcode]
      exact List.mem_append_right _ List.mem_cons_self
    rw [buildsAgree_iff_isBuild hmem]
    constructor
    · exact fun hbuild => ⟨iff_of_true hbuild hcode, fun hnot => absurd hcode hnot⟩
    · exact fun hsettled => hsettled.1.mpr hcode
  · have hmem : ReturnCode.success ∉ h.codes ++ [out.code] := by
      rw [List.mem_append, List.mem_singleton]
      rintro (hmem | heq)
      · exact hsuccess hmem
      · exact hcode heq.symm
    rw [buildsAgree_iff_unusable hmem]
    constructor
    · rintro ⟨hbuild, hunusable⟩
      refine ⟨iff_of_false ?_ hcode, fun _ => hunusable hdevice⟩
      rw [hbuild]
      exact Bool.false_ne_true
    · rintro ⟨hiff, hunusable⟩
      exact ⟨Bool.eq_false_iff.mpr (mt hiff.mp hcode), fun _ => hunusable hcode⟩

/-- **One call** keeps the agreement exactly if it settles. -/
theorem buildsAgree_step_iff {call : Call} (hagree : BuildsAgree k h)
    (hstep : step k h call = .ok h') : BuildsAgree k h' ↔ Settles k h call := by
  have hoption : ∀ call, step k h call = .ok { h with compiler := setOption k h.compiler call } →
      step k h call = .ok h' → BuildsAgree k h' := by
    intro call heq hstep
    cases heq.symm.trans hstep
    exact hagree.of_same (sameBuild_setOption k h.compiler call) Iff.rfl
  cases call with
  | build env fs mappings =>
    dsimp only [step] at hstep
    cases hout : buildOf k env h.compiler fs mappings with
    | error fault =>
      rw [hout] at hstep
      cases hstep
    | ok out =>
      rw [hout] at hstep
      cases hstep
      by_cases hrefused : h.compiler.isBuild = true ∨ k.device = false
      · cases (buildOf_refused hrefused).symm.trans hout
        have hcodes : ReturnCode.success ∈ h.codes ++ [.operationForbidden] ↔
            .success ∈ h.codes := by
          simp
        refine iff_of_true (hagree.of_same ⟨rfl, rfl, rfl, rfl⟩ hcodes) ?_
        intro hdevice hbuild
        rcases hrefused with hbuild' | hdevice'
        · exact absurd (hbuild'.symm.trans hbuild) (by decide)
        · exact absurd (hdevice'.symm.trans hdevice) (by decide)
      · have hbuild : h.compiler.isBuild = false :=
          Bool.eq_false_iff.mpr fun hbuild => hrefused (Or.inl hbuild)
        have hdevice : k.device = true := by
          by_contra hdevice
          exact hrefused (Or.inr (Bool.eq_false_iff.mpr hdevice))
        have hsuccess : .success ∉ h.codes := by
          rw [← hagree.isBuild, hbuild]
          exact Bool.false_ne_true
        have hunusable := ((buildsAgree_iff_unusable hsuccess).mp hagree).2 hdevice
        rw [buildsAgree_build_iff hdevice hsuccess]
        have hsettled := settled_build hbuild hdevice hunusable hout
        exact hsettled.trans ⟨fun h _ _ => h, fun h => h hdevice hbuild⟩
  | setCacheDir reply cacheModelPath version =>
    exact iff_of_true (hoption _ rfl hstep) trivial
  | setPerformance reply performance => exact iff_of_true (hoption _ rfl hstep) trivial
  | setPriority reply priority => exact iff_of_true (hoption _ rfl hstep) trivial
  | setEnableFp16 reply isFp16 => exact iff_of_true (hoption _ rfl hstep) trivial
  | setExtensionConfig configs => exact iff_of_true (hoption _ rfl hstep) trivial
  | createExecutor created => exact iff_of_true (hoption _ rfl hstep) trivial

/-- **In every state of a run the flag, the codes and the executors agree exactly
if all its builds settle.** -/
theorem buildsAgree_iff {calls : List Call} (hrun : Run.exec (step k) ⟨k.compiler, []⟩ calls = .ok h) :
    (∀ before, before <+: calls → ∀ h', Run.exec (step k) ⟨k.compiler, []⟩ before = .ok h' →
      BuildsAgree k h') ↔ Run.Meets (step k) (Settles k) ⟨k.compiler, []⟩ calls := by
  have hbuild : k.compiler.isBuild = false ∧ k.compiler.preparedModel = none := by
    unfold Construction.compiler
    cases k.model <;> exact ⟨rfl, rfl⟩
  refine Run.prefixes_iff_meets (I := fun _ => True) (fun _ _ _ _ _ => trivial)
    (fun _ _ _ _ hagree hstep => buildsAgree_step_iff hagree hstep) trivial ?_ hrun
  rw [buildsAgree_iff_unusable (List.not_mem_nil)]
  exact ⟨hbuild.1, fun _ => Or.inr (Or.inr hbuild.2)⟩

end Runs

/-- A compiler of a meta graph, with the descriptions of one input and one output. -/
def metaConstruction : Construction where
  device := true
  backendID := 1
  model := some {
    liteGraph := none
    metaGraph := true
    inputTensorDescs := [(TensorDesc.floats 2, 0)]
    outputTensorDescs := [(TensorDesc.floats 3, 0)]
    extensionConfig := { modelName := "m" } }

/-- A device that prepares any model and exports no cache, and an empty directory. -/
def exportFails : Call :=
  .build {
    restore := { codec := .compact, backend := some (some ⟨.success, 3⟩) }
    save := { codec := .compact, backend := some (some ⟨.success, 3⟩) }
    prepareModel := (.success, some { id := 1, exportModelCache := (.failed, []) }) }
    (FileSystem.single "/data" dataDir_ne) []

/-- The options of the run: a cache in `/data`, of version 1. -/
def useCache : Call := .setCacheDir (.success, true) "/data" 1

/-- Without a cache the same device is good enough. -/
theorem buildsAgree_iff_noCache : ∃ h, Run.exec (step metaConstruction)
      ⟨metaConstruction.compiler, []⟩ [exportFails, .createExecutor true] = .ok h ∧
    ((∀ before, before <+: [exportFails, .createExecutor true] → ∀ h',
      Run.exec (step metaConstruction) ⟨metaConstruction.compiler, []⟩ before = .ok h' →
        BuildsAgree metaConstruction h') ↔
      Run.Meets (step metaConstruction) (Settles metaConstruction)
        ⟨metaConstruction.compiler, []⟩ [exportFails, .createExecutor true]) := by
  have hrun : ∃ h, Run.exec (step metaConstruction) ⟨metaConstruction.compiler, []⟩
      [exportFails, .createExecutor true] = .ok h := ⟨_, rfl⟩
  obtain ⟨h, hrun⟩ := hrun
  exact ⟨h, hrun, buildsAgree_iff hrun⟩

/-- The one build has failed, for want of a cache to save. The compiler is built
all the same: it makes executors and refuses the next build. -/
theorem failedBuild_isBuild : ∃ h, Run.exec (step metaConstruction)
      ⟨metaConstruction.compiler, []⟩ [useCache, exportFails] = .ok h ∧
    h.codes = [.failed] ∧ h.compiler.isBuild = true ∧
    (executorOf metaConstruction h.compiler {} true).isSome ∧
    (∀ env fs mappings, buildOf metaConstruction env h.compiler fs mappings =
      .ok ⟨.operationForbidden, h.compiler, fs, mappings⟩) ∧
    ¬ BuildsAgree metaConstruction h := by
  have hrun : ∃ h, Run.exec (step metaConstruction) ⟨metaConstruction.compiler, []⟩
      [useCache, exportFails] = .ok h ∧ h.codes = [.failed] ∧ h.compiler.isBuild = true ∧
      (executorOf metaConstruction h.compiler {} true).isSome := ⟨_, rfl, rfl, rfl, rfl⟩
  obtain ⟨h, hrun, hcodes, hbuild, hexecutor⟩ := hrun
  refine ⟨h, hrun, hcodes, hbuild, hexecutor, fun _ _ _ => buildOf_refused (Or.inl hbuild),
    fun hagree => ?_⟩
  have hmem := hagree.isBuild.mp hbuild
  rw [hcodes] at hmem
  exact absurd hmem (by decide)

end NNCompiler

end NNRt
