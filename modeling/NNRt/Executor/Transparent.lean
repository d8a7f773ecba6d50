import NNRt.Compiler.SaveRestore
import NNRt.Executor.Agreement
import NNRt.Executor.Bounds

/-!
# Unloading is not noticed

A compiler has saved its model; its executor may drop the model at any time, and
`RunSync` brings it back from the directory.

- `reloadHands`: what `Reload` hands to the device; `reloadHands_isSome_iff`: that it does.
- `reload_saved`: **after any calls, a reload hands the device the buffers it exported when
  the model was saved**, and the executor gets the descriptions of the compiler back.
- `tensorsWith_alike`: a run of the tensors does not depend on what descriptions say.
- `unloads_unseen`: **a run with unloads returns the codes, runs the tensors and leaves the
  user's tensors as the run without them.**
-/

namespace NNRt

/-- What references and types stand for. -/
def World.described (w : World) (refs : DescRefs) : List (TensorDesc × UInt32) :=
  refs.map fun ref => (w.desc ref.1, ref.2)

namespace NNExecutor

/-! ## What does not change -/

/-- What an executor keeps from its compiler for good. -/
def origin (e : NNExecutor) : UInt64 × String × UInt32 × ExtensionConfig × ModelConfig :=
  (e.backendID, e.cachePath, e.cacheVersion, e.extensionConfig,
    ⟨e.enableFp16, e.performance, e.priority, e.extensionConfig.isNpuFmShared⟩)

section Origin

variable {e e' : NNExecutor} {w w' : World} {env : ExecutorEnv} {ret : ReturnCode}

theorem reload_origin {env : ReloadEnv} (h : e.reload w env = .ok (ret, e', w')) :
    e'.origin = e.origin := by
  cases reload_reloaded h with
  | refused => rfl
  | unprepared => rfl
  | prepared => rfl

theorem tensorsWith_origin {setDims : SetDims} {inputTensors outputTensors : List (Option Nat)}
    (h : e.tensorsWith setDims w env inputTensors outputTensors = .ok (ret, e', w')) :
    e'.origin = e.origin := by
  cases tensorsWith_ran h with
  | refused => rfl
  | failed => rfl
  | reported =>
    unfold posted
    split
    · rfl
    · rfl

theorem syncWith_origin {runTensors : NNExecutor → World → Outcome} {env : ReloadEnv}
    {inputTensors outputTensors : List (Option Nat)}
    (hrun : ∀ e w ret e' w', runTensors e w = .ok (ret, e', w') → e'.origin = e.origin)
    (h : syncWith runTensors e w env inputTensors outputTensors = .ok (ret, e', w')) :
    e'.origin = e.origin := by
  have hhandler : ({ e with autoUnloadHandler := some 0 } : NNExecutor).origin = e.origin := rfl
  unfold syncWith at h
  split at h
  · cases h
  dsimp only at h
  split at h
  · cases h
    rfl
  split at h
  · cases h
    rfl
  split at h
  · exact (hrun _ _ _ _ _ h).trans hhandler
  unfold reloadAndRun at h
  split at h
  · cases h
  · rename_i e₁ w₁ hauto
    have hreload := reload_origin (autoReload_success hauto).1
    exact (hrun _ _ _ _ _ h).trans (hreload.trans hhandler)
  · rename_i hret hauto
    obtain ⟨-, ret₁, -, hreload⟩ := autoReload_failed hauto hret
    cases h
    exact (reload_origin hreload).trans hhandler

theorem runAippTensors_origin {inputTensors outputTensors : List (Option Nat)}
    (h : e.runAippTensors w env inputTensors outputTensors = .ok (ret, e', w')) :
    e'.origin = e.origin := by
  by_cases hset : env.setAippString = .success
  · rw [runAippTensors_eq _ _ _ _ _ hset] at h
    exact tensorsWith_origin h
  · obtain ⟨-, rfl, -⟩ := runAippTensors_unset _ _ _ hset h
    rfl

theorem run_origin (h : e.run w env = .ok (ret, e', w')) : e'.origin = e.origin := by
  cases run_ran h with
  | refused => rfl
  | failed => rfl
  | dims _ houtputs hdims =>
    obtain ⟨hsame, -⟩ := setOutputDims_sameBuffers (aligned_of_tensorsOf houtputs) hdims
    rw [hsame.rest]
    rfl
  | copied _ _ houtputs _ _ hdims =>
    obtain ⟨hsame, -⟩ := setOutputDims_sameBuffers (aligned_of_tensorsOf houtputs) hdims
    rw [hsame.rest]
    rfl

/-- **No call changes it.** -/
theorem perform_origin {call : ExecutorCall} (h : call.perform e w env = .ok (ret, e', w')) :
    e'.origin = e.origin := by
  cases call with
  | setInput =>
    rw [(setInput_inputSet h).rest.1]
    rfl
  | setInputFromMemory =>
    rw [(setInputFromMemory_inputMemorySet h).rest.1]
    rfl
  | setOutput =>
    rw [(setOutput_outputSet h).rest.1]
    rfl
  | setOutputFromMemory =>
    rw [(setOutputFromMemory_outputMemorySet h).rest.1]
    rfl
  | createInputMemory | createOutputMemory | destroyInputMemory | destroyOutputMemory =>
    cases h
    rfl
  | run => exact run_origin h
  | runSync => exact syncWith_origin (fun _ _ _ _ _ => tensorsWith_origin) h
  | runSyncWithAipp => exact syncWith_origin (fun _ _ _ _ _ => runAippTensors_origin) h
  | getInputDimRange inputIndex args =>
    unfold ExecutorCall.perform at h
    dsimp only at h
    split at h
    · cases h
    · rename_i hrange
      cases h
      obtain ⟨mins, maxs, rfl⟩ := getInputDimRange_vecs hrange
      rfl
  | setExtensionConfig configs =>
    obtain ⟨config, hrest⟩ := e.setExtensionConfig_rest env configs
    have hstate : e' = (e.setExtensionConfig env configs).2 ∧ w' = w := state_of_ok h
    rw [hstate.1, hrest]
    rfl
  | deinitModel mode =>
    obtain ⟨model, handler, hrest⟩ := e.deinitModel_rest env mode
    have hstate : e' = (e.deinitModel env mode).2 ∧ w' = w := state_of_ok h
    rw [hstate.1, hrest]
    rfl
  | autoUnload =>
    obtain ⟨model, handler, hrest⟩ := e.autoUnload_rest env
    have hstate : e' = e.autoUnload env ∧ w' = w := state_of_ok h
    rw [hstate.1, hrest]
    rfl
  | destroyPreparedModel =>
    obtain ⟨model, handler, hrest⟩ := e.destroyPreparedModel_rest
    have hstate : e' = e.destroyPreparedModel.2 ∧ w' = w := state_of_ok h
    rw [hstate.1, hrest]
    rfl

end Origin

/-- Nor does any run. -/
theorem exec_origin {s s' : NNExecutor × World} {calls : List (ExecutorEnv × ExecutorCall)}
    (h : Run.exec step s calls = .ok s') : s'.1.origin = s.1.origin := by
  refine Run.exec_invariant (P := fun t => t.1.origin = s.1.origin)
    (fun t call t' ht hstep => ?_) rfl h
  obtain ⟨ret, hperform⟩ := step_eq_ok hstep
  exact (perform_origin hperform).trans ht

/-! ## Descriptions that are read back -/

theorem described_createDescs (w : World) (descs : List (TensorDesc × UInt32)) :
    (w.createDescs descs).2.described (w.createDescs descs).1 = descs := by
  unfold World.described World.createDescs World.desc
  dsimp only
  apply List.ext_getElem?
  intro i
  rw [List.getElem?_map, List.getElem?_mapIdx]
  cases hi : descs[i]? with
  | none => rfl
  | some desc =>
    dsimp only [Option.map_some]
    rw [List.getD_eq_getElem?_getD, List.getElem?_append_right (Nat.le_add_right _ _),
      Nat.add_sub_cancel_left, List.getElem?_map, hi]
    rfl

/-- Further descriptions do not change those that are there. -/
theorem described_append {w w' : World} {refs : DescRefs} {descs : List TensorDesc}
    (hdescs : w'.descs = w.descs ++ descs) (hrefs : ∀ ref ∈ refs, ref.1 < w.descs.length) :
    w'.described refs = w.described refs := by
  refine List.map_congr_left fun ref href => ?_
  have hdesc : w'.desc ref.1 = w.desc ref.1 := by
    unfold World.desc
    rw [hdescs, List.getD_eq_getElem?_getD, List.getElem?_append_left (hrefs ref href),
      List.getD_eq_getElem?_getD]
  rw [hdesc]

/-! ## Reloads -/

/-- What `Reload` hands to `PrepareModelFromModelCache`, if it comes to that: the buffers in front
of those of the descriptions, and the configuration. -/
def reloadHands (e : NNExecutor) (w : World) (env : ReloadEnv) :
    Option (List Bytes × ModelConfig) :=
  if e.cachePath = "" then none
  else if e.cacheVersion = invalidCacheVersion then none
  else if e.preparedModel.isSome then none
  else
    match ({} : NNCompiledCache).setBackend env.cache.backend e.backendID with
    | (.success, compiledCache) =>
      let compiledCache := { compiledCache with modelName := e.extensionConfig.modelName }
      match compiledCache.restore env.cache.codec env.cache.io env.fs e.cachePath e.cacheVersion []
          w.mappings with
      | .ok (.success, caches, _) =>
        if caches.length < cacheInputTensorDescOffset then none
        else
          match restoredDescs caches with
          | .ok _ =>
            some ((caches.take (caches.length - cacheInputTensorDescOffset)).map Buffer.data,
              ⟨e.enableFp16, e.performance, e.priority, e.extensionConfig.isNpuFmShared⟩)
          | .error _ => none
      | _ => none
    | _ => none

/-- The environment with another answer of the device. -/
def answering (env : ReloadEnv) (answer : ReturnCode × Option PreparedModel × Bool) : ReloadEnv :=
  { env with cache := { env.cache with prepare := answer } }

section Asked

variable {e : NNExecutor} {w : World} {env : ReloadEnv}
  (answer : ReturnCode × Option PreparedModel × Bool)

/-- Where the descriptions cannot be read, the device is not asked. -/
theorem reloadCaches_unhanded {caches : List Buffer} (w : World)
    (h : ∀ descs, caches.length < cacheInputTensorDescOffset ∨ restoredDescs caches ≠ .ok descs) :
    e.reloadCaches w (answering env answer) caches = e.reloadCaches w env caches := by
  unfold reloadCaches
  dsimp only
  by_cases hmany : caches.length < cacheInputTensorDescOffset
  · rw [if_pos hmany, if_pos hmany]
  rw [if_neg hmany, if_neg hmany]
  cases hinputs : deserializedTensorsFromMapped
      (((caches[caches.length - cacheInputTensorDescOffset]?).map Buffer.data).getD []) with
  | error stop => cases stop <;> rfl
  | ok inputs =>
    cases houtputs : deserializedTensorsFromMapped
        (((caches[caches.length - cacheOutputTensorDescOffset]?).map Buffer.data).getD []) with
    | error stop => cases stop <;> rfl
    | ok outputs =>
      exact absurd (restoredDescs_eq_ok_iff.mpr ⟨hinputs, houtputs⟩)
        ((h (inputs, outputs)).resolve_left hmany)

/-- Where they can, it is, and what it answers is what becomes of the executor. -/
theorem reloadCaches_handed {caches : List Buffer}
    {descs : List (TensorDesc × UInt32) × List (TensorDesc × UInt32)} (w : World)
    (hmany : ¬ caches.length < cacheInputTensorDescOffset) (h : restoredDescs caches = .ok descs) :
    ∃ e' w', e.reloadCaches w (answering env answer) caches = .ok (answer.1, e', w') ∧
      e'.preparedModel = answer.2.1 := by
  obtain ⟨hinputs, houtputs⟩ := restoredDescs_eq_ok_iff.mp h
  unfold reloadCaches
  dsimp only
  rw [if_neg hmany, hinputs]
  dsimp only
  rw [houtputs]
  dsimp only
  obtain ⟨ret, model, updatable⟩ := answer
  by_cases hret : ret = .success
  · subst hret
    exact ⟨_, _, rfl, rfl⟩
  · have hprepare : (answering env (ret, model, updatable)).cache.prepare.1 ≠ .success := hret
    rw [if_pos hprepare]
    exact ⟨_, _, rfl, rfl⟩

/-- Where nothing is handed over, it does not matter what the device would answer. -/
theorem reload_unhanded (h : e.reloadHands w env = none) :
    e.reload w (answering env answer) = e.reload w env := by
  unfold reloadHands at h
  unfold reload
  by_cases hpath : e.cachePath = ""
  · rw [if_pos hpath, if_pos hpath]
  rw [if_neg hpath] at h ⊢
  rw [if_neg hpath]
  by_cases hversion : e.cacheVersion = invalidCacheVersion
  · rw [if_pos hversion, if_pos hversion]
  rw [if_neg hversion] at h ⊢
  rw [if_neg hversion]
  by_cases hmodel : e.preparedModel.isSome = true
  · rw [if_pos hmodel, if_pos hmodel]
  rw [if_neg hmodel] at h ⊢
  rw [if_neg hmodel]
  have hbackend : (answering env answer).cache.backend = env.cache.backend := rfl
  rw [hbackend]
  cases hset : ({} : NNCompiledCache).setBackend env.cache.backend e.backendID with
  | mk ret store =>
    cases ret with
    | success =>
      rw [hset] at h
      dsimp only [answering] at h ⊢
      cases hrestore : ({ store with modelName := e.extensionConfig.modelName }
          : NNCompiledCache).restore env.cache.codec env.cache.io env.fs e.cachePath e.cacheVersion
          [] w.mappings with
      | error fault => rfl
      | ok out =>
        obtain ⟨ret, caches, mappings⟩ := out
        rw [hrestore] at h
        dsimp only
        by_cases hret : ret = .success
        · subst hret
          refine reloadCaches_unhanded answer _ fun descs => ?_
          by_cases hmany : caches.length < cacheInputTensorDescOffset
          · exact Or.inl hmany
          · refine Or.inr fun hdescs => ?_
            dsimp only at h
            rw [if_neg hmany, hdescs] at h
            cases h
        · rw [if_pos hret, if_pos hret]
    | _ => rfl

/-- Where something is, the device has the last word. -/
theorem reload_handed {handed : List Bytes × ModelConfig} (h : e.reloadHands w env = some handed) :
    ∃ e' w', e.reload w (answering env answer) = .ok (answer.1, e', w') ∧
      e'.preparedModel = answer.2.1 := by
  unfold reloadHands at h
  unfold reload
  by_cases hpath : e.cachePath = ""
  · rw [if_pos hpath] at h
    cases h
  rw [if_neg hpath] at h ⊢
  by_cases hversion : e.cacheVersion = invalidCacheVersion
  · rw [if_pos hversion] at h
    cases h
  rw [if_neg hversion] at h ⊢
  by_cases hmodel : e.preparedModel.isSome = true
  · rw [if_pos hmodel] at h
    cases h
  rw [if_neg hmodel] at h ⊢
  have hbackend : (answering env answer).cache.backend = env.cache.backend := rfl
  rw [hbackend]
  split at h
  · rename_i store hset
    rw [hset]
    dsimp only [answering] at h ⊢
    split at h
    · rename_i caches mappings hrestore
      rw [hrestore]
      split at h
      · cases h
      rename_i hmany
      split at h
      · rename_i descs hdescs
        exact reloadCaches_handed answer _ hmany hdescs
      · cases h
    · cases h
  · cases h

end Asked

/-- **`reloadHands` is what `Reload` does**: it hands something to the device exactly if, whatever
the device answers, that is what `Reload` returns and what becomes of the model. -/
theorem reloadHands_isSome_iff {e : NNExecutor} {w : World} {env : ReloadEnv} :
    (e.reloadHands w env).isSome = true ↔
      ∀ answer, ∃ e' w', e.reload w (answering env answer) = .ok (answer.1, e', w') ∧
        e'.preparedModel = answer.2.1 := by
  constructor
  · intro hsome answer
    obtain ⟨handed, hhands⟩ := Option.isSome_iff_exists.mp hsome
    exact reload_handed answer hhands
  · intro hanswers
    by_contra hnone
    have hnone := Option.not_isSome_iff_eq_none.mp hnone
    -- Two answers that differ would have the same end.
    obtain ⟨e₁, w₁, h₁, -⟩ := hanswers (.success, none, false)
    obtain ⟨e₂, w₂, h₂, -⟩ := hanswers (.failed, none, false)
    rw [reload_unhanded _ hnone] at h₁ h₂
    rw [h₁] at h₂
    cases h₂

/-- A directory that a compiler has saved its model to: `caches` is what the device exported. -/
structure SavedAs (env : CacheEnv) (c : NNCompiler TensorDesc) (caches : List Bytes)
    (fs : FileSystem) : Prop where
  faithful : env.codec.Faithful
  saved : ∃ before dir op, NNCompiler.ReadyToSave env c before caches dir op ∧
    c.saveToCacheFile env before = (.success, fs)
  nonempty : ∀ cache ∈ caches, cache ≠ []

/-- The directory is still as it was left, and can be read. -/
structure CanReload (env : CacheEnv) (fs : FileSystem) (renv : ReloadEnv) : Prop where
  codec : renv.cache.codec = env.codec
  io : renv.cache.io = {}
  backend : ∃ reply, renv.cache.backend = some (some reply)
  fs : renv.fs = fs

/-- The compiler an executor comes from, which has inputs and outputs. -/
structure ComesFrom (e : NNExecutor) (c : NNCompiler TensorDesc) : Prop where
  origin : e.origin
    = (c.backendID, c.cachePath, c.cacheVersion, c.extensionConfig, c.restoreConfig)
  inputs : c.inputTensorDescs ≠ []
  outputs : c.outputTensorDescs ≠ []

theorem ComesFrom.of_origin {e e' : NNExecutor} {c : NNCompiler TensorDesc} (h : e.ComesFrom c)
    (horigin : e'.origin = e.origin) : e'.ComesFrom c :=
  ⟨horigin.trans h.origin, h.inputs, h.outputs⟩

section Saved

variable {env : CacheEnv} {c : NNCompiler TensorDesc} {caches : List Bytes} {fs : FileSystem}
  {renv : ReloadEnv} {e : NNExecutor} {w : World}

/-- The store has what was saved. -/
theorem restore_savedAs (hsaved : SavedAs env c caches fs) (hcan : CanReload env fs renv)
    (horigin : e.ComesFrom c) (mappings : Mappings) :
    e.cachePath ≠ "" ∧ e.cacheVersion ≠ invalidCacheVersion ∧
      ∃ reply buffers mappings', renv.cache.backend = some (some reply) ∧
        (e.reloadStore reply).restore renv.cache.codec renv.cache.io renv.fs e.cachePath
            e.cacheVersion [] mappings = .ok (.success, buffers, mappings') ∧
          buffers.map Buffer.data = c.savedBuffers caches ∧
          restoredDescs buffers = .ok (c.inputTensorDescs, c.outputTensorDescs) := by
  obtain ⟨before, dir, op, hready, hsave⟩ := hsaved.saved
  obtain ⟨hstorable, rfl⟩ := (hready.saveToCacheFile_iff hsaved.faithful fs).mp hsave
  have haccepts := hready.saveAccepts hsaved.faithful hstorable.room
  obtain ⟨reply, hreply⟩ := hcan.backend
  obtain ⟨hbackendID, hcachePath, hcacheVersion, hextension, -⟩ :
      e.backendID = c.backendID ∧ e.cachePath = c.cachePath ∧ e.cacheVersion = c.cacheVersion ∧
        e.extensionConfig = c.extensionConfig ∧ True := by
    have h := horigin.origin
    unfold origin at h
    simp only [Prod.mk.injEq] at h
    exact ⟨h.1, h.2.1, h.2.2.1, h.2.2.2.1, trivial⟩
  have hne : ∀ cache ∈ c.savedBuffers caches, cache ≠ [] := by
    intro cache hcache
    simp only [NNCompiler.savedBuffers, List.mem_append, List.mem_singleton] at hcache
    rcases hcache with (hcache | rfl) | rfl
    · exact hsaved.nonempty cache hcache
    · exact mt flatMap_encodeDesc_eq_nil_iff.mp horigin.inputs
    · exact mt flatMap_encodeDesc_eq_nil_iff.mp horigin.outputs
  have hname : (e.reloadStore reply).modelName = (c.cacheStore op).modelName :=
    congrArg ExtensionConfig.modelName hextension
  have hdevice : (e.reloadStore reply).device.isSome := rfl
  obtain ⟨buffers, mappings', hbuffers, hdata⟩ :=
    haccepts.restore_saved hsaved.faithful hne hdevice hname hbackendID mappings
  obtain ⟨-, hinput, houtput, -⟩ := NNCompiler.split_savedBuffers hdata
  refine ⟨hcachePath ▸ hready.cachePath_ne, hcacheVersion ▸ hstorable.version, reply, buffers,
    mappings', hreply, ?_, hdata, ?_⟩
  · rw [hcan.codec, hcan.io, hcan.fs, hcachePath, hcacheVersion]
    exact hbuffers
  · rw [restoredDescs_eq_ok_iff, hinput, houtput]
    exact ⟨mapped_serialize (serializeTensorsToBuffer_eq_ok_iff.mpr ⟨hstorable.inputs, rfl⟩),
      mapped_serialize (serializeTensorsToBuffer_eq_ok_iff.mpr ⟨hstorable.outputs, rfl⟩)⟩

/-- `Reload` of what was saved, up to the answer of the device. -/
theorem reload_savedAs (hsaved : SavedAs env c caches fs) (hcan : CanReload env fs renv)
    (horigin : e.ComesFrom c) (hdropped : e.preparedModel = none) (w : World) :
    e.reloadHands w renv = some (caches, c.restoreConfig) ∧
      ∃ e' w', e.reload w renv = .ok (renv.cache.prepare.1, e', w') ∧
        e'.preparedModel = renv.cache.prepare.2.1 ∧
        e' = { e with
          preparedModel := e'.preparedModel
          inputTensorDescs := e'.inputTensorDescs
          outputTensorDescs := e'.outputTensorDescs } ∧
        w' = { w with descs := w'.descs, mappings := w'.mappings } ∧
        (renv.cache.prepare.1 = .success →
          w'.described e'.inputTensorDescs = c.inputTensorDescs ∧
            w'.described e'.outputTensorDescs = c.outputTensorDescs) := by
  obtain ⟨hpath, hversion, reply, buffers, mappings', hbackend, hrestore, hdata, hdescs⟩ :=
    restore_savedAs hsaved hcan horigin w.mappings
  obtain ⟨hlen, -, -, htake⟩ := NNCompiler.split_savedBuffers hdata
  have hmany : ¬ buffers.length < cacheInputTensorDescOffset := by
    unfold cacheInputTensorDescOffset
    omega
  obtain ⟨hinputs, houtputs⟩ := restoredDescs_eq_ok_iff.mp hdescs
  constructor
  · have hconfig : (⟨e.enableFp16, e.performance, e.priority, e.extensionConfig.isNpuFmShared⟩
        : ModelConfig) = c.restoreConfig := by
      have h := horigin.origin
      unfold origin at h
      simp only [Prod.mk.injEq] at h
      exact h.2.2.2.2
    unfold reloadHands
    rw [if_neg hpath, if_neg hversion, if_neg (by rw [hdropped]; nofun), hbackend]
    change (match (e.reloadStore reply).restore renv.cache.codec renv.cache.io renv.fs e.cachePath
        e.cacheVersion [] w.mappings with
      | .ok (.success, caches, _) => _
      | _ => none) = _
    rw [hrestore]
    dsimp only
    rw [if_neg hmany, hdescs, htake, hconfig]
  · rw [e.reload_eq hpath hversion hdropped hbackend w, hrestore]
    dsimp only
    rw [if_neg (not_not.mpr rfl)]
    unfold reloadCaches
    dsimp only
    rw [if_neg hmany, hinputs]
    dsimp only
    rw [houtputs]
    dsimp only
    by_cases hprepare : renv.cache.prepare.1 = .success
    · rw [if_neg (not_not.mpr hprepare), hprepare]
      refine ⟨_, _, rfl, rfl, rfl, rfl, fun _ => ⟨?_, described_createDescs _ _⟩⟩
      dsimp only
      rw [described_append rfl, described_createDescs]
      intro ref href
      exact (le_of_mem_createDescs (List.mem_map_of_mem href)).2
    · rw [if_pos hprepare]
      exact ⟨_, _, rfl, rfl, rfl, rfl, fun h => absurd h hprepare⟩

/-- An executor is created with inputs and outputs only. -/
theorem createExecutor_nonempty {c : NNCompiler Nat} {created : Bool}
    (hcreated : c.createExecutor created = some e) :
    c.inputTensorDescs ≠ [] ∧ c.outputTensorDescs ≠ [] := by
  unfold NNCompiler.createExecutor at hcreated
  split at hcreated
  · cases hcreated
  split at hcreated
  · cases hcreated
  rename_i hinputs
  split at hcreated
  · cases hcreated
  rename_i houtputs
  exact ⟨fun hnone => hinputs (by rw [hnone]; rfl), fun hnone => houtputs (by rw [hnone]; rfl)⟩

/-- An executor comes from the compiler that created it. -/
theorem createExecutor_comesFrom {created : Bool}
    (hcreated : (c.share w).1.createExecutor created = some e) : e.ComesFrom c := by
  obtain ⟨preparedModel, -, he⟩ := NNCompiler.createExecutor_eq_some hcreated
  obtain ⟨hinputs, houtputs⟩ := createExecutor_nonempty hcreated
  refine ⟨by rw [he]; rfl, fun hnone => hinputs ?_, fun hnone => houtputs ?_⟩
  · unfold NNCompiler.share
    rw [hnone]
    rfl
  · unfold NNCompiler.share
    rw [hnone]
    rfl

/-- A directory with one model of one buffer. -/
def savedDirectory : FileSystem :=
  ((NNCompiler.compilerOf [[1]] [2] [2]).saveToCacheFile (NNCompiler.envOf 3)
    (FileSystem.single "/data" (by decide))).2

theorem compilerOf_savedAs :
    SavedAs (NNCompiler.envOf 3) (NNCompiler.compilerOf [[1]] [2] [2]) [[1]] savedDirectory where
  faithful := compact_faithful
  saved := by
    have hready : NNCompiler.ReadyToSave (NNCompiler.envOf 3)
        (NNCompiler.compilerOf [[1]] [2] [2]) (FileSystem.single "/data" (by decide)) [[1]] "/data"
        3 :=
      ⟨rfl, rfl, ⟨_, rfl, rfl, rfl⟩, by decide, by decide, by decide, by decide, rfl, by decide⟩
    have hstorable : NNCompiler.Storable (NNCompiler.compilerOf [[1]] [2] [2]) [[1]] :=
      ⟨by decide, by decide, List.forall_mem_singleton.mpr ⟨by decide, by decide⟩,
        List.forall_mem_singleton.mpr ⟨by decide, by decide⟩⟩
    refine ⟨_, "/data", 3, hready, ?_⟩
    unfold savedDirectory
    rw [(hready.saveToCacheFile_iff compact_faithful _).mpr ⟨hstorable, rfl⟩]
  nonempty := by decide

/-- A device that loads from it. -/
def loadsSaved : ReloadEnv where
  cache := NNCompiler.envOf 3
  fs := savedDirectory

theorem loadsSaved_canReload : CanReload (NNCompiler.envOf 3) savedDirectory loadsSaved :=
  ⟨rfl, rfl, ⟨_, rfl⟩, rfl⟩

/-- The executor of that model. -/
def savedExecutor : NNExecutor :=
  .create ((NNCompiler.compilerOf [[1]] [2] [2]).share twoTensors).1
    { id := 0, exportModelCache := (.success, [[1]]) }

end Saved

/-! ## Runs of the tensors

What a description says does not matter to them; how many there are does.
-/

/-- What the user can see: his tensors, what the device was asked to run, and the memory. -/
def seen (w : World) : List NNTensor2_0 × List DeviceRun × (Address → Bytes) :=
  (w.tensors, w.runs, w.memory)

/-- The code of a loop, and what can be seen behind it. -/
def seenAfter (out : ReturnCode × World) :
    ReturnCode × List NNTensor2_0 × List DeviceRun × (Address → Bytes) :=
  (out.1, seen out.2)

section Loops

variable {w v : World}

theorem setTensorShape_alike (hseen : seen w = seen v) (address : Nat) (dims : List Int32) :
    (setTensorShape w address dims).map seenAfter
      = (setTensorShape v address dims).map seenAfter := by
  unfold seen at hseen
  simp only [Prod.mk.injEq] at hseen
  obtain ⟨htensors, hruns, hmemory⟩ := hseen
  unfold setTensorShape
  rw [htensors]
  cases v.tensors[address]? with
  | none => rfl
  | some t =>
    dsimp only
    cases t.tensorDesc with
    | none =>
      unfold seenAfter seen
      simp only [Except.map, htensors, hruns, hmemory]
    | some desc =>
      dsimp only
      cases desc.setShape dims with
      | mk ret desc =>
        cases ret with
        | success =>
          unfold seenAfter seen
          simp only [Except.map, hruns, hmemory]
        | _ =>
          unfold seenAfter seen
          simp only [Except.map, htensors, hruns, hmemory]

/-- Whether a shape is accepted is a matter of the shape. -/
theorem setShape_code (desc desc' : TensorDesc) (dims : List Int32) :
    (desc.setShape dims).1 = (desc'.setShape dims).1 := by
  unfold TensorDesc.setShape
  split
  · rfl
  · rfl

/-- A loop over the reported dimensions that sees the number of descriptions only. -/
def Blind (setDims : SetDims) : Prop :=
  ∀ {w v : World} {refs refs' : DescRefs} (addresses : List Nat) (outputsDims : List (List Int32)),
    seen w = seen v → refs.length = refs'.length →
      (setDims w addresses refs outputsDims).map seenAfter
        = (setDims v addresses refs' outputsDims).map seenAfter

/-- The loop of `RunSync` is one. -/
theorem setSyncDims_blind : Blind setSyncDims := by
  intro w v refs refs' addresses
  induction addresses generalizing w v refs refs' with
  | nil =>
    intro outputsDims hseen _
    exact congrArg (fun seen => Except.ok (ReturnCode.success, seen)) hseen
  | cons address addresses ih =>
    intro outputsDims hseen hrefs
    cases outputsDims with
    | nil => exact congrArg (fun seen => Except.ok (ReturnCode.success, seen)) hseen
    | cons dims outputsDims =>
      have hshape := setTensorShape_alike hseen address dims
      unfold setSyncDims
      cases hw : setTensorShape w address dims with
      | error fault =>
        cases hv : setTensorShape v address dims with
        | error fault' =>
          rw [hw, hv] at hshape
          exact congrArg Except.error (Except.error.inj hshape)
        | ok out =>
          rw [hw, hv] at hshape
          cases hshape
      | ok out =>
        cases hv : setTensorShape v address dims with
        | error fault =>
          rw [hw, hv] at hshape
          cases hshape
        | ok out' =>
          obtain ⟨ret, w₁⟩ := out
          obtain ⟨ret', v₁⟩ := out'
          rw [hw, hv] at hshape
          obtain ⟨rfl, hseen₁⟩ : ret = ret' ∧ seen w₁ = seen v₁ :=
            Prod.mk.inj (Except.ok.inj hshape)
          cases ret with
          | success =>
            cases refs with
            | nil =>
              rw [List.length_eq_zero_iff.mp hrefs.symm]
            | cons ref refs =>
              obtain ⟨ref, type⟩ := ref
              cases refs' with
              | nil => cases hrefs
              | cons ref' refs' =>
                obtain ⟨ref', type'⟩ := ref'
                dsimp only
                have hcode := setShape_code (w₁.desc ref) (v₁.desc ref') dims
                cases hset : (w₁.desc ref).setShape dims with
                | mk ret desc =>
                  cases hset' : (v₁.desc ref').setShape dims with
                  | mk ret' desc' =>
                    rw [hset, hset'] at hcode
                    obtain rfl : ret = ret' := hcode
                    cases ret with
                    | success => exact ih outputsDims hseen₁ (Nat.succ.inj hrefs)
                    | _ => exact congrArg (fun seen => Except.ok (_, seen)) hseen₁
          | _ => exact congrArg (fun seen => Except.ok (_, seen)) hseen₁

/-- The loop of `RunAippModel` is one. -/
theorem aippDims_blind : Blind aippDims := by
  intro w v refs refs' addresses outputsDims hseen hrefs
  unfold aippDims
  induction outputsDims generalizing w v refs refs' with
  | nil =>
    unfold setAippDims
    exact congrArg (fun seen => Except.ok (ReturnCode.success, seen)) hseen
  | cons dims outputsDims ih =>
    unfold setAippDims
    cases refs with
    | nil =>
      rw [List.length_eq_zero_iff.mp hrefs.symm]
    | cons ref refs =>
      obtain ⟨ref, type⟩ := ref
      cases refs' with
      | nil => cases hrefs
      | cons ref' refs' =>
        obtain ⟨ref', type'⟩ := ref'
        dsimp only
        have hcode := setShape_code (w.desc ref) (v.desc ref') dims
        cases hset : (w.desc ref).setShape dims with
        | mk ret desc =>
          cases hset' : (v.desc ref').setShape dims with
          | mk ret' desc' =>
            rw [hset, hset'] at hcode
            obtain rfl : ret = ret' := hcode
            cases ret with
            | success => exact ih hseen (Nat.succ.inj hrefs)
            | _ => exact congrArg (fun seen => Except.ok (_, seen)) hseen

end Loops

/-- Both end with the same code and the same things to be seen, and the executors go on as
before; a success posts an unload task. -/
def EndsAlike (e d : NNExecutor) (out out' : ReturnCode × NNExecutor × World) : Prop :=
  out.1 = out'.1 ∧ out.2.1 = e.posted out.1 ∧ out'.2.1 = d.posted out.1 ∧
    seen out.2.2 = seen out'.2.2

section Tensors

variable {e d : NNExecutor} {w v : World} {env : ExecutorEnv}
  {inputTensors outputTensors : List (Option Nat)}

theorem checkInputDimRanges_alike (he : e.preparedModel.isSome) (hd : d.preparedModel.isSome)
    (hseen : seen w = seen v) :
    e.checkInputDimRanges w env inputTensors = d.checkInputDimRanges v env inputTensors := by
  obtain ⟨model, he⟩ := Option.isSome_iff_exists.mp he
  obtain ⟨model', hd⟩ := Option.isSome_iff_exists.mp hd
  have htensors : w.tensors = v.tensors := congrArg Prod.fst hseen
  unfold checkInputDimRanges
  rw [he, hd, checkInputsLoop_tensors htensors]

/-- **A run of the tensors** is the same with other descriptions. -/
theorem tensorsWith_alike {setDims : SetDims} (hblind : Blind setDims)
    (he : e.preparedModel.isSome) (hd : d.preparedModel.isSome) (hseen : seen w = seen v)
    (hrefs : e.outputTensorDescs.length = d.outputTensorDescs.length) :
    Run.Alike (EndsAlike e d) (e.tensorsWith setDims w env inputTensors outputTensors)
      (d.tensorsWith setDims v env inputTensors outputTensors) := by
  unfold tensorsWith
  rw [checkInputDimRanges_alike he hd hseen]
  cases d.checkInputDimRanges v env inputTensors with
  | error fault => exact rfl
  | ok ret =>
    dsimp only
    by_cases hrange : ret ≠ .operationForbidden ∧ ret ≠ .success
    · rw [if_pos hrange, if_pos hrange]
      exact ⟨rfl, (if_neg hrange.2).symm, (if_neg hrange.2).symm, hseen⟩
    rw [if_neg hrange, if_neg hrange]
    have hmissing : Run.Alike (ε := Fault) (EndsAlike e d)
        (.ok (.invalidParameter, e, w)) (.ok (.invalidParameter, d, v)) := ⟨rfl, rfl, rfl, hseen⟩
    cases inputTensors.mapM id with
    | none => exact hmissing
    | some inputs =>
      cases outputTensors.mapM id with
      | none => exact hmissing
      | some outputs =>
        obtain ⟨model, he⟩ := Option.isSome_iff_exists.mp he
        obtain ⟨model', hd⟩ := Option.isSome_iff_exists.mp hd
        rw [he, hd]
        dsimp only
        have hasked : seen (askDevice w inputs outputs) = seen (askDevice v inputs outputs) := by
          unfold seen at hseen ⊢
          simp only [Prod.mk.injEq] at hseen ⊢
          obtain ⟨htensors, hruns, hmemory⟩ := hseen
          refine ⟨htensors, ?_, hmemory⟩
          unfold askDevice
          rw [hruns]
        by_cases hcode : env.run.code ≠ .success
        · rw [if_pos hcode, if_pos hcode]
          exact ⟨rfl, (if_neg hcode).symm, (if_neg hcode).symm, hasked⟩
        rw [if_neg hcode, if_neg hcode]
        by_cases hlength : env.run.outputsDims.length ≠ outputTensors.length
        · rw [if_pos hlength, if_pos hlength]
          exact ⟨rfl, rfl, rfl, hasked⟩
        rw [if_neg hlength, if_neg hlength]
        have hdims := hblind outputs env.run.outputsDims hasked hrefs
        cases hw : setDims (askDevice w inputs outputs) outputs e.outputTensorDescs
            env.run.outputsDims with
        | error fault =>
          cases hv : setDims (askDevice v inputs outputs) outputs d.outputTensorDescs
              env.run.outputsDims with
          | error fault' =>
            rw [hw, hv] at hdims
            exact Except.error.inj hdims
          | ok out =>
            rw [hw, hv] at hdims
            cases hdims
        | ok out =>
          cases hv : setDims (askDevice v inputs outputs) outputs d.outputTensorDescs
              env.run.outputsDims with
          | error fault =>
            rw [hw, hv] at hdims
            cases hdims
          | ok out' =>
            obtain ⟨ret, w₁⟩ := out
            obtain ⟨ret', v₁⟩ := out'
            rw [hw, hv] at hdims
            obtain ⟨rfl, hseen₁⟩ : ret = ret' ∧ seen w₁ = seen v₁ :=
              Prod.mk.inj (Except.ok.inj hdims)
            cases ret with
            | success => exact ⟨rfl, rfl, rfl, hseen₁⟩
            | _ => exact ⟨rfl, rfl, rfl, hseen₁⟩

/-- With or without the AIPP string. -/
theorem runAippTensors_alike (he : e.preparedModel.isSome) (hd : d.preparedModel.isSome)
    (hseen : seen w = seen v)
    (hrefs : e.outputTensorDescs.length = d.outputTensorDescs.length) :
    Run.Alike (EndsAlike e d) (e.runAippTensors w env inputTensors outputTensors)
      (d.runAippTensors v env inputTensors outputTensors) := by
  by_cases hset : env.setAippString = .success
  · rw [runAippTensors_eq _ _ _ _ _ hset, runAippTensors_eq _ _ _ _ _ hset]
    exact tensorsWith_alike aippDims_blind he hd hseen hrefs
  -- The device is not asked.
  have hmissing : Run.Alike (ε := Fault) (EndsAlike e d)
      (.ok (.invalidParameter, e, w)) (.ok (.invalidParameter, d, v)) := ⟨rfl, rfl, rfl, hseen⟩
  have hrefused : Run.Alike (ε := Fault) (EndsAlike e d)
      (.ok (env.setAippString, e, w)) (.ok (env.setAippString, d, v)) :=
    ⟨rfl, (if_neg hset).symm, (if_neg hset).symm, hseen⟩
  unfold runAippTensors
  rw [checkInputDimRanges_alike he hd hseen]
  cases d.checkInputDimRanges v env inputTensors with
  | error fault => exact rfl
  | ok ret =>
    dsimp only
    by_cases hrange : ret ≠ .operationForbidden ∧ ret ≠ .success
    · rw [if_pos hrange, if_pos hrange]
      exact ⟨rfl, (if_neg hrange.2).symm, (if_neg hrange.2).symm, hseen⟩
    rw [if_neg hrange, if_neg hrange]
    unfold runAippModel
    cases inputTensors.mapM id with
    | none => exact hmissing
    | some inputs =>
      cases outputTensors.mapM id with
      | none => exact hmissing
      | some outputs =>
        obtain ⟨model, he⟩ := Option.isSome_iff_exists.mp he
        obtain ⟨model', hd⟩ := Option.isSome_iff_exists.mp hd
        rw [he, hd]
        dsimp only
        rw [if_pos hset, if_pos hset]
        generalize env.setAippString = code at hset hrefused ⊢
        cases code with
        | success => exact absurd rfl hset
        | _ => exact hrefused

end Tensors

/-! ## Unloads -/

/-- The calls that drop the model. -/
def isUnload : ExecutorCall → Bool
  | .deinitModel _ | .autoUnload => true
  | _ => false

/-- Synchronous runs on a device that loads what was saved, configurations and unloads. -/
def SyncCall (env : CacheEnv) (fs : FileSystem) : ExecutorCall → Prop
  | .runSync renv _ _ | .runSyncWithAipp renv _ _ =>
    CanReload env fs renv ∧ renv.cache.prepare.1 = .success ∧ renv.cache.prepare.2.1.isSome
  | .setExtensionConfig _ | .deinitModel _ | .autoUnload => True
  | _ => False

/-- One call; the codes that users get are kept. -/
def codedStep (s : List ReturnCode × NNExecutor × World) (call : ExecutorEnv × ExecutorCall) :
    Except Fault (List ReturnCode × NNExecutor × World) :=
  (call.2.perform s.2.1 s.2.2 call.1).map fun out =>
    (if isUnload call.2 then s.1 else s.1 ++ [out.1], out.2)

/-- The codes and what can be seen. -/
def observed (s : List ReturnCode × NNExecutor × World) :
    List ReturnCode × List NNTensor2_0 × List DeviceRun × (Address → Bytes) :=
  (s.1, seen s.2.2)

/-- An executor that may have dropped its model, and one that has not. -/
structure Mirrors (c : NNCompiler TensorDesc) (s t : NNExecutor × World) : Prop where
  comes : s.1.ComesFrom c
  config : s.1.executorConfig = t.1.executorConfig
  configured : s.1.executorConfig.isSome
  inputs : s.1.inputTensorDescs.length = c.inputTensorDescs.length
  inputs' : t.1.inputTensorDescs.length = c.inputTensorDescs.length
  outputs : s.1.outputTensorDescs.length = c.outputTensorDescs.length
  outputs' : t.1.outputTensorDescs.length = c.outputTensorDescs.length
  handler : s.1.autoUnloadHandler.isSome
  handler' : t.1.autoUnloadHandler.isSome
  model : t.1.preparedModel.isSome
  seen : seen s.2 = seen t.2

theorem posted_handler (e : NNExecutor) (ret : ReturnCode) :
    ∃ handler, e.posted ret = { e with autoUnloadHandler := handler } ∧
      handler.isSome = e.autoUnloadHandler.isSome := by
  unfold posted
  split
  · exact ⟨_, rfl, Option.isSome_map⟩
  · exact ⟨_, rfl, rfl⟩

section Mirrors

variable {env : CacheEnv} {c : NNCompiler TensorDesc} {caches : List Bytes} {fs : FileSystem}
  {e d : NNExecutor} {w v : World}

/-- The task that waits is up to each of them. -/
theorem Mirrors.setHandlers (h : Mirrors c (e, w) (d, v)) {handler handler' : Option Nat}
    (hhandler : handler.isSome) (hhandler' : handler'.isSome) :
    Mirrors c ({ e with autoUnloadHandler := handler }, w)
      ({ d with autoUnloadHandler := handler' }, v) where
  comes := h.comes.of_origin rfl
  config := h.config
  configured := h.configured
  inputs := h.inputs
  inputs' := h.inputs'
  outputs := h.outputs
  outputs' := h.outputs'
  handler := hhandler
  handler' := hhandler'
  model := h.model
  seen := h.seen

/-- A run that ends alike goes on so. -/
theorem Mirrors.ends (h : Mirrors c (e, w) (d, v)) {out out' : ReturnCode × NNExecutor × World}
    (hends : EndsAlike e d out out') : out.1 = out'.1 ∧ Mirrors c out.2 out'.2 := by
  obtain ⟨ret, e', w'⟩ := out
  obtain ⟨ret', d', v'⟩ := out'
  obtain ⟨hret, he, hd, hseen⟩ := hends
  dsimp only at hret he hd hseen
  obtain ⟨handler, hposted, hhandler⟩ := posted_handler e ret
  obtain ⟨handler', hposted', hhandler'⟩ := posted_handler d ret
  have hmirrors := h.setHandlers (hhandler ▸ h.handler) (hhandler' ▸ h.handler')
  rw [he, hd, hposted, hposted']
  exact ⟨hret, { hmirrors with seen := hseen }⟩

/-- A model that was dropped is loaded again. -/
theorem Mirrors.autoReload {renv : ReloadEnv} (h : Mirrors c (e, w) (d, v))
    (hsaved : SavedAs env c caches fs) (hcan : CanReload env fs renv)
    (hprepare : renv.cache.prepare.1 = .success) (hmodel : renv.cache.prepare.2.1.isSome)
    (hdropped : e.preparedModel = none) :
    ∃ e' w', e.autoReload w renv = .ok (.success, e', w') ∧ e'.preparedModel.isSome ∧
      Mirrors c (e', w') (d, v) := by
  obtain ⟨-, e', w', hreload, hmodel', he, hw, hdescs⟩ :=
    reload_savedAs hsaved hcan h.comes hdropped w
  obtain ⟨hinputs, houtputs⟩ := hdescs hprepare
  have hconfig : e'.executorConfig = e.executorConfig := by rw [he]
  refine ⟨e', w', ?_, by rw [hmodel']; exact hmodel, ?_⟩
  · obtain ⟨config, hsome⟩ := Option.isSome_iff_exists.mp h.configured
    unfold NNExecutor.autoReload
    rw [hreload, hprepare]
    dsimp only
    rw [hconfig, hsome]
  · have horigin : e'.origin = e.origin := by
      rw [he]
      rfl
    have hseen : NNExecutor.seen w' = NNExecutor.seen w := by
      rw [hw]
      rfl
    have hhandler : e'.autoUnloadHandler = e.autoUnloadHandler := by rw [he]
    refine {
      comes := h.comes.of_origin horigin
      config := hconfig.trans h.config
      configured := by
        rw [hconfig]
        exact h.configured
      inputs := ?_
      inputs' := h.inputs'
      outputs := ?_
      outputs' := h.outputs'
      handler := by
        rw [hhandler]
        exact h.handler
      handler' := h.handler'
      model := h.model
      seen := hseen.trans h.seen }
    · rw [← hinputs]
      exact (List.length_map _).symm
    · rw [← houtputs]
      exact (List.length_map _).symm

/-- **A synchronous run** is the same, whether the model was dropped or not. -/
theorem Mirrors.syncWith {run : NNExecutor → World → Outcome} {renv : ReloadEnv}
    {inputTensors outputTensors : List (Option Nat)} (h : Mirrors c (e, w) (d, v))
    (hsaved : SavedAs env c caches fs) (hcan : CanReload env fs renv)
    (hprepare : renv.cache.prepare.1 = .success) (hmodel : renv.cache.prepare.2.1.isSome)
    (halike : ∀ {e d w v}, e.preparedModel.isSome → d.preparedModel.isSome →
      NNExecutor.seen w = NNExecutor.seen v →
      e.outputTensorDescs.length = d.outputTensorDescs.length →
        Run.Alike (EndsAlike e d) (run e w) (run d v)) :
    Run.Alike (fun out out' => out.1 = out'.1 ∧ Mirrors c out.2 out'.2)
      (syncWith run e w renv inputTensors outputTensors)
      (syncWith run d v renv inputTensors outputTensors) := by
  obtain ⟨tasks, htasks⟩ := Option.isSome_iff_exists.mp h.handler
  obtain ⟨tasks', htasks'⟩ := Option.isSome_iff_exists.mp h.handler'
  have h₀ := @Mirrors.setHandlers c e d w v h (some 0) (some 0) rfl rfl
  -- Once both have a model.
  have hrun : ∀ {e₁ w₁}, e₁.preparedModel.isSome →
      Mirrors c (e₁, w₁) ({ d with autoUnloadHandler := some 0 }, v) →
      Run.Alike (fun out out' => out.1 = out'.1 ∧ Mirrors c out.2 out'.2) (run e₁ w₁)
        (run { d with autoUnloadHandler := some 0 } v) := by
    intro e₁ w₁ hsome h₁
    have hends := halike hsome h₁.model h₁.seen (h₁.outputs.trans h₁.outputs'.symm)
    cases hw : run e₁ w₁ with
    | error fault =>
      cases hv : run { d with autoUnloadHandler := some 0 } v with
      | error fault' =>
        rw [hw, hv] at hends
        exact hends
      | ok out =>
        rw [hw, hv] at hends
        exact hends
    | ok out =>
      cases hv : run { d with autoUnloadHandler := some 0 } v with
      | error fault =>
        rw [hw, hv] at hends
        exact hends
      | ok out' =>
        rw [hw, hv] at hends
        exact h₁.ends hends
  unfold NNExecutor.syncWith
  rw [htasks, htasks']
  dsimp only
  rw [h.inputs, h.inputs', h.outputs, h.outputs']
  by_cases hin : c.inputTensorDescs.length ≠ inputTensors.length
  · rw [if_pos hin, if_pos hin]
    exact ⟨rfl, h₀⟩
  rw [if_neg hin, if_neg hin]
  by_cases hout : c.outputTensorDescs.length ≠ outputTensors.length
  · rw [if_pos hout, if_pos hout]
    exact ⟨rfl, h₀⟩
  rw [if_neg hout, if_neg hout, if_pos h.model]
  by_cases hsome : e.preparedModel.isSome = true
  · rw [if_pos hsome]
    exact hrun hsome h₀
  · rw [if_neg hsome]
    obtain ⟨e₁, w₁, hauto, hsome₁, h₁⟩ := h₀.autoReload hsaved hcan hprepare hmodel
      (Option.not_isSome_iff_eq_none.mp hsome)
    unfold reloadAndRun
    rw [hauto]
    exact hrun hsome₁ h₁

theorem deinitModel_handler (e : NNExecutor) (env : ExecutorEnv) (mode : String) :
    (e.deinitModel env mode).2.autoUnloadHandler.isSome = e.autoUnloadHandler.isSome := by
  unfold deinitModel
  split
  · rfl
  split
  · dsimp only
    split
    · exact Option.isSome_map
    · rfl
  · rfl

/-- What an unload changes is not mirrored. -/
theorem Mirrors.dropped (h : Mirrors c (e, w) (d, v)) {model : Option PreparedModel}
    {handler : Option Nat} (hhandler : handler.isSome) :
    Mirrors c ({ e with preparedModel := model, autoUnloadHandler := handler }, w) (d, v) where
  comes := h.comes.of_origin rfl
  config := h.config
  configured := h.configured
  inputs := h.inputs
  inputs' := h.inputs'
  outputs := h.outputs
  outputs' := h.outputs'
  handler := hhandler
  handler' := h.handler'
  model := h.model
  seen := h.seen

theorem Mirrors.deinitModel (h : Mirrors c (e, w) (d, v)) (env : ExecutorEnv) (mode : String) :
    Mirrors c ((e.deinitModel env mode).2, w) (d, v) := by
  have hhandler := e.deinitModel_handler env mode
  obtain ⟨model, handler, hrest⟩ := e.deinitModel_rest env mode
  rw [hrest] at hhandler ⊢
  exact h.dropped (hhandler.trans h.handler)

/-- **An unload** ends, and is not noticed. -/
theorem Mirrors.hidden (h : Mirrors c (e, w) (d, v)) {call : ExecutorCall}
    (hcall : isUnload call = true) (env : ExecutorEnv) :
    ∃ ret s', call.perform e w env = .ok (ret, s') ∧ Mirrors c s' (d, v) := by
  cases call with
  | deinitModel mode => exact ⟨_, _, rfl, h.deinitModel env mode⟩
  | autoUnload =>
    refine ⟨_, _, rfl, ?_⟩
    unfold NNExecutor.autoUnload
    split
    · rename_i tasks _
      have hwaits : Mirrors c ({ e with autoUnloadHandler := some tasks }, w) (d, v) :=
        h.dropped rfl
      exact hwaits.deinitModel env "DelayUnload"
    · exact h
  | _ => cases hcall

theorem Mirrors.setExtensionConfig (h : Mirrors c (e, w) (d, v)) (env : ExecutorEnv)
    (configs : List (String × Bytes)) :
    (e.setExtensionConfig env configs).1 = (d.setExtensionConfig env configs).1 ∧
      Mirrors c ((e.setExtensionConfig env configs).2, w)
        ((d.setExtensionConfig env configs).2, v) := by
  have hset : ∀ config : ExecutorConfig, Mirrors c ({ e with executorConfig := some config }, w)
      ({ d with executorConfig := some config }, v) := fun config =>
    { comes := h.comes.of_origin rfl
      config := rfl
      configured := rfl
      inputs := h.inputs
      inputs' := h.inputs'
      outputs := h.outputs
      outputs' := h.outputs'
      handler := h.handler
      handler' := h.handler'
      model := h.model
      seen := h.seen }
  obtain ⟨config, hsome⟩ := Option.isSome_iff_exists.mp h.configured
  have hsome' : d.executorConfig = some config := h.config.symm.trans hsome
  unfold NNExecutor.setExtensionConfig
  rw [hsome, hsome']
  have hcreated : ¬ (false && !env.createConfig) = true := by
    rw [Bool.false_and]
    exact Bool.false_ne_true
  dsimp only [Option.isNone_some, Option.getD_some]
  rw [if_neg hcreated, if_neg hcreated]
  split
  · exact ⟨rfl, hset config⟩
  · exact ⟨rfl, hset _⟩

/-- **Every other call** returns the same code, and leaves the same to be seen. -/
theorem Mirrors.shown (h : Mirrors c (e, w) (d, v)) (hsaved : SavedAs env c caches fs)
    {call : ExecutorCall} (hcall : SyncCall env fs call) (hshown : isUnload call = false)
    (xenv : ExecutorEnv) :
    Run.Alike (fun out out' => out.1 = out'.1 ∧ Mirrors c out.2 out'.2) (call.perform e w xenv)
      (call.perform d v xenv) := by
  cases call with
  | runSync renv inputTensors outputTensors =>
    obtain ⟨hcan, hprepare, hmodel⟩ := hcall
    exact h.syncWith hsaved hcan hprepare hmodel
      fun he hd hseen hrefs => tensorsWith_alike setSyncDims_blind he hd hseen hrefs
  | runSyncWithAipp renv inputTensors outputTensors =>
    obtain ⟨hcan, hprepare, hmodel⟩ := hcall
    exact h.syncWith hsaved hcan hprepare hmodel
      fun he hd hseen hrefs => runAippTensors_alike he hd hseen hrefs
  | setExtensionConfig configs => exact h.setExtensionConfig xenv configs
  | deinitModel | autoUnload => cases hshown
  | _ => exact hcall.elim

end Mirrors

/-- An executor that was just created and configured mirrors itself. -/
theorem mirrors_create {c : NNCompiler TensorDesc} {w : World} {e₀ e : NNExecutor} {created : Bool}
    {xenv : ExecutorEnv} {configs : List (String × Bytes)}
    (hcreated : (c.share w).1.createExecutor created = some e₀)
    (hconfig : e₀.setExtensionConfig xenv configs = (.success, e)) :
    Mirrors c (e, (c.share w).2) (e, (c.share w).2) := by
  have hcomes := createExecutor_comesFrom hcreated
  obtain ⟨preparedModel, -, he₀⟩ := NNCompiler.createExecutor_eq_some hcreated
  have hset : ∃ config, e = { e₀ with executorConfig := some config } := by
    unfold NNExecutor.setExtensionConfig at hconfig
    split at hconfig
    · cases hconfig
    dsimp only at hconfig
    split at hconfig
    · cases hconfig
    · cases (Prod.mk.inj hconfig).2
      exact ⟨_, rfl⟩
  obtain ⟨config, rfl⟩ := hset
  have hinputs : e₀.inputTensorDescs.length = c.inputTensorDescs.length := by
    rw [he₀]
    exact List.length_mapIdx
  have houtputs : e₀.outputTensorDescs.length = c.outputTensorDescs.length := by
    rw [he₀]
    exact List.length_mapIdx
  have hhandler : e₀.autoUnloadHandler.isSome := by
    rw [he₀]
    rfl
  exact {
    comes := hcomes.of_origin rfl
    config := rfl
    configured := rfl
    inputs := hinputs
    inputs' := hinputs
    outputs := houtputs
    outputs' := houtputs
    handler := hhandler
    handler' := hhandler
    model := by
      rw [he₀]
      rfl
    seen := rfl }

/-- **Unloads are not noticed**: with the model in its directory, and a device that loads it, any
sequence of synchronous runs and configurations with unloads in between returns the codes, asks
for the runs and leaves the tensors and the memory that it does without them. -/
theorem unloads_unseen {env : CacheEnv} {c : NNCompiler TensorDesc} {caches : List Bytes}
    {fs : FileSystem} {w : World} {e₀ e : NNExecutor} {created : Bool} {xenv : ExecutorEnv}
    {configs : List (String × Bytes)} {calls : List (ExecutorEnv × ExecutorCall)}
    (hsaved : SavedAs env c caches fs)
    (hcreated : (c.share w).1.createExecutor created = some e₀)
    (hconfig : e₀.setExtensionConfig xenv configs = (.success, e))
    (hcalls : ∀ call ∈ calls, SyncCall env fs call.2) :
    (Run.exec codedStep ([], e, (c.share w).2) calls).map observed
      = (Run.exec codedStep ([], e, (c.share w).2)
          (calls.filter fun call => !isUnload call.2)).map observed := by
  refine Run.exec_hidden (R := fun s t => s.1 = t.1 ∧ Mirrors c s.2 t.2)
    (C := fun call => SyncCall env fs call.2) (fun s t h => ?_)
    (fun s t call h hcall hhidden => ?_) (fun s t call h hcall hshown => ?_) hcalls
    ⟨rfl, mirrors_create hcreated hconfig⟩
  · exact congrArg₂ Prod.mk h.1 h.2.seen
  · obtain ⟨ret, s', hperform, hmirrors⟩ := h.2.hidden hhidden call.1
    refine ⟨(s.1, s'), ?_, h.1, hmirrors⟩
    unfold codedStep
    rw [hperform]
    exact congrArg (fun codes => Except.ok (codes, s')) (if_pos hhidden)
  · have halike := h.2.shown hsaved hcall hshown call.1
    obtain ⟨codes, s⟩ := s
    obtain ⟨codes', t⟩ := t
    obtain rfl : codes = codes' := h.1
    unfold codedStep
    cases hs : call.2.perform s.1 s.2 call.1 with
    | error fault =>
      cases ht : call.2.perform t.1 t.2 call.1 with
      | error fault' =>
        rw [hs, ht] at halike
        exact halike
      | ok out =>
        rw [hs, ht] at halike
        exact halike
    | ok out =>
      cases ht : call.2.perform t.1 t.2 call.1 with
      | error fault =>
        rw [hs, ht] at halike
        exact halike
      | ok out' =>
        rw [hs, ht] at halike
        obtain ⟨hret, hmirrors⟩ := halike
        refine ⟨?_, hmirrors⟩
        dsimp only
        rw [hshown, hret]

/-- Two runs, and an unload in between. -/
def unloadBetween : List (ExecutorEnv × ExecutorCall) :=
  [(reports [2], .runSync loadsSaved [some 0] [some 1]),
    ({ hasCache := true }, .deinitModel "FrozenDeinit"),
    (reports [2], .runSync loadsSaved [some 0] [some 1])]

theorem unloads_unseen_twoRuns : ∃ view,
    (Run.exec codedStep ([], { savedExecutor with executorConfig := some {} },
        ((NNCompiler.compilerOf [[1]] [2] [2]).share twoTensors).2) unloadBetween).map observed
      = .ok ([.success, .success], view) := by
  have hserved : ∀ call ∈ unloadBetween, SyncCall (NNCompiler.envOf 3) savedDirectory call.2 := by
    unfold unloadBetween
    simp only [List.forall_mem_cons]
    have hloads : SyncCall (NNCompiler.envOf 3) savedDirectory
        (.runSync loadsSaved [some 0] [some 1]) := ⟨loadsSaved_canReload, rfl, rfl⟩
    exact ⟨hloads, trivial, hloads, List.forall_mem_nil _⟩
  exact ⟨_, (@unloads_unseen _ _ _ _ twoTensors _ { savedExecutor with executorConfig := some {} }
    true {} [] unloadBetween compilerOf_savedAs rfl rfl hserved).trans rfl⟩

end NNExecutor

end NNRt
