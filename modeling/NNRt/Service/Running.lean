import NNRt.Executor.Timer
import NNRt.Service.Preparation

/-!
# The service while an executor lives

Runs, reloads, unloading and the threads that report latencies. What an executor
does beside talking to the service leaves its configuration alone; so whatever the
service answers, its session follows it.

- `serves_coreRunSync`, `serves_coreRunSyncWithAipp`: a run, with the thread it starts.
- `serves_deinitModel`, `serves_autoUnload`: unloading.
- `serves_updateModelLatency`: a thread.
-/

namespace NNRt

open NNRtServiceApi (getInstance)

/-! ## What leaves the configuration alone -/

namespace NNExecutor

variable {e e' : NNExecutor} {w w' : World} {ret : ReturnCode}

theorem posted_config (e : NNExecutor) (ret : ReturnCode) :
    (e.posted ret).executorConfig = e.executorConfig := by
  unfold posted
  split <;> rfl

theorem reload_config {env : ReloadEnv} (h : e.reload w env = .ok (ret, e', w')) :
    e'.executorConfig = e.executorConfig := by
  cases reload_reloaded h with
  | refused => rfl
  | unprepared => rfl
  | prepared => rfl

theorem runSyncTensors_config {env : ExecutorEnv} {inputTensors outputTensors : List (Option Nat)}
    (h : e.runSyncTensors w env inputTensors outputTensors = .ok (ret, e', w')) :
    e'.executorConfig = e.executorConfig := by
  cases hmodel : e.preparedModel with
  | none =>
    unfold runSyncTensors at h
    rw [checkInputDimRanges_unloaded hmodel] at h
    cases h
  | some model =>
    rw [(runSyncTensors_success_iff (by rw [hmodel]; rfl) h).1, posted_config]

theorem runAippTensors_config {env : ExecutorEnv} {inputTensors outputTensors : List (Option Nat)}
    (h : e.runAippTensors w env inputTensors outputTensors = .ok (ret, e', w')) :
    e'.executorConfig = e.executorConfig := by
  cases hmodel : e.preparedModel with
  | none =>
    unfold runAippTensors at h
    rw [checkInputDimRanges_unloaded hmodel] at h
    cases h
  | some model =>
    rw [(runAippTensors_success_iff (by rw [hmodel]; rfl) h).1, posted_config]

theorem deinitModel_config (e : NNExecutor) (env : ExecutorEnv) (mode : String) :
    (e.deinitModel env mode).2.executorConfig = e.executorConfig := by
  obtain ⟨model, handler, hrest⟩ := e.deinitModel_rest env mode
  rw [hrest]

/-- The calls that leave the service alone leave the configuration alone. -/
theorem perform_config {env : ExecutorEnv} {call : ExecutorCall} (hlocal : call.isLocal = true)
    (h : call.perform e w env = .ok (ret, e', w')) : e'.executorConfig = e.executorConfig := by
  cases call with
  | setInput => rw [(setInput_inputSet h).rest.1]
  | setInputFromMemory => rw [(setInputFromMemory_inputMemorySet h).rest.1]
  | setOutput => rw [(setOutput_outputSet h).rest.1]
  | setOutputFromMemory => rw [(setOutputFromMemory_outputMemorySet h).rest.1]
  | run =>
    cases run_ran h with
    | refused => rfl
    | failed => rfl
    | dims hinputs houtputs hdims =>
      rw [(setOutputDims_sameBuffers (aligned_of_tensorsOf houtputs) hdims).1.rest]
    | copied hdescs hinputs houtputs hcode hlength hdims =>
      rw [(setOutputDims_sameBuffers (aligned_of_tensorsOf houtputs) hdims).1.rest]
  | getInputDimRange inputIndex args =>
    unfold ExecutorCall.perform at h
    dsimp only at h
    split at h
    · cases h
    · rename_i hrange
      cases h
      obtain ⟨mins, maxs, rfl⟩ := getInputDimRange_vecs hrange
      rfl
  | createInputMemory | createOutputMemory | destroyInputMemory | destroyOutputMemory =>
    cases h
    rfl
  | runSync | runSyncWithAipp | setExtensionConfig | deinitModel | autoUnload
  | destroyPreparedModel => cases hlocal

end NNExecutor

section Functions

variable {p : Promises} {api : NNRtServiceApi} {q : ServiceSession} {e : ServedExecutor} {n : Nat}
  {env : ServedEnv}

/-- The session of an executor does not depend on what is beside the configuration. -/
theorem Follows.setExecutor {executor : NNExecutor} (h : Follows p e n q)
    (hconfig : executor.executorConfig = e.executor.executorConfig) :
    Follows p { e with executor := executor } n q where
  stage := h.stage
  ids := by
    unfold IdsOf
    dsimp only
    rw [hconfig]
    exact h.ids
  session := h.session
  hiai := h.hiai
  owes hp hq := by
    dsimp only
    rw [hconfig]
    exact h.owes hp hq
  latency := by
    unfold ServedExecutor.needsLatency
    dsimp only
    rw [hconfig]
    exact h.latency

namespace ServedExecutor

/-! ## Unloading -/

theorem serves_deinitScheduling {hiaimodelID : UInt32} {mode : String} (hmeets : Meets p api q)
    (h : Follows p e n q) :
    Serves p (e.deinitScheduling hiaimodelID mode) api q fun _ q' => Follows p e n q' := by
  unfold deinitScheduling
  refine serves_getInstance hmeets fun api hmeets _ => ?_
  split
  · exact serves_pure hmeets h
  rename_i hfound
  rw [Bool.not_eq_true', Bool.not_eq_false] at hfound
  refine serves_call hfound fun ret _ => ⟨_, move_eq h.stage, ?_⟩
  have hmeets' : Meets p api { q with stage := .live, last := .other } := hmeets.congr rfl rfl rfl
  have h' : Follows p e n { q with stage := .live, last := .other } :=
    h.congr (Nat.le_refl 3) rfl rfl rfl rfl rfl rfl
  split
  · exact serves_pure hmeets' h'
  · exact serves_pure hmeets' h'

theorem serves_deinitModel {mode : String} (hmeets : Meets p api q) (h : Follows p e n q) :
    Serves p (e.deinitModel env mode) api q fun out q' => Follows p out.2 n q' := by
  unfold deinitModel
  split
  · exact serves_pure hmeets h
  split
  · refine (serves_deinitScheduling hmeets h).bind fun _ api q' hmeets h => ?_
    exact serves_pure hmeets (h.setExecutor (e.executor.deinitModel_config env.executor mode))
  · exact serves_pure hmeets h

theorem serves_autoUnload (hmeets : Meets p api q) (h : Follows p e n q) :
    Serves p (e.autoUnload env) api q fun e' q' => Follows p e' n q' := by
  unfold autoUnload
  split
  · rename_i k hk
    have hpopped : Follows p
        { e with executor := { e.executor with autoUnloadHandler := some k } } n q :=
      h.setExecutor rfl
    refine (serves_deinitModel hmeets hpopped).bind fun out api q' hmeets h => ?_
    exact serves_pure hmeets h
  · exact serves_pure hmeets h

end ServedExecutor

/-! ## Runs -/

/-- The executor when the service may have asked for a latency. -/
theorem Follows.requested {needModelLatency : Option Bool} (h : Follows p e n q) :
    Follows p
      { e with executor := { e.executor with
          executorConfig := e.executor.executorConfig.map fun config =>
            { config with
              isNeedModelLatency := needModelLatency.getD config.isNeedModelLatency } } } n
      { q with
        requests := q.requests + (if needModelLatency = some true then 1 else 0)
        stage := .live, last := .other } where
  stage := Nat.le_refl 3
  ids := by
    unfold IdsOf
    dsimp only
    rw [Option.isSome_map]
    exact h.ids
  session := h.session
  hiai := h.hiai
  owes hp hq := by
    dsimp only
    rw [Option.isSome_map]
    exact h.owes hp hq
  latency := by
    have hlatency := h.latency
    unfold ServedExecutor.needsLatency at hlatency ⊢
    cases hconfig : e.executor.executorConfig with
    | none =>
      rw [hconfig] at hlatency
      exact hlatency.trans (Nat.add_le_add_left (Nat.le_add_right _ _) 1)
    | some config =>
      rw [hconfig] at hlatency
      rcases needModelLatency with _ | _ | _
      · exact hlatency
      · exact (Nat.le_add_right _ _).trans hlatency
      · change q.reports + n + 1 ≤ 1 + (q.requests + 1)
        omega

namespace ServedExecutor

/-- **`ReinitScheduling`**: a request for a latency is one the session counts. -/
theorem serves_reinitScheduling {reloadEnv : ReloadEnv} {hiaimodelID : UInt32}
    (hmeets : Meets p api q) (h : Follows p e n q) :
    Serves p (e.reinitScheduling env reloadEnv hiaimodelID) api q fun out q' =>
      Follows p out.2 n q' := by
  unfold reinitScheduling
  refine serves_getInstance hmeets fun api hmeets _ => ?_
  split
  · exact serves_pure hmeets h
  split
  · exact serves_pure hmeets h
  rename_i hrename
  rw [Bool.not_eq_true', Bool.not_eq_false] at hrename
  refine serves_liftFault_bind fun out _ => ?_
  obtain ⟨retCode, nnrtmodelID⟩ := out
  dsimp only
  split
  · exact serves_pure hmeets h
  refine serves_call hrename fun ret _ => ⟨_, move_eq h.stage, ?_⟩
  -- The questions change nothing but how far the conversation is.
  have hmeets₁ : ∀ last, Meets p api { q with stage := .live, last := last } :=
    fun _ => hmeets.congr rfl rfl rfl
  have h₁ : ∀ last, Follows p e n { q with stage := .live, last := last } :=
    fun _ => h.congr (Nat.le_refl 3) rfl rfl rfl rfl rfl rfl
  split
  · exact serves_pure (hmeets₁ _) (h₁ _)
  rename_i hret
  rw [not_not] at hret
  subst hret
  split
  · exact serves_pure (hmeets₁ _) (h₁ _)
  rename_i hsupport
  rw [Bool.not_eq_true', Bool.not_eq_false] at hsupport
  refine serves_call hsupport fun ans _ => ⟨_, move_eq (Nat.le_refl 3), ?_⟩
  obtain ⟨ret, supportStat⟩ := ans
  dsimp only
  split
  · exact serves_pure (hmeets₁ _) (h₁ _)
  rename_i hret
  split
  · exact serves_pure (hmeets₁ _) (h₁ _)
  rename_i hsupported
  split
  · exact serves_pure (hmeets₁ _) (h₁ _)
  rename_i hfound
  rw [Bool.not_eq_true', Bool.not_eq_false] at hfound hsupported
  rw [not_not] at hret
  subst hret hsupported
  refine serves_call hfound fun ans _ =>
    ⟨_, ServiceSession.next_autoReinitScheduling rfl (Nat.le_refl 3), ?_⟩
  have hmeets₂ : Meets p api { q with
      requests := q.requests + if ans.2 = some true then 1 else 0
      stage := .live, last := .other } := hmeets.congr rfl rfl rfl
  split
  · exact serves_pure hmeets₂ h.requested
  · exact serves_pure hmeets₂ h.requested

/-- The model is loaded again, scheduled and registered. -/
theorem serves_autoReload {w : World} {reloadEnv : ReloadEnv} {modelId : UInt32}
    (hmeets : Meets p api q) (h : Follows p e n q) :
    Serves p (e.autoReload w env reloadEnv modelId) api q fun out q' =>
      Follows p out.2.1 n q' := by
  unfold autoReload
  refine serves_liftFault_bind fun out hout => ?_
  obtain ⟨ret, executor, w⟩ := out
  have h := h.setExecutor (NNExecutor.reload_config hout)
  dsimp only
  split
  · exact serves_pure hmeets h
  split
  · exact serves_throw
  refine Serves.bind (serves_reinitScheduling hmeets h) fun out api q hmeets h => ?_
  refine Serves.bind (serves_setDeinitModelCallBack hmeets h) fun out api q hmeets h => ?_
  exact serves_pure hmeets h.1

/-- A synchronous run; `tensors` leaves the configuration as it is. -/
theorem serves_runWith {tensors : NNExecutor → World → Outcome} {w : World}
    {reloadEnv : ReloadEnv} {inputSize outputSize : Nat}
    (htensors : ∀ executor w ret executor' w', tensors executor w = .ok (ret, executor', w') →
      executor'.executorConfig = executor.executorConfig)
    (hmeets : Meets p api q) (h : Follows p e n q) :
    Serves p (e.runWith tensors w env reloadEnv inputSize outputSize) api q fun out q' =>
      Follows p out.2.1 n q' := by
  unfold runWith
  split
  · exact serves_throw
  have h : Follows p { e with executor := { e.executor with autoUnloadHandler := some 0 } } n q :=
    h.setExecutor rfl
  dsimp only
  split
  · exact serves_pure hmeets h
  split
  · exact serves_pure hmeets h
  -- What is done with the tensors once there is a model, if there is one.
  have hrun : ∀ (out : ReturnCode × ServedExecutor × World) (api : NNRtServiceApi)
      (q : ServiceSession), Meets p api q → Follows p out.2.1 n q →
      Serves p (if out.1 ≠ .success then pure (out.1, out.2.1, out.2.2) else do
        let done ← ServiceM.liftFault (tensors out.2.1.executor out.2.2)
        return (done.1, { out.2.1 with executor := done.2.1 }, done.2.2)) api q fun out q' =>
          Follows p out.2.1 n q' := by
    intro out api q hmeets h
    split
    · exact serves_pure hmeets h
    · refine serves_liftFault_bind fun out hout => ?_
      exact serves_pure hmeets (h.setExecutor (htensors _ _ _ _ _ hout))
  split
  · exact hrun (.success, _, w) api q hmeets h
  · exact (serves_autoReload hmeets h).bind hrun

/-! ## Runs of the core -/

theorem serves_addSessionId (hmeets : Meets p api q) (h : Follows p e n q) :
    Serves p (e.addSessionId env) api q fun e' q' => Follows p e' n q' := by
  have hadded : ∀ {q'}, q'.stage.rank ≤ 3 → q'.ids = q.ids → q'.hiaiCallBack = q.hiaiCallBack →
      q'.owesUnload = q.owesUnload → q'.requests = q.requests → q'.reports = q.reports →
      Follows p { e with isAddSession := true } n q' := by
    intro q' hstage hids hhiai howes hrequests hreports
    refine ⟨hstage, ?_, fun _ => rfl, fun hq => h.hiai (hhiai ▸ hq),
      fun hp hq => h.owes hp (howes ▸ hq), ?_⟩
    · unfold IdsOf
      rw [hids]
      exact h.ids
    · rw [hrequests, hreports]
      exact h.latency
  unfold addSessionId
  split
  · exact serves_pure hmeets h
  rename_i hnone
  refine serves_getInstance hmeets fun api hmeets _ => ?_
  split
  · rename_i hfound
    rw [Bool.and_eq_true] at hfound
    refine serves_call hfound.2 fun ret _ =>
      ⟨_, ServiceSession.next_addSessionId (fun hq => hnone (h.session hq)) h.stage, ?_⟩
    exact serves_pure (hmeets.congr rfl rfl rfl) (hadded (Nat.le_refl 3) rfl rfl rfl rfl rfl)
  · exact serves_pure hmeets (hadded h.stage rfl rfl rfl rfl rfl)

/-- What `RunSync` does to the configuration when it has a latency to report. -/
structure Measured (e : ServedExecutor) (ret : ReturnCode) (e' : ServedExecutor) : Prop where
  ret : ret = .success
  executor : e'.executor
    = { e.executor with executorConfig := some { isNeedModelLatency := false } }
  id : e'.hiaiModelId = e.hiaiModelId
  session : e'.isAddSession = e.isAddSession
  callback : e'.isHiaiModel = e.isHiaiModel

theorem setExtensionConfig_measured {ret : ReturnCode} {e' : ServedExecutor}
    (hsome : e.executor.executorConfig.isSome = true)
    (h : e.setExtensionConfig env [("isNeedModelLatency", [0])] = .ok (ret, e')) :
    Measured e ret e' := by
  have hconfig : e.executor.setExtensionConfig env.executor [("isNeedModelLatency", [0])]
      = (.success,
        { e.executor with executorConfig := some { isNeedModelLatency := false } }) := by
    obtain ⟨config, hconfig⟩ := Option.isSome_iff_exists.mp hsome
    unfold NNExecutor.setExtensionConfig
    rw [hconfig]
    rfl
  unfold setExtensionConfig at h
  rw [hconfig] at h
  dsimp only at h
  unfold idsAfter at h
  rw [hsome] at h
  cases h
  exact ⟨rfl, rfl, rfl, rfl, rfl⟩

/-- A run with a latency has a thread to report it. -/
theorem serves_timed {runs : ServedExecutor → ServiceM (ReturnCode × ServedExecutor × World)}
    {w : World} {clock : Clock}
    (hruns : Serves p (runs e) api q fun out q' => Follows p out.2.1 n q')
    (hmeets : Meets p api q) (h : Follows p e n q) :
    Serves p (timed runs e w env clock) api q fun out q' =>
      Follows p out.2.1 (n + out.2.2.2.toList.length) q' := by
  unfold timed
  split
  · exact serves_pure hmeets h
  dsimp only
  refine hruns.bind fun out api q hmeets h => ?_
  obtain ⟨ret, e, w⟩ := out
  dsimp only at h ⊢
  split
  · exact serves_pure hmeets h
  split
  · rename_i hneeds
    refine serves_liftFault_bind fun out hout => ?_
    obtain ⟨ret, e'⟩ := out
    have hsome : e.executor.executorConfig.isSome = true := by
      unfold needsLatency at hneeds
      cases hconfig : e.executor.executorConfig with
      | none =>
        rw [hconfig] at hneeds
        cases hneeds
      | some config => rfl
    obtain ⟨-, hexecutor, hid, hsession, hhiai⟩ :=
      setExtensionConfig_measured (by rw [Option.isSome_map]; exact hsome) hout
    have hconfig := congrArg NNExecutor.executorConfig hexecutor
    dsimp only at hconfig
    refine serves_pure hmeets ⟨h.stage, ?_, fun hq => hsession.trans (h.session hq),
      fun hq => hhiai.trans (h.hiai hq), fun _ _ => by rw [hconfig]; rfl, ?_⟩
    · obtain ⟨a, hids, hsame⟩ := h.ids
      refine ⟨a, fun i hi => (hids i hi).imp_right fun hi => ⟨by rw [hconfig]; rfl, ?_⟩, fun _ ha => ?_⟩
      · exact hi.2.trans hid.symm
      · exact hid.trans (hsame hsome ha)
    · -- The flag that is cleared makes room for the thread.
      have hlatency := h.latency
      rw [if_pos hneeds] at hlatency
      unfold needsLatency
      rw [hconfig]
      exact hlatency
  · exact serves_pure hmeets h

/-- **`OH_NNExecutor_RunSync`.** -/
theorem serves_coreRunSync {w : World} {reloadEnv : ReloadEnv} {clock : Clock}
    {inputTensors outputTensors : List (Option Nat)} (hmeets : Meets p api q)
    (h : Follows p e n q) :
    Serves p (e.coreRunSync w env reloadEnv clock inputTensors outputTensors) api q fun out q' =>
      Follows p out.2.1 (n + out.2.2.2.toList.length) q' := by
  unfold coreRunSync
  split
  · exact serves_pure hmeets h
  · refine (serves_addSessionId hmeets h).bind fun e api q hmeets h => ?_
    refine serves_timed ?_ hmeets h
    exact serves_runWith (fun _ _ _ _ _ => NNExecutor.runSyncTensors_config) hmeets h

/-- **`OH_NNExecutor_RunSyncWithAipp`.** -/
theorem serves_coreRunSyncWithAipp {w : World} {reloadEnv : ReloadEnv} {clock : Clock}
    {inputTensors outputTensors : List (Option Nat)} {aippString : String}
    (hmeets : Meets p api q) (h : Follows p e n q) :
    Serves p (e.coreRunSyncWithAipp w env reloadEnv clock inputTensors outputTensors aippString)
      api q fun out q' => Follows p out.2.1 (n + out.2.2.2.toList.length) q' := by
  unfold coreRunSyncWithAipp
  split
  · exact serves_pure hmeets h
  · refine serves_timed ?_ hmeets h
    exact serves_runWith (fun _ _ _ _ _ => NNExecutor.runAippTensors_config) hmeets h

/-! ## Threads -/

/-- **`UpdateModelLatency`**: a thread is gone once it has reported. -/
theorem serves_updateModelLatency {modelLatency : Int32} (hmeets : Meets p api q)
    (h : Follows p e (n + 1) q) :
    Serves p (updateModelLatency (configPtr (some e)) modelLatency) api q fun _ q' =>
      Follows p e n q' := by
  have hfewer : Follows p e n q :=
    ⟨h.stage, h.ids, h.session, h.hiai, h.owes, by have := h.latency; omega⟩
  unfold updateModelLatency configPtr
  dsimp only
  cases hconfig : e.executor.executorConfig with
  | none => exact serves_pure hmeets hfewer
  | some config =>
    refine serves_getInstance hmeets fun api hmeets _ => ?_
    split
    · exact serves_pure hmeets hfewer
    split
    · exact serves_pure hmeets hfewer
    rename_i hfound
    rw [Bool.not_eq_true', Bool.not_eq_false] at hfound
    refine serves_call_last hmeets hfound fun ret _ => ⟨_, move_eq h.stage, fun hmeets => ?_⟩
    refine ⟨hmeets.congr rfl rfl rfl, Nat.le_refl 3, ?_, h.session, h.hiai, h.owes, ?_⟩
    · obtain ⟨a, hids, hsame⟩ := h.ids
      refine ⟨a, fun i hi => ?_, hsame⟩
      rcases List.mem_append.mp hi with hi | hi
      · exact hids i hi
      · exact Or.inr ⟨by rw [hconfig]; rfl, List.mem_singleton.mp hi⟩
    · have hlatency := h.latency
      dsimp only
      omega

/-- A thread that has lost its executor says nothing, and may read what is freed. -/
theorem obeys_updateModelLatency {modelLatency : Int32} (hmeets : Meets p api q) :
    Asking.Obeys (fun _ => Relied p) ServiceSession.nextOf (fun fault => fault = .freedConfig)
      (fun _ api' q' => Meets p api' q' ∧ api.Grows api' ∧ q' = q)
      (updateModelLatency (configPtr none) modelLatency) api q := by
  unfold updateModelLatency configPtr
  refine Asking.Obeys.bind (obeys_getInstance (fun _ => rfl) (fun _ => rfl) hmeets.consistent
    hmeets.paired) fun client api' q' h => ?_
  obtain ⟨rfl, rfl, hready⟩ := h
  have hmeets := hmeets.grow hready.toGrown
  split
  · exact ⟨hmeets, hready.grows, rfl⟩
  split
  · exact ⟨hmeets, hready.grows, rfl⟩
  · exact rfl

end ServedExecutor

end Functions

end NNRt
