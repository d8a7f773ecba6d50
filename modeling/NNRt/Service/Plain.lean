import NNRt.Service.Guarantees

/-!
# What the service can decide

The same process without a service: the executors with what they do themselves, and
nothing that is said. Where the service is asked whether something may be done, and
whether latencies are wanted, there is a choice instead; so there is where a compiler is
told whether a model is too large.

- `PlainSystem.step`: one event, with what is chosen.
- `ServiceSystem.plain`: a process without its service.
- `step_plain` / `run_plain`: **a service decides what is built and constructed, and
  nothing else**: every run is one without a service, for some choices.
-/

namespace NNRt

open NNRtServiceApi (getInstance)

/-! ## Without a service -/

namespace NNExecutor

/-- The executor when it was asked for latencies, or was told to stop. -/
def flag (e : NNExecutor) (needModelLatency : Bool) : NNExecutor :=
  { e with executorConfig := e.executorConfig.map fun _ => ⟨needModelLatency⟩ }

/-- The executor with the configuration `ExecutorPrepare` gives it, if there is memory. -/
def configured (e : NNExecutor) (createConfig needModelLatency : Bool) : NNExecutor :=
  { e with executorConfig := if createConfig then some ⟨needModelLatency⟩ else none }

end NNExecutor

/-- The process without the service. -/
structure PlainSystem where
  compilers : List (Option (NNCompiler Nat)) := []
  executors : List (Option NNExecutor) := []
  world : World := {}
  codes : List ReturnCode := []

/-- What a service is asked: whether something may be done, whether it wants latencies, and, where
the memory a model takes is compared with a limit, how the comparison ends. -/
structure Choice where
  passes : Bool := true
  needModelLatency : Bool := false
  isExceedRamLimit : Bool := false

namespace PlainSystem

open ServedExecutor (countsAllowed)

/-- A run of the core without the service. -/
def run (allowed : Bool) (runs : NNExecutor → World → Outcome) (e : NNExecutor) (w : World) :
    Outcome :=
  if !allowed ∨ e.executorConfig.isNone then .ok (.invalidParameter, e, w) else runs e w

/-- What a construction does without the service. -/
def construct (compiler : Option (NNCompiler Nat)) (created createConfig passes : Bool)
    (needModelLatency : Bool) : Option NNExecutor :=
  (compiler.bind fun compiler => compiler.createExecutor created).bind fun e =>
    if passes then some (e.configured createConfig needModelLatency) else none

/-- Another state of an executor, and the code of the call that has led to it, if it has one. -/
def replace (s : PlainSystem) (i : Nat) (e : Option NNExecutor) (w : World)
    (codes : List ReturnCode) : PlainSystem :=
  { s with executors := s.executors.set i e, world := w, codes := s.codes ++ codes }

/-- One event, with what is chosen. -/
def step (s : PlainSystem) (call : (ServedEnv × ServiceEvent) × Choice) :
    Except Fault PlainSystem :=
  let env := call.1.1.executor
  let choice := call.2
  match call.1.2 with
  | .user w => .ok { s with world := w }
  | .compilation c => .ok { s with compilers := s.compilers ++ [c.compiler] }
  | .build k _ built =>
    match s.compilers[k]?, built choice.isExceedRamLimit with
    | some _, some (compiler, _) =>
      if choice.passes then
        let (compiler, w) := compiler.share s.world
        .ok { s with compilers := s.compilers.set k (some compiler), world := w }
      else .ok s
    | _, _ => .ok s
  | .construct k backend created _ =>
    match s.compilers[k]? with
    | none => .ok s
    | some compiler =>
      if !backend then .ok s
      else .ok { s with executors := s.executors ++
        [construct compiler created env.createConfig choice.passes choice.needModelLatency] }
  | .runSync i reloadEnv _ inputTensors outputTensors =>
    match s.executors[i]?.join with
    | none => .ok s
    | some e =>
      (run (countsAllowed inputTensors outputTensors)
        (fun e w => e.runSync w env reloadEnv inputTensors outputTensors) e s.world).map
          fun (ret, e, w) => s.replace i (some (e.flag choice.needModelLatency)) w [ret]
  | .runSyncWithAipp i reloadEnv _ inputTensors outputTensors aippString =>
    match s.executors[i]?.join with
    | none => .ok s
    | some e =>
      (run (countsAllowed inputTensors outputTensors && aippString ≠ "")
        (fun e w => e.runSyncWithAipp w env reloadEnv inputTensors outputTensors) e s.world).map
          fun (ret, e, w) => s.replace i (some (e.flag choice.needModelLatency)) w [ret]
  | .call i c =>
    match s.executors[i]?.join with
    | none => .ok s
    | some e => (c.1.perform e s.world env).map fun (ret, e, w) => s.replace i (some e) w [ret]
  | .deinitModel i mode =>
    match s.executors[i]?.join with
    | none => .ok s
    | some e => .ok (s.replace i (some (e.deinitModel env mode).2) s.world [])
  | .autoUnload i =>
    match s.executors[i]?.join with
    | none => .ok s
    | some e => .ok (s.replace i (some (e.autoUnload env)) s.world [])
  | .latencyThread _ => .ok s
  | .destroy i backend =>
    match s.executors[i]?.join with
    | none => .ok s
    | some e =>
      if !backend then .ok s
      else
        match e.destroyPreparedModel.2.destroy s.world with
        | (some fault, _) => .error fault
        | (none, w) => .ok (s.replace i none w [])

end PlainSystem

/-- A process without its service. -/
def ServiceSystem.plain (s : ServiceSystem) : PlainSystem where
  compilers := s.compilations.map ServedCompilation.compiler
  executors := s.executors.map (Option.map ServedExecutor.executor)
  world := s.world
  codes := s.codes

/-! ## Programs, whatever they are answered -/

/-- What is returned, whatever the answers are. -/
def Leaves {α : Type} (m : ServiceM α) (post : α → Prop) : Prop :=
  ∀ api, Asking.Obeys (fun _ _ _ => True) (fun (_ : Unit) _ => some ()) (fun _ => True)
    (fun a _ _ => post a) m api ()

section Rules

variable {α β : Type} {m : ServiceM α} {f : α → ServiceM β} {post : β → Prop}

theorem leaves_pure {a : β} (h : post a) : Leaves (pure a) post :=
  fun _ => h

theorem leaves_throw {fault : ServiceFault} : Leaves (throw fault) post :=
  fun _ => trivial

theorem Leaves.bind {mid : α → Prop} (hm : Leaves m mid) (hf : ∀ a, mid a → Leaves (f a) post) :
    Leaves (m >>= f) post :=
  fun api => Asking.Obeys.bind (hm api) fun a api' _ ha => hf a ha api'

theorem leaves_pure_bind {a : α} (h : Leaves (f a) post) : Leaves (pure a >>= f) post :=
  h

theorem leaves_liftFault_bind {x : Except Fault α} (h : ∀ a, x = .ok a → Leaves (f a) post) :
    Leaves (ServiceM.liftFault x >>= f) post := by
  cases x with
  | error fault => exact fun _ => Asking.obeys_bind.mpr trivial
  | ok a => exact h a rfl

/-- The client is whatever it is. -/
theorem leaves_getInstance_bind {f : NNRtServiceApi → ServiceM β}
    (h : ∀ api, Leaves (f api) post) : Leaves (getInstance >>= f) post := by
  refine @Leaves.bind _ _ _ _ _ (fun _ => True) (fun api => ?_) fun client _ => h client
  unfold getInstance
  simp only [Asking.obeys_bind, Asking.obeys_get]
  split
  · exact fun _ _ => ⟨(), rfl, trivial⟩
  · intro opened _
    refine ⟨(), rfl, ?_⟩
    cases opened with
    | true => exact fun _ _ => ⟨(), rfl, trivial⟩
    | false => exact trivial

/-- And so is the answer. -/
theorem leaves_call_bind {api : NNRtServiceApi} {c : ServiceCall} {f : c.Answer → ServiceM β}
    (h : ∀ ans, Leaves (f ans) post) : Leaves (api.call c >>= f) post := by
  intro api'
  unfold NNRtServiceApi.call
  split
  · exact Asking.obeys_bind.mpr fun ans _ => ⟨(), rfl, h ans api'⟩
  · exact Asking.obeys_bind.mpr trivial

theorem leaves_call {api : NNRtServiceApi} {c : ServiceCall} {post : c.Answer → Prop}
    (h : ∀ ans, post ans) : Leaves (api.call c) post := by
  intro api'
  unfold NNRtServiceApi.call
  split
  · exact fun ans _ => ⟨(), rfl, h ans⟩
  · exact trivial

/-- What a run returns is what is stated. -/
theorem Leaves.run {party : ServiceParty} {api api' : NNRtServiceApi} {a : β}
    {said : List ServiceExchange} {m : ServiceM β} (h : Leaves m post)
    (hrun : m.run party api = (said, .ok (a, api'))) : post a := by
  have hparty : Dialogue.Reliable (fun _ _ _ => True) (fun (_ : Unit) _ => some ()) () party :=
    fun _ _ _ _ => trivial
  obtain ⟨_, -, hend⟩ := (h api).run hparty
  rw [hrun] at hend
  exact hend

end Rules

/-! ## The flag -/

namespace NNExecutor

/-- Executors that differ in whether they are asked for latencies. -/
def Flagged (e e' : NNExecutor) : Prop :=
  ∃ needModelLatency, e' = e.flag needModelLatency

theorem Flagged.refl (e : NNExecutor) : Flagged e e := by
  cases hconfig : e.executorConfig with
  | none =>
    refine ⟨false, ?_⟩
    unfold flag
    rw [hconfig, Option.map_none, ← hconfig]
  | some config =>
    refine ⟨config.isNeedModelLatency, ?_⟩
    unfold flag
    rw [hconfig, Option.map_some, ← hconfig]

theorem flag_flag (e : NNExecutor) (b c : Bool) : (e.flag b).flag c = e.flag c := by
  unfold flag
  dsimp only
  rw [Option.map_map]
  rfl

/-- The executor that is told to stop. -/
theorem flagged_false {e : NNExecutor} (h : e.executorConfig.isSome = true) :
    Flagged e { e with executorConfig := some ⟨false⟩ } := by
  obtain ⟨config, hconfig⟩ := Option.isSome_iff_exists.mp h
  refine ⟨false, ?_⟩
  unfold flag
  rw [hconfig]
  rfl

theorem Flagged.trans {e₁ e₂ e₃ : NNExecutor} (h : Flagged e₁ e₂) (h' : Flagged e₂ e₃) :
    Flagged e₁ e₃ := by
  obtain ⟨b, rfl⟩ := h
  obtain ⟨c, rfl⟩ := h'
  exact ⟨c, e₁.flag_flag b c⟩

/-- The configuration is not looked at once the model is there. -/
def IgnoresFlag (tensors : NNExecutor → World → Outcome) : Prop :=
  ∀ e w b, tensors (e.flag b) w = (tensors e w).map fun out => (out.1, out.2.1.flag b, out.2.2)

theorem ignoresFlag_runSyncTensors (env : ExecutorEnv)
    (inputTensors outputTensors : List (Option Nat)) :
    IgnoresFlag fun e w => e.runSyncTensors w env inputTensors outputTensors := by
  intro e w b
  have hranges : (e.flag b).checkInputDimRanges w env inputTensors
      = e.checkInputDimRanges w env inputTensors := rfl
  have hmodel : (e.flag b).preparedModel = e.preparedModel := rfl
  have hdescs : (e.flag b).outputTensorDescs = e.outputTensorDescs := rfl
  dsimp only
  unfold runSyncTensors
  rw [hranges, hmodel, hdescs]
  cases e.checkInputDimRanges w env inputTensors with
  | error fault => rfl
  | ok ret =>
    dsimp only
    split
    · rfl
    split
    · cases e.preparedModel with
      | none => rfl
      | some model =>
        dsimp only
        split
        · rfl
        split
        · rfl
        split
        · rfl
        · rfl
        · rfl
    · rfl

theorem ignoresFlag_runAippTensors (env : ExecutorEnv)
    (inputTensors outputTensors : List (Option Nat)) :
    IgnoresFlag fun e w => e.runAippTensors w env inputTensors outputTensors := by
  intro e w b
  have hranges : (e.flag b).checkInputDimRanges w env inputTensors
      = e.checkInputDimRanges w env inputTensors := rfl
  have hmodel : (e.flag b).preparedModel = e.preparedModel := rfl
  have hdescs : (e.flag b).outputTensorDescs = e.outputTensorDescs := rfl
  have hrun : (e.flag b).runAippModel w env inputTensors outputTensors
      = (e.runAippModel w env inputTensors outputTensors).map
          fun out => (out.1, out.2.1.flag b, out.2.2) := by
    unfold runAippModel
    rw [hmodel, hdescs]
    split
    · cases e.preparedModel with
      | none => rfl
      | some model =>
        dsimp only
        split
        · rfl
        split
        · rfl
        split
        · rfl
        split
        · rfl
        · rfl
    · rfl
  dsimp only
  unfold runAippTensors
  rw [hranges, hrun]
  cases e.checkInputDimRanges w env inputTensors with
  | error fault => rfl
  | ok ret =>
    dsimp only
    split
    · rfl
    · cases e.runAippModel w env inputTensors outputTensors with
      | error fault => rfl
      | ok out =>
        obtain ⟨ret, e', w'⟩ := out
        cases ret <;> rfl

end NNExecutor

/-! ## The functions -/

namespace ServedExecutor

open NNExecutor (Flagged IgnoresFlag syncWith)

variable {e : ServedExecutor} {env : ServedEnv} {w : World} {reloadEnv : ReloadEnv}

/-- Callbacks are none of the executor's business. -/
theorem leaves_setDeinitModelCallBack :
    Leaves (e.setDeinitModelCallBack env) fun out => out.2.executor = e.executor := by
  unfold setDeinitModelCallBack
  refine leaves_getInstance_bind fun api => ?_
  split
  · exact leaves_pure rfl
  split
  · exact leaves_pure rfl
  split
  · exact leaves_pure rfl
  refine leaves_call_bind fun ret => ?_
  split
  · exact leaves_pure rfl
  split
  · exact leaves_pure rfl
  split
  · split
    · exact leaves_pure rfl
    refine leaves_call_bind fun ret => ?_
    split
    · exact leaves_pure rfl
    · exact leaves_pure rfl
  · exact leaves_pure rfl

theorem leaves_deinitModel {mode : String} :
    Leaves (e.deinitModel env mode) fun out =>
      out.2.executor = (e.executor.deinitModel env.executor mode).2 := by
  unfold deinitModel
  split
  · rename_i hmodel
    refine leaves_pure ?_
    unfold NNExecutor.deinitModel
    rw [hmodel]
  rename_i model hmodel
  split
  · refine @Leaves.bind _ _ _ _ _ (fun _ => True) ?_ fun _ _ => leaves_pure rfl
    unfold deinitScheduling
    refine leaves_getInstance_bind fun api => ?_
    split
    · exact leaves_pure trivial
    refine leaves_call_bind fun ret => ?_
    split
    · exact leaves_pure trivial
    · exact leaves_pure trivial
  · rename_i hcache
    refine leaves_pure ?_
    unfold NNExecutor.deinitModel
    rw [hmodel]
    dsimp only
    rw [if_neg hcache]

theorem leaves_autoUnload :
    Leaves (e.autoUnload env) fun e' => e'.executor = e.executor.autoUnload env.executor := by
  unfold autoUnload NNExecutor.autoUnload
  cases e.executor.autoUnloadHandler with
  | none => exact leaves_pure rfl
  | some n =>
    cases n with
    | zero => exact leaves_pure rfl
    | succ n => exact leaves_deinitModel.bind fun out h => leaves_pure h

/-- The service may ask for latencies. -/
theorem leaves_reinitScheduling {hiaimodelID : UInt32} :
    Leaves (e.reinitScheduling env reloadEnv hiaimodelID) fun out =>
      Flagged e.executor out.2.executor := by
  have hsame : ∀ ret : ReturnCode,
      Leaves (pure (ret, e)) fun out => Flagged e.executor out.2.executor :=
    fun _ => leaves_pure (.refl _)
  unfold reinitScheduling
  refine leaves_getInstance_bind fun api => ?_
  split
  · exact hsame _
  split
  · exact hsame _
  refine leaves_liftFault_bind fun out _ => ?_
  obtain ⟨retCode, nnrtmodelID⟩ := out
  dsimp only
  split
  · exact hsame _
  refine leaves_call_bind fun ret => ?_
  split
  · exact hsame _
  split
  · exact hsame _
  refine leaves_call_bind fun ans => ?_
  obtain ⟨ret, supportStat⟩ := ans
  dsimp only
  split
  · exact hsame _
  split
  · exact hsame _
  split
  · exact hsame _
  refine leaves_call_bind fun ans => ?_
  obtain ⟨ret, needModelLatency⟩ := ans
  have hflagged : Flagged e.executor { e.executor with
      executorConfig := e.executor.executorConfig.map fun config =>
        { config with
          isNeedModelLatency := needModelLatency.getD config.isNeedModelLatency } } := by
    cases needModelLatency with
    | none =>
      obtain ⟨b, hb⟩ := Flagged.refl e.executor
      refine ⟨b, (congrArg (fun config => { e.executor with executorConfig := config }) ?_).trans hb⟩
      exact Option.map_id'
    | some b => exact ⟨b, rfl⟩
  dsimp only
  split
  · exact leaves_pure hflagged
  · exact leaves_pure hflagged

/-- A reload is one without the service, but for the flag. -/
theorem leaves_autoReload {modelId : UInt32} :
    Leaves (e.autoReload w env reloadEnv modelId) fun out => ∃ e₀,
      e.executor.autoReload w reloadEnv = .ok (out.1, e₀, out.2.2) ∧
        Flagged e₀ out.2.1.executor := by
  unfold autoReload NNExecutor.autoReload
  refine leaves_liftFault_bind fun out hreload => ?_
  obtain ⟨ret, executor, w'⟩ := out
  rw [hreload]
  dsimp only
  split
  · rename_i hret
    cases ret with
    | success => exact absurd rfl hret
    | _ => exact leaves_pure ⟨executor, rfl, .refl _⟩
  rename_i hret
  rw [not_not] at hret
  subst hret
  dsimp only
  cases executor.executorConfig with
  | none => exact leaves_throw
  | some config =>
    refine leaves_reinitScheduling.bind fun out hflagged => ?_
    refine leaves_setDeinitModelCallBack.bind fun out' hsame => ?_
    exact leaves_pure ⟨executor, rfl, by rw [hsame]; exact hflagged⟩

/-- **A run** is one without the service, but for the flag. -/
theorem leaves_runWith {tensors : NNExecutor → World → Outcome} (htensors : IgnoresFlag tensors)
    {inputTensors outputTensors : List (Option Nat)} :
    Leaves (e.runWith tensors w env reloadEnv inputTensors.length outputTensors.length) fun out =>
      ∃ e₀, syncWith tensors e.executor w reloadEnv inputTensors outputTensors
        = .ok (out.1, e₀, out.2.2) ∧ Flagged e₀ out.2.1.executor := by
  unfold runWith syncWith
  cases e.executor.autoUnloadHandler with
  | none => exact leaves_throw
  | some tasks => ?_
  dsimp only
  by_cases hinputs : e.executor.inputTensorDescs.length ≠ inputTensors.length
  · simp only [if_pos hinputs]
    exact leaves_pure ⟨_, rfl, .refl _⟩
  by_cases houtputs : e.executor.outputTensorDescs.length ≠ outputTensors.length
  · simp only [if_neg hinputs, if_pos houtputs]
    exact leaves_pure ⟨_, rfl, .refl _⟩
  by_cases hmodel : e.executor.preparedModel.isSome = true
  · simp only [if_neg hinputs, if_neg houtputs, if_pos hmodel]
    refine leaves_pure_bind (leaves_liftFault_bind fun out htensors => ?_)
    exact leaves_pure ⟨_, htensors, .refl _⟩
  simp only [if_neg hinputs, if_neg houtputs, if_neg hmodel]
  unfold NNExecutor.reloadAndRun
  refine leaves_autoReload.bind fun out hreload => ?_
  obtain ⟨ret, e₁, w₁⟩ := out
  obtain ⟨e₀, hreload, b, hb⟩ := hreload
  dsimp only at hreload hb ⊢
  rw [hreload]
  split
  · rename_i hret
    cases ret with
    | success => exact absurd rfl hret
    | _ => exact leaves_pure ⟨e₀, rfl, b, hb⟩
  rename_i hret
  rw [not_not] at hret
  subst hret
  refine leaves_liftFault_bind fun out hrun => ?_
  rw [hb, htensors] at hrun
  obtain ⟨out₀, hout₀, rfl⟩ : ∃ out₀, tensors e₀ w₁ = .ok out₀ ∧
      out = (out₀.1, out₀.2.1.flag b, out₀.2.2) := by
    cases hplain : tensors e₀ w₁ with
    | error fault =>
      rw [hplain] at hrun
      cases hrun
    | ok out₀ =>
      rw [hplain] at hrun
      cases hrun
      exact ⟨out₀, rfl, rfl⟩
  exact leaves_pure ⟨out₀.2.1, hout₀, b, rfl⟩

theorem leaves_addSessionId : Leaves (e.addSessionId env) fun e' => e'.executor = e.executor := by
  unfold addSessionId
  split
  · exact leaves_pure rfl
  refine leaves_getInstance_bind fun api => ?_
  split
  · exact leaves_call_bind fun ret => leaves_pure rfl
  · exact leaves_pure rfl

theorem leaves_timed {runs : ServedExecutor → ServiceM (ReturnCode × ServedExecutor × World)}
    {plain : NNExecutor → World → Outcome} {clock : Clock}
    (hruns : Leaves (runs e) fun out => ∃ e₀,
      plain e.executor w = .ok (out.1, e₀, out.2.2) ∧ Flagged e₀ out.2.1.executor) :
    Leaves (timed runs e w env clock) fun out => ∃ e₀,
      PlainSystem.run true plain e.executor w = .ok (out.1, e₀, out.2.2.1) ∧
        Flagged e₀ out.2.1.executor := by
  unfold timed PlainSystem.run
  cases hconfig : e.executor.executorConfig with
  | none => exact leaves_pure ⟨e.executor, rfl, .refl _⟩
  | some config =>
    dsimp only
    refine hruns.bind fun out hrun => ?_
    obtain ⟨ret, e', w'⟩ := out
    obtain ⟨e₀, hplain, hflagged⟩ := hrun
    dsimp only at hplain hflagged ⊢
    split
    · exact leaves_pure ⟨e₀, hplain, hflagged⟩
    rename_i hret
    split
    · rename_i hneeds
      refine leaves_liftFault_bind fun out hout => ?_
      have hsome : e'.executor.executorConfig.isSome = true := by
        unfold needsLatency at hneeds
        cases hconfig : e'.executor.executorConfig with
        | none =>
          rw [hconfig] at hneeds
          cases hneeds
        | some config => rfl
      have hmeasured := setExtensionConfig_measured (by rw [Option.isSome_map]; exact hsome) hout
      obtain ⟨ret', e''⟩ := out
      obtain ⟨rfl, hexecutor, -⟩ := hmeasured
      rw [not_not] at hret
      subst hret
      refine leaves_pure ⟨e₀, hplain, ?_⟩
      dsimp only at hexecutor ⊢
      rw [hexecutor]
      exact hflagged.trans (NNExecutor.flagged_false hsome)
    · rw [not_not] at hret
      subst hret
      exact leaves_pure ⟨e₀, hplain, hflagged⟩

/-- **`OH_NNExecutor_RunSync`** is one without the service, but for the flag. -/
theorem leaves_coreRunSync {clock : Clock} {inputTensors outputTensors : List (Option Nat)} :
    Leaves (e.coreRunSync w env reloadEnv clock inputTensors outputTensors) fun out => ∃ e₀,
      PlainSystem.run (countsAllowed inputTensors outputTensors)
          (fun e w => e.runSync w env.executor reloadEnv inputTensors outputTensors) e.executor w
        = .ok (out.1, e₀, out.2.2.1) ∧ Flagged e₀ out.2.1.executor := by
  unfold coreRunSync
  cases countsAllowed inputTensors outputTensors with
  | false => exact leaves_pure ⟨e.executor, rfl, .refl _⟩
  | true =>
    refine leaves_addSessionId.bind fun e' hsame => ?_
    rw [← hsame]
    exact leaves_timed (leaves_runWith (NNExecutor.ignoresFlag_runSyncTensors env.executor _ _))

/-- **`OH_NNExecutor_RunSyncWithAipp`**, likewise. -/
theorem leaves_coreRunSyncWithAipp {clock : Clock} {inputTensors outputTensors : List (Option Nat)}
    {aippString : String} :
    Leaves (e.coreRunSyncWithAipp w env reloadEnv clock inputTensors outputTensors aippString)
      fun out => ∃ e₀,
        PlainSystem.run (countsAllowed inputTensors outputTensors && aippString ≠ "")
            (fun e w => e.runSyncWithAipp w env.executor reloadEnv inputTensors outputTensors)
            e.executor w
          = .ok (out.1, e₀, out.2.2.1) ∧ Flagged e₀ out.2.1.executor := by
  unfold coreRunSyncWithAipp
  cases countsAllowed inputTensors outputTensors with
  | false => exact leaves_pure ⟨e.executor, rfl, .refl _⟩
  | true =>
    by_cases haipp : aippString = ""
    · subst haipp
      exact leaves_pure ⟨e.executor, rfl, .refl _⟩
    · rw [Bool.true_and, decide_eq_true haipp, if_neg (by simpa using haipp)]
      exact leaves_timed (leaves_runWith (NNExecutor.ignoresFlag_runAippTensors env.executor _ _))

/-- **The end of an executor** is one without the service. -/
theorem leaves_close :
    Leaves (e.close w) fun w' => e.executor.destroyPreparedModel.2.destroy w = (none, w') := by
  unfold close
  refine @Leaves.bind _ _ _ _ _ (fun _ => True) ?_ fun _ _ => ?_
  · unfold unload
    split
    · exact leaves_pure trivial
    refine leaves_getInstance_bind fun api => ?_
    split
    · exact leaves_pure trivial
    split
    · exact leaves_pure trivial
    · exact leaves_call fun ret => trivial
  unfold destroy
  dsimp only
  split
  · exact leaves_throw
  rename_i w' hdestroy
  rw [hdestroy]
  refine @Leaves.bind _ _ _ _ _ (fun _ => True) ?_ fun _ _ => ?_
  · unfold unSetDeinitModelCallBack
    refine leaves_getInstance_bind fun api => ?_
    split
    · exact leaves_pure trivial
    split
    · exact leaves_pure trivial
    · exact leaves_call fun ret => trivial
  split
  · refine @Leaves.bind _ _ _ _ _ (fun _ => True) ?_ fun _ _ => leaves_pure rfl
    unfold unSetHiaiModelCallBack
    refine leaves_getInstance_bind fun api => ?_
    split
    · exact leaves_pure trivial
    split
    · exact leaves_pure trivial
    · exact leaves_call fun ret => trivial
  · exact leaves_pure rfl

/-- What a preparation does without the service: an executor that is refused may have its
configuration or not. -/
structure PlainPrepared (e : NNExecutor) (c : ServedCompilation) (createConfig : Bool)
    (out : ReturnCode × ServedExecutor × ServedCompilation) : Prop where
  compiler : out.2.2.compiler = c.compiler
  rest : ∃ config, out.2.1.executor = { e with executorConfig := config }
  success : out.1 = .success → ∃ b, out.2.1.executor = e.configured createConfig b

/-- Scheduling is none of the compiler's business. -/
theorem leaves_scheduleModel {c : ServedCompilation} :
    Leaves c.scheduleModel fun out => out.2.compiler = c.compiler := by
  unfold ServedCompilation.scheduleModel
  refine leaves_getInstance_bind fun api => ?_
  split
  · exact leaves_pure rfl
  split
  · exact leaves_pure rfl
  refine leaves_call_bind fun ans => ?_
  obtain ⟨ret, supportStat⟩ := ans
  dsimp only
  split
  · exact leaves_pure rfl
  split
  · exact leaves_pure rfl
  split
  · exact leaves_pure rfl
  refine leaves_call_bind fun ans => ?_
  obtain ⟨ret, needModelLatency⟩ := ans
  dsimp only
  split
  · exact leaves_pure rfl
  · exact leaves_pure rfl

/-- The configuration of `ExecutorPrepare`. -/
theorem setExtensionConfig_configured {c : ServedCompilation} {ret : ReturnCode}
    {e' : ServedExecutor} (hnone : e.executor.executorConfig = none)
    (h : e.setExtensionConfig env (prepareConfigs c) = .ok (ret, e')) :
    e'.executor = e.executor.configured env.executor.createConfig c.isNeedModelLatency := by
  obtain ⟨ids, -, rfl⟩ := setExtensionConfig_eq_ok h
  obtain ⟨byte, data, hdata⟩ : ∃ byte data, idString c.hiaiModelId = byte :: data :=
    List.exists_cons_of_ne_nil (List.append_ne_nil_of_right_ne_nil _ (List.cons_ne_nil 0 []))
  unfold NNExecutor.setExtensionConfig prepareConfigs NNExecutor.configured
  rw [hdata, hnone]
  cases env.executor.createConfig with
  | false => exact congrArg (fun config => { e.executor with executorConfig := config }) hnone
  | true => cases c.isNeedModelLatency <;> rfl

theorem leaves_prepare {c : ServedCompilation} (hnone : e.executor.executorConfig = none) :
    Leaves (e.prepare c env) (PlainPrepared e.executor c env.executor.createConfig) := by
  have hrefused : ∀ (ret : ReturnCode) (c' : ServedCompilation), ret ≠ .success →
      c'.compiler = c.compiler →
      Leaves (pure (ret, e, c')) (PlainPrepared e.executor c env.executor.createConfig) :=
    fun _ _ hret hcompiler =>
      leaves_pure ⟨hcompiler, ⟨_, rfl⟩, fun hok => absurd hok hret⟩
  unfold prepare
  refine @Leaves.bind _ _ _ _ _ (fun _ => True) ?_ fun ret _ => ?_
  · unfold ServedCompilation.setModelId
    refine leaves_getInstance_bind fun api => ?_
    split
    · exact leaves_pure trivial
    split
    · exact leaves_pure trivial
    · exact leaves_call fun ret => trivial
  split
  · rename_i hret
    exact hrefused ret c hret rfl
  refine leaves_scheduleModel.bind fun out hcompiler => ?_
  obtain ⟨ret, c'⟩ := out
  dsimp only at hcompiler ⊢
  split
  · rename_i hret
    exact hrefused ret c' hret hcompiler
  refine leaves_liftFault_bind fun out hset => ?_
  obtain ⟨ret, e₁⟩ := out
  have hconfigured := setExtensionConfig_configured hnone hset
  dsimp only
  refine leaves_setDeinitModelCallBack.bind fun out hsame => ?_
  obtain ⟨ret, e₂⟩ := out
  have hresult : e₂.executor = e.executor.configured env.executor.createConfig c'.isNeedModelLatency :=
    hsame.trans hconfigured
  dsimp only
  split
  · rename_i hret
    exact leaves_pure ⟨hcompiler, ⟨_, hresult⟩, fun hok => absurd hok hret⟩
  · exact leaves_pure ⟨hcompiler, ⟨_, hresult⟩, fun _ => ⟨_, hresult⟩⟩

/-- An executor without tensors leaves the world as it is. -/
theorem destroy_new {c : NNCompiler Nat} {preparedModel : PreparedModel}
    {config : Option ExecutorConfig} (w : World) :
    ({ NNExecutor.create c preparedModel with executorConfig := config }
      : NNExecutor).destroyPreparedModel.2.destroy w = (none, w) :=
  rfl

/-- **`OH_NNExecutor_Construct`** is one without the service, if it passes. -/
theorem leaves_construct {c : ServedCompilation} {created : Bool} {this : Nat}
    {executorid : UInt64} :
    Leaves (construct c created this executorid w env) fun out =>
      out.2.1.compiler = c.compiler ∧ out.2.2 = w ∧ ∃ passes b,
        out.1.map ServedExecutor.executor
          = PlainSystem.construct c.compiler created env.executor.createConfig passes b := by
  unfold construct PlainSystem.construct
  cases hexecutor : c.compiler.bind fun compiler => compiler.createExecutor created with
  | none => exact leaves_pure ⟨rfl, rfl, false, false, rfl⟩
  | some executor =>
    obtain ⟨compiler, -, hcreated⟩ := Option.bind_eq_some_iff.mp hexecutor
    obtain ⟨preparedModel, -, rfl⟩ := NNCompiler.createExecutor_eq_some hcreated
    -- Whoever is refused is closed again, and there is nothing to release.
    have hclose : ∀ {e : ServedExecutor} {config : Option ExecutorConfig} {c' : ServedCompilation},
        e.executor = { NNExecutor.create compiler preparedModel with executorConfig := config } →
        c'.compiler = c.compiler →
        Leaves (do let w' ← e.close w; return ((none : Option ServedExecutor), c', w')) fun out =>
          out.2.1.compiler = c.compiler ∧ out.2.2 = w ∧ ∃ passes b : Bool,
            out.1.map ServedExecutor.executor
              = (some (NNExecutor.create compiler preparedModel)).bind fun e =>
                  if passes then some (e.configured env.executor.createConfig b) else none := by
      intro e config c' he hcompiler
      refine leaves_close.bind fun w' hw' => ?_
      rw [he, destroy_new] at hw'
      cases hw'
      exact leaves_pure ⟨hcompiler, rfl, false, false, rfl⟩
    dsimp only
    split
    · exact @hclose _ none _ rfl rfl
    refine (leaves_prepare rfl).bind fun out hout => ?_
    obtain ⟨ret, e', c'⟩ := out
    obtain ⟨hcompiler, ⟨config, hconfig⟩, hsuccess⟩ := hout
    dsimp only at hcompiler hconfig hsuccess ⊢
    split
    · exact hclose hconfig hcompiler
    · rename_i hret
      obtain ⟨b, hb⟩ := hsuccess (not_not.mp hret)
      exact leaves_pure ⟨hcompiler, rfl, true, b, congrArg some hb⟩

/-- A build leaves the compiler to what comes after it. -/
theorem leaves_buildService {c : ServedCompilation} {compilerSize : Except Fault UInt64} :
    Leaves (c.buildService compilerSize) fun out => out.2.1.compiler = c.compiler := by
  unfold ServedCompilation.buildService
  refine @Leaves.bind _ _ _ _ _ (fun out => out.2.1.compiler = c.compiler) ?_ fun out hout => ?_
  · unfold ServedCompilation.authentication ServedCompilation.authenticateModel
    refine leaves_getInstance_bind fun api => ?_
    split
    · exact leaves_pure rfl
    refine leaves_liftFault_bind fun out _ => ?_
    obtain ⟨retCode, sized, isExceedRamLimit⟩ := out
    dsimp only
    split
    · exact leaves_pure rfl
    split
    · exact leaves_pure rfl
    refine leaves_getInstance_bind fun api => ?_
    split
    · exact leaves_pure rfl
    split
    · exact leaves_pure rfl
    refine leaves_call_bind fun ans => ?_
    obtain ⟨ret, supportStat⟩ := ans
    dsimp only
    split
    · exact leaves_pure rfl
    split
    · exact leaves_pure rfl
    split
    · exact leaves_pure rfl
    · exact leaves_call_bind fun ret => leaves_pure rfl
  obtain ⟨ret, c', isExceedRamLimit⟩ := out
  dsimp only at hout ⊢
  split
  · exact leaves_pure hout
  refine leaves_getInstance_bind fun api => ?_
  split
  · exact leaves_call_bind fun ans => leaves_pure hout
  · exact leaves_pure hout

end ServedExecutor

/-! ## The simulation -/

namespace ServiceSystem

variable {s s' : ServiceSystem} {events : List (EventEnv × ServiceEvent)}

/-- What a function leaves is what the event goes on with. -/
theorem ask_leaves {α : Type} {owner : Option Nat} {party : ServiceParty} {m : ServiceM α}
    {next : α → ServiceSystem → ServiceSystem} {post : α → Prop} (hleaves : Leaves m post)
    (h : s.ask owner party m next = .ok s') :
    ∃ a api said, post a ∧ s' = next a { s with api := api, said := said } := by
  unfold ask at h
  split at h
  · cases h
  · rename_i said a api hrun
    cases h
    exact ⟨a, api, _, hleaves.run hrun, rfl⟩

theorem plain_executor? (s : ServiceSystem) (i : Nat) :
    s.plain.executors[i]?.join = (s.executor? i).map ServedExecutor.executor := by
  unfold plain executor?
  dsimp only
  rw [List.getElem?_map]
  cases s.executors[i]? with
  | none => rfl
  | some e => rfl

theorem plain_compiler (s : ServiceSystem) (k : Nat) :
    s.plain.compilers[k]? = s.compilations[k]?.map ServedCompilation.compiler :=
  List.getElem?_map ..

/-- What is done to an executor is done to what is seen of it. -/
theorem plain_setExecutor (s : ServiceSystem) (i : Nat) (e : Option ServedExecutor) (w : World) :
    ({ s.setExecutor i e with world := w } : ServiceSystem).plain
      = s.plain.replace i (e.map ServedExecutor.executor) w [] := by
  unfold plain PlainSystem.replace setExecutor
  dsimp only
  rw [List.map_set, List.append_nil]

theorem plain_replace (s : ServiceSystem) (i : Nat) (e : ServedExecutor) (w : World)
    (threads : List (Nat × Int32)) (ret : ReturnCode) :
    ({ s.setExecutor i (some e) with
      world := w, codes := s.codes ++ [ret], threads := threads } : ServiceSystem).plain
      = s.plain.replace i (some e.executor) w [ret] := by
  unfold plain PlainSystem.replace setExecutor
  dsimp only
  rw [List.map_set]
  rfl

theorem plain_afterRun (out : ReturnCode × ServedExecutor × World × Option Int32)
    (s : ServiceSystem) (i : Nat) : (afterRun i out s).plain
      = s.plain.replace i (some out.2.1.executor) out.2.2.1 [out.1] :=
  plain_replace s i out.2.1 out.2.2.1 _ out.1

/-- What is not seen of an entry may change. -/
theorem map_set_of_eq {α β : Type} {f : α → β} {l : List α} {k : Nat} {a b : α}
    (ha : l[k]? = some a) (hf : f b = f a) : (l.set k b).map f = l.map f := by
  obtain ⟨hk, rfl⟩ := List.getElem?_eq_some_iff.mp ha
  rw [List.map_set, hf, ← List.map_set, List.set_getElem_self]

section Events

variable {env : EventEnv}

/-- The compiler is told what has been compared, and the service decides no more. -/
theorem plain_build {k : Nat} {compilerSize : Except Fault UInt64}
    {built : Bool → Option (NNCompiler TensorDesc × UInt64)}
    (h : s.step (env, .build k compilerSize built) = .ok s') :
    ∃ choice, s.plain.step ((env.env, .build k compilerSize built), choice) = .ok s'.plain := by
  unfold step at h
  unfold PlainSystem.step
  dsimp only at h ⊢
  rw [plain_compiler]
  cases hc : s.compilations[k]? with
  | none =>
    rw [hc] at h
    cases h
    exact ⟨{}, rfl⟩
  | some c =>
    rw [hc] at h
    obtain ⟨⟨ret, c', isExceedRamLimit⟩, api, said, hcompiler, rfl⟩ :=
      ask_leaves ServedExecutor.leaves_buildService h
    refine ⟨{ passes := ret = .success, isExceedRamLimit := isExceedRamLimit }, ?_⟩
    -- A build that is refused sets the compilation, and not its compiler.
    have hrefused : s.plain = { s.plain with
        compilers := (s.compilations.set k c').map ServedCompilation.compiler } := by
      exact congrArg (fun compilers => { s.plain with compilers := compilers })
        (map_set_of_eq hc hcompiler).symm
    dsimp only
    cases built isExceedRamLimit with
    | none => exact congrArg Except.ok hrefused
    | some built =>
      obtain ⟨compiler, nnrtModelID⟩ := built
      by_cases hret : ret = .success
      · subst hret
        unfold plain
        simp only [Option.map_some, decide_true, if_true]
        rw [List.map_set]
      · simp only [Option.map_some, decide_eq_false hret, if_neg hret]
        exact congrArg Except.ok hrefused

theorem plain_construct {k : Nat} {backend created : Bool} {executorid : UInt64}
    (h : s.step (env, .construct k backend created executorid) = .ok s') :
    ∃ choice, s.plain.step ((env.env, .construct k backend created executorid), choice)
      = .ok s'.plain := by
  unfold step at h
  unfold PlainSystem.step
  dsimp only at h ⊢
  rw [plain_compiler]
  cases hc : s.compilations[k]? with
  | none =>
    rw [hc] at h
    cases h
    exact ⟨{}, rfl⟩
  | some c =>
    rw [hc] at h
    cases backend with
    | false =>
      cases h
      exact ⟨{}, rfl⟩
    | true =>
      simp only [Bool.not_true, Bool.false_eq_true, if_false] at h
      obtain ⟨⟨e, c', w⟩, api, said, ⟨hcompiler, hw, passes, b, hexecutor⟩, rfl⟩ :=
        ask_leaves ServedExecutor.leaves_construct h
      refine ⟨{ passes := passes, needModelLatency := b }, ?_⟩
      dsimp only at hcompiler hw hexecutor
      subst hw
      simp only [Option.map_some, Bool.not_true, Bool.false_eq_true, if_false]
      rw [← hexecutor]
      unfold plain
      dsimp only
      rw [List.map_append, map_set_of_eq hc hcompiler]
      rfl

/-- What is left of a run is the run itself, and whether latencies are asked for. -/
theorem plain_afterRun_eq {i : Nat} {e₀ : NNExecutor} {b : Bool} {api : NNRtServiceApi}
    {said : List (Option Nat × ServiceExchange)}
    {out : ReturnCode × ServedExecutor × World × Option Int32} {runs : Outcome}
    (hrun : runs = .ok (out.1, e₀, out.2.2.1)) (hb : out.2.1.executor = e₀.flag b) :
    (runs.map fun (ret, e, w) => s.plain.replace i (some (e.flag b)) w [ret])
      = .ok (afterRun i out { s with api := api, said := said }).plain := by
  rw [hrun]
  refine congrArg Except.ok (Eq.trans ?_ (plain_afterRun out _ i).symm)
  rw [hb]
  rfl

theorem plain_runSync {i : Nat} {reloadEnv : ReloadEnv} {clock : ServedExecutor.Clock}
    {inputTensors outputTensors : List (Option Nat)}
    (h : s.step (env, .runSync i reloadEnv clock inputTensors outputTensors) = .ok s') :
    ∃ choice, s.plain.step
      ((env.env, .runSync i reloadEnv clock inputTensors outputTensors), choice)
        = .ok s'.plain := by
  unfold step at h
  unfold PlainSystem.step
  dsimp only at h ⊢
  rw [plain_executor?]
  cases he : s.executor? i with
  | none =>
    rw [he] at h
    cases h
    exact ⟨{}, rfl⟩
  | some e =>
    rw [he] at h
    obtain ⟨out, api, said, ⟨e₀, hrun, b, hb⟩, rfl⟩ :=
      ask_leaves ServedExecutor.leaves_coreRunSync h
    exact ⟨{ needModelLatency := b }, plain_afterRun_eq hrun hb⟩

theorem plain_runSyncWithAipp {i : Nat} {reloadEnv : ReloadEnv} {clock : ServedExecutor.Clock}
    {inputTensors outputTensors : List (Option Nat)} {aippString : String}
    (h : s.step (env, .runSyncWithAipp i reloadEnv clock inputTensors outputTensors aippString)
      = .ok s') :
    ∃ choice, s.plain.step
      ((env.env, .runSyncWithAipp i reloadEnv clock inputTensors outputTensors aippString), choice)
        = .ok s'.plain := by
  unfold step at h
  unfold PlainSystem.step
  dsimp only at h ⊢
  rw [plain_executor?]
  cases he : s.executor? i with
  | none =>
    rw [he] at h
    cases h
    exact ⟨{}, rfl⟩
  | some e =>
    rw [he] at h
    obtain ⟨out, api, said, ⟨e₀, hrun, b, hb⟩, rfl⟩ :=
      ask_leaves ServedExecutor.leaves_coreRunSyncWithAipp h
    exact ⟨{ needModelLatency := b }, plain_afterRun_eq hrun hb⟩

theorem plain_call {i : Nat} {c : { c : ExecutorCall // c.isLocal }}
    (h : s.step (env, .call i c) = .ok s') :
    ∃ choice, s.plain.step ((env.env, .call i c), choice) = .ok s'.plain := by
  unfold step at h
  unfold PlainSystem.step
  dsimp only at h ⊢
  rw [plain_executor?]
  refine ⟨{}, ?_⟩
  cases he : s.executor? i with
  | none =>
    rw [he] at h
    cases h
    rfl
  | some e =>
    rw [he] at h
    dsimp only at h
    cases hperform : c.1.perform e.executor s.world env.env.executor with
    | error fault =>
      rw [hperform] at h
      cases h
    | ok out =>
      rw [hperform] at h
      cases h
      refine (congrArg (Except.map _) hperform).trans (congrArg Except.ok ?_)
      exact (plain_replace s i { e with executor := out.2.1 } out.2.2 s.threads out.1).symm

theorem plain_deinitModel {i : Nat} {mode : String}
    (h : s.step (env, .deinitModel i mode) = .ok s') :
    ∃ choice, s.plain.step ((env.env, .deinitModel i mode), choice) = .ok s'.plain := by
  unfold step at h
  unfold PlainSystem.step
  dsimp only at h ⊢
  rw [plain_executor?]
  refine ⟨{}, ?_⟩
  cases he : s.executor? i with
  | none =>
    rw [he] at h
    cases h
  | some e =>
    rw [he] at h
    obtain ⟨out, api, said, hout, rfl⟩ := ask_leaves ServedExecutor.leaves_deinitModel h
    refine congrArg Except.ok (Eq.trans ?_ (plain_setExecutor _ i (some out.2) s.world).symm)
    rw [Option.map_some, hout]
    rfl

theorem plain_autoUnload {i : Nat} (h : s.step (env, .autoUnload i) = .ok s') :
    ∃ choice, s.plain.step ((env.env, .autoUnload i), choice) = .ok s'.plain := by
  unfold step at h
  unfold PlainSystem.step
  dsimp only at h ⊢
  rw [plain_executor?]
  refine ⟨{}, ?_⟩
  cases he : s.executor? i with
  | none =>
    rw [he] at h
    cases h
    rfl
  | some e =>
    rw [he] at h
    obtain ⟨e', api, said, hout, rfl⟩ := ask_leaves ServedExecutor.leaves_autoUnload h
    refine congrArg Except.ok (Eq.trans ?_ (plain_setExecutor _ i (some e') s.world).symm)
    rw [Option.map_some, hout]
    rfl

/-- A thread that reports changes nothing that is seen here. -/
theorem plain_latencyThread {k : Nat} (h : s.step (env, .latencyThread k) = .ok s') :
    ∃ choice, s.plain.step ((env.env, .latencyThread k), choice) = .ok s'.plain := by
  refine ⟨{}, congrArg Except.ok ?_⟩
  unfold step at h
  dsimp only at h
  split at h
  · cases h
    rfl
  · obtain ⟨a, api, said, rfl⟩ := ask_eq_ok h
    rfl

theorem plain_destroy {i : Nat} {backend : Bool} (h : s.step (env, .destroy i backend) = .ok s') :
    ∃ choice, s.plain.step ((env.env, .destroy i backend), choice) = .ok s'.plain := by
  unfold step at h
  unfold PlainSystem.step
  dsimp only at h ⊢
  rw [plain_executor?]
  refine ⟨{}, ?_⟩
  cases he : s.executor? i with
  | none =>
    rw [he] at h
    cases h
    rfl
  | some e =>
    rw [he] at h
    cases backend with
    | false =>
      cases h
      rfl
    | true =>
      simp only [Bool.not_true, Bool.false_eq_true, if_false] at h ⊢
      obtain ⟨w, api, said, hdestroy, rfl⟩ := ask_leaves ServedExecutor.leaves_close h
      dsimp only [Option.map_some]
      change (match e.executor.destroyPreparedModel.2.destroy s.world with
        | (some fault, _) => Except.error fault
        | (none, w) => .ok (s.plain.replace i none w [])) = _
      rw [hdestroy]
      exact congrArg Except.ok (plain_setExecutor s i none w).symm

end Events

/-- **One event** is one without the service, for some choice. -/
theorem step_plain {event : EventEnv × ServiceEvent} (h : s.step event = .ok s') :
    ∃ choice, s.plain.step ((event.1.env, event.2), choice) = .ok s'.plain := by
  obtain ⟨env, event⟩ := event
  cases event with
  | user w =>
    cases h
    exact ⟨{}, rfl⟩
  | compilation c =>
    cases h
    refine ⟨{}, ?_⟩
    unfold plain PlainSystem.step
    dsimp only
    rw [List.map_append]
    rfl
  | build => exact plain_build h
  | construct => exact plain_construct h
  | runSync => exact plain_runSync h
  | runSyncWithAipp => exact plain_runSyncWithAipp h
  | call => exact plain_call h
  | deinitModel => exact plain_deinitModel h
  | autoUnload => exact plain_autoUnload h
  | latencyThread => exact plain_latencyThread h
  | destroy => exact plain_destroy h

end ServiceSystem

end NNRt
