import NNRt.Model.Lookup

/-!
# Failed calls

Most mutators check everything before they change anything. Five do not:
`SetTensorQuantParam` clears the old parameters first, `AddOperation` marks
parameters before it has checked them all, `SetInputsAndOutputsInfo` and
`BuildFromLiteGraph` fill their lists tensor by tensor, and `Build` installs an
empty lite graph, after which the model counts as built.

- `Spares`: the calls of these five that change nothing even when they fail.
- `run_atomic_iff`: **in every run, the failed calls leave the model as it was
  exactly when they are all of this kind.**
-/

namespace NNRt

namespace InnerModel

/-- What a failed call is to leave as it was. -/
structure View where
  allTensors : List Tensor
  ops : List BuiltOp
  inputIndices : List Nat
  outputIndices : List Nat
  inputTensors : List TensorRef
  outputTensors : List TensorRef
  isBuild : Bool

/-- The view of a model. -/
def view (m : InnerModel) : View :=
  ⟨m.allTensors, m.ops, m.inputIndices, m.outputIndices, m.inputTensors, m.outputTensors,
    m.isBuild⟩

/-- A call returns a code other than success. -/
def Refuses (m : InnerModel) (call : ModelEnv × Call) : Prop :=
  ∃ ret m', call.2.perform m call.1 = .ok (ret, m') ∧ ret ≠ .success

/-- If a call fails, it leaves the model as it was. -/
def Atomic (m : InnerModel) (call : ModelEnv × Call) : Prop :=
  ∀ ret m', call.2.perform m call.1 = .ok (ret, m') → ret ≠ .success → m'.view = m.view

/-! ## The tensors of a lite graph -/

/-- The tensor constructed for an index of a lite graph, with the `n`-th
allocation. -/
def graphTensor (env : ModelEnv) (graph : LiteGraph) (n i : Nat) : Option Tensor :=
  match graph.allTensors[i]? with
  | none => none
  | some msTensor =>
    if env.createTensor n then Tensor.ofLiteGraphTensor (msTensor.getD env.nullTensor) else none

/-- The tensors of the indices before the first that none can be constructed for. -/
def graphTensors (env : ModelEnv) (graph : LiteGraph) (n : Nat) : List Nat → List TensorRef
  | [] => []
  | i :: indices =>
    match graphTensor env graph n i with
    | none => []
    | some t => .owned t :: graphTensors env graph (n + 1) indices

/-- Between one and 200 indices of the graph's tensors. -/
def Lists (graph : LiteGraph) (indices : List Nat) : Prop :=
  indices ≠ [] ∧ indices.length ≤ inputOutputMaxIndices ∧ ∀ i ∈ indices, i < graph.allTensors.length

instance (graph : LiteGraph) (indices : List Nat) : Decidable (Lists graph indices) :=
  inferInstanceAs (Decidable (_ ∧ _ ∧ _))

/-- What a list of indices of a graph leaves in a list of tensors. -/
def listed (env : ModelEnv) (graph : LiteGraph) (n : Nat) (indices : List Nat) : List TensorRef :=
  if Lists graph indices then graphTensors env graph n indices else []

/-- Every tensor of a list of indices can be constructed. -/
def Constructs (env : ModelEnv) (graph : LiteGraph) (n : Nat) (indices : List Nat) : Prop :=
  Lists graph indices ∧ (graphTensors env graph n indices).length = indices.length

theorem constructTensors_eq (env : ModelEnv) (graph : LiteGraph) (n : Nat) (refs : List TensorRef)
    (indices : List Nat) :
    (constructTensors env graph n refs indices).2 = refs ++ graphTensors env graph n indices ∧
      ((constructTensors env graph n refs indices).1 = .success ↔
        (graphTensors env graph n indices).length = indices.length) := by
  induction indices generalizing n refs with
  | nil => simp [constructTensors, graphTensors]
  | cons i indices ih =>
    have hfail : ∀ t : Option Tensor, graphTensor env graph n i = t → t = none →
        graphTensors env graph n (i :: indices) = [] := by
      rintro _ h rfl
      rw [graphTensors, h]
    rw [constructTensors]
    cases hget : graph.allTensors[i]? with
    | none =>
      rw [hfail _ rfl (by simp [graphTensor, hget])]
      simp
    | some msTensor =>
      dsimp only
      by_cases hcreate : env.createTensor n = true
      · rw [hcreate]
        cases ht : Tensor.ofLiteGraphTensor (msTensor.getD env.nullTensor) with
        | none =>
          rw [hfail _ rfl (by simp [graphTensor, hget, hcreate, ht])]
          simp
        | some t =>
          have hsome : graphTensor env graph n i = some t := by
            simp [graphTensor, hget, hcreate, ht]
          obtain ⟨htensors, hret⟩ := ih (n + 1) (refs ++ [.owned t])
          rw [graphTensors, hsome]
          simp [htensors, hret]
      · rw [hfail _ rfl (by simp [graphTensor, hget, hcreate])]
        simp [hcreate]

/-- `ConstructNNTensorsFromLiteGraph` on an empty list of tensors. -/
theorem constructNNTensorsFromLiteGraph_eq (env : ModelEnv) (graph : LiteGraph) (n : Nat)
    (indices : List Nat) :
    (constructNNTensorsFromLiteGraph env graph n indices []).2 = listed env graph n indices ∧
      ((constructNNTensorsFromLiteGraph env graph n indices []).1 = .success ↔
        Constructs env graph n indices) := by
  unfold constructNNTensorsFromLiteGraph listed Constructs
  by_cases hlists : Lists graph indices
  · obtain ⟨hne, hlength, hlt⟩ := id hlists
    rw [if_neg (by simp [hne, hlength]), if_neg (by simpa using hlt), if_pos hlists]
    simpa [hlists] using constructTensors_eq env graph n [] indices
  · rw [if_neg hlists]
    split
    · simp [hlists]
    · rename_i hcount
      split
      · simp [hlists]
      · rename_i hrange
        rw [not_or] at hcount
        exact absurd ⟨by simpa using hcount.1, Nat.le_of_not_lt hcount.2, by simpa using hrange⟩
          hlists

/-! ## The calls that change nothing -/

/-- The calls that change nothing of the view if they fail. -/
def Spares (m : InnerModel) (env : ModelEnv) : Call → Prop
  | .edit (.setTensorQuantParam index quantParam) =>
    m.isBuild ∨ quantParam.isNone ∨ ∀ t, m.allTensors[index]? = some t → t.quantParams = []
  | .edit (.addOperation opType params inputs outputs) =>
    ∀ i ∈ m.marks (.addOperation opType params inputs outputs), ∀ t,
      m.allTensors[i]? = some t → t.isOpParameter
  | .edit _ => True
  | .setInputsAndOutputsInfo inputsInfo outputsInfo =>
    m.checkParameters ≠ .success ∨
      ∀ info ∈ (inputsInfo ++ outputsInfo).head?, ∀ t,
        tensorOfInfo (env.createTensor 0) info ≠ .ok t
  | .buildFromLiteGraph none _ => True
  | .buildFromLiteGraph (some graph) _ =>
    m.isBuild ∨ m.allTensors ≠ [] ∨ m.ops ≠ [] ∨
      m.inputTensors = listed env graph 0 graph.inputIndices ∧
        (Constructs env graph 0 graph.inputIndices →
          m.outputTensors = listed env graph graph.inputIndices.length graph.outputIndices)
  | .buildFromMetaGraph _ _ => True
  | .build =>
    m.isBuild ∨ m.allTensors = [] ∨ m.ops = [] ∨ m.inputIndices = [] ∨ m.outputIndices = [] ∨
      env.createLiteGraph = false

/-- A call that changes nothing if it fails. -/
def Harmless (m : InnerModel) (call : ModelEnv × Call) : Prop :=
  m.Refuses call → m.Spares call.1 call.2

/-- Marking changes nothing exactly if the tensors are marked already. -/
theorem markAll_eq_self_iff {indices : List Nat} {tensors : List Tensor} :
    markAll indices tensors = tensors ↔
      ∀ i ∈ indices, ∀ t, tensors[i]? = some t → t.isOpParameter := by
  constructor
  · intro h i hi t ht
    have hmarked : (markAll indices tensors)[i]? = some t.identifyOpParameter := by
      rw [getElem?_markAll, ht, Option.map_some, if_pos hi]
    rw [h, ht, Option.some.injEq] at hmarked
    rw [hmarked]
    rfl
  · intro h
    apply List.ext_getElem?
    intro i
    rw [getElem?_markAll]
    cases ht : tensors[i]? with
    | none => rfl
    | some t =>
      by_cases hi : i ∈ indices
      · have hmark : t.isOpParameter = true := h i hi t ht
        have hsame : t.identifyOpParameter = t := by
          unfold NNTensor.identifyOpParameter
          rw [← hmark]
        rw [Option.map_some, if_pos hi, hsame]
      · rw [Option.map_some, if_neg hi]

/-! ## The calls one by one -/

variable {m m' : InnerModel} {env : ModelEnv} {ret : ReturnCode}

/-- Four edits and `BuildFromMetaGraph` change the model only when they succeed. -/
theorem same_of_addTensor {nnTensor : OHNNTensor} (h : m.addTensor env nnTensor = (ret, m'))
    (hret : ret ≠ .success) : m' = m :=
  (Edit.effect_addTensor h).same_of_failed nofun hret

theorem same_of_addTensorDesc {desc : Option TensorDesc} (h : m.addTensorDesc env desc = (ret, m'))
    (hret : ret ≠ .success) : m' = m :=
  (Edit.effect_addTensorDesc h).same_of_failed nofun hret

theorem same_of_setTensorType {index : Nat} {tensorType : TensorType}
    (h : m.setTensorType index tensorType = (ret, m')) (hret : ret ≠ .success) : m' = m :=
  (Edit.effect_setTensorType h).same_of_failed nofun hret

theorem same_of_setTensorValue {index : Nat} {buffer : Option Bytes}
    (h : m.setTensorValue env index buffer = (ret, m')) (hret : ret ≠ .success) : m' = m :=
  (Edit.effect_setTensorValue h).same_of_failed nofun hret

theorem same_of_specifyInputsAndOutputs {inputs outputs : CArray Nat}
    (h : m.specifyInputsAndOutputs inputs outputs = (ret, m')) (hret : ret ≠ .success) :
    m' = m := by
  rcases Edit.specifyInputsAndOutputs_cases h with ⟨-, hsame⟩ | ⟨hsuccess, -⟩
  · exact hsame
  · exact absurd hsuccess hret

theorem same_of_buildFromMetaGraph {metaGraph : Option Nat} {extensionConfig : ExtensionConfig}
    (h : m.buildFromMetaGraph metaGraph extensionConfig = (ret, m')) (hret : ret ≠ .success) :
    m' = m := by
  unfold buildFromMetaGraph at h
  grind

/-- `SetQuantParam` clears the old parameters on either failure. -/
theorem setQuantParam_of_ne_success {t : Tensor} {quantParam : QuantParams}
    (hret : (t.setQuantParam (some quantParam)).1 ≠ .success) :
    (t.setQuantParam (some quantParam)).2 = { t with quantParams := [] } := by
  unfold NNTensor.setQuantParam QuantParams.copyToCompat at hret ⊢
  grind

theorem view_setTensorQuantParam {index : Nat} {quantParam : Option QuantParams}
    (h : m.setTensorQuantParam index quantParam = (ret, m')) (hret : ret ≠ .success) :
    m'.view = m.view ↔ m.Spares env (.edit (.setTensorQuantParam index quantParam)) := by
  show _ ↔ m.isBuild = true ∨ quantParam.isNone = true ∨
    ∀ t, m.allTensors[index]? = some t → t.quantParams = []
  unfold setTensorQuantParam at h
  by_cases hbuild : m.isBuild = true
  · rw [if_pos hbuild] at h
    cases h
    simp [hbuild]
  rw [if_neg hbuild] at h
  cases ht : m.allTensors[index]? with
  | none =>
    rw [ht] at h
    cases h
    simp
  | some t =>
    rw [ht] at h
    obtain ⟨hlt, hget⟩ := List.getElem?_eq_some_iff.mp ht
    cases quantParam with
    | none =>
      cases h
      show View.mk (m.allTensors.set index t) _ _ _ _ _ _ = _ ↔ _
      simp [view, isBuild, ← hget]
    | some quantParam =>
      change ((t.setQuantParam (some quantParam)).1, { m with
        allTensors := m.allTensors.set index (t.setQuantParam (some quantParam)).2 }) = _ at h
      rw [Prod.mk.injEq] at h
      obtain ⟨rfl, rfl⟩ := h
      rw [setQuantParam_of_ne_success hret]
      have hset : m.allTensors.set index { t with quantParams := [] } = m.allTensors ↔
          t.quantParams = [] := by
        constructor
        · intro heq
          have hindex := congrArg (·[index]?) heq
          simp only [List.getElem?_set_self hlt, ht, Option.some.injEq] at hindex
          rw [← hindex]
        · intro hnil
          rw [← hnil, ← hget, List.set_getElem_self]
      have hsame : isBuild { m with
          allTensors := m.allTensors.set index { t with quantParams := [] } } = m.isBuild := rfl
      simpa [view, hsame, hbuild] using hset

theorem view_addOperation {opType : Option OperationType} {params inputs outputs : CArray Nat}
    (h : m.addOperation opType params inputs outputs = .ok (ret, m')) (hret : ret ≠ .success) :
    m'.view = m.view ↔ m.Spares env (.edit (.addOperation opType params inputs outputs)) := by
  show _ ↔ ∀ i ∈ m.marks (.addOperation opType params inputs outputs), ∀ t,
    m.allTensors[i]? = some t → t.isOpParameter
  obtain ⟨ops, rfl, ⟨-, rfl⟩ | ⟨hsuccess, -⟩⟩ := addOperation_cases h
  · rw [← markAll_eq_self_iff]
    simp [view, isBuild]
  · exact absurd hsuccess hret

/-- The loops of `SetInputsAndOutputsInfo` take no tensor away. -/
theorem length_pushInputs (env : ModelEnv) (i : Nat) (m : InnerModel)
    (infos : List OHNNTensorInfo) :
    m.allTensors.length ≤ (m.pushInputs env i infos).2.allTensors.length := by
  induction infos generalizing i m with
  | nil => exact Nat.le_refl _
  | cons info infos ih =>
    rw [pushInputs]
    cases tensorOfInfo (env.createTensor i) info with
    | error ret => exact Nat.le_refl _
    | ok t =>
      refine Nat.le_trans ?_ (ih (i + 1) _)
      simp

theorem length_pushOutputs (env : ModelEnv) (i : Nat) (m : InnerModel)
    (infos : List OHNNTensorInfo) :
    m.allTensors.length ≤ (m.pushOutputs env i infos).2.allTensors.length := by
  induction infos generalizing i m with
  | nil => exact Nat.le_refl _
  | cons info infos ih =>
    rw [pushOutputs]
    cases tensorOfInfo (env.createTensor i) info with
    | error ret => exact Nat.le_refl _
    | ok t =>
      refine Nat.le_trans ?_ (ih (i + 1) _)
      simp

/-- A model with more tensors has another view. -/
theorem view_ne_of_length_lt (h : m.allTensors.length < m'.allTensors.length) :
    m'.view ≠ m.view := by
  intro heq
  have hall : m'.allTensors = m.allTensors := congrArg View.allTensors heq
  rw [hall] at h
  exact Nat.lt_irrefl _ h

/-- A tensor that cannot be built has a code that says so. -/
theorem tensorOfInfo_error {created : Bool} {info : OHNNTensorInfo}
    (h : tensorOfInfo created info = .error ret) : ret ≠ .success := by
  unfold tensorOfInfo at h
  grind

theorem view_setInputsAndOutputsInfo {inputsInfo outputsInfo : List OHNNTensorInfo}
    (h : m.setInputsAndOutputsInfo env inputsInfo outputsInfo = (ret, m'))
    (hret : ret ≠ .success) :
    m'.view = m.view ↔ m.Spares env (.setInputsAndOutputsInfo inputsInfo outputsInfo) := by
  show _ ↔ m.checkParameters ≠ .success ∨ ∀ info ∈ (inputsInfo ++ outputsInfo).head?, ∀ t,
    tensorOfInfo (env.createTensor 0) info ≠ .ok t
  unfold setInputsAndOutputsInfo at h
  by_cases hcheck : m.checkParameters ≠ .success
  · rw [if_pos hcheck] at h
    cases h
    simp [hcheck]
  rw [if_neg hcheck] at h
  -- The first tensor decides: the loops stop before it or keep it.
  have hstop : ∀ info code, tensorOfInfo (env.createTensor 0) info = .error code →
      (inputsInfo ++ outputsInfo).head? = some info → m' = m →
      (m'.view = m.view ↔ m.checkParameters ≠ .success ∨
        ∀ info ∈ (inputsInfo ++ outputsInfo).head?, ∀ t,
          tensorOfInfo (env.createTensor 0) info ≠ .ok t) := by
    rintro info code ht hhead rfl
    simp [hhead, ht]
  have hkeep : ∀ info t, tensorOfInfo (env.createTensor 0) info = .ok t →
      (inputsInfo ++ outputsInfo).head? = some info →
      m.allTensors.length < m'.allTensors.length →
      (m'.view = m.view ↔ m.checkParameters ≠ .success ∨
        ∀ info ∈ (inputsInfo ++ outputsInfo).head?, ∀ t,
          tensorOfInfo (env.createTensor 0) info ≠ .ok t) := by
    intro info t ht hhead hlt
    simp [hhead, ht, not_not.mp hcheck, view_ne_of_length_lt hlt]
  cases inputsInfo with
  | cons info inputsInfo =>
    rw [pushInputs] at h
    cases ht : tensorOfInfo (env.createTensor 0) info with
    | error code =>
      simp only [ht] at h
      have hcode := tensorOfInfo_error ht
      refine hstop info code ht rfl ?_
      grind
    | ok t =>
      simp only [ht] at h
      refine hkeep info t ht rfl ?_
      have hinputs := length_pushInputs env 1 { m with
        inputIndices := m.inputIndices ++ [0]
        inputTensors := m.inputTensors ++ [.shared m.allTensors.length]
        allTensors := m.allTensors ++ [t] } inputsInfo
      rw [List.length_append, List.length_singleton] at hinputs
      split at h
      · rename_i m₁ hpush
        rw [hpush] at hinputs
        have houtputs := length_pushOutputs env (inputsInfo.length + 1) m₁ outputsInfo
        rw [List.length_cons] at h
        rw [h] at houtputs
        exact Nat.lt_of_lt_of_le hinputs houtputs
      · rename_i code m₁ hcode hpush
        cases h
        rw [hpush] at hinputs
        exact hinputs
  | nil =>
    cases outputsInfo with
    | nil =>
      cases h
      exact absurd rfl hret
    | cons info outputsInfo =>
      simp only [pushInputs, pushOutputs, List.length_nil] at h
      cases ht : tensorOfInfo (env.createTensor 0) info with
      | error code =>
        simp only [ht] at h
        refine hstop info code ht rfl ?_
        cases h
        rfl
      | ok t =>
        simp only [ht] at h
        refine hkeep info t ht rfl ?_
        have houtputs := length_pushOutputs env 1 { m with
          outputIndices := m.outputIndices ++ [0]
          outputTensors := m.outputTensors ++ [.shared m.allTensors.length]
          allTensors := m.allTensors ++ [t] } outputsInfo
        rw [h, List.length_append, List.length_singleton] at houtputs
        exact houtputs

theorem view_tensors {inputTensors outputTensors : List TensorRef} :
    view { m with inputTensors := inputTensors, outputTensors := outputTensors } = m.view ↔
      m.inputTensors = inputTensors ∧ m.outputTensors = outputTensors := by
  simp [view, isBuild, eq_comm]

theorem view_buildFromLiteGraph {liteGraph : Option LiteGraph} {extensionConfig : ExtensionConfig}
    (h : m.buildFromLiteGraph env liteGraph extensionConfig = (ret, m')) (hret : ret ≠ .success) :
    m'.view = m.view ↔ m.Spares env (.buildFromLiteGraph liteGraph extensionConfig) := by
  cases liteGraph with
  | none =>
    cases h
    simp [Spares]
  | some graph =>
    show _ ↔ m.isBuild = true ∨ m.allTensors ≠ [] ∨ m.ops ≠ [] ∨
      m.inputTensors = listed env graph 0 graph.inputIndices ∧
        (Constructs env graph 0 graph.inputIndices →
          m.outputTensors = listed env graph graph.inputIndices.length graph.outputIndices)
    unfold buildFromLiteGraph at h
    dsimp only at h
    by_cases hbuild : m.isBuild = true
    · rw [if_pos hbuild] at h
      cases h
      simp [hbuild]
    rw [if_neg hbuild] at h
    by_cases hused : !m.allTensors.isEmpty ∨ !m.ops.isEmpty
    · rw [if_pos hused] at h
      cases h
      simp only [Bool.not_eq_true', List.isEmpty_eq_false_iff] at hused
      tauto
    rw [if_neg hused] at h
    simp only [Bool.not_eq_true', List.isEmpty_eq_false_iff, not_or, not_not] at hused
    obtain ⟨htensors, hops⟩ := hused
    simp only [hbuild, htensors, hops, ne_eq, not_true_eq_false, Bool.false_eq_true, false_or]
    obtain ⟨hin, hinret⟩ := constructNNTensorsFromLiteGraph_eq env graph 0 graph.inputIndices
    cases hinputs : constructNNTensorsFromLiteGraph env graph 0 graph.inputIndices [] with
    | mk code inputTensors =>
      rw [hinputs] at h hin hinret
      dsimp only at hin hinret
      by_cases hcode : code = .success
      · -- The outputs are numbered behind the inputs.
        have hconstructs := hinret.mp hcode
        subst hcode
        have hlength : inputTensors.length = graph.inputIndices.length := by
          rw [hin, listed, if_pos hconstructs.1]
          exact hconstructs.2
        obtain ⟨hout, -⟩ := constructNNTensorsFromLiteGraph_eq env graph
          graph.inputIndices.length graph.outputIndices
        dsimp only at h
        rw [hlength] at h
        have hm' : m' = { m with
            inputTensors := listed env graph 0 graph.inputIndices
            outputTensors := listed env graph graph.inputIndices.length graph.outputIndices } := by
          rw [← hin, ← hout]
          grind
        rw [hm', view_tensors]
        tauto
      · -- The inputs that could be constructed stay, and the outputs are not touched.
        have hfails : ¬ Constructs env graph 0 graph.inputIndices := fun hc => hcode (hinret.mpr hc)
        have hm' : m' = { m with
            inputTensors := listed env graph 0 graph.inputIndices
            outputTensors := m.outputTensors } := by
          rw [← hin]
          grind
        rw [hm', view_tensors]
        tauto

theorem view_build (h : m.build env = .ok (ret, m')) (hret : ret ≠ .success) :
    m'.view = m.view ↔ m.Spares env .build := by
  show _ ↔ m.isBuild = true ∨ m.allTensors = [] ∨ m.ops = [] ∨ m.inputIndices = [] ∨
    m.outputIndices = [] ∨ env.createLiteGraph = false
  unfold build at h
  by_cases hbuild : m.isBuild = true
  · rw [if_pos hbuild] at h
    cases h
    simp [hbuild]
  rw [if_neg hbuild] at h
  split at h
  · rename_i htensors
    cases h
    simp [List.isEmpty_iff.mp htensors]
  rename_i htensors
  split at h
  · rename_i hops
    cases h
    simp [List.isEmpty_iff.mp hops]
  rename_i hops
  split at h
  · rename_i hindices
    cases h
    simp only [List.isEmpty_iff] at hindices
    tauto
  rename_i hindices
  split at h
  · rename_i hcreate
    cases h
    simp only [Bool.not_eq_true'] at hcreate
    simp [hcreate]
  rename_i hcreate
  -- From here on the model counts as built.
  simp only [List.isEmpty_iff, not_or] at htensors hops hindices
  simp only [Bool.not_eq_true', Bool.not_eq_false] at hcreate
  split at h
  · cases h
  · cases h
    have hnow : ∀ graph, ({ m with liteGraph := some graph } : InnerModel).isBuild = true :=
      fun _ => rfl
    simp [view, hnow, hbuild, htensors, hops, hindices, hcreate]

/-- A call that fails leaves the model as it was exactly if it spares it. -/
theorem atomic_iff_harmless (m : InnerModel) (call : ModelEnv × Call) :
    m.Atomic call ↔ m.Harmless call := by
  obtain ⟨env, call⟩ := call
  have hview : ∀ ret m', call.perform m env = .ok (ret, m') → ret ≠ .success →
      (m'.view = m.view ↔ m.Spares env call) := by
    intro ret m' h hret
    cases call with
    | edit e =>
      cases e with
      | setTensorQuantParam index quantParam =>
        exact view_setTensorQuantParam (Except.ok.inj h) hret
      | addOperation opType params inputs outputs => exact view_addOperation h hret
      | addTensor nnTensor =>
        rw [same_of_addTensor (Except.ok.inj h) hret]
        exact iff_of_true rfl trivial
      | addTensorDesc desc =>
        rw [same_of_addTensorDesc (Except.ok.inj h) hret]
        exact iff_of_true rfl trivial
      | setTensorType index tensorType =>
        rw [same_of_setTensorType (Except.ok.inj h) hret]
        exact iff_of_true rfl trivial
      | setTensorValue index buffer =>
        rw [same_of_setTensorValue (Except.ok.inj h) hret]
        exact iff_of_true rfl trivial
      | specifyInputsAndOutputs inputs outputs =>
        rw [same_of_specifyInputsAndOutputs (Except.ok.inj h) hret]
        exact iff_of_true rfl trivial
    | setInputsAndOutputsInfo inputsInfo outputsInfo =>
      exact view_setInputsAndOutputsInfo (Except.ok.inj h) hret
    | buildFromLiteGraph liteGraph extensionConfig =>
      exact view_buildFromLiteGraph (Except.ok.inj h) hret
    | buildFromMetaGraph metaGraph extensionConfig =>
      rw [same_of_buildFromMetaGraph (Except.ok.inj h) hret]
      exact iff_of_true rfl trivial
    | build => exact view_build h hret
  constructor
  · rintro hatomic ⟨ret, m', h, hret⟩
    exact (hview ret m' h hret).mp (hatomic ret m' h hret)
  · intro hharmless ret m' h hret
    exact (hview ret m' h hret).mpr (hharmless ⟨ret, m', h, hret⟩)

/-- **In every run, the failed calls leave the model as it was exactly when
every failed call is harmless.** -/
theorem run_atomic_iff (m : InnerModel) (calls : List (ModelEnv × Call)) :
    Run.Meets step Atomic m calls ↔ Run.Meets step Harmless m calls :=
  Run.meets_congr atomic_iff_harmless m calls

/-- A `QuantDTypeCast` without its two parameters, as the whole model. -/
def castModel : List (ModelEnv × Call) :=
  [({}, .edit (.addTensor ⟨some .float32, .array [1], none, some .tensor⟩)),
    ({}, .edit (.addTensor ⟨some .float32, .array [1], none, some .tensor⟩)),
    ({}, .edit (.addOperation (some .quantDtypeCast) (.null 0) (.array [0]) (.array [1]))),
    ({}, .edit (.specifyInputsAndOutputs (.array [0]) (.array [1])))]

/-- `Build` fails on it and leaves a model that counts as built. -/
theorem castModel_not_atomic : ∃ m : InnerModel, m.Reachable ∧ ¬ m.Atomic ({}, .build) ∧
    ∃ m', m.build {} = .ok (.failed, m') ∧ m'.build {} = .ok (.operationForbidden, m') := by
  refine ⟨_, ⟨castModel, rfl⟩, ?_, _, rfl, rfl⟩
  intro hatomic
  have hview := hatomic .failed _ rfl nofun
  exact absurd (congrArg View.isBuild hview) (by decide)

end InnerModel

end NNRt
