import NNRt.Model.Lookup

/-!
# `Build` as a translation

What the lite graph of a successful `Build` has to do with the model:
`Translates`. The tensors of the graph are the model's tensors that are no
operation parameters, and every index of the graph leads to the tensor that the
model's index at the same place leads to.

- `build_translates`: **a successful `Build` translates the model.**
- `convertsTo`: what a tensor keeps when it is converted.

-/

namespace NNRt

namespace InnerModel

/-- The graph's index `k` refers to the conversion of the model's tensor `i`. -/
structure RefersTo (m : InnerModel) (graph : LiteGraph) (i k : Nat) : Prop where
  lookup : m.modelIDToGraphID.lookup i = some k
  lt : k < graph.allTensors.length
  tensor : ∃ t, m.allTensors[i]? = some t ∧ t.isOpParameter = false ∧
    graph.allTensors[k]? = some (some t.convertToLiteGraphTensor)

/-- The node that operation `i` becomes. -/
structure NodeOf (m : InnerModel) (graph : LiteGraph) (i : Nat) (op : BuiltOp) (node : Node) :
    Prop where
  name : node.name = op.name ++ ":" ++ toString i
  quantType : node.quantType = NNToMS.transformQuantType op.quantType
  primitive : op.primitive = .ok (some node.primitive)
  inputs : List.Forall₂ (m.RefersTo graph) op.inputsIndex node.inputIndices
  outputs : List.Forall₂ (m.RefersTo graph) op.outputsIndex node.outputIndices

/-- The graph is a translation of the model. -/
structure Translates (m : InnerModel) (graph : LiteGraph) : Prop where
  /-- The tensors are the converted tensors that are no parameters, in order. -/
  allTensors : graph.allTensors =
    (m.allTensors.filter fun t => !t.isOpParameter).map fun t => some t.convertToLiteGraphTensor
  /-- The renumbering preserves the order. -/
  strictMono : ∀ i j k l, m.modelIDToGraphID.lookup i = some k →
    m.modelIDToGraphID.lookup j = some l → i < j → k < l
  /-- The renumbering is injective. -/
  injective : ∀ i j k, m.modelIDToGraphID.lookup i = some k →
    m.modelIDToGraphID.lookup j = some k → i = j
  inputs : List.Forall₂ (m.RefersTo graph) m.inputIndices graph.inputIndices
  outputs : List.Forall₂ (m.RefersTo graph) m.outputIndices graph.outputIndices
  /-- There is one node for each operation, in order. -/
  nodes_length : graph.allNodes.length = m.ops.length
  nodes : ∀ i op node, m.ops[i]? = some op → graph.allNodes[i]? = some node →
    m.NodeOf graph i op node
  /-- The one subgraph has all the nodes and the inputs and outputs of the graph. -/
  subGraphs : ∃ name, graph.subGraphs =
    [⟨name, graph.inputIndices, graph.outputIndices, List.range m.ops.length⟩]

/-! ## Tensors -/

/-- The loop converts the tensors that are no parameters. -/
theorem addTensorsLoop_fst {env : ModelEnv} (henv : ∀ i, env.createLiteTensor i = true)
    (i n : Nat) (tensors : List Tensor) :
    (addTensorsLoop env i n tensors).1 =
      (tensors.filter fun t => !t.isOpParameter).map fun t => some t.convertToLiteGraphTensor := by
  induction tensors generalizing i n with
  | nil => rfl
  | cons t tensors ih =>
    by_cases ht : t.isOpParameter
    · simp [addTensorsLoop, ht, ih]
    · simp [addTensorsLoop, ht, ih, henv]

theorem graphIDAt_eq_ok {ids : List (Nat × Nat)} {i k : Nat} (h : graphIDAt ids i = .ok k) :
    ids.lookup i = some k := by
  unfold graphIDAt at h
  split at h
  · cases h
  · cases h
    assumption

/-- An entry of the table refers to the tensor it is about. -/
theorem refersTo_of_lookup {m : InnerModel} {graph : LiteGraph} {i k : Nat}
    (hall : graph.allTensors =
      (m.allTensors.filter fun t => !t.isOpParameter).map fun t => some t.convertToLiteGraphTensor)
    (h : m.modelIDToGraphID.lookup i = some k) : m.RefersTo graph i k := by
  have hpairs := h
  rw [modelIDToGraphID_eq] at hpairs
  have hget := Renumber.getElem?_filter_of_lookup hpairs
  have hlt := Renumber.lt_length_filter_of_lookup hpairs
  obtain ⟨t, ht, hkeep⟩ := Renumber.lookup_isSome_iff.mp (Option.isSome_of_eq_some hpairs)
  refine ⟨h, ?_, t, ht, by simpa using hkeep, ?_⟩
  · rw [hall, List.length_map]
    exact hlt
  · rw [hall, List.getElem?_map, hget, ht]
    rfl

/-- The looked-up indices refer to the tensors of the given ones. -/
theorem refersTo_of_mapM {m : InnerModel} {graph : LiteGraph} {indices found : List Nat}
    (hall : graph.allTensors =
      (m.allTensors.filter fun t => !t.isOpParameter).map fun t => some t.convertToLiteGraphTensor)
    (h : indices.mapM (graphIDAt m.modelIDToGraphID) = .ok found) :
    List.Forall₂ (m.RefersTo graph) indices found :=
  (forall₂_of_mapM h).imp fun _ _ hid => refersTo_of_lookup hall (graphIDAt_eq_ok hid)

/-! ## Nodes -/

/-- The loop appends one node for each operation. -/
theorem addNodesLoop_nodes {m : InnerModel} {graph : LiteGraph} {env : ModelEnv}
    (hall : graph.allTensors =
      (m.allTensors.filter fun t => !t.isOpParameter).map fun t => some t.convertToLiteGraphTensor)
    {i : Nat} {ops : List BuiltOp} {nodes nodes' : List Node}
    (h : addNodesLoop env m.modelIDToGraphID i nodes ops = .ok (.success, nodes')) :
    ∃ added, nodes' = nodes ++ added ∧ added.length = ops.length ∧
      ∀ j op node, ops[j]? = some op → added[j]? = some node →
        m.NodeOf graph (i + j) op node := by
  induction ops generalizing i nodes with
  | nil =>
    cases h
    exact ⟨[], by simp, rfl, by simp⟩
  | cons op ops ih =>
    rw [addNodesLoop] at h
    split at h
    · cases h
    cases hinputs : op.inputsIndex.mapM (graphIDAt m.modelIDToGraphID) with
    | error fault => simp [hinputs] at h
    | ok inputIndices =>
    cases houtputs : op.outputsIndex.mapM (graphIDAt m.modelIDToGraphID) with
    | error fault => simp [hinputs, houtputs] at h
    | ok outputIndices =>
    cases hprim : op.primitive with
    | error fault => simp [hinputs, houtputs, hprim] at h
    | ok primitive =>
    cases primitive with
    | none => simp [hinputs, houtputs, hprim] at h
    | some primitive =>
    simp only [hinputs, houtputs, hprim] at h
    split at h
    · cases h
    -- The node of this operation, and the ones that the rest of the loop adds.
    obtain ⟨added, rfl, hlength, hadded⟩ := ih h
    refine ⟨_ :: added, by rw [List.append_assoc]; rfl, by simp [hlength], ?_⟩
    intro j op' node hop hnode
    cases j with
    | zero =>
      simp only [List.getElem?_cons_zero, Option.some.injEq] at hop hnode
      subst hop hnode
      exact ⟨rfl, rfl, hprim, refersTo_of_mapM hall hinputs, refersTo_of_mapM hall houtputs⟩
    | succ j =>
      rw [List.getElem?_cons_succ] at hop hnode
      have hshift : i + (j + 1) = i + 1 + j := by omega
      rw [hshift]
      exact hadded j op' node hop hnode

/-! ## The whole graph -/

/-- A filled lite graph is a translation. -/
theorem fillLiteGraph_translates {m : InnerModel} {env : ModelEnv} {graph : LiteGraph}
    (henv : ∀ i, env.createLiteTensor i = true)
    (h : m.fillLiteGraph env = .ok (.success, graph)) : m.Translates graph := by
  have hids : (addTensorsLoop env 0 0 m.allTensors).2 = m.modelIDToGraphID := by
    rw [addTensorsLoop_snd, modelIDToGraphID_eq]
  unfold fillLiteGraph addTensorsToLiteGraph at h
  simp only [hids, addTensorsLoop_fst henv] at h
  cases hinputs : m.inputIndices.mapM (graphIDAt m.modelIDToGraphID) with
  | error fault => simp [hinputs] at h
  | ok inputIndices =>
  cases houtputs : m.outputIndices.mapM (graphIDAt m.modelIDToGraphID) with
  | error fault => simp [hinputs, houtputs] at h
  | ok outputIndices =>
  simp only [hinputs, houtputs, ok_bind, pure_eq_ok] at h
  cases hnodes : addNodesLoop env m.modelIDToGraphID 0 [] m.ops with
  | error fault => simp [hnodes] at h
  | ok p =>
  obtain ⟨ret, nodes⟩ := p
  simp only [hnodes, ok_bind] at h
  split at h
  · rename_i hret
    cases h
    contradiction
  · rename_i hret
    split at h
    · cases h
    · rw [not_not] at hret
      subst hret
      have hall : graph.allTensors = (m.allTensors.filter fun t => !t.isOpParameter).map
          fun t => some t.convertToLiteGraphTensor := by
        cases h
        rfl
      obtain ⟨added, hadded, hlength, hnode⟩ := addNodesLoop_nodes hall hnodes
      cases h
      rw [List.nil_append] at hadded
      subst hadded
      -- The indices of the graph are the renumbering of the tensors that are not marked.
      refine ⟨rfl, ?_, ?_, ?_, ?_, hlength, ?_, ⟨_, rfl⟩⟩
      · intro i j k l hi hj hij
        rw [modelIDToGraphID_eq] at hi hj
        exact Renumber.lookup_strictMono hi hj hij
      · intro i j k hi hj
        rw [modelIDToGraphID_eq] at hi hj
        exact Renumber.lookup_injective hi hj
      · exact refersTo_of_mapM rfl hinputs
      · exact refersTo_of_mapM rfl houtputs
      · intro i op node hop hget
        have hof := hnode i op node hop hget
        rw [Nat.zero_add] at hof
        exact hof

/-! ## What a converted tensor is -/

/-- What a conversion keeps of a tensor: the name up to its first null character, the type and the
layout as the runtime reads them back, the dimensions, the quantisation, and the data if there is
as much of it as is said. -/
structure ConvertsTo (t : Tensor) (liteTensor : LiteTensor) : Prop where
  name : liteTensor.name = cString t.name
  dataType : MSToNN.transformDataType liteTensor.dataType = t.dataType
  dims : liteTensor.dims = t.dimensions
  format : t.format = .nchw ∨ t.format = .nhwc →
    MSToNN.transformFormat liteTensor.format = t.format
  data : (t.buffer.getD []).length = t.dataLength → liteTensor.data = t.buffer.getD []
  quantParams : liteTensor.quantParams = t.quantParams

theorem convertsTo (t : Tensor) : ConvertsTo t t.convertToLiteGraphTensor where
  name := rfl
  dataType := by
    change MSToNN.transformDataType (NNToMS.transformDataType t.dataType) = t.dataType
    cases t.dataType <;> rfl
  dims := rfl
  format hformat := by
    change MSToNN.transformFormat (some (NNToMS.transformFormat t.format)) = t.format
    rcases hformat with hformat | hformat <;> rw [hformat] <;> rfl
  data hlength := List.take_of_length_le hlength.le
  quantParams := rfl

/-- **A successful `Build` translates the model** into its lite graph, which is
all it changes, and its indices lead to tensors that keep what the model's tensors have. -/
theorem build_translates {m m' : InnerModel} {env : ModelEnv}
    (henv : ∀ i, env.createLiteTensor i = true) (h : m.build env = .ok (.success, m')) :
    ∃ graph, m' = { m with liteGraph := some graph } ∧ m.Translates graph ∧
      ∀ i k, m.RefersTo graph i k → ∃ t liteTensor, m.allTensors[i]? = some t ∧
        graph.allTensors[k]? = some (some liteTensor) ∧ ConvertsTo t liteTensor := by
  have hkeeps : ∀ (graph : LiteGraph) (i k : Nat), m.RefersTo graph i k → ∃ t liteTensor,
      m.allTensors[i]? = some t ∧ graph.allTensors[k]? = some (some liteTensor) ∧
        ConvertsTo t liteTensor := by
    rintro graph i k ⟨-, -, t, ht, -, hget⟩
    exact ⟨t, _, ht, hget, convertsTo t⟩
  unfold build at h
  split at h
  · cases h
  split at h
  · cases h
  split at h
  · cases h
  split at h
  · cases h
  split at h
  · cases h
  split at h
  · cases h
  · rename_i ret graph hfill
    cases h
    exact ⟨graph, rfl, fillLiteGraph_translates henv hfill, hkeeps graph⟩

/-- A `LeakyRelu` whose slope is the first tensor. -/
def leakyRelu : List (ModelEnv × Edit) :=
  [({}, .addTensor ⟨some .float32, .array [1], none, some .leakyReluNegativeSlope⟩),
    ({}, .setTensorValue 0 (some [0, 0, 128, 63])),
    ({}, .addTensor ⟨some .float32, .array [1], none, some .tensor⟩),
    ({}, .addTensor ⟨some .float32, .array [1], none, some .tensor⟩),
    ({}, .addOperation (some .leakyRelu) (.array [0]) (.array [1]) (.array [2])),
    ({}, .specifyInputsAndOutputs (.array [1]) (.array [2]))]

/-- The slope is left out, and the other two tensors are renumbered. -/
theorem build_translates_leakyRelu : ∃ m m' graph, Run.exec edit {} leakyRelu = .ok m ∧
    m.build {} = .ok (.success, m') ∧ m' = { m with liteGraph := some graph } ∧
      m.modelIDToGraphID = [(1, 0), (2, 1)] ∧ m.Translates graph := by
  obtain ⟨m, m', hm, hbuild, hids⟩ : ∃ m m', Run.exec edit {} leakyRelu = .ok m ∧
      m.build {} = .ok (.success, m') ∧ m.modelIDToGraphID = [(1, 0), (2, 1)] :=
    ⟨_, _, rfl, rfl, rfl⟩
  obtain ⟨graph, hgraph, htranslates, -⟩ := build_translates
    (show ∀ i, ({} : ModelEnv).createLiteTensor i = true from fun _ => rfl) hbuild
  exact ⟨m, m', graph, hm, hbuild, hgraph, hids, htranslates⟩

end InnerModel

end NNRt
