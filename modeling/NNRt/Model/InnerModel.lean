import NNRt.Model.LiteGraph

/-!
# `InnerModel`

The model under construction and its eleven mutators.

`m_inputTensors` and `m_outputTensors` hold pointers: to tensors of
`m_allTensors`, or, in a model built from a lite graph, to tensors of their own.
A mutator returns the model it leaves behind together with its code; a fault
ends the process, and with it the model.

Sizes and indices are natural numbers: a model with `2 ^ 32` tensors does not
fit in memory.
-/

namespace NNRt

/-- A pointer in `m_inputTensors` or `m_outputTensors`. -/
inductive TensorRef
  /-- An element of `m_allTensors`. -/
  | shared (index : Nat)
  | owned (t : Tensor)
  deriving DecidableEq

/-- `InnerModel`. -/
structure InnerModel where
  inputIndices : List Nat := []
  outputIndices : List Nat := []
  ops : List BuiltOp := []
  allTensors : List Tensor := []
  inputTensors : List TensorRef := []
  outputTensors : List TensorRef := []
  liteGraph : Option LiteGraph := none
  /-- The address of the meta graph. -/
  metaGraph : Option Nat := none
  extensionConfig : ExtensionConfig := {}

/-- `INPUT_OUTPUT_MAX_INDICES`. -/
def inputOutputMaxIndices : Nat := 200

/-- The name given to the tensor of an index. -/
def tensorName (index : Nat) : Bytes :=
  ("Tensor: " ++ toString index).toList.map fun c => UInt8.ofNat c.toNat

namespace InnerModel

/-- `IsBuild`. -/
def isBuild (m : InnerModel) : Bool :=
  m.liteGraph.isSome || m.metaGraph.isSome

/-! ## Tensors -/

/-- The end of `AddTensor` and `AddTensorDesc`. -/
def pushTensor (m : InnerModel) (t : Tensor) : InnerModel :=
  { m with allTensors := m.allTensors ++ [{ t with name := tensorName m.allTensors.length }] }

/-- `AddTensor`. -/
def addTensor (m : InnerModel) (env : ModelEnv) (nnTensor : OHNNTensor) :
    ReturnCode × InnerModel :=
  if m.isBuild then (.operationForbidden, m)
  else if !env.createTensor 0 then (.memoryError, m)
  else
    match ({} : Tensor).buildFromOHNNTensor nnTensor with
    | (.success, t) => (.success, m.pushTensor t)
    | (ret, _) => (ret, m)

/-- `AddTensorDesc`, which does not ask whether the model is built. -/
def addTensorDesc (m : InnerModel) (env : ModelEnv) : Option TensorDesc → ReturnCode × InnerModel
  | none => (.invalidParameter, m)
  | some desc =>
    if !env.createTensor 0 then (.memoryError, m)
    else
      match ({} : Tensor).buildFromTensorDesc desc with
      | (.success, t) => (.success, m.pushTensor t)
      | (ret, _) => (ret, m)

/-- `SetTensorType`. -/
def setTensorType (m : InnerModel) (index : Nat) (tensorType : TensorType) :
    ReturnCode × InnerModel :=
  if m.isBuild then (.operationForbidden, m)
  else
    match m.allTensors[index]? with
    | none => (.invalidParameter, m)
    | some t =>
      (.success, { m with allTensors := m.allTensors.set index { t with tensorType := tensorType } })

/-- `SetTensorQuantParam`. -/
def setTensorQuantParam (m : InnerModel) (index : Nat) (quantParam : Option QuantParams) :
    ReturnCode × InnerModel :=
  if m.isBuild then (.operationForbidden, m)
  else
    match m.allTensors[index]? with
    | none => (.invalidParameter, m)
    | some t =>
      -- The old parameters are gone also when the new ones are refused.
      let (ret, t) := t.setQuantParam quantParam
      (ret, { m with allTensors := m.allTensors.set index t })

/-- `SetTensorValue` of a buffer of the given length. -/
def setTensorValue (m : InnerModel) (env : ModelEnv) (index : Nat) (buffer : Option Bytes) :
    ReturnCode × InnerModel :=
  if m.isBuild then (.operationForbidden, m)
  else
    match m.allTensors[index]? with
    | none => (.invalidParameter, m)
    | some t =>
      if t.buffer.isSome then (.invalidParameter, m)
      else
        match buffer with
        -- A null pointer is an optional value that is left out.
        | none => (.success, m)
        | some bytes =>
          if t.isDynamicShape then (.operationForbidden, m)
          else if bytes.length ≠ t.dataLength then (.invalidParameter, m)
          else if !env.createBuffer then (.memoryError, m)
          else if !memcpySucceeds bytes.length then (.failed, m)
          else
            let t := t.setBuffer (some bytes) bytes.length
            (.success, { m with allTensors := m.allTensors.set index t })

/-! ## Operations, inputs and outputs -/

/-- `ValidateTensorArray`. -/
def validateTensorArray (m : InnerModel) (indices : CArray Nat) : ReturnCode :=
  if indices.validate ≠ .success then indices.validate
  else if indices.toVector.any (· ≥ m.allTensors.length) then .invalidParameter
  else .success

/-- Does the tensor of an index have the type `OH_NN_TENSOR`? -/
def isPlainTensor (m : InnerModel) (index : Nat) : Bool :=
  match m.allTensors[index]? with
  | none => false
  | some t => t.tensorType = .tensor

/-- `ValidateInputAndOutput`. The mark of a tensor is not looked at. -/
def validateInputAndOutput (m : InnerModel) (inputs outputs : CArray Nat) : ReturnCode :=
  if inputs.count = 0 ∨ inputs.count > inputOutputMaxIndices then .invalidParameter
  else if outputs.count = 0 ∨ outputs.count > inputOutputMaxIndices then .invalidParameter
  else if m.validateTensorArray inputs ≠ .success then m.validateTensorArray inputs
  else if m.validateTensorArray outputs ≠ .success then m.validateTensorArray outputs
  else if inputs.toVector.any fun i => !m.isPlainTensor i then .invalidParameter
  else if outputs.toVector.any fun i => !m.isPlainTensor i then .invalidParameter
  else if inputs.toVector.any fun i => outputs.toVector.contains i then .invalidParameter
  else .success

/-- `AddOperation`; an operation type outside the enumeration has no builder. -/
def addOperation (m : InnerModel) (opType : Option OperationType)
    (params inputs outputs : CArray Nat) : Except Fault (ReturnCode × InnerModel) :=
  if m.isBuild then .ok (.operationForbidden, m)
  else if m.validateInputAndOutput inputs outputs ≠ .success then
    .ok (m.validateInputAndOutput inputs outputs, m)
  else if m.validateTensorArray params ≠ .success then .ok (m.validateTensorArray params, m)
  else
    match opType with
    | none => .ok (.invalidParameter, m)
    | some opType =>
      match (getOpsBuilder opType).builder.build params.toVector inputs.toVector outputs.toVector
          m.allTensors with
      | .error fault => .error fault
      -- The tensors a builder has marked before it fails stay marked.
      | .ok (.error ret, tensors) => .ok (ret, { m with allTensors := tensors })
      | .ok (.ok op, tensors) =>
        .ok (.success, { m with allTensors := tensors, ops := m.ops ++ [op] })

/-- `SpecifyInputsAndOutputs`. -/
def specifyInputsAndOutputs (m : InnerModel) (inputs outputs : CArray Nat) :
    ReturnCode × InnerModel :=
  if m.isBuild then (.operationForbidden, m)
  else if !m.inputTensors.isEmpty then (.operationForbidden, m)
  else if m.validateInputAndOutput inputs outputs ≠ .success then
    (m.validateInputAndOutput inputs outputs, m)
  else
    (.success, { m with
      inputIndices := inputs.toVector
      outputIndices := outputs.toVector
      inputTensors := m.inputTensors ++ inputs.toVector.map .shared
      outputTensors := m.outputTensors ++ outputs.toVector.map .shared })

/-- `CheckParameters`. -/
def checkParameters (m : InnerModel) : ReturnCode :=
  if m.isBuild then .operationForbidden
  else if !m.allTensors.isEmpty then .operationForbidden
  else if !(m.inputTensors.isEmpty && m.inputIndices.isEmpty) then .operationForbidden
  else if !(m.outputTensors.isEmpty && m.outputIndices.isEmpty) then .operationForbidden
  else .success

/-- One tensor of `SetInputsAndOutputsInfo`, or the code that stops it. -/
def tensorOfInfo (created : Bool) (info : OHNNTensorInfo) : Except ReturnCode Tensor :=
  if !created then .error .memoryError
  else
    match ({} : Tensor).buildFromOHNNTensorInfo info with
    | (.success, t) => .ok t
    | (ret, _) => .error ret

/-- The loop of `SetInputsAndOutputsInfo` over the inputs, from index `i` on. -/
def pushInputs (env : ModelEnv) (i : Nat) (m : InnerModel) :
    List OHNNTensorInfo → ReturnCode × InnerModel
  | [] => (.success, m)
  | info :: infos =>
    match tensorOfInfo (env.createTensor i) info with
    | .error ret => (ret, m)
    | .ok t => pushInputs env (i + 1) { m with
        inputIndices := m.inputIndices ++ [i]
        inputTensors := m.inputTensors ++ [.shared m.allTensors.length]
        allTensors := m.allTensors ++ [t] } infos

/-- The loop of `SetInputsAndOutputsInfo` over the outputs; `i` counts the
inputs too. -/
def pushOutputs (env : ModelEnv) (i : Nat) (m : InnerModel) :
    List OHNNTensorInfo → ReturnCode × InnerModel
  | [] => (.success, m)
  | info :: infos =>
    match tensorOfInfo (env.createTensor i) info with
    | .error ret => (ret, m)
    | .ok t => pushOutputs env (i + 1) { m with
        outputIndices := m.outputIndices ++ [i]
        outputTensors := m.outputTensors ++ [.shared m.allTensors.length]
        allTensors := m.allTensors ++ [t] } infos

/-- `SetInputsAndOutputsInfo`. -/
def setInputsAndOutputsInfo (m : InnerModel) (env : ModelEnv)
    (inputsInfo outputsInfo : List OHNNTensorInfo) : ReturnCode × InnerModel :=
  if m.checkParameters ≠ .success then (m.checkParameters, m)
  else
    match m.pushInputs env 0 inputsInfo with
    | (.success, m) => m.pushOutputs env inputsInfo.length outputsInfo
    | (ret, m) => (ret, m)

/-! ## Models built elsewhere -/

/-- The loop of `ConstructNNTensorsFromLiteGraph`, which keeps the tensors it
has constructed when it fails; `n` counts the allocations. -/
def constructTensors (env : ModelEnv) (graph : LiteGraph) (n : Nat) (nnTensors : List TensorRef) :
    List Nat → ReturnCode × List TensorRef
  | [] => (.success, nnTensors)
  | i :: indices =>
    match graph.allTensors[i]? with
    | none => (.nullPtr, nnTensors)
    | some msTensor =>
      if !env.createTensor n then (.nullPtr, nnTensors)
      else
        match Tensor.ofLiteGraphTensor (msTensor.getD env.nullTensor) with
        | none => (.nullPtr, nnTensors)
        | some t => constructTensors env graph (n + 1) (nnTensors ++ [.owned t]) indices

/-- `ConstructNNTensorsFromLiteGraph`. -/
def constructNNTensorsFromLiteGraph (env : ModelEnv) (graph : LiteGraph) (n : Nat)
    (indices : List Nat) (nnTensors : List TensorRef) : ReturnCode × List TensorRef :=
  if indices.isEmpty ∨ indices.length > inputOutputMaxIndices then (.invalidParameter, nnTensors)
  else if indices.any (· ≥ graph.allTensors.length) then (.invalidParameter, nnTensors)
  else constructTensors env graph n nnTensors indices

/-- `BuildFromLiteGraph`. -/
def buildFromLiteGraph (m : InnerModel) (env : ModelEnv) (liteGraph : Option LiteGraph)
    (extensionConfig : ExtensionConfig) : ReturnCode × InnerModel :=
  match liteGraph with
  | none => (.invalidParameter, m)
  | some graph =>
    if m.isBuild then (.operationForbidden, m)
    else if !m.allTensors.isEmpty ∨ !m.ops.isEmpty then (.operationForbidden, m)
    else
      match constructNNTensorsFromLiteGraph env graph 0 graph.inputIndices [] with
      | (.success, inputTensors) =>
        match constructNNTensorsFromLiteGraph env graph inputTensors.length
            graph.outputIndices [] with
        | (.success, outputTensors) =>
          (.success, { m with
            inputTensors := inputTensors
            outputTensors := outputTensors
            liteGraph := some { graph with name := "Loaded_NNR_Model" }
            extensionConfig := extensionConfig })
        -- What has been constructed stays, and a second attempt starts over.
        | (ret, outputTensors) =>
          (ret, { m with inputTensors := inputTensors, outputTensors := outputTensors })
      | (ret, inputTensors) => (ret, { m with inputTensors := inputTensors })

/-- `BuildFromMetaGraph`. -/
def buildFromMetaGraph (m : InnerModel) (metaGraph : Option Nat)
    (extensionConfig : ExtensionConfig) : ReturnCode × InnerModel :=
  match metaGraph with
  | none => (.invalidParameter, m)
  | some address =>
    if m.isBuild then (.operationForbidden, m)
    else if m.allTensors.isEmpty then (.operationForbidden, m)
    else (.success, { m with metaGraph := some address, extensionConfig := extensionConfig })

/-! ## `Build` -/

/-- The loop of `AddTensorsToLiteGraph` from index `i` and graph index
`graphID` on: `all_tensors_` and `modelIDToGraphID`. -/
def addTensorsLoop (env : ModelEnv) (i graphID : Nat) :
    List Tensor → List (Option LiteTensor) × List (Nat × Nat)
  | [] => ([], [])
  | t :: tensors =>
    if t.isOpParameter then addTensorsLoop env (i + 1) graphID tensors
    else
      let (all, ids) := addTensorsLoop env (i + 1) (graphID + 1) tensors
      let liteTensor := if env.createLiteTensor i then some t.convertToLiteGraphTensor else none
      (liteTensor :: all, (i, graphID) :: ids)

/-- `modelIDToGraphID.at`. -/
def graphIDAt (modelIDToGraphID : List (Nat × Nat)) (index : Nat) : Except Fault Nat :=
  match modelIDToGraphID.lookup index with
  | none => .error .outOfRange
  | some graphID => .ok graphID

/-- `AddTensorsToLiteGraph`. -/
def addTensorsToLiteGraph (m : InnerModel) (env : ModelEnv) (graph : LiteGraph) :
    Except Fault (LiteGraph × List (Nat × Nat)) := do
  let (allTensors, modelIDToGraphID) := addTensorsLoop env 0 0 m.allTensors
  let inputIndices ← m.inputIndices.mapM (graphIDAt modelIDToGraphID)
  let outputIndices ← m.outputIndices.mapM (graphIDAt modelIDToGraphID)
  return ({ graph with
    allTensors := allTensors, inputIndices := inputIndices, outputIndices := outputIndices },
    modelIDToGraphID)

/-- The loop of `AddNodesToLiteGraph` from operation `i` on; the nodes added
before a failure stay. -/
def addNodesLoop (env : ModelEnv) (modelIDToGraphID : List (Nat × Nat)) (i : Nat)
    (nodes : List Node) : List BuiltOp → Except Fault (ReturnCode × List Node)
  | [] => .ok (.success, nodes)
  | op :: ops =>
    if !env.createNode i then .ok (.nullPtr, nodes)
    else
      match op.inputsIndex.mapM (graphIDAt modelIDToGraphID) with
      | .error fault => .error fault
      | .ok inputIndices =>
        match op.outputsIndex.mapM (graphIDAt modelIDToGraphID) with
        | .error fault => .error fault
        | .ok outputIndices =>
          match op.primitive with
          | .error fault => .error fault
          | .ok none => .ok (.failed, nodes)
          | .ok (some primitive) =>
            if !env.createPrimitive i then .ok (.failed, nodes)
            else addNodesLoop env modelIDToGraphID (i + 1) (nodes ++ [{
              name := op.name ++ ":" ++ toString i
              quantType := NNToMS.transformQuantType op.quantType
              inputIndices := inputIndices
              outputIndices := outputIndices
              primitive := primitive }]) ops

/-- The part of `Build` after the lite graph is installed; the lite graph is as
it leaves it. -/
def fillLiteGraph (m : InnerModel) (env : ModelEnv) : Except Fault (ReturnCode × LiteGraph) := do
  let (graph, modelIDToGraphID) ← m.addTensorsToLiteGraph env { name := "NNR_Model" }
  let (ret, nodes) ← addNodesLoop env modelIDToGraphID 0 [] m.ops
  let graph := { graph with allNodes := nodes }
  if ret ≠ .success then return (ret, graph)
  if !env.createSubGraph then return (.nullPtr, graph)
  let subGraph : SubGraph :=
    { name := "NNRt_SubGraph"
      inputIndices := graph.inputIndices
      outputIndices := graph.outputIndices
      nodeIndices := List.range m.ops.length }
  return (.success, { graph with subGraphs := [subGraph] })

/-- `Build`. -/
def build (m : InnerModel) (env : ModelEnv) : Except Fault (ReturnCode × InnerModel) :=
  if m.isBuild then .ok (.operationForbidden, m)
  else if m.allTensors.isEmpty then .ok (.operationForbidden, m)
  else if m.ops.isEmpty then .ok (.operationForbidden, m)
  else if m.inputIndices.isEmpty ∨ m.outputIndices.isEmpty then .ok (.operationForbidden, m)
  else if !env.createLiteGraph then .ok (.memoryError, m)
  else
    match m.fillLiteGraph env with
    | .error fault => .error fault
    -- The graph was installed before it was filled: it stays after an error.
    | .ok (ret, graph) => .ok (ret, { m with liteGraph := some graph })

/-! ## Descriptions -/

/-- The tensor a pointer leads to. -/
def deref (m : InnerModel) : TensorRef → Option Tensor
  | .shared i => m.allTensors[i]?
  | .owned t => some t

/-- `GetInputTensorDescs` and `GetOutputTensorDescs` on their lists. -/
def tensorDescs (m : InnerModel) (refs : List TensorRef) : List (TensorDesc × UInt32) :=
  if refs.length > inputOutputMaxIndices then []
  else (refs.filterMap m.deref).map fun t => (t.convertToTensorDesc {}, t.tensorType.code)

/-- `GetInputTensorDescs`. -/
def getInputTensorDescs (m : InnerModel) : List (TensorDesc × UInt32) :=
  m.tensorDescs m.inputTensors

/-- `GetOutputTensorDescs`. -/
def getOutputTensorDescs (m : InnerModel) : List (TensorDesc × UInt32) :=
  m.tensorDescs m.outputTensors

end InnerModel

end NNRt
