import NNRt.Driver.Convert
import NNRt.Lib.Packing
import NNRt.Model.LiteGraph

/-!
# `LiteGraph_To_HDIModel`

The model that version 2.1 of the driver prepares. The data of constant tensors
goes into one shared buffer, each tensor's behind the one before it; a tensor of
the driver model names its range of the buffer.

- `describe`: what a tensor is given as its range, by its data and the offset.
- `packTensors_eq`: the loop over the tensors packs their data.
- `constants_packed`: **ranges follow one another, lie inside the buffer and hold
  the tensors' data**, and nodes, tensors and subgraphs keep their order.
- `bigTensor_dropped`: more than `memcpy_s` copies at once is left out.
-/

namespace NNRt

/-- `SharedBuffer` of the driver interface. -/
structure HDISharedBuffer where
  fd : Int32
  bufferSize : UInt32
  offset : UInt32
  dataSize : UInt32
  deriving DecidableEq, Repr

/-- `LiteGraph::Node` of a graph that may have been loaded. -/
structure LoadedNode (ν : Type) where
  name : String
  quantType : QuantType
  inputIndices : List Nat
  outputIndices : List Nat
  primitive : Option (MindIRPrimitive ν)

/-- A `LiteGraph` with pointers to its nodes and tensors, which may be null. -/
structure LoadedGraph (ν : Type) where
  name : String := ""
  inputIndices : List Nat := []
  outputIndices : List Nat := []
  allNodes : List (Option (LoadedNode ν)) := []
  allTensors : List (Option LiteTensor) := []
  subGraphs : List SubGraph := []

/-- `Node` of the driver interface. -/
structure HDINode where
  name : String
  nodeType : NodeType
  nodeAttr : List Int8
  inputIndex : List Nat
  outputIndex : List Nat
  quantType : QuantType

/-- `Tensor` of the driver interface; the codes of its enumerations are those of
MindIR. -/
structure HDITensor where
  name : Bytes
  dataType : MSDataType
  dims : List Int32
  format : Option MSFormat
  data : HDISharedBuffer
  quantParams : List QuantParam

/-- `Model` of the driver interface. -/
structure HDIModel where
  name : String
  inputIndex : List Nat
  outputIndex : List Nat
  nodes : List HDINode
  allTensors : List HDITensor
  subGraph : List SubGraph

/-- What is outside the conversion. -/
structure HDIModelEnv where
  /-- Whether `mmap` succeeds, and what the mapping holds. -/
  mmap : Bool := true
  memory : Nat → UInt8 := fun _ => 0
  munmap : Bool := true
  /-- `new Model`. -/
  createModel : Bool := true
  /-- What the accessors of a tensor answer for a null tensor. -/
  nullTensor : LiteTensor := ⟨emptyName, .unknown, [], none, [], []⟩

namespace HDIModel

/-! ## Tensors -/

/-- `Copy_MindIR_Tensor_Data_To_HDIBuffer`, with the memory it writes to; `none`
is a null mapping. -/
def copyMindIRTensorDataToHDIBuffer (tensor : Option LiteTensor) (bufferTemplete : HDISharedBuffer)
    (mmapPtr : Option (Nat → UInt8)) (offset : UInt32) :
    Except Fault (HDISharedBuffer × Option (Nat → UInt8)) :=
  match tensor with
  | none => .ok (⟨-1, 0, offset, 0⟩, mmapPtr)
  | some tensor =>
    match mmapPtr with
    | none => .ok (⟨-1, 0, offset, 0⟩, none)
    | some memory =>
      -- No data, or too much of it: the tensor gets an empty range without a descriptor.
      if tensor.data.isEmpty then
        .ok (⟨-1, bufferTemplete.bufferSize, offset, 0⟩, some memory)
      else if !memcpySucceeds tensor.data.length then .ok (⟨-1, 0, offset, 0⟩, some memory)
      else if offset.toNat + tensor.data.length > bufferTemplete.bufferSize.toNat then
        .error .outOfBounds
      else
        .ok (⟨bufferTemplete.fd, bufferTemplete.bufferSize, offset,
          UInt32.ofNat tensor.data.length⟩,
          some (Packing.writeAt memory offset.toNat tensor.data))

/-- A tensor of the driver model. -/
def toHDITensor (nullTensor : LiteTensor) (tensor : Option LiteTensor) (data : HDISharedBuffer) :
    HDITensor where
  name := (tensor.getD nullTensor).name.val
  dataType := (tensor.getD nullTensor).dataType
  dims := (tensor.getD nullTensor).dims
  format := (tensor.getD nullTensor).format
  data := data
  quantParams := (tensor.map LiteTensor.quantParams).getD []

/-- The loop over the tensors, which carries the offset. -/
def packTensors (nullTensor : LiteTensor) (buffer : HDISharedBuffer)
    (mmapPtr : Option (Nat → UInt8)) (tensorBufferOffset : UInt32) :
    List (Option LiteTensor) → Except Fault (List HDITensor × Option (Nat → UInt8))
  | [] => .ok ([], mmapPtr)
  | tensor :: tensors =>
    match copyMindIRTensorDataToHDIBuffer tensor buffer mmapPtr tensorBufferOffset with
    | .error fault => .error fault
    | .ok (data, mmapPtr) =>
      match packTensors nullTensor buffer mmapPtr (data.offset + data.dataSize) tensors with
      | .error fault => .error fault
      | .ok (allTensors, mmapPtr) =>
        .ok (toHDITensor nullTensor tensor data :: allTensors, mmapPtr)

/-! ## The model -/

section

variable {ν : Type} (default : Accessor → ν) (marshal : NodeType → List (Attribute × ν) → List Int8)

/-- One round of the loop over the nodes; `none` for a null node or primitive. -/
def toHDINode (node : Option (LoadedNode ν)) : Option HDINode :=
  match node with
  | none => none
  | some node =>
    match node.primitive with
    | none => none
    | some primitive => some {
        name := node.name
        nodeType := primitive.type
        nodeAttr := convert default marshal (some primitive.type) (some primitive)
        inputIndex := node.inputIndices
        outputIndex := node.outputIndices
        quantType := node.quantType }

/-- `LiteGraph_To_HDIModel`, with the memory it leaves; the model may be a null
pointer. -/
def liteGraphToHDIModel (liteGraph : Option (LoadedGraph ν)) (buffer : HDISharedBuffer)
    (env : HDIModelEnv) : Except Fault (Option HDIModel × (Nat → UInt8)) :=
  match liteGraph with
  | none => .ok (none, env.memory)
  | some graph =>
    match graph.allNodes.mapM (toHDINode default marshal) with
    | none => .ok (none, env.memory)
    | some nodes =>
      if buffer.fd ≠ -1 ∧ !env.mmap then .ok (none, env.memory)
      else
        let mmapPtr := if buffer.fd ≠ -1 then some env.memory else none
        match packTensors env.nullTensor buffer mmapPtr 0 graph.allTensors with
        | .error fault => .error fault
        | .ok (allTensors, mmapPtr) =>
          let memory := mmapPtr.getD env.memory
          if buffer.fd ≠ -1 ∧ !env.munmap then .ok (none, memory)
          else if !env.createModel then .ok (none, memory)
          else .ok (some {
            name := graph.name
            inputIndex := graph.inputIndices
            outputIndex := graph.outputIndices
            nodes := nodes
            allTensors := allTensors
            subGraph := graph.subGraphs }, memory)

end

/-! ## Where the data goes -/

/-- `MindIR_Tensor_GetData`; a null tensor has none. -/
def dataOf (tensor : Option LiteTensor) : Bytes :=
  (tensor.map LiteTensor.data).getD []

/-- The data that is copied: what is not empty and not too much for one
`memcpy_s`. -/
def placed (tensor : Option LiteTensor) : Bytes :=
  if memcpySucceeds (dataOf tensor).length then dataOf tensor else []

/-- The range a tensor is given when its turn comes at an offset. -/
def describe (buffer : HDISharedBuffer) (tensor : Option LiteTensor) (offset : UInt32) :
    HDISharedBuffer :=
  if memcpySucceeds (dataOf tensor).length then
    ⟨buffer.fd, buffer.bufferSize, offset, UInt32.ofNat (dataOf tensor).length⟩
  else
    ⟨-1, if tensor.isSome ∧ dataOf tensor = [] then buffer.bufferSize else 0, offset, 0⟩

variable {buffer : HDISharedBuffer} {nullTensor : LiteTensor} {memory : Nat → UInt8}

theorem placed_length_le (tensor : Option LiteTensor) :
    (placed tensor).length ≤ (dataOf tensor).length := by
  unfold placed
  split
  · exact Nat.le_refl _
  · exact Nat.zero_le _

/-- What is copied at once fits into 32 bits, and is not empty. -/
theorem memcpySucceeds_iff (n : Nat) : memcpySucceeds n = true ↔ 0 < n ∧ n ≤ 2 ^ 31 - 1 := by
  unfold memcpySucceeds
  exact decide_eq_true_iff

theorem describe_dataSize (tensor : Option LiteTensor) (offset : UInt32) :
    (describe buffer tensor offset).dataSize.toNat = (placed tensor).length := by
  unfold describe placed
  by_cases h : memcpySucceeds (dataOf tensor).length = true
  · have hlt := (memcpySucceeds_iff _).mp h
    rw [if_pos h, if_pos h]
    exact UInt32.toNat_ofNat_of_lt' (by show _ < 2 ^ 32; omega)
  · rw [if_neg h, if_neg h]
    rfl

theorem describe_offset (tensor : Option LiteTensor) (offset : UInt32) :
    (describe buffer tensor offset).offset = offset := by
  unfold describe
  split <;> rfl

/-- One copy: the range, and the data written there. -/
theorem copy_eq (tensor : Option LiteTensor) {offset : UInt32}
    (hfits : offset.toNat + (placed tensor).length ≤ buffer.bufferSize.toNat) :
    copyMindIRTensorDataToHDIBuffer tensor buffer (some memory) offset =
      .ok (describe buffer tensor offset,
        some (Packing.writeAt memory offset.toNat (placed tensor))) := by
  cases tensor with
  | none =>
    rw [show placed none = [] from rfl, Packing.writeAt_nil]
    rfl
  | some tensor =>
    have hdata : dataOf (some tensor) = tensor.data := rfl
    unfold copyMindIRTensorDataToHDIBuffer describe
    unfold placed at hfits ⊢
    rw [hdata] at hfits ⊢
    dsimp only
    by_cases hempty : tensor.data = []
    · rw [hempty]
      simp [memcpySucceeds]
    · rw [if_neg (by simpa using hempty)]
      by_cases hcopy : memcpySucceeds tensor.data.length = true
      · rw [if_pos hcopy] at hfits
        rw [if_pos hcopy, if_pos hcopy, hcopy, if_neg (by simp), if_neg (by omega)]
      · rw [if_neg hcopy, if_neg hcopy, if_pos (by simpa using hcopy), Packing.writeAt_nil,
          if_neg (fun h => hempty h.2)]

/-- The tensors of the driver model, from an offset on. -/
def packed (nullTensor : LiteTensor) (buffer : HDISharedBuffer) (offset : Nat) :
    List (Option LiteTensor) → List HDITensor
  | [] => []
  | tensor :: tensors =>
    toHDITensor nullTensor tensor (describe buffer tensor (UInt32.ofNat offset)) ::
      packed nullTensor buffer (offset + (placed tensor).length) tensors

/-- **The loop packs the tensors' data**: the offset it carries is where the next
block begins. -/
theorem packTensors_eq (tensors : List (Option LiteTensor)) {offset : Nat}
    (hfits : offset + Packing.total (tensors.map placed) ≤ buffer.bufferSize.toNat) :
    packTensors nullTensor buffer (some memory) (UInt32.ofNat offset) tensors =
      .ok (packed nullTensor buffer offset tensors,
        some (Packing.fill memory offset (tensors.map placed))) := by
  induction tensors generalizing memory offset with
  | nil => rfl
  | cons tensor tensors ih =>
    rw [List.map_cons, Packing.total_cons] at hfits
    have hlt : buffer.bufferSize.toNat < 2 ^ 32 := buffer.bufferSize.toNat_lt
    have hoffset : (UInt32.ofNat offset).toNat = offset :=
      UInt32.toNat_ofNat_of_lt' (by show _ < 2 ^ 32; omega)
    have hcopy : copyMindIRTensorDataToHDIBuffer tensor buffer (some memory) (UInt32.ofNat offset) =
        .ok (describe buffer tensor (UInt32.ofNat offset), some (Packing.writeAt memory _ _)) :=
      copy_eq tensor (by rw [hoffset]; omega)
    -- The sum of offset and size does not wrap around.
    have hnext : (describe buffer tensor (UInt32.ofNat offset)).offset +
        (describe buffer tensor (UInt32.ofNat offset)).dataSize =
          UInt32.ofNat (offset + (placed tensor).length) := by
      rw [describe_offset]
      apply UInt32.toNat_inj.mp
      rw [UInt32.toNat_add, describe_dataSize, hoffset, UInt32.toNat_ofNat']
    rw [hoffset] at hcopy
    unfold packTensors
    rw [hcopy]
    dsimp only
    rw [hnext, ih (by omega)]
    rfl

theorem packed_getElem? (tensors : List (Option LiteTensor)) (offset i : Nat) :
    (packed nullTensor buffer offset tensors)[i]? = tensors[i]?.map fun tensor =>
      toHDITensor nullTensor tensor (describe buffer tensor
        (UInt32.ofNat (Packing.start offset (tensors.map placed) i))) := by
  induction tensors generalizing offset i with
  | nil => rfl
  | cons tensor tensors ih =>
    cases i with
    | zero => rfl
    | succ i =>
      rw [List.map_cons, Packing.start_cons_succ]
      exact ih (offset + (placed tensor).length) i

/-- The ranges of the tensors, and what the memory holds. -/
structure Places (tensors : List (Option LiteTensor)) (buffer : HDISharedBuffer)
    (allTensors : List HDITensor) (memory : Nat → UInt8) : Prop where
  first : ∀ r : HDITensor, allTensors[0]? = some r → r.data.offset = 0
  consecutive : ∀ (i : Nat) (r r' : HDITensor), allTensors[i]? = some r →
    allTensors[i + 1]? = some r' →
      r'.data.offset.toNat = r.data.offset.toNat + r.data.dataSize.toNat
  disjoint : ∀ (i j : Nat) (r r' : HDITensor), i < j → allTensors[i]? = some r →
    allTensors[j]? = some r' →
    r.data.offset.toNat + r.data.dataSize.toNat ≤ r'.data.offset.toNat
  copied : ∀ (i : Nat) tensor (r : HDITensor), tensors[i]? = some tensor →
    allTensors[i]? = some r →
    dataOf tensor ≠ [] → (dataOf tensor).length ≤ 2 ^ 31 - 1 →
      r.data.fd = buffer.fd ∧ r.data.dataSize.toNat = (dataOf tensor).length ∧
      r.data.offset.toNat + r.data.dataSize.toNat ≤ buffer.bufferSize.toNat ∧
      ∀ k (hk : k < (dataOf tensor).length),
        memory (r.data.offset.toNat + k) = (dataOf tensor)[k]
  skipped : ∀ (i : Nat) tensor (r : HDITensor), tensors[i]? = some tensor →
    allTensors[i]? = some r →
    (dataOf tensor = [] ∨ 2 ^ 31 - 1 < (dataOf tensor).length) →
      r.data.fd = -1 ∧ r.data.dataSize = 0

/-- The lists of the driver model follow those of the graph. -/
structure Follows {ν : Type} (graph : LoadedGraph ν) (model : HDIModel) : Prop where
  nodes : List.Forall₂ (fun node (n : HDINode) => ∃ v p, node = some v ∧ v.primitive = some p ∧
    n.name = v.name ∧ n.nodeType = p.type ∧ n.inputIndex = v.inputIndices ∧
    n.outputIndex = v.outputIndices ∧ n.quantType = v.quantType) graph.allNodes model.nodes
  length : model.allTensors.length = graph.allTensors.length
  tensors : ∀ (i : Nat) t (r : HDITensor), graph.allTensors[i]? = some (some t) →
    model.allTensors[i]? = some r →
      r.name = t.name.val ∧ r.dims = t.dims ∧ r.quantParams = t.quantParams
  subGraph : model.subGraph = graph.subGraphs
  indices : model.inputIndex = graph.inputIndices ∧ model.outputIndex = graph.outputIndices

theorem length_packed (tensors : List (Option LiteTensor)) (offset : Nat) :
    (packed nullTensor buffer offset tensors).length = tensors.length := by
  induction tensors generalizing offset with
  | nil => rfl
  | cons tensor tensors ih => exact congrArg Nat.succ (ih _)

/-- The tensors of the loop are placed in the memory it leaves. -/
theorem places_packed {tensors : List (Option LiteTensor)}
    (hfits : Packing.total (tensors.map placed) ≤ buffer.bufferSize.toNat) :
    Places tensors buffer (packed nullTensor buffer 0 tensors)
      (Packing.fill memory 0 (tensors.map placed)) := by
  have hlt : buffer.bufferSize.toNat < 2 ^ 32 := buffer.bufferSize.toNat_lt
  -- The range of a tensor, in natural numbers.
  have hrange : ∀ {i r}, (packed nullTensor buffer 0 tensors)[i]? = some r →
      ∃ tensor, tensors[i]? = some tensor ∧
        r.data = describe buffer tensor (UInt32.ofNat (Packing.start 0 (tensors.map placed) i)) ∧
        r.data.offset.toNat = Packing.start 0 (tensors.map placed) i ∧
        r.data.dataSize.toNat = (placed tensor).length := by
    intro i r hr
    rw [packed_getElem?] at hr
    obtain ⟨tensor, htensor, rfl⟩ := Option.map_eq_some_iff.mp hr
    have hstart : Packing.start 0 (tensors.map placed) i ≤ 0 + _ :=
      Packing.start_le_total 0 (tensors.map placed) i
    refine ⟨tensor, htensor, rfl, ?_, describe_dataSize tensor _⟩
    show (describe buffer tensor _).offset.toNat = _
    rw [describe_offset]
    exact UInt32.toNat_ofNat_of_lt' (by show _ < 2 ^ 32; omega)
  have hblock : ∀ {i : Nat} {tensor}, tensors[i]? = some tensor →
      (tensors.map placed)[i]? = some (placed tensor) := by
    intro i tensor htensor
    rw [List.getElem?_map, htensor]
    rfl
  refine ⟨?_, ?_, ?_, ?_, ?_⟩
  · intro r hr
    obtain ⟨tensor, -, -, hoffset, -⟩ := hrange hr
    apply UInt32.toNat_inj.mp
    rw [hoffset]
    rfl
  · intro i r r' hr hr'
    obtain ⟨tensor, htensor, -, hoffset, hsize⟩ := hrange hr
    obtain ⟨-, -, -, hoffset', -⟩ := hrange hr'
    rw [hoffset, hoffset', hsize, Packing.start_succ (hblock htensor)]
  · intro i j r r' hij hr hr'
    obtain ⟨tensor, htensor, -, hoffset, hsize⟩ := hrange hr
    obtain ⟨-, -, -, hoffset', -⟩ := hrange hr'
    rw [hoffset, hoffset', hsize]
    exact Packing.start_add_le (hblock htensor) hij
  · intro i tensor r htensor hr hne hle
    obtain ⟨tensor', htensor', hdata, hoffset, hsize⟩ := hrange hr
    obtain rfl : tensor = tensor' := Option.some.inj (htensor.symm.trans htensor')
    have hcopied : memcpySucceeds (dataOf tensor).length = true :=
      (memcpySucceeds_iff _).mpr ⟨List.length_pos_iff.mpr hne, hle⟩
    have hplaced : placed tensor = dataOf tensor := by
      unfold placed
      rw [if_pos hcopied]
    have hend : Packing.start 0 (tensors.map placed) i + (placed tensor).length ≤ 0 + _ :=
      Packing.start_add_le_total (hblock htensor)
    refine ⟨?_, by rw [hsize, hplaced], by rw [hoffset, hsize]; omega, ?_⟩
    · rw [hdata]
      unfold describe
      rw [if_pos hcopied]
    · intro k hk
      rw [hoffset, Packing.fill_at (hblock htensor) (by rw [hplaced]; exact hk)]
      simp only [hplaced]
  · intro i tensor r htensor hr hskip
    obtain ⟨tensor', htensor', hdata, -, -⟩ := hrange hr
    obtain rfl : tensor = tensor' := Option.some.inj (htensor.symm.trans htensor')
    have hnot : ¬ memcpySucceeds (dataOf tensor).length = true := by
      rw [memcpySucceeds_iff]
      rintro ⟨hpos, hle⟩
      rcases hskip with hempty | hbig
      · rw [hempty] at hpos
        exact Nat.lt_irrefl 0 hpos
      · omega
    rw [hdata]
    unfold describe
    rw [if_neg hnot]
    exact ⟨rfl, rfl⟩

section

variable {ν : Type} {default : Accessor → ν} {marshal : NodeType → List (Attribute × ν) → List Int8}

/-- A node of the driver model is made of a node with a primitive. -/
theorem toHDINode_eq_some {node : Option (LoadedNode ν)} {n : HDINode}
    (h : toHDINode default marshal node = some n) :
    ∃ v p, node = some v ∧ v.primitive = some p ∧ n.name = v.name ∧ n.nodeType = p.type ∧
      n.inputIndex = v.inputIndices ∧ n.outputIndex = v.outputIndices ∧
      n.quantType = v.quantType := by
  unfold toHDINode at h
  split at h
  · cases h
  next v =>
    split at h
    · cases h
    next p hp =>
      cases h
      exact ⟨v, p, rfl, hp, rfl, rfl, rfl, rfl, rfl⟩

theorem forall₂_toHDINode {nodes : List (Option (LoadedNode ν))} {converted : List HDINode}
    (h : nodes.mapM (toHDINode default marshal) = some converted) :
    List.Forall₂ (fun node n => toHDINode default marshal node = some n) nodes converted := by
  induction nodes generalizing converted with
  | nil =>
    cases h
    exact .nil
  | cons node nodes ih =>
    rw [List.mapM_cons] at h
    obtain ⟨n, hn, h⟩ := Option.bind_eq_some_iff.mp h
    obtain ⟨ns, hns, h⟩ := Option.bind_eq_some_iff.mp h
    cases h
    exact .cons hn (ih hns)

/-- Nodes that are there, with their primitives, are all converted. -/
theorem mapM_toHDINode_isSome {nodes : List (Option (LoadedNode ν))}
    (h : ∀ node ∈ nodes, ∃ v, node = some v ∧ v.primitive.isSome) :
    (nodes.mapM (toHDINode default marshal)).isSome := by
  induction nodes with
  | nil => rfl
  | cons node nodes ih =>
    obtain ⟨v, rfl, hv⟩ := h node List.mem_cons_self
    obtain ⟨p, hp⟩ := Option.isSome_iff_exists.mp hv
    obtain ⟨ns, hns⟩ := Option.isSome_iff_exists.mp
      (ih fun node hnode => h node (List.mem_cons_of_mem _ hnode))
    have hnode : ∃ n, toHDINode default marshal (some v) = some n := by
      unfold toHDINode
      dsimp only
      rw [hp]
      exact ⟨_, rfl⟩
    obtain ⟨n, hn⟩ := hnode
    rw [List.mapM_cons, hn, hns]
    rfl

/-- **The constants of a graph are packed into the buffer.** The conversion does
not leave the mapping; it makes a model unless a node or its primitive is
missing, or the mapping cannot be undone, or there is no memory; and in the model
the tensors' ranges follow one another and hold their data, where a tensor whose
data is empty or more than `memcpy_s` copies is given none. -/
theorem constants_packed (graph : LoadedGraph ν) (buffer : HDISharedBuffer) (env : HDIModelEnv)
    (hfd : buffer.fd ≠ -1) (hmmap : env.mmap = true)
    (htotal : Packing.total (graph.allTensors.map dataOf) ≤ buffer.bufferSize.toNat) :
    ∃ result memory,
      liteGraphToHDIModel default marshal (some graph) buffer env = .ok (result, memory) ∧
      ((∀ node ∈ graph.allNodes, ∃ v, node = some v ∧ v.primitive.isSome) →
        env.munmap = true → env.createModel = true → result.isSome) ∧
      ∀ model, result = some model →
        Places graph.allTensors buffer model.allTensors memory ∧ Follows graph model := by
  have hplaced : Packing.total (graph.allTensors.map placed) ≤ buffer.bufferSize.toNat := by
    exact Nat.le_trans (Packing.total_map_le placed_length_le graph.allTensors) htotal
  have hpack : packTensors env.nullTensor buffer (some env.memory) (UInt32.ofNat 0)
      graph.allTensors = .ok (packed env.nullTensor buffer 0 graph.allTensors,
        some (Packing.fill env.memory 0 (graph.allTensors.map placed))) :=
    packTensors_eq graph.allTensors (by rw [Nat.zero_add]; exact hplaced)
  unfold liteGraphToHDIModel
  dsimp only
  cases hnodes : graph.allNodes.mapM (toHDINode default marshal) with
  | none =>
    refine ⟨none, env.memory, rfl, fun hall => ?_, nofun⟩
    have hsome : (graph.allNodes.mapM (toHDINode default marshal)).isSome :=
      mapM_toHDINode_isSome hall
    rw [hnodes] at hsome
    cases hsome
  | some nodes =>
    -- The tensors are packed before `munmap` and the creation of the model can fail.
    dsimp only
    rw [if_neg (by simp [hmmap]), if_pos hfd]
    rw [show (0 : UInt32) = UInt32.ofNat 0 from rfl, hpack]
    dsimp only
    have hplaces : Places graph.allTensors buffer (packed env.nullTensor buffer 0 graph.allTensors)
        (Packing.fill env.memory 0 (graph.allTensors.map placed)) := places_packed hplaced
    by_cases hmunmap : env.munmap = true
    · rw [if_neg (by simp [hmunmap])]
      by_cases hcreate : env.createModel = true
      · rw [if_neg (by simp [hcreate])]
        refine ⟨_, _, rfl, fun _ _ _ => rfl, ?_⟩
        rintro model hmodel
        cases hmodel
        refine ⟨hplaces, ?_, length_packed _ _, ?_, rfl, rfl, rfl⟩
        · exact (forall₂_toHDINode hnodes).imp fun node n hn => toHDINode_eq_some hn
        · intro i t r ht hr
          rw [packed_getElem?, ht] at hr
          cases hr
          exact ⟨rfl, rfl, rfl⟩
      · rw [if_pos (by simpa using hcreate)]
        exact ⟨none, _, rfl, fun _ _ h => absurd h hcreate, nofun⟩
    · rw [if_pos ⟨hfd, by simpa using hmunmap⟩]
      exact ⟨none, _, rfl, fun _ h => absurd h hmunmap, nofun⟩

/-- A tensor of bytes with the given data. -/
def byteTensor (data : Bytes) : LiteTensor := ⟨emptyName, .uint8, [], none, data, []⟩

/-- A sum and a bias added to it: constants, a null tensor, and tensors without data. -/
def mixedGraph : LoadedGraph UInt32 where
  name := "mixed"
  inputIndices := [2]
  outputIndices := [5]
  allNodes := [some ⟨"AddFusion:0", .none, [2, 0], [4], some ⟨.addFusion, fun _ => 1⟩⟩,
    some ⟨"BiasAdd:1", .all, [4, 3], [5], some ⟨.biasAdd, fun _ => 0⟩⟩]
  allTensors := [some (byteTensor [1, 2, 3, 4, 5]), none, some (byteTensor []),
    some (byteTensor [6, 7, 8]), some (byteTensor []), some (byteTensor [])]
  subGraphs := [⟨"", [2], [5], [0, 1]⟩]

theorem constants_packed_mixedGraph : ∃ model memory,
    liteGraphToHDIModel (fun _ => 0) writeFields (some mixedGraph) ⟨3, 8, 0, 0⟩ {} =
      .ok (some model, memory) ∧
    Places mixedGraph.allTensors ⟨3, 8, 0, 0⟩ model.allTensors memory ∧
      Follows mixedGraph model := by
  obtain ⟨result, memory, hresult, hmade, hmodel⟩ := @constants_packed _ (fun _ => 0) writeFields
    mixedGraph ⟨3, 8, 0, 0⟩ {} (by decide) rfl (by decide)
  have hprimitives : ∀ node ∈ mixedGraph.allNodes, ∃ v, node = some v ∧ v.primitive.isSome := by
    intro node hnode
    rcases List.mem_cons.mp hnode with rfl | hnode
    · exact ⟨_, rfl, rfl⟩
    · cases List.mem_singleton.mp hnode
      exact ⟨_, rfl, rfl⟩
  obtain ⟨model, rfl⟩ := Option.isSome_iff_exists.mp (hmade hprimitives rfl rfl)
  exact ⟨model, memory, hresult, hmodel model rfl⟩

/-- More data than `memcpy_s` copies is refused, which the loop does not tell. -/
theorem copy_long {data : Bytes} (h : 2 ^ 31 - 1 < data.length) (buffer : HDISharedBuffer)
    (memory : Nat → UInt8) (offset : UInt32) :
    copyMindIRTensorDataToHDIBuffer (some (byteTensor data)) buffer (some memory) offset =
      .ok (⟨-1, 0, offset, 0⟩, some memory) := by
  have hne : data.isEmpty = false := by
    rw [List.isEmpty_eq_false_iff, ← List.length_pos_iff]
    omega
  have hrefused : memcpySucceeds data.length = false := by
    rw [← Bool.not_eq_true, memcpySucceeds_iff]
    omega
  unfold copyMindIRTensorDataToHDIBuffer byteTensor
  dsimp only
  rw [hne, hrefused]
  rfl

/-- A tensor of 2 GiB, for which the buffer has room, loses its data. -/
theorem bigTensor_dropped : ∃ data : Bytes, data.length = 2 ^ 31 ∧
    ∃ model memory,
      liteGraphToHDIModel (fun _ => (0 : UInt32)) writeFields
        (some { allTensors := [some (byteTensor data)] }) ⟨3, 2147483648, 0, 0⟩ {} =
          .ok (some model, memory) ∧
      ∃ r : HDITensor, model.allTensors[0]? = some r ∧ r.data.fd = -1 ∧ r.data.dataSize = 0 := by
  obtain ⟨data, hlength⟩ : ∃ data : Bytes, data.length = 2 ^ 31 :=
    ⟨List.replicate _ 0, List.length_replicate⟩
  have hlong : 2 ^ 31 - 1 < data.length := by omega
  have hpack : packTensors ({} : HDIModelEnv).nullTensor ⟨3, 2147483648, 0, 0⟩ (some fun _ => 0) 0
      [some (byteTensor data)] = .ok ([toHDITensor ({} : HDIModelEnv).nullTensor
        (some (byteTensor data)) ⟨-1, 0, 0, 0⟩], some fun _ => 0) := by
    unfold packTensors
    rw [copy_long hlong]
    rfl
  refine ⟨data, hlength, ⟨"", [], [], [], [toHDITensor ({} : HDIModelEnv).nullTensor
    (some (byteTensor data)) ⟨-1, 0, 0, 0⟩], []⟩, fun _ => 0, ?_, _, rfl, rfl, rfl⟩
  unfold liteGraphToHDIModel
  dsimp only
  rw [List.mapM_nil]
  dsimp only [pure]
  rw [if_neg (by decide), if_pos (by decide), hpack]
  rfl

end

end HDIModel

end NNRt
