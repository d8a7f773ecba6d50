import NNRt.Ops.OpsRegistry

/-!
# The lite graph

The graph a model is turned into, and the conversions of a tensor to and from a
tensor of the graph.
-/

namespace NNRt

/-- The `mindspore::lite::DataType`s with a counterpart here; `unknown` stands
for every other. -/
inductive MSDataType
  | unknown | bool | int8 | int16 | int32 | int64 | uint8 | uint16 | uint32 | uint64 | float16
  | float32 | float64
  deriving DecidableEq, Repr

/-- `NNToMS::TransformDataType`. -/
def NNToMS.transformDataType : DataType → MSDataType
  | .bool => .bool
  | .int8 => .int8
  | .int16 => .int16
  | .int32 => .int32
  | .int64 => .int64
  | .uint8 => .uint8
  | .uint16 => .uint16
  | .uint32 => .uint32
  | .uint64 => .uint64
  | .float16 => .float16
  | .float32 => .float32
  | .float64 => .float64
  | .unknown => .unknown

namespace MSToNN

/-- `TransformDataType`. -/
def transformDataType : MSDataType → DataType
  | .bool => .bool
  | .int8 => .int8
  | .int16 => .int16
  | .int32 => .int32
  | .int64 => .int64
  | .uint8 => .uint8
  | .uint16 => .uint16
  | .uint32 => .uint32
  | .uint64 => .uint64
  | .float16 => .float16
  | .float32 => .float32
  | .float64 => .float64
  | .unknown => .unknown

/-- `TransformFormat`; a format without a counterpart is `none`. -/
def transformFormat : Option MSFormat → Format
  | some .nhwc => .nhwc
  | some .nchw => .nchw
  | none => .none

end MSToNN

/-- A tensor of the lite graph. -/
structure LiteTensor where
  name : CString
  dataType : MSDataType
  dims : List Int32
  /-- `none` is a format the runtime has no counterpart of. -/
  format : Option MSFormat
  data : Bytes
  quantParams : List QuantParam
  deriving DecidableEq

/-- `LiteGraph::Node`. -/
structure Node where
  name : String
  quantType : QuantType
  inputIndices : List Nat
  outputIndices : List Nat
  primitive : Primitive

/-- `LiteGraph::SubGraph`. -/
structure SubGraph where
  name : String
  inputIndices : List Nat
  outputIndices : List Nat
  nodeIndices : List Nat

/-- `LiteGraph`; an element of `all_tensors_` may be null. -/
structure LiteGraph where
  name : String := ""
  inputIndices : List Nat := []
  outputIndices : List Nat := []
  allTensors : List (Option LiteTensor) := []
  allNodes : List Node := []
  subGraphs : List SubGraph := []

/-- What is outside the model during one call: which allocations succeed, and
what the accessors of a tensor answer for a null tensor. -/
structure ModelEnv where
  /-- `CreateSharedPtr<NNTensor>`, the `i`-th time in the call. -/
  createTensor : Nat → Bool := fun _ => true
  /-- `new char[length]`. -/
  createBuffer : Bool := true
  createLiteGraph : Bool := true
  /-- `MindIR_Tensor_Create` for the tensor of an index. -/
  createLiteTensor : Nat → Bool := fun _ => true
  createNode : Nat → Bool := fun _ => true
  /-- `MindIR_*_CreatePrimitive` for the operation of an index. -/
  createPrimitive : Nat → Bool := fun _ => true
  createSubGraph : Bool := true
  nullTensor : LiteTensor := ⟨cString [], .unknown, [], none, [], []⟩

namespace Tensor

/-- `ConvertToLiteGraphTensor`, if the tensor can be created. -/
def convertToLiteGraphTensor (t : Tensor) : LiteTensor where
  name := cString t.name
  dataType := NNToMS.transformDataType t.dataType
  dims := t.dimensions
  format := some (NNToMS.transformFormat t.format)
  data := (t.buffer.getD []).take t.dataLength
  quantParams := t.quantParams

/-- `ConstructNNTensorFromLiteGraphTensor`; `none` is a null pointer. -/
def ofLiteGraphTensor (msTensor : LiteTensor) : Option Tensor :=
  match ({} : Tensor).build (some (MSToNN.transformDataType msTensor.dataType)) msTensor.dims
      msTensor.quantParams .tensor with
  | (.success, t) => some { t with format := MSToNN.transformFormat msTensor.format }
  | _ => none

end Tensor

end NNRt
