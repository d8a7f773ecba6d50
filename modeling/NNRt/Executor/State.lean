import NNRt.Compiler.NNCompiler
import NNRt.Core.NNTensor
import NNRt.Lib.Ledger
import Mathlib.Data.List.AList

/-!
# `NNExecutor`

The state of an executor, and the world it shares with its compiler, with other
executors, with the user and with the device.

A `std::shared_ptr<TensorDesc>` and an `NN_Tensor*` are addresses in the world,
because others hold them too. An `NNTensor` of an executor is only reached
through the executor, so it is a value.
-/

namespace NNRt

/-- What a `void*` in an executor's tensor points to. -/
inductive Address
  /-- A buffer the executor had the device allocate for itself. -/
  | inner (id : Nat)
  /-- Memory the user has passed. -/
  | user (address : Nat)
  deriving DecidableEq, Repr

/-- `NNExecutor::ExeTensor`. -/
structure ExeTensor where
  tensor : Option (NNTensor Address) := none
  userBuffer : Option Nat := none
  userBufferLength : Nat := 0
  isInnerMem : Bool := false
  deriving DecidableEq

/-- `ExecutorConfig`, as far as the executor reads it. -/
structure ExecutorConfig where
  isNeedModelLatency : Bool := false
  deriving DecidableEq, Repr

/-- `OH_NN_Memory`. -/
structure OHNNMemory where
  data : Nat
  length : Nat
  deriving DecidableEq, Repr

/-- `NNTensor2_0`, as far as an executor reads it. -/
structure NNTensor2_0 where
  tensorDesc : Option TensorDesc := none
  size : UInt64 := 0
  offset : UInt64 := 0
  deriving DecidableEq

/-- `IOTensor`. -/
structure IOTensor where
  name : Bytes := []
  dataType : DataType
  format : Format
  dimensions : List Int32
  data : Option Address
  length : Nat
  deriving DecidableEq

/-- The tensors given to `PreparedModel::Run`. -/
inductive DeviceRun
  | ioTensors (inputs outputs : List IOTensor)
  | tensors (inputs outputs : List Nat)

/-- `ConvertToIOTensor`, which does not set the name. -/
def NNTensor.convertToIOTensor (t : NNTensor Address) : IOTensor where
  dataType := t.dataType
  format := t.format
  dimensions := t.dimensions
  data := t.buffer
  length := t.bufferLength

/-- A list of descriptions with tensor types, by address. -/
abbrev DescRefs := List (Nat × UInt32)

/-- What executors share. -/
structure World where
  /-- The `TensorDesc`s behind shared pointers. -/
  descs : List TensorDesc := []
  /-- The `NNTensor2_0`s of the user. -/
  tensors : List NNTensor2_0 := []
  /-- What has become of the buffers executors allocated for themselves. -/
  log : Ledger.Log := []
  /-- The content of buffers and of the user's memory. -/
  memory : Address → Bytes := fun _ => []
  /-- What devices were asked to run. -/
  runs : List DeviceRun := []
  /-- The cache files that were mapped and unmapped. -/
  mappings : Mappings := []

namespace World

/-- The description at an address. Every address an executor holds is that of a
description, so the default is not read. -/
def desc (w : World) (ref : Nat) : TensorDesc :=
  w.descs.getD ref {}

def setDesc (w : World) (ref : Nat) (desc : TensorDesc) : World :=
  { w with descs := w.descs.set ref desc }

/-- One `TensorDesc` of its own for every description. -/
def createDescs (w : World) (descs : List (TensorDesc × UInt32)) : DescRefs × World :=
  (descs.mapIdx fun i desc => (w.descs.length + i, desc.2),
    { w with descs := w.descs ++ descs.map Prod.fst })

/-- The number of the next buffer. -/
def nextBuffer (w : World) : Nat :=
  w.log.length

/-- A successful `AllocateTensorBuffer`. -/
def allocateBuffer (w : World) : World :=
  { w with log := w.log ++ [.acquire w.nextBuffer] }

/-- The buffers among a list of addresses. -/
def inners : List (Option Address) → List Nat
  | [] => []
  | some (.inner id) :: addresses => id :: inners addresses
  | _ :: addresses => inners addresses

/-- `ReleaseBuffer`. -/
def releaseBuffer (w : World) (address : Option Address) : World :=
  { w with log := w.log ++ (inners [address]).map .release }

/-- Reading or writing memory. -/
def touch (w : World) (addresses : List (Option Address)) : World :=
  { w with log := w.log ++ (inners addresses).map .use }

/-- Bytes written to the beginning of a buffer. -/
def write (w : World) (address : Option Address) (data : Bytes) : World :=
  match address with
  | none => w
  | some address => { w.touch [some address] with
      memory := Function.update w.memory address (data ++ (w.memory address).drop data.length) }

/-- `memcpy_s(dest, count, src, count)`, and whether it returns `EOK`. A null
source makes it clear the destination. -/
def memcpy (w : World) (dest : Option Address) (count : Nat) (src : Option Bytes) : Bool × World :=
  if !memcpySucceeds count then (false, w)
  else
    match src with
    | none => (false, w.write dest (List.replicate count 0))
    | some data => (dest.isSome, w.write dest (data.take count))

end World

/-- `NNExecutor`. -/
structure NNExecutor where
  backendID : UInt64 := 0
  preparedModel : Option PreparedModel := none
  inputTensorDescs : DescRefs := []
  outputTensorDescs : DescRefs := []
  cachePath : String := ""
  cacheVersion : UInt32 := 0
  extensionConfig : ExtensionConfig := {}
  enableFp16 : Bool := false
  performance : PerformanceMode := .none
  priority : Priority := .none
  executorConfig : Option ExecutorConfig := none
  inputTensors : AList fun _ : Nat => ExeTensor := ∅
  outputTensors : AList fun _ : Nat => ExeTensor := ∅
  inputCreatedMem : AList fun _ : Nat => List Nat := ∅
  outputCreatedMem : AList fun _ : Nat => List Nat := ∅
  minInputDimsVec : List (List Nat) := []
  maxInputDimsVec : List (List Nat) := []
  /-- The handler and how many unload tasks wait in it. -/
  autoUnloadHandler : Option Nat := none

/-- The answer of `PreparedModel::Run`. -/
structure RunReply where
  code : ReturnCode := .success
  outputsDims : List (List Int32) := []
  isSufficientDataBuffer : List Bool := []
  /-- What the device leaves in the output memory. -/
  outputData : Address → Bytes := fun _ => []

/-- The answer of `PreparedModel::GetInputDimRanges`. -/
structure DimRanges where
  code : ReturnCode := .operationForbidden
  minInputDims : List (List UInt32) := []
  maxInputDims : List (List UInt32) := []

/-- What is outside the executor during one call: the answers of the device and
which allocations succeed. -/
structure ExecutorEnv where
  dimRanges : DimRanges := {}
  run : RunReply := {}
  setAippString : ReturnCode := .success
  /-- `CreateSharedPtr<NNTensor>`. -/
  createTensor : Bool := true
  /-- `AllocateTensorBuffer`; the address is that of memory made for the user. -/
  allocate : Bool := true
  allocateAddress : Nat := 0
  /-- `ReleaseBuffer`, where its code is looked at. -/
  releaseBuffer : ReturnCode := .success
  /-- `new OH_NN_Memory`. -/
  createMemory : Bool := true
  createConfig : Bool := true
  /-- `OH_NNModel_HasCache`. -/
  hasCache : Bool := false

/-- What `Reload` finds outside the executor. -/
structure ReloadEnv where
  cache : CacheEnv
  fs : FileSystem

/-- The code of a call, the executor and the world it leaves. -/
abbrev Outcome := Except Fault (ReturnCode × NNExecutor × World)

/-! ## Creation -/

/-- The compiler with its descriptions behind shared pointers. -/
def NNCompiler.share (c : NNCompiler TensorDesc) (w : World) : NNCompiler Nat × World :=
  let (inputs, w) := w.createDescs c.inputTensorDescs
  let (outputs, w) := w.createDescs c.outputTensorDescs
  ({ c with inputTensorDescs := inputs, outputTensorDescs := outputs }, w)

/-- The constructor, which posts the first unload task. -/
def NNExecutor.create (c : NNCompiler Nat) (preparedModel : PreparedModel) : NNExecutor where
  backendID := c.backendID
  preparedModel := some preparedModel
  inputTensorDescs := c.inputTensorDescs
  outputTensorDescs := c.outputTensorDescs
  cachePath := c.cachePath
  cacheVersion := c.cacheVersion
  extensionConfig := c.extensionConfig
  enableFp16 := c.enableFp16
  performance := c.performance
  priority := c.priority
  autoUnloadHandler := some 1

/-- `CreateExecutor`: the pointers are copied, not what they point to. -/
def NNCompiler.createExecutor (c : NNCompiler Nat) (created : Bool) : Option NNExecutor :=
  match c.preparedModel with
  | none => none
  | some preparedModel =>
    if c.inputTensorDescs.isEmpty then none
    else if c.outputTensorDescs.isEmpty then none
    else if created then some (NNExecutor.create c preparedModel)
    else none

/-- What is created is a new executor of the compiler's prepared model. -/
theorem NNCompiler.createExecutor_eq_some {c : NNCompiler Nat} {created : Bool} {e : NNExecutor}
    (h : c.createExecutor created = some e) :
    ∃ preparedModel, c.preparedModel = some preparedModel ∧
      e = NNExecutor.create c preparedModel := by
  unfold createExecutor at h
  split at h
  · cases h
  rename_i preparedModel hprepared
  split at h
  · cases h
  split at h
  · cases h
  split at h
  · exact ⟨preparedModel, hprepared, (Option.some.inj h).symm⟩
  · cases h

namespace NNExecutor

/-! ## Descriptions -/

/-- `GetOutputShape`, with a null pointer for the answer to be written to. -/
def getOutputShape (e : NNExecutor) (w : World) (outputIndex : Nat) :
    ReturnCode × Option (List Int32) :=
  match e.outputTensorDescs[outputIndex]? with
  | none => (.invalidParameter, none)
  | some (ref, _) => (.success, some (w.desc ref).shape)

/-- `CreateOutputTensorDesc`; `none` is a null pointer. -/
def createOutputTensorDesc (e : NNExecutor) (w : World) (created : Bool) (index : Nat) :
    Option TensorDesc :=
  match e.outputTensorDescs[index]? with
  | none => none
  | some (ref, _) => if created then some (w.desc ref) else none

end NNExecutor

end NNRt
