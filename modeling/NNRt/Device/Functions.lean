import NNRt.Driver.HDIModel
import NNRt.Driver.TensorData
import NNRt.Lib.Dialogue

/-!
# The device

`HDIDeviceV2_1` and `HDIPreparedModelV2_1`, between the runtime on one side and the
driver and the kernel on the other. What they ask the latter two is a transcript, and
either may answer what it likes. What they keep is the process's one `MemoryManager`.

- `allocateBuffer` / `releaseBuffer`: memory behind a pointer.
- `prepareModel`, `getSupportedOperation`: a model whose constants are in a buffer that
  lives as long as the question.
- `prepareOfflineModel`: a model that is one constant.
- `exportModelCache`: what a prepared model keeps mapped.
-/

namespace NNRt

/-! ## Requests -/

/-- `ModelConfig` of the driver interface; its enumerations have the codes of the runtime's. -/
structure HDIModelConfig where
  enableFloat16 : Bool
  mode : PerformanceMode
  priority : Priority
  extensions : List (String × List Int8) := []
  deriving DecidableEq, Repr

/-- What the driver and the kernel are asked. A prepared model of the driver is a number. -/
inductive DeviceRequest
  | allocateBuffer (length : UInt32)
  | releaseBuffer (buffer : HDISharedBuffer)
  | getSupportedOperation (model : HDIModel)
  | prepareModel (model : HDIModel) (config : HDIModelConfig)
  | prepareModelFromModelCache (modelCache : List HDISharedBuffer) (config : HDIModelConfig)
  | prepareOfflineModel (offlineModels : List HDISharedBuffer) (config : HDIModelConfig)
  | exportModelCache (preparedModel : Nat)
  | mmap (length : UInt64) (fd : Int32)
  | munmap (address : Address) (length : UInt64)
  /-- Bytes written through a mapping. -/
  | write (address : Address) (offset : Nat) (data : Bytes)

/-- The answers; a code of the driver is whether it is `NNRT_SUCCESS`. -/
@[reducible] def DeviceRequest.Answer : DeviceRequest → Type
  | allocateBuffer _ => Bool × HDISharedBuffer
  | releaseBuffer _ => Bool
  | getSupportedOperation _ => Bool × List Bool
  | prepareModel _ _ | prepareModelFromModelCache _ _ | prepareOfflineModel _ _ => Bool × Option Nat
  | exportModelCache _ => Bool × List HDISharedBuffer
  | mmap _ _ => Option Address
  | munmap _ _ => Bool
  | write _ _ _ => Unit

/-- What is asked and answered. -/
abbrev DeviceExchange := Dialogue.Exchange DeviceRequest DeviceRequest.Answer

/-- The other side: the driver and the kernel. -/
abbrev DeviceParty := Dialogue.Party DeviceRequest DeviceRequest.Answer

/-- What uses them. -/
abbrev DeviceM := Asking DeviceRequest DeviceRequest.Answer MemoryManager Fault

open Asking (ask)

/-! ## Mapped memory -/

namespace MemoryManager

/-- `MapMemory`, with its question. -/
def map (fd : Int32) (length : UInt64) : DeviceM (Option Address) := do
  let mmap ←
    if fd < 0 ∨ length = 0 ∨ length > allocateBufferLimit then pure none
    else ask (DeviceRequest.mmap length fd)
  let m ← get
  let (address, m) := m.mapMemory mmap fd length
  set m
  return address

/-- `UnMapMemory`, with its question. -/
def unMap (buffer : Option Address) : DeviceM ReturnCode := do
  match buffer with
  | none => return .invalidParameter
  | some address =>
    let m ← get
    match m.memorys.lookup address with
    | none => return .invalidParameter
    | some memory =>
      let munmap ← ask (DeviceRequest.munmap address memory.length)
      let (ret, m) := m.unMapMemory munmap (some address)
      set m
      return ret

end MemoryManager

namespace HDIDevice

/-! ## Buffers -/

/-- `AllocateBuffer` of memory behind a pointer; `none` is null. -/
def allocateBuffer (length : UInt64) : DeviceM (Option Address) := do
  if length = 0 then return none
  -- The driver is told 32 bits of the length.
  let answer ← ask (DeviceRequest.allocateBuffer length.toUInt32)
  if !answer.1 then return none
  let addr ← MemoryManager.map answer.2.fd length
  if addr.isNone then
    let _ ← ask (DeviceRequest.releaseBuffer answer.2)
    return none
  return addr

/-- `AllocateBuffer` of a descriptor. -/
def allocateBufferFd (length : UInt64) : DeviceM (ReturnCode × Option Int32) := do
  if length = 0 then return (.invalidParameter, none)
  let answer ← ask (DeviceRequest.allocateBuffer length.toUInt32)
  if !answer.1 then return (.memoryError, none)
  return (.success, some answer.2.fd)

/-- A buffer that is named by its descriptor and a length. -/
def wholeBuffer (fd : Int32) (length : UInt64) : HDISharedBuffer :=
  ⟨fd, length.toUInt32, 0, length.toUInt32⟩

/-- `ReleaseBuffer` of a descriptor. -/
def releaseBufferFd (fd : Int32) (length : UInt64) : DeviceM ReturnCode := do
  let released ← ask (DeviceRequest.releaseBuffer (wholeBuffer fd length))
  return if released then .success else .failed

/-- `ReleaseBuffer` of a pointer. The driver is asked before the memory is unmapped. -/
def releaseBuffer (buffer : Option Address) : DeviceM ReturnCode := do
  if buffer.isNone then return .invalidParameter
  let m ← get
  match m.getMemory buffer with
  | .error ret => return ret
  | .ok memory =>
    let released ← ask (DeviceRequest.releaseBuffer (wholeBuffer memory.fd memory.length))
    if !released then return .failed
    MemoryManager.unMap buffer

/-- `ReleaseSharedBuffer`. -/
def releaseSharedBuffer (buffer : HDISharedBuffer) : DeviceM ReturnCode := do
  if buffer.fd = -1 then return .success
  let released ← ask (DeviceRequest.releaseBuffer buffer)
  return if released then .success else .failed

/-! ## Models with constants -/

/-- What is outside a call, apart from the answers. -/
structure DeviceEnv where
  /-- `MindIR_LiteGraph_GetConstTensorSize`. -/
  constTensorSize : UInt64 := 0
  /-- `new Model`. -/
  createModel : Bool := true
  /-- `CreateSharedPtr<HDIPreparedModelV2_1>`. -/
  createPrepared : Bool := true
  /-- What the accessors of a tensor answer for a null tensor. -/
  nullTensor : LiteTensor := ⟨emptyName, .unknown, [], none, [], []⟩

/-- `Copy_MindIR_Tensor_Data_To_HDIBuffer`, through a mapping. -/
def copyTensorData (tensor : Option LiteTensor) (bufferTemplete : HDISharedBuffer)
    (mmapPtr : Option Address) (offset : UInt32) : DeviceM HDISharedBuffer := do
  match tensor, mmapPtr with
  | none, _ | some _, none => return ⟨-1, 0, offset, 0⟩
  | some tensor, some address =>
    if tensor.data.isEmpty then return ⟨-1, bufferTemplete.bufferSize, offset, 0⟩
    if !memcpySucceeds tensor.data.length then return ⟨-1, 0, offset, 0⟩
    if offset.toNat + tensor.data.length > bufferTemplete.bufferSize.toNat then throw .outOfBounds
    let _ ← ask (DeviceRequest.write address offset.toNat tensor.data)
    return ⟨bufferTemplete.fd, bufferTemplete.bufferSize, offset, UInt32.ofNat tensor.data.length⟩

/-- The loop over the tensors, which carries the offset. -/
def packTensors (nullTensor : LiteTensor) (buffer : HDISharedBuffer) (mmapPtr : Option Address)
    (tensorBufferOffset : UInt32) : List (Option LiteTensor) → DeviceM (List HDITensor)
  | [] => return []
  | tensor :: tensors => do
    let data ← copyTensorData tensor buffer mmapPtr tensorBufferOffset
    let allTensors ← packTensors nullTensor buffer mmapPtr (data.offset + data.dataSize) tensors
    return HDIModel.toHDITensor nullTensor tensor data :: allTensors

section Models

variable {ν : Type} (default : Accessor → ν) (marshal : NodeType → List (Attribute × ν) → List Int8)

/-- `LiteGraph_To_HDIModel` of a graph that is there. -/
def liteGraphToHDIModel (graph : LoadedGraph ν) (buffer : HDISharedBuffer) (env : DeviceEnv) :
    DeviceM (Option HDIModel) := do
  match graph.allNodes.mapM (HDIModel.toHDINode default marshal) with
  | none => return none
  | some nodes =>
    let mmapPtr ←
      if buffer.fd ≠ -1 then ask (DeviceRequest.mmap buffer.bufferSize.toUInt64 buffer.fd)
      else pure none
    if buffer.fd ≠ -1 ∧ mmapPtr.isNone then return none
    let allTensors ← packTensors env.nullTensor buffer mmapPtr 0 graph.allTensors
    let unmapped ←
      match mmapPtr with
      | some address => ask (DeviceRequest.munmap address buffer.bufferSize.toUInt64)
      | none => pure true
    if !unmapped then return none
    if !env.createModel then return none
    return some {
      name := graph.name
      inputIndex := graph.inputIndices
      outputIndex := graph.outputIndices
      nodes := nodes
      allTensors := allTensors
      subGraph := graph.subGraphs }

/-- The buffer for the constants, if one is needed; `none` if there is none. -/
def allocateConstants (tensorSize : UInt64) : DeviceM (Option HDISharedBuffer) := do
  if tensorSize > 0 then
    let answer ← ask (DeviceRequest.allocateBuffer tensorSize.toUInt32)
    if !answer.1 ∨ answer.2.fd = -1 then return none
    return some answer.2
  return some ⟨-1, 0, 0, 0⟩

/-- What `GetSupportedOperation` and `PrepareModel` have in common: the model is there while the
driver is asked about it. Without an answer the code is `OH_NN_FAILED`. -/
def withModel {β : Type} (graph : LoadedGraph ν) (env : DeviceEnv) (question : HDIModel → DeviceM β) :
    DeviceM (Option β) := do
  match ← allocateConstants env.constTensorSize with
  | none => return none
  | some tensorBuffer =>
    match ← liteGraphToHDIModel default marshal graph tensorBuffer env with
    | none =>
      let _ ← releaseSharedBuffer tensorBuffer
      return none
    | some iModel =>
      let answer ← question iModel
      let innerRet ← releaseSharedBuffer tensorBuffer
      if innerRet ≠ .success then return none
      return some answer

/-- A lite graph whose only node is a Custom one: that node's inputs, and the attributes of its
primitive. -/
structure OfflineGraph where
  inputIndices : List Nat
  attributes : List (String × Bytes)
  allTensors : List (Option LiteTensor)

/-- A lite graph, by what `IsOfflineModel` says of it. -/
inductive DeviceModel (ν : Type)
  | operators (graph : LoadedGraph ν)
  | offline (graph : OfflineGraph)

/-- `IsOfflineModel`. -/
def isOfflineModel : DeviceModel ν → ReturnCode × Bool
  | .offline _ => (.success, true)
  | .operators graph =>
    match graph.allNodes with
    | [] => (.invalidParameter, false)
    | [none] => (.nullPtr, false)
    | _ => (.success, false)

/-- `GetSupportedOperation`. -/
def getSupportedOperation (model : Option (DeviceModel ν)) (env : DeviceEnv) :
    DeviceM (ReturnCode × List Bool) := do
  match model with
  | none => return (.nullPtr, [])
  | some model =>
    let (innerRet, _) := isOfflineModel model
    if innerRet ≠ .success then return (innerRet, [])
    match model with
    | .offline _ => return (.success, [true])
    | .operators graph =>
      match ← withModel default marshal graph env fun iModel =>
          ask (DeviceRequest.getSupportedOperation iModel) with
      | none => return (.failed, [])
      | some answer =>
        if !answer.1 then return (.unavailableDevice, answer.2)
        return (.success, answer.2)

/-- `HDIPreparedModelV2_1`: the driver's prepared model, and what is mapped for it. -/
structure HDIPreparedModel where
  hdiPreparedModel : Nat
  addrs : List Address := []
  deriving DecidableEq, Repr

/-- The end of the functions that prepare a model. -/
def preparedOf (env : DeviceEnv) (answer : Bool × Option Nat) :
    ReturnCode × Option HDIPreparedModel :=
  match answer with
  | (true, some iPreparedModel) =>
    if env.createPrepared then (.success, some { hdiPreparedModel := iPreparedModel })
    else (.memoryError, none)
  | _ => (.failed, none)

/-- `PrepareModel`. -/
def prepareModel (model : Option (LoadedGraph ν)) (config : ModelConfig) (env : DeviceEnv) :
    DeviceM (ReturnCode × Option HDIPreparedModel) := do
  match model with
  | none => return (.invalidParameter, none)
  | some graph =>
    let iModelConfig : HDIModelConfig := ⟨config.enableFloat16, config.mode, config.priority, []⟩
    match ← withModel default marshal graph env fun iModel =>
        ask (DeviceRequest.prepareModel iModel iModelConfig) with
    | none => return (.failed, none)
    | some answer => return preparedOf env answer

end Models

/-- `PrepareModelFromModelCache`, of descriptors and lengths. A missing model is told apart from
an error here. -/
def prepareModelFromModelCache (modelCache : List (Int32 × UInt64)) (config : ModelConfig)
    (env : DeviceEnv) : DeviceM (ReturnCode × Option HDIPreparedModel) := do
  let iBuffers := modelCache.map fun cache => wholeBuffer cache.1 cache.2
  let iModelConfig : HDIModelConfig := ⟨config.enableFloat16, config.mode, config.priority, []⟩
  let answer ← ask (DeviceRequest.prepareModelFromModelCache iBuffers iModelConfig)
  match answer with
  | (true, none) => return (.nullPtr, none)
  | answer => return preparedOf env answer

/-! ## Offline models -/

/-- `OFFLINE_MODEL_MINIMUM_INPUT_SIZE`. -/
def offlineModelMinimumInputSize : Nat := 2

/-- `GetOfflineModelFromLiteGraph`: the data of the last input. -/
def getOfflineModelFromLiteGraph (graph : OfflineGraph) :
    Except Fault (Except ReturnCode (List Bytes)) :=
  let inputNum := graph.inputIndices.length
  if inputNum < offlineModelMinimumInputSize then .ok (.error .invalidParameter)
  else
    match graph.inputIndices[inputNum - 1]? with
    | none => .error .outOfBounds
    | some index =>
      match graph.allTensors[index]? with
      | none => .error .outOfBounds
      | some tensor =>
        let offlineModel := HDIModel.dataOf tensor
        if offlineModel.isEmpty then .ok (.error .invalidParameter) else .ok (.ok [offlineModel])

/-- Buffers of the device are released one after another, up to an error. -/
def releaseDeviceBuffers : List (Address × Nat) → DeviceM ReturnCode
  | [] => return .success
  | (data, _) :: deviceBuffers => do
    let status ← releaseBuffer (some data)
    if status ≠ .success then return status
    releaseDeviceBuffers deviceBuffers

/-- The loop of `AllocateDeviceBufferForOfflineModel`, with the buffers it has. -/
def allocateDeviceBuffers (deviceBuffers : List (Address × Nat)) :
    List Bytes → DeviceM (ReturnCode × List (Address × Nat))
  | [] => return (.success, deviceBuffers)
  | offlineModel :: offlineModels => do
    let newModelBuffer ← allocateBuffer (UInt64.ofNat offlineModel.length)
    match newModelBuffer with
    | none =>
      let status ← releaseDeviceBuffers deviceBuffers
      if status ≠ .success then return (status, deviceBuffers)
      return (.memoryError, [])
    | some data =>
      allocateDeviceBuffers (deviceBuffers ++ [(data, offlineModel.length)]) offlineModels

/-- `AllocateDeviceBufferForOfflineModel`. -/
def allocateDeviceBufferForOfflineModel (offlineModels : List Bytes) :
    DeviceM (ReturnCode × List (Address × Nat)) :=
  allocateDeviceBuffers [] offlineModels

/-- The loop of `CopyOfflineModelToDevice`. -/
def copyOfflineModels : List Bytes → List (Address × Nat) → DeviceM ReturnCode
  | offlineModel :: offlineModels, (deviceBuffer, deviceBufferSize) :: deviceBuffers => do
    if !memcpySucceeds deviceBufferSize ∨ deviceBufferSize < offlineModel.length then
      return .memoryError
    let _ ← ask (DeviceRequest.write deviceBuffer 0 offlineModel)
    copyOfflineModels offlineModels deviceBuffers
  | _, _ => return .success

/-- `CopyOfflineModelToDevice`. -/
def copyOfflineModelToDevice (offlineModels : List Bytes) (deviceBuffers : List (Address × Nat)) :
    DeviceM ReturnCode :=
  if offlineModels.length ≠ deviceBuffers.length then return .invalidParameter
  else copyOfflineModels offlineModels deviceBuffers

/-- The buffers the driver gets; the one with the first unknown address ends the loop. -/
def sharedBuffersOf (m : MemoryManager) :
    List (Address × Nat) → Except ReturnCode (List HDISharedBuffer)
  | [] => .ok []
  | (data, _) :: deviceBuffers =>
    match m.getMemory (some data) with
    | .error ret => .error ret
    | .ok memory =>
      match sharedBuffersOf m deviceBuffers with
      | .error ret => .error ret
      | .ok iBuffers => .ok (wholeBuffer memory.fd memory.length :: iBuffers)

/-- `PrepareOfflineModel` of buffers of the device, which are released before the answer is
looked at. -/
def prepareDeviceBuffers (deviceBuffers : List (Address × Nat)) (config : ModelConfig)
    (extensions : List (String × List Int8)) (env : DeviceEnv) :
    DeviceM (ReturnCode × Option HDIPreparedModel) := do
  let iModelConfig : HDIModelConfig :=
    ⟨config.enableFloat16, config.mode, config.priority, extensions⟩
  let m ← get
  match sharedBuffersOf m deviceBuffers with
  | .error ret => return (ret, none)
  | .ok iBuffers =>
    let answer ← ask (DeviceRequest.prepareOfflineModel iBuffers iModelConfig)
    let status ← releaseDeviceBuffers deviceBuffers
    if status ≠ .success then return (status, none)
    return preparedOf env answer

/-- The configurations of the Custom primitive; `insert` keeps the first one of a name. -/
def extensionsOf : List (String × Bytes) → List (String × List Int8)
  | [] => []
  | (key, value) :: attributes =>
    (key, value.map fun byte => byte.toInt8) ::
      (extensionsOf attributes).filter fun extension => extension.1 ≠ key

/-- `PrepareOfflineModel`. -/
def prepareOfflineModel (model : Option OfflineGraph) (config : ModelConfig) (env : DeviceEnv) :
    DeviceM (ReturnCode × Option HDIPreparedModel) := do
  match model with
  | none => return (.nullPtr, none)
  | some graph =>
    match getOfflineModelFromLiteGraph graph with
    | .error fault => throw fault
    | .ok (.error status) => return (status, none)
    | .ok (.ok offlineModels) =>
      let (status, deviceBuffers) ← allocateDeviceBufferForOfflineModel offlineModels
      if status ≠ .success then return (status, none)
      let status ← copyOfflineModelToDevice offlineModels deviceBuffers
      if status ≠ .success then
        let ret ← releaseDeviceBuffers deviceBuffers
        return (if ret ≠ .success then ret else status, none)
      prepareDeviceBuffers deviceBuffers config (extensionsOf graph.attributes) env

end HDIDevice

namespace HDIPreparedModel

open HDIDevice (HDIPreparedModel)

/-- The loop of `ExportModelCache`, which stops at the first buffer that cannot be mapped. -/
def mapBuffers (p : HDIPreparedModel) (modelCache : List (Address × UInt64)) :
    List HDISharedBuffer → DeviceM (ReturnCode × HDIPreparedModel × List (Address × UInt64))
  | [] => return (.success, p, modelCache)
  | iBuffer :: iBuffers => do
    let addr ← MemoryManager.map iBuffer.fd iBuffer.bufferSize.toUInt64
    match addr with
    | none => return (.memoryError, p, modelCache)
    | some addr =>
      mapBuffers { p with addrs := p.addrs ++ [addr] }
        (modelCache ++ [(addr, iBuffer.bufferSize.toUInt64)]) iBuffers

/-- `ExportModelCache` to an empty vector. -/
def exportModelCache (p : HDIPreparedModel) :
    DeviceM (ReturnCode × HDIPreparedModel × List (Address × UInt64)) := do
  let answer ← ask (DeviceRequest.exportModelCache p.hdiPreparedModel)
  if !answer.1 then return (.saveCacheException, p, [])
  mapBuffers p [] answer.2

/-- The loop of the destructor, which goes on behind an error. -/
def unMapAddrs : List Address → DeviceM Unit
  | [] => return
  | addr :: addrs => do
    let _ ← MemoryManager.unMap (some addr)
    unMapAddrs addrs

/-- `~HDIPreparedModelV2_1`. -/
def destroy (p : HDIPreparedModel) : DeviceM Unit :=
  unMapAddrs p.addrs

end HDIPreparedModel

end NNRt
