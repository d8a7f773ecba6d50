import NNRt.Device.Functions

/-!
# The memory of the driver

What the driver has allocated, what is mapped, and what has been written there: all of it
follows from what was asked and answered.

- `DeviceSession.after`: what an exchange does to it.
- `DeviceSession.Relied`: what is relied on. A buffer is new and as large as was asked for,
  a mapping is where none is, and a whole mapping can be undone. The driver may refuse
  everything, releases included.
- `DeviceCall`: what the runtime does with a device, and `DeviceCall.Permits`: **what may be
  asked in a call, in a session**.
-/

namespace NNRt

/-! ## Sessions -/

/-- A buffer that was allocated and is not released. -/
structure DeviceBuffer where
  size : UInt32
  bytes : Nat → UInt8 := fun _ => 0
  /-- The driver was asked to release it, and has refused. -/
  refused : Bool := false

/-- What is mapped somewhere, and the buffer it is of, while that is not released. -/
structure DeviceMapping where
  length : UInt64
  fd : Option Int32
  deriving DecidableEq

/-- The buffers of the driver by descriptor, and the mappings by address. -/
structure DeviceSession where
  buffers : Int32 → Option DeviceBuffer := fun _ => none
  mappings : Address → Option DeviceMapping := fun _ => none

namespace DeviceSession

/-- A buffer is changed, if it is there. -/
def change (q : DeviceSession) (fd : Int32) (f : DeviceBuffer → DeviceBuffer) : DeviceSession :=
  { q with buffers := Function.update q.buffers fd ((q.buffers fd).map f) }

/-- The bytes of a buffer. -/
def setBytes (q : DeviceSession) (fd : Int32) (bytes : Nat → UInt8) : DeviceSession :=
  q.change fd fun buffer => { buffer with bytes := bytes }

def refuse (q : DeviceSession) (fd : Int32) : DeviceSession :=
  q.change fd fun buffer => { buffer with refused := true }

def allocate (q : DeviceSession) (fd : Int32) (size : UInt32) : DeviceSession :=
  { q with buffers := Function.update q.buffers fd (some { size := size }) }

/-- What is mapped of a released buffer stays mapped. -/
def release (q : DeviceSession) (fd : Int32) : DeviceSession where
  buffers := Function.update q.buffers fd none
  mappings address := (q.mappings address).map fun mapping =>
    if mapping.fd = some fd then { mapping with fd := none } else mapping

def map (q : DeviceSession) (address : Address) (length : UInt64) (fd : Int32) : DeviceSession where
  buffers := q.buffers
  mappings := Function.update q.mappings address
    (some ⟨length, if (q.buffers fd).isSome then some fd else none⟩)

def unmap (q : DeviceSession) (address : Address) : DeviceSession :=
  { q with mappings := Function.update q.mappings address none }

/-- Bytes written through a mapping. -/
def write (q : DeviceSession) (address : Address) (offset : Nat) (data : Bytes) : DeviceSession :=
  match (q.mappings address).bind DeviceMapping.fd with
  | none => q
  | some fd => q.change fd fun buffer =>
    { buffer with bytes := Packing.writeAt buffer.bytes offset data }

/-- What an exchange does. What is not a descriptor is no buffer. -/
def after (q : DeviceSession) : DeviceExchange → DeviceSession
  | ⟨.allocateBuffer _, answer⟩ =>
    if answer.1 ∧ 0 ≤ answer.2.fd then q.allocate answer.2.fd answer.2.bufferSize else q
  | ⟨.releaseBuffer buffer, answer⟩ =>
    if buffer.fd < 0 then q
    else bif answer then q.release buffer.fd else q.refuse buffer.fd
  | ⟨.mmap length fd, answer⟩ =>
    match answer with
    | some address => q.map address length fd
    | none => q
  | ⟨.munmap address _, answer⟩ => bif answer then q.unmap address else q
  | ⟨.write address offset data, _⟩ => q.write address offset data
  | ⟨.getSupportedOperation _, _⟩ | ⟨.prepareModel _ _, _⟩ | ⟨.prepareModelFromModelCache _ _, _⟩
  | ⟨.prepareOfflineModel _ _, _⟩ | ⟨.exportModelCache _, _⟩ => q

/-- What is relied on. Exported caches have descriptors of their own. -/
def Relied (q : DeviceSession) : (req : DeviceRequest) → req.Answer → Prop
  | .allocateBuffer length, answer => answer.1 = true → 0 ≤ answer.2.fd →
    q.buffers answer.2.fd = none ∧ length ≤ answer.2.bufferSize
  | .mmap _ fd, answer => ∀ address, answer = some address → 0 ≤ fd ∧ q.mappings address = none
  | .munmap address length, answer =>
    (∃ mapping, q.mappings address = some mapping ∧ mapping.length = length) → answer = true
  | .exportModelCache _, answer => ∀ buffer ∈ answer.2, q.buffers buffer.fd = none
  | .releaseBuffer _, _ | .getSupportedOperation _, _ | .prepareModel _ _, _
  | .prepareModelFromModelCache _ _, _ | .prepareOfflineModel _ _, _ | .write _ _ _, _ => True

/-- The driver knows the buffer. What is not a descriptor it is free to refuse. -/
def Knows (q : DeviceSession) (fd : Int32) : Prop :=
  fd < 0 ∨ (q.buffers fd).isSome

/-- **The model is that of the graph**, and the constants' ranges hold their data. Without
constants there is no buffer. -/
structure Presents {ν : Type} (q : DeviceSession) (graph : LoadedGraph ν) (model : HDIModel) :
    Prop where
  follows : HDIModel.Follows graph model
  places : ∃ buffer bytes, HDIModel.Places graph.allTensors buffer model.allTensors bytes ∧
    (buffer = ⟨-1, 0, 0, 0⟩ ∨
      ∃ b, q.buffers buffer.fd = some b ∧ b.size = buffer.bufferSize ∧ b.bytes = bytes)

/-- **The buffers are those of the offline models**, one for each of them. -/
def Delivers (q : DeviceSession) (offlineModels : List Bytes) (buffers : List HDISharedBuffer) :
    Prop :=
  List.Forall₂ (fun (offlineModel : Bytes) (buffer : HDISharedBuffer) =>
    buffer.offset = 0 ∧ buffer.dataSize.toNat = offlineModel.length ∧
    buffer.bufferSize = buffer.dataSize ∧
    ∃ b, q.buffers buffer.fd = some b ∧ offlineModel.length ≤ b.size.toNat ∧
      ∀ k (hk : k < offlineModel.length), b.bytes k = offlineModel[k]) offlineModels buffers

end DeviceSession

/-! ## Calls -/

/-- What the runtime does with a device and the prepared models, which are numbered. -/
inductive DeviceCall (ν : Type)
  | allocateBuffer (length : UInt64)
  | allocateBufferFd (length : UInt64)
  | releaseBuffer (buffer : Option Address)
  | releaseBufferFd (fd : Int32) (length : UInt64)
  | getSupportedOperation (model : Option (HDIDevice.DeviceModel ν)) (env : HDIDevice.DeviceEnv)
  | prepareModel (model : Option (LoadedGraph ν)) (config : ModelConfig) (env : HDIDevice.DeviceEnv)
  | prepareModelFromModelCache (modelCache : List (Int32 × UInt64)) (config : ModelConfig)
    (env : HDIDevice.DeviceEnv)
  | prepareOfflineModel (model : Option HDIDevice.OfflineGraph) (config : ModelConfig)
    (env : HDIDevice.DeviceEnv)
  | exportModelCache (i : Nat)
  | destroy (i : Nat)

/-- The configuration the driver gets. -/
def HDIModelConfig.Of (iModelConfig : HDIModelConfig) (config : ModelConfig) : Prop :=
  iModelConfig.enableFloat16 = config.enableFloat16 ∧ iModelConfig.mode = config.mode ∧
    iModelConfig.priority = config.priority

/-- **What may be asked in a call.** Nothing is released that the driver has not allocated, no
mapping is larger than its buffer, undone twice or by parts, nothing is written outside
one, and models are asked about as they are. -/
def DeviceCall.Permits {ν : Type} (call : DeviceCall ν) (q : DeviceSession) : DeviceRequest → Prop
  | .allocateBuffer _ => True
  | .releaseBuffer buffer => q.Knows buffer.fd
  | .getSupportedOperation model =>
    ∃ graph env, call = .getSupportedOperation (some (.operators graph)) env ∧
      q.Presents graph model
  | .prepareModel model iModelConfig =>
    ∃ graph config env, call = .prepareModel (some graph) config env ∧ q.Presents graph model ∧
      iModelConfig.Of config
  | .prepareModelFromModelCache modelCache iModelConfig =>
    ∃ caches config env, call = .prepareModelFromModelCache caches config env ∧
      modelCache.map HDISharedBuffer.fd = caches.map Prod.fst ∧ iModelConfig.Of config
  | .prepareOfflineModel buffers iModelConfig =>
    ∃ graph config env offlineModels, call = .prepareOfflineModel (some graph) config env ∧
      HDIDevice.getOfflineModelFromLiteGraph graph = .ok (.ok offlineModels) ∧
      q.Delivers offlineModels buffers ∧ iModelConfig.Of config
  | .exportModelCache _ => ∃ i, call = .exportModelCache i
  | .mmap length fd => ∀ b, q.buffers fd = some b → length.toNat ≤ b.size.toNat
  | .munmap address length =>
    ∃ mapping, q.mappings address = some mapping ∧ mapping.length = length
  | .write address offset data =>
    ∃ mapping, q.mappings address = some mapping ∧ mapping.fd.isSome ∧
      offset + data.length ≤ mapping.length.toNat

open Classical in
/-- The automaton of a call. -/
noncomputable def DeviceCall.next {ν : Type} (call : DeviceCall ν) (q : DeviceSession)
    (e : DeviceExchange) : Option DeviceSession :=
  if call.Permits q e.1 then some (q.after e) else none

/-- A call of a device keeps the protocol, and ends as stated. -/
abbrev DeviceCall.Keeps {ν α : Type} (call : DeviceCall ν) (post : α → MemoryManager →
    DeviceSession → Prop) (program : DeviceM α) (m : MemoryManager) (q : DeviceSession) : Prop :=
  Asking.Obeys DeviceSession.Relied call.next (fun _ => False) post program m q

end NNRt
