import NNRt.Executor.Inputs

/-!
# Outputs and created memory

`SetOutput` and `SetOutputFromMemory`, and the memory that is created for the
user to pass.
-/

namespace NNRt

namespace NNExecutor

/-- `m_outputTensors[index] = exeTensor`. -/
def putOutput (e : NNExecutor) (index : Nat) (x : ExeTensor) : NNExecutor :=
  { e with outputTensors := e.outputTensors.insert index x }

@[simp] theorem outputTensors_putOutput (e : NNExecutor) (index : Nat) (x : ExeTensor) :
    (e.putOutput index x).outputTensors = e.outputTensors.insert index x := rfl

/-- `BuildNNTensorFromDesc`; `none` is a null pointer. The type is compared, but
not stored: nobody asks an output tensor for it. -/
def buildNNTensorFromDesc (env : ExecutorEnv) (desc : TensorDesc) (type : UInt32) :
    Option (NNTensor Address) :=
  if !env.createTensor then none
  else
    match ({} : NNTensor Address).buildFromTensorDesc desc with
    | (.success, t) =>
      let t := { t with format := desc.format }
      if !compareAttribute desc type t type then none
      else some { t with name := desc.name.val }
    | _ => none

/-- The end of `SetOutput`: a new buffer for the entry. -/
def setOutputBuffer (e : NNExecutor) (w : World) (env : ExecutorEnv) (index : Nat) (x : ExeTensor)
    (buffer : Option Nat) (length : Nat) : Outcome :=
  -- The entry keeps the buffer it has, also one that `SetOutput` has just released.
  if !env.allocate then .ok (.memoryError, e, w)
  else
    match x.tensor with
    | none => .error (.nullDeref .tensor)
    | some t =>
      .ok (.success, e.putOutput index
        { tensor := some (t.setBuffer (some (.inner w.nextBuffer)) length)
          userBuffer := buffer
          userBufferLength := length
          isInnerMem := true }, w.allocateBuffer)

/-- `SetOutput`: a buffer that is too small is released before the new one is
allocated. -/
def setOutput (e : NNExecutor) (w : World) (env : ExecutorEnv) (index : Nat) (buffer : Option Nat)
    (length : Nat) : Outcome :=
  match e.outputTensorDescs[index]? with
  | none => .ok (.invalidParameter, e, w)
  | some (ref, type) =>
    match (w.desc ref).getByteSize with
    | (.success, dataLength) =>
      if length = 0 ∨ length < dataLength.toNat then .ok (.invalidParameter, e, w)
      else
        match e.outputTensors.lookup index with
        | some x =>
          if x.isInnerMem then
            match x.tensor with
            | none => .error (.nullDeref .tensor)
            | some t =>
              if length ≤ t.bufferLength then
                .ok (.success, e.putOutput index
                  { x with userBuffer := buffer, userBufferLength := length }, w)
              else e.setOutputBuffer (w.releaseBuffer t.buffer) env index x buffer length
          else e.setOutputBuffer w env index x buffer length
        | none =>
          match buildNNTensorFromDesc env (w.desc ref) type with
          -- The entry is made before its tensor, and stays when there is none.
          | none => .ok (.nullPtr, e.putOutput index {}, w)
          | some t =>
            let x : ExeTensor := { tensor := some t }
            (e.putOutput index x).setOutputBuffer w env index x buffer length
    | (ret, _) => .ok (ret, e, w)

/-- The end of `SetOutputFromMemory`. -/
def setOutputMemory (e : NNExecutor) (w : World) (index : Nat) (x : ExeTensor)
    (memory : OHNNMemory) : Outcome :=
  match x.tensor with
  | none => .error (.nullDeref .tensor)
  | some t =>
    .ok (.success, e.putOutput index
      { tensor := some (t.setBuffer (some (.user memory.data)) memory.length) }, w)

/-- `SetOutputFromMemory`. -/
def setOutputFromMemory (e : NNExecutor) (w : World) (env : ExecutorEnv) (index : Nat)
    (memory : OHNNMemory) : Outcome :=
  match e.outputTensorDescs[index]? with
  | none => .ok (.invalidParameter, e, w)
  | some (ref, type) =>
    match (w.desc ref).getByteSize with
    | (.success, dataLength) =>
      if memory.length = 0 ∨ memory.length < dataLength.toNat then .ok (.invalidParameter, e, w)
      else
        match e.outputTensors.lookup index with
        | some x =>
          if x.isInnerMem then
            match x.tensor with
            | none => .error (.nullDeref .tensor)
            | some t => e.setOutputMemory (w.releaseBuffer t.buffer) index x memory
          else e.setOutputMemory w index x memory
        | none =>
          match buildNNTensorFromDesc env (w.desc ref) type with
          | none => .ok (.nullPtr, e.putOutput index {}, w)
          | some t =>
            let x : ExeTensor := { tensor := some t }
            (e.putOutput index x).setOutputMemory w index x memory
    | (ret, _) => .ok (ret, e, w)

/-! ## Created memory -/

/-- The created memory of an index with one more address. -/
def addCreated (created : AList fun _ : Nat => List Nat) (index address : Nat) :
    AList fun _ : Nat => List Nat :=
  created.insert index ((created.lookup index).getD [] ++ [address])

/-- `CreateInputMemory` and `CreateOutputMemory` for their descriptions and
lists; the memory, if there is any, is the third answer. -/
def createMemory (descs : DescRefs) (created : AList fun _ : Nat => List Nat) (env : ExecutorEnv)
    (index length : Nat) :
    ReturnCode × (AList fun _ : Nat => List Nat) × Option OHNNMemory :=
  match descs[index]? with
  | none => (.invalidParameter, created, none)
  | some _ =>
    if !env.allocate then (.memoryError, created, none)
    else if !env.createMemory then (.memoryError, created, none)
    else (.success, addCreated created index env.allocateAddress,
      some ⟨env.allocateAddress, length⟩)

/-- `DestroyInputMemory` and `DestroyOutputMemory` for their descriptions and lists. -/
def destroyMemory (descs : DescRefs) (created : AList fun _ : Nat => List Nat) (env : ExecutorEnv)
    (index : Nat) (memory : OHNNMemory) : ReturnCode × AList fun _ : Nat => List Nat :=
  match descs[index]? with
  | none => (.invalidParameter, created)
  | some _ =>
    match created.lookup index with
    | none => (.invalidParameter, created)
    | some addresses =>
      if memory.data ∉ addresses then (.invalidParameter, created)
      else if env.releaseBuffer ≠ .success then (env.releaseBuffer, created)
      else (.success, created.insert index (addresses.erase memory.data))

/-- `CreateInputMemory`. -/
def createInputMemory (e : NNExecutor) (env : ExecutorEnv) (index length : Nat) :
    ReturnCode × NNExecutor × Option OHNNMemory :=
  let (ret, created, memory) :=
    createMemory e.inputTensorDescs e.inputCreatedMem env index length
  (ret, { e with inputCreatedMem := created }, memory)

/-- `CreateOutputMemory`. -/
def createOutputMemory (e : NNExecutor) (env : ExecutorEnv) (index length : Nat) :
    ReturnCode × NNExecutor × Option OHNNMemory :=
  let (ret, created, memory) :=
    createMemory e.outputTensorDescs e.outputCreatedMem env index length
  (ret, { e with outputCreatedMem := created }, memory)

/-- `DestroyInputMemory`. -/
def destroyInputMemory (e : NNExecutor) (env : ExecutorEnv) (index : Nat) (memory : OHNNMemory) :
    ReturnCode × NNExecutor :=
  let (ret, created) := destroyMemory e.inputTensorDescs e.inputCreatedMem env index memory
  (ret, { e with inputCreatedMem := created })

/-- `DestroyOutputMemory`. -/
def destroyOutputMemory (e : NNExecutor) (env : ExecutorEnv) (index : Nat) (memory : OHNNMemory) :
    ReturnCode × NNExecutor :=
  let (ret, created) := destroyMemory e.outputTensorDescs e.outputCreatedMem env index memory
  (ret, { e with outputCreatedMem := created })

end NNExecutor

end NNRt
