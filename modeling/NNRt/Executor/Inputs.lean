import NNRt.Executor.State

/-!
# Inputs

`SetInput` and `SetInputFromMemory`.
-/

namespace NNRt

namespace NNExecutor

/-- `m_inputTensors[index] = exeTensor`. -/
def putInput (e : NNExecutor) (index : Nat) (x : ExeTensor) : NNExecutor :=
  { e with inputTensors := e.inputTensors.insert index x }

@[simp] theorem inputTensors_putInput (e : NNExecutor) (index : Nat) (x : ExeTensor) :
    (e.putInput index x).inputTensors = e.inputTensors.insert index x := rfl

/-- The loop of `CheckInputDimRanges` over the dimensions of one input. -/
def dimsInRange : List Int32 → List UInt32 → List UInt32 → Bool
  | dim :: dims, min :: mins, max :: maxs =>
    if dim < 0 then false
    else if dim.toUInt32 < min ∨ dim.toUInt32 > max then false
    else dimsInRange dims mins maxs
  | _, _, _ => true

/-- `CheckInputDimRanges` of one input, which asks the prepared model. -/
def checkInputDimRange (e : NNExecutor) (env : ExecutorEnv) (index : Nat) (nnTensor : OHNNTensor) :
    Except Fault ReturnCode :=
  match e.preparedModel with
  | none => .error (.nullDeref .preparedModel)
  | some _ =>
    -- The code of the device is passed on as it is: `SetInput` skips one of them only.
    if env.dimRanges.code ≠ .success then .ok env.dimRanges.code
    else
      match env.dimRanges.minInputDims[index]?, env.dimRanges.maxInputDims[index]? with
      | some mins, some maxs =>
        let tensorShape := nnTensor.dimensions.toVector
        if mins.length ≠ tensorShape.length ∨ maxs.length ≠ tensorShape.length then
          .ok .invalidParameter
        else if dimsInRange tensorShape mins maxs then .ok .success
        else .ok .invalidParameter
      | _, _ => .ok .invalidParameter

/-- `CompareAttribute`. The type of the tensor is an argument: `SetTensorType`
stores any number. -/
def compareAttribute (desc : TensorDesc) (descType : UInt32) (t : NNTensor Address)
    (tensorType : UInt32) : Bool :=
  desc.dataType = t.dataType && desc.shape.length = t.dimensions.length &&
    NNTensor.sameDimensions desc.shape t.dimensions && descType = tensorType

/-- `BuildInputTensor` on a new tensor. -/
def buildInputTensor (e : NNExecutor) (w : World) (index : Nat) (nnTensor : OHNNTensor) :
    ReturnCode × NNTensor Address :=
  match e.inputTensorDescs[index]? with
  | none => (.invalidParameter, {})
  | some (ref, type) =>
    match ({} : NNTensor Address).buildFromOHNNTensor nnTensor with
    | (.success, t) =>
      if t.isDynamicShape then (.invalidParameter, t)
      else
        let t := { t with format := (w.desc ref).format }
        if !compareAttribute (w.desc ref) type t t.tensorType.code then (.invalidParameter, t)
        else (.success, { t with name := (w.desc ref).name.val })
    | (ret, t) => (ret, t)

/-- `SetInputTensorWithCurrentBuffer`: the new tensor takes the buffer over. -/
def setInputTensorWithCurrentBuffer (e : NNExecutor) (w : World) (index : Nat)
    (inputTensor : NNTensor Address) (buffer : Option Bytes) (dataLength curBufferLength : Nat) :
    Outcome :=
  let x := (e.inputTensors.lookup index).getD {}
  match x.tensor with
  | none => .error (.nullDeref .tensor)
  | some t =>
    match w.memcpy t.buffer dataLength buffer with
    | (false, w) => .ok (.memoryError, e, w)
    | (true, w) =>
      .ok (.success, e.putInput index
        { x with tensor := some (inputTensor.setBuffer t.buffer curBufferLength) }, w)

/-- `SetInputTensorWithNewBuffer`: the buffer that is replaced is released first. -/
def setInputTensorWithNewBuffer (e : NNExecutor) (w : World) (index : Nat)
    (inputTensor : NNTensor Address) (inputBuffer : Address) (length : Nat) (isInnerMem : Bool) :
    Outcome :=
  let exeTensor : ExeTensor :=
    { tensor := some (inputTensor.setBuffer (some inputBuffer) length), isInnerMem := isInnerMem }
  match e.inputTensors.lookup index with
  | none => .ok (.success, e.putInput index exeTensor, w)
  | some x =>
    match x.tensor with
    | none => .error (.nullDeref .tensor)
    | some t =>
      -- A buffer that was set from memory belongs to the user and is only forgotten.
      let w := if x.isInnerMem then w.releaseBuffer t.buffer else w
      .ok (.success, e.putInput index exeTensor, w)

/-- The length of the current buffer, if `SetInput` has allocated it. -/
def curBufferLength (e : NNExecutor) (index : Nat) : Nat :=
  match e.inputTensors.lookup index with
  | none => 0
  | some x => if x.isInnerMem then (x.tensor.map NNTensor.bufferLength).getD 0 else 0

/-- The part of `SetInput` after the checks. -/
def storeInput (e : NNExecutor) (w : World) (env : ExecutorEnv) (index : Nat)
    (inputTensor : NNTensor Address) (buffer : Option Bytes) (length : Nat) : Outcome :=
  let dataLength := inputTensor.dataLength
  -- What is copied has to fit, not the `length` the user passes.
  if dataLength ≤ e.curBufferLength index then
    e.setInputTensorWithCurrentBuffer w index inputTensor buffer dataLength
      (e.curBufferLength index)
  else if !env.allocate then .ok (.memoryError, e, w)
  else
    let inputBuffer := Address.inner w.nextBuffer
    match w.allocateBuffer.memcpy (some inputBuffer) dataLength buffer with
    | (false, w) => .ok (.memoryError, e, w.releaseBuffer (some inputBuffer))
    | (true, w) => e.setInputTensorWithNewBuffer w index inputTensor inputBuffer length true

/-- `SetInput`. -/
def setInput (e : NNExecutor) (w : World) (env : ExecutorEnv) (index : Nat)
    (nnTensor : OHNNTensor) (buffer : Option Bytes) (length : Nat) : Outcome :=
  match e.checkInputDimRange env index nnTensor with
  | .error fault => .error fault
  | .ok nnRet =>
    if nnRet ≠ .operationForbidden ∧ nnRet ≠ .success then .ok (nnRet, e, w)
    else if !env.createTensor then .ok (.memoryError, e, w)
    else
      match e.buildInputTensor w index nnTensor with
      | (.success, inputTensor) =>
        if length = 0 ∨ length < inputTensor.dataLength then .ok (.invalidParameter, e, w)
        else e.storeInput w env index inputTensor buffer length
      | (ret, _) => .ok (ret, e, w)

/-- `SetInputFromMemory`. -/
def setInputFromMemory (e : NNExecutor) (w : World) (env : ExecutorEnv) (index : Nat)
    (nnTensor : OHNNTensor) (memory : OHNNMemory) : Outcome :=
  match e.checkInputDimRange env index nnTensor with
  | .error fault => .error fault
  | .ok nnRet =>
    if nnRet ≠ .operationForbidden ∧ nnRet ≠ .success then .ok (nnRet, e, w)
    else if !env.createTensor then .ok (.memoryError, e, w)
    else
      match e.buildInputTensor w index nnTensor with
      | (.success, inputTensor) =>
        if memory.length = 0 ∨ memory.length < inputTensor.dataLength then
          .ok (.invalidParameter, e, w)
        else
          e.setInputTensorWithNewBuffer w index inputTensor (.user memory.data) memory.length false
      | (ret, _) => .ok (ret, e, w)

end NNExecutor

end NNRt
