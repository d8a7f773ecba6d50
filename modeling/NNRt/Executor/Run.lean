import NNRt.Executor.Outputs

/-!
# Running

`Run` over the tensors that were set, `RunSync` and `RunSyncWithAipp` over
tensors of the user, and what loads and unloads the prepared model.
-/

namespace NNRt

namespace NNExecutor

/-! ## `Run` -/

/-- The tensors of the entries `0` to `n - 1`; `none` if one of them is null. -/
def tensorsOf (xs : AList fun _ : Nat => ExeTensor) (n : Nat) : Option (List (NNTensor Address)) :=
  (List.range n).mapM fun i => (xs.lookup i).bind ExeTensor.tensor

/-- `outputTensors[i]->SetDimensions`: the tensor of an entry is replaced. -/
def setOutputTensor (e : NNExecutor) (index : Nat) (t : NNTensor Address) : NNExecutor :=
  match e.outputTensors.lookup index with
  | none => e
  | some x => e.putOutput index { x with tensor := some t }

/-- The loop of `Run` over the dimensions the device reports, from output `i` on:
they go to the tensor and to the shared description. -/
def setOutputDims (i : Nat) (e : NNExecutor) (w : World) :
    List (NNTensor Address) → DescRefs → List (List Int32) → ReturnCode × NNExecutor × World
  | t :: ts, (ref, _) :: refs, dims :: outputsDims =>
    match t.setDimensions dims with
    | (.success, t) =>
      let e := e.setOutputTensor i t
      -- An error here leaves the tensor with dimensions its description does not have.
      match (w.desc ref).setShape dims with
      | (.success, desc) => setOutputDims (i + 1) e (w.setDesc ref desc) ts refs outputsDims
      | (ret, _) => (ret, e, w)
    -- `ValidateDimensions` has stored what it found before the error.
    | (ret, t) => (ret, e.setOutputTensor i t, w)
  | _, _, _ => (.success, e, w)

/-- What the device does to the world when it runs. -/
def deviceRun (w : World) (reply : RunReply) (inputs outputs : List (NNTensor Address)) : World :=
  let w := w.touch ((inputs ++ outputs).map NNTensor.buffer)
  { w with
    memory := fun address =>
      if some address ∈ outputs.map NNTensor.buffer then reply.outputData address
      else w.memory address
    runs := w.runs ++
      [.ioTensors (inputs.map NNTensor.convertToIOTensor) (outputs.map NNTensor.convertToIOTensor)] }

/-- `Run` of lists of tensors. -/
def runTensors (e : NNExecutor) (w : World) (env : ExecutorEnv)
    (inputTensors outputTensors : List (NNTensor Address)) : Outcome :=
  match e.preparedModel with
  | none => .error (.nullDeref .preparedModel)
  | some _ =>
    -- The device has had the buffers, whatever it answers.
    let w := deviceRun w env.run inputTensors outputTensors
    if env.run.code ≠ .success then .ok (env.run.code, e, w)
    else if env.run.outputsDims.length ≠ outputTensors.length then .ok (.invalidParameter, e, w)
    else .ok (setOutputDims 0 e w outputTensors e.outputTensorDescs env.run.outputsDims)

/-- The copy of one output to the user's memory. -/
def copyOutput (w : World) (x : ExeTensor) (t : NNTensor Address) : ReturnCode × World :=
  if t.dataLength > x.userBufferLength then (.invalidParameter, w)
  else
    match t.buffer with
    | none => (.failed, w)
    | some deviceBuffer =>
      match x.userBuffer with
      | none => (.memoryError, w)
      | some userBuffer =>
        if !memcpySucceeds x.userBufferLength then (.memoryError, w)
        else
          let w := w.touch [some deviceBuffer]
          (.success, w.write (some (.user userBuffer))
            ((w.memory deviceBuffer).take t.dataLength))

/-- The loop of `Run` that copies the outputs `i`, …, `i + n - 1`. -/
def copyOutputs (e : NNExecutor) (i : Nat) : Nat → World → ReturnCode × World
  | 0, w => (.success, w)
  | n + 1, w =>
    match (e.outputTensors.lookup i).bind fun x => x.tensor.map fun t => (x, t) with
    | none => copyOutputs e (i + 1) n w
    | some (x, t) =>
      if x.isInnerMem then
        match copyOutput w x t with
        | (.success, w) => copyOutputs e (i + 1) n w
        | (ret, w) => (ret, w)
      else copyOutputs e (i + 1) n w

/-- `Run`. -/
def run (e : NNExecutor) (w : World) (env : ExecutorEnv) : Outcome :=
  if e.inputTensorDescs.length ≠ e.inputTensors.entries.length then .ok (.invalidParameter, e, w)
  else if e.outputTensorDescs.length ≠ e.outputTensors.entries.length then
    .ok (.invalidParameter, e, w)
  else
    match tensorsOf e.inputTensors e.inputTensors.entries.length,
        tensorsOf e.outputTensors e.outputTensors.entries.length with
    | some inputTensors, some outputTensors =>
      match e.runTensors w env inputTensors outputTensors with
      | .error fault => .error fault
      | .ok (.success, e, w) =>
        let (ret, w) := e.copyOutputs 0 outputTensors.length w
        .ok (ret, e, w)
      | .ok (ret, e, w) => .ok (ret, e, w)
    | _, _ => .error (.nullDeref .tensor)

/-! ## `Reload` -/

/-- `Reload` after `Restore` has returned `caches`. The prepared model is stored
even if preparing it fails. -/
def reloadCaches (e : NNExecutor) (w : World) (env : ReloadEnv) (caches : List Buffer) : Outcome :=
  let cacheNum := caches.length
  if cacheNum < cacheInputTensorDescOffset then .error .outOfBounds
  else
    let bufferAt (offset : Nat) : Bytes := ((caches[cacheNum - offset]?).map Buffer.data).getD []
    match deserializedTensorsFromMapped (bufferAt cacheInputTensorDescOffset) with
    | .error (.fault fault) => .error fault
    | .error (.ret ret) => .ok (ret, e, w)
    | .ok inputTensorDescs =>
      match deserializedTensorsFromMapped (bufferAt cacheOutputTensorDescOffset) with
      | .error (.fault fault) => .error fault
      | .error (.ret ret) => .ok (ret, e, w)
      | .ok outputTensorDescs =>
        let e := { e with preparedModel := env.cache.prepare.2.1 }
        if env.cache.prepare.1 ≠ .success then .ok (env.cache.prepare.1, e, w)
        else
          let (inputs, w) := w.createDescs inputTensorDescs
          let (outputs, w) := w.createDescs outputTensorDescs
          .ok (.success, { e with inputTensorDescs := inputs, outputTensorDescs := outputs }, w)

/-- `Reload`. -/
def reload (e : NNExecutor) (w : World) (env : ReloadEnv) : Outcome :=
  if e.cachePath = "" then .ok (.invalidParameter, e, w)
  else if e.cacheVersion = invalidCacheVersion then .ok (.invalidParameter, e, w)
  else if e.preparedModel.isSome then .ok (.failed, e, w)
  else
    match ({} : NNCompiledCache).setBackend env.cache.backend e.backendID with
    | (.success, compiledCache) =>
      let compiledCache := { compiledCache with modelName := e.extensionConfig.modelName }
      match compiledCache.restore env.cache.codec env.cache.io env.fs e.cachePath e.cacheVersion []
          w.mappings with
      | .error fault => .error fault
      | .ok (ret, caches, mappings) =>
        -- Every way on from here releases the buffers before it returns.
        let w := { w with mappings := (NNCompiledCache.releaseCacheBuffer caches mappings).2 }
        if ret ≠ .success then .ok (ret, e, w) else e.reloadCaches w env caches
    | (ret, _) => .ok (ret, e, w)

/-- The part of `RunSync` and of `ReloadAippModel` that restores the prepared
model. What `ReinitScheduling` and `SetDeinitModelCallBack` answer is only
logged, but the former is given the address of a member of the configuration. -/
def autoReload (e : NNExecutor) (w : World) (env : ReloadEnv) : Outcome :=
  match e.reload w env with
  | .error fault => .error fault
  | .ok (.success, e, w) =>
    match e.executorConfig with
    | none => .error (.nullDeref .executorConfig)
    | some _ => .ok (.success, e, w)
  | .ok (_, e, w) => .ok (.invalidParameter, e, w)

/-! ## `RunSync` -/

/-- The loop of `NNTensor2_0::CheckDimRanges`, which does not look at the lengths
of the ranges. -/
def dimsWithin : List Int32 → List UInt32 → List UInt32 → Except Fault ReturnCode
  | [], _, _ => .ok .success
  | dim :: dims, mins, maxs =>
    if dim < 0 then .ok .invalidParameter
    else
      match mins, maxs with
      | min :: mins, max :: maxs =>
        if dim.toUInt32 < min ∨ dim.toUInt32 > max then .ok .invalidParameter
        else dimsWithin dims mins maxs
      -- A dimension below its minimum is logged with its maximum, which is read for that.
      | _, _ => .error .outOfBounds

/-- `NNTensor2_0::CheckDimRanges`. -/
def checkDimRanges (t : NNTensor2_0) (mins maxs : List UInt32) : Except Fault ReturnCode :=
  match t.tensorDesc with
  | none => .ok .invalidParameter
  | some desc => dimsWithin desc.shape mins maxs

/-- The loop of `CheckInputDimRanges` over the inputs of the user. -/
def checkInputsLoop (w : World) :
    List (Option Nat) → List (List UInt32) → List (List UInt32) → Except Fault ReturnCode
  | input :: inputs, mins :: minDims, maxs :: maxDims =>
    match input with
    | none => .ok .nullPtr
    | some address =>
      match w.tensors[address]? with
      | none => .error .outOfBounds
      | some t =>
        match checkDimRanges t mins maxs with
        | .error fault => .error fault
        | .ok .success => checkInputsLoop w inputs minDims maxDims
        | .ok ret => .ok ret
  | _, _, _ => .ok .success

/-- `CheckInputDimRanges` of a list of inputs, which asks the prepared model. -/
def checkInputDimRanges (e : NNExecutor) (w : World) (env : ExecutorEnv)
    (inputTensors : List (Option Nat)) : Except Fault ReturnCode :=
  match e.preparedModel with
  | none => .error (.nullDeref .preparedModel)
  | some _ =>
    if env.dimRanges.code ≠ .success then .ok .operationForbidden
    else if inputTensors.length ≠ env.dimRanges.minInputDims.length then .ok .invalidParameter
    else if inputTensors.length ≠ env.dimRanges.maxInputDims.length then .ok .invalidParameter
    else checkInputsLoop w inputTensors env.dimRanges.minInputDims env.dimRanges.maxInputDims

/-- `SetShape` on the description of a tensor of the user. -/
def setTensorShape (w : World) (address : Nat) (dims : List Int32) :
    Except Fault (ReturnCode × World) :=
  match w.tensors[address]? with
  | none => .error .outOfBounds
  | some t =>
    match t.tensorDesc with
    | none => .ok (.nullPtr, w)
    | some desc =>
      match desc.setShape dims with
      | (.success, desc) =>
        .ok (.success, { w with tensors := w.tensors.set address { t with tensorDesc := some desc } })
      | (ret, _) => .ok (ret, w)

/-- The loop of `RunSync` over the dimensions the device reports: they go to the
description of the user's tensor and to the shared one. -/
def setSyncDims (w : World) :
    List Nat → DescRefs → List (List Int32) → Except Fault (ReturnCode × World)
  | address :: addresses, refs, dims :: outputsDims =>
    match setTensorShape w address dims with
    | .error fault => .error fault
    | .ok (.success, w) =>
      match refs with
      | [] => .error .outOfBounds
      | (ref, _) :: refs =>
        match (w.desc ref).setShape dims with
        | (.success, desc) => setSyncDims (w.setDesc ref desc) addresses refs outputsDims
        | (ret, _) => .ok (ret, w)
    | .ok (ret, w) => .ok (ret, w)
  | _, _, _ => .ok (.success, w)

/-- The loop of `RunAippModel`, which leaves the user's tensors as they are. -/
def setAippDims (w : World) : DescRefs → List (List Int32) → Except Fault (ReturnCode × World)
  | refs, dims :: outputsDims =>
    match refs with
    | [] => .error .outOfBounds
    | (ref, _) :: refs =>
      match (w.desc ref).setShape dims with
      | (.success, desc) => setAippDims (w.setDesc ref desc) refs outputsDims
      | (ret, _) => .ok (ret, w)
  | _, [] => .ok (.success, w)

/-- One more unload task. -/
def postAutoUnload (e : NNExecutor) : NNExecutor :=
  { e with autoUnloadHandler := e.autoUnloadHandler.map (· + 1) }

/-- `RunSync` once the prepared model is there. -/
def runSyncTensors (e : NNExecutor) (w : World) (env : ExecutorEnv)
    (inputTensors outputTensors : List (Option Nat)) : Outcome :=
  match e.checkInputDimRanges w env inputTensors with
  | .error fault => .error fault
  | .ok ret =>
    if ret ≠ .operationForbidden ∧ ret ≠ .success then .ok (ret, e, w)
    else
      match inputTensors.mapM id, outputTensors.mapM id with
      | some inputs, some outputs =>
        match e.preparedModel with
        | none => .error (.nullDeref .preparedModel)
        | some _ =>
          let w := { w with runs := w.runs ++ [.tensors inputs outputs] }
          if env.run.code ≠ .success then .ok (env.run.code, e, w)
          else if env.run.outputsDims.length ≠ outputTensors.length then
            .ok (.invalidParameter, e, w)
          else
            match setSyncDims w outputs e.outputTensorDescs env.run.outputsDims with
            | .error fault => .error fault
            -- After an error nothing is posted, and the model stays loaded.
            | .ok (.success, w) => .ok (.success, e.postAutoUnload, w)
            | .ok (ret, w) => .ok (ret, e, w)
      | _, _ => .ok (.invalidParameter, e, w)

/-- `RunSync`. -/
def runSync (e : NNExecutor) (w : World) (env : ExecutorEnv) (reloadEnv : ReloadEnv)
    (inputTensors outputTensors : List (Option Nat)) : Outcome :=
  match e.autoUnloadHandler with
  | none => .error (.nullDeref .autoUnloadHandler)
  | some _ =>
    -- The waiting tasks are removed before anything is checked.
    let e := { e with autoUnloadHandler := some 0 }
    if e.inputTensorDescs.length ≠ inputTensors.length then .ok (.invalidParameter, e, w)
    else if e.outputTensorDescs.length ≠ outputTensors.length then .ok (.invalidParameter, e, w)
    else if e.preparedModel.isSome then e.runSyncTensors w env inputTensors outputTensors
    else
      match e.autoReload w reloadEnv with
      | .error fault => .error fault
      | .ok (.success, e, w) => e.runSyncTensors w env inputTensors outputTensors
      | .ok (ret, e, w) => .ok (ret, e, w)

/-- `RunAippModel`. -/
def runAippModel (e : NNExecutor) (w : World) (env : ExecutorEnv)
    (inputTensors outputTensors : List (Option Nat)) : Outcome :=
  match inputTensors.mapM id, outputTensors.mapM id with
  | some inputs, some outputs =>
    match e.preparedModel with
    | none => .error (.nullDeref .preparedModel)
    | some _ =>
      if env.setAippString ≠ .success then .ok (env.setAippString, e, w)
      else
        let w := { w with runs := w.runs ++ [.tensors inputs outputs] }
        if env.run.code ≠ .success then .ok (env.run.code, e, w)
        else if env.run.outputsDims.length ≠ outputTensors.length then .ok (.invalidParameter, e, w)
        else
          match setAippDims w e.outputTensorDescs env.run.outputsDims with
          | .error fault => .error fault
          | .ok (ret, w) => .ok (ret, e, w)
  | _, _ => .ok (.invalidParameter, e, w)

/-- `RunSyncWithAipp` once the prepared model is there. -/
def runAippTensors (e : NNExecutor) (w : World) (env : ExecutorEnv)
    (inputTensors outputTensors : List (Option Nat)) : Outcome :=
  match e.checkInputDimRanges w env inputTensors with
  | .error fault => .error fault
  | .ok ret =>
    if ret ≠ .operationForbidden ∧ ret ≠ .success then .ok (ret, e, w)
    else
      match e.runAippModel w env inputTensors outputTensors with
      | .error fault => .error fault
      | .ok (.success, e, w) => .ok (.success, e.postAutoUnload, w)
      | .ok (ret, e, w) => .ok (ret, e, w)

/-- `RunSyncWithAipp`. -/
def runSyncWithAipp (e : NNExecutor) (w : World) (env : ExecutorEnv) (reloadEnv : ReloadEnv)
    (inputTensors outputTensors : List (Option Nat)) : Outcome :=
  match e.autoUnloadHandler with
  | none => .error (.nullDeref .autoUnloadHandler)
  | some _ =>
    let e := { e with autoUnloadHandler := some 0 }
    if e.inputTensorDescs.length ≠ inputTensors.length then .ok (.invalidParameter, e, w)
    else if e.outputTensorDescs.length ≠ outputTensors.length then .ok (.invalidParameter, e, w)
    else if e.preparedModel.isSome then e.runAippTensors w env inputTensors outputTensors
    else
      match e.autoReload w reloadEnv with
      | .error fault => .error fault
      | .ok (.success, e, w) => e.runAippTensors w env inputTensors outputTensors
      | .ok (ret, e, w) => .ok (ret, e, w)

end NNExecutor

end NNRt
