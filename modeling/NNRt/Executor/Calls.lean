import NNRt.Executor.Run
import NNRt.Lib.Run

/-!
# Calls on an executor

The remaining operations of an executor, and all of them as data. A run pairs
each call with what is outside the executor during it.
-/

namespace NNRt

namespace NNExecutor

/-! ## Input ranges and configuration -/

/-- The loop of `GetInputDimVec`, which keeps the ranges before one that is no
good. -/
def pushDimRanges (e : NNExecutor) :
    List (List UInt32) → List (List UInt32) → ReturnCode × NNExecutor
  | mins :: minDims, maxs :: maxDims =>
    if mins.length ≠ maxs.length then (.invalidParameter, e)
    else
      pushDimRanges { e with
        minInputDimsVec := e.minInputDimsVec ++ [mins.map UInt32.toNat]
        maxInputDimsVec := e.maxInputDimsVec ++ [maxs.map UInt32.toNat] } minDims maxDims
  | _, _ => (.success, e)

/-- `GetInputDimVec`. -/
def getInputDimVec (e : NNExecutor) (env : ExecutorEnv) : Except Fault (ReturnCode × NNExecutor) :=
  match e.preparedModel with
  | none => .error (.nullDeref .preparedModel)
  | some _ =>
    if env.dimRanges.code ≠ .success then .ok (.operationForbidden, e)
    else if env.dimRanges.minInputDims.length ≠ env.dimRanges.maxInputDims.length then
      .ok (.invalidParameter, e)
    else .ok (e.pushDimRanges env.dimRanges.minInputDims env.dimRanges.maxInputDims)

/-- The pointers `GetInputDimRange` is to write through, by whether they are given. -/
structure DimRangeArgs where
  minInputDims : Bool := true
  maxInputDims : Bool := true
  shapeNum : Bool := true

/-- The end of `GetInputDimRange`. -/
def dimRangeAt (e : NNExecutor) (inputIndex : Nat) : ReturnCode × Option (List Nat × List Nat) :=
  match e.minInputDimsVec[inputIndex]?, e.maxInputDimsVec[inputIndex]? with
  | some mins, some maxs =>
    if mins.length ≠ maxs.length then (.invalidParameter, none) else (.success, some (mins, maxs))
  | _, _ => (.invalidParameter, none)

/-- `GetInputDimRange`. -/
def getInputDimRange (e : NNExecutor) (env : ExecutorEnv) (inputIndex : Nat)
    (args : DimRangeArgs) :
    Except Fault (ReturnCode × NNExecutor × Option (List Nat × List Nat)) :=
  if !args.minInputDims then .ok (.invalidParameter, e, none)
  else if !args.maxInputDims then .ok (.invalidParameter, e, none)
  else if !args.shapeNum then .ok (.invalidParameter, e, none)
  else if e.minInputDimsVec.isEmpty then
    match e.getInputDimVec env with
    | .error fault => .error fault
    | .ok (.success, e) =>
      let (ret, range) := e.dimRangeAt inputIndex
      .ok (ret, e, range)
    | .ok (ret, e) => .ok (ret, e, none)
  else
    let (ret, range) := e.dimRangeAt inputIndex
    .ok (ret, e, range)

/-- `EXTENSION_MAX_SIZE`. -/
def extensionMaxSize : Nat := 200

/-- The loop of `SetExtensionConfig`; the data of an empty vector is null. -/
def applyConfigs (config : ExecutorConfig) : List (String × Bytes) → ReturnCode × ExecutorConfig
  | [] => (.success, config)
  -- An error keeps what the configurations in front of it have set.
  | (_, []) :: _ => (.failed, config)
  | (key, byte :: _) :: configs =>
    if key = "isNeedModelLatency" then
      applyConfigs { config with isNeedModelLatency := byte ≠ 0 } configs
    else applyConfigs config configs

/-- `SetExtensionConfig`, which creates the configuration before it looks at its
arguments. -/
def setExtensionConfig (e : NNExecutor) (env : ExecutorEnv) (configs : List (String × Bytes)) :
    ReturnCode × NNExecutor :=
  if e.executorConfig.isNone && !env.createConfig then (.failed, e)
  else
    let config := e.executorConfig.getD {}
    if configs.length > extensionMaxSize then (.failed, { e with executorConfig := some config })
    else
      let (ret, config) := applyConfigs config configs
      (ret, { e with executorConfig := some config })

/-! ## Unloading -/

/-- `DeinitModel`. -/
def deinitModel (e : NNExecutor) (env : ExecutorEnv) (mode : String) : Bool × NNExecutor :=
  match e.preparedModel with
  | none => (false, e)
  | some _ =>
    -- Without a cache to reload from, the answer is `true` all the same.
    if env.hasCache then
      (true, { e with
        preparedModel := none
        autoUnloadHandler :=
          if mode = "FrozenDeinit" ∨ mode = "HiaiAutoUnload" then
            e.autoUnloadHandler.map fun _ => 0
          else e.autoUnloadHandler })
    else (true, e)

/-- An unload task that is due, if one waits. -/
def autoUnload (e : NNExecutor) (env : ExecutorEnv) : NNExecutor :=
  match e.autoUnloadHandler with
  | some (n + 1) => ({ e with autoUnloadHandler := some n }.deinitModel env "DelayUnload").2
  | _ => e

/-- `DestroyPreparedModel`. -/
def destroyPreparedModel (e : NNExecutor) : ReturnCode × NNExecutor :=
  let e := { e with autoUnloadHandler := none }
  match e.preparedModel with
  | none => (.invalidParameter, e)
  | some _ => (.success, { e with preparedModel := none })

/-- One loop of the destructor; a fault ends it. -/
def destroyTensors (w : World) : List ExeTensor → Option Fault × World
  | [] => (none, w)
  | x :: xs =>
    match x.tensor with
    | none => (some (.nullDeref .tensor), w)
    | some t => destroyTensors (if x.isInnerMem then w.releaseBuffer t.buffer else w) xs

/-- `~NNExecutor`: the world it leaves, and the fault it ends with, if any. -/
def destroy (e : NNExecutor) (w : World) : Option Fault × World :=
  match destroyTensors w (e.inputTensors.entries.map Sigma.snd) with
  | (some fault, w) => (some fault, w)
  | (none, w) => destroyTensors w (e.outputTensors.entries.map Sigma.snd)

end NNExecutor

/-- A compiled model with one input of two floats and one output. -/
def smallCompiler (outputShape : List Int32) : NNCompiler TensorDesc where
  isBuild := true
  backendID := 1
  preparedModel := some ⟨0, (.success, []), .success⟩
  inputTensorDescs := [(.floats 2, TensorType.tensor.code)]
  outputTensorDescs :=
    [((({ dataType := .float32 } : TensorDesc).setShape outputShape).2, TensorType.tensor.code)]

/-- The calls on an executor. -/
inductive ExecutorCall
  | setInput (index : Nat) (nnTensor : OHNNTensor) (buffer : Option Bytes) (length : Nat)
  | setInputFromMemory (index : Nat) (nnTensor : OHNNTensor) (memory : OHNNMemory)
  | setOutput (index : Nat) (buffer : Option Nat) (length : Nat)
  | setOutputFromMemory (index : Nat) (memory : OHNNMemory)
  | createInputMemory (index length : Nat)
  | createOutputMemory (index length : Nat)
  | destroyInputMemory (index : Nat) (memory : OHNNMemory)
  | destroyOutputMemory (index : Nat) (memory : OHNNMemory)
  | run
  | runSync (env : ReloadEnv) (inputTensors outputTensors : List (Option Nat))
  | runSyncWithAipp (env : ReloadEnv) (inputTensors outputTensors : List (Option Nat))
  | getInputDimRange (inputIndex : Nat) (args : NNExecutor.DimRangeArgs)
  | setExtensionConfig (configs : List (String × Bytes))
  | deinitModel (mode : String)
  | autoUnload
  | destroyPreparedModel

/-- The code of a call, the executor and the world it leaves; a call without a
code counts as successful. -/
def ExecutorCall.perform (e : NNExecutor) (w : World) (env : ExecutorEnv) :
    ExecutorCall → Outcome
  | .setInput index nnTensor buffer length => e.setInput w env index nnTensor buffer length
  | .setInputFromMemory index nnTensor memory => e.setInputFromMemory w env index nnTensor memory
  | .setOutput index buffer length => e.setOutput w env index buffer length
  | .setOutputFromMemory index memory => e.setOutputFromMemory w env index memory
  | .createInputMemory index length =>
    let (ret, e, _) := e.createInputMemory env index length
    .ok (ret, e, w)
  | .createOutputMemory index length =>
    let (ret, e, _) := e.createOutputMemory env index length
    .ok (ret, e, w)
  | .destroyInputMemory index memory =>
    let (ret, e) := e.destroyInputMemory env index memory
    .ok (ret, e, w)
  | .destroyOutputMemory index memory =>
    let (ret, e) := e.destroyOutputMemory env index memory
    .ok (ret, e, w)
  | .run => e.run w env
  | .runSync reloadEnv inputTensors outputTensors =>
    e.runSync w env reloadEnv inputTensors outputTensors
  | .runSyncWithAipp reloadEnv inputTensors outputTensors =>
    e.runSyncWithAipp w env reloadEnv inputTensors outputTensors
  | .getInputDimRange inputIndex args =>
    match e.getInputDimRange env inputIndex args with
    | .error fault => .error fault
    | .ok (ret, e, _) => .ok (ret, e, w)
  | .setExtensionConfig configs =>
    let (ret, e) := e.setExtensionConfig env configs
    .ok (ret, e, w)
  | .deinitModel mode => .ok (.success, (e.deinitModel env mode).2, w)
  | .autoUnload => .ok (.success, e.autoUnload env, w)
  | .destroyPreparedModel =>
    let (ret, e) := e.destroyPreparedModel
    .ok (ret, e, w)

namespace NNExecutor

/-- One call, whatever its code. -/
def step (s : NNExecutor × World) (call : ExecutorEnv × ExecutorCall) :
    Except Fault (NNExecutor × World) :=
  (call.2.perform s.1 s.2 call.1).map Prod.snd

/-- A call that does not fault has a code. -/
theorem step_eq_ok {s s' : NNExecutor × World} {call : ExecutorEnv × ExecutorCall}
    (h : step s call = .ok s') : ∃ ret, call.2.perform s.1 s.2 call.1 = .ok (ret, s') := by
  unfold step at h
  cases hperform : call.2.perform s.1 s.2 call.1 with
  | error fault =>
    rw [hperform] at h
    cases h
  | ok p =>
    rw [hperform] at h
    cases h
    exact ⟨p.1, rfl⟩

end NNExecutor

end NNRt
