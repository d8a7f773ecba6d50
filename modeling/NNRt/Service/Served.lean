import NNRt.Compiler.ModelID
import NNRt.Executor.Calls
import NNRt.Service.Client

/-!
# Executors that talk to the service

`NNExecutor` with what it keeps for the scheduling service, and the functions of it
that ask the service something. What they do to the executor itself is what
`Executor/Run.lean` and `Executor/Calls.lean` say.
-/

namespace NNRt

/-! ## `atoi` -/

/-- The loop of `std::atoi` over the digits. What it reads has to end somewhere. -/
def atoiDigits (value : Nat) : Bytes → Except Fault Nat
  | [] => .error .outOfBounds
  | byte :: bytes =>
    if '0'.toNat ≤ byte.toNat ∧ byte.toNat ≤ '9'.toNat then
      atoiDigits (10 * value + (byte.toNat - '0'.toNat)) bytes
    else .ok value

/-- `std::isspace`. -/
def isSpace (byte : UInt8) : Bool :=
  byte = 32 ∨ (9 ≤ byte ∧ byte ≤ 13)

/-- The sign `std::atoi` reads, and what is behind it. -/
def atoiSign : Bytes → Bool × Bytes
  | [] => (false, [])
  | byte :: bytes =>
    if byte.toNat = '-'.toNat then (true, bytes)
    else if byte.toNat = '+'.toNat then (false, bytes)
    else (false, byte :: bytes)

/-- `std::atoi`; what it makes of a number that is no `int` is not defined. -/
def atoi (overflow : Int → Int32) (s : Bytes) : Except Fault Int32 :=
  let (negative, digits) := atoiSign (s.dropWhile isSpace)
  (atoiDigits 0 digits).map fun value : Nat =>
    let number : Int := if negative then -(value : Int) else value
    if -2 ^ 31 ≤ number ∧ number < 2 ^ 31 then Int32.ofInt number else overflow number

/-! ## The executor -/

/-- An executor and what it keeps for the service. -/
structure ServedExecutor where
  executor : NNExecutor
  /-- Its address, as the service knows it. -/
  this : Nat
  executorid : UInt64
  originHiaiModelId : UInt32
  isHiaiModel : Bool := false
  isAddSession : Bool := false
  /-- The other members of `ExecutorConfig`, if there is one. -/
  callingPid : Int32 := -1
  hiaiModelId : UInt32 := 0

/-- What is outside an executor that talks to the service during one call. -/
structure ServedEnv where
  executor : ExecutorEnv := {}
  /-- `PreparedModel::GetModelID`: its code, and what it writes if it writes. -/
  modelID : ReturnCode × Option UInt32 := (.success, none)
  /-- What a variable holds before anything is stored in it. -/
  uninitialised : UInt32 := 0
  pid : Int32 := 0
  tid : Int32 := 0
  /-- `GetProcessNameByPid`. -/
  processName : String := "UNKNOWN"
  /-- `std::hash<std::string>`. -/
  hash : String → UInt64 := fun _ => 0
  overflow : Int → Int32 := fun _ => 0

/-- `HIAI_PROCESS_LIST`. -/
def hiaiProcessList : List String :=
  ["app.hiai.vision", "app.hiai.voice"]

/-- A step that does not ask; its fault ends the call. -/
def ServiceM.liftFault {α : Type} : Except Fault α → ServiceM α
  | .error fault => throw (.fault fault)
  | .ok a => pure a

open NNRtServiceApi (getInstance)

namespace ServedExecutor

/-- `GetModelID` with a variable to write to. -/
def getModelID (e : ServedExecutor) (env : ServedEnv) (modelId : UInt32) : ReturnCode × UInt32 :=
  match e.executor.preparedModel with
  | none => (.operationForbidden, modelId)
  | some _ => (env.modelID.1, env.modelID.2.getD modelId)

/-- The constructor. -/
def create (executor : NNExecutor) (this : Nat) (executorid : UInt64) (env : ServedEnv) :
    ServedExecutor :=
  let e : ServedExecutor :=
    { executor := executor
      this := this
      executorid := executorid
      originHiaiModelId := env.uninitialised }
  { e with originHiaiModelId := (e.getModelID env env.uninitialised).2 }

/-! ## Configuration -/

/-- A number in the configuration, if the key is its own. -/
def applyMember {α : Type} (overflow : Int → Int32) (name : String) (convert : Int32 → α)
    (value : α) (key : String) (data : Bytes) : Except Fault α :=
  if key = name then (atoi overflow data).map convert else .ok value

/-- The loop of `SetExtensionConfig`, for the members the executor does not read. -/
def applyIds (overflow : Int → Int32) (callingPid : Int32) (hiaiModelId : UInt32) :
    List (String × Bytes) → Except Fault (Int32 × UInt32)
  | [] | (_, []) :: _ => .ok (callingPid, hiaiModelId)
  | (key, byte :: data) :: configs => do
    let callingPid ← applyMember overflow "callingPid" id callingPid key (byte :: data)
    let hiaiModelId ←
      applyMember overflow "hiaiModelId" Int32.toUInt32 hiaiModelId key (byte :: data)
    applyIds overflow callingPid hiaiModelId configs

/-- These members after `SetExtensionConfig`: a new configuration has the values a
configuration begins with. -/
def idsAfter (e : ServedExecutor) (env : ServedEnv) (hasConfig : Bool)
    (configs : List (String × Bytes)) : Except Fault (Int32 × UInt32) :=
  let (callingPid, hiaiModelId) :=
    if e.executor.executorConfig.isSome then (e.callingPid, e.hiaiModelId) else (-1, 0)
  if !hasConfig ∨ configs.length > NNExecutor.extensionMaxSize then .ok (callingPid, hiaiModelId)
  else applyIds env.overflow callingPid hiaiModelId configs

/-- `SetExtensionConfig`. -/
def setExtensionConfig (e : ServedExecutor) (env : ServedEnv) (configs : List (String × Bytes)) :
    Except Fault (ReturnCode × ServedExecutor) :=
  let (ret, executor) := e.executor.setExtensionConfig env.executor configs
  (e.idsAfter env executor.executorConfig.isSome configs).map fun ids =>
    (ret, { e with executor := executor, callingPid := ids.1, hiaiModelId := ids.2 })

/-! ## Callbacks -/

/-- `SetDeinitModelCallBack`. -/
def setDeinitModelCallBack (e : ServedExecutor) (env : ServedEnv) :
    ServiceM (ReturnCode × ServedExecutor) := do
  let nnrtService ← getInstance
  if !nnrtService.serviceAvailable then return (.success, e)
  else if !nnrtService.functions .setDeinitModelCallBack then return (.invalidParameter, e)
  else if e.executor.preparedModel.isNone then return (.invalidParameter, e)
  else
    let ret : ReturnCode ←
      nnrtService.call (.setDeinitModelCallBack e.executorid.toUInt32 e.this)
    if ret ≠ .success then return (ret, e)
    else if e.executor.cachePath = "" then return (.success, e)
    else if env.processName ∈ hiaiProcessList then
      if !nnrtService.functions .setHiaiModelCallBack then return (.invalidParameter, e)
      else
        let ret : ReturnCode ← nnrtService.call
          (.setHiaiModelCallBack env.pid env.processName e.executor.cachePath e.this)
        if ret ≠ .success then return (ret, e)
        else return (.success, { e with isHiaiModel := true })
    else return (.success, e)

/-- `UnSetDeinitModelCallBack`. -/
def unSetDeinitModelCallBack (e : ServedExecutor) : ServiceM ReturnCode := do
  let nnrtService ← getInstance
  if !nnrtService.serviceAvailable then return .success
  else if !nnrtService.functions .unSetDeinitModelCallBack then return .invalidParameter
  else
    let ret : ReturnCode ← nnrtService.call (.unSetDeinitModelCallBack e.executorid.toUInt32)
    return ret

/-- `UnSetHiaiModelCallBack`. -/
def unSetHiaiModelCallBack (e : ServedExecutor) : ServiceM ReturnCode := do
  let nnrtService ← getInstance
  if !nnrtService.serviceAvailable then return .success
  else if !nnrtService.functions .unSetHiaiModelCallBack then return .invalidParameter
  else
    let ret : ReturnCode ← nnrtService.call (.unSetHiaiModelCallBack e.executor.cachePath)
    return ret

/-! ## Unloading -/

/-- `DeinitScheduling`, which does not ask whether the service is available. -/
def deinitScheduling (e : ServedExecutor) (hiaimodelID : UInt32) (mode : String) :
    ServiceM ReturnCode := do
  let nnrtService ← getInstance
  if !nnrtService.functions .autoUnload then return .invalidParameter
  else
    let ret : ReturnCode ← nnrtService.call (.autoUnload e.originHiaiModelId hiaimodelID mode)
    if ret ≠ .success then return .invalidParameter
    else return .success

/-- `DeinitModel`. What the service answers is only logged. -/
def deinitModel (e : ServedExecutor) (env : ServedEnv) (mode : String) :
    ServiceM (Bool × ServedExecutor) := do
  match e.executor.preparedModel with
  | none => return (false, e)
  | some _ =>
    if env.executor.hasCache then
      let (_, modelId) := e.getModelID env env.uninitialised
      let _ ← e.deinitScheduling modelId mode
      let (answer, executor) := e.executor.deinitModel env.executor mode
      return (answer, { e with executor := executor })
    else return (true, e)

/-- An unload task that is due, if one waits. -/
def autoUnload (e : ServedExecutor) (env : ServedEnv) : ServiceM ServedExecutor := do
  match e.executor.autoUnloadHandler with
  | some (n + 1) =>
    let e := { e with executor := { e.executor with autoUnloadHandler := some n } }
    let (_, e) ← e.deinitModel env "DelayUnload"
    return e
  | _ => return e

/-! ## Running -/

/-- `ReinitScheduling`, which may write to the configuration. -/
def reinitScheduling (e : ServedExecutor) (env : ServedEnv) (reloadEnv : ReloadEnv)
    (hiaimodelID : UInt32) : ServiceM (ReturnCode × ServedExecutor) := do
  let nnrtService ← getInstance
  if !nnrtService.serviceAvailable then return (.success, e)
  else if !nnrtService.functions .autoReinitSetModelID then return (.invalidParameter, e)
  else
    let (retCode, nnrtmodelID) ← ServiceM.liftFault (e.executor.getNNRtModelIDFromCache env.hash
      reloadEnv.cache reloadEnv.fs e.executor.cachePath e.executor.extensionConfig.modelName 0)
    if retCode ≠ .success ∨ nnrtmodelID = 0 then return (.invalidParameter, e)
    else
      let ret : ReturnCode ← nnrtService.call
        (.autoReinitSetModelID e.originHiaiModelId hiaimodelID nnrtmodelID)
      if ret ≠ .success then return (.invalidParameter, e)
      else if !nnrtService.functions .isSupportScheduling then return (.invalidParameter, e)
      else
        let (ret, supportStat) : ReturnCode × Bool ← nnrtService.call .isSupportScheduling
        if ret ≠ .success then return (.invalidParameter, e)
        else if !supportStat then return (.success, e)
        else if !nnrtService.functions .autoReinitScheduling then return (.invalidParameter, e)
        else
          let (ret, needModelLatency) : ReturnCode × Option Bool ← nnrtService.call
            (.autoReinitScheduling e.originHiaiModelId hiaimodelID e.executor.cachePath)
          let config := e.executor.executorConfig.map fun config =>
            { config with isNeedModelLatency := needModelLatency.getD config.isNeedModelLatency }
          let e := { e with executor := { e.executor with executorConfig := config } }
          if ret ≠ .success then return (.invalidParameter, e)
          else return (.success, e)

/-- What `RunSync` and `RunSyncWithAipp` do when the model has been dropped. -/
def autoReload (e : ServedExecutor) (w : World) (env : ServedEnv) (reloadEnv : ReloadEnv)
    (modelId : UInt32) : ServiceM (ReturnCode × ServedExecutor × World) := do
  let (ret, executor, w) ← ServiceM.liftFault (e.executor.reload w reloadEnv)
  let e := { e with executor := executor }
  if ret ≠ .success then return (.invalidParameter, e, w)
  else
    let (_, modelId) := e.getModelID env modelId
    match e.executor.executorConfig with
    | none => throw (.fault (.nullDeref .executorConfig))
    | some _ =>
      let (_, e) ← e.reinitScheduling env reloadEnv modelId
      let (_, e) ← e.setDeinitModelCallBack env
      return (.success, e, w)

/-- A synchronous run; `tensors` is what is done once the prepared model is there. -/
def runWith (tensors : NNExecutor → World → Outcome) (e : ServedExecutor) (w : World)
    (env : ServedEnv) (reloadEnv : ReloadEnv) (inputSize outputSize : Nat) :
    ServiceM (ReturnCode × ServedExecutor × World) := do
  match e.executor.autoUnloadHandler with
  | none => throw (.fault (.nullDeref .autoUnloadHandler))
  | some _ =>
    let (_, modelId) := e.getModelID env env.uninitialised
    let e := { e with executor := { e.executor with autoUnloadHandler := some 0 } }
    if e.executor.inputTensorDescs.length ≠ inputSize then return (.invalidParameter, e, w)
    else if e.executor.outputTensorDescs.length ≠ outputSize then return (.invalidParameter, e, w)
    else
      let (ret, e, w) ←
        if e.executor.preparedModel.isSome then pure (.success, e, w)
        else e.autoReload w env reloadEnv modelId
      if ret ≠ .success then return (ret, e, w)
      else
        let (ret, executor, w) ← ServiceM.liftFault (tensors e.executor w)
        return (ret, { e with executor := executor }, w)

/-- `RunSync`. -/
def runSync (e : ServedExecutor) (w : World) (env : ServedEnv) (reloadEnv : ReloadEnv)
    (inputTensors outputTensors : List (Option Nat)) :
    ServiceM (ReturnCode × ServedExecutor × World) :=
  e.runWith (fun executor w => executor.runSyncTensors w env.executor inputTensors outputTensors) w
    env reloadEnv inputTensors.length outputTensors.length

/-- `RunSyncWithAipp`. -/
def runSyncWithAipp (e : ServedExecutor) (w : World) (env : ServedEnv) (reloadEnv : ReloadEnv)
    (inputTensors outputTensors : List (Option Nat)) :
    ServiceM (ReturnCode × ServedExecutor × World) :=
  e.runWith (fun executor w => executor.runAippTensors w env.executor inputTensors outputTensors) w
    env reloadEnv inputTensors.length outputTensors.length

/-- `~NNExecutor`: the world it leaves. -/
def destroy (e : ServedExecutor) (w : World) : ServiceM World := do
  match e.executor.destroy w with
  | (some fault, _) => throw (.fault fault)
  | (none, w) =>
    let _ ← e.unSetDeinitModelCallBack
    if e.isHiaiModel then
      let _ ← e.unSetHiaiModelCallBack
      return w
    else return w

end ServedExecutor

end NNRt
