import NNRt.Compiler.ModelSize
import NNRt.Service.Served

/-!
# The core and the service

The functions of the core that ask the service: authentication while a model is
built, the preparation of an executor, its runs, and its end.
-/

namespace NNRt

open NNRtServiceApi (getInstance)

/-! ## Compilations -/

/-- `Compilation`, as far as the service is concerned. -/
structure ServedCompilation extends SizedCompilation where
  /-- The path `cachePath` points to, if it is not null. -/
  cachePathName : String := ""
  compiler : Option (NNCompiler Nat) := none
  nnrtModelID : UInt64 := 0
  hiaiModelId : UInt32 := 0
  isNeedModelLatency : Bool := false

namespace ServedCompilation

/-- `AuthenticateModel`, with the compilation and `isExceedRamLimit` it leaves. -/
def authenticateModel (c : ServedCompilation) (compilerSize : Except Fault UInt64)
    (isExceedRamLimit : Bool) : ServiceM (ReturnCode × ServedCompilation × Bool) := do
  let (retCode, sized, isExceedRamLimit) ← ServiceM.liftFault
    (checkExceedRamLimit (some c.toSizedCompilation) compilerSize isExceedRamLimit)
  let c := { c with toSizedCompilation := sized.getD c.toSizedCompilation }
  if retCode ≠ .success then return (retCode, c, isExceedRamLimit)
  else if !isExceedRamLimit then return (.success, c, isExceedRamLimit)
  else
    let nnrtService ← getInstance
    if !nnrtService.serviceAvailable then return (.success, c, isExceedRamLimit)
    else if !nnrtService.functions .isSupportAuthentication then
      return (.invalidParameter, c, isExceedRamLimit)
    else
      let (ret, supportStat) : ReturnCode × Bool ← nnrtService.call .isSupportAuthentication
      if ret ≠ .success then return (ret, c, isExceedRamLimit)
      else if !supportStat then return (.success, c, isExceedRamLimit)
      else if !nnrtService.functions .authentication then
        return (.invalidParameter, c, isExceedRamLimit)
      else
        let ret : ReturnCode ← nnrtService.call .authentication
        return (ret, c, isExceedRamLimit)

/-- `Authentication`. -/
def authentication (c : ServedCompilation) (compilerSize : Except Fault UInt64)
    (isExceedRamLimit : Bool) : ServiceM (ReturnCode × ServedCompilation × Bool) := do
  let nnrtService ← getInstance
  if !nnrtService.serviceAvailable then return (.success, c, isExceedRamLimit)
  else c.authenticateModel compilerSize isExceedRamLimit

/-- What `OH_NNCompilation_Build` asks the service between the options and the build of
the compiler. The pointer of the last function is not looked at. -/
def buildService (c : ServedCompilation) (compilerSize : Except Fault UInt64) :
    ServiceM (ReturnCode × ServedCompilation × Bool) := do
  let (ret, c, isExceedRamLimit) ← c.authentication compilerSize false
  if ret ≠ .success then return (ret, c, isExceedRamLimit)
  else
    let nnrtService ← getInstance
    if nnrtService.serviceAvailable then
      let _ ← nnrtService.call .pullUpDlliteService
      return (.success, c, isExceedRamLimit)
    else return (.success, c, isExceedRamLimit)

/-- `SetModelId`. -/
def setModelId (c : ServedCompilation) : ServiceM ReturnCode := do
  let nnrtService ← getInstance
  if !nnrtService.serviceAvailable then return .success
  else if !nnrtService.functions .setModelID then return .invalidParameter
  else
    let ret : ReturnCode ← nnrtService.call (.setModelID c.hiaiModelId c.nnrtModelID)
    return ret

/-- `isModelBuffer` of `ScheduleModel`. -/
def isModelBuffer (c : ServedCompilation) : Bool :=
  c.offlineModelBuffer.getD 0 ≠ 0 ∨ c.cacheBuffer.getD 0 ≠ 0

/-- `ScheduleModel`, which is all that `Scheduling` does. -/
def scheduleModel (c : ServedCompilation) : ServiceM (ReturnCode × ServedCompilation) := do
  let nnrtService ← getInstance
  if !nnrtService.serviceAvailable then return (.success, c)
  else if !nnrtService.functions .isSupportScheduling then return (.invalidParameter, c)
  else
    let (ret, supportStat) : ReturnCode × Bool ← nnrtService.call .isSupportScheduling
    if ret ≠ .success then return (ret, c)
    -- The flag of an earlier executor of this compilation stays.
    else if !supportStat then return (.success, c)
    else if !nnrtService.functions .scheduling then return (.invalidParameter, c)
    else
      let (ret, needModelLatency) : ReturnCode × Bool ← nnrtService.call
        (.scheduling c.hiaiModelId (if c.cachePath.isSome then c.cachePathName else "")
          c.modelSize c.isModelBuffer)
      if ret ≠ .success then return (ret, c)
      else return (.success, { c with isNeedModelLatency := needModelLatency })

end ServedCompilation

/-! ## The life of an executor -/

namespace ServedExecutor

/-- `std::to_string` and the null character behind it. -/
def idString (id : UInt32) : Bytes :=
  ((toString id.toNat).toList.map fun c => c.toNat.toUInt8) ++ [0]

/-- The configuration `ExecutorPrepare` hands to an executor. -/
def prepareConfigs (c : ServedCompilation) : List (String × Bytes) :=
  [("hiaiModelId", idString c.hiaiModelId),
    ("isNeedModelLatency", [if c.isNeedModelLatency then 1 else 0])]

/-- `ExecutorPrepare`. What `SetExtensionConfig` returns is not looked at. -/
def prepare (e : ServedExecutor) (c : ServedCompilation) (env : ServedEnv) :
    ServiceM (ReturnCode × ServedExecutor × ServedCompilation) := do
  let ret ← c.setModelId
  if ret ≠ .success then return (ret, e, c)
  else
    let (ret, c) ← c.scheduleModel
    if ret ≠ .success then return (ret, e, c)
    else
      let (_, e) ← ServiceM.liftFault (e.setExtensionConfig env (prepareConfigs c))
      let (ret, e) ← e.setDeinitModelCallBack env
      if ret ≠ .success then return (ret, e, c)
      else return (.success, { e with isAddSession := false }, c)

/-- `Unload`, of the configuration of an executor. -/
def unload (e : ServedExecutor) : ServiceM ReturnCode := do
  match e.executor.executorConfig with
  | none => return .invalidParameter
  | some _ =>
    let nnrtService ← getInstance
    if !nnrtService.serviceAvailable then return .success
    else if !nnrtService.functions .unload then return .invalidParameter
    else
      let ret : ReturnCode ← nnrtService.call (.unload e.hiaiModelId)
      return ret

/-- `OH_NNExecutor_Destroy` once the backend is found. Failures are only logged. -/
def close (e : ServedExecutor) (w : World) : ServiceM World := do
  let _ ← e.unload
  let e := { e with executor := e.executor.destroyPreparedModel.2 }
  e.destroy w

/-- `OH_NNExecutor_Construct` once the backend is found. -/
def construct (c : ServedCompilation) (created : Bool) (this : Nat) (executorid : UInt64)
    (w : World) (env : ServedEnv) :
    ServiceM (Option ServedExecutor × ServedCompilation × World) := do
  match c.compiler.bind fun compiler => compiler.createExecutor created with
  | none => return (none, c, w)
  | some executor =>
    let e := create executor this executorid env
    let (ret, hiaiModelId) := e.getModelID env c.hiaiModelId
    let c := { c with hiaiModelId := hiaiModelId }
    if ret ≠ .success then
      let w ← e.close w
      return (none, c, w)
    else
      let (ret, e, c) ← e.prepare c env
      if ret ≠ .success then
        let w ← e.close w
        return (none, c, w)
      else return (some e, c, w)

/-- `AddSessionId`. -/
def addSessionId (e : ServedExecutor) (env : ServedEnv) : ServiceM ServedExecutor := do
  if e.isAddSession then return e
  else
    let nnrtService ← getInstance
    if nnrtService.serviceAvailable && nnrtService.functions .addSessionId then
      let _ ← nnrtService.call (.addSessionId env.pid env.tid)
      return { e with isAddSession := true }
    else return { e with isAddSession := true }

/-- Whether the configuration asks for the latency of a run. -/
def needsLatency (e : ServedExecutor) : Bool :=
  (e.executor.executorConfig.map ExecutorConfig.isNeedModelLatency).getD false

/-- The readings of the clock in one run. -/
structure Clock where
  timeStart : Int := 0
  timeEnd : Int := 0

/-- `RunSync` of the core and `RunSyncWithAipp` of the runtime, around the run of the
executor. The latency is what is handed to the thread they start. -/
def timed (runs : ServedExecutor → ServiceM (ReturnCode × ServedExecutor × World))
    (e : ServedExecutor) (w : World) (env : ServedEnv) (clock : Clock) :
    ServiceM (ReturnCode × ServedExecutor × World × Option Int32) := do
  match e.executor.executorConfig with
  | none => return (.invalidParameter, e, w, none)
  | some _ =>
    let timeStart := if e.needsLatency then clock.timeStart else 0
    let (ret, e, w) ← runs e
    if ret ≠ .success then return (ret, e, w, none)
    -- The service may have asked for it during the run.
    else if e.needsLatency then
      let modelLatency := Int32.ofInt (clock.timeEnd - timeStart)
      let config := e.executor.executorConfig.map fun config =>
        { config with isNeedModelLatency := false }
      let e := { e with executor := { e.executor with executorConfig := config } }
      let (ret, e) ← ServiceM.liftFault (e.setExtensionConfig env [("isNeedModelLatency", [0])])
      return (ret, e, w, some modelLatency)
    else return (.success, e, w, none)

/-- `INPUT_OUTPUT_MAX_INDICES`. -/
def inputOutputMaxIndices : Nat := 200

/-- The check of both entry points on the number of tensors. -/
def countsAllowed (inputTensors outputTensors : List (Option Nat)) : Bool :=
  (0 < inputTensors.length ∧ inputTensors.length ≤ inputOutputMaxIndices) ∧
    0 < outputTensors.length ∧ outputTensors.length ≤ inputOutputMaxIndices

/-- `OH_NNExecutor_RunSync`. -/
def coreRunSync (e : ServedExecutor) (w : World) (env : ServedEnv) (reloadEnv : ReloadEnv)
    (clock : Clock) (inputTensors outputTensors : List (Option Nat)) :
    ServiceM (ReturnCode × ServedExecutor × World × Option Int32) := do
  if !countsAllowed inputTensors outputTensors then return (.invalidParameter, e, w, none)
  else
    let e ← e.addSessionId env
    timed (fun e => e.runSync w env reloadEnv inputTensors outputTensors) e w env clock

/-- `OH_NNExecutor_RunSyncWithAipp`, which adds no session. -/
def coreRunSyncWithAipp (e : ServedExecutor) (w : World) (env : ServedEnv) (reloadEnv : ReloadEnv)
    (clock : Clock) (inputTensors outputTensors : List (Option Nat)) (aippString : String) :
    ServiceM (ReturnCode × ServedExecutor × World × Option Int32) :=
  if !countsAllowed inputTensors outputTensors ∨ aippString = "" then
    return (.invalidParameter, e, w, none)
  else timed (fun e => e.runSyncWithAipp w env reloadEnv inputTensors outputTensors) e w env clock

/-- What reading `hiaiModelId` through a pointer to the configuration of an executor gives, if
the pointer is not null. An executor that is gone has freed its configuration. -/
def configPtr : Option ServedExecutor → Option (Except ServiceFault UInt32)
  | none => some (.error .freedConfig)
  | some e => e.executor.executorConfig.map fun _ => .ok e.hiaiModelId

/-- `UpdateModelLatency`, which a thread of its own calls. The configuration is read only where
the service is told. -/
def updateModelLatency (config : Option (Except ServiceFault UInt32)) (modelLatency : Int32) :
    ServiceM ReturnCode := do
  match config with
  | none => return .invalidParameter
  | some hiaiModelId =>
    let nnrtService ← getInstance
    if !nnrtService.serviceAvailable then return .success
    else if !nnrtService.functions .updateModelLatency then return .invalidParameter
    else
      match hiaiModelId with
      | .error fault => throw fault
      | .ok hiaiModelId =>
        let ret : ReturnCode ← nnrtService.call (.updateModelLatency hiaiModelId modelLatency)
        return ret

end ServedExecutor

end NNRt
