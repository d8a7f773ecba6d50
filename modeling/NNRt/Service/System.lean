import NNRt.Lib.Run
import NNRt.Service.Core

/-!
# Executors, the service and what runs beside them

The whole process: the client, compilations, executors, the threads that report
latencies, and the transcript of everything that was said to the service. What
happens next is up to the user, to the service that calls back, to the unload
timers and to the threads; any order of events is a run. One event ends before the
next one begins.

- `ServiceSystem.step`: one event.
- `ServiceSystem.saidBy`: what one executor has said.
-/

namespace NNRt

/-- The process. -/
structure ServiceSystem where
  api : NNRtServiceApi := {}
  compilations : List ServedCompilation := []
  /-- Every executor that was created, by its address; `none` once it is gone. -/
  executors : List (Option ServedExecutor) := []
  world : World := {}
  /-- Threads that are to report a latency, with the executor whose configuration they hold. -/
  threads : List (Nat × Int32) := []
  /-- What was said, and for which executor; `none` is the build of a compilation. -/
  said : List (Option Nat × ServiceExchange) := []
  /-- The codes that runs and other calls have returned to the user. -/
  codes : List ReturnCode := []

/-- The calls on an executor that leave the service alone. -/
def ExecutorCall.isLocal : ExecutorCall → Bool
  | .runSync _ _ _ | .runSyncWithAipp _ _ _ | .setExtensionConfig _ | .deinitModel _ | .autoUnload
  | .destroyPreparedModel => false
  | _ => true

/-- What happens next. -/
inductive ServiceEvent
  /-- The user creates tensors and writes to them; it may be anything. -/
  | user (world : World)
  /-- A compilation is constructed and given its options. -/
  | compilation (c : ServedCompilation)
  /-- `OH_NNCompilation_Build`: what the compiler answers to the question for the size, and, by
  the `isExceedRamLimit` it is configured with, the compiler as `Build` leaves it and what
  `GetModelId` finds. -/
  | build (compilation : Nat) (compilerSize : Except Fault UInt64)
      (built : Bool → Option (NNCompiler TensorDesc × UInt64))
  /-- `OH_NNExecutor_Construct`. -/
  | construct (compilation : Nat) (backend created : Bool) (executorid : UInt64)
  | runSync (executor : Nat) (reloadEnv : ReloadEnv) (clock : ServedExecutor.Clock)
      (inputTensors outputTensors : List (Option Nat))
  | runSyncWithAipp (executor : Nat) (reloadEnv : ReloadEnv) (clock : ServedExecutor.Clock)
      (inputTensors outputTensors : List (Option Nat)) (aippString : String)
  | call (executor : Nat) (c : { c : ExecutorCall // c.isLocal })
  /-- The service calls `DeinitModel` of an executor it knows. -/
  | deinitModel (executor : Nat) (mode : String)
  /-- An unload task of an executor is due. -/
  | autoUnload (executor : Nat)
  /-- A thread that reports a latency gets to run. -/
  | latencyThread (thread : Nat)
  /-- `OH_NNExecutor_Destroy`. -/
  | destroy (executor : Nat) (backend : Bool)

namespace ServiceSystem

/-- The executor at an address, if it is still there. -/
def executor? (s : ServiceSystem) (i : Nat) : Option ServedExecutor :=
  s.executors[i]?.join

/-- What an executor has said. -/
def saidBy (s : ServiceSystem) (i : Nat) : List ServiceExchange :=
  (s.said.filter fun entry => entry.1 = some i).map Prod.snd

def setExecutor (s : ServiceSystem) (i : Nat) (e : Option ServedExecutor) : ServiceSystem :=
  { s with executors := s.executors.set i e }

/-- What is left when something has been said for `owner`. -/
def ask {α : Type} (s : ServiceSystem) (owner : Option Nat) (party : ServiceParty)
    (m : ServiceM α) (next : α → ServiceSystem → ServiceSystem) :
    Except ServiceFault ServiceSystem :=
  match m.run party s.api with
  | (_, .error fault) => .error fault
  | (said, .ok (a, api)) =>
    .ok (next a { s with api := api, said := s.said ++ said.map fun e => (owner, e) })

/-- An executor after a synchronous run, and the thread it has started, if it has. -/
def afterRun (i : Nat) (out : ReturnCode × ServedExecutor × World × Option Int32)
    (s : ServiceSystem) : ServiceSystem :=
  let (ret, e, w, latency) := out
  { s.setExecutor i (some e) with
    world := w
    codes := s.codes ++ [ret]
    threads := s.threads ++ (latency.map fun latency => (i, latency)).toList }

/-- What an event is about, besides the party that answers. -/
structure EventEnv where
  env : ServedEnv := {}
  party : ServiceParty

/-- One event. A handle is null once its executor is gone, so calls of the user do nothing
then; the service and the threads hold pointers of their own. -/
def step (s : ServiceSystem) (event : EventEnv × ServiceEvent) :
    Except ServiceFault ServiceSystem :=
  let env := event.1.env
  let party := event.1.party
  match event.2 with
  | .user w => .ok { s with world := w }
  | .compilation c => .ok { s with compilations := s.compilations ++ [c] }
  | .build k compilerSize built =>
    match s.compilations[k]? with
    | none => .ok s
    | some c =>
      s.ask none party (c.buildService compilerSize) fun (ret, c, isExceedRamLimit) s =>
        let (c, w) := match built isExceedRamLimit with
          | some (compiler, nnrtModelID) =>
            if ret = .success then
              let (compiler, w) := compiler.share s.world
              ({ c with compiler := some compiler, nnrtModelID := nnrtModelID }, w)
            else (c, s.world)
          | none => (c, s.world)
        { s with compilations := s.compilations.set k c, world := w }
  | .construct k backend created executorid =>
    match s.compilations[k]? with
    | none => .ok s
    | some c =>
      if !backend then .ok s
      else
        let this := s.executors.length
        s.ask (some this) party
          (ServedExecutor.construct c created this executorid s.world env) fun (e, c, w) s =>
            { s with
              compilations := s.compilations.set k c
              executors := s.executors ++ [e]
              world := w }
  | .runSync i reloadEnv clock inputTensors outputTensors =>
    match s.executor? i with
    | none => .ok s
    | some e =>
      s.ask (some i) party (e.coreRunSync s.world env reloadEnv clock inputTensors outputTensors)
        (afterRun i)
  | .runSyncWithAipp i reloadEnv clock inputTensors outputTensors aippString =>
    match s.executor? i with
    | none => .ok s
    | some e =>
      s.ask (some i) party
        (e.coreRunSyncWithAipp s.world env reloadEnv clock inputTensors outputTensors aippString)
        (afterRun i)
  | .call i c =>
    match s.executor? i with
    | none => .ok s
    | some e =>
      match c.1.perform e.executor s.world env.executor with
      | .error fault => .error (.fault fault)
      | .ok (ret, executor, w) =>
        .ok { s.setExecutor i (some { e with executor := executor }) with
          world := w
          codes := s.codes ++ [ret] }
  | .deinitModel i mode =>
    match s.executor? i with
    | none => .error .freedExecutor
    | some e =>
      s.ask (some i) party (e.deinitModel env mode) fun (_, e) s => s.setExecutor i (some e)
  | .autoUnload i =>
    match s.executor? i with
    | none => .ok s
    | some e => s.ask (some i) party (e.autoUnload env) fun e s => s.setExecutor i (some e)
  | .latencyThread k =>
    match s.threads[k]? with
    | none => .ok s
    | some (i, modelLatency) =>
      let config := ServedExecutor.configPtr (s.executor? i)
      s.ask (some i) party (ServedExecutor.updateModelLatency config modelLatency) fun _ s =>
        { s with threads := s.threads.eraseIdx k }
  | .destroy i backend =>
    match s.executor? i with
    | none => .ok s
    | some e =>
      if !backend then .ok s
      else
        s.ask (some i) party (e.close s.world) fun w s => { s.setExecutor i none with world := w }

end ServiceSystem

end NNRt
