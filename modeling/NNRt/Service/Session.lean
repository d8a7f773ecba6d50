import NNRt.Service.System

/-!
# What one executor may say to the service

The protocol between an executor and the service, as an automaton on the executor's
side of the conversation. It opens with the model's id and its scheduling, goes on
for as long as the executor lives, and ends with the unloading of the model and the
withdrawal of the callbacks.

- `ServiceSession.next`: the automaton.
- `Relied`: a service that lets an executor give back what it was given.
- `Serves`: what a function of the client does to the conversation.
-/

namespace NNRt

/-! ## The protocol -/

/-- How far the conversation is. -/
inductive Stage
  | opening | named | scheduled | live | unloaded | deaf | closed
  deriving DecidableEq, Repr

/-- The stages in their order. -/
def Stage.rank : Stage → Nat
  | opening => 0
  | named => 1
  | scheduled => 2
  | live => 3
  | unloaded => 4
  | deaf => 5
  | closed => 6

/-- What the last call allows the next one to be. -/
inductive Last
  | other
  /-- The service schedules models. -/
  | supported
  /-- The model has a new id. -/
  | renamed
  /-- Both, in the other order. -/
  | resupported
  /-- The executor is registered for one kind of callback. -/
  | listening
  deriving DecidableEq, Repr

/-- A code that is no error. -/
def ReturnCode.succeeded (ret : ReturnCode) : Bool :=
  ret = .success

/-- What the service knows of an executor. -/
structure ServiceSession where
  stage : Stage := .opening
  last : Last := .other
  /-- The ids under which the model was named, scheduled, measured and unloaded. -/
  ids : List UInt32 := []
  hasSession : Bool := false
  deinitCallBack : Bool := false
  hiaiCallBack : Bool := false
  /-- The model is scheduled and not unloaded. -/
  owesUnload : Bool := false
  /-- How often the service has asked for a latency when the model was loaded again. -/
  requests : Nat := 0
  /-- How often it was told one. -/
  reports : Nat := 0
  deriving DecidableEq, Repr

namespace ServiceSession

/-- The session after a call that is allowed up to a stage and leads to another. -/
def move (q : ServiceSession) (upTo : Nat) (stage : Stage) (last : Last) :
    Option ServiceSession :=
  if q.stage.rank ≤ upTo then some { q with stage := stage, last := last } else none

/-- The automaton. The loader may be asked at any time, and `IsSupportScheduling` while the
executor lives; a build never talks in the name of an executor. -/
def next (q : ServiceSession) : (req : ServiceRequest) → req.Answer → Option ServiceSession
  | .dlopen, _ | .dlsym, _ => some q
  | .call (.setModelID id _), _ =>
    ({ q with ids := q.ids ++ [id] } : ServiceSession).move 0 .named .other
  | .call .isSupportScheduling, (ret, support) =>
    q.move 3 q.stage <|
      if ReturnCode.succeeded ret && support then
        if q.last = .renamed then .resupported else .supported
      else .other
  | .call (.scheduling id _ _ _), (ret, _) =>
    if q.last = .supported then
      ({ q with ids := q.ids ++ [id], owesUnload := ReturnCode.succeeded ret }
        : ServiceSession).move 1 .scheduled .other
    else none
  | .call (.setDeinitModelCallBack _ _), ret =>
    ({ q with deinitCallBack := q.deinitCallBack || ReturnCode.succeeded ret }
      : ServiceSession).move 3 .live (if ReturnCode.succeeded ret then .listening else .other)
  | .call (.setHiaiModelCallBack _ _ _ _), ret =>
    if q.last = .listening then
      ({ q with hiaiCallBack := q.hiaiCallBack || ReturnCode.succeeded ret }
        : ServiceSession).move 3 .live .other
    else none
  | .call (.addSessionId _ _), _ =>
    if q.hasSession then none
    else ({ q with hasSession := true } : ServiceSession).move 3 .live .other
  | .call (.autoReinitSetModelID _ _ _), ret =>
    q.move 3 .live (if ReturnCode.succeeded ret then .renamed else .other)
  | .call (.autoReinitScheduling _ _ _), (_, needModelLatency) =>
    if q.last = .resupported then
      ({ q with requests := q.requests + if needModelLatency = some true then 1 else 0 }
        : ServiceSession).move 3 .live .other
    else none
  | .call (.autoUnload _ _ _), _ => q.move 3 .live .other
  | .call (.updateModelLatency id _), _ =>
    ({ q with ids := q.ids ++ [id], reports := q.reports + 1 } : ServiceSession).move 3 .live .other
  | .call (.unload id), ret =>
    ({ q with ids := q.ids ++ [id], owesUnload := q.owesUnload && !ReturnCode.succeeded ret }
      : ServiceSession).move 3 .unloaded .other
  | .call (.unSetDeinitModelCallBack _), ret =>
    ({ q with deinitCallBack := q.deinitCallBack && !ReturnCode.succeeded ret }
      : ServiceSession).move 4 .deaf .other
  | .call (.unSetHiaiModelCallBack _), ret =>
    ({ q with hiaiCallBack := q.hiaiCallBack && !ReturnCode.succeeded ret }
      : ServiceSession).move 5 .closed .other
  | .call .isSupportAuthentication, _ | .call .authentication, _
  | .call .pullUpDlliteService, _ => none

/-- The automaton on exchanges. -/
def nextOf (q : ServiceSession) (e : ServiceExchange) : Option ServiceSession :=
  q.next e.1 e.2

end ServiceSession

/-! ## What is relied on, and what a function does -/

/-- What is assumed of a service: that it lets go of callbacks, and of models. -/
structure Promises where
  callBacks : Prop
  models : Prop

namespace Promises

/-- A service that promises nothing. -/
def nothing : Promises := ⟨False, False⟩

/-- A service that takes callbacks back. -/
def callBacksBack : Promises := ⟨True, False⟩

/-- A service that takes everything back. -/
def allBack : Promises := ⟨True, True⟩

end Promises

/-- A library has the functions that take something back along with those that give it. -/
structure PairedFunctions (p : Promises) (functions : ServiceFunction → Bool) : Prop where
  deinit : p.callBacks → functions .setDeinitModelCallBack = true →
    functions .unSetDeinitModelCallBack = true
  hiai : p.callBacks → functions .setHiaiModelCallBack = true →
    functions .unSetHiaiModelCallBack = true
  unload : p.models → functions .scheduling = true → functions .unload = true

/-- What is promised to be taken back is taken back. -/
def Relied (p : Promises) : (req : ServiceRequest) → req.Answer → Prop
  | .dlsym, found => PairedFunctions p found
  | .call (.unSetDeinitModelCallBack _), ret => p.callBacks → ReturnCode.succeeded ret = true
  | .call (.unSetHiaiModelCallBack _), ret => p.callBacks → ReturnCode.succeeded ret = true
  | .call (.unload _), ret => p.models → ReturnCode.succeeded ret = true
  | _, _ => True

/-- What the client is like while a session is in some state: what the service has was
given through a function of its own. -/
structure Meets (p : Promises) (api : NNRtServiceApi) (q : ServiceSession) : Prop where
  consistent : api.Consistent
  paired : PairedFunctions p api.functions
  deinit : q.deinitCallBack = true → api.functions .setDeinitModelCallBack = true
  hiai : q.hiaiCallBack = true → api.functions .setHiaiModelCallBack = true
  unload : q.owesUnload = true → api.functions .scheduling = true

/-- A function of the client obeys the protocol, calls no null function, and leaves things as
stated. -/
def Serves {α : Type} (p : Promises) (m : ServiceM α) (api : NNRtServiceApi) (q : ServiceSession)
    (post : α → ServiceSession → Prop) : Prop :=
  Asking.Obeys (fun _ => Relied p) ServiceSession.nextOf (fun fault => ∃ f, fault = .fault f)
    (fun a api' q' => Meets p api' q' ∧ api.Grows api' ∧ post a q') m api q

section Rules

variable {α β : Type} {p : Promises} {m : ServiceM α} {f : α → ServiceM β} {api : NNRtServiceApi}
  {q : ServiceSession}

theorem serves_pure {a : α} {post : α → ServiceSession → Prop} (hmeets : Meets p api q)
    (h : post a q) : Serves p (pure a) api q post :=
  ⟨hmeets, .refl api, h⟩

theorem serves_throw {fault : Fault} {post : α → ServiceSession → Prop} :
    Serves p (throw (.fault fault)) api q post :=
  ⟨fault, rfl⟩

theorem Serves.mono {post post' : α → ServiceSession → Prop} (h : Serves p m api q post)
    (hpost : ∀ a q, post a q → post' a q) : Serves p m api q post' :=
  Asking.Obeys.mono (fun _ => id) (fun a _ q h => ⟨h.1, h.2.1, hpost a q h.2.2⟩) h

theorem Serves.bind {mid : α → ServiceSession → Prop} {post : β → ServiceSession → Prop}
    (hm : Serves p m api q mid)
    (hf : ∀ a api' q', Meets p api' q' → mid a q' → Serves p (f a) api' q' post) :
    Serves p (m >>= f) api q post := by
  refine Asking.Obeys.bind hm fun a api' q' h => ?_
  obtain ⟨hmeets, hgrows, hmid⟩ := h
  refine Asking.Obeys.mono (fun _ => id) (fun b api'' q'' h => ?_) (hf a api' q' hmeets hmid)
  exact ⟨h.1, hgrows.trans h.2.1, h.2.2⟩

/-- What a step without questions returns. -/
theorem serves_liftFault {x : Except Fault α} {post : α → ServiceSession → Prop}
    (hmeets : Meets p api q) (h : ∀ a, x = .ok a → post a q) :
    Serves p (ServiceM.liftFault x) api q post := by
  cases x with
  | error fault => exact serves_throw
  | ok a => exact serves_pure hmeets (h a rfl)

/-- The rest behind a step without questions, which leaves the client as it is. -/
theorem serves_liftFault_bind {x : Except Fault α} {post : β → ServiceSession → Prop}
    (h : ∀ a, x = .ok a → Serves p (f a) api q post) :
    Serves p (ServiceM.liftFault x >>= f) api q post := by
  cases x with
  | error fault => exact Asking.obeys_bind.mpr ⟨fault, rfl⟩
  | ok a => exact h a rfl

/-- A table that what is found is added to. -/
theorem PairedFunctions.or {functions found : ServiceFunction → Bool}
    (h : PairedFunctions p functions) (h' : PairedFunctions p found) :
    PairedFunctions p fun f => functions f || found f where
  deinit hp hf := by
    rw [Bool.or_eq_true] at hf ⊢
    exact hf.imp (h.deinit hp) (h'.deinit hp)
  hiai hp hf := by
    rw [Bool.or_eq_true] at hf ⊢
    exact hf.imp (h.hiai hp) (h'.hiai hp)
  unload hp hf := by
    rw [Bool.or_eq_true] at hf ⊢
    exact hf.imp (h.unload hp) (h'.unload hp)

/-- What becomes of the client. -/
structure Grown (p : Promises) (api api' : NNRtServiceApi) : Prop where
  grows : api.Grows api'
  consistent : api'.Consistent
  paired : PairedFunctions p api'.functions

/-- What getting it leaves. -/
structure Ready (p : Promises) (api api' : NNRtServiceApi) : Prop extends Grown p api api' where
  available : api'.libNNRtService = true → api'.serviceAvailable = true

theorem Grown.trans {api₁ api₂ api₃ : NNRtServiceApi} (h : Grown p api₁ api₂)
    (h' : Grown p api₂ api₃) : Grown p api₁ api₃ :=
  ⟨h.grows.trans h'.grows, h'.consistent, h'.paired⟩

/-- What was met is met by a client that has grown. -/
theorem Meets.grow {api' : NNRtServiceApi} (h : Meets p api q) (hgrown : Grown p api api') :
    Meets p api' q where
  consistent := hgrown.consistent
  paired := hgrown.paired
  deinit hq := hgrown.grows.functions _ (h.deinit hq)
  hiai hq := hgrown.grows.functions _ (h.hiai hq)
  unload hq := hgrown.grows.functions _ (h.unload hq)

open NNRtServiceApi (getInstance)

/-- **Getting the client**, for any automaton that lets the loader be asked. -/
theorem obeys_getInstance {Q : Type} {δ : Q → ServiceExchange → Option Q}
    {fail : ServiceFault → Prop} {q : Q} (hopen : ∀ ans, δ q ⟨.dlopen, ans⟩ = some q)
    (hsym : ∀ ans, δ q ⟨.dlsym, ans⟩ = some q) (hconsistent : api.Consistent)
    (hpaired : PairedFunctions p api.functions) :
    Asking.Obeys (fun _ => Relied p) δ fail (fun client api' q' => client = api' ∧ q' = q ∧ Ready p api api')
      getInstance api q := by
  -- The lookup of the functions, once the library is there.
  have hfound : ∀ found, Relied p .dlsym found → Ready p api
      { libNNRtService := true
        functions := fun f => api.functions f || found f
        serviceAvailable := true } := by
    intro found hfound
    refine ⟨⟨⟨fun _ => rfl, fun f hf => ?_⟩, ⟨fun _ _ => rfl, fun _ => rfl⟩,
      hpaired.or hfound⟩, fun _ => rfl⟩
    dsimp only
    rw [hf, Bool.true_or]
  unfold getInstance
  simp only [Asking.obeys_bind, Asking.obeys_get]
  cases hlib : api.libNNRtService with
  | true => exact fun found hrelied => ⟨q, hsym found, rfl, rfl, hfound found hrelied⟩
  | false =>
    intro opened _
    refine ⟨q, hopen opened, ?_⟩
    cases opened with
    | true => exact fun found hrelied => ⟨q, hsym found, rfl, rfl, hfound found hrelied⟩
    | false =>
      -- Without the library there are no functions.
      have hnone : ∀ f, api.functions f ≠ true := by
        intro f hf
        have hlib' := hconsistent.functions f hf
        rw [hlib] at hlib'
        cases hlib'
      have hclosed : ¬ (false = true) := Bool.false_ne_true
      exact ⟨rfl, rfl, ⟨⟨hlib.symm.trans, fun _ => id⟩,
        ⟨fun f hf => absurd hf (hnone f), fun h => absurd h hclosed⟩, hpaired⟩,
        fun h => absurd h hclosed⟩

/-- The session does not notice. -/
theorem serves_getInstance {f : NNRtServiceApi → ServiceM β} {post : β → ServiceSession → Prop}
    (hmeets : Meets p api q)
    (hf : ∀ api', Meets p api' q → (api'.libNNRtService = true → api'.serviceAvailable = true) →
      Serves p (f api') api' q post) :
    Serves p (getInstance >>= f) api q post := by
  refine Asking.Obeys.bind (obeys_getInstance (fun _ => rfl) (fun _ => rfl) hmeets.consistent
    hmeets.paired) fun client api' q' h => ?_
  obtain ⟨rfl, rfl, hready⟩ := h
  refine Asking.Obeys.mono (fun _ => id) (fun b api'' q'' h => ?_)
    (hf client (hmeets.grow hready.toGrown) hready.available)
  exact ⟨h.1, hready.grows.trans h.2.1, h.2.2⟩

/-- A call through the table, where the pointer was looked at. -/
theorem serves_call {c : ServiceCall} {f : c.Answer → ServiceM β} {post : β → ServiceSession → Prop}
    (hfound : api.functions c.function = true)
    (hf : ∀ ans : c.Answer, Relied p (.call c) ans → ∃ q', q.next (.call c) ans = some q' ∧
      Serves p (f ans) api q' post) :
    Serves p (api.call c >>= f) api q post := by
  have hcall : api.call c = Asking.ask (ServiceRequest.call c) := if_pos hfound
  unfold Serves
  rw [hcall]
  exact Asking.obeys_bind.mpr hf

/-- A call whose answer is returned. -/
theorem serves_call_last {c : ServiceCall} {post : c.Answer → ServiceSession → Prop}
    (hmeets : Meets p api q) (hfound : api.functions c.function = true)
    (hf : ∀ ans : c.Answer, Relied p (.call c) ans → ∃ q', q.next (.call c) ans = some q' ∧
      (Meets p api q → Meets p api q' ∧ post ans q')) :
    Serves p (api.call c) api q post := by
  have hcall : api.call c = Asking.ask (ServiceRequest.call c) := if_pos hfound
  unfold Serves
  rw [hcall]
  intro ans hans
  obtain ⟨q', hq', h⟩ := hf ans hans
  exact ⟨q', hq', (h hmeets).1, .refl api, (h hmeets).2⟩

end Rules

end NNRt
