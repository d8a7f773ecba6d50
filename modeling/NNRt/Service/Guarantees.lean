import NNRt.Executor.Bounds
import NNRt.Service.Runs

/-!
# What the service can count on

Results about whole processes: any order of events, any answers of the loader and of
the service, any number of executors.

- `said_accepted`: **the protocol is kept**.
- `nullFunction_build`: the one function that may be null when it is called.
- `ids_same`: an executor has one id.
- `latencies_asked_for`: no latency is reported that was not asked for.
- `gone_gave_back` / `callBacks_alive`: what was given is taken back, so that the
  service calls no executor that is gone.
- `freedConfig_iff`: when a thread outlives its executor.
-/

namespace NNRt

open Dialogue (reads)

/-! ## Transcripts -/

namespace ServiceSession

/-- The id a call is about, if it is one of those the session keeps. -/
def idOf : ServiceExchange → Option UInt32
  | ⟨.call (.setModelID id _), _⟩ | ⟨.call (.scheduling id _ _ _), _⟩
  | ⟨.call (.updateModelLatency id _), _⟩ | ⟨.call (.unload id), _⟩ => some id
  | _ => none

/-- Whether a latency is reported. -/
def isReport : ServiceExchange → Bool
  | ⟨.call (.updateModelLatency _ _), _⟩ => true
  | _ => false

/-- Whether a latency is asked for when a model is loaded again. -/
def isRequest : ServiceExchange → Bool
  | ⟨.call (.autoReinitScheduling _ _ _), (_, needModelLatency)⟩ => needModelLatency = some true
  | _ => false

/-- What a session has counted. -/
structure Counted (q : ServiceSession) (said : List ServiceExchange) (q' : ServiceSession) :
    Prop where
  ids : q'.ids = q.ids ++ said.filterMap idOf
  reports : q'.reports = q.reports + said.countP isReport
  requests : q'.requests = q.requests + said.countP isRequest

variable {q q' : ServiceSession}

theorem move_counted {upTo : Nat} {stage : Stage} {last : Last} (h : q.move upTo stage last = some q') :
    q'.ids = q.ids ∧ q'.reports = q.reports ∧ q'.requests = q.requests := by
  unfold move at h
  split at h
  · cases h
    exact ⟨rfl, rfl, rfl⟩
  · cases h

theorem next_counted {e : ServiceExchange} (h : q.nextOf e = some q') : Counted q [e] q' := by
  obtain ⟨req, ans⟩ := e
  cases req with
  | dlopen | dlsym =>
    cases h
    exact ⟨(List.append_nil _).symm, rfl, rfl⟩
  | call c =>
    cases c with
    | isSupportAuthentication | authentication | pullUpDlliteService => cases h
    | scheduling id =>
      obtain ⟨-, h⟩ := Option.ite_none_right_eq_some.mp h
      obtain ⟨hids, hreports, hrequests⟩ := move_counted h
      exact ⟨hids, hreports, hrequests⟩
    | setHiaiModelCallBack =>
      obtain ⟨-, h⟩ := Option.ite_none_right_eq_some.mp h
      obtain ⟨hids, hreports, hrequests⟩ := move_counted h
      exact ⟨hids.trans (List.append_nil _).symm, hreports, hrequests⟩
    | addSessionId =>
      obtain ⟨-, h⟩ := Option.ite_none_left_eq_some.mp h
      obtain ⟨hids, hreports, hrequests⟩ := move_counted h
      exact ⟨hids.trans (List.append_nil _).symm, hreports, hrequests⟩
    | autoReinitScheduling =>
      obtain ⟨-, h⟩ := Option.ite_none_right_eq_some.mp h
      obtain ⟨hids, hreports, hrequests⟩ := move_counted h
      refine ⟨hids.trans (List.append_nil _).symm, hreports, hrequests.trans ?_⟩
      dsimp only
      rw [List.countP_singleton]
      simp [isRequest]
    | setModelID | updateModelLatency | unload =>
      obtain ⟨hids, hreports, hrequests⟩ := move_counted h
      exact ⟨hids, hreports, hrequests⟩
    | isSupportScheduling | setDeinitModelCallBack | autoReinitSetModelID | autoUnload
    | unSetDeinitModelCallBack | unSetHiaiModelCallBack =>
      obtain ⟨hids, hreports, hrequests⟩ := move_counted h
      exact ⟨hids.trans (List.append_nil _).symm, hreports, hrequests⟩

/-- A session counts what was said. -/
theorem reads_counted {said : List ServiceExchange} (h : reads nextOf q said = some q') :
    Counted q said q' := by
  induction said generalizing q with
  | nil =>
    cases h
    exact ⟨(List.append_nil _).symm, rfl, rfl⟩
  | cons e said ih =>
    obtain ⟨q₁, hfirst, hrest⟩ := Option.bind_eq_some_iff.mp h
    have hfirst := next_counted hfirst
    have hrest := ih hrest
    refine ⟨?_, ?_, ?_⟩
    · rw [hrest.ids, hfirst.ids, List.append_assoc, ← List.filterMap_append]
      rfl
    · rw [hrest.reports, hfirst.reports, Nat.add_assoc, ← List.countP_append]
      rfl
    · rw [hrest.requests, hfirst.requests, Nat.add_assoc, ← List.countP_append]
      rfl

end ServiceSession

namespace ServiceSystem

variable {s s' : ServiceSystem} {events : List (EventEnv × ServiceEvent)}

/-! ## Any service -/

/-- **The protocol**: whatever the service answers and in whatever order things happen, it
accepts what it hears from an executor. -/
theorem said_accepted (h : Run.exec step {} events = .ok s) (i : Nat) :
    ∃ q, reads ServiceSession.nextOf {} (s.saidBy i) = some q := by
  obtain ⟨q, hreads, -⟩ := run_kept (fun event _ => relies_nothing event) h i
  exact ⟨q, hreads⟩

/-- A service that knows everything, and asks for the latency of the first run. -/
def helpfulService : ServiceParty := fun _ req =>
  match req with
  | .dlopen => true
  | .dlsym => fun _ => true
  | .call c =>
    match c with
    | .isSupportAuthentication | .isSupportScheduling | .scheduling _ _ _ _ => (.success, true)
    | .autoReinitScheduling _ _ _ => (.success, none)
    | .pullUpDlliteService => true
    | .setModelID _ _ | .authentication | .updateModelLatency _ _ | .unload _
    | .autoReinitSetModelID _ _ _ | .autoUnload _ _ _ | .setDeinitModelCallBack _ _
    | .unSetDeinitModelCallBack _ | .addSessionId _ _ | .setHiaiModelCallBack _ _ _ _
    | .unSetHiaiModelCallBack _ => ReturnCode.success

/-- A model is built, run once, unloaded by the service and destroyed. -/
def oneModel : List (EventEnv × ServiceEvent) :=
  let env (executor : ExecutorEnv) : EventEnv :=
    { env := { executor := executor, modelID := (.success, some 42) }, party := helpfulService }
  [(env {}, .compilation { nnModel := true }),
    (env {}, .build 0 (.ok 8) fun isExceedRamLimit =>
      some ({ smallCompiler [2] with extensionConfig.isExceedRamLimit := isExceedRamLimit }, 7)),
    (env {}, .construct 0 true true 5),
    (env {}, .user NNExecutor.twoTensors),
    (env (NNExecutor.reports [2]), .runSync 0 NNExecutor.noReload { timeEnd := 3 } [some 0] [some 1]),
    (env {}, .latencyThread 0),
    (env { hasCache := true }, .deinitModel 0 "FrozenDeinit"),
    (env {}, .destroy 0 true)]

/-- The model is named, scheduled, measured and unloaded. -/
theorem said_accepted_oneModel : ∃ s, Run.exec step {} oneModel = .ok s ∧
    (s.saidBy 0).filterMap ServiceSession.idOf = [42, 42, 42, 42] ∧
    ∃ q, reads ServiceSession.nextOf {} (s.saidBy 0) = some q :=
  ⟨_, rfl, rfl, @said_accepted _ oneModel rfl 0⟩

/-- **Null functions**: the one that may be called is `PullUpDlliteService`, in a build, and there
the run ends. -/
theorem nullFunction_build {f : ServiceFunction}
    (h : Run.exec step {} events = .error (.nullFunction f)) :
    f = .pullUpDlliteService ∧ ∃ before env k compilerSize built after t,
      events = before ++ (env, .build k compilerSize built) :: after ∧
      Run.exec step {} before = .ok t ∧
      t.step (env, .build k compilerSize built) = .error (.nullFunction .pullUpDlliteService) := by
  obtain ⟨before, event, after, t, rfl, hbefore, hstep⟩ := Run.exec_eq_error h
  have hfails := step_safe (run_kept (fun event _ => relies_nothing event) hbefore)
    (relies_nothing event)
  rw [hstep] at hfails
  obtain ⟨env, event⟩ := event
  cases hfails with
  | build k compilerSize built =>
    exact ⟨rfl, before, env, k, compilerSize, built, after, t, rfl, hbefore, hstep⟩

/-- A library without the last function. -/
def oldLibrary : ServiceParty := fun said req =>
  match req with
  | .dlsym => fun f => f ≠ .pullUpDlliteService
  | .dlopen => helpfulService said .dlopen
  | .call c => helpfulService said (.call c)

/-- Two compilations, of which the second is built. -/
theorem nullFunction_build_old :
    let party := oldLibrary
    let events : List (EventEnv × ServiceEvent) :=
      [({ party := party }, .compilation { nnModel := true }),
        ({ party := party }, .compilation { nnModel := true }),
        ({ party := party }, .build 1 (.ok 8) fun _ => none)]
    Run.exec step {} events = .error (.nullFunction .pullUpDlliteService) ∧
    ServiceFunction.pullUpDlliteService = .pullUpDlliteService ∧
      ∃ before env k compilerSize built after t,
        events = before ++ (env, .build k compilerSize built) :: after ∧
        Run.exec step {} before = .ok t ∧
        t.step (env, .build k compilerSize built) = .error (.nullFunction .pullUpDlliteService) := by
  intro party events
  exact ⟨rfl, @nullFunction_build events .pullUpDlliteService rfl⟩

/-- What the sessions of the living and of the others have in common. -/
theorem kept_ids {p : Promises} {i : Nat} (h : Kept p s i) :
    ∃ q, reads ServiceSession.nextOf {} (s.saidBy i) = some q ∧ IdsAgree q ∧
      q.reports + s.pending i ≤ 1 + q.requests := by
  obtain ⟨q, hreads, -, hsession⟩ := h
  refine ⟨q, hreads, ?_⟩
  cases hexecutor : s.executors[i]? with
  | none =>
    rw [hexecutor] at hsession
    obtain ⟨rfl, hnone⟩ := hsession
    rw [hnone]
    exact ⟨nofun, Nat.zero_le _⟩
  | some executor =>
    rw [hexecutor] at hsession
    cases executor with
    | none => exact ⟨hsession.ids, hsession.latency⟩
    | some e => exact ⟨hsession.ids.agree, (Nat.le_add_right _ _).trans hsession.latency⟩

/-- **One id**: an executor names, schedules, measures and unloads its model under the same
id, as long as ids are small enough for the numeral in its configuration. -/
theorem ids_same (h : Run.exec step {} events = .ok s) (i : Nat) :
    ∀ a ∈ (s.saidBy i).filterMap ServiceSession.idOf,
      ∀ b ∈ (s.saidBy i).filterMap ServiceSession.idOf,
        a.toNat < 2 ^ 31 → b.toNat < 2 ^ 31 → a = b := by
  obtain ⟨q, hreads, hids, -⟩ := kept_ids (run_kept (fun event _ => relies_nothing event) h i)
  have hcounted := (ServiceSession.reads_counted hreads).ids
  rw [List.nil_append] at hcounted
  rw [← hcounted]
  exact hids

theorem ids_same_oneModel : ∃ s, Run.exec step {} oneModel = .ok s ∧
    (s.saidBy 0).filterMap ServiceSession.idOf = [42, 42, 42, 42] ∧
    ∀ a ∈ (s.saidBy 0).filterMap ServiceSession.idOf,
      ∀ b ∈ (s.saidBy 0).filterMap ServiceSession.idOf,
        a.toNat < 2 ^ 31 → b.toNat < 2 ^ 31 → a = b :=
  ⟨_, rfl, rfl, @ids_same _ oneModel rfl 0⟩

/-- **Latencies**: those that were reported and those that threads are to report are as many as
were asked for, the question of the first schedule included. -/
theorem latencies_asked_for (h : Run.exec step {} events = .ok s) (i : Nat) :
    (s.saidBy i).countP ServiceSession.isReport + s.pending i
      ≤ 1 + (s.saidBy i).countP ServiceSession.isRequest := by
  obtain ⟨q, hreads, -, hlatency⟩ := kept_ids (run_kept (fun event _ => relies_nothing event) h i)
  have hcounted := ServiceSession.reads_counted hreads
  rw [hcounted.reports, hcounted.requests, Nat.zero_add, Nat.zero_add] at hlatency
  exact hlatency

theorem latencies_asked_for_oneModel : ∃ s, Run.exec step {} oneModel = .ok s ∧
    (s.saidBy 0).countP ServiceSession.isReport = 1 ∧
    (s.saidBy 0).countP ServiceSession.isReport + s.pending 0
      ≤ 1 + (s.saidBy 0).countP ServiceSession.isRequest :=
  ⟨_, rfl, rfl, @latencies_asked_for _ oneModel rfl 0⟩

/-! ## A service that lets go -/

theorem helpfulService_relied (p : Promises) (said : List ServiceExchange) (req : ServiceRequest) :
    Relied p req (helpfulService said req) := by
  cases req with
  | dlopen => trivial
  | dlsym => exact ⟨fun _ _ => rfl, fun _ _ => rfl, fun _ _ => rfl⟩
  | call c =>
    cases c with
    | unSetDeinitModelCallBack => exact fun _ => rfl
    | unSetHiaiModelCallBack => exact fun _ => rfl
    | unload => exact fun _ => rfl
    | _ => trivial

theorem oneModel_party : ∀ event ∈ oneModel, event.1.party = helpfulService := by
  simp [oneModel]

theorem oneModel_config : ∀ event ∈ oneModel, event.1.env.executor.createConfig = true := by
  decide

theorem oneModel_relied (p : Promises) :
    ∀ event ∈ oneModel, ∀ said req, Relied p req (event.1.party said req) := by
  intro event hevent said req
  rw [oneModel_party event hevent]
  exact helpfulService_relied p said req

/-- The service has a callback of the executor. -/
def Registered (s : ServiceSystem) (i : Nat) : Prop :=
  ∃ q, reads ServiceSession.nextOf {} (s.saidBy i) = some q ∧
    (q.deinitCallBack = true ∨ q.hiaiCallBack = true)

/-- The service calls those back it has a callback of. -/
def CallsBack (s : ServiceSystem) (event : EventEnv × ServiceEvent) : Prop :=
  ∀ i mode, event.2 = .deinitModel i mode → s.Registered i

/-- Callbacks are those of executors that live. -/
theorem Registered.alive {i : Nat} (h : s.Registered i) (hkept : Kept .callBacksBack s i) :
    (s.executor? i).isSome = true := by
  obtain ⟨q, hreads, hregistered⟩ := h
  obtain ⟨q', hreads', -, hsession⟩ := hkept
  rw [hreads] at hreads'
  cases hreads'
  have hnone : ¬ (q.deinitCallBack = false ∧ q.hiaiCallBack = false) := by
    rintro ⟨hdeinit, hhiai⟩
    rw [hdeinit, hhiai] at hregistered
    exact hregistered.elim nofun nofun
  cases hexecutor : s.executors[i]? with
  | none =>
    rw [hexecutor] at hsession
    obtain ⟨rfl, -⟩ := hsession
    exact absurd ⟨rfl, rfl⟩ hnone
  | some executor =>
    rw [hexecutor] at hsession
    cases executor with
    | none => exact absurd (hsession.callbacks trivial) hnone
    | some e =>
      unfold executor?
      rw [hexecutor]
      rfl

/-- **Callbacks**: no executor that is gone is called. -/
theorem callBacks_alive
    (hservice : ∀ event ∈ events, ∀ said req, Relied .callBacksBack req (event.1.party said req))
    (hcalls : Run.Meets step CallsBack {} events) :
    Run.exec step {} events ≠ .error .freedExecutor := by
  intro h
  have hrelies : ∀ event ∈ events, Relies .callBacksBack event :=
    fun event hevent => ⟨hservice event hevent, False.elim⟩
  obtain ⟨before, event, after, t, rfl, hbefore, hstep⟩ := Run.exec_eq_error h
  have hbelow : ∀ event ∈ before, Relies .callBacksBack event :=
    fun event hevent => hrelies event (List.mem_append_left _ hevent)
  have hkept := run_kept hbelow hbefore
  have hfails := step_safe hkept
    (hrelies event (List.mem_append_right _ List.mem_cons_self))
  rw [hstep] at hfails
  obtain ⟨env, event⟩ := event
  cases hfails with
  | @deinitModel i mode hgone =>
    have halive := ((hcalls.of_append hbefore).2 i mode rfl).alive (hkept i)
    rw [hgone] at halive
    cases halive

theorem callBacks_alive_oneModel : Run.exec step {} oneModel ≠ .error .freedExecutor := by
  -- The service knows the executor when it has it unloaded.
  have hknown : ∀ s q, reads ServiceSession.nextOf {} (s.saidBy 0) = some q →
      q.deinitCallBack = true → CallsBack s
        ({ env := { executor := { hasCache := true }, modelID := (.success, some 42) },
           party := helpfulService }, .deinitModel 0 "FrozenDeinit") := by
    intro s q hreads hdeinit i mode hevent
    cases hevent
    exact ⟨q, hreads, Or.inl hdeinit⟩
  refine callBacks_alive (oneModel_relied _) ?_
  exact .cons rfl nofun <| .cons rfl nofun <| .cons rfl nofun <| .cons rfl nofun <|
    .cons rfl nofun <| .cons rfl nofun <| .cons rfl (hknown _ _ rfl rfl) <| .cons rfl nofun trivial

/-! ## Threads that outlive their executor -/

/-- The executor of the thread that gets to run, if one does. -/
def reporter (s : ServiceSystem) : ServiceEvent → Option Nat
  | .latencyThread k => s.threads[k]?.map Prod.fst
  | _ => none

/-- What an event does to the executors and the threads. -/
inductive Moved (s : ServiceSystem) (event : ServiceEvent) (s' : ServiceSystem) : Prop
  | same (hreporter : s.reporter event = none) (hexecutors : s'.executors = s.executors)
    (hthreads : s'.threads = s.threads)
  | constructed (hreporter : s.reporter event = none) (e : Option ServedExecutor)
    (hexecutors : s'.executors = s.executors ++ [e]) (hthreads : s'.threads = s.threads)
  | replaced (hreporter : s.reporter event = none) {i : Nat} {e : ServedExecutor}
    (he : s.executor? i = some e) (e' : ServedExecutor) (started : List (Nat × Int32))
    (hstarted : ∀ thread ∈ started, thread.1 = i)
    (hexecutors : s'.executors = s.executors.set i (some e'))
    (hthreads : s'.threads = s.threads ++ started)
  | reported {k i : Nat} {latency : Int32} (hevent : event = .latencyThread k)
    (hthread : s.threads[k]? = some (i, latency))
    (hexecutors : s'.executors = s.executors) (hthreads : s'.threads = s.threads.eraseIdx k)
  | destroyed {i : Nat} {e : ServedExecutor} (hevent : event = .destroy i true)
    (he : s.executor? i = some e) (hexecutors : s'.executors = s.executors.set i none)
    (hthreads : s'.threads = s.threads)

theorem ask_eq_ok {α : Type} {owner : Option Nat} {party : ServiceParty} {m : ServiceM α}
    {next : α → ServiceSystem → ServiceSystem} (h : s.ask owner party m next = .ok s') :
    ∃ a api said, s' = next a { s with api := api, said := said } := by
  unfold ask at h
  split at h
  · cases h
  · rename_i said a api hrun
    cases h
    exact ⟨a, api, _, rfl⟩

theorem ask_eq_error {α : Type} {owner : Option Nat} {party : ServiceParty} {m : ServiceM α}
    {next : α → ServiceSystem → ServiceSystem} {fault : ServiceFault}
    (h : (m.run party s.api).2 = .error fault) : s.ask owner party m next = .error fault := by
  unfold ask
  split
  · rename_i hrun
    rw [hrun] at h
    exact congrArg Except.error (Except.error.inj h)
  · rename_i hrun
    rw [hrun] at h
    cases h

/-- A run of an executor leaves it and, if there is a latency, a thread more. -/
theorem moved_afterRun {event : ServiceEvent} {i : Nat} {e : ServedExecutor} {party : ServiceParty}
    {m : ServiceM (ReturnCode × ServedExecutor × World × Option Int32)}
    (hreporter : s.reporter event = none) (he : s.executor? i = some e)
    (h : s.ask (some i) party m (afterRun i) = .ok s') : Moved s event s' := by
  obtain ⟨a, api, said, rfl⟩ := ask_eq_ok h
  refine .replaced hreporter he a.2.1 _ (fun thread hthread => ?_) rfl rfl
  obtain ⟨latency, -, rfl⟩ := Option.map_eq_some_iff.mp (Option.mem_toList.mp hthread)
  rfl

theorem moved_construct {env : EventEnv} {k : Nat} {backend created : Bool} {executorid : UInt64}
    (h : s.step (env, .construct k backend created executorid) = .ok s') :
    Moved s (.construct k backend created executorid) s' := by
  unfold step at h
  dsimp only at h
  split at h
  · cases h
    exact .same rfl rfl rfl
  split at h
  · cases h
    exact .same rfl rfl rfl
  · obtain ⟨a, api, said, rfl⟩ := ask_eq_ok h
    exact .constructed rfl a.1 rfl rfl

theorem moved_call {env : EventEnv} {i : Nat} {c : { c : ExecutorCall // c.isLocal }}
    (h : s.step (env, .call i c) = .ok s') : Moved s (.call i c) s' := by
  unfold step at h
  dsimp only at h
  split at h
  · cases h
    exact .same rfl rfl rfl
  rename_i e he
  split at h
  · cases h
  · cases h
    exact .replaced rfl he _ [] nofun rfl (List.append_nil _).symm

theorem moved_latencyThread {env : EventEnv} {k : Nat}
    (h : s.step (env, .latencyThread k) = .ok s') : Moved s (.latencyThread k) s' := by
  unfold step at h
  dsimp only at h
  split at h
  · rename_i hnone
    cases h
    exact .same (congrArg (Option.map Prod.fst) hnone) rfl rfl
  · rename_i i latency hthread
    obtain ⟨a, api, said, rfl⟩ := ask_eq_ok h
    exact .reported rfl hthread rfl rfl

theorem moved_destroy {env : EventEnv} {i : Nat} {backend : Bool}
    (h : s.step (env, .destroy i backend) = .ok s') : Moved s (.destroy i backend) s' := by
  unfold step at h
  dsimp only at h
  split at h
  · cases h
    exact .same rfl rfl rfl
  rename_i e he
  split at h
  · cases h
    exact .same rfl rfl rfl
  · rename_i hbackend
    obtain ⟨a, api, said, rfl⟩ := ask_eq_ok h
    rw [Bool.not_eq_true', Bool.not_eq_false] at hbackend
    exact .destroyed (congrArg _ hbackend) he rfl rfl

theorem step_moved {event : EventEnv × ServiceEvent} (h : s.step event = .ok s') :
    Moved s event.2 s' := by
  obtain ⟨env, event⟩ := event
  cases event with
  | user w =>
    cases h
    exact .same rfl rfl rfl
  | compilation c =>
    cases h
    exact .same rfl rfl rfl
  | build k compilerSize built =>
    unfold step at h
    dsimp only at h
    split at h
    · cases h
      exact .same rfl rfl rfl
    · obtain ⟨a, api, said, rfl⟩ := ask_eq_ok h
      exact .same rfl rfl rfl
  | construct => exact moved_construct h
  | runSync i | runSyncWithAipp i =>
    unfold step at h
    dsimp only at h
    split at h
    · cases h
      exact .same rfl rfl rfl
    · rename_i e he
      exact moved_afterRun rfl he h
  | call => exact moved_call h
  | deinitModel i =>
    unfold step at h
    dsimp only at h
    split at h
    · cases h
    · rename_i e he
      obtain ⟨a, api, said, rfl⟩ := ask_eq_ok h
      exact .replaced rfl he a.2 [] nofun rfl (List.append_nil _).symm
  | autoUnload i =>
    unfold step at h
    dsimp only at h
    split at h
    · cases h
      exact .same rfl rfl rfl
    · rename_i e he
      obtain ⟨a, api, said, rfl⟩ := ask_eq_ok h
      exact .replaced rfl he a [] nofun rfl (List.append_nil _).symm
  | latencyThread => exact moved_latencyThread h
  | destroy => exact moved_destroy h

/-- What the end of an executor does. -/
theorem step_destroy {env : EventEnv} {i : Nat} {e : ServedExecutor} (he : s.executor? i = some e)
    (h : s.step (env, .destroy i true) = .ok s') :
    s'.executors = s.executors.set i none ∧ s'.threads = s.threads := by
  unfold step at h
  dsimp only at h
  rw [he] at h
  simp only [Bool.not_true, Bool.false_eq_true, if_false] at h
  obtain ⟨a, api, said, rfl⟩ := ask_eq_ok h
  exact ⟨rfl, rfl⟩

theorem executor?_set_none {i : Nat} (h : s'.executors = s.executors.set i none) :
    s'.executor? i = none := by
  unfold executor?
  rw [h, List.getElem?_set]
  split
  · split <;> rfl
  · rename_i hne
    exact absurd rfl hne

/-- An executor that lives goes on to live, unless it is the one that is destroyed. -/
theorem executor?_set_of_ne {i j : Nat} {e : Option ServedExecutor} (hne : i ≠ j)
    (h : s'.executors = s.executors.set i e) : s'.executor? j = s.executor? j := by
  unfold executor?
  rw [h, List.getElem?_set_ne hne]

theorem executor?_append {j : Nat} {e : Option ServedExecutor} (hj : j < s.executors.length)
    (h : s'.executors = s.executors ++ [e]) : s'.executor? j = s.executor? j := by
  unfold executor?
  rw [h, List.getElem?_append_left hj]

theorem lt_of_executor? {i : Nat} {e : ServedExecutor} (h : s.executor? i = some e) :
    i < s.executors.length :=
  (List.getElem?_eq_some_iff.mp (executors_of_executor? h)).1

/-- The threads that a run starts are its own executor's. -/
theorem pending_started {i j : Nat} {started : List (Nat × Int32)}
    (hstarted : ∀ thread ∈ started, thread.1 = i) (hne : i ≠ j)
    (h : s'.threads = s.threads ++ started) : s'.pending j = s.pending j := by
  have hnone : started.countP (fun thread => thread.1 = j) = 0 :=
    List.countP_eq_zero.mpr fun thread hthread heq =>
      hne ((hstarted thread hthread).symm.trans (of_decide_eq_true heq))
  unfold pending
  rw [h, List.countP_append, hnone, Nat.add_zero]

/-- **One event** leaves an executor that is gone where it is, and the threads of it are one less
if it is one of them that runs. -/
theorem step_gone {event : EventEnv × ServiceEvent} {i : Nat}
    (hgone : i < s.executors.length ∧ s.executor? i = none) (h : s.step event = .ok s') :
    (i < s'.executors.length ∧ s'.executor? i = none) ∧
      s.pending i = s'.pending i + if s.reporter event.2 = some i then 1 else 0 := by
  obtain ⟨hlt, hnone⟩ := hgone
  have hquiet : s.reporter event.2 = none → s'.pending i = s.pending i →
      s.pending i = s'.pending i + if s.reporter event.2 = some i then 1 else 0 := by
    intro hreporter hpending
    rw [hreporter, if_neg nofun, hpending, Nat.add_zero]
  cases step_moved h with
  | same hreporter hexecutors hthreads =>
    refine ⟨?_, hquiet hreporter (pending_congr hthreads i)⟩
    unfold executor?
    rw [hexecutors]
    exact ⟨hlt, hnone⟩
  | constructed hreporter e hexecutors hthreads =>
    refine ⟨?_, hquiet hreporter (pending_congr hthreads i)⟩
    rw [executor?_append hlt hexecutors, hexecutors, List.length_append]
    exact ⟨Nat.lt_add_right _ hlt, hnone⟩
  | @replaced hreporter j e he e' started hstarted hexecutors hthreads =>
    have hne : j ≠ i := by
      rintro rfl
      rw [hnone] at he
      cases he
    refine ⟨?_, hquiet hreporter (pending_started hstarted hne hthreads)⟩
    rw [executor?_set_of_ne hne hexecutors, hexecutors, List.length_set]
    exact ⟨hlt, hnone⟩
  | @reported k j latency hevent hthread hexecutors hthreads =>
    refine ⟨?_, ?_⟩
    · unfold executor?
      rw [hexecutors]
      exact ⟨hlt, hnone⟩
    · rw [hevent, reporter, hthread, pending_eraseIdx hthread i]
      refine congrArg₂ _ (pending_congr hthreads i).symm ?_
      simp only [Option.map_some, Option.some.injEq]
  | @destroyed j e hevent he hexecutors hthreads =>
    have hne : j ≠ i := by
      rintro rfl
      rw [hnone] at he
      cases he
    refine ⟨?_, hquiet (hevent ▸ rfl) (pending_congr hthreads i)⟩
    rw [executor?_set_of_ne hne hexecutors, hexecutors, List.length_set]
    exact ⟨hlt, hnone⟩

/-- There are no threads of an executor that is still to come, and no event starts one. -/
theorem step_unborn {p : Promises} {event : EventEnv × ServiceEvent} {i : Nat}
    (hkept : Kept p s i) (hge : s.executors.length ≤ i) (h : s.step event = .ok s') :
    s'.pending i = 0 := by
  have hnew : s.pending i = 0 := by
    obtain ⟨q, -, -, hsession⟩ := hkept
    rw [List.getElem?_eq_none hge] at hsession
    exact hsession.2
  cases step_moved h with
  | same hreporter hexecutors hthreads => exact (pending_congr hthreads i).trans hnew
  | constructed hreporter e hexecutors hthreads => exact (pending_congr hthreads i).trans hnew
  | replaced hreporter he e' started hstarted hexecutors hthreads =>
    have hne := Nat.ne_of_lt (Nat.lt_of_lt_of_le (lt_of_executor? he) hge)
    exact (pending_started hstarted hne hthreads).trans hnew
  | @reported k j latency hevent hthread hexecutors hthreads =>
    have hless := pending_eraseIdx hthread i
    rw [← pending_congr (s := { s with threads := s.threads.eraseIdx k }) hthreads i] at hless
    omega
  | destroyed hevent he hexecutors hthreads => exact (pending_congr hthreads i).trans hnew

/-- An executor that lives is gone only once it is destroyed. -/
theorem step_lost {event : EventEnv × ServiceEvent} {i : Nat} {e : ServedExecutor}
    (he : s.executor? i = some e) (h : s.step event = .ok s') (hgone : s'.executor? i = none) :
    event.2 = .destroy i true := by
  have hsame : s'.executor? i ≠ s.executor? i := by
    rw [hgone, he]
    nofun
  cases step_moved h with
  | same hreporter hexecutors hthreads =>
    refine absurd ?_ hsame
    unfold executor?
    rw [hexecutors]
  | constructed hreporter e' hexecutors hthreads =>
    exact absurd (executor?_append (lt_of_executor? he) hexecutors) hsame
  | @replaced hreporter j e₀ he₀ e' started hstarted hexecutors hthreads =>
    by_cases hne : j = i
    · subst hne
      have hself := setExecutor_self (executors_of_executor? he) (some e')
      change (s.executors.set j (some e'))[j]? = _ at hself
      unfold executor? at hgone
      rw [hexecutors, hself] at hgone
      cases hgone
    · exact absurd (executor?_set_of_ne hne hexecutors) hsame
  | reported hevent hthread hexecutors hthreads =>
    refine absurd ?_ hsame
    unfold executor?
    rw [hexecutors]
  | @destroyed j e₀ hevent he₀ hexecutors hthreads =>
    by_cases hne : j = i
    · rw [hevent, hne]
    · exact absurd (executor?_set_of_ne hne hexecutors) hsame

/-- An executor is gone, and a thread of it has still to report. -/
def Orphans (s : ServiceSystem) (i : Nat) : Prop :=
  s.executor? i = none ∧ 0 < s.pending i

/-- **One event** leaves threads without their executor only by destroying it. -/
theorem step_orphans {p : Promises} {event : EventEnv × ServiceEvent} {i : Nat}
    (hkept : Kept p s i) (h : s.step event = .ok s') (hnot : ¬ s.Orphans i)
    (horphans : s'.Orphans i) :
    event.2 = .destroy i true ∧ (s.executor? i).isSome = true := by
  obtain ⟨hgone, hpending⟩ := horphans
  rcases Nat.lt_or_ge i s.executors.length with hlt | hge
  · cases he : s.executor? i with
    | none =>
      -- It was gone before, and so were the threads.
      obtain ⟨-, hfewer⟩ := step_gone ⟨hlt, he⟩ h
      exact absurd ⟨he, by omega⟩ hnot
    | some e => exact ⟨step_lost he h hgone, rfl⟩
  · exact absurd (step_unborn hkept hge h) (Nat.ne_of_gt hpending)

/-- The client of a library that has everything. -/
theorem obeys_getInstance_helpful {fail : ServiceFault → Prop} (api : NNRtServiceApi) :
    Asking.Obeys (fun _ req ans => ans = helpfulService [] req) (fun (_ : Unit) _ => some ()) fail
      (fun client _ _ => client.serviceAvailable = true ∧ ∀ f, client.functions f = true)
      NNRtServiceApi.getInstance api () := by
  unfold NNRtServiceApi.getInstance
  simp only [Asking.obeys_bind, Asking.obeys_get]
  split
  · rintro found rfl
    exact ⟨(), rfl, rfl, fun f => Bool.or_true _⟩
  · rintro opened rfl
    refine ⟨(), rfl, ?_⟩
    rintro found rfl
    exact ⟨(), rfl, rfl, fun f => Bool.or_true _⟩

/-- With such a library, a thread that has lost its executor reads what is freed. -/
theorem updateModelLatency_freed (api : NNRtServiceApi) (modelLatency : Int32) :
    ((ServedExecutor.updateModelLatency (ServedExecutor.configPtr none) modelLatency).run
      helpfulService api).2 = .error .freedConfig := by
  have hobeys : Asking.Obeys (fun _ req ans => ans = helpfulService [] req)
      (fun (_ : Unit) _ => some ()) (fun fault => fault = .freedConfig) (fun _ _ _ => False)
      (ServedExecutor.updateModelLatency (ServedExecutor.configPtr none) modelLatency) api () := by
    refine (obeys_getInstance_helpful api).bind fun client api' q hclient => ?_
    rw [hclient.1, hclient.2]
    exact rfl
  have hparty : Dialogue.Reliable (fun _ req ans => ans = helpfulService [] req)
      (fun (_ : Unit) _ => some ()) () helpfulService := fun _ _ _ _ => rfl
  obtain ⟨_, -, hend⟩ := hobeys.run hparty
  cases hrun : ((ServedExecutor.updateModelLatency (ServedExecutor.configPtr none) modelLatency).run
      helpfulService api).2 with
  | error fault =>
    rw [hrun] at hend
    exact congrArg Except.error hend
  | ok result =>
    rw [hrun] at hend
    exact hend.elim

/-- A thread that has lost its executor can come to read what is freed, and nothing else can. -/
theorem freedConfig_iff_orphans (hkept : ∀ i, Kept .nothing s i) :
    (∃ event, s.step event = .error .freedConfig) ↔ ∃ i, s.Orphans i := by
  constructor
  · rintro ⟨⟨env, event⟩, hstep⟩
    have hfails := step_safe hkept (relies_nothing (env, event))
    rw [hstep] at hfails
    cases hfails with
    | @latencyThread k i latency hthread hgone =>
      refine ⟨i, hgone, List.countP_pos_iff.mpr ?_⟩
      exact ⟨_, List.mem_of_getElem? hthread, decide_eq_true rfl⟩
  · rintro ⟨i, hgone, hpending⟩
    obtain ⟨⟨j, latency⟩, hthread, hj⟩ := List.countP_pos_iff.mp hpending
    obtain rfl := of_decide_eq_true hj
    obtain ⟨k, hk⟩ := List.mem_iff_getElem?.mp hthread
    refine ⟨({ party := helpfulService }, .latencyThread k), ?_⟩
    unfold step
    dsimp only
    rw [hk]
    dsimp only
    rw [hgone]
    exact ask_eq_error (updateModelLatency_freed s.api latency)

end ServiceSystem

end NNRt
