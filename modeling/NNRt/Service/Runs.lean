import NNRt.Service.Running

/-!
# Sessions in every interleaving

The events of a process come in any order, and what the executors say to the service
is mixed. What one of them has said is accepted all the same, and its session follows
it from its construction to its end.

- `Kept`: what holds of one executor.
- `step_kept` / `run_kept`: **every event keeps it of every executor**.
-/

namespace NNRt

open Dialogue (reads)
open NNRtServiceApi (getInstance)

/-! ## Builds -/

/-- A build leaves a client that has grown; it may call one function that is null. -/
def Builds {α : Type} (p : Promises) (m : ServiceM α) (api : NNRtServiceApi) : Prop :=
  Asking.Obeys (fun _ => Relied p) (fun (_ : Unit) _ => some ())
    (fun fault => (∃ f, fault = .fault f) ∨ fault = .nullFunction .pullUpDlliteService)
    (fun _ api' _ => Grown p api api') m api ()

section Builds

variable {α β : Type} {p : Promises} {api : NNRtServiceApi} {m : ServiceM α} {f : α → ServiceM β}

theorem builds_pure {a : α} (hapi : Grown p api api) : Builds p (pure a : ServiceM α) api :=
  hapi

theorem Builds.bind (hm : Builds p m api) (hf : ∀ a api', Grown p api' api' → Builds p (f a) api') :
    Builds p (m >>= f) api := by
  refine Asking.Obeys.bind hm fun a api' _ hgrown => ?_
  refine Asking.Obeys.mono (fun _ => id) (fun _ _ _ => hgrown.trans) (hf a api' ?_)
  exact ⟨.refl api', hgrown.consistent, hgrown.paired⟩

theorem builds_liftFault {x : Except Fault α} (hapi : Grown p api api) :
    Builds p (ServiceM.liftFault x) api := by
  cases x with
  | error fault => exact Or.inl ⟨fault, rfl⟩
  | ok a => exact hapi

theorem builds_getInstance {f : NNRtServiceApi → ServiceM β} (hapi : Grown p api api)
    (hf : ∀ api', Grown p api' api' → Builds p (f api') api') :
    Builds p (getInstance >>= f) api := by
  refine Asking.Obeys.bind (obeys_getInstance (fun _ => rfl) (fun _ => rfl) hapi.consistent
    hapi.paired) fun client api' _ h => ?_
  obtain ⟨rfl, -, hready⟩ := h
  refine Asking.Obeys.mono (fun _ => id) (fun _ _ _ => hready.toGrown.trans) (hf client ?_)
  exact ⟨.refl client, hready.consistent, hready.paired⟩

/-- A call of a function that is there, or of the one that may be missing. -/
theorem builds_call {c : ServiceCall} {f : c.Answer → ServiceM β}
    (hfound : api.functions c.function = false → c.function = .pullUpDlliteService)
    (hf : ∀ ans, Builds p (f ans) api) : Builds p (api.call c >>= f) api := by
  unfold NNRtServiceApi.call
  split
  · exact Asking.obeys_bind.mpr fun ans _ => ⟨(), rfl, hf ans⟩
  · rename_i hnone
    exact Asking.obeys_bind.mpr
      (Or.inr (congrArg ServiceFault.nullFunction (hfound (Bool.eq_false_iff.mpr hnone))))

namespace ServedCompilation

variable {c : ServedCompilation} {compilerSize : Except Fault UInt64} {isExceedRamLimit : Bool}

theorem builds_authenticateModel (hapi : Grown p api api) :
    Builds p (c.authenticateModel compilerSize isExceedRamLimit) api := by
  unfold authenticateModel
  refine (builds_liftFault hapi).bind fun out api hapi => ?_
  obtain ⟨retCode, sized, isExceedRamLimit⟩ := out
  dsimp only
  split
  · exact builds_pure hapi
  split
  · exact builds_pure hapi
  refine builds_getInstance hapi fun api hapi => ?_
  split
  · exact builds_pure hapi
  split
  · exact builds_pure hapi
  rename_i hsupport
  rw [Bool.not_eq_true', Bool.not_eq_false] at hsupport
  refine builds_call (fun hno => absurd hsupport (Bool.eq_false_iff.mp hno)) fun ans => ?_
  obtain ⟨ret, supportStat⟩ := ans
  dsimp only
  split
  · exact builds_pure hapi
  split
  · exact builds_pure hapi
  split
  · exact builds_pure hapi
  rename_i hfound
  rw [Bool.not_eq_true', Bool.not_eq_false] at hfound
  exact builds_call (fun hno => absurd hfound (Bool.eq_false_iff.mp hno)) fun ret =>
    builds_pure hapi

/-- **`OH_NNCompilation_Build`** calls no null function but the one it does not look at. -/
theorem builds_buildService (hapi : Grown p api api) :
    Builds p (c.buildService compilerSize) api := by
  unfold buildService
  refine Builds.bind ?_ fun out api hapi => ?_
  · unfold authentication
    refine builds_getInstance hapi fun api hapi => ?_
    split
    · exact builds_pure hapi
    · exact builds_authenticateModel hapi
  obtain ⟨ret, c', isExceedRamLimit⟩ := out
  dsimp only
  split
  · exact builds_pure hapi
  refine builds_getInstance hapi fun api hapi => ?_
  split
  · exact builds_call (fun _ => rfl) fun ans => builds_pure hapi
  · exact builds_pure hapi

end ServedCompilation

end Builds

namespace ServiceSystem

variable {p : Promises} {s s' : ServiceSystem} {i j n : Nat}

/-! ## One executor -/

/-- How many threads are to report a latency of an executor. -/
def pending (s : ServiceSystem) (i : Nat) : Nat :=
  s.threads.countP fun thread => thread.1 = i

/-- The session of an executor that is not there yet, that is gone, or that lives. -/
def SessionOf (p : Promises) (q : ServiceSession) (n : Nat) : Option (Option ServedExecutor) → Prop
  | none => q = {} ∧ n = 0
  | some none => Ended p n q
  | some (some e) => Follows p e n q

/-- What an executor has said is accepted, and its session is the right one. -/
def Kept (p : Promises) (s : ServiceSystem) (i : Nat) : Prop :=
  ∃ q, reads ServiceSession.nextOf {} (s.saidBy i) = some q ∧ Meets p s.api q ∧
    SessionOf p q (s.pending i) s.executors[i]?

/-- What an event has to bring along: a model is only unloaded where there is a configuration
with its id. -/
structure Relies (p : Promises) (event : EventEnv × ServiceEvent) : Prop where
  party : ∀ said req, Relied p req (event.1.party said req)
  config : p.models → event.1.env.executor.createConfig = true

/-- What is said for an executor is heard in its name. -/
theorem saidBy_append (said : List ServiceExchange) :
    saidBy { s with said := s.said ++ said.map fun e => (some i, e) } i = s.saidBy i ++ said := by
  have hown : (said.map fun e => (some i, e)).filter (fun entry => entry.1 = some i)
      = said.map fun e => (some i, e) := by
    refine List.filter_eq_self.mpr fun entry hentry => ?_
    obtain ⟨e, -, rfl⟩ := List.mem_map.mp hentry
    exact decide_eq_true rfl
  unfold saidBy
  rw [List.filter_append, hown, List.map_append, List.map_map]
  exact congrArg _ (List.map_id said)

theorem saidBy_append_of_ne {owner : Option Nat} (said : List ServiceExchange)
    (h : owner ≠ some j) :
    saidBy { s with said := s.said ++ said.map fun e => (owner, e) } j = s.saidBy j := by
  have hother : (said.map fun e => (owner, e)).filter (fun entry => entry.1 = some j) = [] := by
    refine List.filter_eq_nil_iff.mpr fun entry hentry => ?_
    obtain ⟨e, -, rfl⟩ := List.mem_map.mp hentry
    exact fun heq => h (of_decide_eq_true heq)
  unfold saidBy
  rw [List.filter_append, hother, List.append_nil]

/-- An executor that nothing was done to. -/
theorem Kept.frame (h : Kept p s i) (hgrown : Grown p s.api s'.api)
    (hsaid : s'.saidBy i = s.saidBy i) (hpending : s'.pending i = s.pending i)
    (hexecutor : s'.executors[i]? = s.executors[i]?) : Kept p s' i := by
  obtain ⟨q, hreads, hmeets, hsession⟩ := h
  refine ⟨q, ?_, hmeets.grow hgrown, ?_⟩
  · rw [hsaid]
    exact hreads
  · rw [hpending, hexecutor]
    exact hsession

theorem Kept.grown (h : Kept p s i) : Grown p s.api s.api := by
  obtain ⟨q, -, hmeets, -⟩ := h
  exact ⟨.refl _, hmeets.consistent, hmeets.paired⟩

/-! ## One event -/

/-- What is done for one executor leaves the others, and what was said, alone. -/
structure Owned (i : Nat) (s s' : ServiceSystem) : Prop where
  api : s'.api = s.api
  said : s'.said = s.said
  executors : ∀ j, j ≠ i → s'.executors[j]? = s.executors[j]?
  pending : ∀ j, j ≠ i → s'.pending j = s.pending j

/-- How an event may end the process. -/
inductive Fails (s : ServiceSystem) : ServiceEvent → ServiceFault → Prop
  /-- What an executor does beside talking to the service. -/
  | fault (event : ServiceEvent) (f : Fault) : Fails s event (.fault f)
  | build (k : Nat) (compilerSize : Except Fault UInt64)
    (built : Bool → Option (NNCompiler TensorDesc × UInt64)) :
    Fails s (.build k compilerSize built) (.nullFunction .pullUpDlliteService)
  | deinitModel {i : Nat} (mode : String) (hgone : s.executor? i = none) :
    Fails s (.deinitModel i mode) .freedExecutor
  | latencyThread {k i : Nat} {latency : Int32} (hthread : s.threads[k]? = some (i, latency))
    (hgone : s.executor? i = none) : Fails s (.latencyThread k) .freedConfig

/-- How an event ends. -/
def Safe (p : Promises) (s : ServiceSystem) (event : ServiceEvent) :
    Except ServiceFault ServiceSystem → Prop
  | .error fault => Fails s event fault
  | .ok s' => ∀ i, Kept p s' i

/-- What the executor does beside talking to the service may end any event. -/
theorem fails_fault {event : ServiceEvent} {fault : ServiceFault} (h : ∃ f, fault = .fault f) :
    Fails s event fault := by
  obtain ⟨f, rfl⟩ := h
  exact .fault event f

/-- **The step of one executor**: what it says is accepted from where its session is, and
what is done with the result makes the new session the right one. -/
theorem safe_ask {α : Type} {event : ServiceEvent} {party : ServiceParty} {m : ServiceM α}
    {next : α → ServiceSystem → ServiceSystem} {post : α → ServiceSession → Prop}
    {fail : ServiceFault → Prop} (hfail : ∀ {fault}, fail fault → Fails s event fault)
    (hkept : ∀ j, Kept p s j) (hparty : ∀ said req, Relied p req (party said req))
    (hserves : ∀ q, Meets p s.api q → SessionOf p q (s.pending i) s.executors[i]? →
      Asking.Obeys (fun _ => Relied p) ServiceSession.nextOf fail
        (fun a api' q' => Meets p api' q' ∧ s.api.Grows api' ∧ post a q') m s.api q)
    (hnext : ∀ a t, t.executors = s.executors → t.threads = s.threads → Owned i t (next a t) ∧
      ∀ q, post a q → SessionOf p q ((next a t).pending i) (next a t).executors[i]?) :
    Safe p s event (s.ask (some i) party m next) := by
  obtain ⟨q, hreads, hmeets, hsession⟩ := hkept i
  obtain ⟨q', hreads', hend⟩ := (hserves q hmeets hsession).run fun said _ _ => hparty said
  unfold ask
  cases hrun : m.run party s.api with
  | mk said out =>
    rw [hrun] at hreads' hend
    cases out with
    | error fault => exact hfail hend
    | ok result =>
      obtain ⟨a, api⟩ := result
      obtain ⟨hmeets', hgrows, hpost⟩ := hend
      obtain ⟨howned, hsession'⟩ := hnext a
        { s with api := api, said := s.said ++ said.map fun e => (some i, e) } rfl rfl
      intro j
      by_cases hj : j = i
      · subst hj
        refine ⟨q', ?_, ?_, hsession' q' hpost⟩
        · unfold saidBy
          rw [howned.said]
          refine (congrArg _ (saidBy_append said)).trans ?_
          rw [Dialogue.reads_append, hreads]
          exact hreads'
        · rw [howned.api]
          exact hmeets'
      · refine (hkept j).frame ?_ ?_ (howned.pending j hj) (howned.executors j hj)
        · rw [howned.api]
          exact ⟨hgrows, hmeets'.consistent, hmeets'.paired⟩
        · unfold saidBy
          rw [howned.said]
          exact saidBy_append_of_ne said fun heq => hj (Option.some.inj heq).symm

/-- Another state of the same executor. -/
theorem owned_setExecutor (s : ServiceSystem) (i : Nat) (e : Option ServedExecutor) (w : World) :
    Owned i s { s.setExecutor i e with world := w } where
  api := rfl
  said := rfl
  executors _ hj := List.getElem?_set_ne hj.symm
  pending _ _ := rfl

theorem executors_of_executor? {e : ServedExecutor} (h : s.executor? i = some e) :
    s.executors[i]? = some (some e) :=
  Option.join_eq_some_iff.mp h

theorem SessionOf.follows {e : ServedExecutor} {q : ServiceSession}
    (h : SessionOf p q n s.executors[i]?) (he : s.executors[i]? = some (some e)) :
    Follows p e n q := by
  rw [he] at h
  exact h

/-- An executor that is to come has said nothing. -/
theorem SessionOf.unborn {q : ServiceSession}
    (h : SessionOf p q n s.executors[s.executors.length]?) : q = {} ∧ n = 0 := by
  rw [List.getElem?_eq_none (Nat.le_refl _)] at h
  exact h

theorem setExecutor_self {e : ServedExecutor} (h : s.executors[i]? = some (some e))
    (e' : Option ServedExecutor) : (s.setExecutor i e').executors[i]? = some e' := by
  obtain ⟨hi, -⟩ := List.getElem?_eq_some_iff.mp h
  exact List.getElem?_set_self hi

/-- A run leaves the executor and, if there is a latency, a thread more. -/
theorem owned_afterRun (out : ReturnCode × ServedExecutor × World × Option Int32)
    (s : ServiceSystem) (i : Nat) : Owned i s (afterRun i out s) where
  api := rfl
  said := rfl
  executors _ hj := List.getElem?_set_ne hj.symm
  pending j hj := by
    obtain ⟨ret, e, w, latency⟩ := out
    refine (List.countP_append).trans ?_
    cases latency with
    | none => rfl
    | some latency => exact congrArg _ (List.countP_cons_of_neg (by simpa using hj.symm))

theorem pending_afterRun (out : ReturnCode × ServedExecutor × World × Option Int32)
    (s : ServiceSystem) (i : Nat) :
    (afterRun i out s).pending i = s.pending i + out.2.2.2.toList.length := by
  obtain ⟨ret, e, w, latency⟩ := out
  refine (List.countP_append).trans ?_
  cases latency with
  | none => rfl
  | some latency => exact congrArg _ (List.countP_cons_of_pos (by simp))

/-- A thread that is done. -/
theorem pending_eraseIdx {k : Nat} {latency : Int32} (h : s.threads[k]? = some (i, latency))
    (j : Nat) : s.pending j =
      { s with threads := s.threads.eraseIdx k }.pending j + (if i = j then 1 else 0) := by
  obtain ⟨hk, hget⟩ := List.getElem?_eq_some_iff.mp h
  have hsplit : s.threads = s.threads.take k ++ (i, latency) :: s.threads.drop (k + 1) := by
    rw [← hget, List.getElem_cons_drop, List.take_append_drop]
  unfold pending
  dsimp only
  rw [List.eraseIdx_eq_take_drop_succ, List.countP_append]
  conv_lhs => rw [hsplit]
  rw [List.countP_append, List.countP_cons, ← Nat.add_assoc]
  simp only [decide_eq_true_eq]

theorem pending_congr (h : s'.threads = s.threads) (i : Nat) : s'.pending i = s.pending i := by
  unfold pending
  rw [h]

theorem getElem?_append_singleton_of_ne {α : Type} {l : List α} {a : α} {j : Nat}
    (h : j ≠ l.length) : (l ++ [a])[j]? = l[j]? := by
  rcases Nat.lt_or_gt_of_ne h with hlt | hgt
  · exact List.getElem?_append_left hlt
  · rw [List.getElem?_eq_none (Nat.le_of_lt hgt), List.getElem?_eq_none]
    rw [List.length_append]
    exact hgt

theorem sessionOf_afterRun {out : ReturnCode × ServedExecutor × World × Option Int32}
    {e : ServedExecutor} {q : ServiceSession} (h : s.executors[i]? = some (some e))
    (hq : Follows p out.2.1 (s.pending i + out.2.2.2.toList.length) q) :
    SessionOf p q ((afterRun i out s).pending i) (afterRun i out s).executors[i]? := by
  change SessionOf p q _ (s.setExecutor i (some out.2.1)).executors[i]?
  rw [setExecutor_self h, pending_afterRun]
  exact hq

theorem sessionOf_setExecutor {t : ServiceSystem} {e : ServedExecutor}
    {e' : Option ServedExecutor} {q : ServiceSession} {w : World}
    (he : s.executors[i]? = some (some e)) (hexecutors : t.executors = s.executors)
    (hthreads : t.threads = s.threads) (hq : SessionOf p q (s.pending i) (some e')) :
    SessionOf p q ({ t.setExecutor i e' with world := w }.pending i)
      { t.setExecutor i e' with world := w }.executors[i]? := by
  change SessionOf p q (t.pending i) (t.setExecutor i e').executors[i]?
  rw [setExecutor_self (hexecutors ▸ he), pending_congr hthreads]
  exact hq

/-- A thread less of an executor that is gone. -/
theorem SessionOf.fewer {executor : Option (Option ServedExecutor)} {q : ServiceSession}
    (hgone : executor.join = none) (h : SessionOf p q (n + 1) executor) :
    SessionOf p q n executor := by
  cases executor with
  | none => exact absurd h.2 (Nat.succ_ne_zero n)
  | some executor =>
    cases executor with
    | none => exact ⟨h.ids, h.callbacks, h.unloaded, (Nat.le_succ _).trans h.latency⟩
    | some e => cases hgone

section Events

variable {env : EventEnv} (hkept : ∀ i, Kept p s i)
  (hparty : ∀ said req, Relied p req (env.party said req))

include hkept hparty

theorem safe_build (k : Nat) (compilerSize : Except Fault UInt64)
    (built : Bool → Option (NNCompiler TensorDesc × UInt64)) :
    Safe p s (.build k compilerSize built) (s.step (env, .build k compilerSize built)) := by
  unfold step
  dsimp only
  split
  · exact hkept
  rename_i c hc
  obtain ⟨_, -, hend⟩ := (c.builds_buildService (hkept 0).grown).run fun said _ _ => hparty said
  unfold ask
  cases hrun : (c.buildService compilerSize).run env.party s.api with
  | mk said out =>
    rw [hrun] at hend
    cases out with
    | error fault =>
      obtain ⟨f, rfl⟩ | rfl := hend
      · exact .fault _ f
      · exact .build k compilerSize built
    | ok result => exact fun i => (hkept i).frame hend (saidBy_append_of_ne said nofun) rfl rfl

theorem safe_construct (hconfig : p.models → env.env.executor.createConfig = true) (k : Nat)
    (backend created : Bool) (executorid : UInt64) :
    Safe p s (.construct k backend created executorid)
      (s.step (env, .construct k backend created executorid)) := by
  unfold step
  dsimp only
  split
  · exact hkept
  split
  · exact hkept
  refine safe_ask fails_fault hkept hparty (fun q hmeets hsession => by
    obtain ⟨rfl, -⟩ := hsession.unborn
    exact ServedExecutor.serves_construct hmeets hconfig) ?_
  rintro ⟨e, c, w⟩ t ht hthreads
  have hpending : t.pending s.executors.length = 0 := by
    obtain ⟨q, -, -, hsession⟩ := hkept s.executors.length
    exact (pending_congr hthreads _).trans hsession.unborn.2
  dsimp only
  refine ⟨⟨rfl, rfl, fun j hj => ?_, fun _ _ => rfl⟩, fun q hq => ?_⟩
  · dsimp only
    rw [ht]
    exact getElem?_append_singleton_of_ne hj
  · change SessionOf p q (t.pending s.executors.length) (t.executors ++ [e])[s.executors.length]?
    rw [ht, hpending, List.getElem?_concat_length]
    cases e with
    | none => exact hq.2 rfl
    | some e => exact hq.1 e rfl

theorem safe_runSync (i : Nat) (reloadEnv : ReloadEnv) (clock : ServedExecutor.Clock)
    (inputTensors outputTensors : List (Option Nat)) :
    Safe p s (.runSync i reloadEnv clock inputTensors outputTensors)
      (s.step (env, .runSync i reloadEnv clock inputTensors outputTensors)) := by
  unfold step
  dsimp only
  split
  · exact hkept
  rename_i e he
  have he := executors_of_executor? he
  refine safe_ask fails_fault hkept hparty
    (fun q hmeets hsession => ServedExecutor.serves_coreRunSync hmeets (hsession.follows he))
    fun out t ht hthreads => ⟨owned_afterRun out t i, fun q hq => ?_⟩
  exact sessionOf_afterRun (ht ▸ he) (pending_congr hthreads i ▸ hq)

theorem safe_runSyncWithAipp (i : Nat) (reloadEnv : ReloadEnv) (clock : ServedExecutor.Clock)
    (inputTensors outputTensors : List (Option Nat)) (aippString : String) :
    Safe p s (.runSyncWithAipp i reloadEnv clock inputTensors outputTensors aippString)
      (s.step (env, .runSyncWithAipp i reloadEnv clock inputTensors outputTensors aippString)) := by
  unfold step
  dsimp only
  split
  · exact hkept
  rename_i e he
  have he := executors_of_executor? he
  refine safe_ask fails_fault hkept hparty
    (fun q hmeets hsession => ServedExecutor.serves_coreRunSyncWithAipp hmeets (hsession.follows he))
    fun out t ht hthreads => ⟨owned_afterRun out t i, fun q hq => ?_⟩
  exact sessionOf_afterRun (ht ▸ he) (pending_congr hthreads i ▸ hq)

theorem safe_deinitModel (i : Nat) (mode : String) :
    Safe p s (.deinitModel i mode) (s.step (env, .deinitModel i mode)) := by
  unfold step
  dsimp only
  split
  · rename_i hgone
    exact .deinitModel mode hgone
  rename_i e he
  have he := executors_of_executor? he
  refine safe_ask fails_fault hkept hparty
    (fun q hmeets hsession => ServedExecutor.serves_deinitModel hmeets (hsession.follows he))
    fun out t ht hthreads => ⟨owned_setExecutor t i _ t.world, fun q hq => ?_⟩
  exact sessionOf_setExecutor he ht hthreads hq

theorem safe_autoUnload (i : Nat) : Safe p s (.autoUnload i) (s.step (env, .autoUnload i)) := by
  unfold step
  dsimp only
  split
  · exact hkept
  rename_i e he
  have he := executors_of_executor? he
  refine safe_ask fails_fault hkept hparty
    (fun q hmeets hsession => ServedExecutor.serves_autoUnload hmeets (hsession.follows he))
    fun e' t ht hthreads => ⟨owned_setExecutor t i _ t.world, fun q hq => ?_⟩
  exact sessionOf_setExecutor he ht hthreads hq

/-- A thread of an executor that is gone is accounted for as well. -/
theorem safe_latencyThread (k : Nat) :
    Safe p s (.latencyThread k) (s.step (env, .latencyThread k)) := by
  unfold step
  dsimp only
  split
  · exact hkept
  rename_i i modelLatency hk
  have hpending := pending_eraseIdx hk
  have hone : s.pending i = { s with threads := s.threads.eraseIdx k }.pending i + 1 :=
    (hpending i).trans (congrArg _ (if_pos rfl))
  have howned : ∀ t : ServiceSystem, t.executors = s.executors → t.threads = s.threads →
      Owned i t { t with threads := t.threads.eraseIdx k } := by
    intro t ht hthreads
    refine ⟨rfl, rfl, fun _ _ => rfl, fun j hj => ?_⟩
    rw [pending_congr hthreads, hpending j, if_neg hj.symm]
    exact pending_congr (congrArg (List.eraseIdx · k) hthreads) j
  have hnext : ∀ (t : ServiceSystem) (q : ServiceSession), t.executors = s.executors →
      t.threads = s.threads →
      SessionOf p q ({ s with threads := s.threads.eraseIdx k }.pending i) s.executors[i]? →
      SessionOf p q ({ t with threads := t.threads.eraseIdx k }.pending i) t.executors[i]? := by
    intro t q ht hthreads hq
    rw [ht, pending_congr (s := { s with threads := s.threads.eraseIdx k })
      (congrArg (List.eraseIdx · k) hthreads)]
    exact hq
  cases he : s.executor? i with
  | none =>
    have hfreed : ∀ {fault}, fault = ServiceFault.freedConfig → Fails s (.latencyThread k) fault := by
      rintro fault rfl
      exact .latencyThread hk he
    refine safe_ask hfreed hkept hparty
      (fun q hmeets hsession => ServedExecutor.obeys_updateModelLatency hmeets |>.mono
        (fun _ => id) fun _ _ q' h => ⟨h.1, h.2.1, ?_⟩)
      fun _ t ht hthreads => ⟨howned t ht hthreads, fun q hq => hnext t q ht hthreads hq⟩
    rw [h.2.2]
    exact (hone ▸ hsession).fewer he
  | some e =>
    have he := executors_of_executor? he
    refine safe_ask fails_fault hkept hparty (fun q hmeets hsession =>
      ServedExecutor.serves_updateModelLatency hmeets (hone ▸ hsession.follows he))
      fun _ t ht hthreads => ⟨howned t ht hthreads, fun q hq => hnext t q ht hthreads ?_⟩
    rw [he]
    exact hq

theorem safe_destroy (i : Nat) (backend : Bool) :
    Safe p s (.destroy i backend) (s.step (env, .destroy i backend)) := by
  unfold step
  dsimp only
  split
  · exact hkept
  rename_i e he
  have he := executors_of_executor? he
  split
  · exact hkept
  refine safe_ask fails_fault hkept hparty
    (fun q hmeets hsession => ServedExecutor.serves_close hmeets (hsession.follows he).closing)
    fun w t ht hthreads => ⟨owned_setExecutor t i none w, fun q hq => ?_⟩
  exact sessionOf_setExecutor he ht hthreads hq

end Events

/-- A call that leaves the service alone leaves the session where it is. -/
theorem safe_call {env : EventEnv} (hkept : ∀ i, Kept p s i) (i : Nat)
    (c : { c : ExecutorCall // c.isLocal }) : Safe p s (.call i c) (s.step (env, .call i c)) := by
  unfold step
  dsimp only
  split
  · exact hkept
  rename_i e he
  have he := executors_of_executor? he
  split
  · exact .fault _ _
  rename_i ret executor w hperform
  have howned := owned_setExecutor s i (some { e with executor := executor }) w
  intro j
  by_cases hj : j = i
  · subst hj
    obtain ⟨q, hreads, hmeets, hsession⟩ := hkept j
    rw [he] at hsession
    refine ⟨q, hreads, hmeets, ?_⟩
    change SessionOf p q (s.pending j) (s.setExecutor j _).executors[j]?
    rw [setExecutor_self he]
    exact Follows.setExecutor hsession (NNExecutor.perform_config c.2 hperform)
  · exact (hkept j).frame (hkept j).grown rfl (howned.pending j hj) (howned.executors j hj)

/-- **The step lemma**: an event keeps what holds of every executor, and calls a null function
in a build only. -/
theorem step_safe {event : EventEnv × ServiceEvent} (hkept : ∀ i, Kept p s i)
    (hrelies : Relies p event) : Safe p s event.2 (s.step event) := by
  obtain ⟨env, event⟩ := event
  obtain ⟨hparty, hconfig⟩ := hrelies
  cases event with
  | user w => exact fun i => (hkept i).frame (hkept i).grown rfl rfl rfl
  | compilation c => exact fun i => (hkept i).frame (hkept i).grown rfl rfl rfl
  | build k compilerSize built => exact safe_build hkept hparty k compilerSize built
  | construct k backend created executorid =>
    exact safe_construct hkept hparty hconfig k backend created executorid
  | runSync i reloadEnv clock inputTensors outputTensors =>
    exact safe_runSync hkept hparty i reloadEnv clock inputTensors outputTensors
  | runSyncWithAipp i reloadEnv clock inputTensors outputTensors aippString =>
    exact safe_runSyncWithAipp hkept hparty i reloadEnv clock inputTensors outputTensors aippString
  | call i c => exact safe_call hkept i c
  | deinitModel i mode => exact safe_deinitModel hkept hparty i mode
  | autoUnload i => exact safe_autoUnload hkept hparty i
  | latencyThread k => exact safe_latencyThread hkept hparty k
  | destroy i backend => exact safe_destroy hkept hparty i backend

/-! ## Runs -/

theorem kept_empty (p : Promises) (i : Nat) : Kept p {} i :=
  ⟨{}, rfl, ⟨⟨nofun, nofun⟩, ⟨nofun, nofun, nofun⟩, nofun, nofun, nofun⟩, rfl, rfl⟩

variable {events : List (EventEnv × ServiceEvent)}

/-- **The run lemma.** -/
theorem run_kept (hrelies : ∀ event ∈ events, Relies p event) (h : Run.exec step {} events = .ok s)
    (i : Nat) : Kept p s i := by
  refine Run.exec_invariant_of_meets (P := fun s => ∀ i, Kept p s i)
    (C := fun _ event => Relies p event) (fun s event s' hkept hrelies hstep => ?_)
    (kept_empty p) (Run.meets_of_forall _ hrelies) h i
  have hsafe := step_safe hkept hrelies
  rw [hstep] at hsafe
  exact hsafe

/-- A service that promises nothing is one for every event. -/
theorem relies_nothing (event : EventEnv × ServiceEvent) : Relies .nothing event where
  party said req := by
    cases req with
    | dlopen => trivial
    | dlsym => exact ⟨False.elim, False.elim, False.elim⟩
    | call c =>
      cases c with
      | unSetDeinitModelCallBack => exact False.elim
      | unSetHiaiModelCallBack => exact False.elim
      | unload => exact False.elim
      | _ => trivial
  config := False.elim

end ServiceSystem

end NNRt
