import NNRt.Backend.BackendManager
import NNRt.Lib.Run

/-!
# A compilation and the backend that compiles it

A compilation remembers the id of its backend, not the backend. Every call looks
the id up again, so what it finds depends on the registry at that time.

- `Session`: the registry and one compilation; `Event`: what can happen to them.
- `Stable`: creating an executor and destroying the compiler go to the backend
  that has created the compiler.
- `stable_iff`: a session stays stable iff every event keeps the lookup.
-/

namespace NNRt

/-- A compiler, with the backend whose `CreateCompiler` made it. -/
structure CompilerObject where
  object : Nat
  creator : Backend
  deriving DecidableEq, Repr

/-- `Compilation`, as far as the choice of the backend depends on it; of the
sources of a model, whether they are set. -/
structure Compilation where
  backendID : UInt64 := 0
  nnModel : Bool := false
  offlineModelPath : Bool := false
  offlineModelBuffer : Bool := false
  compiler : Option CompilerObject := none
  deriving DecidableEq, Repr

/-- The four ways to construct a compilation. -/
inductive ModelSource
  | model | offlineModelFile | offlineModelBuffer | cache
  deriving DecidableEq, Repr

/-- `OH_NNCompilation_Construct` and its three siblings. -/
def Compilation.construct : ModelSource → Compilation
  | .model => { nnModel := true }
  | .offlineModelFile => { offlineModelPath := true }
  | .offlineModelBuffer => { offlineModelBuffer := true }
  | .cache => {}

/-- What backend, compiler and services answer to `OH_NNCompilation_Build`. -/
structure BuildAnswers where
  /-- `CreateCompiler` of the backend; `none` is a null pointer. -/
  compiler : Option Nat := some 0
  /-- The code of the steps on the compiler: options, authentication, `Build`
  and the model id. -/
  rest : ReturnCode := .success

/-- What backend and services answer to `OH_NNExecutor_Construct`. -/
structure ConstructAnswers where
  /-- `CreateExecutor` of the backend. -/
  executor : Option Nat := some 0
  getModelID : ReturnCode := .success
  executorPrepare : ReturnCode := .success

namespace Compilation

/-- `OH_NNCompilation_SetDevice`; `none` is a null handle. -/
def setDevice (compilation : Option Compilation) (deviceID : UInt64) :
    ReturnCode × Option Compilation :=
  match compilation with
  | none => (.invalidParameter, none)
  | some c => (.success, some { c with backendID := deviceID })

/-- `IsCompilationAvaliable`. -/
def isCompilationAvaliable (c : Compilation) : ReturnCode :=
  if (c.nnModel && c.offlineModelPath) || (c.nnModel && c.offlineModelBuffer) ||
      (c.offlineModelPath && c.offlineModelBuffer) then .invalidParameter
  else if c.compiler.isSome then .invalidParameter
  else .success

/-- `CreateCompiler`. -/
def createCompiler (m : BackendManager) (c : Compilation) (answer : Option Nat) :
    ReturnCode × Option CompilerObject :=
  match m.getBackend c.backendID with
  | none => (.failed, none)
  | some backend =>
    match answer with
    | none => (.failed, none)
    | some object => (.success, some { object := object, creator := backend })

/-- `OH_NNCompilation_Build`, which stores the compiler before it uses it. -/
def build (m : BackendManager) (compilation : Option Compilation) (answers : BuildAnswers) :
    ReturnCode × Option Compilation :=
  match compilation with
  | none => (.invalidParameter, none)
  | some c =>
    if c.isCompilationAvaliable ≠ .success then (c.isCompilationAvaliable, some c)
    else
      let (ret, compiler) := createCompiler m c answers.compiler
      if ret ≠ .success then (ret, some c)
      -- The steps on the compiler may fail; it is stored all the same.
      else (answers.rest, some { c with compiler := compiler })

/-- `OH_NNExecutor_Construct`: the executor, and the backend whose
`CreateExecutor` is called with which compiler. -/
def executorConstruct (m : BackendManager) (compilation : Option Compilation)
    (answers : ConstructAnswers) :
    Option Nat × Option (Backend × Option CompilerObject) :=
  match compilation with
  | none => (none, none)
  | some c =>
    match m.getBackend c.backendID with
    | none => (none, none)
    | some backend =>
      match answers.executor with
      | none => (none, some (backend, c.compiler))
      | some executor =>
        if answers.getModelID ≠ .success ∨ answers.executorPrepare ≠ .success then
          (none, some (backend, c.compiler))
        else (some executor, some (backend, c.compiler))

/-- `OH_NNCompilation_Destroy`: the handle it leaves, and the backend whose
`DestroyCompiler` is called with which compiler. -/
def destroy (m : BackendManager) (compilation : Option Compilation) (destroyCompiler : ReturnCode) :
    Option Compilation × Option (Backend × CompilerObject) :=
  match compilation with
  | none => (none, none)
  | some c =>
    match c.compiler with
    | none => (none, none)
    | some compiler =>
      match m.getBackend c.backendID with
      | none => (some c, none)
      | some backend =>
        if destroyCompiler ≠ .success then (some c, some (backend, compiler))
        else (none, some (backend, compiler))

end Compilation

/-- The registry and one compilation. -/
structure Session where
  manager : BackendManager
  compilation : Option Compilation

namespace Session

/-- What can happen to a registry and a compilation. -/
inductive Event
  | registry (call : BackendManager.Call)
  | setDevice (deviceID : UInt64)
  | build (answers : BuildAnswers)
  | executorConstruct (answers : ConstructAnswers)
  | destroy (destroyCompiler : ReturnCode)

/-- One event; none of them faults. -/
def step (s : Session) : Event → Except Fault Session
  | .registry call => .ok { s with manager := s.manager.perform call }
  | .setDevice deviceID =>
    .ok { s with compilation := (Compilation.setDevice s.compilation deviceID).2 }
  | .build answers =>
    .ok { s with compilation := (Compilation.build s.manager s.compilation answers).2 }
  | .executorConstruct _ => .ok s
  | .destroy code =>
    .ok { s with compilation := (Compilation.destroy s.manager s.compilation code).1 }

/-- The session's compiler, once there is one. -/
def compiler? (s : Session) : Option CompilerObject :=
  s.compilation.bind Compilation.compiler

/-- The backend that has created the compiler is the one that is used to create
executors from it and to destroy it. -/
def Stable (s : Session) : Prop :=
  ∀ k, s.compiler? = some k →
    (∀ answers, (Compilation.executorConstruct s.manager s.compilation answers).2 =
      some (k.creator, some k)) ∧
    ∀ code, (Compilation.destroy s.manager s.compilation code).2 = some (k.creator, k)

/-- An event leaves the lookup of a compiled compilation where it is. -/
def KeepsLookup (m : BackendManager) (c : Compilation) (k : CompilerObject) : Event → Prop
  -- The new id is the backend's own, or 0 while the backend is first in the map.
  | .setDevice deviceID =>
    (deviceID = 0 ∧ m.backends.first? = some (k.creator.backendID, k.creator)) ∨
      (deviceID ≠ 0 ∧ deviceID = k.creator.backendID)
  -- For the default id, a backend that is registered does not come first in the map.
  | .registry (.registerBackend _ creator place) =>
    c.backendID = 0 → ∀ backend, m.Registers creator backend →
      (m.backends.emplace backend.backendID backend place.backends).first? = m.backends.first?
  | .registry (.removeBackend name) => k.creator.backendID ∉ m.idsOf name
  | _ => True

/-- What an event must respect once the session has a compiler. -/
def Keeps (s : Session) (event : Event) : Prop :=
  ∀ c k, s.compilation = some c → c.compiler = some k → KeepsLookup s.manager c k event

/-! ## Lookups -/

open BackendManager (Consistent)

variable {m : BackendManager} {id : UInt64} {b : Backend}

/-- Where a lookup finds a backend. -/
theorem getBackend_eq_some_iff (h : Consistent m) :
    m.getBackend id = some b ↔
      (id = 0 ∧ m.backends.first? = some (b.backendID, b)) ∨
        (id ≠ 0 ∧ id = b.backendID ∧ m.backends.lookup id = some b) := by
  by_cases hid : id = 0
  · subst hid
    have hfirst : m.getBackend 0 = m.backends.first?.map Prod.snd := by
      unfold BackendManager.getBackend
      by_cases hempty : m.backends.entries.isEmpty = true
      · rw [if_pos hempty, UnorderedMap.first?_eq_none_iff.mpr (List.isEmpty_iff.mp hempty)]
        rfl
      · rw [if_neg hempty, if_pos rfl]
    rw [hfirst, Option.map_eq_some_iff]
    constructor
    · rintro ⟨⟨key, backend⟩, hkey, rfl⟩
      rw [h.own_id key backend (UnorderedMap.lookup_of_first? hkey)]
      exact .inl ⟨rfl, hkey⟩
    · rintro (⟨-, hb⟩ | ⟨hne, -⟩)
      · exact ⟨_, hb, rfl⟩
      · exact absurd rfl hne
  · rw [m.getBackend_eq_lookup hid]
    constructor
    · intro hlookup
      exact .inr ⟨hid, (h.own_id id b hlookup).symm, hlookup⟩
    · rintro (⟨rfl, -⟩ | ⟨-, -, hlookup⟩)
      · exact absurd rfl hid
      · exact hlookup

/-- A backend that is found is registered under its own id. -/
theorem lookup_of_getBackend (h : Consistent m) (hb : m.getBackend id = some b) :
    m.backends.lookup b.backendID = some b := by
  rcases (getBackend_eq_some_iff h).mp hb with ⟨-, hfirst⟩ | ⟨-, heq, hlookup⟩
  · exact UnorderedMap.lookup_of_first? hfirst
  · exact heq ▸ hlookup

/-- A registration keeps what is found under an id, unless the id is 0 and the new
backend comes first in the map. -/
theorem getBackend_register_iff (h : Consistent m) (hb : m.getBackend id = some b)
    (name : String) (creator : Option Backend) (place : Placement) :
    (m.perform (.registerBackend name creator place)).getBackend id = some b ↔
      (id = 0 → ∀ backend, m.Registers creator backend →
        (m.backends.emplace backend.backendID backend place.backends).first? =
          m.backends.first?) := by
  show (m.registerBackend name creator place).2.getBackend id = some b ↔ _
  obtain ⟨backend, hreg, heq⟩ | ⟨hnone, code, -, heq⟩ := m.registerBackend_cases name creator place
  · rw [heq]
    have hnew : Consistent (m.insertBackend name backend place) := h.insertBackend hreg.2.2.1
    rw [getBackend_eq_some_iff hnew]
    rcases (getBackend_eq_some_iff h).mp hb with ⟨rfl, hfirst⟩ | ⟨hne, hid, hlookup⟩
    · -- The default id: the two maps begin with the same entry.
      rw [hfirst]
      constructor
      · rintro (⟨-, hfirst'⟩ | ⟨hne, -⟩)
        · rintro - backend' ⟨hcreator, -⟩
          obtain rfl : backend = backend' := Option.some.inj (hreg.1.symm.trans hcreator)
          exact hfirst'
        · exact absurd rfl hne
      · intro hkeep
        exact .inl ⟨rfl, hkeep rfl backend hreg⟩
    · -- An explicit id is in the map already, so the new one is another.
      have hother : id ≠ backend.backendID := by
        rintro rfl
        refine hreg.2.2.1 ((h.mem_backends _).mp ?_)
        rw [← AList.lookup_isSome, hlookup]
        rfl
      refine ⟨fun _ hzero => absurd hzero hne, fun _ => .inr ⟨hne, hid, ?_⟩⟩
      rw [show (m.insertBackend name backend place).backends.lookup id = _ from
        UnorderedMap.lookup_emplace_other hother]
      exact hlookup
  · rw [heq]
    exact ⟨fun _ _ backend hreg => absurd hreg (hnone backend), fun _ => hb⟩

/-- A removal keeps what is found unless it removes it. -/
theorem getBackend_remove_iff (h : Consistent m) (hb : m.getBackend id = some b) (name : String) :
    (m.removeBackend name).getBackend id = some b ↔ b.backendID ∉ m.idsOf name := by
  constructor
  · intro hafter hmem
    have hlookup := lookup_of_getBackend h.removeBackend hafter
    rw [m.removeBackend_eq, show _ = _ from UnorderedMap.lookup_eraseAll _ _ _,
      if_pos hmem] at hlookup
    cases hlookup
  · intro hnot
    rw [getBackend_eq_some_iff h.removeBackend]
    rcases (getBackend_eq_some_iff h).mp hb with ⟨rfl, hfirst⟩ | ⟨hne, rfl, hlookup⟩
    · refine .inl ⟨rfl, ?_⟩
      rw [m.removeBackend_eq]
      exact UnorderedMap.first?_eraseAll hfirst hnot
    · refine .inr ⟨hne, rfl, ?_⟩
      rw [(BackendManager.lookup_removeBackend hnot).1]
      exact hlookup

/-! ## Sessions -/

variable {s s' : Session} {c : Compilation} {k : CompilerObject}

/-- A compilation's calls use the backend its id is looked up as. -/
theorem stable_iff_lookup :
    Stable s ↔ ∀ c k, s.compilation = some c → c.compiler = some k →
      s.manager.getBackend c.backendID = some k.creator := by
  constructor
  · -- Destroying the compilation goes to the backend that the id finds.
    intro h c k hc hk
    have hcompiler : s.compiler? = some k := by
      unfold compiler?
      rw [hc]
      exact hk
    have huse := (h k hcompiler).2 .success
    unfold Compilation.destroy at huse
    rw [hc] at huse
    dsimp only at huse
    rw [hk] at huse
    dsimp only at huse
    cases hb : s.manager.getBackend c.backendID with
    | none =>
      rw [hb] at huse
      cases huse
    | some backend =>
      rw [hb] at huse
      cases huse
      rfl
  · intro h k hcompiler
    obtain ⟨c, hc, hk⟩ := Option.bind_eq_some_iff.mp hcompiler
    have hb := h c k hc hk
    constructor
    · intro answers
      unfold Compilation.executorConstruct
      rw [hc]
      dsimp only
      rw [hb]
      dsimp only
      rw [hk]
      split
      · rfl
      · split <;> rfl
    · intro code
      unfold Compilation.destroy
      rw [hc]
      dsimp only
      rw [hk]
      dsimp only
      rw [hb]
      dsimp only
      split <;> rfl

/-- Every event keeps the registry consistent. -/
theorem consistent_step {event : Event} (h : Consistent s.manager) (hs : s.step event = .ok s') :
    Consistent s'.manager := by
  cases event <;> cases hs
  case registry call => exact h.perform call
  all_goals exact h

/-- Where no compilation has a compiler, there is nothing to keep. -/
theorem stable_and_keeps_of_none {event : Event} (hk : ∀ c, s.compilation = some c →
    c.compiler = none) (hafter : Stable s') : Stable s' ↔ Keeps s event := by
  refine ⟨fun _ c k hc hcompiler => ?_, fun _ => hafter⟩
  rw [hk c hc] at hcompiler
  cases hcompiler

/-- The lookup after an event that leaves the compilation's compiler in place. -/
theorem stable_iff_getBackend (hc : s.compilation = some c) (hk : c.compiler = some k) :
    Stable s ↔ s.manager.getBackend c.backendID = some k.creator := by
  rw [stable_iff_lookup]
  refine ⟨fun h => h c k hc hk, ?_⟩
  rintro h c' k' hc' hk'
  obtain rfl : c = c' := Option.some.inj (hc.symm.trans hc')
  obtain rfl : k = k' := Option.some.inj (hk.symm.trans hk')
  exact h

/-- `Keeps` for the compiler there is. -/
theorem keeps_iff {event : Event} (hc : s.compilation = some c) (hk : c.compiler = some k) :
    Keeps s event ↔ KeepsLookup s.manager c k event := by
  constructor
  · intro h
    exact h c k hc hk
  · intro h c' k' hc' hk'
    obtain rfl : c = c' := Option.some.inj (hc.symm.trans hc')
    obtain rfl : k = k' := Option.some.inj (hk.symm.trans hk')
    exact h

/-- A built compilation is refused by `Build`. -/
theorem build_of_built (hk : c.compiler = some k) (answers : BuildAnswers) :
    (Compilation.build m (some c) answers).2 = some c := by
  have hnot : c.isCompilationAvaliable ≠ .success := by
    unfold Compilation.isCompilationAvaliable
    rw [hk]
    split
    · decide
    · rw [if_pos Option.isSome_some]
      decide
  unfold Compilation.build
  dsimp only
  rw [if_pos hnot]

/-- The compiler that `Build` stores is of the backend the id is looked up as. -/
theorem build_creator {answers : BuildAnswers} {c' : Compilation} (hk : c.compiler = none)
    (h : (Compilation.build m (some c) answers).2 = some c') (hk' : c'.compiler = some k) :
    m.getBackend c'.backendID = some k.creator := by
  unfold Compilation.build at h
  dsimp only at h
  split at h
  · cases h
    rw [hk] at hk'
    cases hk'
  · unfold Compilation.createCompiler at h
    cases hb : m.getBackend c.backendID with
    | none =>
      rw [hb] at h
      cases h
      rw [hk] at hk'
      cases hk'
    | some backend =>
      rw [hb] at h
      cases hanswer : answers.compiler with
      | none =>
        rw [hanswer] at h
        cases h
        rw [hk] at hk'
        cases hk'
      | some object =>
        rw [hanswer] at h
        cases h
        cases hk'
        exact hb

/-- Destroying takes the handle, or leaves it as it was. -/
theorem destroy_of_built (hk : c.compiler = some k)
    (hb : m.getBackend c.backendID = some b) (code : ReturnCode) :
    (Compilation.destroy m (some c) code).1 = some c ∨
      (Compilation.destroy m (some c) code).1 = none := by
  unfold Compilation.destroy
  dsimp only
  rw [hk]
  dsimp only
  rw [hb]
  dsimp only
  split
  · exact .inl rfl
  · exact .inr rfl

/-- Without a handle every event leaves no handle. -/
theorem stable_of_noHandle {event : Event} (hc : s.compilation = none)
    (hs : s.step event = .ok s') : Stable s' := by
  rw [stable_iff_lookup]
  intro c' k' hc'
  have hnone : s'.compilation = none := by
    cases event <;> cases hs <;> (try exact hc)
    all_goals
      dsimp only
      rw [hc]
      rfl
  rw [hnone] at hc'
  cases hc'

/-- Without a compiler the only one there can be afterwards is a new one. -/
theorem stable_of_noCompiler {event : Event} (hc : s.compilation = some c)
    (hk : c.compiler = none) (hs : s.step event = .ok s') : Stable s' := by
  rw [stable_iff_lookup]
  intro c' k' hc' hk'
  cases event with
  | registry call =>
    cases hs
    obtain rfl : c = c' := Option.some.inj (hc.symm.trans hc')
    rw [hk] at hk'
    cases hk'
  | setDevice deviceID =>
    cases hs
    dsimp only at hc'
    rw [hc] at hc'
    cases hc'
    rw [show _ = none from hk] at hk'
    cases hk'
  | build answers =>
    cases hs
    dsimp only at hc'
    rw [hc] at hc'
    exact build_creator hk hc' hk'
  | executorConstruct answers =>
    cases hs
    obtain rfl : c = c' := Option.some.inj (hc.symm.trans hc')
    rw [hk] at hk'
    cases hk'
  | destroy code =>
    cases hs
    unfold Compilation.destroy at hc'
    rw [hc] at hc'
    dsimp only at hc'
    rw [hk] at hc'
    cases hc'

/-- An event keeps a stable session stable exactly when it keeps the lookup. -/
theorem stable_step_iff {event : Event} (hm : Consistent s.manager) (hstable : Stable s)
    (hs : s.step event = .ok s') : Stable s' ↔ Keeps s event := by
  cases hc : s.compilation with
  | none =>
    refine stable_and_keeps_of_none (fun c h => ?_) (stable_of_noHandle hc hs)
    rw [hc] at h
    cases h
  | some c =>
    cases hk : c.compiler with
    | none =>
      refine stable_and_keeps_of_none (fun c' h => ?_) (stable_of_noCompiler hc hk hs)
      obtain rfl : c = c' := Option.some.inj (hc.symm.trans h)
      exact hk
    | some k =>
      have hb : s.manager.getBackend c.backendID = some k.creator :=
        (stable_iff_getBackend hc hk).mp hstable
      rw [keeps_iff hc hk]
      cases event with
      | registry call =>
        cases hs
        rw [stable_iff_getBackend (s := { s with manager := s.manager.perform call }) hc hk]
        cases call with
        | registerBackend name creator place =>
          exact getBackend_register_iff hm hb name creator place
        | removeBackend name => exact getBackend_remove_iff hm hb name
      | setDevice deviceID =>
        cases hs
        have hnew : ({ s with compilation := (Compilation.setDevice s.compilation deviceID).2 } :
            Session).compilation = some { c with backendID := deviceID } := by
          dsimp only
          rw [hc]
          rfl
        rw [stable_iff_getBackend hnew hk]
        have hlookup := lookup_of_getBackend hm hb
        rw [getBackend_eq_some_iff hm]
        refine or_congr Iff.rfl (and_congr_right fun _ => ?_)
        refine ⟨And.left, fun heq => ⟨heq, ?_⟩⟩
        show s.manager.backends.lookup deviceID = some k.creator
        rw [heq]
        exact hlookup
      | build answers =>
        cases hs
        refine ⟨fun _ => trivial, fun _ => (stable_iff_getBackend (k := k) ?_ hk).mpr hb⟩
        show (Compilation.build s.manager s.compilation answers).2 = some c
        rw [hc]
        exact build_of_built hk answers
      | executorConstruct answers =>
        cases hs
        exact ⟨fun _ => trivial, fun _ => hstable⟩
      | destroy code =>
        cases hs
        refine ⟨fun _ => trivial, fun _ => ?_⟩
        rw [stable_iff_lookup]
        intro c' k' hc' hk'
        dsimp only at hc'
        rw [hc] at hc'
        rcases destroy_of_built hk hb code with hleft | hgone
        · rw [hleft] at hc'
          cases hc'
          obtain rfl : k = k' := Option.some.inj (hk.symm.trans hk')
          exact hb
        · rw [hgone] at hc'
          cases hc'

/-- A registry with some history and a new compilation. -/
def start (registered : List BackendManager.Call) (source : ModelSource) : Session where
  manager := BackendManager.performAll {} registered
  compilation := some (Compilation.construct source)

theorem start_stable (registered : List BackendManager.Call) (source : ModelSource) :
    Stable (start registered source) := by
  rw [stable_iff_lookup]
  intro c k hc hk
  cases hc
  cases source <;> cases hk

/-- No event faults. -/
theorem exec_ok (s : Session) (events : List Event) : ∃ s', Run.exec step s events = .ok s' := by
  induction events generalizing s with
  | nil => exact ⟨s, rfl⟩
  | cons event events ih =>
    rw [Run.exec]
    cases event <;> exact ih _

/-- **The backend of a compilation**: after every history of the registry, for a
compilation of any kind and every interleaving of its calls with changes of the
registry, the compiler's creator is used throughout iff every event keeps the
lookup. -/
theorem stable_iff (registered : List BackendManager.Call) (source : ModelSource)
    (events : List Event) :
    (∀ before, before <+: events → ∀ t,
      Run.exec step (start registered source) before = .ok t → Stable t) ↔
      Run.Meets step Keeps (start registered source) events := by
  obtain ⟨s', hs'⟩ := exec_ok (start registered source) events
  exact Run.prefixes_iff_meets (I := fun s => Consistent s.manager)
    (fun s event s' h hs => consistent_step h hs)
    (fun s event s' h hstable hs => stable_step_iff h hstable hs)
    (Consistent.empty.performAll registered) (start_stable registered source) hs'

/-- A registry of one backend. -/
def oneBackend : List BackendManager.Call :=
  [.registerBackend "cpu" (some { object := 0, backendID := 1 }) {}]

/-- A second backend is registered after the build of a compilation with the
default id; it is the one to create executors and to destroy the compiler. -/
theorem other_backend_used :
    ∃ t, Run.exec step (start oneBackend .model)
        [.build {}, .registry (.registerBackend "npu" (some { object := 1, backendID := 2 }) {})] =
          .ok t ∧
      t.compiler? = some { object := 0, creator := { object := 0, backendID := 1 } } ∧
      (Compilation.executorConstruct t.manager t.compilation {}).2.map Prod.fst =
        some { object := 1, backendID := 2 } ∧
      (Compilation.destroy t.manager t.compilation .success).2.map Prod.fst =
        some { object := 1, backendID := 2 } := by
  exact ⟨_, rfl, by decide, by decide, by decide⟩

end Session

end NNRt
